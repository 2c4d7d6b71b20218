import Guidebook.Message
import Guidebook.Proofs.Guide.Progress
import Guidebook.Proofs.Guide.Tables
import Guidebook.Proofs.Pager.Pages

namespace Guidebook

namespace Checked

/-- A sum, unless it is too large for a number. -/
def sum? (a b : Nat) : Option Nat := if a + b < Text.numberBound then some (a + b) else none

/-- A product, unless it is too large for a number. -/
def product? (a b : Nat) : Option Nat := if a * b < Text.numberBound then some (a * b) else none

/-- A difference, unless it is below zero. -/
def difference? (a b : Nat) : Option Nat := if b ≤ a then some (a - b) else none

/-- The items from one place up to another, unless these are no places of the list. -/
def part? {α : Type} (xs : List α) (a b : Nat) : Option (List α) :=
  if a ≤ b ∧ b ≤ xs.length then some ((xs.drop a).take (b - a)) else none

/-- The items from one place up to another under their numbers, each looked up by itself. -/
def items? {α : Type} (xs : List α) (a b : Nat) : Option (List (α × Nat)) :=
  (List.range' a (b - a)).mapM fun k => do return (← xs[k]?, ← sum? k 1)

theorem sum?_eq {a b : Nat} (h : a + b < Text.numberBound) : sum? a b = some (a + b) := if_pos h

theorem product?_eq {a b : Nat} (h : a * b < Text.numberBound) : product? a b = some (a * b) :=
  if_pos h

theorem difference?_eq {a b : Nat} (h : b ≤ a) : difference? a b = some (a - b) := if_pos h

theorem items?_eq {α : Type} {xs : List α} (hx : xs.length < Text.numberBound) {a b : Nat}
    (hb : b ≤ xs.length) : items? xs a b = some (Message.slice a b xs) := by
  rw [items?, Message.slice]
  generalize hn : b - a = n
  induction n generalizing a with
  | zero => simp
  | succ n ih =>
    have ha : a < xs.length := by omega
    have hd : (xs.zipIdx 1).drop a = (xs[a], a + 1) :: (xs.zipIdx 1).drop (a + 1) := by
      rw [List.drop_eq_getElem_cons (by simpa using ha), List.getElem_zipIdx, Nat.add_comm]
    rw [List.range'_succ, List.mapM_cons, List.getElem?_eq_getElem ha, sum?_eq (by omega),
      ih (by omega), hd]
    rfl

end Checked

open Checked

namespace Pager

variable (p : Pager)

def lastPage? (total : Nat) : Option Nat :=
  if total % p.size = 0 then some (max (total / p.size) 1)
  else (sum? (total / p.size) 1).map (max · 1)

def clamp? (page total : Nat) : Option Nat := do
  let last ← p.lastPage? total
  if 1 ≤ last then some (min (max page 1) last) else none

def visible? (page total : Nat) : Option (Nat × Nat) := do
  let first := min (← product? (← difference? (← p.clamp? page total) 1) p.size) total
  return (first, min (← sum? first p.size) total)

theorem lastPage?_eq {total : Nat} (ht : total < Text.numberBound) :
    p.lastPage? total = some (p.lastPage total) := by
  have hs := p.pos
  have hd := Nat.div_add_mod' total p.size
  have hr := Nat.mod_lt total hs
  rw [lastPage?, lastPage]
  split
  · next h0 =>
    have he : (total + p.size - 1) / p.size = total / p.size :=
      Nat.div_eq_of_lt_le (by omega) (by rw [Nat.succ_mul]; omega)
    rw [he]
  · next h0 =>
    have he : (total + p.size - 1) / p.size = total / p.size + 1 :=
      Nat.div_eq_of_lt_le (by rw [Nat.succ_mul]; omega) (by rw [Nat.succ_mul, Nat.succ_mul]; omega)
    have hq : total / p.size ≤ total / p.size * p.size := Nat.le_mul_of_pos_right _ hs
    rw [sum?_eq (by omega), he]
    rfl

theorem clamp?_eq (page : Nat) {total : Nat} (ht : total < Text.numberBound) :
    p.clamp? page total = some (p.clamp page total) := by
  rw [clamp?, p.lastPage?_eq ht]
  exact if_pos (p.lastPage_pos total)

theorem visible?_eq (page : Nat) {total : Nat} (hs : p.size < Text.numberBound)
    (ht : 2 * total ≤ Text.numberBound) : p.visible? page total = some (p.visible page total) := by
  obtain ⟨hf, hb⟩ := p.ends_lt page total hs ht
  have hn : 0 < Text.numberBound := by decide
  rw [visible?, p.clamp?_eq page (by omega)]
  simp only [Option.bind_eq_bind, Option.bind_some, difference?_eq (p.clamp_pos page total),
    product?_eq hf, sum?_eq hb, visible, Nat.mod_eq_of_lt hb]
  rfl

end Pager

namespace Guide

/-- A guide that fits into numbers: its tables leave room, and the slices of its steps lie within
them. -/
structure Bounded (g : Guide) : Prop where
  steps : g.stepCount < Text.numberBound
  suggestions : 2 * g.suggestions.length < Text.numberBound
  slices : ∀ i s, g.step? i = some s → s.start + s.len ≤ g.suggestions.length

theorem Bounded.later {g h : Guide} (hg : g.Bounded) (hl : Later g h) : h.Bounded := by
  refine ⟨by rw [hl.stepCount]; exact hg.steps, by rw [hl.suggestions]; exact hg.suggestions, ?_⟩
  intro i s hs
  have hp := hl.plan_step? i
  rw [hs, Option.map_some, eq_comm, Option.map_eq_some_iff] at hp
  obtain ⟨t, ht, hts⟩ := hp
  have hstart : t.plan.start = s.plan.start := by rw [hts]
  have hlen : t.plan.len = s.plan.len := by rw [hts]
  rw [hl.suggestions]
  exact hstart ▸ hlen ▸ hg.slices i t ht

theorem Bounded.length_suggestionsOf {g : Guide} (hg : g.Bounded) (i : Nat) :
    2 * (g.suggestionsOf i).length < Text.numberBound := by
  have hl : (g.suggestionsOf i).length ≤ g.suggestions.length := by
    rw [suggestionsOf]
    split
    · exact Nat.zero_le _
    · exact Nat.le_trans (List.length_take_le' ..) (by simp)
  exact Nat.lt_of_le_of_lt (Nat.mul_le_mul_left 2 hl) hg.suggestions

/-- The tables of a guide are no longer than the list of records that it comes from. -/
theorem bounded_of_ofRecords {rs : List Record} {g : Guide} (h : ofRecords rs = .ok g)
    (hr : 2 * rs.length < Text.numberBound) : g.Bounded := by
  have hk := keeps_of_ofRecords h
  have hsteps : g.stepCount ≤ rs.length := by
    have := congrArg List.length hk.titles
    rw [List.length_map] at this
    rw [stepCount, this]
    exact List.length_filterMap_le ..
  have hsuggestions : g.suggestions.length ≤ rs.length := by
    rw [hk.suggestions]
    exact List.length_filterMap_le ..
  refine ⟨by omega, by omega, fun i s hs => ?_⟩
  have hi : i ∈ g.numbers := by
    by_contra hn
    rw [step?_eq_none hn] at hs
    cases hs
  obtain ⟨t, ht, hb⟩ := hk.inRange i hi
  rw [hs, Option.some.injEq] at ht
  rwa [ht]

theorem stepCount_pos_of_ofRecords {rs : List Record} {g : Guide} (h : ofRecords rs = .ok g) :
    1 ≤ g.stepCount := by
  obtain ⟨xs, hne, rfl⟩ := isStream_of_ofRecords h
  rw [ofRecords_groups hne, Except.ok.injEq] at h
  rw [← h, stepCount_ofGroups]
  exact List.length_pos_iff.mpr hne

def suggestionsOf? (g : Guide) (i : Nat) : Option (List Suggestion) :=
  match g.step? i with
  | none => some []
  | some s => do part? g.suggestions s.start (← sum? s.start s.len)

theorem suggestionsOf?_eq {g : Guide} (hg : g.Bounded) (i : Nat) :
    g.suggestionsOf? i = some (g.suggestionsOf i) := by
  rw [suggestionsOf?, suggestionsOf]
  cases h : g.step? i with
  | none => rfl
  | some s =>
    have hl := hg.slices i s h
    have hb := hg.suggestions
    simp [sum?_eq (show s.start + s.len < Text.numberBound by omega), part?, hl]

end Guide

end Guidebook
