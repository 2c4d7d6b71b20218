import Guidebook.Guide.Basic
import Guidebook.Proofs.Record.Grammar
import Mathlib.Algebra.GroupWithZero.Nat

namespace Guidebook

/-- The steps take a table piece by piece, from one place to another, without a gap. -/
def Tiles : Nat → List Step → Nat → Prop
  | a, [], b => a = b
  | a, s :: ss, b => s.start = a ∧ Tiles (a + s.len) ss b

namespace Tiles

variable {a b c : Nat} {ss ts : List Step}

theorem append (h : Tiles a ss b) (ht : Tiles b ts c) : Tiles a (ss ++ ts) c := by
  induction ss generalizing a with
  | nil => exact (show a = b from h) ▸ ht
  | cons s ss ih => exact ⟨h.1, ih h.2⟩

theorem total (h : Tiles a ss b) : a + (ss.map Step.len).sum = b := by
  induction ss generalizing a with
  | nil => exact h
  | cons s ss ih =>
    have hs := ih h.2
    rw [List.map_cons, List.sum_cons]
    omega

theorem start_eq (h : Tiles a ss b) (i : Nat) (hi : i < ss.length) :
    ss[i].start = a + ((ss.take i).map Step.len).sum := by
  induction ss generalizing a i with
  | nil => simp at hi
  | cons s ss ih =>
    cases i with
    | zero => simpa using h.1
    | succ i =>
      have hs := ih h.2 i (by simpa using hi)
      simp only [List.getElem_cons_succ, hs, List.take_succ_cons, List.map_cons, List.sum_cons]
      omega

theorem bounds (h : Tiles a ss b) {s : Step} (hs : s ∈ ss) : s.start + s.len ≤ b := by
  induction ss generalizing a with
  | nil => simp at hs
  | cons t ss ih =>
    rcases List.mem_cons.mp hs with rfl | hm
    · have ht := total h.2
      have ha := h.1
      omega
    · exact ih h.2 hm

end Tiles

namespace Guide

/-- The slice of the table that a step owns. -/
def slice (g : Guide) (s : Step) : List Suggestion := (g.suggestions.drop s.start).take s.len

/-- The numbers of the steps. -/
def numbers (g : Guide) : List Nat := List.range' 1 g.stepCount

/-- Every suggestion belongs to exactly one step, in the order of the steps. -/
def Tiled (g : Guide) : Prop := Tiles 0 g.steps g.suggestions.length

theorem step?_of_mem_numbers (g : Guide) {i : Nat} (hi : i ∈ g.numbers) :
    ∃ s ∈ g.steps, g.step? i = some s := by
  obtain ⟨h1, hn⟩ := List.mem_range'_1.mp hi
  cases i with
  | zero => omega
  | succ i =>
    have hlt : i < g.steps.length := by simpa [stepCount, Nat.add_comm] using hn
    exact ⟨g.steps[i], List.getElem_mem hlt, List.getElem?_eq_getElem hlt⟩

theorem filterMap_numbers {α : Type} (g : Guide) (f : Nat → Option α) (h : Step → α)
    (hf : ∀ i s, g.step? i = some s → f i = some (h s)) :
    g.numbers.filterMap f = g.steps.map h := by
  have hm : g.numbers.map f = g.steps.map fun s => some (h s) := by
    apply List.ext_getElem
    · simp [numbers, stepCount]
    · intro i hi hj
      have hlt : i < g.steps.length := by simpa using hj
      have hs : g.step? (i + 1) = some g.steps[i] := List.getElem?_eq_getElem hlt
      simp [numbers, Nat.add_comm 1, hf _ _ hs]
  have hid : (g.numbers.map f).filterMap id = g.steps.map h := by
    rw [hm, List.filterMap_map]
    exact congrFun List.filterMap_eq_map g.steps
  simpa [List.filterMap_map] using hid

/-- What the tables say of a step. -/
def section? (g : Guide) (i : Nat) : Option Section :=
  (g.step? i).map fun s => ⟨s.title, g.suggestionsOf i, s.description⟩

def sections (g : Guide) : List Section := g.numbers.filterMap g.section?

/-- The stream that says what the tables say. -/
def records (g : Guide) : List Record := g.sections.flatMap Section.records

theorem suggestionsOf_eq {g : Guide} {i : Nat} {s : Step} (h : g.step? i = some s) :
    g.suggestionsOf i = g.slice s := by
  rw [suggestionsOf, h]
  rfl

theorem sections_eq (g : Guide) :
    g.sections = g.steps.map fun s => ⟨s.title, g.slice s, s.description⟩ := by
  apply filterMap_numbers
  intro i s h
  rw [section?, suggestionsOf_eq h, h, Option.map_some]

theorem suggestionsOf_numbers (g : Guide) :
    g.numbers.map g.suggestionsOf = g.steps.map g.slice := by
  rw [← g.filterMap_numbers (fun i => some (g.suggestionsOf i)) g.slice
    fun i s h => congrArg some (suggestionsOf_eq h), List.filterMap_eq_map']

theorem slices_of_tiles (g : Guide) {a b : Nat} {ss : List Step} (h : Tiles a ss b) :
    ss.flatMap g.slice = (g.suggestions.take b).drop a := by
  induction ss generalizing a with
  | nil =>
    have hab : a = b := h
    simp [hab]
  | cons s ss ih =>
    have ht := h.2.total
    have hs : s.start = a := h.1
    have hcut : (g.suggestions.take b).drop a =
        (g.suggestions.drop a).take s.len ++ (g.suggestions.take b).drop (a + s.len) := by
      rw [List.drop_take, List.drop_take, ← List.drop_drop, ← List.take_add]
      congr 1
      omega
    rw [List.flatMap_cons, ih h.2, hcut, slice, hs]

theorem slices_of_tiled {g : Guide} (h : g.Tiled) : g.steps.flatMap g.slice = g.suggestions := by
  rw [g.slices_of_tiles h, List.take_length, List.drop_zero]

end Guide

end Guidebook
