import Guidebook.Proofs.Guide.Tiling
import Mathlib.Data.List.Basic

namespace Guidebook

/-- A step as it was before anybody had done it. -/
def Step.plan (s : Step) : Step := { s with status := .todo }

namespace Guide

variable {g h k : Guide} {i j : Nat}

theorem mem_numbers : i ∈ g.numbers ↔ 1 ≤ i ∧ i ≤ g.stepCount := by
  rw [numbers, List.mem_range'_1]
  omega

theorem step?_eq_none (h : i ∉ g.numbers) : g.step? i = none := by
  cases i with
  | zero => rfl
  | succ i =>
    rw [mem_numbers, stepCount] at h
    exact List.getElem?_eq_none (by omega)

/-- There is a step of this number, and it is done. -/
def isDoneAt (g : Guide) (i : Nat) : Bool := (g.step? i).any Step.isDone

/-- The steps that a guide asks for are those that are not done. -/
theorem mem_pending : i ∈ g.pending ↔ i ∈ g.numbers ∧ ¬ g.isDoneAt i := by
  have hp : i ∈ g.pending ↔ ∃ s, g.step? i = some s ∧ ¬ s.isDone := by
    cases i with
    | zero => simp [pending, step?]
    | succ i => simp [pending, step?, List.mem_zipIdx_iff_getElem?]
  rw [hp]
  constructor
  · rintro ⟨s, hs, hd⟩
    refine ⟨?_, by simpa [isDoneAt, hs] using hd⟩
    by_contra hn
    simp [step?_eq_none hn] at hs
  · rintro ⟨hm, hd⟩
    obtain ⟨s, -, hs⟩ := g.step?_of_mem_numbers hm
    exact ⟨s, hs, by simpa [isDoneAt, hs] using hd⟩

@[simp]
theorem suggestions_markDone (g : Guide) (j : Nat) :
    (g.markDone j).suggestions = g.suggestions := by
  cases j <;> rfl

@[simp]
theorem stepCount_markDone (g : Guide) (j : Nat) : (g.markDone j).stepCount = g.stepCount := by
  cases j <;> simp [markDone, stepCount]

theorem step?_markDone (g : Guide) (i j : Nat) :
    (g.markDone j).step? i =
      if i = j then (g.step? i).map fun s => { s with status := .done } else g.step? i := by
  cases i with
  | zero => simp [step?]
  | succ i =>
    cases j with
    | zero => simp [markDone]
    | succ j => by_cases hi : i = j <;> simp [step?, markDone, hi, eq_comm]

theorem isDoneAt_markDone (g : Guide) (i j : Nat) :
    (g.markDone j).isDoneAt i ↔ g.isDoneAt i ∨ j = i ∧ i ∈ g.numbers := by
  rw [isDoneAt, isDoneAt, step?_markDone]
  by_cases hm : i ∈ g.numbers
  · obtain ⟨s, -, hs⟩ := g.step?_of_mem_numbers hm
    rw [hs]
    by_cases hi : i = j
    · subst hi
      simp [hm, Step.isDone]
    · simp [hi, Ne.symm hi]
  · simp [step?_eq_none hm, hm]

/-- The second guide comes from the first one by doing steps. -/
structure Later (g h : Guide) : Prop where
  suggestions : h.suggestions = g.suggestions
  plans : h.steps.map Step.plan = g.steps.map Step.plan
  done : ∀ i, g.isDoneAt i → h.isDoneAt i

namespace Later

theorem refl (g : Guide) : Later g g := ⟨rfl, rfl, fun _ h => h⟩

theorem trans (hgh : Later g h) (hhk : Later h k) : Later g k :=
  ⟨hhk.suggestions.trans hgh.suggestions, hhk.plans.trans hgh.plans,
    fun i hi => hhk.done i (hgh.done i hi)⟩

theorem markDone (g : Guide) (j : Nat) : Later g (g.markDone j) := by
  refine ⟨suggestions_markDone g j, ?_, fun i hi => (isDoneAt_markDone g i j).mpr (.inl hi)⟩
  cases j with
  | zero => rfl
  | succ j =>
    have hplan : Step.plan ∘ (fun s : Step => { s with status := .done }) = Step.plan := rfl
    apply List.ext_getElem?
    intro k
    by_cases hk : j = k <;> simp [Guide.markDone, hk, hplan]

theorem stepCount (hgh : Later g h) : h.stepCount = g.stepCount := by
  simpa [Guide.stepCount] using congrArg List.length hgh.plans

theorem plan_step? (hgh : Later g h) (i : Nat) :
    (h.step? i).map Step.plan = (g.step? i).map Step.plan := by
  cases i with
  | zero => rfl
  | succ i => simpa [step?] using congrArg (·[i]?) hgh.plans

theorem suggestionsOf (hgh : Later g h) (i : Nat) : h.suggestionsOf i = g.suggestionsOf i := by
  have slices (g : Guide) : g.suggestionsOf i =
      (((g.step? i).map Step.plan).map g.slice).getD [] := by
    rw [Guide.suggestionsOf]
    cases g.step? i <;> rfl
  have hs : h.slice = g.slice := by
    funext s
    rw [slice, slice, hgh.suggestions]
  rw [slices, slices, hgh.plan_step?, hs]

end Later

end Guide

end Guidebook
