import Guidebook.Document.Basic
import Guidebook.Proofs.Document.Readers

namespace Guidebook.Document

/-- What one line of a document does: the records it adds, and the step that is open behind it and
behind what it takes along. -/
def lineStep (step : Option Text) (l : Text) (c : Cursor) : (List Record × Option Text) × Cursor :=
  if Text.allBlank l || isComment l then (([], step), c)
  else if isSeparator l then ((closing step, none), c)
  else match Field.ofText? (Text.trimStart l) with
    | none => (([], step), c)
    | some f =>
      match Keyword.ofKey? f.key with
      | some .step =>
        let v := readValue (indent l) f.value c
        ((closing step ++ [.step (oneLine v.1)], some []), v.2)
      | some .description =>
        let v := readValue (indent l) f.value c
        (([], step.map fun _ => v.1), v.2)
      | some .list =>
        let r := readEntries (indent l) none c
        ((within step r.1, step), r.2)
      | some .single =>
        let r := readOnly (indent l) .empty false c
        ((within step (r.1.toList.map Draft.suggestion), step), r.2)
      | none =>
        match Chomp.ofValue? f.value with
        | some m => (([], step), (readBlock m (indent l) c).2)
        | none => (([], step), c)

theorem recordsFrom_end (step : Option Text) {c : Cursor} (h : c.upcoming = []) :
    recordsFrom step c = closing step := by
  rw [recordsFrom]
  split
  · rfl
  · rename_i l d ht
    rw [Cursor.upcoming_take? ht] at h
    cases h

theorem recordsFrom_take? (step : Option Text) {c d : Cursor} {l : Text}
    (h : c.take? = some (l, d)) :
    recordsFrom step c =
      (lineStep step l d).1.1 ++ recordsFrom (lineStep step l d).1.2 (lineStep step l d).2 := by
  rw [recordsFrom]
  split
  · simp_all
  · rename_i l' d' h'
    obtain ⟨rfl, rfl⟩ : l = l' ∧ d = d' := by simpa [h] using h'
    unfold lineStep
    split
    · rfl
    split
    · rfl
    cases Field.ofText? (Text.trimStart l) with
    | none => rfl
    | some f =>
      cases hk : Keyword.ofKey? f.key with
      | none => cases hm : Chomp.ofValue? f.value <;> simp [hk, hm]
      | some k => cases k <;> simp [hk]

theorem lineStep_within (step : Option Text) (l : Text) :
    Within (indent l) (lineStep step l) := by
  unfold lineStep
  split
  · exact Within.pure ..
  split
  · exact Within.pure ..
  cases Field.ofText? (Text.trimStart l) with
  | none => exact Within.pure ..
  | some f =>
    cases hk : Keyword.ofKey? f.key with
    | none =>
      cases hm : Chomp.ofValue? f.value with
      | none =>
        simp only [hk, hm]
        exact Within.pure ..
      | some m =>
        simp only [hk, hm]
        exact (readBlock_local m _).within.map fun _ => _
    | some k =>
      cases k with
      | step =>
        simp only [hk]
        exact (readValue_within ..).map fun v => (closing step ++ [.step (oneLine v)], some [])
      | description =>
        simp only [hk]
        exact (readValue_within ..).map fun v => ([], step.map fun _ => v)
      | list =>
        simp only [hk]
        exact (readEntries_local ..).within.map fun r => (Document.within step r, step)
      | single =>
        simp only [hk]
        exact (readOnly_local ..).within.map fun r =>
          (Document.within step (r.toList.map Draft.suggestion), step)

theorem lineStep_shorter (step : Option Text) {c d : Cursor} {l : Text}
    (h : c.take? = some (l, d)) : (lineStep step l d).2.upcoming.length < c.upcoming.length :=
  Nat.lt_of_le_of_lt ((lineStep_within step l).shorter d) (Cursor.length_take? h)

end Guidebook.Document
