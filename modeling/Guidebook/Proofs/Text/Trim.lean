import Guidebook.Text.Basic
import Mathlib.Data.List.DropRight

namespace Guidebook.Text

theorem trimEnd_prefix (t : Text) : trimEnd t <+: t := List.rdropWhile_prefix isBlank (l := t)

theorem trimStart_suffix (t : Text) : trimStart t <:+ t := List.dropWhile_suffix _

theorem mem_of_mem_trim {c : Char} {t : Text} (h : c ∈ trim t) : c ∈ t := by
  have hc : c ∈ trimStart t := List.IsPrefix.subset (Text.trimEnd_prefix _) h
  exact (trimStart_suffix t).subset hc

/-- Only blanks are cut off. -/
theorem mem_trimEnd {c : Char} {t : Text} (h : c ∈ t) (hc : isBlank c = false) : c ∈ trimEnd t := by
  rw [← List.rdropWhile_append_rtakeWhile (p := isBlank) (l := t)] at h
  rcases List.mem_append.mp h with h | h
  · exact h
  · rw [List.mem_rtakeWhile_imp h] at hc
    cases hc

/-- A text that begins with no blank begins with none when it is cut off. -/
theorem trimStart_of_prefix {t u : Text} (h : t <+: u) (hu : trimStart u = u) :
    trimStart t = t := by
  cases t with
  | nil => rfl
  | cons c cs =>
    obtain ⟨rest, rfl⟩ := h
    have hc : ¬isBlank c := List.dropWhile_eq_self_iff.mp hu (by simp)
    exact List.dropWhile_cons_of_neg hc

theorem trim_trim (t : Text) : trim (trim t) = trim t := by
  have hs : trimStart (trimStart t) = trimStart t := List.dropWhile_idempotent ..
  have ht : trimStart (trim t) = trim t := trimStart_of_prefix (Text.trimEnd_prefix _) hs
  calc trim (trim t) = trimEnd (trim t) := by rw [trim, ht]
    _ = trim t := List.rdropWhile_idempotent isBlank (trimStart t)

theorem trimStart_of_trim {t : Text} (h : trim t = t) : trimStart t = t := by
  have hs : trimStart (trimStart t) = trimStart t := List.dropWhile_idempotent ..
  have ht : trim t <+: trimStart t := trimEnd_prefix (trimStart t)
  rw [h] at ht
  exact trimStart_of_prefix ht hs

theorem trim_trimStart (t : Text) : trim (trimStart t) = trim t := by
  have hs : trimStart (trimStart t) = trimStart t := List.dropWhile_idempotent ..
  rw [trim, hs, trim]

theorem trim_of_notBlank {t : Text} (h : ∀ c ∈ t, isBlank c = false) : trim t = t := by
  have hs : trimStart t = t := List.dropWhile_eq_self_iff.mpr fun _ => by
    rw [h _ (List.getElem_mem _)]
    exact Bool.false_ne_true
  have he : trimEnd t = t := List.rdropWhile_eq_self_iff.mpr fun _ => by
    rw [h _ (List.getLast_mem _)]
    exact Bool.false_ne_true
  rw [trim, hs, he]

/-- A text is what is left of it and blanks. -/
theorem exists_blanks (t : Text) : ∃ w, t = trimEnd t ++ w ∧ ∀ c ∈ w, isBlank c = true :=
  ⟨t.rtakeWhile isBlank, List.rdropWhile_append_rtakeWhile.symm, fun _ hc => List.mem_rtakeWhile_imp hc⟩

theorem trimEnd_append_of_blank {w : Text} (h : ∀ c ∈ w, isBlank c = true) (t : Text) :
    trimEnd (t ++ w) = trimEnd t := by
  have hw : ∀ c ∈ w.reverse, isBlank c = true := by simpa using h
  rw [trimEnd, List.reverse_append, List.dropWhile_append_of_pos hw, trimEnd]

/-- Blanks at the end of the second of two texts are blanks at the end of both. -/
theorem trimEnd_append (t u : Text) : trimEnd (t ++ trimEnd u) = trimEnd (t ++ u) := by
  obtain ⟨w, hu, hw⟩ := exists_blanks u
  calc trimEnd (t ++ trimEnd u) = trimEnd (t ++ trimEnd u ++ w) := (trimEnd_append_of_blank hw _).symm
    _ = trimEnd (t ++ u) := by rw [List.append_assoc, ← hu]

theorem trimStart_append {t : Text} (h : ¬∀ c ∈ t, isBlank c = true) (u : Text) :
    trimStart (t ++ u) = trimStart t ++ u := by
  rw [trimStart, List.dropWhile_append, if_neg (by simpa using h), trimStart]

theorem trim_append_of_blank {w : Text} (h : ∀ c ∈ w, isBlank c = true) (t : Text) :
    trim (t ++ w) = trim t := by
  by_cases ht : ∀ c ∈ t, isBlank c = true
  · have hall : ∀ c ∈ t ++ w, isBlank c = true := List.forall_mem_append.mpr ⟨ht, h⟩
    rw [trim, trim, trimStart, trimStart, List.dropWhile_eq_nil_iff.mpr ht,
      List.dropWhile_eq_nil_iff.mpr hall]
  · rw [trim, trimStart_append ht, trimEnd_append_of_blank h, trim]

theorem trim_trimEnd (t : Text) : trim (trimEnd t) = trim t := by
  obtain ⟨w, ht, hw⟩ := exists_blanks t
  calc trim (trimEnd t) = trim (trimEnd t ++ w) := (trim_append_of_blank hw _).symm
    _ = trim t := by rw [← ht]

theorem trimEnd_congr {u v : Text} (h : trimEnd u = trimEnd v) (t : Text) :
    trimEnd (t ++ u) = trimEnd (t ++ v) := by
  rw [← trimEnd_append, h, trimEnd_append]

theorem trim_congr {t u : Text} (h : trimEnd t = trimEnd u) : trim t = trim u := by
  rw [← trim_trimEnd, h, trim_trimEnd]

theorem trimEnd_of_trim {t : Text} (h : trim t = t) : trimEnd t = t := by
  rw [← h]
  exact List.rdropWhile_idempotent isBlank (trimStart t)

end Guidebook.Text
