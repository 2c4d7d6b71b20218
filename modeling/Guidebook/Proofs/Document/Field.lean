import Guidebook.Document.Line
import Guidebook.Proofs.Text.Lines
import Guidebook.Proofs.Text.Trim

namespace Guidebook

namespace Text

theorem eq_append_of_cut? {c : Char} {t a b : Text} (h : cut? c t = some (a, b)) :
    t = a ++ c :: b := by
  induction t generalizing a with
  | nil => simp [cut?] at h
  | cons d ds ih =>
    rw [cut?] at h
    split at h
    · obtain ⟨rfl, rfl⟩ : [] = a ∧ ds = b := by simpa using h
      simp_all
    · obtain ⟨a', b', hc, rfl, rfl⟩ : ∃ a' b', cut? c ds = some (a', b') ∧ d :: a' = a ∧ b' = b := by
        simpa using h
      rw [ih hc, List.cons_append]

end Text

namespace Document

theorem separator_clean : Text.Clean separator := ⟨by decide, by decide⟩

theorem trimStart_of_indent {l : Text} (h : indent l = 0) : Text.trimStart l = l := by
  have hb : l.takeWhile Text.isBlank = [] := List.length_eq_zero_iff.mp h
  have hl := List.takeWhile_append_dropWhile (p := Text.isBlank) (l := l)
  rwa [hb, List.nil_append] at hl

theorem Field.key_prefix {t : Text} {f : Field} (h : Field.ofText? t = some f) : f.key <+: t := by
  rw [Field.ofText?] at h
  split at h
  · cases h
  · rename_i k r hk
    dsimp only at h
    split at h
    · obtain rfl := Option.some.inj h
      exact (Text.trimEnd_prefix k).trans ⟨_, (Text.eq_append_of_cut? hk).symm⟩
    · cases h

theorem not_isBlank_of_isKeyChar {c : Char} (h : Field.isKeyChar c = true) :
    Text.isBlank c = false := by
  simp only [Field.isKeyChar, Bool.or_eq_true, beq_iff_eq] at h
  rcases h with (h | rfl) | rfl
  · change (decide (c.val ≥ 65 ∧ c.val ≤ 90) || (decide (c.val ≥ 97) && decide (c.val ≤ 122)) ||
      (decide (c.val ≥ 48) && decide (c.val ≤ 57))) = true at h
    simp only [Bool.or_eq_true, Bool.and_eq_true, decide_eq_true_eq, ge_iff_le,
      UInt32.le_iff_toNat_le] at h
    change ((65 ≤ c.toNat ∧ c.toNat ≤ 90) ∨ (97 ≤ c.toNat ∧ c.toNat ≤ 122)) ∨
      (48 ≤ c.toNat ∧ c.toNat ≤ 57) at h
    simp only [Text.isBlank, Bool.or_eq_false_iff, Bool.and_eq_false_iff, beq_eq_false_iff_ne,
      decide_eq_false_iff_not]
    omega
  · rfl
  · rfl

theorem Field.isKey_key {t : Text} {f : Field} (h : Field.ofText? t = some f) :
    Field.isKey f.key = true := by
  rw [Field.ofText?] at h
  split at h
  · cases h
  · dsimp only at h
    split at h
    · next hk =>
      obtain rfl := Option.some.inj h
      exact (Bool.and_eq_true_iff.mp hk).1
    · cases h

/-- A field begins with its key. -/
theorem Field.exists_cons {t : Text} {f : Field} (h : Field.ofText? t = some f) :
    ∃ c cs, t = c :: cs ∧ Field.isKeyChar c = true := by
  obtain ⟨r, hr⟩ := Field.key_prefix h
  have hk := Field.isKey_key h
  cases hf : f.key with
  | nil => simp [hf, Field.isKey] at hk
  | cons c cs =>
    have hc : Field.isKeyChar c = true := by
      rw [hf, Field.isKey, Bool.and_eq_true_iff, List.all_eq_true] at hk
      exact hk.2 c List.mem_cons_self
    exact ⟨c, cs ++ r, by rw [← hr, hf, List.cons_append], hc⟩

theorem Field.colon_mem {t : Text} {f : Field} (h : Field.ofText? t = some f) : ':' ∈ t := by
  rw [Field.ofText?] at h
  split at h
  · cases h
  · next k r hk =>
    rw [Text.eq_append_of_cut? hk]
    simp

/-- A line with a field is taken for nothing else. -/
theorem visible_of_field {l : Text} {f : Field} (h : Field.ofText? (Text.trimStart l) = some f) :
    Text.allBlank l = false ∧ isComment l = false ∧ isSeparator l = false := by
  obtain ⟨c, cs, hl, hc⟩ := Field.exists_cons h
  have hcolon := Field.colon_mem h
  have hmem : c ∈ l := (Text.trimStart_suffix l).subset (hl ▸ List.mem_cons_self)
  refine ⟨?_, ?_, ?_⟩
  · rw [Text.allBlank, List.all_eq_false]
    exact ⟨c, hmem, by simp [not_isBlank_of_isKeyChar hc]⟩
  · rw [isComment, hl, List.head?_cons, beq_eq_false_iff_ne]
    rintro ⟨⟩
    cases hc
  · -- A separator has no colon in it.
    rw [isSeparator, beq_eq_false_iff_ne]
    intro hs
    have hm := Text.mem_trimEnd hcolon (by decide)
    rw [← Text.trim, hs] at hm
    simp [separator] at hm

end Document

end Guidebook
