import Guidebook.Text.Digit
import Mathlib.Algebra.Group.Nat.Defs

namespace Guidebook.Text

variable {n : Nat} {c : Char}

theorem isDigit_of_mem_ofNat {n : Nat} {c : Char} (h : c ∈ ofNat n) : c.isDigit :=
  Nat.isDigit_of_mem_toDigits (by decide) (by decide) h

theorem isDigits_ofNat (n : Nat) : isDigits (ofNat n) = true := by
  have hne : ofNat n ≠ [] := Nat.toDigits_ne_nil
  simpa [isDigits, hne] using fun c => isDigit_of_mem_ofNat

theorem digitsValue_ofNat (n : Nat) : digitsValue (ofNat n) = n := by
  have h : Nat.ofDigitChars 10 (Nat.toDigits 10 n) 0 = n :=
    Nat.ofDigitChars_toDigits (by decide) (by decide)
  rw [Nat.ofDigitChars_eq_foldl] at h
  exact h

/-- No number is written with a needless zero. -/
theorem eq_nil_of_ofNat {n : Nat} {t : Text} (h : ofNat n = '0' :: t) : t = [] := by
  induction n using Nat.strongRecOn generalizing t with
  | ind n ih =>
    rw [ofNat] at h
    rcases Nat.lt_or_ge n 10 with hn | hn
    · rw [Nat.toDigits_of_lt_base hn] at h
      exact (List.cons.inj h).2.symm
    · rw [Nat.toDigits_of_base_le (by decide) hn] at h
      cases hd : Nat.toDigits 10 (n / 10) with
      | nil => exact absurd hd Nat.toDigits_ne_nil
      | cons c u =>
        rw [hd, List.cons_append] at h
        obtain ⟨rfl, -⟩ := List.cons.inj h
        obtain rfl : u = [] := ih (n / 10) (by omega) hd
        have hz : digitsValue (ofNat (n / 10)) = 0 := congrArg digitsValue hd
        rw [digitsValue_ofNat] at hz
        omega

theorem ofNat_injective : Function.Injective ofNat :=
  Function.LeftInverse.injective digitsValue_ofNat

theorem isDigit_of_mem {t : Text} (h : isDigits t = true) (hc : c ∈ t) : c.isDigit = true := by
  rw [isDigits, Bool.and_eq_true] at h
  exact List.all_eq_true.mp h.2 c hc

/-- Digits stand for a number if it fits. -/
theorem natural?_digits {t : Text} (h : isDigits t = true) (hn : digitsValue t < numberBound) :
    natural? t = some (digitsValue t) := by
  have hplus (ds : Text) : t ≠ '+' :: ds := fun he => by
    have hd : ('+').isDigit := isDigit_of_mem h (by simp [he])
    exact absurd hd (by decide)
  simp [natural?, h, hn]

theorem digitsValue_eq (t : Text) : digitsValue t = Nat.ofDigitChars 10 t 0 := by
  rw [Nat.ofDigitChars_eq_foldl]
  rfl

/-- The text writes the number, with ASCII digits and with or without a plus sign before them, and
the number fits into 64 bits. -/
inductive Numeral : Text → Nat → Prop
  | intro {sign ds : Text} (hs : sign = [] ∨ sign = "+".toList) (hne : ds ≠ [])
      (hd : ∀ c ∈ ds, c.isDigit = true) (hn : Nat.ofDigitChars 10 ds 0 < 2 ^ 64) :
      Numeral (sign ++ ds) (Nat.ofDigitChars 10 ds 0)

theorem numeral_of_isDigits {sign ds : Text} (hs : sign = [] ∨ sign = "+".toList)
    (h : isDigits ds = true) (hn : digitsValue ds < numberBound) :
    Numeral (sign ++ ds) (digitsValue ds) := by
  rw [digitsValue_eq] at hn ⊢
  have hne : ds ≠ [] := by
    rw [isDigits, Bool.and_eq_true] at h
    simpa using h.1
  exact .intro hs hne (fun _ => isDigit_of_mem h) hn

/-- A plus sign before the digits makes no difference. -/
theorem natural?_unsigned (t : Text) :
    ∃ sign ds, (sign = [] ∨ sign = "+".toList) ∧ t = sign ++ ds ∧ natural? t =
      if isDigits ds && digitsValue ds < numberBound then some (digitsValue ds) else none := by
  cases t with
  | nil => exact ⟨[], [], .inl rfl, rfl, rfl⟩
  | cons c cs =>
    by_cases hc : c = '+'
    · subst hc
      exact ⟨"+".toList, cs, .inr rfl, rfl, rfl⟩
    · exact ⟨[], c :: cs, .inl rfl, rfl, by simp [natural?, hc]⟩

theorem natural?_eq_some {t : Text} : natural? t = some n ↔ Numeral t n := by
  constructor
  · intro h
    obtain ⟨sign, ds, hs, rfl, hd⟩ := natural?_unsigned t
    rw [hd, Option.ite_none_right_eq_some, Bool.and_eq_true, decide_eq_true_eq] at h
    exact Option.some.inj h.2 ▸ numeral_of_isDigits hs h.1.1 h.1.2
  · intro h
    cases h with
    | @intro sign ds hs hne hd hn =>
      have hall : isDigits ds = true := by simpa [isDigits, hne] using hd
      rw [← digitsValue_eq] at hn ⊢
      have hn : digitsValue ds < numberBound := hn
      rcases hs with rfl | rfl
      · exact natural?_digits hall hn
      · have hsome : natural? ("+".toList ++ ds) =
            if isDigits ds && digitsValue ds < numberBound then some (digitsValue ds) else none := rfl
        rw [hsome, hall, Bool.true_and, if_pos (decide_eq_true hn)]

theorem Numeral.lt {t : Text} (h : Numeral t n) : n < 2 ^ 64 := by
  cases h with
  | intro _ _ _ hn => exact hn

end Guidebook.Text
