import Guidebook.Text.Basic

namespace Guidebook.Text

/-- The zeros of the Unicode category Nd (version 16). Each is followed by its nine fellows. -/
def zeros : List Nat :=
  [0x30, 0x660, 0x6F0, 0x7C0, 0x966, 0x9E6, 0xA66, 0xAE6, 0xB66, 0xBE6, 0xC66, 0xCE6, 0xD66, 0xDE6,
   0xE50, 0xED0, 0xF20, 0x1040, 0x1090, 0x17E0, 0x1810, 0x1946, 0x19D0, 0x1A80, 0x1A90, 0x1B50,
   0x1BB0, 0x1C40, 0x1C50, 0xA620, 0xA8D0, 0xA900, 0xA9D0, 0xA9F0, 0xAA50, 0xABF0, 0xFF10, 0x104A0,
   0x10D30, 0x10D40, 0x11066, 0x110F0, 0x11136, 0x111D0, 0x112F0, 0x11450, 0x114D0, 0x11650,
   0x116C0, 0x116D0, 0x116DA, 0x11730, 0x118E0, 0x11950, 0x11BF0, 0x11C50, 0x11D50, 0x11DA0,
   0x11F50, 0x16130, 0x16A60, 0x16AC0, 0x16B50, 0x16D70, 0x1CCF0, 0x1D7CE, 0x1D7D8, 0x1D7E2,
   0x1D7EC, 0x1D7F6, 0x1E140, 0x1E2F0, 0x1E4F0, 0x1E5F1, 0x1E950, 0x1FBF0]

/-- A decimal digit of any script. -/
def isDecimal (c : Char) : Bool := zeros.any fun z => z ≤ c.toNat && c.toNat < z + 10

/-- The numbers from zero up to here are the ones that commands, settings and tables can hold. -/
def numberBound : Nat := 0x10000000000000000

/-- The integers that 64 bits with a sign can hold. -/
def isInt64 (i : Int) : Bool := -0x8000000000000000 ≤ i && i < 0x8000000000000000

def digitValue (c : Char) : Nat := c.toNat - 48

/-- The number a run of ASCII digits stands for. -/
def digitsValue (t : Text) : Nat := t.foldl (fun n c => 10 * n + digitValue c) 0

def isDigits (t : Text) : Bool := !t.isEmpty && t.all Char.isDigit

/-- An unsigned number: an optional plus sign, then ASCII digits, below `numberBound`. -/
def natural? (t : Text) : Option Nat :=
  let digits := match t with
    | '+' :: ds => ds
    | ds => ds
  if isDigits digits && digitsValue digits < numberBound then some (digitsValue digits) else none

def ofNat (n : Nat) : Text := Nat.toDigits 10 n

def ofInt : Int → Text
  | .ofNat n => ofNat n
  | .negSucc n => '-' :: ofNat (n + 1)

theorem toNat_of_isDigit {c : Char} (h : c.isDigit) : 48 ≤ c.toNat ∧ c.toNat ≤ 57 := by
  simpa [Char.isDigit, UInt32.le_iff_toNat_le] using h

theorem isDecimal_of_isDigit {c : Char} (h : c.isDigit) : isDecimal c := by
  have hc := toNat_of_isDigit h
  simp only [isDecimal, zeros, List.any_cons, Bool.or_eq_true, Bool.and_eq_true,
    decide_eq_true_eq]
  exact Or.inl ⟨hc.1, by omega⟩

theorem natural?_lt {t : Text} {n : Nat} (h : natural? t = some n) : n < numberBound := by
  simp only [natural?] at h
  split at h <;> simp_all <;> omega

end Guidebook.Text
