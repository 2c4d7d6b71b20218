import Guidebook.Text.Basic

namespace Guidebook.Utf8

/-- The one to four bytes of a character. -/
def encodeChar (c : Char) : Bytes :=
  let n := c.toNat
  if n < 0x80 then [n.toUInt8]
  else if n < 0x800 then [(0xC0 + n / 64).toUInt8, (0x80 + n % 64).toUInt8]
  else if n < 0x10000 then
    [(0xE0 + n / 4096).toUInt8, (0x80 + n / 64 % 64).toUInt8, (0x80 + n % 64).toUInt8]
  else
    [(0xF0 + n / 262144).toUInt8, (0x80 + n / 4096 % 64).toUInt8, (0x80 + n / 64 % 64).toUInt8,
     (0x80 + n % 64).toUInt8]

def encode (t : Text) : Bytes := t.flatMap encodeChar

/-- The number of bytes a text takes. -/
def size (t : Text) : Nat := (encode t).length

/-- What the next byte may be: the first byte of a character, or a continuation byte with `left`
more to follow it, of a character whose number starts with `value` and is at least `least`. -/
inductive Expect where
  | lead
  | tail (left least value : Nat)

/-- The number of the character a byte starts, as far as it tells it. -/
def lead (b : UInt8) : Option (Char ⊕ Expect) :=
  let n := b.toNat
  if n < 0x80 then some (.inl (Char.ofNat n))
  else if n < 0xC2 then none
  else if n < 0xE0 then some (.inr (.tail 0 0x80 (n - 0xC0)))
  else if n < 0xF0 then some (.inr (.tail 1 0x800 (n - 0xE0)))
  else if n < 0xF5 then some (.inr (.tail 2 0x10000 (n - 0xF0)))
  else none

/-- A continuation byte, as its six bits. -/
def tail? (b : UInt8) : Option Nat :=
  if 0x80 ≤ b.toNat ∧ b.toNat < 0xC0 then some (b.toNat - 0x80) else none

/-- The character with this number, if it is no surrogate and could not be written shorter. -/
def scalar? (least n : Nat) : Option Char :=
  if least ≤ n ∧ n.isValidChar then some (Char.ofNat n) else none

/-- What a byte gives where a character may start. -/
def begun (b : UInt8) : List (Option Char) × Expect :=
  match lead b with
  | none => ([none], .lead)
  | some (.inl c) => ([some c], .lead)
  | some (.inr e) => ([], e)

def advance : Expect → UInt8 → List (Option Char) × Expect
  | .lead, b => begun b
  | .tail left least value, b =>
    match tail? b, left with
    | none, _ => (none :: (begun b).1, (begun b).2)
    | some t, left + 1 => ([], .tail left least (value * 64 + t))
    | some t, 0 => ([scalar? least (value * 64 + t)], .lead)

def signsFrom : Expect → Bytes → List (Option Char)
  | .lead, [] => []
  | .tail .., [] => [none]
  | e, b :: r => (advance e b).1 ++ signsFrom (advance e b).2 r

/-- The characters that bytes stand for. Where the bytes are part of no character, or of one that
could be written shorter, there is no character. -/
def signs (bs : Bytes) : List (Option Char) := signsFrom .lead bs

/-- The text that bytes stand for, if all of them do. -/
def decode (bs : Bytes) : Option Text := (signs bs).mapM id

theorem encode_append (s t : Text) : encode (s ++ t) = encode s ++ encode t := by
  simp [encode]

end Guidebook.Utf8
