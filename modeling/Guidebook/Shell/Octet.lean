import Guidebook.Text.Utf8

namespace Guidebook.Shell

/-! A shell deals with bytes. Inside of it, each character of a text stands for one byte, whose number it
has. -/

namespace Octet

def ofByte (x : UInt8) : Char := Char.ofNat x.toNat

def encode (t : Text) : Bytes := t.map fun c => UInt8.ofNat c.toNat

def decode (b : Bytes) : Text := b.map ofByte

theorem toNat_ofByte (x : UInt8) : (ofByte x).toNat = x.toNat := by
  have h : x.toNat.isValidChar := Or.inl (Nat.lt_trans x.toNat_lt (by decide))
  unfold ofByte Char.ofNat
  rw [dif_pos h]
  rfl

/-- Nothing is lost on the way from bytes to a text and back. -/
theorem encode_decode (b : Bytes) : encode (decode b) = b := by
  have h : ((fun c : Char => UInt8.ofNat c.toNat) ∘ ofByte) = id := by
    funext x
    simp [toNat_ofByte]
  simp [encode, decode, h]

/-- A text as a shell has it. -/
def ofText (t : Text) : Text := decode (Utf8.encode t)

/-- A text of a shell as others have it. What is no text stays as it is. -/
def toText (t : Text) : Text := (Utf8.decode (encode t)).getD t

end Octet

end Guidebook.Shell
