import Guidebook.Input.Basic
import Guidebook.Text.Utf8

namespace Guidebook.Plain

def newline : UInt8 := 10

/-- The lines of an input with the line feeds that end them. Only the last may be without. -/
def chunks : Bytes → List Bytes
  | [] => []
  | b :: bs =>
    if b = newline then [b] :: chunks bs
    else match chunks bs with
      | [] => [[b]]
      | c :: cs => (b :: c) :: cs

def isTerminator (c : Char) : Bool := c = '\n' || c = '\r'

/-- A line without the line feed and the carriage returns at its end. -/
def stripEnd (t : Text) : Text := (t.reverse.dropWhile isTerminator).reverse

def hear (chunk : Bytes) : Heard :=
  match Utf8.decode chunk with
  | none => .failed .notUtf8
  | some t => .line (stripEnd t)

def read (prompt : Text) : List Bytes → Heard × Text × List Bytes
  | [] => (.closed, prompt, [])
  | c :: cs => (hear c, prompt, cs)

/-- Lines from a file or a pipe. A line that is no text is passed over by the failure to read it. -/
def source : Source (List Bytes) where
  read := read
  remember _ cs := cs
  behind _ := []
  skip _ cs := cs
  left := List.length
  left_remember _ _ := rfl
  left_skip _ _ := Nat.le_refl _
  left_read p cs := by cases cs <;> simp [read]

theorem flatten_chunks (bs : Bytes) : (chunks bs).flatten = bs := by
  induction bs with
  | nil => rfl
  | cons b bs ih =>
    rw [chunks]
    split
    · simp [ih]
    · split
      · next h => simp_all
      · next h => rw [← ih, h]; rfl

end Guidebook.Plain
