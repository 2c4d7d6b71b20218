import Guidebook.Input.Basic
import Guidebook.Text.Digit

namespace Guidebook

inductive KeyCode where
  | char (c : Char)
  | enter
  | backspace
  | delete
  | left
  | right
  | up
  | down
  | home
  | last
  | other
  deriving DecidableEq, Repr

structure Key where
  code : KeyCode
  ctrl : Bool
  deriving DecidableEq, Repr

namespace Key

def plain (code : KeyCode) : Key := ⟨code, false⟩

/-- A letter typed with the control key. Two of the letters are keys of their own. -/
def control (c : Char) : Key :=
  if c = 'm' then plain .enter else if c = 'i' then plain .other else ⟨.char c, true⟩

/-- The key that a character comes from. -/
def ofChar (c : Char) : Key :=
  if c.toNat = 127 then plain .backspace
  else if c.toNat = 0 ∨ 27 ≤ c.toNat ∧ c.toNat < 32 then plain .other
  else if c.toNat < 27 then control (Char.ofNat (c.toNat + 96))
  else plain (.char c)

end Key

/-- A line that is being edited; the cursor stands before the character of its number. -/
structure EditLine where
  chars : Text
  cursor : Nat
  deriving DecidableEq, Repr

namespace EditLine

/-- A line with the cursor at its end. -/
def ofText (t : Text) : EditLine := ⟨t, t.length⟩

def insert (l : EditLine) (c : Char) : EditLine :=
  ⟨l.chars.take l.cursor ++ c :: l.chars.drop l.cursor, l.cursor + 1⟩

def removeAt (l : EditLine) (i : Nat) : Text := l.chars.eraseIdx i

def clearStart (l : EditLine) : EditLine := ⟨l.chars.drop l.cursor, 0⟩

def toStart (l : EditLine) : EditLine := { l with cursor := 0 }

def toEnd (l : EditLine) : EditLine := { l with cursor := l.chars.length }

end EditLine

/-- A line and where it stands in the history. Below the newest entry it is a draft, which is kept
while older entries are looked at. -/
structure Editing where
  line : EditLine
  entry : Nat
  draft : Text
  deriving DecidableEq, Repr

inductive KeyEffect where
  | goOn (e : Editing)
  | submit
  | cancel
  | endOfInput
  deriving DecidableEq, Repr

namespace Editing

def start (history : List Text) : Editing := ⟨⟨[], 0⟩, history.length, []⟩

/-- Goes one entry back in the history. -/
def older (history : List Text) (e : Editing) : Editing :=
  let draft := if e.entry = history.length then e.line.chars else e.draft
  ⟨.ofText ((history[e.entry - 1]?).getD []), e.entry - 1, draft⟩

/-- Goes one entry forward, behind the newest one to the draft. -/
def newer (history : List Text) (e : Editing) : Editing :=
  ⟨.ofText ((history[e.entry + 1]?).getD e.draft), e.entry + 1, e.draft⟩

def control (c : Char) (e : Editing) : KeyEffect :=
  if c = 'c' then .cancel
  else if c = 'd' then if e.line.chars.isEmpty then .endOfInput else .goOn e
  else if c = 'u' then .goOn { e with line := e.line.clearStart }
  else if c = 'a' then .goOn { e with line := e.line.toStart }
  else if c = 'e' then .goOn { e with line := e.line.toEnd }
  else .goOn e

def press (history : List Text) (e : Editing) (k : Key) : KeyEffect :=
  let l := e.line
  match k.code with
  | .enter => .submit
  | .char c => if k.ctrl then control c e else .goOn { e with line := l.insert c }
  | .backspace =>
    if 0 < l.cursor then .goOn { e with line := ⟨l.removeAt (l.cursor - 1), l.cursor - 1⟩ }
    else .goOn e
  | .delete =>
    if l.cursor < l.chars.length then .goOn { e with line := ⟨l.removeAt l.cursor, l.cursor⟩ }
    else .goOn e
  | .left => .goOn { e with line := ⟨l.chars, l.cursor - 1⟩ }
  | .right => .goOn { e with line := ⟨l.chars, min (l.cursor + 1) l.chars.length⟩ }
  | .home => .goOn { e with line := l.toStart }
  | .last => .goOn { e with line := l.toEnd }
  | .up => if 0 < e.entry then .goOn (older history e) else .goOn e
  | .down => if e.entry < history.length then .goOn (newer history e) else .goOn e
  | .other => .goOn e

end Editing

/-- Somebody at a keyboard: the lines that can be recalled, oldest first, and the keys still to be
pressed. -/
structure Keyboard where
  history : List Text
  keys : List Key

namespace Keyboard

def esc : Text := "\x1b[".toList

def column (n : Nat) : Text := esc ++ Text.ofNat n ++ ['G']

/-- The last column that a terminal can be asked for. -/
def lastColumn : Nat := 0xFFFF

/-- The column behind `n` characters. Where there is none, column zero is asked for. -/
def columnAfter (n : Nat) : Text := column (if n < lastColumn then n + 1 else 0)

/-- Writes the line again from its first column and puts the cursor where it belongs. -/
def redraw (prompt : Text) (l : EditLine) : Text :=
  column 1 ++ esc ++ "2K".toList ++ prompt ++ l.chars ++ columnAfter (prompt.length + l.cursor)

def typeKeys (history : List Text) (prompt : Text) : Editing → List Key → Heard × Text × List Key
  | _, [] => (.closed, [], [])
  | e, k :: ks =>
    match e.press history k with
    | .submit => (.line e.line.chars, "\r\n".toList, ks)
    | .cancel => (.line [], "^C\r\n".toList, ks)
    | .endOfInput => (.closed, "\r\n".toList, ks)
    | .goOn f =>
      let r := typeKeys history prompt f ks
      (r.1, redraw prompt f.line ++ r.2.1, r.2.2)

def read (prompt : Text) (b : Keyboard) : Heard × Text × Keyboard :=
  let r := typeKeys b.history prompt (.start b.history) b.keys
  (r.1, prompt ++ r.2.1, { b with keys := r.2.2 })

/-- Makes a line one that can be recalled, unless it is blank or the newest such line. -/
def remember (l : Text) (b : Keyboard) : Keyboard :=
  if Text.allBlank l ∨ b.history.getLast? = some l then b else { b with history := b.history ++ [l] }

theorem length_typeKeys_le (history : List Text) (prompt : Text) (e : Editing) (ks : List Key) :
    (typeKeys history prompt e ks).2.2.length ≤ ks.length := by
  induction ks generalizing e with
  | nil => simp [typeKeys]
  | cons k ks ih =>
    rw [typeKeys]
    split
    · exact Nat.le_succ _
    · exact Nat.le_succ _
    · exact Nat.le_succ _
    · exact Nat.le_succ_of_le (ih _)

theorem length_typeKeys_lt (history : List Text) (prompt : Text) (e : Editing) (k : Key)
    (ks : List Key) : (typeKeys history prompt e (k :: ks)).2.2.length < (k :: ks).length := by
  rw [typeKeys]
  split
  · exact Nat.lt_succ_self _
  · exact Nat.lt_succ_self _
  · exact Nat.lt_succ_self _
  · exact Nat.lt_succ_of_le (length_typeKeys_le ..)

def source : Source Keyboard where
  read := read
  remember := remember
  behind _ := []
  skip _ b := b
  left b := b.keys.length
  left_remember t b := by
    rw [remember]
    split <;> rfl
  left_skip _ _ := Nat.le_refl _
  left_read p b := by
    obtain ⟨h, _ | ⟨k, ks⟩⟩ := b
    · exact .inr ⟨rfl, rfl⟩
    · exact .inl (length_typeKeys_lt ..)

end Keyboard

end Guidebook
