import Guidebook.Document.Block
import Guidebook.Record.Basic
import Guidebook.Text.Utf8

namespace Guidebook.Document

/-- The fields of a suggestion that have been read so far. -/
structure Draft where
  kind : Option Text
  note : Option Text
  cmd : Option Text
  content : Option Text
  deriving DecidableEq, Repr

namespace Draft

def empty : Draft := ⟨none, none, none, none⟩

/-- The kind decides which of the two bodies counts. -/
def suggestion (d : Draft) : Suggestion :=
  let kind := (d.kind.map Kind.ofName).getD .cmd
  let body := match kind with
    | .cmd => d.cmd
    | .snippet => d.content
  ⟨kind, d.note.filter (!·.isEmpty), body.getD []⟩

def set (d : Draft) (key value : Text) : Draft :=
  if key = "kind".toList then { d with kind := some value }
  else if key = "note".toList then { d with note := some value }
  else if key = "cmd".toList then { d with cmd := some value }
  else if key = "content".toList then { d with content := some value }
  else d

end Draft

/-- Reads a field of a suggestion. Its key stands at column `key`. -/
def readField (d : Draft) (key : Nat) (t : Text) (c : Cursor) : Draft × Cursor :=
  match Field.ofText? t with
  | none => (d, c)
  | some f =>
    let r := readValue key f.value c
    (d.set f.key r.1, r.2)

/-- Where the key behind a dash stands: the dash and the blanks behind it count by their bytes. -/
def keyColumn (indent : Nat) (marked field : Text) : Nat :=
  indent + (Utf8.size marked - Utf8.size field)

theorem length_readField (d : Draft) (key : Nat) (t : Text) (c : Cursor) :
    (readField d key t c).2.upcoming.length ≤ c.upcoming.length := by
  rw [readField]
  split
  · exact Nat.le_refl _
  · exact length_readValue ..

/-- Starts an entry of a list with what follows its dash. -/
def startEntry (indent : Nat) (marked rest : Text) (c : Cursor) : Draft × Cursor :=
  let field := Text.trimStart rest
  if field.isEmpty then (.empty, c) else readField .empty (keyColumn indent marked field) field c

theorem length_startEntry (indent : Nat) (marked rest : Text) (c : Cursor) :
    (startEntry indent marked rest c).2.upcoming.length ≤ c.upcoming.length := by
  rw [startEntry]
  split
  · exact Nat.le_refl _
  · exact length_readField ..

/-- The suggestions of the list under a key that stands at column `key`; `open?` is the entry that
is being read. -/
def readEntries (key : Nat) (open? : Option Draft) (c : Cursor) : List Suggestion × Cursor :=
  match _ : c.take? with
  | none => (open?.toList.map Draft.suggestion, c)
  | some (l, d) =>
    if Text.allBlank l then readEntries key open? d
    else if indent l ≤ key then (open?.toList.map Draft.suggestion, d.putBack l)
    else if isComment l then readEntries key open? d
    else
      let t := Text.trimStart l
      match afterDash? t with
      | some rest =>
        let e := startEntry (indent l) t rest d
        let r := readEntries key (some e.1) e.2
        (open?.toList.map Draft.suggestion ++ r.1, r.2)
      | none =>
        match open? with
        | none => readEntries key none d
        | some draft =>
          let e := readField draft (indent l) t d
          readEntries key (some e.1) e.2
termination_by c.upcoming.length
decreasing_by
  all_goals have := Cursor.length_take? ‹_›
  · exact this
  · exact this
  · exact Nat.lt_of_le_of_lt (length_startEntry ..) this
  · exact this
  · exact Nat.lt_of_le_of_lt (length_readField ..) this

/-- The fields of the only suggestion under a key that stands at column `key`, if there is anything
under it. A dash before a field makes no difference. -/
def readOnly (key : Nat) (draft : Draft) (seen : Bool) (c : Cursor) : Option Draft × Cursor :=
  match _ : c.take? with
  | none => (if seen then some draft else none, c)
  | some (l, d) =>
    if Text.allBlank l then readOnly key draft seen d
    else if indent l ≤ key then (if seen then some draft else none, d.putBack l)
    else if isComment l then readOnly key draft seen d
    else
      let t := Text.trimStart l
      let e := match afterDash? t with
        | some rest =>
          let field := Text.trimStart rest
          readField draft (keyColumn (indent l) t field) field d
        | none => readField draft (indent l) t d
      readOnly key e.1 true e.2
termination_by c.upcoming.length
decreasing_by
  all_goals have := Cursor.length_take? ‹_›
  · exact this
  · exact this
  · refine Nat.lt_of_le_of_lt ?_ this
    split <;> exact length_readField ..

theorem length_readEntries (key : Nat) (open? : Option Draft) (c : Cursor) :
    (readEntries key open? c).2.upcoming.length ≤ c.upcoming.length := by
  fun_induction readEntries key open? c with
  | case1 => exact Nat.le_refl _
  | case2 open? c l d h _ ih => exact Nat.le_trans ih (Nat.le_of_lt (Cursor.length_take? h))
  | case3 open? c l d h => exact Nat.le_of_eq (by rw [Cursor.putBack_take? h])
  | case4 open? c l d h _ _ _ ih => exact Nat.le_trans ih (Nat.le_of_lt (Cursor.length_take? h))
  | case5 open? c l d h _ _ _ t rest _ e r ih =>
    exact Nat.le_trans ih (Nat.le_trans (length_startEntry ..) (Nat.le_of_lt (Cursor.length_take? h)))
  | case6 c l d h _ _ _ t _ ih => exact Nat.le_trans ih (Nat.le_of_lt (Cursor.length_take? h))
  | case7 c l d h _ _ _ t _ draft e ih =>
    exact Nat.le_trans ih (Nat.le_trans (length_readField ..) (Nat.le_of_lt (Cursor.length_take? h)))

theorem length_readOnly (key : Nat) (draft : Draft) (seen : Bool) (c : Cursor) :
    (readOnly key draft seen c).2.upcoming.length ≤ c.upcoming.length := by
  fun_induction readOnly key draft seen c with
  | case1 => exact Nat.le_refl _
  | case2 draft seen c l d h _ ih => exact Nat.le_trans ih (Nat.le_of_lt (Cursor.length_take? h))
  | case3 draft seen c l d h => exact Nat.le_of_eq (by rw [Cursor.putBack_take? h])
  | case4 draft seen c l d h _ _ _ ih => exact Nat.le_trans ih (Nat.le_of_lt (Cursor.length_take? h))
  | case5 draft seen c l d h _ _ _ t e ih =>
    refine Nat.le_trans ih (Nat.le_trans ?_ (Nat.le_of_lt (Cursor.length_take? h)))
    simp only [e]
    split <;> exact length_readField ..

end Guidebook.Document
