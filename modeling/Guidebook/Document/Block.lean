import Guidebook.Document.Cursor
import Guidebook.Document.Line

namespace Guidebook.Document

/-- The lines of the block under a key that stands at column `key`: up to the first line that is
neither blank nor deeper than the key, which is handed back. -/
def blockLines (key : Nat) (c : Cursor) : List Text × Cursor :=
  match _ : c.take? with
  | none => ([], c)
  | some (l, d) =>
    if Text.allBlank l then
      let r := blockLines key d
      ([] :: r.1, r.2)
    else if indent l ≤ key then ([], d.putBack l)
    else
      let r := blockLines key d
      (stripColumns (key + 1) l :: r.1, r.2)
termination_by c.upcoming.length
decreasing_by all_goals exact Cursor.length_take? ‹_›

def Chomp.trim : Chomp → List Text → List Text
  | .keep, ls => ls
  | .drop, ls => (ls.reverse.dropWhile (·.isEmpty)).reverse

def readBlock (m : Chomp) (key : Nat) (c : Cursor) : Text × Cursor :=
  let r := blockLines key c
  (Text.joinLines (m.trim r.1), r.2)

/-- The text of a field: the block that its value announces, or the value itself. -/
def readValue (key : Nat) (value : Text) (c : Cursor) : Text × Cursor :=
  match Chomp.ofValue? value with
  | some m => readBlock m key c
  | none => (unquote value, c)

theorem length_blockLines (key : Nat) (c : Cursor) :
    (blockLines key c).2.upcoming.length ≤ c.upcoming.length := by
  fun_induction blockLines key c with
  | case1 => simp
  | case2 c l d h _ _ ih => exact Nat.le_of_lt (Nat.lt_of_le_of_lt ih (Cursor.length_take? h))
  | case3 c l d h => exact Nat.le_of_eq (by rw [Cursor.putBack_take? h])
  | case4 c l d h _ _ _ ih => exact Nat.le_of_lt (Nat.lt_of_le_of_lt ih (Cursor.length_take? h))

theorem length_readBlock (m : Chomp) (key : Nat) (c : Cursor) :
    (readBlock m key c).2.upcoming.length ≤ c.upcoming.length := length_blockLines key c

theorem length_readValue (key : Nat) (value : Text) (c : Cursor) :
    (readValue key value c).2.upcoming.length ≤ c.upcoming.length := by
  rw [readValue]
  split
  · exact length_readBlock ..
  · exact Nat.le_refl _

end Guidebook.Document
