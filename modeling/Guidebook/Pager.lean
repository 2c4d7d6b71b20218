import Guidebook.Text.Digit

namespace Guidebook

/-- Cuts a list into pages of the same size; only the last may be shorter. -/
structure Pager where
  size : Nat
  pos : 0 < size

namespace Pager

/-- A page size of zero acts as one. -/
def ofSize (n : Nat) : Pager := ⟨max n 1, Nat.lt_of_lt_of_le Nat.one_pos (Nat.le_max_right ..)⟩

def minimum : Nat := 5

/-- The rows of a screen that a page leaves for what stands around it. -/
def surroundings : Nat := 10

def usualRows : Nat := 24

/-- The pager of a size that is set, or else of the rows of the screen, or else of its usual rows. -/
def ofSettings (size rows : Option Nat) : Pager :=
  match size with
  | some n => ofSize n
  | none => ofSize (max (rows.getD usualRows - surroundings) minimum)

/-- The number of the last page. An empty list has one page, too. -/
def lastPage (p : Pager) (total : Nat) : Nat := max ((total + p.size - 1) / p.size) 1

def clamp (p : Pager) (page total : Nat) : Nat := min (max page 1) (p.lastPage total)

/-- The numbers, from zero, of the first item on a page and of the first one behind it. The sum
stays below `Text.numberBound`. -/
def visible (p : Pager) (page total : Nat) : Nat × Nat :=
  let start := min ((p.clamp page total - 1) * p.size) total
  (start, min ((start + p.size) % Text.numberBound) total)

end Pager

end Guidebook
