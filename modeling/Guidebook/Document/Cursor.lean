import Guidebook.Text.Basic

namespace Guidebook.Document

/-- A place between the lines of a text. The line in `ahead` has been looked at or handed back and
is the next one; `number` is the number of the last line that was taken. -/
structure Cursor where
  ahead : Option Text
  rest : List Text
  number : Nat
  deriving DecidableEq, Repr

namespace Cursor

def ofText (t : Text) : Cursor := ⟨none, Text.lines t, 0⟩

/-- The lines still to come. -/
def upcoming (c : Cursor) : List Text := c.ahead.toList ++ c.rest

def take? (c : Cursor) : Option (Text × Cursor) :=
  match c.ahead, c.rest with
  | some l, r => some (l, ⟨none, r, c.number + 1⟩)
  | none, l :: r => some (l, ⟨none, r, c.number + 1⟩)
  | none, [] => none

def peek (c : Cursor) : Option Text × Cursor :=
  match c.ahead, c.rest with
  | none, l :: r => (some l, { c with ahead := some l, rest := r })
  | a, _ => (a, c)

/-- Hands back the line that was taken last. -/
def putBack (l : Text) (c : Cursor) : Cursor :=
  { c with ahead := some l, number := c.number - 1 }

theorem upcoming_take? {c d : Cursor} {l : Text} (h : c.take? = some (l, d)) :
    c.upcoming = l :: d.upcoming := by
  obtain ⟨_ | a, _ | ⟨b, r⟩, n⟩ := c <;>
    simp only [take?, Option.some.injEq, Prod.mk.injEq, reduceCtorEq] at h <;>
    obtain ⟨rfl, rfl⟩ := h <;> rfl

theorem ahead_take? {c d : Cursor} {l : Text} (h : c.take? = some (l, d)) : d.ahead = none := by
  obtain ⟨_ | a, _ | ⟨b, r⟩, n⟩ := c <;>
    simp only [take?, Option.some.injEq, Prod.mk.injEq, reduceCtorEq] at h <;>
    obtain ⟨rfl, rfl⟩ := h <;> rfl

theorem take?_eq_none {c : Cursor} (h : c.take? = none) : c.upcoming = [] := by
  obtain ⟨_ | a, _ | ⟨b, r⟩, n⟩ := c <;> simp_all [take?, upcoming]

theorem upcoming_putBack {c : Cursor} (h : c.ahead = none) (l : Text) :
    (c.putBack l).upcoming = l :: c.upcoming := by
  simp [putBack, upcoming, h]

theorem putBack_take? {c d : Cursor} {l : Text} (h : c.take? = some (l, d)) :
    (d.putBack l).upcoming = c.upcoming := by
  rw [upcoming_putBack (ahead_take? h), upcoming_take? h]

theorem length_take? {c d : Cursor} {l : Text} (h : c.take? = some (l, d)) :
    d.upcoming.length < c.upcoming.length := by
  rw [upcoming_take? h]
  exact Nat.lt_succ_self _

end Cursor

end Guidebook.Document
