import Guidebook.Proofs.Document.Extent

namespace Guidebook.Document

/-- What is done with a cursor. -/
inductive Use where
  | take
  | peek
  | putBack (l : Text)
  deriving DecidableEq, Repr

namespace Cursor

variable {c d : Cursor} {l : Text}

/-- The line that comes of a use, and the cursor afterwards. There is no room to hand back a line
while another one is ahead. -/
def use? (c : Cursor) : Use → Option (Option Text × Cursor)
  | .take =>
    match c.take? with
    | some (l, d) => some (some l, d)
    | none => some (none, c)
  | .peek => some c.peek
  | .putBack l => (c.putBack? l).map fun d => (none, d)

/-- The lines that come of one use after another, each with the number of the last line by then. -/
def useAll? (c : Cursor) : List Use → Option (List (Option Text × Nat) × Cursor)
  | [] => some ([], c)
  | u :: us => do
    let (l, d) ← c.use? u
    let (ls, e) ← useAll? d us
    return ((l, d.number) :: ls, e)

/-- A line is handed back only directly after it was taken; `last` is the line that has just been
taken. -/
def Orderly (last : Option Text) (c : Cursor) : List Use → Prop
  | [] => True
  | .putBack l :: us => last = some l ∧ Orderly none (c.putBack l) us
  | .peek :: us => Orderly none c.peek.2 us
  | .take :: us =>
    match c.take? with
    | some (l, d) => Orderly (some l) d us
    | none => Orderly none c us

/-- Takes lines until there are none. -/
def takeAll (c : Cursor) : List Text :=
  match _h : c.take? with
  | none => []
  | some (l, d) => l :: takeAll d
termination_by c.upcoming.length
decreasing_by exact length_take? _h

theorem takeAll_eq (c : Cursor) : c.takeAll = c.upcoming := by
  fun_induction takeAll c with
  | case1 c h => rw [take?_eq_none h]
  | case2 c l d h ih => rw [ih, upcoming_take? h]

theorem peek_eq (c : Cursor) :
    c.peek.1 = c.upcoming.head? ∧ c.peek.2.upcoming = c.upcoming ∧ c.peek.2.number = c.number := by
  obtain ⟨_ | a, _ | ⟨b, r⟩, n⟩ := c <;> exact ⟨rfl, rfl, rfl⟩

end Cursor

/-- A place in a list of lines: the number of lines before it. -/
abbrev Position := Nat

namespace Position

variable {ls : List Text} {k : Position}

/-- What a cursor does, done with a place in the list of all lines. -/
def use (ls : List Text) (k : Position) : Use → Option Text × Position
  | .take => (ls[k]?, if k < ls.length then k + 1 else k)
  | .peek => (ls[k]?, k)
  | .putBack _ => (none, k - 1)

def useAll (ls : List Text) (k : Position) : List Use → List (Option Text × Nat) × Position
  | [] => ([], k)
  | u :: us =>
    let r := use ls k u
    let s := useAll ls r.2 us
    ((r.1, r.2) :: s.1, s.2)

end Position

/-- The lines that were taken and not handed back, after those that had been. -/
def held (before : List Text) : List (Use × Option Text) → List Text
  | [] => before
  | (.take, l) :: us => held (before ++ l.toList) us
  | (.peek, _) :: us => held before us
  | (.putBack _, _) :: us => held before.dropLast us

namespace Cursor

variable {ls : List Text} {k : Position} {c d : Cursor} {l : Text} {last : Option Text}

/-- A cursor is at a place in a list of lines. -/
structure At (ls : List Text) (k : Position) (c : Cursor) : Prop where
  bound : k ≤ ls.length
  upcoming : c.upcoming = ls.drop k
  number : c.number = k

/-- The line that was taken last is the one before the place, and no line is ahead. -/
def Taken (ls : List Text) (k : Position) (last : Option Text) (c : Cursor) : Prop :=
  ∀ l ∈ last, 0 < k ∧ ls[k - 1]? = some l ∧ c.ahead = none

theorem At.start (t : Text) : At (Text.lines t) 0 (ofText t) := ⟨Nat.zero_le _, rfl, rfl⟩

theorem taken_none : Taken ls k none c := fun _ h => nomatch h

theorem At.take (h : At ls k c) (ht : c.take? = some (l, d)) :
    ls[k]? = some l ∧ At ls (k + 1) d ∧ Taken ls (k + 1) (some l) d := by
  have hdrop : ls.drop k = l :: d.upcoming := h.upcoming.symm.trans (upcoming_take? ht)
  have hget : ls[k]? = some l := by rw [← List.head?_drop, hdrop, List.head?_cons]
  have hk : k < ls.length := (List.getElem?_eq_some_iff.mp hget).1
  refine ⟨hget, ⟨hk, ?_, by rw [number_take? ht, h.number]⟩, ?_⟩
  · rw [← List.tail_drop, hdrop, List.tail_cons]
  · rintro m ⟨⟩
    exact ⟨Nat.succ_pos k, hget, ahead_take? ht⟩

theorem At.end (h : At ls k c) (ht : c.take? = none) : ls[k]? = none ∧ k = ls.length := by
  have hdrop : ls.drop k = [] := h.upcoming.symm.trans (take?_eq_none ht)
  have hk : ls.length ≤ k := List.drop_eq_nil_iff.mp hdrop
  exact ⟨List.getElem?_eq_none hk, Nat.le_antisymm h.bound hk⟩

theorem At.peek (h : At ls k c) : c.peek.1 = ls[k]? ∧ At ls k c.peek.2 := by
  obtain ⟨hline, hup, hn⟩ := peek_eq c
  exact ⟨by rw [hline, h.upcoming, List.head?_drop], h.bound, hup.trans h.upcoming,
    hn.trans h.number⟩

theorem At.putBack (h : At ls k c) (ht : Taken ls k (some l) c) : At ls (k - 1) (c.putBack l) := by
  obtain ⟨hk, hl, ha⟩ := ht l rfl
  obtain ⟨j, rfl⟩ := Nat.exists_eq_add_one_of_ne_zero (Nat.ne_of_gt hk)
  have hj : j < ls.length := h.bound
  obtain rfl : ls[j] = l := by simpa [List.getElem?_eq_getElem hj] using hl
  refine ⟨Nat.le_of_lt hj, ?_, congrArg (· - 1) h.number⟩
  rw [upcoming_putBack ha, h.upcoming, Nat.add_sub_cancel, List.drop_eq_getElem_cons hj]

/-- One use of a cursor at a place does what is done with the place. -/
theorem At.use (h : At ls k c) (ht : Taken ls k last c) {u : Use} {us : List Use}
    (ho : Orderly last c (u :: us)) :
    ∃ d last', c.use? u = some ((Position.use ls k u).1, d) ∧ At ls (Position.use ls k u).2 d ∧
      Taken ls (Position.use ls k u).2 last' d ∧ Orderly last' d us := by
  cases u with
  | take =>
    rw [Orderly] at ho
    cases htake : c.take? with
    | some r =>
      obtain ⟨l, d⟩ := r
      obtain ⟨hl, hd, htaken⟩ := h.take htake
      rw [htake] at ho
      have hk : k < ls.length := hd.bound
      simp only [use?, htake, Position.use, hl, if_pos hk]
      exact ⟨d, some l, rfl, hd, htaken, ho⟩
    | none =>
      obtain ⟨hl, hk⟩ := h.end htake
      rw [htake] at ho
      simp only [use?, htake, Position.use, hl, if_neg (Nat.not_lt.mpr (Nat.le_of_eq hk.symm))]
      exact ⟨c, none, rfl, h, taken_none, ho⟩
  | peek =>
    obtain ⟨hl, hd⟩ := h.peek
    exact ⟨c.peek.2, none, by rw [use?, Position.use, ← hl], hd, taken_none, ho⟩
  | putBack l =>
    obtain ⟨rfl, ho⟩ := ho
    obtain ⟨-, -, ha⟩ := ht l rfl
    exact ⟨c.putBack l, none, by simp [use?, putBack?, ha, Position.use], h.putBack ht, taken_none, ho⟩

/-- The lines that are held are those before the place. -/
theorem held_use (h : k ≤ ls.length) (u : Use) (rest : List (Use × Option Text)) :
    held (ls.take k) ((u, (Position.use ls k u).1) :: rest) =
      held (ls.take (Position.use ls k u).2) rest := by
  cases u with
  | take =>
    rw [held, Position.use]
    by_cases hk : k < ls.length
    · rw [if_pos hk, List.take_add_one]
    · rw [if_neg hk, List.getElem?_eq_none (Nat.not_lt.mp hk), Option.toList_none, List.append_nil]
  | peek => rfl
  | putBack l =>
    have hlast : (ls.take k).dropLast = ls.take (k - 1) := by
      rw [List.dropLast_eq_take, List.length_take_of_le h, List.take_take,
        Nat.min_eq_left (Nat.sub_le ..)]
    rw [held, hlast, Position.use]

theorem At.useAll (h : At ls k c) (ht : Taken ls k last c) {us : List Use}
    (ho : Orderly last c us) :
    ∃ d, c.useAll? us = some ((Position.useAll ls k us).1, d) ∧
      At ls (Position.useAll ls k us).2 d ∧
      held (ls.take k) (us.zip ((Position.useAll ls k us).1.map (·.1))) =
        ls.take (Position.useAll ls k us).2 := by
  induction us generalizing k c last with
  | nil => exact ⟨c, rfl, h, rfl⟩
  | cons u us ih =>
    obtain ⟨d, last', hu, hd, htaken, hrest⟩ := h.use ht ho
    obtain ⟨e, hus, he, hheld⟩ := ih hd htaken hrest
    refine ⟨e, ?_, he, ?_⟩
    · rw [useAll?, hu]
      simp only [Option.bind_eq_bind, Option.bind_some, hus, hd.number]
      rfl
    · exact (held_use h.bound u _).trans hheld

/-- A cursor is a place in the list of all lines, as long as a line is handed back only directly
after it was taken: what comes of every use, and the number after it, is what comes of that place,
and there is always room for what is handed back. The lines before the place are those that were
taken and not handed back, and those behind it are what can still be taken. -/
theorem useAll?_position (t : Text) (us : List Use) (ho : Orderly none (ofText t) us) :
    let ls := Text.lines t
    let r := Position.useAll ls 0 us
    r.2 ≤ ls.length ∧ ∃ c, (ofText t).useAll? us = some (r.1, c) ∧ c.number = r.2 ∧
      held [] (us.zip (r.1.map (·.1))) = ls.take r.2 ∧ c.takeAll = ls.drop r.2 := by
  intro ls r
  obtain ⟨c, hus, hc, hheld⟩ := (At.start t).useAll taken_none ho
  exact ⟨hc.bound, c, hus, hc.number, hheld, (takeAll_eq c).trans hc.upcoming⟩

/-- Lines are looked at, handed back and taken again, and asked for behind the last one. -/
theorem useAll?_position_back :
    let t := "a\nb\r\n".toList
    let us : List Use := [.peek, .take, .putBack "a".toList, .take, .peek, .take,
      .putBack "b".toList, .peek, .take, .take, .peek]
    Orderly none (ofText t) us ∧
    ∃ c, (ofText t).useAll? us = some ([(some "a".toList, 0), (some "a".toList, 1), (none, 0),
      (some "a".toList, 1), (some "b".toList, 1), (some "b".toList, 2), (none, 1),
      (some "b".toList, 1), (some "b".toList, 2), (none, 2), (none, 2)], c) ∧ c.takeAll = [] := by
  intro t us
  have ho : Orderly none (ofText t) us := ⟨rfl, rfl, trivial⟩
  obtain ⟨-, c, hus, -, -, htake⟩ := useAll?_position t us ho
  exact ⟨ho, c, hus, htake⟩

end Cursor

end Guidebook.Document
