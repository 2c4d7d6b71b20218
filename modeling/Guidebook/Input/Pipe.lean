import Guidebook.Input.Plain

namespace Guidebook

/-- An input that is read in blocks and shared with the programs that are started: what has been read
but not been used, and what is behind it, for whoever reads next. -/
structure Pipe where
  held : Bytes
  behind : Bytes
  deriving DecidableEq, Repr

namespace Pipe

def ofBytes (bs : Bytes) : Pipe := ⟨[], bs⟩

def blockSize : Nat := 8192

def bytes (p : Pipe) : Bytes := p.held ++ p.behind

/-- The bytes up to the first line feed, and those behind it. -/
def cut? : Bytes → Option (Bytes × Bytes)
  | [] => none
  | b :: bs =>
    if b = Plain.newline then some ([b], bs) else (cut? bs).map fun r => (b :: r.1, r.2)

/-- Takes a line with its line feed. Another block is read only as long as no line is held. -/
def line (p : Pipe) : Bytes × Pipe :=
  match cut? p.held with
  | some (l, r) => (l, { p with held := r })
  | none =>
    if _ : p.behind = [] then (p.held, ⟨[], []⟩)
    else line ⟨p.held ++ p.behind.take blockSize, p.behind.drop blockSize⟩
termination_by p.behind.length
decreasing_by
  have := List.length_pos_iff.mpr ‹¬p.behind = []›
  simp only [List.length_drop, blockSize]
  omega

def read (prompt : Text) (p : Pipe) : Heard × Text × Pipe :=
  if p.bytes.isEmpty then (.closed, prompt, p) else (Plain.hear p.line.1, prompt, p.line.2)

theorem append_of_cut? {bs l r : Bytes} (h : cut? bs = some (l, r)) : l ++ r = bs ∧ l ≠ [] := by
  induction bs generalizing l r with
  | nil => simp [cut?] at h
  | cons b bs ih =>
    rw [cut?] at h
    split at h
    · cases h
      simp_all
    · simp only [Option.map_eq_some_iff, Prod.exists, Prod.mk.injEq] at h
      obtain ⟨l', r', h, rfl, rfl⟩ := h
      simp [(ih h).1]

theorem line_append_bytes (p : Pipe) : p.line.1 ++ p.line.2.bytes = p.bytes := by
  fun_induction line p with
  | case1 p l r h => simp [bytes, ← (append_of_cut? h).1]
  | case2 p h hb => simp [bytes, hb]
  | case3 p h hb ih => rw [ih, bytes, List.append_assoc, List.take_append_drop, bytes]

theorem line_ne_nil (p : Pipe) (hp : p.bytes ≠ []) : p.line.1 ≠ [] := by
  fun_induction line p with
  | case1 p l r h => exact (append_of_cut? h).2
  | case2 p h hb => simpa [bytes, hb] using hp
  | case3 p h hb ih =>
    refine ih ?_
    rwa [bytes, List.append_assoc, List.take_append_drop]

theorem length_line_lt (p : Pipe) (hp : p.bytes ≠ []) : p.line.2.bytes.length < p.bytes.length := by
  have h := congrArg List.length (line_append_bytes p)
  have := List.length_pos_iff.mpr (line_ne_nil p hp)
  simp only [List.length_append] at h
  omega

/-- The lines of an input for a program that starts others. They go on from where it has read to. -/
def source : Source Pipe where
  read := read
  remember _ p := p
  behind p := p.behind
  skip n p := { p with behind := p.behind.drop n }
  left p := p.bytes.length
  left_remember _ _ := rfl
  left_skip n p := by simp [bytes]
  left_read t p := by
    by_cases hp : p.bytes = []
    · simp [read, hp]
    · simp [read, hp, length_line_lt p hp]

end Pipe

end Guidebook
