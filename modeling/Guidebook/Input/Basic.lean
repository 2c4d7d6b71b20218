import Guidebook.Fault

namespace Guidebook

/-- What comes of waiting for a line: the line, the end of the input, or a failure to read. -/
inductive Heard where
  | line (t : Text)
  | closed
  | failed (e : IoFault)
  deriving DecidableEq, Repr

def Heard.line? : Heard → Option Text
  | .line t => some t
  | _ => none

/-- Somewhere lines come from. To read one it shows a prompt and perhaps more, and it gets nearer
to its end, where it is closed for good. What is behind that which has been read can be read by
others, and is skipped then. -/
structure Source (ι : Type) where
  read : Text → ι → Heard × Text × ι
  remember : Text → ι → ι
  behind : ι → Bytes
  skip : Nat → ι → ι
  left : ι → Nat
  left_remember : ∀ t i, left (remember t i) = left i
  left_skip : ∀ n i, left (skip n i) ≤ left i
  left_read : ∀ p i, left (read p i).2.2 < left i ∨
    left (read p i).2.2 = left i ∧ (read p i).1 = .closed

end Guidebook
