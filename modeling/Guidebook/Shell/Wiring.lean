import Guidebook.Shell.Disk

namespace Guidebook.Shell

/-- A stream that is written to: the two usual ones, or another one by its number. Nothing is written to the
last sorts, which only tell that what follows was written after some time, and that a process has been sent a
signal. -/
inductive Channel where
  | out
  | err
  | more (stream : Nat)
  | clock (time : Nat)
  | signal (process number : Nat)
  deriving DecidableEq, Repr

/-- Output in the order in which it was written. -/
abbrev Printed := List (Channel × Bytes)

namespace Printed

def on (p : Printed) (c : Channel) : Bytes := ((p.filter (·.1 = c)).map (·.2)).flatten

def off (p : Printed) (c : Channel) : Printed := p.filter (·.1 ≠ c)

/-- Who has been sent a signal, and which. -/
def signals (p : Printed) : List (Nat × Nat) := p.filterMap fun w => match w.1 with
  | .signal k n => some (k, n)
  | _ => none

/-- What was written at once, and what was written later and when. -/
def stretches : Printed → Printed × List (Nat × Printed)
  | [] => ([], [])
  | (.clock t, _) :: p =>
    let r := stretches p
    ([], (t, r.1) :: r.2)
  | w :: p =>
    let r := stretches p
    (w :: r.1, r.2)

end Printed

/-- Where goes what is written on a channel. What is closed takes nothing, and neither does what is
full. -/
inductive Sink where
  | channel (c : Channel)
  | file (node handle : Nat)
  | nowhere
  | closed
  | full
  deriving DecidableEq, Repr

/-- Where the streams go that are written to, which stream stands for the input, and which streams are read from
which nodes. -/
structure Wiring where
  out : Sink
  err : Sink
  more : List (Nat × Sink)
  source : Nat
  reads : List (Nat × Nat)
  deriving DecidableEq, Repr

namespace Wiring

def straight : Wiring := ⟨.channel .out, .channel .err, [], 0, []⟩

/-- The same streams, each of which goes out as itself. -/
def straightened (w : Wiring) : Wiring :=
  { straight with more := w.more.map fun (n, _) => (n, .channel (.more n)), reads := w.reads }

def sink (w : Wiring) : Channel → Sink
  | .out => w.out
  | .err => w.err
  | .more n => (w.more.lookup n).getD .closed
  | .clock t => .channel (.clock t)
  | .signal k n => .channel (.signal k n)

/-- The node that a stream is read from, if it is a file. -/
def reading? (w : Wiring) (stream : Nat) : Option Nat := w.reads.lookup stream

/-- A stream is read from a file, or from something else. -/
def withReading (w : Wiring) (stream : Nat) (node : Option Nat) : Wiring :=
  { w with reads := (node.map (stream, ·)).toList ++ w.reads.filter (·.1 ≠ stream) }

/-- By which numbers files are known that have been opened. -/
def handles (w : Wiring) : List Nat :=
  ([w.out, w.err] ++ w.more.map (·.2)).filterMap fun s => match s with
    | .file _ h => some h
    | _ => none

def numbered? (w : Wiring) : Nat → Option Sink
  | 1 => some w.out
  | 2 => some w.err
  | n => w.more.lookup n

def rewire (w : Wiring) (stream : Nat) (s : Sink) : Wiring :=
  match stream with
  | 1 => { w with out := s }
  | 2 => { w with err := s }
  | n => { w with more := (n, s) :: w.more.filter (·.1 ≠ n) }

/-- Takes a stream away. -/
def unwire (w : Wiring) (stream : Nat) : Wiring :=
  match stream with
  | 1 => { w with out := .closed }
  | 2 => { w with err := .closed }
  | n => { w with more := w.more.filter (·.1 ≠ n) }

/-- Lets output go where it is to go. What is left is what others see. -/
def deliver (w : Wiring) (t : Disk) : Printed → Disk × Printed
  | [] => (t, [])
  | (c, b) :: p =>
    match w.sink c with
    | .channel d =>
      let r := deliver w t p
      (r.1, (d, b) :: r.2)
    | .file k h => deliver w (t.pour k h b) p
    | .nowhere | .closed | .full => deliver w t p

/-- Why a channel takes nothing, if it does not. -/
def refusal? (w : Wiring) (c : Channel) : Option Text :=
  match w.sink c with
  | .closed => some "Bad file descriptor".toList
  | .full => some "No space left on device".toList
  | _ => none

end Wiring

end Guidebook.Shell
