import Guidebook.Shell.Wiring

namespace Guidebook.Shell

/-- What becomes of a file: it gets another node, something is added to it, or it goes away. -/
inductive Turn where
  | put (n : Node)
  | more (b : Bytes)
  | gone
  deriving DecidableEq, Repr

/-- What files go through. -/
abbrev Turns := List (Address × Turn)

namespace Turns

def apply (t : Disk) (ts : Turns) : Disk :=
  ts.foldl (fun t (a, turn) => match turn with
    | .put n => t.put a (n.withStamp { n.stamp with time := t.now })
    | .more b => match t.serial? a with
      | some k => t.grown k b
      | none => t.add a (t.newFile b)
    | .gone => t.erase a) t

/-- What leads from some files to others. Some files are only added to. -/
def between (added : List Nat) (old new : Disk) : Turns :=
  let made := new.names.reverse.filterMap fun (a, k) => match old.node? a, new.node? a with
    | _, none => none
    | some (.file m c), some (.file p d) =>
      if m.mode = p.mode && c = d then none
      else if m.mode = p.mode && c.isPrefixOf d then some (a, .more (d.drop c.length))
      else some (a, .put (.file p d))
    | some m, some n => if m.isLike n then none else some (a, .put n)
    | none, some (.file m d) => some (a, if added.contains k then .more d else .put (.file m d))
    | none, some n => some (a, .put n)
  made ++ old.names.filterMap fun (a, _) => if (new.node? a).isNone then some (a, .gone) else none

end Turns

/-- What something in the background is going to do at some time: what files go through, and what it writes. -/
structure Deed where
  time : Nat
  process : Nat
  turns : Turns
  printed : Printed

/-- A time during which nothing was done: when it was over, and the files before it and after it. -/
structure Pause where
  time : Nat
  before : Disk
  after : Disk

/-- How time passes, in millionths of a second: what time it is, when it is up if ever, where there were
pauses, latest first, what those that have been started from here are going to do, what others are going to
do, which files have been opened to be added to, and whether all of it is in the background. -/
structure Course where
  clock : Nat
  deadline : Option Nat
  pauses : List Pause
  own : List Deed
  others : List Deed
  added : List Nat
  behind : Bool

namespace Course

def start : Course := ⟨0, none, [], [], [], [], false⟩

/-- How long something in the background may take, so that it takes an end. -/
def patience : Nat := 100000000

/-- What is seen by something that is started in the background. -/
def beside (c : Course) : Course :=
  let deadline := (c.deadline.toList ++ [c.clock + patience]).min?
  { c with deadline, pauses := [], own := [], others := c.own ++ c.others, added := [], behind := true }

/-- A file is opened, and what is in it stays or not. -/
def opened (c : Course) (k : Nat) (stays : Bool) : Course :=
  let others := c.added.filter (· ≠ k)
  { c with added := if stays then k :: others else others }

def inOrder (ds : List Deed) : List Deed := ds.mergeSort fun a b => a.time ≤ b.time

/-- Lets others do what they do, from a time on. -/
def seen (ds : List Deed) (start : Nat) (t : Disk) : Disk :=
  (inOrder ds).foldl (fun u d => d.turns.apply { u with now := t.now + d.time - start }) t

/-- What is done between the pauses, from the first one on, up to files that are left in the end. -/
def stretches (added : List Nat) : List Pause → Disk → List (Nat × Turns)
  | [], _ => []
  | [p], last => [(p.time, Turns.between added p.after last)]
  | p :: q :: ps, last => (p.time, Turns.between added p.after q.before) :: stretches added (q :: ps) last

end Course

end Guidebook.Shell
