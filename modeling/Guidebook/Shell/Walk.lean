import Guidebook.Shell.Glob

namespace Guidebook.Shell

/-- A node that has been come to on a walk: by which path, where it is, how deep it is. -/
structure Visit where
  path : Text
  address : Address
  node : Node
  depth : Nat

namespace Visit

def isDir (v : Visit) : Bool := v.node.isDir

end Visit

namespace Walk

/-- A name in a directory. -/
def under (dir name : Text) : Text :=
  if dir.getLast? = some '/' then dir ++ name else dir ++ '/' :: name

/-- The last name of a path, which may be one for a directory relative to others. -/
def lastName (p : Text) : Text := ((Path.names p).getLast?).getD p

/-- What is at an address, or what a link there leads to if it leads anywhere. -/
def target (t : Disk) (a : Address) : Address :=
  match a.getLast? with
  | none => a
  | some x =>
    match t.followed Disk.linkLimit ⟨a.dropLast, some x, false⟩ with
    | .ok s => if (t.node? s.address).isSome then s.address else a
    | .error _ => a

/-- A node and all that is below it. A directory comes before what is in it, or after that. Links are followed or
stay what they are. A directory that leads to one of those above is left out. -/
def visits (t : Disk) (after follows : Bool) : Nat → List Address → Nat → Text → Address → List Visit
  | 0, _, _, _, _ => []
  | n + 1, above, depth, p, a =>
    let a := if follows then target t a else a
    match t.node? a with
    | none => []
    | some (.dir m) =>
      if above.contains a then []
      else
        let inner := (Glob.namesIn t a).flatMap fun name =>
          visits t after follows n (a :: above) (depth + 1) (under p name) (a ++ [name])
        let here : Visit := ⟨p, a, .dir m, depth⟩
        if after then inner ++ [here] else here :: inner
    | some x => [⟨p, a, x, depth⟩]

/-- A node and all that is below it as it is. -/
def all (t : Disk) (after : Bool) (p : Text) (a : Address) : List Visit := visits t after false t.size [] 0 p a

/-- All that is at a path and below it. -/
def from? (t : Disk) (after follows : Bool) (p : Text) : Except IoFault (List Visit) := do
  let (a, _) ← if follows then t.find p else t.findName p
  return visits t after follows t.size [] 0 p a

end Walk

end Guidebook.Shell
