import Guidebook.Shell.FileTool

namespace Guidebook.Shell

/-- Something that a tool reads: by which name it was asked for, and what is in it or why it cannot be
read. -/
structure Source where
  name : Text
  content : Except IoFault Bytes

namespace Source

open FileTool

/-- What a tool reads, and the shell afterwards. The input stands where a `-` is, but not twice, and where nothing
else is named. -/
def opened (files : List Text) (m : Machine) : List Source × Machine :=
  let files := if files.isEmpty then [['-']] else files
  (go m.input files, if files.any isInput then { m with input := [] } else m)
where
  go (input : Bytes) : List Text → List Source
    | [] => []
    | p :: ps =>
      if isInput p then ⟨p, .ok input⟩ :: go [] ps
      else ⟨p, m.tree.read p⟩ :: go input ps

/-- What a tool has to say, in order: some bytes, or a complaint. -/
abbrev Said := List (Except Complaint Bytes)

/-- A tool has said what it has to say. The status is the worst. -/
def finish (said : Said) (status : Nat) (m : Machine) : Ran :=
  let printed := said.filterMap fun
    | .ok [] => none
    | .ok b => some (Channel.out, b)
    | .error c => some (Channel.err, Octet.encode c.what)
  let worst := said.foldl (fun s w => match w with
    | .ok _ => s
    | .error c => max s c.status) status
  ⟨m, printed, .status worst⟩

/-- A tool stops at the first complaint. -/
def untilFirst : Said → Said
  | [] => []
  | .ok b :: s => .ok b :: untilFirst s
  | .error c :: _ => [.error c]

/-- The usual complaint about what cannot be read. -/
def refusal (tool : String) (s : Source) (e : IoFault) : Complaint := complain tool "" (named s.name) e 1

/-- What becomes of a source if it can be read. -/
def through (tool : String) (f : Bytes → Bytes) (s : Source) : Except Complaint Bytes :=
  match s.content with
  | .ok b => .ok (f b)
  | .error e => .error (refusal tool s e)

/-- All that can be read, in one piece, and what is said about the rest. -/
def gathered (tool : String) (ss : List Source) : Bytes × Said :=
  (ss.flatMap fun s => (s.content.toOption.getD []),
   ss.filterMap fun s => match s.content with
    | .ok _ => none
    | .error e => some (.error (refusal tool s e)))

end Source

namespace FileTool

/-- Pieces that each end with a mark. The last one need not. -/
def endedBy (mark : UInt8) (b : Bytes) : List Bytes :=
  match b with
  | [] => []
  | x :: xs =>
    if x = mark then [mark] :: endedBy mark xs
    else match endedBy mark xs with
      | [] => [[x]]
      | l :: ls => (x :: l) :: ls

/-- A piece without the mark at its end. -/
def withoutMark (mark : UInt8) (l : Bytes) : Bytes := if l.getLast? = some mark then l.dropLast else l

/-- The pieces between marks. -/
def between (mark : UInt8) (b : Bytes) : List Bytes := (endedBy mark b).map (withoutMark mark)

end FileTool

end Guidebook.Shell
