import Guidebook.FileTree.Change

namespace Guidebook

/-- What comes of running something: what it printed, how much it used of the input, what it did to
the files, and its exit code unless it could not be run. -/
structure Reply where
  output : Bytes
  used : Nat
  tree : FileTree
  result : Except Fault Int

/-- Runs commands and editors, on what there is of the input. The number counts the calls of the same
sort before. -/
structure Runner where
  command : Nat → Text → Bytes → FileTree → Reply
  editor : Nat → Text → Bytes → FileTree → Reply

/-- What a call does that has been laid down beforehand: it edits a file, changes others, and ends
with a code or with a failure. -/
structure Script where
  code : Int
  write : Option Bytes
  replace : Option (Text × Text)
  append : Option Bytes
  delete : Bool
  changes : List Change
  fail : Option Fault

namespace Script

def idle : Script := ⟨0, none, none, none, false, [], none⟩

/-- Does one thing after the other up to the first that fails. -/
def inTurn : List (FileTree → Except IoFault FileTree) → FileTree → FileTree × Except IoFault Unit
  | [], t => (t, .ok ())
  | f :: fs, t =>
    match f t with
    | .error e => (t, .error e)
    | .ok t => inTurn fs t

def replaceIn (path : Text) (p : Text × Text) (t : FileTree) : Except IoFault FileTree := do
  let s ← t.readText path
  t.write path (Utf8.encode (Text.replace p.1 p.2 s))

def editFile (s : Script) (path : Text) : FileTree → FileTree × Except IoFault Unit :=
  inTurn (s.write.toList.map (fun c t => t.write path c) ++ s.replace.toList.map (replaceIn path) ++
    s.append.toList.map (fun c t => t.append path c) ++
    if s.delete then [fun t => t.removeFile path] else [])

/-- The changes, and then the end. -/
def finish (s : Script) (t : FileTree) : Reply :=
  ⟨[], 0, s.changes.foldl FileTree.change t, match s.fail with
    | some f => .error f
    | none => .ok s.code⟩

def command (s : Script) (t : FileTree) : Reply := s.finish t

def edit (s : Script) (path : Text) (t : FileTree) : Reply :=
  match s.editFile path t with
  | (t, .error e) => ⟨[], 0, t, .error (.ofIo e)⟩
  | (t, .ok ()) => s.finish t

end Script

/-- The runner whose calls follow scripts, one after the other. Where they end, nothing happens. -/
def Runner.ofScripts (runs edits : List Script) : Runner where
  command k _ _ t := ((runs[k]?).getD .idle).command t
  editor k path _ t := ((edits[k]?).getD .idle).edit path t

end Guidebook
