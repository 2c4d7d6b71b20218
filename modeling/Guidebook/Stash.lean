import Guidebook.Command
import Guidebook.FileTree.Basic

namespace Guidebook

/-- The file that keeps the snippet picked last. -/
structure Stash where
  path : Text
  deriving DecidableEq, Repr

namespace Stash

/-- A stash without a file is empty. -/
def read (s : Stash) (t : FileTree) : Except IoFault Text :=
  match t.readText s.path with
  | .error .notFound => .ok []
  | r => r

/-- Makes the directory of the file, unless it is the one that relative paths start from. -/
def makeParent (s : Stash) (t : FileTree) : FileTree × Except IoFault Unit :=
  match Path.parent? s.path with
  | none => (t, .ok ())
  | some p => if p.isEmpty then (t, .ok ()) else t.makePath p

/-- Does something to the file after its directory has been made. -/
def inParent (s : Stash) (t : FileTree) (f : FileTree → Except IoFault FileTree) :
    FileTree × Except IoFault Unit :=
  match s.makeParent t with
  | (t, .error e) => (t, .error e)
  | (t, .ok ()) =>
    match f t with
    | .error e => (t, .error e)
    | .ok t => (t, .ok ())

def replace (s : Stash) (content : Text) (t : FileTree) : FileTree × Except IoFault Unit :=
  s.inParent t fun t => t.write s.path (Utf8.encode content)

def clear (s : Stash) (t : FileTree) : FileTree × Except IoFault Unit := s.replace [] t

/-- Makes sure that there is a file. What it holds stays. -/
def touch (s : Stash) (t : FileTree) : FileTree × Except IoFault Unit :=
  s.inParent t fun t => t.append s.path []

def pasteInto (s : Stash) (target : Text) (mode : PasteMode) (t : FileTree) :
    Except Trouble FileTree :=
  let asFault := fun (e : IoFault) => Trouble.fault (.ofIo e)
  match s.read t with
  | .error e => .error (asFault e)
  | .ok [] => .error (.mistake .emptyStash)
  | .ok content =>
    match mode with
    | .overwrite => (t.write target (Utf8.encode content)).mapError asFault
    | .append => (t.append target (Utf8.encode content)).mapError asFault

end Stash

end Guidebook
