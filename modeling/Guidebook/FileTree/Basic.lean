import Guidebook.Fault
import Guidebook.Path
import Guidebook.Text.Utf8

namespace Guidebook

inductive Node where
  | dir
  | file (executable : Bool) (content : Bytes)
  deriving DecidableEq, Repr

/-- A place in a file tree: the names that lead to it from the root. -/
abbrev Address := List Text

/-- What else may be known about what is at an address: which one it is, its rights, when it was changed, and where
it leads if it stands for another path. Only those that know of such things look at it. -/
structure Mark where
  serial : Nat
  mode : Nat
  time : Nat
  target : Option Text
  deriving DecidableEq, Repr

/-- Directories and files by their address, and the directory that relative paths start from. The
root needs no entry. -/
structure FileTree where
  nodes : List (Address × Node)
  here : Address
  marks : List (Address × Mark) := []

namespace FileTree

def node? (t : FileTree) (a : Address) : Option Node :=
  if a = [] then some .dir else (t.nodes.find? (·.1 = a)).map (·.2)

def put (t : FileTree) (a : Address) (n : Node) : FileTree :=
  { t with nodes := (a, n) :: t.nodes.filter (·.1 ≠ a) }

def erase (t : FileTree) (a : Address) : FileTree :=
  { t with nodes := t.nodes.filter (·.1 ≠ a) }

/-- The longest name that a directory takes, in bytes. -/
def nameLimit : Nat := 255

/-- The longest path that an operation takes, in bytes. -/
def pathLimit : Nat := 4095

/-- Where a path leads: a name in an existing directory, or that directory itself. -/
structure Spot where
  folder : Address
  name : Option Text
  slash : Bool
  deriving DecidableEq, Repr

/-- Goes down directory by directory. -/
def descend (t : FileTree) : Address → List Text → Except IoFault Address
  | a, [] => .ok a
  | a, n :: ns =>
    if n = ['.'] then descend t a ns
    else if n = ['.', '.'] then descend t a.dropLast ns
    else if nameLimit < Utf8.size n then .error .nameTooLong
    else match t.node? (a ++ [n]) with
      | none => .error .notFound
      | some (.file ..) => .error .notDirectory
      | some .dir => descend t (a ++ [n]) ns

/-- Everything up to the last name of a path has to be there; what the last name stands for is left
open. -/
def locate (t : FileTree) (p : Text) : Except IoFault Spot :=
  if p.contains '\x00' then .error .nulInName
  else if p.isEmpty then .error .notFound
  else if pathLimit < Utf8.size p then .error .nameTooLong
  else
    let start := if Path.isAbsolute p then [] else t.here
    match (Path.names p).reverse with
    | [] => .ok ⟨[], none, false⟩
    | last :: before =>
      match t.descend start before.reverse with
      | .error e => .error e
      | .ok a =>
        if last = ['.'] then .ok ⟨a, none, false⟩
        else if last = ['.', '.'] then .ok ⟨a.dropLast, none, false⟩
        else .ok ⟨a, some last, p.getLast? = some '/'⟩

/-- What is at a spot, if its name can be looked up at all. -/
def lookUp (t : FileTree) (s : Spot) : Except IoFault (Option Node) :=
  match s.name with
  | none => .ok (some .dir)
  | some n =>
    if nameLimit < Utf8.size n then .error .nameTooLong else .ok (t.node? (s.folder ++ [n]))

def Spot.address (s : Spot) : Address :=
  match s.name with
  | none => s.folder
  | some n => s.folder ++ [n]

/-- The node that a path leads to. -/
def find (t : FileTree) (p : Text) : Except IoFault (Address × Node) := do
  let s ← t.locate p
  match ← t.lookUp s with
  | none => .error .notFound
  | some .dir => .ok (s.address, .dir)
  | some (.file x c) => if s.slash then .error .notDirectory else .ok (s.address, .file x c)

def existsAt (t : FileTree) (p : Text) : Bool := (t.find p).isOk

def isDirAt (t : FileTree) (p : Text) : Bool :=
  match t.find p with
  | .ok (_, .dir) => true
  | _ => false

def read (t : FileTree) (p : Text) : Except IoFault Bytes :=
  match t.find p with
  | .error e => .error e
  | .ok (_, .dir) => .error .isDirectory
  | .ok (_, .file _ c) => .ok c

def readText (t : FileTree) (p : Text) : Except IoFault Text :=
  match t.read p with
  | .error e => .error e
  | .ok c =>
    match Utf8.decode c with
    | none => .error .notUtf8
    | some s => .ok s

/-- The address of the file that a path names or would name if it were written. -/
def fileSpot (t : FileTree) (p : Text) : Except IoFault Address := do
  let s ← t.locate p
  if s.slash then .error .isDirectory
  else match ← t.lookUp s with
    | some .dir => .error .isDirectory
    | _ => .ok s.address

/-- Gives a file new content. A file that was executable stays so. -/
def setContent (t : FileTree) (a : Address) (f : Bytes → Bytes) : FileTree :=
  match t.node? a with
  | some (.file x c) => t.put a (.file x (f c))
  | _ => t.put a (.file false (f []))

def write (t : FileTree) (p : Text) (c : Bytes) : Except IoFault FileTree := do
  let a ← t.fileSpot p
  .ok (t.setContent a fun _ => c)

def append (t : FileTree) (p : Text) (c : Bytes) : Except IoFault FileTree := do
  let a ← t.fileSpot p
  .ok (t.setContent a (· ++ c))

def makeDir (t : FileTree) (p : Text) : Except IoFault FileTree := do
  let s ← t.locate p
  match ← t.lookUp s with
  | some _ => .error .alreadyExists
  | none => .ok (t.put s.address .dir)

/-- Makes the first of these directories after making its parents, the rest of the list, as far as
they are missing. Directories made before a failure stay. -/
def makeDirs (t : FileTree) : List Text → FileTree × Except IoFault Unit
  | [] => (t, .error .noRoot)
  | p :: up =>
    if p.isEmpty then (t, .ok ())
    else match t.makeDir p with
      | .ok t => (t, .ok ())
      | .error .notFound =>
        match t.makeDirs up with
        | (t, .error e) => (t, .error e)
        | (t, .ok ()) =>
          match t.makeDir p with
          | .ok t => (t, .ok ())
          | .error e => if t.isDirAt p then (t, .ok ()) else (t, .error e)
      | .error e => if t.isDirAt p then (t, .ok ()) else (t, .error e)

/-- Makes a directory and its parents. -/
def makePath (t : FileTree) (p : Text) : FileTree × Except IoFault Unit :=
  t.makeDirs (Path.upwards p)

def isEmptyDir (t : FileTree) (a : Address) : Bool :=
  !t.nodes.any fun (b, _) => a.isPrefixOf b && b != a

/-- Moves a node and all that is below it. -/
def move (t : FileTree) (a b : Address) : FileTree :=
  { t with
    nodes := ((t.erase b).nodes).map fun (c, n) =>
      if a.isPrefixOf c then (b ++ c.drop a.length, n) else (c, n) }

/-- Gives what is at the first path the second one as its name. A file takes the place of a file, a
directory that of an empty directory. -/
def rename (t : FileTree) (p q : Text) : Except IoFault FileTree := do
  let s ← t.locate p
  let r ← t.locate q
  if s.name.isNone || r.name.isNone then .error .busy
  else match ← t.lookUp s, ← t.lookUp r with
    | none, _ => .error .notFound
    | some (.file ..), target =>
      if s.slash || r.slash then .error .notDirectory
      else if target = some .dir then .error .isDirectory
      else if s.address = r.address then .ok t
      else .ok (t.move s.address r.address)
    | some .dir, target =>
      match target with
      | some (.file ..) => .error .notDirectory
      | some .dir =>
        if s.address = r.address then .ok t
        else if t.isEmptyDir r.address then .ok (t.move s.address r.address)
        else .error .notEmpty
      | none => .ok (t.move s.address r.address)

def removeFile (t : FileTree) (p : Text) : Except IoFault FileTree := do
  match ← t.find p with
  | (_, .dir) => .error .isDirectory
  | (a, .file ..) => .ok (t.erase a)

/-- A name that nothing in the folder has: the least number between the two texts that is free. -/
def freshName (t : FileTree) (folder : Address) (before after : Text) : Text :=
  let name := fun k => before ++ Text.ofNat k ++ after
  name (((List.range (t.nodes.length + 1)).find? fun k =>
    (t.node? (folder ++ [name k])).isNone).getD 0)

/-- A new file under a name of its own in an existing directory, and its path. -/
def makeTemp (t : FileTree) (dir before after : Text) (executable : Bool) (c : Bytes) :
    Except IoFault (FileTree × Text) := do
  match ← t.find dir with
  | (_, .file ..) => .error .notDirectory
  | (a, .dir) =>
    let p := Path.join dir (t.freshName a before after)
    let b ← t.fileSpot p
    .ok (t.put b (.file executable c), p)

end FileTree

end Guidebook
