import Guidebook.FileTree.Basic
import Guidebook.Shell.Octet

namespace Guidebook.Shell

/-- The rights of a node, and when it was changed, in millionths of a second from the beginning of 1970 on. -/
structure Stamp where
  mode : Nat
  time : Nat
  deriving DecidableEq, Repr

/-- What a shell finds under a name: a directory, a file, a link, which stands for a path, or a device, which keeps
nothing of what is written to it. -/
inductive Node where
  | dir (m : Stamp)
  | file (m : Stamp) (content : Bytes)
  | link (m : Stamp) (target : Text)
  | device (m : Stamp) (name : Text)
  deriving DecidableEq, Repr

namespace Node

def stamp : Node → Stamp
  | .dir m | .file m _ | .link m _ | .device m _ => m

def mode (n : Node) : Nat := n.stamp.mode

def time (n : Node) : Nat := n.stamp.time

def isDir : Node → Bool
  | .dir _ => true
  | _ => false

def isLink : Node → Bool
  | .link .. => true
  | _ => false

def withStamp (m : Stamp) : Node → Node
  | .dir _ => .dir m
  | .file _ c => .file m c
  | .link _ t => .link m t
  | .device _ n => .device m n

/-- Whether anybody may run a file with some rights. -/
def runs (mode : Nat) : Bool := mode &&& 0o111 != 0

/-- Whether two nodes are alike but for the time. -/
def isLike : Node → Node → Bool
  | .dir m, .dir k => m.mode = k.mode
  | .file m c, .file k d => m.mode = k.mode && c = d
  | .link _ t, .link _ u | .device _ t, .device _ u => t = u
  | _, _ => false

end Node

/-- The files of a shell. Each name leads to a node by its number, so that several names may lead to the same one.
Then the directory that relative paths start from, the rights that new nodes do not get, the time, and how far what
has been opened has been written, by a number of its own: the node and the place in it. What has none is written to at its end. -/
structure Disk where
  names : List (Address × Nat)
  nodes : List (Nat × Node)
  fresh : Nat
  here : Address
  mask : Nat
  now : Nat
  opens : List (Nat × Nat × Nat) := []

namespace Disk

/-- The same files as they are for something that is in another directory and gives other rights. -/
def asIn (t other : Disk) : Disk := { t with here := other.here, mask := other.mask }

/-- How many names there are, and one more. -/
def size (t : Disk) : Nat := t.names.length + 1

def serial? (t : Disk) (a : Address) : Option Nat := (t.names.find? (·.1 = a)).map (·.2)

def content? (t : Disk) (k : Nat) : Option Node := t.nodes.lookup k

def node? (t : Disk) (a : Address) : Option Node :=
  if a = [] then some (.dir ⟨0o755, 0⟩) else (t.serial? a).bind t.content?

/-- A node becomes another one. -/
def change (t : Disk) (k : Nat) (n : Node) : Disk :=
  { t with nodes := (k, n) :: t.nodes.filter (·.1 ≠ k) }

/-- A directory has been changed. -/
def touchDir (t : Disk) (a : Address) : Disk :=
  match t.serial? a, t.node? a with
  | some k, some (.dir m) => t.change k (.dir { m with time := t.now })
  | _, _ => t

/-- Gives a node a name, which leads nowhere else from then on. -/
def name (t : Disk) (a : Address) (k : Nat) : Disk :=
  touchDir { t with names := (a, k) :: t.names.filter (·.1 ≠ a) } a.dropLast

/-- A new node under a name. -/
def add (t : Disk) (a : Address) (n : Node) : Disk :=
  name { t with nodes := (t.fresh, n) :: t.nodes, fresh := t.fresh + 1 } a t.fresh

def erase (t : Disk) (a : Address) : Disk :=
  touchDir { t with names := t.names.filter (·.1 ≠ a) } a.dropLast

/-- What is under a name becomes another node, for all names that lead to it. -/
def put (t : Disk) (a : Address) (n : Node) : Disk :=
  match t.serial? a with
  | some k => t.change k n
  | none => if a = [] then t else t.add a n

def newDir (t : Disk) : Node := .dir ⟨0o777 - (0o777 &&& t.mask), t.now⟩

def newFile (t : Disk) (c : Bytes) : Node := .file ⟨0o666 - (0o666 &&& t.mask), t.now⟩ c

def newLink (t : Disk) (target : Text) : Node := .link ⟨0o777, t.now⟩ target

def nameLimit : Nat := 255

def pathLimit : Nat := 4095

/-- Goes down directory by directory, and where links lead. -/
def descend (t : Disk) : Nat → Address → List Text → Except IoFault Address
  | _, a, [] => .ok a
  | 0, _, _ => .error .endless
  | n + 1, a, x :: xs =>
    if x = ['.'] then descend t n a xs
    else if x = ['.', '.'] then descend t n a.dropLast xs
    else if nameLimit < x.length then .error .nameTooLong
    else match t.node? (a ++ [x]) with
      | none => .error .notFound
      | some (.file ..) | some (.device ..) => .error .notDirectory
      | some (.dir _) => descend t n (a ++ [x]) xs
      | some (.link _ target) => descend t n (if Path.isAbsolute target then [] else a) (Path.names target ++ xs)

/-- How many steps a path may take. -/
def patience : Nat := 4200

/-- Everything up to the last name of a path has to be there; what the last name stands for is left open. -/
def locateFrom (t : Disk) (start : Address) (p : Text) : Except IoFault FileTree.Spot :=
  if p.isEmpty then .error .notFound
  else if pathLimit < p.length then .error .nameTooLong
  else
    match (Path.names p).reverse with
    | [] => .ok ⟨[], none, false⟩
    | last :: before =>
      match t.descend patience (if Path.isAbsolute p then [] else start) before.reverse with
      | .error e => .error e
      | .ok a =>
        if last = ['.'] then .ok ⟨a, none, false⟩
        else if last = ['.', '.'] then .ok ⟨a.dropLast, none, false⟩
        else .ok ⟨a, some last, p.getLast? = some '/'⟩

def locate (t : Disk) (p : Text) : Except IoFault FileTree.Spot := t.locateFrom t.here p

/-- What is at a spot, if its name can be looked up at all. -/
def lookUp (t : Disk) (s : FileTree.Spot) : Except IoFault (Option Node) :=
  match s.name with
  | none => .ok (some ((t.node? s.folder).getD (.dir ⟨0o755, 0⟩)))
  | some n => if nameLimit < n.length then .error .nameTooLong else .ok (t.node? (s.folder ++ [n]))

/-- Where a link at a spot leads in the end. -/
def followed (t : Disk) : Nat → FileTree.Spot → Except IoFault FileTree.Spot
  | 0, _ => .error .endless
  | n + 1, s =>
    match t.node? s.address with
    | some (.link _ target) =>
      match t.locateFrom s.folder target with
      | .error e => .error e
      | .ok r => followed t n { r with slash := r.slash || s.slash }
    | _ => .ok s

def linkLimit : Nat := 40

/-- Where a path leads in the end. -/
def spot (t : Disk) (p : Text) : Except IoFault FileTree.Spot := do t.followed linkLimit (← t.locate p)

def found (t : Disk) (s : FileTree.Spot) : Except IoFault (Address × Node) := do
  match ← t.lookUp s with
  | none => .error .notFound
  | some (.dir m) => .ok (s.address, .dir m)
  | some n => if s.slash then .error .notDirectory else .ok (s.address, n)

/-- The node that a path leads to. -/
def find (t : Disk) (p : Text) : Except IoFault (Address × Node) := do t.found (← t.spot p)

/-- The node that the last name of a path stands for, which may be a link. -/
def findName (t : Disk) (p : Text) : Except IoFault (Address × Node) := do
  let s ← t.locate p
  if s.slash then t.find p else t.found s

/-- The node that a path names. A link with a slash behind it is none. -/
def entry (t : Disk) (p : Text) : Except IoFault (Address × Node) := do t.found (← t.locate p)

def existsAt (t : Disk) (p : Text) : Bool := (t.find p).isOk

/-- Whether there is a node or a link by a name. -/
def hasName (t : Disk) (p : Text) : Bool := (t.findName p).isOk

def isDirAt (t : Disk) (p : Text) : Bool :=
  match t.find p with
  | .ok (_, .dir _) => true
  | _ => false

def isLinkAt (t : Disk) (p : Text) : Bool :=
  match t.findName p with
  | .ok (_, .link ..) => true
  | _ => false

/-- What can be read from a device. -/
def flow (name : Text) : Bytes :=
  match String.ofList name with
  | "zero" | "full" => List.replicate 1048576 0
  | "random" | "urandom" => (List.range 65536).map fun i => ((i * i * 2654435761 + i * 40503) / 65536).toUInt8
  | _ => []

def deviceNames : List Text := ["null", "zero", "full", "random", "urandom"].map String.toList

/-- Where devices are. -/
def devices : Address := ["dev".toList]

def read (t : Disk) (p : Text) : Except IoFault Bytes :=
  match t.find p with
  | .error e => .error e
  | .ok (_, .file _ c) => .ok c
  | .ok (_, .device _ n) => .ok (flow n)
  | .ok _ => .error .isDirectory

/-- The address of the file that a path names or would name if it were written. -/
def fileSpot (t : Disk) (p : Text) : Except IoFault Address := do
  let s ← t.spot p
  if s.slash then .error .isDirectory
  else match ← t.lookUp s with
    | some (.dir _) => .error .isDirectory
    | _ => .ok s.address

/-- Gives a file new content. -/
def setContent (t : Disk) (k : Nat) (f : Bytes → Bytes) : Disk :=
  match t.content? k with
  | some (.file m c) => t.change k (.file { m with time := t.now } (f c))
  | _ => t

/-- Some bytes with others from a place on. What is missing before that place is filled up. -/
def overlaid (c b : Bytes) (place : Nat) : Bytes :=
  if c.length ≤ place then c ++ List.replicate (place - c.length) 0 ++ b
  else c.take place ++ b ++ c.drop (place + b.length)

/-- Writes to a file that has been opened. -/
def pour (t : Disk) (k handle : Nat) (b : Bytes) : Disk :=
  match t.opens.lookup handle with
  | none => t.setContent k (· ++ b)
  | some (_, place) =>
    { t.setContent k (overlaid · b place) with
      opens := (handle, k, place + b.length) :: t.opens.filter (·.1 ≠ handle) }

/-- Something else has added to a file. Whoever had come to its end goes on behind that. -/
def grown (t : Disk) (k : Nat) (b : Bytes) : Disk :=
  let size := match t.content? k with
    | some (.file _ c) => c.length
    | _ => 0
  { t.setContent k (· ++ b) with
    opens := t.opens.map fun (h, n, place) => (h, n, if n = k && place = size then place + b.length else place) }

/-- Something has been opened that is written from its start on. -/
def withHandle (t : Disk) (k : Nat) : Disk × Nat :=
  ({ t with opens := (t.fresh, k, 0) :: t.opens, fresh := t.fresh + 1 }, t.fresh)

/-- Opens a file to write to it, which is made if it is not there. Its content stays or not. -/
def opened (t : Disk) (p : Text) (stays : Bool) : Except IoFault (Disk × Nat) := do
  let a ← t.fileSpot p
  match t.serial? a with
  | some k => .ok (if stays then t else t.setContent k fun _ => [], k)
  | none => .ok (t.add a (t.newFile []), t.fresh)

def write (t : Disk) (p : Text) (c : Bytes) : Except IoFault Disk := do
  let (t, k) ← t.opened p false
  .ok (t.setContent k fun _ => c)

def append (t : Disk) (p : Text) (c : Bytes) : Except IoFault Disk := do
  let (t, k) ← t.opened p true
  .ok (t.setContent k (· ++ c))

/-- A node under a name that nothing has. -/
def make (t : Disk) (p : Text) (n : Node) : Except IoFault Disk := do
  let s ← t.locate p
  match ← t.lookUp s with
  | some _ => .error .alreadyExists
  | none => .ok (t.add s.address n)

def makeDir (t : Disk) (p : Text) : Except IoFault Disk := t.make p t.newDir

/-- Makes directories, each in the one before it, as far as they are missing. -/
def makeDirs (t : Disk) : List Text → Disk
  | [] => t
  | p :: ps => makeDirs ((t.makeDir p).toOption.getD t) ps

/-- Makes a directory and its parents as far as that works. -/
def makePath (t : Disk) (p : Text) : Disk := t.makeDirs (Path.upwards p).reverse

def isEmptyDir (t : Disk) (a : Address) : Bool :=
  !t.names.any fun (b, _) => a.isPrefixOf b && b != a

/-- Moves a name and all that is below it. -/
def move (t : Disk) (a b : Address) : Disk :=
  let moved : Disk := { t with
    names := (t.names.filter (·.1 ≠ b)).map fun (c, k) =>
      if a.isPrefixOf c then (b ++ c.drop a.length, k) else (c, k) }
  (moved.touchDir a.dropLast).touchDir b.dropLast

/-- Gives what is at the first path the second one as its name. A directory takes the place of an empty one only,
and all else that of no directory. -/
def rename (t : Disk) (p q : Text) : Except IoFault Disk := do
  let s ← t.locate p
  let r ← t.locate q
  if s.name.isNone || r.name.isNone then .error .busy
  else
    let moved := if s.address = r.address then t else t.move s.address r.address
    match ← t.lookUp s, ← t.lookUp r with
    | none, _ => .error .notFound
    | some (.dir _), none => .ok moved
    | some (.dir _), some (.dir _) =>
      if s.address = r.address || t.isEmptyDir r.address then .ok moved else .error .notEmpty
    | some (.dir _), some _ => .error .notDirectory
    | some _, some (.dir _) => .error .isDirectory
    | some _, _ => if s.slash || r.slash then .error .notDirectory else .ok moved

def removeFile (t : Disk) (p : Text) : Except IoFault Disk := do
  match ← t.findName p with
  | (_, .dir _) => .error .isDirectory
  | (a, _) => .ok (t.erase a)

/-- The names in a directory. -/
def namesIn (t : Disk) (a : Address) : List Text :=
  t.names.filterMap fun (b, _) => if b.length = a.length + 1 ∧ a.isPrefixOf b then b.getLast? else none

/-- How many names a node has. -/
def links (t : Disk) (a : Address) : Nat :=
  match t.serial? a with
  | none => 1
  | some k => (t.names.filter (·.2 = k)).length

/-- The moment at which everything starts if nothing tells another one. -/
def beginning : Nat := 1767225600000000

/-- How long a day is. -/
def dayLength : Nat := 86400000000

/-- A node of the files at large, with what is known about it. -/
def ofNode (mark : Option Mark) (a : Address) (n : Guidebook.Node) : Node :=
  let time := (mark.map (·.time)).getD beginning
  let mode := (mark.map (·.mode)).getD 0
  match mark.bind (·.target), n with
  | some t, _ => .link ⟨0o777, time⟩ (Octet.ofText t)
  | none, .dir => .dir ⟨if mark.isSome then mode else if a = ["tmp".toList] then 0o1777 else 0o755, time⟩
  | none, .file x c =>
    if a.dropLast = devices then .device ⟨0o666, time⟩ ((a.getLast?).getD [])
    else .file ⟨if mark.isSome && Node.runs mode = x then mode else if x then 0o755 else 0o644, time⟩ c

/-- Nodes with their numbers: those that have been known by one number are one, as far as they are alike. -/
def numbered (top : Nat) (all : List (Address × Option Mark × Node)) : List (Address × Nat × Node) :=
  all.zipIdx.map fun x =>
    let known : Option Nat := do
      let m ← x.1.2.1
      let e ← all.find? fun e => match e.2.1 with
        | some k => k.serial = m.serial
        | none => false
      if e.2.2.isLike x.1.2.2 then some m.serial else none
    (x.1.1, known.getD (top + x.2), x.1.2.2)

/-- Files as a shell has them: their names are its texts. What is below a link is only seen through it. -/
def ofTree (t : FileTree) : Disk :=
  let isLinked := fun (a : Address) => t.marks.any fun (b, m) => m.target.isSome && b.isPrefixOf a && b != a
  let mark? := fun (a : Address) => (t.marks.find? (·.1 = a)).map (·.2)
  let given := (t.nodes.filter fun n => !isLinked n.1).map fun (a, n) => (a, mark? a, ofNode (mark? a) a n)
  let lost := t.marks.filterMap fun (a, m) =>
    if m.target.isSome && !isLinked a && (t.node? a).isNone then some (a, some m, ofNode (some m) a .dir) else none
  let top := (t.marks.map (·.2.serial)).foldl max 0 + 1
  let more := (deviceNames.map fun n => devices ++ [n]).filterMap fun a =>
    if (t.node? devices).isSome && (t.node? a).isNone then some (a, none, ofNode none a (.file false [])) else none
  let all := numbered top (given ++ lost ++ more)
  { names := all.map fun (a, k, _) => (a.map Octet.ofText, k)
    nodes := all.map fun (_, k, n) => (k, n)
    fresh := top + all.length, here := t.here.map Octet.ofText, mask := 0o022
    now := ((t.marks.map (·.2.time)).filter (· < beginning + dayLength)).foldl max beginning }

/-- All that is at an address as others see it, where links stand for what they lead to. -/
def shown (t : Disk) : Nat → Address → Address → List (Address × Guidebook.Node)
  | 0, _, _ => []
  | n + 1, seen, a =>
    match t.node? a with
    | none => []
    | some (.file m c) => [(seen, .file (Node.runs m.mode) c)]
    | some (.device ..) => [(seen, .file false [])]
    | some (.dir _) => (seen, .dir) :: (t.namesIn a).flatMap fun x => shown t n (seen ++ [x]) (a ++ [x])
    | some (.link ..) =>
      match a.getLast? with
      | none => []
      | some x =>
        match t.followed linkLimit ⟨a.dropLast, some x, false⟩ with
        | .error _ => []
        | .ok s => if s.address.isPrefixOf a then [(seen, .dir)] else shown t n seen s.address

/-- Files as others have them. -/
def toTree (t : Disk) : FileTree :=
  let plain := t.names.flatMap fun (a, _) =>
    match t.node? a with
    | some (.link ..) => t.shown t.size a a
    | some (.dir _) => [(a, Guidebook.Node.dir)]
    | some (.file m c) => [(a, .file (Node.runs m.mode) c)]
    | some (.device ..) => [(a, .file false [])]
    | none => []
  let marks := t.names.filterMap fun (a, k) => (t.content? k).map fun n =>
    (a.map Octet.toText, (⟨k, n.mode, n.time, match n with
      | .link _ u => some (Octet.toText u)
      | _ => none⟩ : Mark))
  { nodes := plain.map fun (a, n) => (a.map Octet.toText, n), here := t.here.map Octet.toText, marks }

end Disk

end Guidebook.Shell
