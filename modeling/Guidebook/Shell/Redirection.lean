import Guidebook.Shell.Expansion
import Guidebook.Shell.FileTool

namespace Guidebook.Shell

namespace Redirect

def emptyFile : Text := "/dev/null".toList

def fullFile : Text := "/dev/full".toList

/-- The streams that files stand for. -/
def streamFile? (p : Text) : Option Nat :=
  if p = "/dev/stdin".toList then some 0
  else if p = "/dev/stdout".toList then some 1
  else if p = "/dev/stderr".toList then some 2
  else if "/dev/fd/".toList.isPrefixOf p then Text.natural? (p.drop 8)
  else none

/-- A file that is opened to be written; the flag tells whether its content stays. -/
def opened (t : Disk) (p : Text) (stays : Bool) : Except Text (Disk × Nat) :=
  (t.opened p stays).mapError fun e => "cannot create ".toList ++ p ++ ": ".toList ++
    (if e = .notFound || e = .notDirectory then "Directory nonexistent".toList else FileTool.reason e)

/-- A shell and where its streams go. -/
abbrev Wired := Machine × Wiring

/-- A stream is read from, which may be that of a file. -/
def feedBy (node : Option Nat) (k : Wired) (stream : Nat) (c : Bytes) : Wired :=
  let w := k.2.withReading stream node
  if stream = 0 then ({ k.1 with input := c }, { w with source := 0 })
  else ({ k.1 with feeds := (stream, c) :: k.1.feeds.filter (·.1 ≠ stream) }, w.unwire stream)

def feed : Wired → Nat → Bytes → Wired := feedBy none

/-- A stream is written to. -/
def pour (k : Wired) (stream : Nat) (s : Sink) : Wired :=
  if stream = 0 then feed k 0 []
  else ({ k.1 with feeds := k.1.feeds.filter (·.1 ≠ stream) }, k.2.rewire stream s)

def close (k : Wired) (stream : Nat) : Wired :=
  if stream = 0 then feed k 0 []
  else ({ k.1 with feeds := k.1.feeds.filter (·.1 ≠ stream) }, k.2.unwire stream)

/-- Lets a stream be the same as another one. -/
def share (k : Wired) (stream other : Nat) : Except Text Wired :=
  if stream = other then .ok k
  else if other = 0 then .ok (feedBy (k.2.reading? 0) k stream k.1.input)
  else match (k.1.feeds.lookup other).filter fun _ => stream = 0 || (k.2.numbered? other).isNone, k.2.numbered? other with
    | some c, _ =>
      let r := feedBy (k.2.reading? other) k stream c
      .ok (if stream = 0 then (r.1, { r.2 with source := other }) else r)
    | none, some s => .ok (pour k stream s)
    | none, none => .error (Text.ofNat other ++ ": Bad file descriptor".toList)

/-- A stream is written to a file that has been opened, at its end or from its start on. -/
def taken (k : Wired) (stream node : Nat) (atEnd : Bool) : Wired :=
  if atEnd then pour k stream (.file node 0)
  else
    let (t, handle) := k.1.tree.withHandle node
    pour ({ k.1 with tree := t }, k.2) stream (.file node handle)

/-- Forgets how far files have been written that have been opened since some time and are open no more. -/
def forgotten (m : Machine) (since : Nat) : Machine :=
  let isOpen := m.wiring.handles.contains
  { m with tree := { m.tree with opens := m.tree.opens.filter fun o => o.1 < since || isOpen o.1 } }

def isFile (t : Disk) (p : Text) : Bool :=
  match t.find p with
  | .ok (_, .file ..) => true
  | _ => false

/-- A redirection to something that has been filled in. -/
def apply (k : Wired) (r : Redirect) (p : Text) : Except Text Wired := do
  let (m, w) := k
  let put := fun (stays : Bool) =>
    if p = emptyFile then .ok (pour k r.stream .nowhere)
    else if p = fullFile then .ok (pour k r.stream .full)
    else do
      let (t, n) ← opened m.tree p stays
      return taken ({ m with tree := t, course := m.course.opened n stays }, w) r.stream n stays
  match r.sort, streamFile? p with
  | .duplicate, _ => if p = ['-'] then return close k r.stream else share k r.stream (Text.digitsValue p)
  | .here, _ => return feed k r.stream (Octet.encode p)
  | .read, some s => share k r.stream s
  | sort, some s =>
    match if r.stream = 0 then none else w.numbered? s with
    | some (.file n _) =>
      if sort = .append then return pour k r.stream (.file n 0)
      else
        let t := if sort = .both then m.tree else m.tree.setContent n fun _ => []
        return taken ({ m with tree := t }, w) r.stream n false
    | _ => share k r.stream s
  | .read, none =>
    if p = emptyFile then return feed k r.stream []
    else match m.tree.read p with
      | .ok c => return feedBy ((m.tree.find p).toOption.bind fun x => m.tree.serial? x.1) k r.stream c
      | .error e => .error ("cannot open ".toList ++ p ++ ": ".toList ++
          (if e = .notFound || e = .notDirectory then "No such file".toList else FileTool.reason e))
  | .both, none =>
    if p = emptyFile then return feed k r.stream []
    else do
      let (t, n) ← opened m.tree p true
      let c := (t.read p).toOption.getD []
      if r.stream = 0 then return feedBy (some n) ({ m with tree := t }, w) 0 c
      else
        let (m, w) := taken ({ m with tree := t }, w) r.stream n false
        return ({ m with feeds := (r.stream, c) :: m.feeds }, w.withReading r.stream (some n))
  | .append, none => put true
  | .force, none => put false
  | .write, none =>
    if m.manner.keeping && isFile m.tree p then
      .error ("cannot create ".toList ++ p ++ ": File exists".toList)
    else put false

def namesStream (p : Text) : Bool := p = ['-'] || p.length = 1 && Text.isDigits p

def applyAll (read : Reader) (w : Wiring) : List Redirect → Expansion (Except Text Wiring)
  | [] => return .ok w
  | r :: rs => do
    let p ← r.target.text read
    if r.sort = .duplicate && !namesStream p then Expansion.fail "Syntax error: Bad fd number".toList
    match apply ((← get).machine, w) r p with
    | .error e => return .error e
    | .ok (m, w) => do
      modify fun q => { q with machine := m }
      applyAll read w rs

/-- What is written on the way out of a shell goes where its own streams go. -/
def outward (r : Ran) (w : Wiring) : Ran :=
  if w = .straight then r
  else
    let d := w.deliver r.machine.tree r.printed
    { r with machine := { r.machine with tree := d.1 }, printed := d.2 }

/-- Puts the streams back that have been redirected. A stream that has been read in the place of the
input is left as far as it has been read. -/
def restored (rs : List Redirect) (m : Machine) (w : Wiring) (r : Ran) : Ran :=
  let ours := rs.map (·.stream)
  let n := r.machine
  let feeds := n.feeds.map fun (k, c) => if k = w.source then (k, n.input) else (k, c)
  let feeds := m.feeds.filter (ours.contains ·.1) ++ feeds.filter (!ours.contains ·.1)
  let input := if ours.contains 0 then m.input else n.input
  { r with machine := { n with input := input, feeds := feeds, wiring := m.wiring } }

/-- Runs something whose streams are redirected. If its input is another one, the input of the shell
is left as it is. A redirection that does not work may end the shell. -/
def around (read : Reader) (fatal : Bool) (rs : List Redirect) (f : Machine → Ran) (m : Machine) : Ran :=
  if rs.isEmpty then f m
  else match (applyAll read m.wiring rs).run (.start m) with
  | .error r => outward r m.wiring
  | .ok (.error e, p) =>
    let n := { p.machine with input := m.input, feeds := m.feeds }
    outward ⟨n, p.said ++ [(.err, Octet.encode (n.ownComplaint e))],
      if fatal then .exit 2 else .status 2⟩ m.wiring
  | .ok (.ok w, p) =>
    let said := outward ⟨p.machine, p.said, .status 0⟩ m.wiring
    let r := restored rs m w (f { said.machine with wiring := w })
    { r with machine := forgotten r.machine m.tree.fresh, printed := said.printed ++ r.printed }

end Redirect

end Guidebook.Shell
