import Guidebook.Shell.ByteSet
import Guidebook.Shell.Collation
import Guidebook.Shell.Column
import Guidebook.Shell.Copy
import Guidebook.Shell.Difference
import Guidebook.Shell.Digest
import Guidebook.Shell.Dump
import Guidebook.Shell.Errand
import Guidebook.Shell.Excerpt
import Guidebook.Shell.Find
import Guidebook.Shell.Layout
import Guidebook.Shell.LineOrder
import Guidebook.Shell.Listing
import Guidebook.Shell.Magnitude
import Guidebook.Shell.OptionList
import Guidebook.Shell.Paragraph
import Guidebook.Shell.Partition
import Guidebook.Shell.Portion
import Guidebook.Shell.Precedence
import Guidebook.Shell.Reckon
import Guidebook.Shell.Redirection
import Guidebook.Shell.Repeat
import Guidebook.Shell.Row.Tool
import Guidebook.Shell.Search
import Guidebook.Shell.Standalone
import Guidebook.Shell.StreamEdit
import Guidebook.Shell.Surroundings

namespace Guidebook.Shell

namespace Finish

/-- The end of a part of the shell that stands apart. Signals go to the whole, and so does the time. -/
def apart : Finish → Finish
  | .killed n => .killed n
  | .late => .late
  | f => .status f.code

end Finish

namespace Launch

def folders : List Text := ["/bin/".toList, "/usr/bin/".toList]

/-- The name of a program that every system has, which may be given with its directory. -/
def bareName (t : Text) : Text :=
  match folders.find? (·.isPrefixOf t) with
  | some f => t.drop f.length
  | none => t

def shells : List Text := ["sh".toList, "dash".toList, "bash".toList]

/-- Programs that every system has. -/
def tools : List (Text × Tool) :=
  Standalone.all ++ FileTool.all ++ Copy.all ++ TextTool.all ++ Search.all ++ Reckon.all ++
    Difference.all ++ Digest.all ++ Dump.all ++ Surroundings.all ++ Inquiry.all ++ Portion.all ++ Partition.all ++
    Listing.all ++ Excerpt.all ++ Repeat.all ++ Column.all ++ ByteSet.all ++ Layout.all ++
    Collation.all ++ Precedence.all ++ Paragraph.all ++ Magnitude.all ++ OptionList.all ++
    [("sort".toList, LineOrder.sort), ("sed".toList, StreamEdit.sed),
     ("sleep".toList, Errand.sleep)]

/-- Runs a text in a shell in a process of its own, which may be killed. -/
def apart (read : Reader) (t : Text) (n m : Machine) : Ran :=
  let r := read.atEnd (read.run 1 t n)
  ⟨m.afterwards r.machine r.finish.code, r.printed, r.finish.apart⟩

/-- The shell that has started another one goes on when that has been killed. -/
def survive (r : Ran) : Ran :=
  match r.finish with
  | .killed n =>
    ⟨r.machine, r.printed ++ Signal.lastWords (.killed n), .status (128 + n)⟩
  | _ => r

/-- Letters that come before what a shell is to run, and whether that is a text, or the first of them
that is unknown. -/
def letters (w : Manner) (command : Bool) : List Text → Except Text (Manner × Bool × List Text)
  | ['-'] :: as => .ok (w, command, as)
  | ['-', 'o'] :: n :: as | ['+', 'o'] :: n :: as =>
    match Builtin.letterOf? n with
    | some c => letters (w.told true c) command as
    | none => .error ("o ".toList ++ n)
  | (s :: c :: cs) :: as =>
    if s ≠ '-' ∧ s ≠ '+' then .ok (w, command, (s :: c :: cs) :: as)
    else if s = '-' ∧ c = '-' ∧ cs.isEmpty then .ok (w, command, as)
    else
      let ours := (c :: cs).filter fun d => d ≠ 'c' && d ≠ 'l'
      match ours.find? fun d => (Manner.names.lookup d).isNone with
      | some d => .error [d]
      | none => letters (ours.foldl (fun w d => w.told (s = '-') d) w) (command || (c :: cs).contains 'c') as
  | as => .ok (w, command, as)

/-- Runs a shell in a process of its own: with `-c` a text, else a file. -/
def shell (read : Reader) (name : Text) (args : List Text) (m : Machine) : Ran :=
  let exported := m.vars.filter fun v => v.exported && v.value.isSome
  let child := fun (w : Manner) (name : Text) (args : List Text) =>
    { Machine.fresh m.tree exported name args m.input with
      manner := w, feeds := m.feeds, wiring := m.wiring.straightened, course := m.course,
      traps := m.within.traps }
  let fromInput := fun (w : Manner) (args : List Text) =>
    apart read (Octet.decode m.input) { child w name args with input := [] } { m with input := [] }
  match letters .usual false args with
  | .error t => m.tell .err (name ++ ": 0: Illegal option -".toList ++ t ++ ['\n']) 2
  | .ok (_, true, []) => m.tell .err (name ++ ": 0: -c requires an argument\n".toList) 2
  | .ok (w, true, [t]) => apart read t (child w name []) m
  | .ok (w, true, t :: n :: ps) => apart read t (child w n ps) m
  | .ok (w, false, []) => fromInput w []
  | .ok (w, false, a :: as) =>
    if w.letters.contains 's' then fromInput w (a :: as)
    else match (m.tree.read a).map Octet.decode with
    | .error _ => m.tell .err (name ++ ": 0: cannot open ".toList ++ a ++ ": No such file\n".toList) 2
    | .ok t => apart read t (child w a as) m

/-- Programs that start others. -/
def errands : List (Text × (Reader → Tool)) := Errand.all ++ Row.all ++ [("find".toList, Find.find)]

/-- Whether every system has a program by a name. -/
def isKnown (name : Text) : Bool :=
  (tools.lookup name).isSome || shells.contains name || (errands.lookup name).isSome ||
    name = "which".toList

/-- Where programs are looked for. -/
def places (m : Machine) : List Text :=
  (Text.pieces (· == ':') ((m.value? "PATH".toList).getD [])).map fun d =>
    if d.isEmpty then "./".toList else if d.getLast? = some '/' then d else d ++ ['/']

def isFileAt (t : Disk) (p : Text) : Bool := t.existsAt p && !t.isDirAt p

/-- Whether a path is that of a program, or why it is none. -/
def isProgram (t : Disk) (p : Text) : Except IoFault Unit :=
  match folders.find? (·.isPrefixOf p), t.find p with
  | some f, .error _ =>
    if isKnown (bareName p) then .ok () else if p = f then .error .denied else .error .notFound
  | _, .ok (_, .file s _) => if Node.runs s.mode then .ok () else .error .denied
  | _, .ok _ => .error .denied
  | _, .error e => .error e

/-- The path of a program, or why there is none. What is looked for by its name alone has to be one that can be
started. -/
def located (m : Machine) (name : Text) : Except IoFault Text :=
  if name.contains '/' then
    if isFileAt m.tree name then .ok name
    else (isProgram m.tree name).map fun _ => name
  else
    let tried := (places m).map fun d => ((isProgram m.tree (d ++ name)).map fun _ => d ++ name)
    match tried.find? (·.isOk) with
    | some r => r
    | none => .error (if tried.any fun r => r matches .error .denied then .denied else .notFound)

def located? (m : Machine) (name : Text) : Option Text := (located m name).toOption

/-- Keeps in mind where a program is that has been found by its name alone. -/
def remembered (m : Machine) (name : Text) : Machine :=
  if name.contains '/' || (m.found.lookup name).isSome then m
  else match located? m name with
    | some p => { m with found := m.found ++ [(name, p)] }
    | none => m

/-- In which of some rows the shell keeps a name in mind. -/
def rowOf (name : Text) : Nat :=
  match name with
  | [] => 0
  | c :: cs => ((c :: cs).foldl (fun n d => n + d.toNat) (c.toNat * 16)) % 32768 % 31

/-- Nothing has been started. The flag tells whether the shell was to be replaced. -/
def notStarted (m : Machine) (replaces : Bool) (name : Text) (e : IoFault) : Ran :=
  if e = .denied then
    m.tell .err (m.ownComplaint (name ++ ": Permission denied".toList)) (if replaces || name.contains '/' then 126 else 127)
  else m.tell .err (m.ownComplaint (name ++ ": not found".toList)) 127

/-- What comes of a start that may not work. -/
def orElse (m : Machine) (front name : Text) : Except IoFault Ran → Ran
  | .ok r => r
  | .error e => notStarted m (!front.isEmpty) (front ++ name) e

/-- Tells where programs are. -/
def which : Tool := program "which" 2 { plain := "as" } fun _ names m =>
  let found := names.filterMap (located? m)
  m.tell .out (found.flatMap (· ++ ['\n'])) (if !names.isEmpty && found.length = names.length then 0 else 1)

/-- What the first line of a file says about what is to run it: a program and perhaps an argument. -/
def runner? (c : Bytes) : Option (Text × List Text) :=
  match Octet.decode (c.takeWhile (· ≠ 10)) with
  | '#' :: '!' :: t =>
    let t := Text.trim t
    let name := t.takeWhile fun c => c ≠ ' ' && c ≠ '\t'
    let rest := Text.trim (t.drop name.length)
    some (name, if rest.isEmpty then [] else [rest])
  | _ => none

/-- Programs that leave out the directory when they speak of themselves, and those that always do. -/
def shortened : List Text := ["rev", "column", "hexdump", "more", "getopt", "xxd"].map String.toList

def silent : List Text := ["awk", "mawk", "egrep", "fgrep", "kill", "which"].map String.toList

/-- A line in which a program calls itself by the name that it was started with. -/
def ownLine (bare name : Text) (l : Bytes) : Bytes :=
  let front := Octet.encode (bare ++ ": ".toList)
  let hint := Octet.encode ("Try '".toList ++ bare ++ " --help'".toList)
  let rest := l.drop front.length
  let common := ["invalid option", "unrecognized option", "option requires", "option '"].any fun t =>
    (Octet.encode t.toList).isPrefixOf rest
  if front.isPrefixOf l && (common || !shortened.contains bare) then
    Octet.encode (name ++ ": ".toList) ++ (if hint.isPrefixOf rest then
      Octet.encode ("Try '".toList ++ name ++ " --help'".toList) ++ rest.drop hint.length else rest)
  else if hint.isPrefixOf l && !shortened.contains bare then
    Octet.encode ("Try '".toList ++ name ++ " --help'".toList) ++ l.drop hint.length
  else l

/-- What a program has printed that was started by a name with a directory. -/
def calledBy (bare name : Text) (r : Ran) : Ran :=
  if bare = name || silent.contains bare then r
  else
    { r with printed := r.printed.map fun w =>
        if w.1 = .err then (w.1, (FileTool.endedBy 10 w.2).flatMap (ownLine bare name)) else w }

/-- Starts a program that every system has. -/
def startKnown (read : Reader) (after : Ran → Ran) (bare name : Text) (args : List Text) (m : Machine) :
    Except IoFault Ran :=
  if shells.contains bare then .ok (after (shell read name args m))
  else if bare = "which".toList then .ok (which args m)
  else match errands.lookup bare, tools.lookup bare with
    | some t, _ => .ok (calledBy bare name (t read args m))
    | none, some t => .ok (calledBy bare name (t args m))
    | none, none => .error .notFound

/-- Starts a program by its name or its path. What comes of a shell is passed on in some way. -/
def start (read : Reader) (after : Ran → Ran) (name : Text) (args : List Text) (m : Machine) :
    Except IoFault Ran :=
  match located m name with
  | .error e => .error e
  | .ok p =>
    if isFileAt m.tree p then
      match m.tree.find p with
      | .ok (_, .file s c) =>
        if !Node.runs s.mode then .error .denied
        else match runner? c with
        | none => .ok (after (shell read name (p :: args) m))
        | some (r, as) =>
          if folders.any (·.isPrefixOf r) then startKnown read after (bareName r) r (as ++ p :: args) m
          else .error .notFound
      | _ => .error .denied
    else startKnown read after (bareName p) name args m

end Launch

end Guidebook.Shell
