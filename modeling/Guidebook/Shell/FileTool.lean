import Guidebook.Shell.Builtin
import Guidebook.Shell.Calendar
import Guidebook.Shell.Menu
import Guidebook.Shell.Rights
import Guidebook.Shell.Walk

namespace Guidebook.Shell

namespace FileTool

/-- The words for a failure. -/
def reason (e : IoFault) : Text :=
  match Text.cut? '(' e.message with
  | some (t, _) => Text.trimEnd t
  | none => e.message

/-- Something that did not work, with the status of that. -/
structure Complaint where
  what : Text
  status : Nat

def complain (tool what : String) (path : Text) (e : IoFault) (status : Nat) : Complaint :=
  ⟨tool.toList ++ ": ".toList ++ what.toList ++ path ++ ": ".toList ++ reason e ++ ['\n'], status⟩

/-- A complaint in words of its own. -/
def objection (tool : String) (what : Text) (status : Nat) : Complaint :=
  ⟨tool.toList ++ ": ".toList ++ what ++ ['\n'], status⟩

/-- A text between quotation marks, where a backslash stands before what cannot stand there alone. -/
def literal (p : Text) : Text := '\'' :: p.flatMap sign ++ ['\'']
where
  sign (c : Char) : Text :=
    if c = '\'' || c = '\\' then ['\\', c]
    else if 32 ≤ c.toNat && c.toNat < 127 then [c]
    else (escapes.lookup c.toNat).getD ('\\' :: [c.toNat / 64, c.toNat / 8 % 8, c.toNat % 8].map fun k => Char.ofNat (48 + k))
  escapes : List (Nat × Text) :=
    [(7, ['\\', 'a']), (8, ['\\', 'b']), (9, ['\\', 't']), (10, ['\\', 'n']), (11, ['\\', 'v']),
     (12, ['\\', 'f']), (13, ['\\', 'r'])]

/-- A name between quotation marks, as a shell would read it. -/
def quoted (p : Text) : Text :=
  let isPlain := fun (c : Char) => 32 ≤ c.toNat && c.toNat < 127
  let needsMore := fun (c : Char) => !isPlain c || "\"$`\\!".toList.contains c
  if p.contains '\'' && !p.any needsMore then '"' :: p ++ ['"']
  else '\'' :: go false p
where
  go : Bool → Text → Text
    | escaped, [] => if escaped then ['\''] else ['\'']
    | escaped, c :: cs =>
      if 32 ≤ c.toNat && c.toNat < 127 then
        (if escaped then ['\'', '\''] else []) ++ (if c = '\'' then ['\'', '\\', '\'', '\''] else [c]) ++ go false cs
      else (if escaped then [] else ['\'', '$', '\'']) ++ literal.sign c ++ go true cs

/-- Whether a shell would read a word as it is. -/
def isBare (p : Text) : Bool :=
  let isSafe := fun (c : Char) => c.isAlphanum || "-_./:,+@%]\x7b\x7d".toList.contains c
  let isWithin := fun (c : Char) => isSafe c || c = '#' || c = '~'
  (p.head?.map isSafe).getD false && p.all isWithin && p ≠ ['\x7b'] && p ≠ ['\x7d']

/-- A name, between quotation marks only if a shell would not read it as it is, or if it could be taken for a name and
what is said about it. -/
def named (p : Text) : Text := if isBare p && !p.contains ':' then p else quoted p

/-- What is done to files, what is said about it, and a complaint. -/
abbrev Act := Disk → Disk × Bytes × Option Complaint

/-- Does one thing after the other. One that does not work keeps the others from nothing; the status
is the worst. -/
def each (steps : List Act) (m : Machine) : Ran :=
  steps.foldl (fun r f =>
    let (t, out, c) := f r.machine.tree
    let said := (if out.isEmpty then [] else [(Channel.out, out)]) ++
      (c.map fun c => (Channel.err, Octet.encode c.what)).toList
    ⟨{ r.machine with tree := t }, r.printed ++ said,
      .status (max r.finish.code ((c.map (·.status)).getD 0))⟩) (m.ends 0)

def settle (t : Disk) (c : IoFault → Complaint) : Except IoFault Disk → Disk × Bytes × Option Complaint
  | .ok t => (t, [], none)
  | .error e => (t, [], some (c e))

def lineOf (t : Text) : Bytes := Octet.encode (t ++ ['\n'])

/-- Something that has been done, about which something may be said. -/
def saying (said : Bool) (what : Text) (t : Disk) : Disk × Bytes × Option Complaint :=
  (t, if said then lineOf what else [], none)

def refusing (c : Complaint) (t : Disk) : Disk × Bytes × Option Complaint := (t, [], some c)

def missing (tool : String) (m : Machine) : Ran := misused tool "missing operand".toList 1 m

/-- Whether a name stands for the input. -/
def isInput (p : Text) : Bool := p = ['-'] || p = "/dev/stdin".toList || p = "/dev/fd/0".toList

/-- The contents that a tool reads, by name, complaints about those that cannot be read, and the shell
afterwards. The input stands where a `-` is, but not twice, and where nothing else is named. -/
def sourcesBy (wording : Text → IoFault → Text) (tool : String) (status : Nat) (files : List Text)
    (m : Machine) : List (Text × Bytes) × List Complaint × Machine :=
  go (if files.isEmpty then [['-']] else files) m
where
  go : List Text → Machine → List (Text × Bytes) × List Complaint × Machine
    | [], m => ([], [], m)
    | p :: ps, m =>
      if isInput p then
        let r := go ps { m with input := [] }
        ((p, m.input) :: r.1, r.2)
      else
        let r := go ps m
        match m.tree.read p with
        | .ok c => ((p, c) :: r.1, r.2)
        | .error e => (r.1, objection tool (wording p e) status :: r.2.1, r.2.2)

def sources (tool what : String) (status : Nat) (files : List Text) (m : Machine) :
    List (Text × Bytes) × List Complaint × Machine :=
  let shown := fun (p : Text) => if what.isEmpty && tool ≠ "grep" then named p else p
  sourcesBy (fun p e => what.toList ++ shown p ++ ": ".toList ++ reason e) tool status files m

/-- Tools that open all that they read before they read it. -/
def opening (p : Text) (e : IoFault) : Text :=
  if e = .isDirectory then "error reading ".toList ++ quoted p ++ ": ".toList ++ reason e
  else "cannot open ".toList ++ quoted p ++ " for reading: ".toList ++ reason e

/-- A tool has said what it has to say. -/
def finish (complaints : List Complaint) (out : Bytes) (status : Nat) (m : Machine) : Ran :=
  let said := complaints.map fun c => (Channel.err, Octet.encode c.what)
  ⟨m, said ++ (if out.isEmpty then [] else [(.out, out)]),
    .status (complaints.foldl (fun s c => max s c.status) status)⟩

/-- The lines of some bytes. Each keeps its end if it has one. -/
def linesOf (b : Bytes) : List Bytes :=
  match b with
  | [] => []
  | x :: xs =>
    if x = 10 then [10] :: linesOf xs
    else match linesOf xs with
      | [] => [[x]]
      | l :: ls => (x :: l) :: ls

/-- A line without its end. -/
def bare (l : Bytes) : Bytes := if l.getLast? = some 10 then l.dropLast else l

def ended (l : Bytes) : Bytes := bare l ++ [10]

def isEnded (l : Bytes) : Bool := l.getLast? = some 10

def textOf (b : Bytes) : Text := Octet.decode b

/-- A text at the right of a column. -/
def atRight (width : Nat) (t : Text) : Text := List.replicate (width - t.length) ' ' ++ t

/-- A count with a letter for what it counts. -/
def sized? (t : Text) : Option Nat :=
  let ds := t.takeWhile Char.isDigit
  if ds.isEmpty then none
  else
    let n := Text.digitsValue ds
    match String.ofList (t.drop ds.length) with
    | "" | "c" => some n
    | "w" => some (2 * n)
    | "b" => some (512 * n)
    | "k" | "K" | "KiB" => some (1024 * n)
    | "kB" | "KB" => some (1000 * n)
    | "M" | "m" | "MiB" => some (1048576 * n)
    | "MB" => some (1000000 * n)
    | "G" | "GiB" => some (1073741824 * n)
    | _ => none

/-- A byte in signs that can be seen. -/
def visible (controls tabs : Bool) (x : UInt8) : Bytes :=
  if x = 9 then if tabs then [94, 73] else [9]
  else if !controls || x = 10 then [x]
  else
    let low := if 128 ≤ x then x - 128 else x
    let sign := if low < 32 then [94, low + 64] else if low = 127 then [94, 63] else [low]
    if 128 ≤ x then [77, 45] ++ sign else sign

/-- Leaves out empty lines that follow an empty line. -/
def squeezed : Bool → List Bytes → List Bytes
  | _, [] => []
  | empty, l :: ls =>
    let here := l = [10]
    if empty && here then squeezed true ls else l :: squeezed here ls

/-- Numbers lines, perhaps not the empty ones. -/
def numbered (onlyFull : Bool) : Nat → List Bytes → List Bytes
  | _, [] => []
  | n, l :: ls =>
    if onlyFull && l = [10] then l :: numbered onlyFull n ls
    else (Octet.encode (atRight 6 (Text.ofNat n) ++ ['\t']) ++ l) :: numbered onlyFull (n + 1) ls

/-- Lines in a way that shows what else cannot be seen. -/
def displayed (g : Given) (b : Bytes) : Bytes :=
  let ls := if g.has 's' then squeezed false (linesOf b) else linesOf b
  let ls := ls.map fun l =>
    ((bare l).flatMap (visible (g.hasAny "vetA") (g.hasAny "tTA"))) ++
      (if isEnded l then if g.hasAny "eEA" then [36, 10] else [10] else [])
  (if g.hasAny "nb" then numberedShown g ls else ls).flatten
where
  numberedShown (g : Given) (ls : List Bytes) : List Bytes :=
    let empty := if g.hasAny "eEA" then [36, 10] else [10]
    let ls := ls.map fun l => if l = empty then [10] else l
    (numbered (g.has 'b') 1 ls).map fun l => if l = [10] then empty else l

/-- The file that what is written goes to. -/
def destination? (m : Machine) : Option Nat :=
  match m.wiring.out with
  | .file k _ => some k
  | _ => none

def catOne (avoided : Option Nat) (p : Text) : Act := fun t =>
  match t.read p with
  | .error e => refusing (complain "cat" "" (named p) e 1) t
  | .ok c =>
    if !c.isEmpty && avoided.isSome && (t.find p).toOption.bind (fun r => t.serial? r.1) = avoided then
      refusing (objection "cat" (p ++ ": input file is output file".toList) 1) t
    else (t, c, none)

/-- The input stands where a `-` is, but not twice. -/
def catAll (avoided reading : Option Nat) (input : Bytes) : List Text → List Act
  | [] => []
  | p :: ps =>
    if isInput p then
      let act : Act := fun t =>
        if !input.isEmpty && avoided.isSome && reading = avoided then
          refusing (objection "cat" (p ++ ": input file is output file".toList) 1) t
        else (t, input, none)
      act :: catAll avoided reading [] ps
    else catOne avoided p :: catAll avoided reading input ps

def cat : Tool := program "cat" 1
  { plain := "nbsEeTtvAu", long := [("number", 'n'), ("number-nonblank", 'b'), ("squeeze-blank", 's'),
      ("show-ends", 'E'), ("show-tabs", 'T'), ("show-nonprinting", 'v'), ("show-all", 'A')] }
  fun g args m =>
    let ps := if args.isEmpty then [['-']] else args
    let r := each (catAll (destination? m) (m.wiring.reading? 0) m.input ps) m
    let r := if ps.any isInput then { r with machine := { r.machine with input := [] } } else r
    if g.all (·.1 = 'u') then r
    else
      let out := displayed g (r.printed.on .out)
      { r with printed := r.printed.off .out ++ if out.isEmpty then [] else [(.out, out)] }

/-- The moment that a text of digits tells: perhaps a year, then a month, a day, an hour and a minute, and perhaps
a second behind a point. -/
def stamped? (now : Int) (t : Text) : Option Int :=
  let (t, second) := match Text.cut? '.' t with
    | some (t, s) => (t, if Text.isDigits s && s.length = 2 then some (Text.digitsValue s) else none)
    | none => (t, some 0)
  let n := Text.digitsValue t
  let year : Int := n / 100000000 % 100
  let year := match t.length with
    | 8 => some (Calendar.civil (Calendar.halves now).1).1
    | 10 => some (if year < 69 then 2000 + year else 1900 + year)
    | 12 => some ((n / 100000000 : Nat) : Int)
    | _ => none
  if !Text.isDigits t then none
  else match year, second with
    | some y, some s =>
      if s < 61 && n / 100 % 100 < 24 && n % 100 < 60 && Calendar.isDay y (n / 1000000 % 100) (n / 10000 % 100) then
        some (Calendar.daysOf y (n / 1000000 % 100) (n / 10000 % 100) * 86400 +
          (n / 100 % 100 * 3600 + n % 100 * 60 + s : Nat))
      else none
    | _, _ => none

/-- A moment in seconds as the time of a node. -/
def timeOf (seconds : Int) : Nat := (seconds * 1000000).toNat

def secondsOf (time : Nat) : Int := (time / 1000000 : Nat)

/-- Says that a node has been changed at some time. A file that is not there is made. -/
def touchOne (g : Given) (time : Option Nat) (p : Text) : Act := fun t =>
  let what := if g.has 'c' then "setting times of " else "cannot touch "
  let fail := fun (e : IoFault) => refusing (complain "touch" what (quoted p) e 1) t
  let keeps := g.has 'a' && !g.has 'm'
  let dated := fun (t : Disk) (a : Address) (n : Node) =>
    if keeps then t else t.put a (n.withStamp { n.stamp with time := time.getD t.now })
  match if g.has 'h' then t.entry p else t.find p with
  | .ok (a, n) => (dated t a n, [], none)
  | .error e =>
    if g.has 'c' then if e = .notFound then (t, [], none) else fail e
    else if g.has 'h' then fail e
    else match t.append p [] with
      | .error e => fail e
      | .ok t => match t.find p with
        | .ok (a, n) => (dated t a n, [], none)
        | .error _ => (t, [], none)

def touch : Tool := program "touch" 1
  { plain := "acfhm", valued := "drtT", long := [("no-create", 'c'), ("date", 'd'), ("reference", 'r'),
      ("no-dereference", 'h'), ("time", 'T')] }
  fun g args m =>
    let t := m.tree
    let reference := (g.value? 'r').map fun p => (if g.has 'h' then t.entry p else t.find p).map fun r => r.2.time
    let base := match reference with
      | some (.ok k) => k
      | _ => t.now
    let read := fun (f : Text → Option Int) (d : Text) => match f d with
      | some s => Except.ok s
      | none => .error d
    let told := match g.value? 'd', g.value? 't' with
      | some d, _ => some (read (Calendar.moment? (secondsOf base)) d)
      | none, some d => some (read (stamped? (secondsOf t.now)) d)
      | none, none => none
    if args.isEmpty then misused "touch" "missing file operand".toList 1 m
    else match reference, told with
      | some (.error e), _ =>
        finish [complain "touch" "failed to get attributes of " (quoted ((g.value? 'r').getD [])) e 1] [] 1 m
      | _, some (.error d) => m.tell .err ("touch: invalid date format ".toList ++ literal d ++ ['\n']) 1
      | _, some (.ok s) => each (args.map (touchOne g (some (timeOf s)))) m
      | some (.ok k), none => each (args.map (touchOne g (some k))) m
      | none, none => each (args.map (touchOne g none)) m

def typeOf (n : Node) : Text :=
  match n with
  | .dir _ => "directory".toList
  | .file _ [] => "regular empty file".toList
  | .file .. => "regular file".toList
  | .link .. => "symbolic link".toList
  | .device .. => "character special file".toList

/-- Whether a path ends in a name that is relative to others. -/
def isDots (p : Text) : Bool :=
  let n := Walk.lastName p
  n = ['.'] || n = ['.', '.']

/-- Takes away what has been come to on a walk, which ends with the directories. -/
def removeVisit (said : Bool) (v : Visit) : Act := fun t =>
  saying said ((if v.isDir then "removed directory ".toList else "removed ".toList) ++ quoted v.path)
    (t.erase v.address)

def removeOne (g : Given) (p : Text) : List Act :=
  let said := g.has 'v'
  if g.hasAny "rR" && isDots p then
    [refusing (objection "rm" ("refusing to remove '.' or '..' directory: skipping ".toList ++ quoted p) 1)]
  else [fun t =>
    match t.entry p with
    | .error e =>
      if g.has 'f' && e = .notFound then (t, [], none)
      else refusing (complain "rm" "cannot remove " (quoted p) e 1) t
    | .ok (a, .dir s) =>
      if g.hasAny "rR" then
        let r := (Walk.all t true p a).foldl (fun (s : Disk × Bytes) v =>
          let x := removeVisit said v s.1
          (x.1, s.2 ++ x.2.1)) (t, [])
        (r.1, r.2, none)
      else if !g.has 'd' then refusing (complain "rm" "cannot remove " (quoted p) .isDirectory 1) t
      else if !t.isEmptyDir a then refusing (complain "rm" "cannot remove " (quoted p) .notEmpty 1) t
      else removeVisit said ⟨p, a, .dir s, 0⟩ t
    | .ok (a, n) => removeVisit said ⟨p, a, n, 0⟩ t]

/-- Asks for each path, as far as it is there, whether it is to be taken away. -/
def removeAsking (g : Given) : List Text → Ran → Ran
  | [], r => r
  | p :: ps, r =>
    let m := r.machine
    match m.tree.entry p with
    | .ok (_, n) =>
      let ask := "rm: remove ".toList ++ typeOf n ++ ' ' :: quoted p ++ "? ".toList
      let answer := m.input.takeWhile (· ≠ 10)
      let m := { m with input := m.input.drop (answer.length + 1) }
      let yes := answer.head? = some 121 || answer.head? = some 89
      let s := each (if yes then removeOne g p else []) m
      removeAsking g ps ⟨s.machine, r.printed ++ (.err, Octet.encode ask) :: s.printed,
        .status (max r.finish.code s.finish.code)⟩
    | .error _ =>
      let s := each (removeOne g p) m
      removeAsking g ps ⟨s.machine, r.printed ++ s.printed, .status (max r.finish.code s.finish.code)⟩

def rm : Tool := program "rm" 1
  { plain := "rRfdviI", long := [("recursive", 'r'), ("force", 'f'), ("dir", 'd'), ("verbose", 'v'),
      ("interactive", 'i'), ("one-file-system", 'x'), ("no-preserve-root", 'x'), ("preserve-root", 'x')] }
  fun g ps m =>
    if ps.isEmpty then if g.has 'f' then m.ends 0 else missing "rm" m
    else if g.latest? "fi" = some 'i' then removeAsking g ps (m.ends 0)
    else each (ps.flatMap (removeOne g)) m

/-- The paths of a directory and of those that it is in, from the outermost one on. -/
def steps (p : Text) : List Text :=
  let names := Path.names p
  (List.range names.length).map fun i =>
    (if Path.isAbsolute p then ['/'] else []) ++ ['/'].intercalate (names.take (i + 1))

/-- A new directory with its rights. -/
def makeWith (mode : Nat) (p : Text) (t : Disk) : Except IoFault Disk := t.make p (.dir ⟨mode, t.now⟩)

/-- Makes directories, each in the one before it, as far as they are missing. The last one gets the rights. What is
said begins with some words. -/
def makeAll (words : Option String) (mode : Option Nat) : List Text → Act
  | [] => fun t => (t, [], none)
  | p :: ps => fun t =>
    let c := fun e => refusing (complain "mkdir" "cannot create directory " (quoted p) e 1) t
    if t.isDirAt p then makeAll words mode ps t
    else match makeWith ((if ps.isEmpty then mode else none).getD (t.newDir.mode ||| 0o300)) p t with
      | .ok n =>
        let r := makeAll words mode ps n
        let said := match words with
          | some w => lineOf (w.toList ++ quoted p)
          | none => []
        (r.1, said ++ r.2.1, r.2.2)
      | .error .alreadyExists => c (if ps.isEmpty then .alreadyExists else .notDirectory)
      | .error e => c e

def makeOne (g : Given) (mode : Option Nat) (p : Text) : Act := fun t =>
  let words := "mkdir: created directory "
  if g.has 'p' && !p.isEmpty then
    makeAll (if g.has 'v' then some words else none) (some (mode.getD t.newDir.mode)) (steps p) t
  else match makeWith (mode.getD t.newDir.mode) p t with
    | .ok t => saying (g.has 'v') (words.toList ++ quoted p) t
    | .error e => refusing (complain "mkdir" "cannot create directory " (quoted p) e 1) t

def mkdir : Tool := program "mkdir" 1
  { plain := "pvZ", valued := "m", long := [("parents", 'p'), ("verbose", 'v'), ("mode", 'm')] }
  fun g ps m =>
    let change := (g.value? 'm').map Rights.ofText?
    let mode := (change.bind id).map (Rights.after m.tree.mask true 0o777)
    if ps.isEmpty then missing "mkdir" m
    else if change = some none then
      m.tell .err ("mkdir: invalid mode ".toList ++ literal ((g.value? 'm').getD []) ++ ['\n']) 1
    else each (ps.map (makeOne g mode)) m

def dropDir (g : Given) (what : String) (p : Text) : Act := fun t =>
  let said := g.has 'v'
  let front := if said then lineOf ("rmdir: removing directory, ".toList ++ quoted p) else []
  let fail := fun e =>
    if e = IoFault.notEmpty && g.has 'i' then (t, front, none)
    else (t, front, some (complain "rmdir" what (quoted p) e 1))
  if Walk.lastName p = ['.'] then
    (t, front, some (objection "rmdir" (what.toList ++ quoted p ++ ": Invalid argument".toList) 1))
  else match t.entry p with
  | .error e => fail e
  | .ok (a, .dir _) => if t.isEmptyDir a then (t.erase a, front, none) else fail .notEmpty
  | .ok _ => fail .notDirectory

/-- Takes directories away as long as that works. -/
def dropAll (g : Given) : String → List Text → Act
  | _, [] => fun t => (t, [], none)
  | what, p :: ps => fun t =>
    let r := dropDir g what p t
    if r.2.2.isSome || t.isDirAt p && r.1.isDirAt p then r
    else
      let s := dropAll g "failed to remove directory " ps r.1
      (s.1, r.2.1 ++ s.2.1, s.2.2)

def rmdir : Tool := program "rmdir" 1
  { plain := "pv", long := [("parents", 'p'), ("verbose", 'v'), ("ignore-fail-on-non-empty", 'i')] }
  fun g ps m =>
    if ps.isEmpty then missing "rmdir" m
    else each (ps.map fun p =>
      if g.has 'p' then dropAll g "failed to remove " (p :: ((steps p).dropLast).reverse)
      else dropDir g "failed to remove " p) m

def teeOne (more : Bool) (input : Bytes) (p : Text) : Act := fun t =>
  settle t (complain "tee" "" (named p) · 1) (if more then t.append p input else t.write p input)

def tee : Tool := program "tee" 1 { plain := "aip", long := [("append", 'a'), ("ignore-interrupts", 'i')] }
  fun g ps m =>
    let (streams, files) := ps.partition fun p => p = "/dev/stdout".toList || p = "/dev/stderr".toList
    let r := each (files.map (teeOne (g.has 'a') m.input)) { m with input := [] }
    let more := streams.map fun p => (if p = "/dev/stdout".toList then Channel.out else .err, m.input)
    { r with printed := r.printed ++ if m.input.isEmpty then [] else (.out, m.input) :: more }

def rightsInWords (mode : Nat) : Text :=
  Rights.filledOctal mode ++ " (".toList ++ Rights.shown mode ++ [')']

/-- Changes the rights of a node. Somebody may want to know about it. -/
def changeRights (g : Given) (change : Bool → Nat → Nat) (expected : Bool → Nat → Nat) (v : Visit) : Act := fun t =>
  let said := fun (t : Text) => if g.has 'v' then lineOf t else []
  match v.node with
  | .link .. =>
    (t, said ("neither symbolic link ".toList ++ quoted v.path ++ " nor referent has been changed".toList), none)
  | n =>
    let old := n.mode
    let mode := change v.isDir old
    let wanted := expected v.isDir old
    let out :=
      if mode = old then said ("mode of ".toList ++ quoted v.path ++ " retained as ".toList ++ rightsInWords old)
      else if g.hasAny "vc" then
        lineOf ("mode of ".toList ++ quoted v.path ++ " changed from ".toList ++ rightsInWords old ++
          " to ".toList ++ rightsInWords mode)
      else []
    let unexpected := objection "chmod" (named v.path ++ ": new permissions are ".toList ++ Rights.shown mode ++
      ", not ".toList ++ Rights.shown wanted) 1
    (t.put v.address (n.withStamp { n.stamp with mode }), out,
      if Rights.less mode wanted = 0 then none else some unexpected)

def markOne (g : Given) (change expected : Bool → Nat → Nat) (p : Text) : Act := fun t =>
  match t.find p with
  | .error e =>
    if g.has 'f' then (t, [], some ⟨[], 1⟩)
    else if t.isLinkAt p then
      refusing (objection "chmod" ("cannot operate on dangling symlink ".toList ++ quoted p) 1) t
    else
      (t, if g.has 'v' then lineOf (quoted p ++ " could not be accessed".toList) else [],
        some (complain "chmod" "cannot access " (quoted p) e 1))
  | .ok (a, n) =>
    let vs := if g.has 'R' then Walk.all t false p a else [⟨p, a, n, 0⟩]
    vs.foldl (fun (s : Disk × Bytes × Option Complaint) v =>
      let r := changeRights g change expected v s.1
      (r.1, s.2.1 ++ r.2.1, match s.2.2, r.2.2 with
        | some c, some d => some ⟨c.what ++ d.what, 1⟩
        | c, d => c.orElse fun _ => d)) (t, [], none)

/-- A mode that takes things away may look like options. -/
def isMode (t : Text) : Bool :=
  match t with
  | '-' :: c :: cs => (c :: cs).all "rwxXst,+=ugoa-".toList.contains && c != '-'
  | _ => false

def chmod : Tool := fun args m =>
  let given := args.takeWhile fun a => a.head? = some '-' && !isMode a
  let args := match args.find? isMode with
    | some t => given ++ "--".toList :: t :: (args.drop given.length).erase t
    | none => args
  program "chmod" 1 { plain := "Rvcf", valued := "r", long := [("recursive", 'R'), ("verbose", 'v'),
      ("changes", 'c'), ("silent", 'f'), ("quiet", 'f'), ("reference", 'r')] }
    (fun g args m =>
      let mask := m.tree.mask
      let (word, ps) := match g.value? 'r', args with
        | some _, ps => ([], ps)
        | none, mode :: ps => (mode, ps)
        | none, [] => ([], [])
      if args.isEmpty then missing "chmod" m
      else if ps.isEmpty then misused "chmod" ("missing operand after ".toList ++ literal word) 1 m
      else match (g.value? 'r').map m.tree.find, Rights.ofText? word with
        | some (.error e), _ =>
          finish [complain "chmod" "failed to get attributes of " (quoted ((g.value? 'r').getD [])) e 1] [] 1 m
        | some (.ok r), _ => each (ps.map (markOne g (fun _ _ => r.2.mode) fun _ _ => r.2.mode)) m
        | none, none => misused "chmod" ("invalid mode: ".toList ++ literal word) 1 m
        | none, some cs =>
          let change := fun isDir old => Rights.after mask isDir old cs
          let expected := fun isDir old => if isMode word then Rights.after 0 isDir old cs else change isDir old
          each (ps.map (markOne g change expected)) m) args m

def unlink : Tool := program "unlink" 1 { plain := "" } fun _ args m =>
  match args with
  | [] => missing "unlink" m
  | [p] => each [fun t => settle t (complain "unlink" "cannot unlink " (quoted p) · 1) (t.removeFile p)] m
  | _ :: p :: _ => misused "unlink" ("extra operand ".toList ++ literal p) 1 m

/-- A template whose last signs are filled in so that nothing has the name yet. -/
def freshFrom? (t : Disk) (template : Text) : Option Text :=
  let size := (template.reverse.takeWhile (· = 'X')).length
  let front := template.take (template.length - size)
  let name := fun k => front ++ ((List.replicate size 'a' ++ Text.ofNat k).reverse.take size).reverse
  if size < 3 then none
  else ((List.range t.size).map name).find? fun p => !t.hasName p

def mktemp : Tool := program "mktemp" 1
  { plain := "duqt", valued := "p", long := [("directory", 'd'), ("dry-run", 'u'), ("quiet", 'q'), ("tmpdir", 'p')] }
  fun g args m =>
    let template := (args.head?).getD "tmp.XXXXXXXXXX".toList
    let dir := (m.value? "TMPDIR".toList).getD "/tmp".toList
    let template := if args.isEmpty || g.hasAny "pt" then Walk.under ((g.value? 'p').getD dir) template else template
    match freshFrom? m.tree template with
    | none => m.tell .err ("mktemp: too few X's in template ".toList ++ literal template ++ ['\n']) 1
    | some p =>
      let made := if g.has 'u' then .ok m.tree else if g.has 'd' then makeWith 0o700 p m.tree
        else m.tree.make p (.file ⟨0o600, m.tree.now⟩ [])
      match made with
      | .ok t => ({ m with tree := t } : Machine).tell .out (p ++ ['\n']) 0
      | .error e =>
        let what := if g.has 'd' then "failed to create directory via template ".toList
          else "failed to create file via template ".toList
        m.tell .err ("mktemp: ".toList ++ what ++ quoted template ++ ": ".toList ++ reason e ++ ['\n']) 1

def all : List (Text × Tool) :=
  [("cat".toList, cat), ("touch".toList, touch), ("rm".toList, rm), ("mkdir".toList, mkdir),
   ("rmdir".toList, rmdir), ("tee".toList, tee), ("chmod".toList, chmod), ("unlink".toList, unlink),
   ("mktemp".toList, mktemp),
   ("sync".toList, Tool.quit 0)]

end FileTool

end Guidebook.Shell
