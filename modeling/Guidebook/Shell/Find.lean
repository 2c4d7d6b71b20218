import Guidebook.Shell.Errand
import Guidebook.Shell.Listing

namespace Guidebook.Shell

/-- Whether a number has to be less than, as much as, or more than another one. -/
structure Amount where
  order : Ordering
  number : Nat
  deriving DecidableEq, Repr

namespace Amount

def ofText? (t : Text) : Option Amount :=
  let (order, ds) := match t with
    | '+' :: cs => (Ordering.gt, cs)
    | '-' :: cs => (.lt, cs)
    | cs => (.eq, cs)
  if Text.isDigits ds then some ⟨order, Text.digitsValue ds⟩ else none

def fits (a : Amount) (n : Nat) : Bool := compare n a.number == a.order

end Amount

/-- What is asked about a node that has been come to, and what is done with it. -/
inductive Quest where
  | constant (b : Bool)
  | name (ws : List Wild) (folded : Bool)
  | path (ws : List Wild) (folded : Bool)
  | fitting (p : Pattern) (folded : Bool)
  | sort (kinds : Text) (behind : Bool)
  | leading (ws : List Wild) (folded : Bool)
  | empty
  | size (a : Amount) (unit : Nat)
  | mode (n : Nat) (sign : Option Char)
  | runnable
  | newer (p : Text)
  | since (t : Text)
  | days (a : Amount)
  | minutes (a : Amount)
  | names (a : Amount)
  | alike (p : Text)
  | list
  | print (mark : Char)
  | shown (format : Text)
  | delete
  | prune
  | quit
  | run (args : List Text) (asking : Bool)
  | gather (args : List Text)
  | not (q : Quest)
  | both (p q : Quest)
  | either (p q : Quest)
  | inTurn (p q : Quest)
  deriving DecidableEq, Repr

namespace Quest

/-- Whether something is done rather than asked only. -/
def acts : Quest → Bool
  | .print _ | .shown _ | .list | .delete | .run .. | .gather _ => true
  | .not q => q.acts
  | .both p q | .either p q | .inTurn p q => p.acts || q.acts
  | _ => false

def deletes : Quest → Bool
  | .delete => true
  | .not q => q.deletes
  | .both p q | .either p q | .inTurn p q => p.deletes || q.deletes
  | _ => false

end Quest

/-- How far a walk goes: from which depth on, up to which one, and whether directories come after what is
in them. -/
structure Reach where
  least : Nat
  most : Option Nat
  after : Bool
  deriving DecidableEq, Repr

namespace Find

open FileTool

/-- Signs that are said to be wrong, with what is said. -/
abbrev Reading := Except Text

def missingArgument (w : Text) : Text := "missing argument to `".toList ++ w ++ ['\'']

def glob (t : Text) : List Wild := Glob.ofGlyphs (t.map (·, false))

def lower (t : Text) : Text := t.map Char.toLower

/-- What stands up to the end of a command, whether that is to be given several names at once, and what
follows. -/
def command : List Text → List Text → Option (List Text × Bool × List Text)
  | _, [] => none
  | done, w :: ws =>
    if w = [';'] then some (done, false, ws)
    else if w = ['+'] && done.getLast? = some "\x7b\x7d".toList then some (done, true, ws)
    else command (done ++ [w]) ws

/-- Rights that a text tells as a number or in letters. -/
def mode? (t : Text) : Option Nat := if t.isEmpty then none else (Rights.ofText? t).map (Rights.after 0 false 0)

def sizeOf (t : Text) : Option (Amount × Nat) :=
  let unit := match t.getLast? with
    | some 'c' => some 1
    | some 'w' => some 2
    | some 'b' => some 512
    | some 'k' => some 1024
    | some 'M' => some 1048576
    | some 'G' => some 1073741824
    | _ => none
  (Amount.ofText? (if unit.isSome then t.dropLast else t)).map (·, unit.getD 512)

/-- A word that needs no other one. -/
def plain? (w : String) : Option Quest :=
  match w with
  | "-print" => some (.print '\n')
  | "-print0" => some (.print (Char.ofNat 0))
  | "-empty" => some .empty
  | "-true" | "-readable" | "-writable" | "-noleaf" | "-mount" | "-xdev" | "-follow" | "-depth" =>
    some (.constant true)
  | "-false" | "-nouser" | "-nogroup" => some (.constant false)
  | "-executable" => some .runnable
  | "-delete" => some .delete
  | "-ls" => some .list
  | "-prune" => some .prune
  | "-quit" => some .quit
  | _ => none

/-- A word with the one behind it. -/
def valued? (w : String) (v : Text) : Option (Reading Quest) :=
  let invalid := fun (what : String) => .error (what.toList ++ v)
  let counted := fun (f : Amount → Quest) => some (match Amount.ofText? v with
    | some a => .ok (f a)
    | none => .error ("invalid argument ".toList ++ literal v ++ " to ".toList ++ literal w.toList))
  let rooted := v = "root".toList || v = ['0']
  match w with
  | "-name" => some (.ok (.name (glob v) false))
  | "-iname" => some (.ok (.name (glob (lower v)) true))
  | "-path" | "-wholename" => some (.ok (.path (glob v) false))
  | "-ipath" | "-iwholename" => some (.ok (.path (glob (lower v)) true))
  | "-regex" | "-iregex" => some (match Pattern.ofText? .basic v with
    | some p => .ok (.fitting p (w = "-iregex"))
    | none => invalid "invalid regular expression ")
  | "-type" | "-xtype" =>
    let parts := Text.pieces (· == ',') v
    let wrong := parts.findSome? fun p => match p with
      | [] => some (if v.isEmpty then "Arguments to ".toList ++ w.toList ++ " should contain at least one letter".toList
          else "Last file type in list argument to ".toList ++ w.toList ++ " is missing, i.e., list is ending on: ','".toList)
      | c :: cs =>
        if !"bcdpflsD".toList.contains c then some ("Unknown argument to ".toList ++ w.toList ++ ": ".toList ++ [c])
        else if cs.isEmpty then none
        else some ("Must separate multiple arguments to ".toList ++ w.toList ++ " using: ','".toList)
    some (match wrong with
      | some why => .error why
      | none => .ok (.sort parts.flatten (w = "-xtype")))
  | "-lname" => some (.ok (.leading (glob v) false))
  | "-ilname" => some (.ok (.leading (glob (lower v)) true))
  | "-size" => some (match sizeOf v with
    | some (a, u) => .ok (.size a u)
    | none => .error ("Invalid argument `".toList ++ v ++ "' to -size".toList))
  | "-perm" =>
    let (sign, t) := match v with
      | '-' :: t => (some '-', t)
      | '/' :: t => (some '/', t)
      | t => (none, t)
    some (match mode? t with
      | some n => .ok (.mode n sign)
      | none => .error ("invalid mode ".toList ++ literal v))
  | "-printf" => some (.ok (.shown v))
  | "-mtime" | "-atime" | "-ctime" => counted .days
  | "-mmin" | "-amin" | "-cmin" => counted .minutes
  | "-newer" | "-anewer" | "-cnewer" | "-newermm" => some (.ok (.newer v))
  | "-newermt" => some (.ok (.since v))
  | "-samefile" => some (.ok (.alike v))
  | "-user" | "-group" => some (.ok (.constant rooted))
  | "-uid" | "-gid" => counted fun a => .constant (a.fits 0)
  | "-links" => counted .names
  | "-inum" => counted fun _ => .constant false
  | "-maxdepth" | "-mindepth" | "-regextype" => some (.ok (.constant true))
  | _ => none

mutual

def inTurns : Nat → List Text → Reading (Quest × List Text)
  | 0, ws => .ok (.constant true, ws)
  | n + 1, ws => do
    let (p, rest) ← choices n ws
    match rest with
    | [','] :: rest => do
      let (q, rest) ← inTurns n rest
      return (.inTurn p q, rest)
    | rest => return (p, rest)

def choices : Nat → List Text → Reading (Quest × List Text)
  | 0, ws => .ok (.constant true, ws)
  | n + 1, ws => do
    let (p, rest) ← conditions n ws
    match rest with
    | w :: rest =>
      if w = "-o".toList || w = "-or".toList then do
        let (q, rest) ← choices n rest
        return (.either p q, rest)
      else return (p, w :: rest)
    | [] => return (p, [])

def conditions : Nat → List Text → Reading (Quest × List Text)
  | 0, ws => .ok (.constant true, ws)
  | n + 1, ws => do
    let (p, rest) ← condition n ws
    match rest with
    | [] | [')'] :: _ | [','] :: _ => return (p, rest)
    | w :: more =>
      if w = "-o".toList || w = "-or".toList then return (p, rest)
      else
        let (q, rest) ← conditions n (if w = "-a".toList || w = "-and".toList then more else rest)
        return (.both p q, rest)

def condition : Nat → List Text → Reading (Quest × List Text)
  | 0, ws => .ok (.constant true, ws)
  | _, [] => .error "expected an expression".toList
  | n + 1, w :: ws =>
    if w = ['!'] || w = "-not".toList then (condition n ws).map fun r => (.not r.1, r.2)
    else if w = ['('] then do
      let (p, rest) ← inTurns n ws
      match rest with
      | [')'] :: rest => return (p, rest)
      | _ => .error "invalid expression; I was expecting to find a ')' somewhere but did not see one.".toList
    else if w = "-exec".toList || w = "-execdir".toList || w = "-ok".toList || w = "-okdir".toList then
      match command [] ws with
      | some ([], _, _) | none => .error (missingArgument w)
      | some (args, several, rest) =>
        .ok (if several then .gather args.dropLast else .run args ("-ok".toList.isPrefixOf w), rest)
    else match plain? (String.ofList w), ws with
      | some q, ws => .ok (q, ws)
      | none, [] =>
        if (valued? (String.ofList w) ['0']).isSome then .error (missingArgument w)
        else if w.head? ≠ some '-' then .error ("paths must precede expression: `".toList ++ w ++ ['\''])
        else .error ("unknown predicate `".toList ++ w ++ ['\''])
      | none, v :: ws =>
        match valued? (String.ofList w) v with
        | some q => q.map (·, ws)
        | none =>
          if w.head? = some '-' then .error ("unknown predicate `".toList ++ w ++ ['\''])
          else .error ("paths must precede expression: `".toList ++ w ++ ['\''])

end

def startsQuest (w : Text) : Bool := (w.head? = some '-' && 1 < w.length) || w = ['!'] || w = ['('] || w = [','] || w = [')']

/-- The number behind a word. -/
def numberAfter (w : String) : List Text → Option Nat
  | a :: b :: ws => if a = w.toList && Text.isDigits b then some (Text.digitsValue b) else numberAfter w (b :: ws)
  | _ => none

/-- A walk under way: names that are gathered for commands, whether to leave out what is below, and
whether all is over. -/
structure Trail where
  ran : Ran
  gathered : List (List Text × List Text)
  pruned : Bool
  done : Bool

def Trail.say (w : Trail) (c : Channel) (b : Bytes) : Trail :=
  { w with ran := { w.ran with printed := w.ran.printed ++ [(c, b)] } }

def Trail.failed (w : Trail) (what : Text) : Trail :=
  let said := w.say .err (lineOf ("find: ".toList ++ what))
  { said with ran := { said.ran with finish := .status 1 } }

def kindOf (n : Node) : Char :=
  match n with
  | .dir _ => 'd'
  | .file .. => 'f'
  | .link .. => 'l'
  | .device .. => 'c'

/-- What a node leads to, if it leads anywhere. -/
def behind (t : Disk) (v : Visit) : Option Node :=
  match v.node, t.node? (Walk.target t v.address) with
  | .link .., some (.link ..) => none
  | _, n => n

/-- A moment in the way that a letter asks for. -/
def timeText (time : Nat) (c : Char) : Text :=
  let fraction := ((Inquiry.seconds (some 9) time).dropWhile (· ≠ '.')) ++ ['0']
  let filled := fun (f : Text) => Calendar.shown (secondsOf time) (f.length + 20) f
  match c with
  | '@' => Text.ofNat (time / 1000000) ++ fraction
  | 'S' => filled "%S".toList ++ fraction
  | 'T' => filled "%T".toList ++ fraction
  | '+' => filled "%F+%T".toList ++ fraction
  | 'c' => filled "%a %b %e %H:%M:%S".toList ++ fraction ++ filled " %Y".toList
  | c => filled ['%', c]

/-- What a letter of a format stands for. -/
def told (t : Disk) (top : Text) (v : Visit) (c : Char) : Text :=
  match c with
  | 'p' => v.path
  | 'f' => if v.path.all (· = '/') then v.path else ((Text.pieces (· == '/') v.path).getLast?).getD []
  | 'h' => if v.path.contains '/' then ['/'].intercalate (Text.pieces (· == '/') v.path).dropLast else ['.']
  | 'P' => (v.path.drop top.length).dropWhile (· = '/')
  | 'H' => top
  | 's' => Text.ofNat (Inquiry.bytesOf v.node)
  | 'y' => [kindOf v.node]
  | 'Y' => [((behind t v).map kindOf).getD 'N']
  | 'd' => Text.ofNat v.depth
  | 'm' => Rights.octal v.node.mode
  | 'M' => Inquiry.modeLine v.node
  | 'n' => Text.ofNat (Inquiry.namesOf t v.address v.node)
  | 'l' => match v.node with
    | .link _ u => u
    | _ => []
  | 'u' | 'g' => "root".toList
  | 'U' | 'G' => ['0']
  | 'b' => Text.ofNat (Inquiry.blocksOf v.node)
  | 'k' => Text.ofNat (Inquiry.blocksOf v.node / 2)
  | 'i' => Text.ofNat ((t.serial? v.address).getD 0 + 1000)
  | 't' | 'a' | 'c' => timeText v.node.time 'c'
  | '%' => ['%']
  | c => ['%', c]

/-- A format filled in. -/
def formatted (t : Disk) (top : Text) (v : Visit) : Nat → Text → Text
  | 0, _ | _, [] => []
  | n + 1, '\\' :: c :: cs =>
    (match c with
      | 'n' => ['\n']
      | 't' => ['\t']
      | '0' => [Char.ofNat 0]
      | '\\' => ['\\']
      | c => ['\\', c]) ++ formatted t top v n cs
  | n + 1, '%' :: c :: cs =>
    let flags := (c :: cs).takeWhile "-0123456789".toList.contains
    let width := Text.digitsValue (flags.dropWhile (· = '-'))
    let rest := (c :: cs).drop flags.length
    let isTime := "TAC".toList.contains ((rest.head?).getD ' ') && 1 < rest.length
    let x := if isTime then timeText v.node.time ((rest[1]?).getD 'c') else told t top v ((rest.head?).getD '%')
    let gap := List.replicate (width - x.length) ' '
    (if flags.head? = some '-' then x ++ gap else gap ++ x) ++ formatted t top v n (rest.drop (if isTime then 2 else 1))
  | n + 1, c :: cs => c :: formatted t top v n cs

/-- A line that tells much about a node. -/
def listed (t : Disk) (v : Visit) : Text :=
  let left := fun (x : Text) => x ++ List.replicate (8 - x.length) ' '
  let number := fun (width k : Nat) => atRight width (Text.ofNat k)
  [' '].intercalate [number 9 ((t.serial? v.address).getD 0 + 1000), number 6 (Inquiry.blocksOf v.node / 2),
    Inquiry.modeLine v.node, number 3 (Inquiry.namesOf t v.address v.node), left "root".toList, left "root".toList,
    number 8 (Inquiry.bytesOf v.node), Listing.shownTime [] t.now v.node.time, v.path] ++ match v.node with
      | .link _ u => " -> ".toList ++ u
      | _ => []

/-- Starts a command for a node. -/
def runFor (read : Reader) (args : List Text) (p : Text) (w : Trail) : Bool × Trail :=
  match args.map (Text.replace "\x7b\x7d".toList p) with
  | [] => (true, w)
  | name :: args =>
    match read.start name args w.ran.machine with
    | .ok r =>
      (r.finish.code = 0, { w with ran := ⟨r.machine, w.ran.printed ++ r.printed, w.ran.finish⟩ })
    | .error e => (false, w.say .err (lineOf ("find: ".toList ++ literal name ++ ": ".toList ++ reason e)))

/-- Answers a question about a node and does what is to be done. -/
def ask (read : Reader) (top : Text) (v : Visit) : Quest → Trail → Bool × Trail
  | .constant b, w => (b, w)
  | .name ws folded, w =>
    let name := Walk.lastName v.path
    (Glob.fits ws (if folded then lower name else name), w)
  | .path ws folded, w => (Glob.fits ws (if folded then lower v.path else v.path), w)
  | .fitting p folded, w => ((Pattern.seq .atStart (.seq p .atEnd)).occursIn folded v.path, w)
  | .sort kinds far, w =>
    let n := if far then (behind w.ran.machine.tree v).getD v.node else v.node
    (kinds.contains (kindOf n), w)
  | .leading ws folded, w =>
    (match v.node with
      | .link _ u => Glob.fits ws (if folded then lower u else u)
      | _ => false, w)
  | .empty, w =>
    (match v.node with
      | .dir _ => w.ran.machine.tree.isEmptyDir v.address
      | .file _ c => c.isEmpty
      | _ => false, w)
  | .size a unit, w => (a.fits ((Inquiry.bytesOf v.node + unit - 1) / unit), w)
  | .mode n sign, w =>
    let mode := v.node.mode
    (match sign with
      | none => mode = n
      | some '-' => mode &&& n = n
      | some _ => n = 0 || mode &&& n ≠ 0, w)
  | .runnable, w =>
    (((behind w.ran.machine.tree v).map fun n => n.isDir || Node.runs n.mode).getD false, w)
  | .newer p, w => (((w.ran.machine.tree.find p).toOption.any fun r => r.2.time < v.node.time), w)
  | .since t, w =>
    let m := Calendar.moment? (secondsOf w.ran.machine.tree.now) t
    (m.any fun s => timeOf s < v.node.time, w)
  | .days a, w =>
    let age := w.ran.machine.tree.now - v.node.time
    (a.fits ((if a.order = .lt then age - 1000000 else age) / 86400000000), w)
  | .minutes a, w =>
    let age := w.ran.machine.tree.now - v.node.time
    (a.fits (if a.order = .lt then age / 60000000 else (age + 59999999) / 60000000), w)
  | .names a, w => (a.fits (Inquiry.namesOf w.ran.machine.tree v.address v.node), w)
  | .alike p, w =>
    let t := w.ran.machine.tree
    ((t.entry p).toOption.any fun r => r.1 = v.address || t.serial? r.1 = t.serial? v.address, w)
  | .list, w => (true, w.say .out (lineOf (listed w.ran.machine.tree v)))
  | .print mark, w => (true, w.say .out (Octet.encode (v.path ++ [mark])))
  | .shown f, w => (true, w.say .out (Octet.encode (formatted w.ran.machine.tree top v f.length f)))
  | .delete, w =>
    let m := w.ran.machine
    if v.path = ['.'] then (true, w)
    else if v.isDir && !m.tree.isEmptyDir v.address then
      (false, w.failed ("cannot delete ".toList ++ literal v.path ++ ": Directory not empty".toList))
    else (true, { w with ran := { w.ran with machine := { m with tree := m.tree.erase v.address } } })
  | .prune, w => (true, { w with pruned := true })
  | .quit, w => (true, { w with done := true })
  | .run args asking, w =>
    if !asking then runFor read args v.path w
    else
      let m := w.ran.machine
      let shown := "< ".toList ++ (args.head?).getD [] ++ " ... ".toList ++ v.path ++ " > ? ".toList
      let answer := m.input.takeWhile (· ≠ 10)
      let w := w.say .err (Octet.encode shown)
      let w := { w with ran := { w.ran with machine := { m with input := m.input.drop (answer.length + 1) } } }
      if answer.head? = some 121 || answer.head? = some 89 then runFor read args v.path w else (false, w)
  | .gather args, w =>
    let old := (w.gathered.lookup args).getD []
    (true, { w with gathered := w.gathered.filter (·.1 ≠ args) ++ [(args, old ++ [v.path])] })
  | .not q, w =>
    let r := ask read top v q w
    (!r.1, r.2)
  | .both p q, w =>
    let r := ask read top v p w
    if r.1 && !r.2.done then ask read top v q r.2 else (false, r.2)
  | .either p q, w =>
    let r := ask read top v p w
    if r.1 then (true, r.2) else ask read top v q r.2
  | .inTurn p q, w =>
    let r := ask read top v p w
    ask read top v q r.2

/-- Goes from node to node. What is below a node that was cut off is left out. -/
def travel (read : Reader) (g : Reach) (top : Text) (q : Quest) : List Visit → List Address → Trail → Trail
  | [], _, w => w
  | v :: vs, cut, w =>
    if w.done then w
    else if cut.any fun a => a.isPrefixOf v.address && a ≠ v.address then travel read g top q vs cut w
    else if v.depth < g.least || g.most.any (· < v.depth) then travel read g top q vs cut w
    else
      let r := (ask read top v q { w with pruned := false }).2
      let cut := if r.pruned && v.isDir && !g.after then v.address :: cut else cut
      travel read g top q vs cut { r with pruned := false }

/-- Starts the commands that names were gathered for. -/
def delivered (read : Reader) (w : Trail) : Ran :=
  w.gathered.foldl (fun r (args, ps) =>
    match args ++ ps with
    | [] => r
    | name :: args =>
      match read.start name args r.machine with
      | .ok s =>
        ⟨s.machine, r.printed ++ s.printed, if s.finish.code = 0 then r.finish else .status 1⟩
      | .error e =>
        ⟨r.machine, r.printed ++ [(.err, lineOf ("find: ".toList ++ literal name ++ ": ".toList ++ reason e))],
          .status 1⟩) w.ran

/-- What there is at a path and below it. -/
def visits (named follows after : Bool) (t : Disk) (top : Text) : Except IoFault (List Visit) := do
  let (a, _) ← if named then (t.find top).orElseLazy fun _ => t.findName top else t.findName top
  return Walk.visits t after follows t.size [] 0 top a

/-- A question that cannot be asked, because nothing is where it asks for something, or because no moment is told. -/
def wrong? (t : Disk) : Quest → Option Text
  | .newer p | .alike p =>
    match t.find p with
    | .error e => some (literal p ++ ": ".toList ++ reason e)
    | .ok _ => none
  | .since u =>
    if (Calendar.moment? (secondsOf t.now) u).isSome then none
    else some ("I cannot figure out how to interpret ".toList ++ literal u ++ " as a date or time".toList)
  | .not q => wrong? t q
  | .both p q | .either p q | .inTurn p q => (wrong? t p).orElse fun _ => wrong? t q
  | _ => none

def find (read : Reader) : Tool := fun args m =>
  let (ways, args) := args.span fun a => a = "-L".toList || a = "-H".toList || a = "-P".toList
  let tops := args.takeWhile (!startsQuest ·)
  let words := args.drop tops.length
  let tops := if tops.isEmpty then [['.']] else tops
  let follows := ways.getLast? = some "-L".toList || words.contains "-follow".toList
  let named := follows || ways.getLast? = some "-H".toList
  let quest := if words.isEmpty then .ok (.print '\n', [])
    else (inTurns (8 * words.length + 8) words)
  match quest with
  | .error why => finish [objection "find" why 1] [] 1 m
  | .ok (_, [')'] :: _) =>
    finish [objection "find" "invalid expression; you have too many ')'".toList 1] [] 1 m
  | .ok (_, w :: _) => finish [objection "find" ("paths must precede expression: `".toList ++ w ++ ['\'']) 1] [] 1 m
  | .ok (q, []) =>
    match wrong? m.tree q with
    | some why => finish [objection "find" why 1] [] 1 m
    | none =>
    let q := if q.acts then q else .both q (.print '\n')
    let g : Reach :=
      { least := (numberAfter "-mindepth" words).getD 0, most := numberAfter "-maxdepth" words,
        after := words.contains "-depth".toList || q.deletes }
    let w := tops.foldl (fun w top =>
      if w.done then w
      else match visits named follows g.after w.ran.machine.tree top with
        | .ok vs => travel read g top q vs [] w
        | .error e => w.failed (literal top ++ ": ".toList ++ reason e)) (⟨m.ends 0, [], false, false⟩ : Trail)
    delivered read w

end Find

end Guidebook.Shell
