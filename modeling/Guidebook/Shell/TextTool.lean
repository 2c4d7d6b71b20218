import Guidebook.Shell.Signal
import Guidebook.Shell.Source

namespace Guidebook.Shell

namespace TextTool

open FileTool

/-- What has been counted: lines, words, bytes, how wide the widest line is, where in its line the next character
stands, and whether it goes on with a word. -/
structure Tally where
  lines : Nat := 0
  words : Nat := 0
  bytes : Nat := 0
  widest : Nat := 0
  column : Nat := 0
  within : Bool := false
  deriving DecidableEq, Repr

namespace Tally

/-- One more byte. What cannot be printed neither makes a word nor ends one. -/
def step (t : Tally) (x : UInt8) : Tally :=
  let t := { t with bytes := t.bytes + 1 }
  if x = 10 then { t with lines := t.lines + 1, widest := max t.widest t.column, column := 0, within := false }
  else if x = 12 || x = 13 then { t with widest := max t.widest t.column, column := 0, within := false }
  else if x = 9 then { t with column := (t.column / 8 + 1) * 8, within := false }
  else if x = 11 then { t with within := false }
  else if x = 32 then { t with column := t.column + 1, within := false }
  else if 32 < x && x < 127 then
    { t with column := t.column + 1, within := true, words := if t.within then t.words else t.words + 1 }
  else t

def ofBytes (b : Bytes) : Tally :=
  let t := b.foldl step {}
  { t with widest := max t.widest t.column }

def plus (s t : Tally) : Tally :=
  { lines := s.lines + t.lines, words := s.words + t.words, bytes := s.bytes + t.bytes
    widest := max s.widest t.widest }

/-- The counts that letters ask for. -/
def shown (g : Given) (t : Tally) : List Nat :=
  let asked := fun c => if g.hasAny "lwcmL" then g.has c else "lwc".toList.contains c
  ([('l', t.lines), ('w', t.words), ('m', t.bytes), ('c', t.bytes), ('L', t.widest)].filter fun x => asked x.1).map
    (·.2)

end Tally

/-- When there is a line for all together. -/
def totals : List String := ["auto", "always", "only", "never"]

/-- The one of some words that begins in a way. -/
def wordOf? (words : List String) (t : Text) : Option String :=
  if words.contains (String.ofList t) then some (String.ofList t)
  else match words.filter fun w => t.isPrefixOf w.toList with
    | [w] => some w
    | _ => none

/-- A value that is none of those that there are. -/
def unfit (tool option : String) (words : List String) (t : Text) (m : Machine) : Ran :=
  misused tool ("invalid argument ".toList ++ literal t ++ " for ".toList ++ literal option.toList ++
    "\nValid arguments are:".toList ++ words.flatMap fun w => "\n  - ".toList ++ literal w.toList) 1 m

def wc : Tool := program "wc" 1
  { plain := "clmwL", valued := "TF", hidden := "TF", long := [("lines", 'l'), ("words", 'w'), ("bytes", 'c'), ("chars", 'm'),
      ("max-line-length", 'L'), ("total", 'T'), ("files0-from", 'F')] }
  fun g files m =>
    match (g.values 'T').find? fun t => (wordOf? totals t).isNone with
    | some t => unfit "wc" "--total" totals t m
    | none =>
      match g.value? 'F', files with
      | none, _ => run g files (!files.isEmpty) true m
      | some _, p :: _ =>
        misused "wc" ("extra operand ".toList ++ literal p ++
          "\nfile operands cannot be combined with --files0-from".toList) 1 m
      | some l, [] =>
        let names := if isInput l then .ok m.input else m.tree.read l
        let n := if isInput l then { m with input := [] } else m
        match names with
        | .error e => finish [complain "wc" "cannot open " (quoted l ++ " for reading".toList) e 1] [] 1 m
        | .ok b =>
          let files := (between 0 b).map textOf
          if files.isEmpty then n.ends 0
          else run g files true (!(isInput l && (m.wiring.reading? 0).isNone)) n
where
  run (g : Given) (files : List Text) (named known : Bool) (m : Machine) : Ran :=
    let (ss, n) := Source.opened files m
    let kinds := (({} : Tally).shown g).length
    let isRegular := fun (s : Source) =>
      if isInput s.name then (m.wiring.reading? 0).isSome
      else match m.tree.find s.name with
        | .ok (_, .file ..) => true
        | _ => false
    let isThere := fun (s : Source) => s.content.isOk || s.content matches .error .isDirectory
    let size := (ss.map fun s => (s.content.toOption.getD []).length).foldl (· + ·) 0
    let total := (g.value? 'T').bind (wordOf? totals)
    let width :=
      if total = some "only" || !known || (ss.length = 1 && kinds = 1) then 1
      else
        let w := (Text.ofNat size).length
        if ss.any fun s => isThere s && !isRegular s then max 7 w else w
    let row := fun (t : Tally) (name : Option Text) =>
      lineOf ([' '].intercalate ((t.shown g).map (fun n => atRight width (Text.ofNat n)) ++ name.toList))
    let shown := fun (t : Tally) (s : Source) =>
      if total = some "only" then [] else row t (if named then some s.name else none)
    let said := ss.flatMap fun s => match s.content with
      | .ok b => [Except.ok (shown (Tally.ofBytes b) s)]
      | .error .isDirectory => [.error (Source.refusal "wc" s .isDirectory), .ok (shown {} s)]
      | .error e =>
        if s.name.isEmpty then [.error (objection "wc" "invalid zero-length file name".toList 1)]
        else [.error (Source.refusal "wc" s e)]
    let sum := (ss.filterMap fun s => s.content.toOption.map Tally.ofBytes).foldl Tally.plus {}
    let last := match total with
      | some "never" => []
      | some "only" => row sum none
      | some "always" => row sum (some "total".toList)
      | _ => if 1 < ss.length then row sum (some "total".toList) else []
    Source.finish (said ++ [.ok last]) 0 n

def rev : Tool := program "rev" 1 { plain := "0", long := [("zero", '0')] } fun g args m =>
  let (ss, n) := Source.opened args m
  let mark : UInt8 := if g.has '0' then 0 else 10
  let line := fun (l : Bytes) => (withoutMark mark l).reverse ++ if l.getLast? = some mark then [mark] else []
  let one := fun (s : Source) => match s.content with
    | .ok b => Except.ok ((endedBy mark b).flatMap line)
    | .error .isDirectory => .error (complain "rev" "" s.name .isDirectory 1)
    | .error e => .error (complain "rev" "cannot open " s.name e 1)
  let said := ss.map one
  Source.finish (said.filter (fun w => w matches .error _) ++ said.filter fun w => w matches .ok _) 0 n

/-- The pieces of what has been turned around, each of which begins with a separator that has been turned around
too; the flag tells whether they end with it instead. What has been read of a piece comes last. -/
def backPieces (separator : Bytes) (before : Bool) (seen : Bytes) : Nat → Bytes → List Bytes
  | _, [] => [seen.reverse]
  | skip, x :: xs =>
    if skip = 0 && separator.isPrefixOf (x :: xs) then
      if before then
        let whole := seen.reverse ++ separator
        whole :: backPieces separator before [] (separator.length - 1) xs
      else seen.reverse :: backPieces separator before [x] (separator.length - 1) xs
    else if skip = 0 then backPieces separator before (x :: seen) 0 xs
    else backPieces separator before (if before then seen else x :: seen) (skip - 1) xs

def tac : Tool := program "tac" 1
  { plain := "br", valued := "s", long := [("before", 'b'), ("regex", 'r'), ("separator", 's')] }
  fun g args m =>
    let wording := fun (p : Text) (e : IoFault) => if e = IoFault.isDirectory then named p ++ ": read error: Invalid argument".toList
      else "failed to open ".toList ++ quoted p ++ " for reading: ".toList ++ reason e
    let (ss, n) := Source.opened args m
    let separator := match (g.value? 's').map Octet.encode with
      | none => [10]
      | some [] => [0]
      | some s => s
    let turned := fun (b : Bytes) =>
      (backPieces separator.reverse (g.has 'b') [] 0 b.reverse).flatMap List.reverse
    let one := fun (s : Source) => match s.content with
      | .ok b => Except.ok (turned b)
      | .error e => .error (objection "tac" (wording s.name e) 1)
    Source.finish (ss.map one) 0 n

/-- What a program ends its lines with. -/
def Given.lineEnd (g : Given) : Char := if g.has 'z' then Char.ofNat 0 else '\n'

def lastOf (p : Text) : Text := ((Path.names p).getLast?).getD (if p.isEmpty then [] else ['/'])

def withoutEnding (name ending : Text) : Text :=
  if ending.isSuffixOf name && ending ≠ name then name.take (name.length - ending.length) else name

def basename : Tool := program "basename" 1
  { plain := "az", valued := "s", long := [("multiple", 'a'), ("suffix", 's'), ("zero", 'z')], inFront := true }
  fun g args m =>
    match args with
    | [] => missing "basename" m
    | p :: more =>
      let many := g.hasAny "as"
      match more.drop 1 with
      | q :: _ => if many then all g args m else misused "basename" ("extra operand ".toList ++ literal q) 1 m
      | [] =>
        if many then all g args m
        else m.tell .out (withoutEnding (lastOf p) ((more.head?).getD []) ++ [Given.lineEnd g]) 0
where
  all (g : Given) (args : List Text) (m : Machine) : Ran :=
    m.tell .out (args.flatMap fun p => withoutEnding (lastOf p) ((g.value? 's').getD []) ++ [Given.lineEnd g]) 0

def dirname : Tool := program "dirname" 1 { plain := "z", long := [("zero", 'z')], inFront := true } fun g args m =>
  let of := fun (p : Text) =>
    let whole := (p.reverse.dropWhile (· = '/')).reverse
    let front := whole.take (whole.length - (whole.reverse.takeWhile (· ≠ '/')).length)
    let front := (front.reverse.dropWhile (· = '/')).reverse
    if !front.isEmpty then front else if p.head? = some '/' then ['/'] else ['.']
  if args.isEmpty then missing "dirname" m else m.tell .out (args.flatMap fun p => of p ++ [Given.lineEnd g]) 0

/-- Variables that programs know of. -/
def printenv : Tool := program "printenv" 2 { plain := "0", long := [("null", '0')], inFront := true } fun g ns m =>
  let shown := (m.vars.filter (·.exported)).filterMap fun v => v.value.map (v.name, ·)
  let mark := if g.has '0' then Char.ofNat 0 else '\n'
  if ns.isEmpty then m.tell .out (shown.reverse.flatMap fun v => v.1 ++ '=' :: v.2 ++ [mark]) 0
  else
    let found := ns.filterMap fun n => shown.lookup n
    m.tell .out (found.flatMap fun v => v ++ [mark]) (if found.length = ns.length then 0 else 1)

/-- The same line again and again, as often as anybody looks at it. What is not read by others takes all the time
that there is. -/
def yes : Tool := program "yes" 1 { plain := "", inFront := true } fun _ args m =>
  let line := lineOf (if args.isEmpty then ['y'] else [' '].intercalate args)
  let r := finish [] ((List.replicate (max 1 (size / line.length)) line).flatten) 0 m
  match m.wiring.out with
  | .channel _ | .closed | .full => r
  | _ =>
    let s := Signal.passTo r.machine (m.course.clock + Nat.pow 10 15)
    ⟨s.machine, r.printed ++ s.printed, s.finish⟩
where
  size : Nat := 150000

def all : List (Text × Tool) :=
  [("wc".toList, wc), ("rev".toList, rev), ("tac".toList, tac), ("basename".toList, basename),
   ("dirname".toList, dirname), ("printenv".toList, printenv), ("yes".toList, yes)]

end TextTool

end Guidebook.Shell
