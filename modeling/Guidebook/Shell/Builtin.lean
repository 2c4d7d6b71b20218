import Guidebook.Shell.Condition
import Guidebook.Shell.Mask
import Guidebook.Shell.OptionWalk
import Guidebook.Shell.Printf
import Guidebook.Shell.ReadLine
import Guidebook.Shell.Signal

namespace Guidebook.Shell

namespace Builtin

open Tool

def echo : Tool := fun args m =>
  let (feed, args) := match args with
    | ['-', 'n'] :: as => (false, as)
    | as => (true, as)
  let t := [' '].intercalate args
  let r := Printf.unescape t.length t
  ⟨m, [(.out, r.1 ++ if feed && r.2 then [10] else [])], .status 0⟩

def printf : Tool := lettered "printf" false "" fun _ args m =>
  match args with
  | [] => refuse m "printf: usage: printf format [arg ...]" [] 2
  | f :: as =>
    let r := Printf.rounds f (as.length + 1) as
    let said := r.bad.map fun p => (Channel.err, Octet.encode (m.complaint ("printf: ".toList ++ p.text)))
    ⟨m, said ++ (if r.bytes.isEmpty then [] else [(.out, r.bytes)]),
      .status (if r.bad.any (·.isFatal) then 2 else if r.bad.isEmpty then 0 else 1)⟩

/-- Ends something with a status, which is that of the last command if none is given. -/
def ending (tool : String) (finish : Nat → Finish) : Tool := fun args m =>
  match args with
  | [] => ⟨m, [], finish m.status⟩
  | a :: _ =>
    match number? a with
    | some n => ⟨m, [], finish n⟩
    | none => m.breaks (tool.toList ++ ": Illegal number: ".toList ++ a)

/-- Leaves loops or goes on with them. Outside of loops nothing happens. -/
def leaving (tool : String) (again : Bool) : Tool := fun args m =>
  match number? ((args.head?).getD ['1']) with
  | some (n + 1) => if m.loops = 0 then m.ends 0 else ⟨m, [], .leave (min (n + 1) m.loops) again⟩
  | _ => m.breaks (tool.toList ++ ": Illegal number: ".toList ++ (args.head?).getD [])

/-- Whether a path is looked for in other places, too. -/
def isSought (p : Text) : Bool :=
  !Path.isAbsolute p && (Path.names p).head?.all fun n => n ≠ ['.'] && n ≠ ['.', '.']

/-- The names that lead to a path from some others, where a step up takes the last one away. -/
def strolled (place : Address) (p : Text) : Address :=
  (Path.names p).foldl (fun a n => if n = ['.'] then a else if n = ['.', '.'] then a.dropLast else a ++ [n])
    (if Path.isAbsolute p then [] else place)

/-- Where a path leads and by which names, which are those of the nodes if links are not to be seen. -/
def dirAt? (m : Machine) (physical : Bool) (p : Text) : Option (Address × Address) :=
  let names := strolled m.place p
  match m.tree.find (if physical then p else Machine.shownPath names) with
  | .ok (a, .dir _) => some (a, if physical then a else names)
  | _ => none

/-- Where to go for a path: there, or to a place under the directories that are listed for that. -/
def goal? (m : Machine) (physical : Bool) (p : Text) : Option ((Address × Address) × Bool) :=
  let listed := match (m.value? "CDPATH".toList).filter fun t => !t.isEmpty && isSought p with
    | some t => Text.pieces (· == ':') t
    | none => []
  let found := listed.findSome? fun d =>
    (dirAt? m physical (if d.isEmpty then p else Path.join d p)).map fun a => (a, !d.isEmpty)
  found.orElse fun _ => (dirAt? m physical (if p.isEmpty then ['.'] else p)).map fun a => (a, false)

def cd : Tool := lettered "cd" false "LP" fun ls args m =>
  let p := match args with
    | [] => (m.value? "HOME".toList).getD []
    | p :: _ => if p = ['-'] then (m.value? "OLDPWD".toList).getD [] else p
  match goal? m (ls.getLast? = some 'P') p with
  | some ((a, place), far) =>
    let n : Machine := { m with tree := { m.tree with here := a }, place }
    let n := (n.placed "OLDPWD" m.place).placed "PWD" place
    if far || args.head? = some ['-'] then n.tell .out (Machine.shownPath place ++ ['\n']) 0 else n.ends 0
  | none => refuse m "cd: can't cd to " p 2

def pwd : Tool := lettered "pwd" false "LP" fun ls _ m =>
  m.tell .out (Machine.shownPath (if ls.getLast? = some 'P' then m.tree.here else m.place) ++ ['\n']) 0

/-- A name and perhaps a value for it. -/
def named (a : Text) : Text × Option Text :=
  match Text.cut? '=' a with
  | some (n, v) => (n, some v)
  | none => (a, none)

/-- Does something with each of some names, which have to be names of variables that may change. -/
def forNames (tool : String) (f : Machine → Text → Option Text → Machine) : Tool := fun args m =>
  match args with
  | [] => m.ends 0
  | a :: as =>
    let (n, v) := named a
    let what := tool.toList ++ ": ".toList
    if !Lexer.isName n then m.breaks (what ++ n ++ ": bad variable name".toList)
    else if v.isSome && isFixed m n then m.breaks (what ++ n ++ ": is read only".toList)
    else if n = Machine.optionVar && v.any (!Text.isDigits ·) then
      m.breaks (what ++ "Illegal number: ".toList ++ v.getD [])
    else forNames tool f as (f m n v)

/-- Gives a name a value if there is one for it. -/
def give (m : Machine) (n : Text) (v : Option Text) : Machine :=
  match v with
  | some v => m.assign n v
  | none => m

/-- Whether a text comes before another one or is the same. -/
def inOrder (a b : Text) : Bool := !decide (Octet.encode b < Octet.encode a)

/-- Variables in the way in which they are given their values. -/
def showVars (front : String) (p : Variable → Bool) : Tool := fun _ m =>
  let vs := (m.vars.filter p).mergeSort fun v w => inOrder v.name w.name
  m.tell .out (vs.flatMap fun v =>
    front.toList ++ v.name ++ (match v.value with
      | some t => '=' :: quoted t
      | none => []) ++ ['\n']) 0

/-- Tells something about variables, or shows those of which that has been told. -/
def telling (tool : String) (f : Machine → Text → Machine) (p : Variable → Bool) : Tool :=
  lettered tool true "p" fun ls args m =>
    if ls.contains 'p' || args.isEmpty then showVars (tool ++ " ") p [] m
    else forNames tool (fun m n v => f (give m n v) n) args m

def exportAll : Tool := telling "export" Machine.exportName (·.exported)

/-- Names whose values stay as they are. -/
def fixAll : Tool := telling "readonly" Machine.fixName (·.fixed)

def unset : Tool := lettered "unset" true "vf" fun ls args m =>
  if ls.contains 'f' then
    ({ m with functions := m.functions.filter fun f => !args.contains f.1 } : Machine).ends 0
  else if args.contains Machine.optionVar then m.breaks "unset: Illegal number: ".toList
  else match args.find? (isFixed m) with
    | some n => m.breaks ("unset: ".toList ++ n ++ ": is read only".toList)
    | none => forNames "unset" (fun m n _ => m.unset n) args m

/-- Covers variables for as long as a function runs. -/
def cover : Tool := fun args m =>
  match m.covered with
  | none => m.breaks "local: not in a function".toList
  | some _ => forNames "local" (fun m n v =>
      let old := m.covered.getD []
      let m := if old.any (·.1 = n) then m else { m with covered := some ((n, m.entry? n) :: old) }
      give m n v) args m

/-- Gives the shell other arguments, of which no options have been read. -/
def withArgs (m : Machine) (args : List Text) : Machine := { m with args := args, options := .start }

def shift : Tool := fun args m =>
  let t := (args.head?).getD ['1']
  match number? t with
  | none => m.breaks ("shift: Illegal number: ".toList ++ t)
  | some n =>
    if n ≤ m.args.length then (withArgs m (m.args.drop n)).ends 0
    else m.breaks "shift: can't shift that many".toList

/-- What has no letter makes no difference here. -/
def mute : List Text := ["nolog".toList, "debug".toList]

def mannerNames : List Text := Manner.names.map (·.2) ++ mute

def letterOf? (name : Text) : Option Char := (Manner.names.find? (·.2 = name)).map (·.1)

def padTo (n : Nat) (t : Text) : Text := t ++ List.replicate (n - t.length) ' '

/-- What the shell has been told, for people or in the way in which it is told. -/
def showManner (m : Machine) (forPeople : Bool) : Text :=
  let isOn := fun n => ((letterOf? n).map m.manner.letters.contains).getD false
  if forPeople then
    "Current option settings\n".toList ++ mannerNames.flatMap fun n =>
      padTo 16 n ++ (if isOn n then "on".toList else "off".toList) ++ ['\n']
  else mannerNames.flatMap fun n =>
    "set ".toList ++ (if isOn n then '-' else '+') :: "o ".toList ++ n ++ ['\n']

/-- Letters and words that tell the shell how to go on, up to arguments, if there are any. -/
def setFrom (said : Text) : Tool := fun args m =>
  let fail := fun (sign : Char) (t : Text) => m.breaks ("set: Illegal option ".toList ++ sign :: t)
  match args with
  | [] => m.tell .out said 0
  | ['-'] :: as =>
    let m := { m with manner := (m.manner.told false 'x').told false 'v' }
    (if as.isEmpty then m else withArgs m as).tell .out said 0
  | ['-', '-'] :: as => (withArgs m as).tell .out said 0
  | [s, 'o'] :: as =>
    if s ≠ '-' ∧ s ≠ '+' then (withArgs m args).tell .out said 0
    else match as with
      | [] => m.tell .out (said ++ showManner m (s = '-')) 0
      | w :: as =>
        match letterOf? w with
        | some c => setFrom said as { m with manner := m.manner.told (s = '-') c }
        | none => if mute.contains w then setFrom said as m else fail s ("o ".toList ++ w)
  | (s :: c :: cs) :: as =>
    if s ≠ '-' ∧ s ≠ '+' then (withArgs m args).tell .out said 0
    else match (c :: cs).find? fun d => (Manner.names.lookup d).isNone with
      | some d => fail s [d]
      | none =>
        setFrom said as { m with manner := (c :: cs).foldl (fun w d => w.told (s = '-') d) m.manner }
  | as => (withArgs m as).tell .out said 0

def set : Tool := fun args m =>
  if args.isEmpty then showVars "" (·.value.isSome) [] m else setFrom [] args m

/-- Where a name stands among others that words stand for. -/
def bucket (n : Text) : Nat :=
  let codes := (Octet.encode n).map UInt8.toNat
  (codes.foldl (· + ·) (16 * (codes.head?).getD 0)) % 39

def shownAlias (a : Text × Text) : Text := a.1 ++ '=' :: quoted a.2 ++ ['\n']

/-- A name is not found among those that stand for something. -/
def aliasMissing (tool : String) (n : Text) : Channel × Bytes :=
  (.err, Octet.encode (tool.toList ++ ": ".toList ++ n ++ " not found\n".toList))

/-- A value may follow a name that begins with the sign for it. -/
def aliasValue? (a : Text) : Option (Text × Text) :=
  match a with
  | c :: cs => (Text.cut? '=' cs).map fun r => (c :: r.1, r.2)
  | [] => none

def aliasOne (r : Ran) (a : Text) : Ran :=
  let m := r.machine
  match aliasValue? a with
  | some (n, v) => { r with machine := { m with aliases := m.aliases.filter (·.1 ≠ n) ++ [(n, v)] } }
  | none =>
    match m.aliases.lookup a with
    | some v => { r with printed := r.printed ++ [(.out, Octet.encode (shownAlias (a, v)))] }
    | none => ⟨m, r.printed ++ [aliasMissing "alias" a], .status 1⟩

/-- Lets words stand for texts, or tells what they stand for. -/
def aliasAll : Tool := fun args m =>
  if args.isEmpty then
    let as := m.aliases.mergeSort fun a b => bucket a.1 ≤ bucket b.1
    m.tell .out (as.flatMap shownAlias) 0
  else args.foldl aliasOne (m.ends 0)

def unalias : Tool := lettered "unalias" false "a" fun ls args m =>
  if ls.contains 'a' then ({ m with aliases := [] } : Machine).ends 0
  else
    let missing := args.filter fun n => (m.aliases.lookup n).isNone
    ⟨{ m with aliases := m.aliases.filter fun a => !args.contains a.1 },
      missing.map (aliasMissing "unalias"), .status (if missing.isEmpty then 0 else 1)⟩

/-- There is no bound on anything but what is left of a shell that has failed. -/
def limit : Tool := fun args m =>
  match letters "HSatfdsmcnpvwlre".toList args with
  | .error c => refuse m "ulimit: Illegal option -" [c] 2
  | .ok (ls, []) => m.tell .out (if ls.contains 'c' then "0\n".toList else "unlimited\n".toList) 0
  | .ok (_, t :: _) =>
    if Text.isDigits t || t = "unlimited".toList then m.ends 0 else refuse m "ulimit: bad number" [] 2

/-- No time passes. -/
def times : Tool := fun _ m =>
  let line := "0m0.000000s 0m0.000000s\n".toList
  m.tell .out (line ++ line) 0

def condition (tool : String) : Tool := fun args m =>
  match Condition.holds m.tree args with
  | .ok true => m.ends 0
  | .ok false => m.ends 1
  | .error why => refuse m (tool ++ ": ") why 2

def bracket : Tool := fun args m =>
  if args.getLast? = some [']'] then condition "[" args.dropLast m else refuse m "[: missing ]" [] 2

/-- The commands whose failure ends the shell and whose assignments stay. -/
def special : List (Text × Tool) :=
  [(":".toList, quit 0), ("exit".toList, ending "exit" fun n => .exit (n % 256)),
   ("return".toList, ending "return" .back), ("break".toList, leaving "break" false),
   ("continue".toList, leaving "continue" true), ("trap".toList, Signal.trap),
   ("export".toList, exportAll), ("readonly".toList, fixAll), ("unset".toList, unset),
   ("shift".toList, shift), ("set".toList, set), ("times".toList, times),
   ("local".toList, cover)]

/-- Commands that are no programs. -/
def inner : List (Text × Tool) :=
  special ++ [("cd".toList, cd), ("read".toList, ReadLine.read),
    ("wait".toList, Signal.wait), ("alias".toList, aliasAll), ("unalias".toList, unalias),
    ("jobs".toList, Signal.jobs), ("fg".toList, Signal.resume "fg"),
    ("bg".toList, Signal.resume "bg"), ("umask".toList, Mask.umask), ("ulimit".toList, limit),
    ("getopts".toList, OptionWalk.getopts)]

/-- Commands that are programs, too. -/
def outer : List (Text × Tool) :=
  [("true".toList, quit 0), ("false".toList, quit 1), ("echo".toList, echo),
   ("printf".toList, printf), ("kill".toList, Signal.kill), ("pwd".toList, pwd),
   ("test".toList, condition "test"), (['['], bracket)]

def all : List (Text × Tool) := inner ++ outer

end Builtin

end Guidebook.Shell
