import Guidebook.Shell.Arithmetic
import Guidebook.Shell.Glob

namespace Guidebook.Shell

/-- A word that is being cut into fields: those that are complete, newest first, and the one that
has begun, its last character first. Without separators nothing is cut. The flag tells whether a
blank has just ended a field. -/
structure Fields where
  separators : Option Text
  done : List (List Glyph)
  current : Option (List Glyph)
  afterBlank : Bool

namespace Fields

def start (separators : Option Text) : Fields := ⟨separators, [], none, false⟩

def cut (f : Fields) : Fields :=
  match f.current with
  | none => f
  | some g => { f with done := g.reverse :: f.done, current := none }

def add (f : Fields) (gs : List Glyph) : Fields :=
  { f with current := some (gs.reverseAux (f.current.getD [])), afterBlank := false }

def isBlank (c : Char) : Bool := c = ' ' || c = '\t' || c = '\n'

/-- A separator that is no blank ends a field even if there is nothing in it. -/
def separate (f : Fields) (c : Char) : Fields :=
  if isBlank c then if f.current.isSome then { f.cut with afterBlank := true } else f
  else if f.current.isSome then f.cut
  else if f.afterBlank then { f with afterBlank := false }
  else (f.add []).cut

/-- A value that is not quoted is cut at separators. -/
def addLoose (f : Fields) (value : Text) : Fields :=
  match f.separators with
  | none => if value.isEmpty then f else f.add (value.map (·, false))
  | some seps =>
    value.foldl (fun f c => if seps.contains c then f.separate c else f.add [(c, false)]) f

def addValue (f : Fields) (value : Text) (quoted : Bool) : Fields :=
  if quoted then f.add (value.map (·, true)) else f.addLoose value

/-- Each argument is a field of its own. -/
def addArgs (f : Fields) (quoted : Bool) : List Text → Fields
  | [] => f
  | [a] => f.addValue a quoted
  | a :: as => addArgs (f.addValue a quoted).cut quoted as

def glyphs (f : Fields) : List (List Glyph) := f.cut.done.reverse

/-- All of it as one. -/
def together (f : Fields) : List Glyph := f.glyphs.flatten

end Fields

/-- How far the filling in has come: the machine, what has been written on the way, and the status of
the last commands whose output was filled in. -/
structure Progress where
  machine : Machine
  said : Printed
  status : Option Nat

def Progress.start (m : Machine) : Progress := ⟨m, [], none⟩

/-- Filling in, which may end the shell. -/
abbrev Expansion (α : Type) := StateT Progress (Except Ran) α

/-- What deals with what is not part of the commands at hand: texts that are commands from a line on,
functions, programs, and texts within words. -/
structure Reader where
  run : Nat → Text → Machine → Ran
  call : Script → Machine → Ran
  start : Text → List Text → Machine → Except IoFault Ran
  fill : Around → Text → Fields → Expansion Fields

/-- What a shell has been told to do at its end. -/
def Reader.atEnd (read : Reader) (r : Ran) : Ran :=
  match r.finish, r.machine.traps.lookup 0 with
  | .killed _, _ | .late, _ | _, none => r
  | f, some action =>
    let s := read.run 1 action { r.machine with traps := [], status := f.code }
    let finish := match s.finish with
      | .exit n => .exit n
      | .killed n => .killed n
      | .late => .late
      | _ => .exit f.code
    ⟨s.machine, r.printed ++ s.printed, finish⟩

namespace Expansion

def fail (what : Text) : Expansion α := do
  let p ← get
  let r := p.machine.breaksItself what
  throw { r with printed := p.said ++ r.printed }

/-- Every separator there is unless a variable lists others. -/
def separators (m : Machine) : Text := (m.value? "IFS".toList).getD [' ', '\t', '\n']

def isMany (name : Text) : Bool := name = ['@'] || name = ['*']

/-- The value of a parameter put into fields. All arguments are fields of their own, but between
quotation marks a star stands for one field. -/
def addParam (m : Machine) (name : Text) (quoted : Bool) (value : Text) (f : Fields) : Fields :=
  if !isMany name then f.addValue value quoted
  else if name = ['*'] && quoted then f.addValue (((separators m).take 1).intercalate m.args) true
  else if f.separators.isNone then f.addValue value quoted
  else f.addArgs quoted m.args

/-- The text within a word, all of it as one. -/
def inner (read : Reader) (a : Around) (t : Text) : Expansion (List Glyph) := do
  return (← read.fill a t (.start none)).together

def innerText (read : Reader) (a : Around) (t : Text) : Expansion Text := do
  return (← inner read a t).map (·.1)

def around (quoted : Bool) : Around := if quoted then .double true else .braced

/-- The value of a parameter. That it is missing may be a failure. -/
def present (name : Text) (v : Option Text) : Expansion Text := do
  match v with
  | some v => return v
  | none =>
    let m := (← get).machine
    if m.manner.careful && !isMany name then fail (name ++ ": parameter not set".toList) else return []

def assign (name value : Text) : Expansion Unit := do
  let m := (← get).machine
  if ((m.entry? name).map (·.fixed)).getD false then fail (name ++ ": is read only".toList)
  else if name = Machine.optionVar && !Text.isDigits value then fail ("Illegal number: ".toList ++ value)
  else modify fun p => { p with machine := m.assign name value }

def param (read : Reader) (name : Text) (u : Use) (quoted : Bool) (f : Fields) : Expansion Fields := do
  let m := (← get).machine
  let v := m.value? name
  match u with
  | .value => return addParam m name quoted (← present name v) f
  | .length =>
    if isMany name then return f.addValue (Text.ofNat m.args.length) quoted
    else return f.addValue (Text.ofNat (← present name v).length) quoted
  | .without atEnd longest pattern =>
    let v ← present name v
    let ps := Glob.ofGlyphs (← inner read .braced pattern)
    return f.addValue (Glob.without atEnd longest ps v) quoted
  | .ifMissing act orEmpty more =>
    let isMissing := v.all fun t => orEmpty && t.isEmpty
    match act, isMissing with
    | .instead, true => return if quoted then f.add [] else f
    | .instead, false | .other, true => read.fill (around quoted) more f
    | .assign, true => do
      let t ← innerText read (around quoted) more
      assign name t
      return f.addValue t quoted
    | .fail, true => do
      let t ← innerText read (around quoted) more
      let usual := if orEmpty then "parameter not set or null" else "parameter not set"
      fail (name ++ ": ".toList ++ if more.isEmpty then usual.toList else t)
    | _, false => return addParam m name quoted (v.getD []) f

/-- What commands print, without the ends of lines that it ends with. -/
def output (read : Reader) (t : Text) (line : Nat) : Expansion Text := do
  let m := (← get).machine
  let r := read.atEnd (read.run line t { m.within with
    wiring := m.wiring.straightened, tested := false, loops := 0 })
  let said := (← get).said ++ r.printed.off .out
  set (⟨m.afterwards r.machine m.status, said, some r.finish.code⟩ : Progress)
  match r.finish with
  | .killed _ | .late => throw ⟨(← get).machine, said, r.finish⟩
  | _ =>
    let t := (Octet.decode (r.printed.on .out)).filter (· ≠ '\x00')
    return (t.reverse.dropWhile (· = '\n')).reverse

def sum (read : Reader) (t : Text) : Expansion Text := do
  let t ← innerText read .here t
  let wrong := fun (why : Text) => "arithmetic expression: ".toList ++ why ++ ": \"".toList ++ t ++ ['"']
  match Arithmetic.ofText t with
  | .error why => fail (wrong why)
  | .ok a =>
    let p ← get
    match a.eval p.machine with
    | .error (.divided) => fail (wrong "division by zero".toList)
    | .error (.unreadable v) => fail ("Illegal number: ".toList ++ v)
    | .error (.fixed v) => fail (v ++ ": is read only".toList)
    | .ok (i, m) =>
      set { p with machine := m }
      return Text.ofInt i

/-- What a piece of a word stands for put into fields. The flag tells whether the characters that are
not quoted are cut at separators, too. -/
def part (read : Reader) (loose : Bool) (f : Fields) : Part → Expansion Fields
  | .mark => return f.add []
  | .char c quoted => return if loose && !quoted then f.addLoose [c] else f.add [(c, quoted)]
  | .param name u quoted => param read name u quoted f
  | .output t line quoted => do return f.addValue (← output read t line) quoted
  | .sum t quoted => do return f.addValue (← sum read t) quoted
  | .here t => read.fill .here t f

def parts (read : Reader) (loose : Bool) (w : Word) (f : Fields) : Expansion Fields :=
  w.foldlM (part read loose) f

end Expansion

/-- The name that a word begins with, if it is plain and a path goes on behind it. -/
def leadingName? (several : Bool) : Word → Option Text
  | [] => some []
  | .char c false :: w =>
    if c = '/' || several && c = ':' then some [] else (leadingName? several w).map (c :: ·)
  | _ => none

/-- A home directory in the place of a `~` where a path begins, and of the name behind it. The flags tell whether
there may be several paths with colons between them, and whether a path begins; the number tells how much of a name
is still to be left out. -/
def putHome (homes : Text → Option Text) (several : Bool) : Nat → Bool → Word → Word
  | _, _, [] => []
  | k + 1, _, _ :: w => putHome homes several k false w
  | 0, begins, p :: w =>
    let found := if begins && p = .char '~' false then
        (leadingName? several w).bind fun n => (homes n).map (n.length, ·)
      else none
    match found with
    | some (k, home) => .mark :: home.map (.char · true) ++ putHome homes several k false w
    | none => p :: putHome homes several 0 (several && p = .char ':' false) w

/-- The home directories of those who are on every system. -/
def usualHomes : List (String × String) :=
  [("root", "/root"), ("daemon", "/usr/sbin"), ("bin", "/bin"), ("sys", "/dev"), ("sync", "/bin"), ("games", "/usr/games"),
   ("man", "/var/cache/man"), ("lp", "/var/spool/lpd"), ("mail", "/var/mail"), ("news", "/var/spool/news"),
   ("uucp", "/var/spool/uucp"), ("proxy", "/bin"), ("www-data", "/var/www"), ("backup", "/var/backups"),
   ("list", "/var/list"), ("irc", "/run/ircd"), ("nobody", "/nonexistent")]

def withHome (m : Machine) (several : Bool) (w : Word) : Word :=
  putHome (fun n =>
    if n.isEmpty then m.value? "HOME".toList else (usualHomes.lookup (String.ofList n)).map String.toList) several 0 true w

/-- The text within a word put into fields. -/
def Expansion.fill (read : Reader) (a : Around) (t : Text) (f : Fields) : Expansion Fields := do
  match Word.ofText? a t with
  | some w =>
    let m := (← get).machine
    parts read (a = .braced) (if a = .braced then withHome m false w else w) f
  | none => fail "Syntax error: Unterminated quoted string".toList

namespace Word

open Expansion

/-- All arguments between quotation marks are no field if there are none. -/
def unmarked (w : Word) : Word :=
  match w with
  | [.mark, .param ['@'] .value true] => w.drop 1
  | w => w

/-- The fields that a word stands for. -/
def expand (read : Reader) (w : Word) : Expansion (List Text) := do
  let m := (← get).machine
  let f ← parts read false (withHome m false w.unmarked) (.start (some (separators m)))
  let m := (← get).machine
  if m.manner.literal then return f.glyphs.map fun gs => gs.map (·.1)
  else return f.glyphs.flatMap (Glob.paths m.tree)

/-- The one field that a word stands for where it is not cut. The flag tells whether that can be several
paths. -/
def glyphsOf (read : Reader) (several : Bool) (w : Word) : Expansion (List Glyph) := do
  return (← parts read false (withHome (← get).machine several w) (.start none)).together

def glyphs (read : Reader) (w : Word) : Expansion (List Glyph) := w.glyphsOf read false

/-- The value that a word stands for. -/
def value (read : Reader) (w : Word) : Expansion Text := do
  return (← w.glyphsOf read true).map (·.1)

/-- Commands whose arguments may give variables values. -/
def declarers : List Text := ["export".toList, "readonly".toList, "local".toList]

/-- The fields of a word that is an argument of a command that has begun with others. -/
def argument (read : Reader) (before : List Text) (w : Word) : Expansion (List Text) := do
  let declares := (before.find? (· ≠ "command".toList)).any declarers.contains
  match (assignment? w).filter fun _ => declares with
  | some (n, v) => return [n ++ '=' :: (← value read v)]
  | none => w.expand read

/-- The fields of words that follow others. -/
def expandAfter (read : Reader) (before : List Text) : List Word → Expansion (List Text)
  | [] => return before
  | w :: ws => do
    let fs ← w.argument read before
    expandAfter read (before ++ fs) ws

def expandAll (read : Reader) (ws : List Word) : Expansion (List Text) := expandAfter read [] ws

def text (read : Reader) (w : Word) : Expansion Text := do
  return (← w.glyphs read).map (·.1)

end Word

/-- Gives variables the values that words stand for. -/
def assignAll (read : Reader) : List (Text × Word) → Expansion (List (Text × Text))
  | [] => return []
  | (n, w) :: as => do
    let v ← w.value read
    Expansion.assign n v
    return (n, v) :: (← assignAll read as)

end Guidebook.Shell
