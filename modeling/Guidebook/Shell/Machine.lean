import Guidebook.Shell.Course
import Guidebook.Shell.Script

namespace Guidebook.Shell

structure Variable where
  name : Text
  value : Option Text
  exported : Bool
  fixed : Bool
  deriving DecidableEq, Repr

def Variable.none (name : Text) : Variable := ⟨name, .none, false, false⟩

/-- What a shell has been told about how to go on, as letters. -/
structure Manner where
  letters : Text
  deriving DecidableEq, Repr

namespace Manner

def usual : Manner := ⟨[]⟩

/-- The letters there are, and what they are called. They are shown from the last one on. -/
def names : List (Char × Text) :=
  [('e', "errexit".toList), ('f', "noglob".toList), ('I', "ignoreeof".toList),
   ('i', "interactive".toList), ('m', "monitor".toList), ('n', "noexec".toList), ('s', "stdin".toList),
   ('x', "xtrace".toList), ('v', "verbose".toList), ('V', "vi".toList), ('E', "emacs".toList),
   ('C', "noclobber".toList), ('a', "allexport".toList), ('b', "notify".toList),
   ('u', "nounset".toList), ('p', "privileged".toList)]

def shown (w : Manner) : Text := ((names.map (·.1)).filter w.letters.contains).reverse

def told (w : Manner) (on : Bool) (c : Char) : Manner :=
  let others := w.letters.filter (· ≠ c)
  ⟨if on then c :: others else others⟩

/-- To end when a command fails. -/
def strict (w : Manner) : Bool := w.letters.contains 'e'

/-- To fail where a parameter is missing. -/
def careful (w : Manner) : Bool := w.letters.contains 'u'

/-- To leave patterns as they are. -/
def literal (w : Manner) : Bool := w.letters.contains 'f'

/-- To show commands. -/
def traced (w : Manner) : Bool := w.letters.contains 'x'

/-- To keep files from being overwritten. -/
def keeping (w : Manner) : Bool := w.letters.contains 'C'

/-- To do nothing any more. -/
def idle (w : Manner) : Bool := w.letters.contains 'n'

/-- To export whatever gets a value. -/
def exporting (w : Manner) : Bool := w.letters.contains 'a'

end Manner

/-- How far the options among some arguments have been read: the argument to come, and how much of the
one before it has been read if there is more in it. -/
structure Progression where
  next : Nat
  within : Option Nat
  deriving DecidableEq, Repr

def Progression.start : Progression := ⟨1, none⟩

/-- How a command ends: it has a status, or it leaves loops or goes on with their next round, leaves a
function, ends the shell, is killed by a signal, or its time is up. -/
inductive Finish where
  | status (n : Nat)
  | leave (levels : Nat) (again : Bool)
  | back (n : Nat)
  | exit (n : Nat)
  | killed (signal : Nat)
  | late
  deriving DecidableEq, Repr

/-- The exit code that others see. -/
def Finish.code : Finish → Nat
  | .status n | .back n | .exit n => n
  | .leave .. => 0
  | .killed n => 128 + n
  | .late => 143

/-- Something that was started in the background: by which number it is known, which process it is, how it
ends and when, and whether anybody has waited for it. -/
structure Job where
  slot : Nat
  process : Nat
  finish : Finish
  ending : Nat
  waited : Bool
  deriving DecidableEq, Repr

/-- A shell at work: the files, the variables, its own name, the arguments, and what there is to read.
Then what it has been told: its manner, functions, what to do on signals, what words stand for, where
its streams go and come from. Then where it is: by which names it has come to its directory, what it reads commands from if that is worth telling,
the status of the last command, the line, how many loops it is in, whether a failure is being looked
for, the variables that the function it is in has covered, signals to be dealt with, what was started in
the background and how many processes that were, how far options have been read, where programs have been found. At last what the whole shell
does on signals and what it has started if this is a part of it that stands apart, and how time passes. -/
structure Machine where
  tree : Disk
  vars : List Variable
  name : Text
  args : List Text
  input : Bytes
  manner : Manner := .usual
  functions : List (Text × Script) := []
  traps : List (Nat × Text) := []
  aliases : List (Text × Text) := []
  wiring : Wiring := .straight
  feeds : List (Nat × Bytes) := []
  place : Address := []
  context : Text := []
  status : Nat := 0
  line : Nat := 1
  loops : Nat := 0
  tested : Bool := false
  covered : Option (List (Text × Option Variable)) := none
  pending : List Nat := []
  jobs : List Job := []
  started : Nat := 0
  options : Progression := .start
  found : List (Text × Text) := []
  whole : Option (List (Nat × Text)) := none
  around : List Job := []
  course : Course := .start

structure Ran where
  machine : Machine
  printed : Printed
  finish : Finish

namespace Machine

/-- It is another time. -/
def timed (m : Machine) (time : Nat) : Machine :=
  { m with
    tree := { m.tree with now := m.tree.now + time - m.course.clock }, course := { m.course with clock := time } }

/-- The number of the shell itself. -/
def ownNumber : Nat := 4000

def entry? (m : Machine) (name : Text) : Option Variable := m.vars.find? (·.name = name)

def optionVar : Text := "OPTIND".toList

/-- Gives a variable a value. The number of an argument lets options be read from there. -/
def assign (m : Machine) (name value : Text) : Machine :=
  let old := (m.entry? name).getD (.none name)
  let vars := { old with value := some value, exported := old.exported || m.manner.exporting } ::
    m.vars.filter (·.name ≠ name)
  let options := if name = optionVar then ⟨max 1 (Text.digitsValue value), none⟩ else m.options
  { m with vars := vars, options := options, found := if name = "PATH".toList then [] else m.found }

def shownPath (a : Address) : Text := '/' :: ['/'].intercalate a

/-- Where programs are looked for if nothing else is said. -/
def usualPath : String := "/usr/local/sbin:/usr/local/bin:/usr/sbin:/usr/bin:/sbin:/bin"

def unset (m : Machine) (name : Text) : Machine :=
  { m with vars := m.vars.filter (·.name ≠ name) }

/-- Tells something about a variable, which need not have a value. -/
def mark (m : Machine) (name : Text) (f : Variable → Variable) : Machine :=
  { m with vars := f ((m.entry? name).getD (.none name)) :: m.vars.filter (·.name ≠ name) }

def exportName (m : Machine) (name : Text) : Machine := m.mark name ({ · with exported := true })

def fixName (m : Machine) (name : Text) : Machine := m.mark name ({ · with fixed := true })

/-- Tells programs where the shell is. -/
def placed (m : Machine) (name : String) (a : Address) : Machine :=
  (m.assign name.toList (shownPath a)).exportName name.toList

/-- A shell that has been told nothing yet. Some variables are always there. -/
def fresh (tree : Disk) (vars : List Variable) (name : Text) (args : List Text) (input : Bytes) :
    Machine :=
  let m : Machine := { tree, vars, name, args, input }
  let all := [("PATH", usualPath), ("PPID", "1"), ("PS1", "# "), ("PS2", "> "), ("PS4", "+ ")]
  let usual := all.filter fun v => (m.entry? v.1.toList).isNone
  let m := (usual ++ [("IFS", " \t\n"), ("OPTIND", "1")]).foldl
    (fun m v => m.assign v.1.toList v.2.toList) m
  let told := ((m.entry? "PWD".toList).bind (·.value)).filter fun p =>
    Path.isAbsolute p && (tree.find p).toOption.any (·.1 = tree.here)
  let place := (told.map Path.names).getD tree.here
  { m with place }.placed "PWD" place

/-- Gives a name what it stood for before. -/
def uncover (m : Machine) (c : Text × Option Variable) : Machine :=
  { m with vars := c.2.toList ++ m.vars.filter (·.name ≠ c.1) }

/-- Gives names what they stood for in another shell. -/
def withOld (m old : Machine) (names : List Text) : Machine :=
  let isOne := fun (v : Variable) => names.contains v.name
  { m with vars := old.vars.filter isOne ++ m.vars.filter (!isOne ·) }

/-- What a parameter stands for, if it is there. -/
def value? (m : Machine) (name : Text) : Option Text :=
  match name with
  | ['?'] => some (Text.ofNat m.status)
  | ['$'] => some (Text.ofNat ownNumber)
  | ['#'] => some (Text.ofNat m.args.length)
  | ['-'] => some m.manner.shown
  | ['!'] => if m.started = 0 then none else some (Text.ofNat (ownNumber + m.started))
  | ['@'] | ['*'] => if m.args.isEmpty then none else some ([' '].intercalate m.args)
  | name =>
    if Text.isDigits name then
      match Text.digitsValue name with
      | 0 => some m.name
      | n + 1 => m.args[n]?
    else (m.entry? name).bind (·.value)

/-- What is left to read after another shell has read. -/
def fedAfter (m other : Machine) : List (Nat × Bytes) :=
  m.feeds.map fun (n, b) => (n, (other.feeds.lookup n).getD b)

/-- A part of the shell that stands apart. It does nothing on signals but leaves alone those that are to be
left alone. -/
def within (m : Machine) : Machine :=
  { m with
    traps := m.traps.filter fun t => t.2.isEmpty && t.1 ≠ 0
    whole := some (m.whole.getD m.traps)
    around := m.jobs ++ m.around
    jobs := [] }

/-- What is left of another shell that has ended: the files, what there is to read, the time, a status. -/
def afterwards (m other : Machine) (status : Nat) : Machine :=
  { m with
    tree := other.tree.asIn m.tree, input := other.input, feeds := m.fedAfter other, course := other.course
    status := status }

def ends (m : Machine) (status : Nat) : Ran := ⟨m, [], .status status⟩

def tell (m : Machine) (c : Channel) (t : Text) (status : Nat) : Ran :=
  ⟨m, [(c, Octet.encode t)], .status status⟩

/-- What a command of the shell complains about. -/
def complaint (m : Machine) (what : Text) : Text :=
  m.name ++ ": ".toList ++ Text.ofNat m.line ++ ": ".toList ++ what ++ ['\n']

/-- What the shell itself complains about. -/
def ownComplaint (m : Machine) (what : Text) : Text := m.complaint (m.context ++ what)

/-- A complaint that ends the shell. -/
def breaks (m : Machine) (what : Text) : Ran :=
  ⟨m, [(.err, Octet.encode (m.complaint what))], .exit 2⟩

def breaksItself (m : Machine) (what : Text) : Ran := m.breaks (m.context ++ what)

end Machine

end Guidebook.Shell
