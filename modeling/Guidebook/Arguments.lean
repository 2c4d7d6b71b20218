import Guidebook.Text.Digit

namespace Guidebook

/-- What is given with a switch. -/
inductive SwitchValue where
  | nothing
  | path
  | number
  deriving DecidableEq, Repr

def SwitchValue.accepts : SwitchValue → Text → Bool
  | .nothing, _ => false
  | .path, t => !t.isEmpty
  | .number, t => (Text.natural? t).isSome

/-- A switch of a command line, with two dashes by its name and perhaps with one by its letter. -/
structure Switch where
  name : Text
  letter : Option Char
  value : SwitchValue
  deriving DecidableEq, Repr

/-- What a command line knows: its switches, and which plain arguments it takes at which place. -/
structure Grammar where
  switches : List Switch
  plain : Nat → Text → Bool

/-- Why arguments are not read to the end. -/
inductive Stop where
  | usage
  | help
  | version
  deriving DecidableEq, Repr

/-- What has been given so far. A switch may still wait for its value, and after two dashes
everything is plain. -/
structure Arguments where
  given : List (Text × Text)
  plain : List Text
  waiting : Option Switch
  trailing : Bool
  deriving DecidableEq, Repr

namespace Arguments

def start : Arguments := ⟨[], [], none, false⟩

def has (a : Arguments) (name : String) : Bool := a.given.any (·.1 = name.toList)

def value? (a : Arguments) (name : String) : Option Text := a.given.lookup name.toList

def number? (a : Arguments) (name : String) : Option Nat := (a.value? name).bind Text.natural?

/-- Nothing is given twice. -/
def give (a : Arguments) (s : Switch) (v : Text) : Except Stop Arguments :=
  if a.given.any (·.1 = s.name) then .error .usage
  else .ok { a with given := (s.name, v) :: a.given, waiting := none }

def giveValue (a : Arguments) (s : Switch) (v : Text) : Except Stop Arguments :=
  if s.value.accepts v then a.give s v else .error .usage

def helpName : Text := "help".toList

def versionName : Text := "version".toList

/-- A switch without a value. Two of them put an end to everything. -/
def turnOn (a : Arguments) (s : Switch) : Except Stop Arguments :=
  if s.name = helpName then .error .help
  else if s.name = versionName then .error .version
  else a.give s []

def long (g : Grammar) (a : Arguments) (t : Text) : Except Stop Arguments :=
  let (name, value) := match Text.cut? '=' t with
    | some (n, v) => (n, some v)
    | none => (t, none)
  match g.switches.find? (·.name = name) with
  | none => .error .usage
  | some s =>
    match s.value, value with
    | .nothing, none => a.turnOn s
    | .nothing, some _ => .error .usage
    | _, none => .ok { a with waiting := some s }
    | _, some v => a.giveValue s v

/-- Letters behind one dash. The value of a switch may follow its letter, with or without an equals
sign. -/
def letters (g : Grammar) (a : Arguments) : Text → Except Stop Arguments
  | [] => .ok a
  | c :: cs =>
    match g.switches.find? (·.letter = some c) with
    | none => .error .usage
    | some s =>
      match s.value, cs with
      | .nothing, cs => do letters g (← a.turnOn s) cs
      | _, [] => .ok { a with waiting := some s }
      | _, '=' :: v => a.giveValue s v
      | _, v => a.giveValue s v

def addPlain (g : Grammar) (a : Arguments) (t : Text) : Except Stop Arguments :=
  if g.plain a.plain.length t then .ok { a with plain := a.plain ++ [t] } else .error .usage

/-- Takes in one more argument. -/
def step (g : Grammar) (a : Arguments) (t : Text) : Except Stop Arguments :=
  if a.trailing then addPlain g a t
  else match a.waiting, t with
    | none, ['-', '-'] => .ok { a with trailing := true }
    | none, '-' :: '-' :: name => long g a name
    | none, '-' :: c :: cs => letters g a (c :: cs)
    | none, t => addPlain g a t
    | some _, '-' :: _ :: _ => .error .usage
    | some s, t => a.giveValue s t

/-- What arguments give. -/
def read (g : Grammar) (args : List Text) : Except Stop Arguments := do
  let a ← args.foldlM (step g) start
  if a.waiting.isSome then .error .usage else .ok a

end Arguments

end Guidebook
