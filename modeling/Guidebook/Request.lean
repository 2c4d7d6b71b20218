import Guidebook.Arguments
import Guidebook.Program.Payload

namespace Guidebook

/-- Where a guide comes from: a document, or somebody who is asked for it. -/
inductive Origin where
  | document (path : Text)
  | interview
  deriving DecidableEq, Repr

/-- How a walkthrough is to be played. -/
structure PlayOptions where
  pageSize : Option Nat
  step : Option Nat
  deriving DecidableEq, Repr

/-- What a program is asked for. -/
inductive Request where
  | help
  | version (name : Text)
  | completions (shell : Text)
  | records (o : Origin)
  | build (o : Origin) (output : Option Text)
  | play (document : Text) (o : PlayOptions)
  | walk (o : PlayOptions)
  deriving DecidableEq, Repr

namespace Request

/-- Somebody has to be listened to. -/
def converses : Request → Bool
  | .records .interview | .build .interview _ | .play .. | .walk _ => true
  | _ => false

def usualSwitches : List Switch :=
  [⟨Arguments.helpName, some 'h', .nothing⟩, ⟨Arguments.versionName, some 'V', .nothing⟩]

def debug : Switch := ⟨"debug".toList, some 'd', .nothing⟩

def playSwitches : List Switch :=
  [⟨"page-size".toList, none, .number⟩, ⟨"step".toList, none, .number⟩]

def buildGrammar : Grammar where
  switches := [⟨"from".toList, none, .path⟩, ⟨"wizard".toList, none, .nothing⟩,
    ⟨"output".toList, some 'o', .path⟩, ⟨"dump-ir".toList, none, .nothing⟩, debug] ++ usualSwitches
  plain _ _ := false

def playGrammar : Grammar where
  switches := debug :: playSwitches ++ usualSwitches
  plain k t := k == 0 && !t.isEmpty

def shells : List Text :=
  ["bash".toList, "elvish".toList, "fish".toList, "powershell".toList, "zsh".toList]

def completionsGrammar : Grammar where
  switches := debug :: usualSwitches
  plain k t := k == 0 && shells.contains t

def walkGrammar : Grammar where
  switches := ⟨"verbose".toList, some 'v', .nothing⟩ :: playSwitches ++ usualSwitches
  plain _ _ := false

def name : Text := "walkbook".toList

/-- The request that arguments make of a command of this name, if they make one. -/
def ofArguments (g : Grammar) (command : Text) (f : Arguments → Option Request) (args : List Text) :
    Option Request :=
  match Arguments.read g args with
  | .error .usage => none
  | .error .help => some .help
  | .error .version => some (.version command)
  | .ok a => f a

def playOptions (a : Arguments) : PlayOptions := ⟨a.number? "page-size", a.number? "step"⟩

def origin? (a : Arguments) : Option Origin :=
  match a.value? "from", a.has "wizard" with
  | some p, false => some (.document p)
  | none, true => some .interview
  | _, _ => none

def build? (a : Arguments) : Option Request :=
  (origin? a).map fun o =>
    if a.has "dump-ir" then .records o else .build o (a.value? "output")

def commands : List Text := ["play".toList, "completions".toList, "help".toList]

/-- The request that arguments make of the program that builds programs. A command is named first or
not at all. -/
def ofArgs (args : List Text) : Option Request :=
  match args with
  | [] => none
  | c :: cs =>
    if c = "play".toList then
      ofArguments playGrammar (name ++ "-play".toList)
        (fun a => (a.plain.head?).map fun p => .play p (playOptions a)) cs
    else if c = "completions".toList then
      ofArguments completionsGrammar (name ++ "-completions".toList)
        (fun a => (a.plain.head?).map .completions) cs
    else if c = "help".toList then
      match cs with
      | [] => some .help
      | [d] => if commands.contains d then some .help else none
      | _ => none
    else ofArguments buildGrammar name build? (c :: cs)

/-- The request that arguments make of a program that walks through a guide. -/
def ofWalkArgs (identity : Text) (args : List Text) : Option Request :=
  ofArguments walkGrammar identity (fun a => some (.walk (playOptions a))) args

end Request

end Guidebook
