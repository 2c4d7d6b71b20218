import Guidebook.Guide.Basic
import Guidebook.Outcome
import Guidebook.Pager
import Guidebook.Text.Digit

namespace Guidebook

/-- Something a walkthrough has to say. -/
inductive Message where
  | header (number total : Nat) (step : Step)
  | blank
  | flow (steps : List Step) (current : Nat)
  | suggestions (xs : List Suggestion) (page : Nat)
  | help
  | hint
  | outcome (code : Int)
  | error (t : Text)
  | warning (t : Text)
  | notice (t : Text)
  deriving DecidableEq, Repr

/-- How messages look. -/
structure Look where
  color : Bool
  pager : Pager

structure Style where
  color : Option Nat
  bold : Bool

namespace Style

def esc (t : Text) : Text := '\x1b' :: '[' :: t ++ ['m']

def red : Nat := 9

def green : Nat := 10

def yellow : Nat := 11

def magenta : Nat := 13

def cyan : Nat := 14

def grey : Nat := 8

/-- The text between the sequences that turn the style on and off. -/
def wrap (s : Style) (t : Text) : Text :=
  (match s.color with
    | some c => esc ("38;5;".toList ++ Text.ofNat c)
    | none => []) ++
  (if s.bold then esc ['1'] else []) ++ t ++ esc (if s.bold then ['0'] else "39".toList)

end Style

namespace Look

def paint (l : Look) (s : Style) (t : Text) : Text := if l.color then s.wrap t else t

def plain (l : Look) (color : Nat) (t : Text) : Text := l.paint ⟨some color, false⟩ t

def strong (l : Look) (color : Nat) (t : Text) : Text := l.paint ⟨some color, true⟩ t

def bold (l : Look) (t : Text) : Text := l.paint ⟨none, true⟩ t

def line (t : Text) : Text := t ++ ['\n']

end Look

namespace Message

def commands : List (String × String) :=
  [("<n>, pick <n>", "edit and run (or stash) suggestion n"),
   ("h, ?, home", "show the step again from page 1"),
   ("s, suggestions", "list the current page of suggestions"),
   ("np, more / pp", "next / previous page"),
   ("page <n>", "jump to page n"),
   ("f, flow", "show all steps and their status"),
   ("ns, next", "mark this step done and move on"),
   ("g, goto <n>", "jump to step n"),
   ("finish", "end the walkthrough"),
   ("x, exit", "leave this prompt"),
   ("q, quit", "quit immediately"),
   (":snippet show|edit|clear", "inspect the snippet stash"),
   (":snippet paste <file> [append|overwrite]", "write the stash into a file"),
   (":snippet open <file>", "paste the stash if wanted, then edit the file"),
   ("anything else", "run it in the shell")]

/-- The text and then spaces up to a width. -/
def padTo (width : Nat) (t : Text) : Text := t ++ List.replicate (width - t.length) ' '

def helpText (l : Look) : Text :=
  let width := (commands.map fun c => c.1.toList.length).foldl max 0
  Look.line (l.bold "Commands:".toList) ++ (commands.map fun c =>
    Look.line ("  ".toList ++ padTo width c.1.toList ++ "  ".toList ++ c.2.toList)).flatten

def headerText (l : Look) (number total : Nat) (step : Step) : Text :=
  '\n' :: Look.line (l.strong Style.cyan ("== Step ".toList ++ Text.ofNat number ++
      '/' :: Text.ofNat total ++ ": ".toList ++ step.title ++ " ==".toList)) ++
    (match step.description with
      | some d => Look.line d
      | none => [])

def flowLine (l : Look) (current number : Nat) (step : Step) : Text :=
  Look.line ((if number = current then l.strong Style.yellow ['>'] else [' ']) ++ ' ' ::
    (if step.isDone then l.plain Style.green "[x]".toList else "[ ]".toList) ++
    ' ' :: Text.ofNat number ++ ". ".toList ++ step.title)

def flowText (l : Look) (steps : List Step) (current : Nat) : Text :=
  Look.line (l.bold "Flow:".toList) ++
    (steps.zipIdx.map fun (s, i) => flowLine l current (i + 1) s).flatten

/-- A suggestion under its number, each line of its body on a line of its own. -/
def suggestionText (l : Look) (number : Nat) (x : Suggestion) : Text :=
  let kind := match x.kind with
    | .cmd => "(cmd)".toList
    | .snippet => l.plain Style.magenta "(snippet)".toList
  let note := match x.note with
    | some n => ' ' :: n
    | none => []
  Look.line ("  ".toList ++ l.strong Style.yellow ('[' :: Text.ofNat number ++ [']']) ++ ' ' :: kind ++
    note) ++
  ((Text.lines x.body).map fun t => Look.line ("      ".toList ++ l.plain Style.grey t)).flatten

/-- The items from number `first` up to, not including, number `last`, each with its own number
from one. -/
def slice (first last : Nat) (xs : List α) : List (α × Nat) :=
  ((xs.zipIdx 1).drop first).take (last - first)

def suggestionsText (l : Look) (xs : List Suggestion) (page : Nat) : Text :=
  if xs.isEmpty then "Suggestions: (none defined)\n".toList
  else
    let (first, last) := l.pager.visible page xs.length
    Look.line (l.bold "Suggestions".toList ++ " (page ".toList ++
      Text.ofNat (l.pager.clamp page xs.length) ++ '/' :: Text.ofNat (l.pager.lastPage xs.length) ++
      "):".toList) ++
    ((slice first last xs).map fun (x, n) => suggestionText l n x).flatten

def outcomeColor : Outcome → Nat
  | .ok => Style.green
  | .interrupted => Style.yellow
  | .error => Style.red

def outcomeText (l : Look) (code : Int) : Text :=
  let o := Outcome.ofCode code
  Look.line (l.plain (outcomeColor o)
    ("exit code ".toList ++ Text.ofInt code ++ " (".toList ++ o.label ++ ")".toList))

def text (l : Look) : Message → Text
  | header n total s => headerText l n total s
  | blank => ['\n']
  | flow steps current => flowText l steps current
  | suggestions xs page => suggestionsText l xs page
  | help => helpText l
  | hint =>
    Look.line (l.plain Style.grey
      "Pick a number, 'ns' for the next step, 'help' for all commands.".toList)
  | outcome code => outcomeText l code
  | error t => Look.line (l.strong Style.red "error:".toList ++ ' ' :: t)
  | warning t => Look.line (l.strong Style.yellow "warning:".toList ++ ' ' :: t)
  | notice t => Look.line t

end Message

end Guidebook
