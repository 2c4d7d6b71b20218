import Guidebook.Guide.Basic
import Guidebook.Text.Digit

namespace Guidebook.Buffer

/-- The line above the part of a snippet's buffer that counts. -/
def startMarker : Text := "# ----- snippet start (edit below) -----".toList

/-- The line below it. -/
def endMarker : Text := "# ----- snippet end -----".toList

def comment (l : Text) : Text := if l.isEmpty then "#\n".toList else '#' :: ' ' :: l ++ ['\n']

def comments (t : Text) : Text := ((Text.lines t).map comment).flatten

/-- What a suggestion belongs to, in comments. -/
def header (number : Nat) (step : Step) (x : Suggestion) : Text :=
  comment ("Step ".toList ++ Text.ofNat number ++ ": ".toList ++ step.title) ++
  (match step.description with
    | some d => comments d
    | none => []) ++
  (match x.note with
    | some n => comment [] ++ comments n
    | none => [])

/-- What is edited before a command is run. -/
def ofCommand (number : Nat) (step : Step) (x : Suggestion) : Text :=
  header number step x ++ "# Lines starting with '#' are ignored. Save and quit to run.\n".toList ++
    x.body ++ ['\n']

/-- What is edited before a snippet is stashed. -/
def ofSnippet (number : Nat) (step : Step) (x : Suggestion) : Text :=
  header number step x ++ startMarker ++ '\n' ::
    (if x.body.isEmpty then [] else x.body ++ ['\n']) ++ endMarker ++ ['\n']

def isComment (l : Text) : Bool := (Text.trimStart l).head? == some '#'

/-- The text without its comments and without blanks around it. -/
def stripComments (t : Text) : Text :=
  Text.trim (Text.joinLines ((Text.lines t).filter fun l => !isComment l))

/-- The lines before the first end marker, if there is one. -/
def untilEnd? : List Text → Option (List Text)
  | [] => none
  | l :: ls => if Text.trimEnd l = endMarker then some [] else (untilEnd? ls).map (l :: ·)

/-- What stands between the first start marker and the first end marker after it. -/
def snippet? (t : Text) : Option Text :=
  match (Text.lines t).dropWhile fun l => Text.trimEnd l ≠ startMarker with
  | [] => none
  | _ :: ls => (untilEnd? ls).map Text.joinLines

end Guidebook.Buffer
