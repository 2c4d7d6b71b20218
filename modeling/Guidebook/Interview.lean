import Guidebook.Dialogue
import Guidebook.Document.Basic

namespace Guidebook

/-- A step as far as it has been told. -/
structure StepDraft where
  title : Text
  description : Text
  suggestions : List Suggestion
  deriving DecidableEq, Repr

def StepDraft.records (d : StepDraft) : List Record :=
  .step d.title :: d.suggestions.map .suggestion ++ Document.closing (some d.description)

/-- What an interview asks for next. Texts of several lines hold the lines so far. -/
inductive Question where
  | title
  | description (title : Text) (lines : List Text)
  | kind (d : StepDraft)
  | note (d : StepDraft) (k : Kind)
  | body (d : StepDraft) (k : Kind) (note : Option Text) (lines : List Text)
  | keep (d : StepDraft)
  deriving DecidableEq, Repr

/-- The interview that a guide is written in: the records of the steps that were kept. -/
structure Interview where
  records : List Record
  kept : Nat
  question : Question
  deriving DecidableEq, Repr

namespace Interview

abbrev Said := Event Text

def tell (t : String) : Said := .say (t.toList ++ ['\n'])

def start : Interview := ⟨[], 0, .title⟩

def opening : List Said :=
  [tell "Add steps one at a time. Leave the title empty when you are done.", tell ""]

def prompt (i : Interview) : Text :=
  match i.question with
  | .title => "Step ".toList ++ Text.ofNat (i.kept + 1) ++ " title: ".toList
  | .description .. => "| ".toList
  | .kind _ => "Add a suggestion? [c]md, [s]nippet, Enter to stop: ".toList
  | .note .. => "Note (optional): ".toList
  | .body .. => "| ".toList
  | .keep _ => "Keep this step? [Y/n] ".toList

/-- The line ends a text of several lines: it is a single dot, or the first and blank. -/
def endsText (lines : List Text) (l : Text) : Bool :=
  l = ['.'] || (lines.isEmpty && Text.allBlank l)

def kindOf? (t : Text) : Option Kind :=
  if t = "c".toList ∨ t = "cmd".toList then some .cmd
  else if t = "s".toList ∨ t = "snippet".toList then some .snippet
  else none

def bodyLabel : Kind → String
  | .cmd => "Command (finish with a line holding a single '.'):"
  | .snippet => "Snippet (finish with a line holding a single '.'):"

def ask (i : Interview) (q : Question) : Interview := { i with question := q }

abbrev Result := Except Document.Failure (List Record)

def finish (i : Interview) : Result :=
  if i.kept = 0 then .error (.build .noSteps) else .ok i.records

def addSuggestion (d : StepDraft) (k : Kind) (note : Option Text) (lines : List Text) : StepDraft :=
  { d with suggestions := d.suggestions ++ [⟨k, note, Text.joinLines lines⟩] }

/-- Goes on with a line; `none` stands for the end of the input, where every question has an
answer: texts end, nothing is added and the step is kept. -/
def answer (i : Interview) (heard : Option Text) : List Said × (Interview ⊕ Result) :=
  match i.question with
  | .title =>
    match heard.map Text.trim with
    | none | some [] => ([], .inr i.finish)
    | some title =>
      ([tell "Description (finish with a line holding a single '.', empty line for none):"],
        .inl (i.ask (.description title [])))
  | .description title lines =>
    let ended := ([], .inl (i.ask (.kind ⟨title, Text.joinLines lines, []⟩)))
    match heard with
    | none => ended
    | some l =>
      if endsText lines l then ended else ([], .inl (i.ask (.description title (lines ++ [l]))))
  | .kind d =>
    match heard.map fun l => Text.lower (Text.trim l) with
    | none | some [] => ([], .inl (i.ask (.keep d)))
    | some name =>
      match kindOf? name with
      | some k => ([], .inl (i.ask (.note d k)))
      | none => ([.say ("Unknown kind '".toList ++ name ++ "'.\n".toList)], .inl i)
  | .note d k =>
    let note := (heard.map Text.trim).filter (!·.isEmpty)
    ([tell (bodyLabel k)], .inl (i.ask (.body d k note [])))
  | .body d k note lines =>
    let ended := ([], .inl (i.ask (.kind (addSuggestion d k note lines))))
    match heard with
    | none => ended
    | some l =>
      if endsText lines l then ended else ([], .inl (i.ask (.body d k note (lines ++ [l]))))
  | .keep d =>
    let reply := (heard.map Text.trim).getD []
    if reply.isEmpty || Text.isYes reply then
      ([tell ""], .inl ⟨i.records ++ d.records, i.kept + 1, .title⟩)
    else ([tell "Step discarded.", tell ""], .inl (i.ask .title))

def hear : Heard → Interview → List Said × (Interview ⊕ Result)
  | .line l, i => i.answer (some l)
  | .closed, i => i.answer none
  | .failed e, _ => ([], .inr (.error (.broken e)))

/-- How many more ends of input an interview can hear. -/
def Question.rank : Question → Nat
  | .title => 0
  | .keep _ => 1
  | .kind _ => 2
  | .description .. => 3
  | .body .. => 3
  | .note .. => 4

def dialogue : Dialogue Interview Result Text where
  prompt := prompt
  hear h _ := hear h
  rank i := Question.rank i.question
  rank_closed _ i j h := by
    obtain ⟨rs, n, q⟩ := i
    cases q <;> simp [hear, answer, ask] at h <;> subst h <;> simp [Question.rank]

/-- The whole of an interview. -/
def conduct {ι : Type} (src : Source ι) (i : ι) : List Said × Result × ι :=
  let r := dialogue.run src i start
  (opening ++ r.1, r.2)

end Interview

end Guidebook
