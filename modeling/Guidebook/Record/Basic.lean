import Guidebook.Text.Basic

namespace Guidebook

/-- A suggestion is a command, which is edited and then run, or a snippet, which is edited and then
kept. -/
inductive Kind where
  | cmd
  | snippet
  deriving DecidableEq, Repr

def Kind.label : Kind → Text
  | .cmd => "cmd".toList
  | .snippet => "snippet".toList

/-- Any name but `snippet`, in whatever case and with blanks around it, means a command. -/
def Kind.ofName (name : Text) : Kind :=
  if Text.lower (Text.trim name) = "snippet".toList then .snippet else .cmd

structure Suggestion where
  kind : Kind
  note : Option Text
  body : Text
  deriving DecidableEq, Repr

/-- One item of the stream that a document or an interview is turned into. What belongs to a step
stands between its `step` and its `endOfStep`. -/
inductive Record where
  | step (title : Text)
  | description (text : Text)
  | suggestion (s : Suggestion)
  | endOfStep
  deriving DecidableEq, Repr

def Record.isStep : Record → Bool
  | .step _ => true
  | _ => false

end Guidebook
