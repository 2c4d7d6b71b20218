import Guidebook.Shell.Token

namespace Guidebook.Shell

inductive RedirectSort where
  | write
  | force
  | append
  | read
  | both
  | here
  | duplicate
  deriving DecidableEq, Repr

/-- Where a stream of a command goes, or comes from. -/
structure Redirect where
  stream : Nat
  sort : RedirectSort
  target : Word
  deriving DecidableEq, Repr

mutual

/-- A command of the shell. -/
inductive Script where
  | skip
  | simple (line : Nat) (assigned : List (Text × Word)) (words : List Word) (redirects : List Redirect)
  | andThen (a b : Script)
  | ifOk (a b : Script)
  | ifFailed (a b : Script)
  | negate (a : Script)
  | pipe (a b : Script)
  | background (a : Script)
  | apart (a : Script)
  | redirected (line : Nat) (a : Script) (redirects : List Redirect)
  | choice (test yes no : Script)
  | loop (whileOk : Bool) (test body : Script)
  | forEach (name : Text) (items : List Word) (body : Script)
  | select (subject : Word) (arms : Arms)
  | define (name : Text) (body : Script)

/-- What is done for a text that one of some patterns fits. -/
inductive Arms where
  | nil
  | cons (patterns : List Word) (body : Script) (rest : Arms)

end

end Guidebook.Shell
