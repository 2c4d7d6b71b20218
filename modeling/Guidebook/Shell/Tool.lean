import Guidebook.Shell.Machine

namespace Guidebook.Shell

/-- A command that is part of the shell or belongs to every system: what it does with its
arguments. -/
abbrev Tool := List Text → Machine → Ran

namespace Tool

def quit (status : Nat) : Tool := fun _ m => m.ends status

def refuse (m : Machine) (what : String) (detail : Text) (status : Nat) : Ran :=
  m.tell .err (m.complaint (what.toList ++ detail)) status

/-- Letters among leading options, and what follows them, or the first letter that is not allowed. -/
def letters (allowed : Text) : List Text → Except Char (Text × List Text)
  | ('-' :: c :: cs) :: as =>
    if c = '-' && cs.isEmpty then .ok ([], as)
    else match (c :: cs).find? (!allowed.contains ·) with
      | some d => .error d
      | none => (letters allowed as).map fun r => (c :: cs ++ r.1, r.2)
  | as => .ok ([], as)

/-- A command that takes letters. With others it fails, which may end the shell. -/
def lettered (tool : String) (fatal : Bool) (allowed : String) (f : Text → Tool) : Tool := fun args m =>
  match letters allowed.toList args with
  | .ok (ls, as) => f ls as m
  | .error c =>
    let what := tool.toList ++ ": Illegal option -".toList ++ [c]
    if fatal then m.breaks what else m.tell .err (m.complaint what) 2

/-- A text between quotation marks in such a way that it is read back as it is. -/
def quoted (t : Text) : Text := go (t.length + 1) t
where
  go : Nat → Text → Text
    | 0, t => t
    | n + 1, t =>
      let plain := t.takeWhile (· ≠ '\'')
      let rest := t.drop plain.length
      let marks := rest.takeWhile (· = '\'')
      let after := rest.drop marks.length
      let front := '\'' :: plain ++ ['\'']
      if marks.isEmpty then front
      else front ++ '"' :: marks ++ '"' :: if after.isEmpty then [] else go n after

/-- The numbers that a shell takes for a status or a count. -/
def numberBound : Nat := 0x80000000

def number? (t : Text) : Option Nat :=
  if Text.isDigits t then some (Text.digitsValue t) |>.filter (· < numberBound) else none

/-- Whether a name stands for a value that has to stay. -/
def isFixed (m : Machine) (n : Text) : Bool := ((m.entry? n).map (·.fixed)).getD false

/-- What keeps a variable from getting a value, if anything does. -/
def objection? (m : Machine) (n : Text) : Option Text :=
  if !Lexer.isName n then some (n ++ ": bad variable name".toList)
  else if isFixed m n then some (n ++ ": is read only".toList)
  else none

end Tool

end Guidebook.Shell
