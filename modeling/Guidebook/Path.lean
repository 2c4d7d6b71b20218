import Guidebook.Text.Basic

namespace Guidebook.Path

/-- The names between the slashes of a path, empty ones left out. -/
def names (p : Text) : List Text := (Text.pieces (· == '/') p).filter (!·.isEmpty)

def isAbsolute (p : Text) : Bool := p.head? == some '/'

/-- The last name of a path, unless the path ends in `..` or names nothing. A `.` names nothing. -/
def fileName? (p : Text) : Option Text :=
  match ((names p).filter (· ≠ ['.'])).getLast? with
  | some n => if n = ['.', '.'] then none else some n
  | none => none

/-- Everything but the last part, if there is one. -/
def front (ns : List Text) : List Text := ns.take (ns.length - 1)

/-- Leaves out, from the end, the parts that name nothing. The first part always stays: it says
whether the path is absolute. -/
def settle : List Text → List Text
  | [] => []
  | n :: ns => n :: (ns.reverse.dropWhile fun m => m.isEmpty || m = ['.']).reverse

def assemble : List Text → Text
  | [[]] => ['/']
  | ns => ['/'].intercalate ns

/-- The path without its last name. The root and the empty path have no parent; a single name has
the empty one. -/
def parent? (p : Text) : Option Text :=
  if p.isEmpty then none
  else match settle (Text.pieces (· == '/') p) with
    | [] => none
    | [n] => if n.isEmpty then none else some []
    | ns => some (assemble (settle (front ns)))

/-- The last name without its extension, which starts at its last dot unless that is its first
character. -/
def fileStem? (p : Text) : Option Text :=
  (fileName? p).map fun n =>
    match (n.reverse.dropWhile (· ≠ '.')).reverse with
    | [] => n
    | ['.'] => n
    | stem => stem.dropLast

/-- An absolute second path stands for itself. -/
def join (base part : Text) : Text :=
  if isAbsolute part then part
  else if base.isEmpty then part
  else if base.getLast? = some '/' then base ++ part
  else base ++ '/' :: part

/-- The path with its last name replaced, or with a name added if it has none. -/
def withFileName (p name : Text) : Text :=
  match fileName? p with
  | some _ => join ((parent? p).getD []) name
  | none => join p name

/-- A path and all of its parents, nearest first. -/
def upwards (p : Text) : List Text := go p.length p
where
  go : Nat → Text → List Text
    | 0, q => [q]
    | n + 1, q =>
      match parent? q with
      | none => [q]
      | some r => q :: go n r

/-- A leading `~` that stands alone or before a slash is the home directory. -/
def expand (home : Option Text) (p : Text) : Text :=
  match home, p with
  | some h, ['~'] => h
  | some h, '~' :: '/' :: r => h ++ '/' :: r
  | _, _ => p

end Guidebook.Path
