import Guidebook.Shell.Atom
import Guidebook.Shell.Disk

namespace Guidebook.Shell

/-- A character of a word after all has been filled in, and whether it was quoted. -/
abbrev Glyph := Char × Bool

/-- A piece of a pattern for names: any characters, or what one character has to be. -/
inductive Wild where
  | many
  | one (a : Atom)
  deriving DecidableEq, Repr

namespace Glob

/-- The pattern that characters spell, of which those that are quoted stand for themselves. -/
def wilds : Nat → List Glyph → List Wild
  | 0, _ => []
  | _, [] => []
  | n + 1, ('*', false) :: gs => .many :: wilds n gs
  | n + 1, ('?', false) :: gs => .one .any :: wilds n gs
  | n + 1, ('[', false) :: gs =>
    match Atom.set? ['!', '^'] (gs.map (·.1)) with
    | some (a, rest) => .one a :: wilds n (gs.drop (gs.length - rest.length))
    | none => .one (.char '[') :: wilds n gs
  | n + 1, ('\\', false) :: (c, _) :: gs => .one (.char c) :: wilds n gs
  | n + 1, (c, _) :: gs => .one (.char c) :: wilds n gs

def ofGlyphs (gs : List Glyph) : List Wild := wilds gs.length gs

/-- Whether a text is one of those that a pattern stands for. -/
def fits : List Wild → Text → Bool
  | [], t => t.isEmpty
  | .many :: ps, t => fitsAfter ps t
  | .one a :: ps, t =>
    match t with
    | [] => false
    | c :: cs => a.fits c && fits ps cs
where
  fitsAfter (ps : List Wild) : Text → Bool
    | [] => fits ps []
    | c :: cs => fits ps (c :: cs) || fitsAfter ps cs

/-- A text without the part that a pattern fits at its start or its end, if there is one: the longest
or the shortest. -/
def without (atEnd longest : Bool) (ps : List Wild) (t : Text) : Text :=
  let sizes := List.range (t.length + 1)
  let ofSize := fun k => if atEnd then t.drop (t.length - k) else t.take k
  match (if longest then sizes.reverse else sizes).find? fun k => fits ps (ofSize k) with
  | none => t
  | some k => if atEnd then t.take (t.length - k) else t.drop k

def isPattern (gs : List Glyph) : Bool :=
  gs.any fun g => !g.2 && (g.1 = '*' || g.1 = '?' || g.1 = '[')

/-- The names in a directory in their order. -/
def namesIn (t : Disk) (a : Address) : List Text :=
  (t.namesIn a).mergeSort fun x y => !decide (String.ofList y < String.ofList x)

/-- The names in a directory that a pattern means. A name that starts with a dot is only meant by a pattern that does,
and so are the names of the directory itself and of the one above it. -/
def meant (t : Disk) (gs : List Glyph) (a : Address) : List Text :=
  let isDotted := (gs.head?.map (·.1)) = some '.'
  let names := if isDotted then [['.'], ['.', '.']] ++ namesIn t a else (namesIn t a).filter (·.head? ≠ some '.')
  names.filter (fits (ofGlyphs gs))

/-- The paths that begin in one way and go on as patterns say, name by name. -/
def walk (t : Disk) (seen : Text) : List (List Glyph) → List Text
  | [] => [seen]
  | gs :: rest =>
    let next := fun n => if rest.isEmpty then seen ++ n else seen ++ n ++ ['/']
    let known := fun n => rest.isEmpty || t.isDirAt (next n)
    if isPattern gs then
      match t.find (if seen.isEmpty then ['.'] else seen) with
      | .ok (a, .dir _) =>
        ((meant t gs a).filter known).flatMap fun n => walk t (next n) rest
      | _ => []
    else walk t (next (gs.map (·.1))) rest

def splitNames : List Glyph → List (List Glyph)
  | [] => [[]]
  | g :: gs =>
    if g.1 = '/' then [] :: splitNames gs
    else match splitNames gs with
      | [] => [[g]]
      | n :: ns => (g :: n) :: ns

/-- The paths that a field stands for, or else the field as it is. -/
def paths (t : Disk) (gs : List Glyph) : List Text :=
  if isPattern gs then
    match (walk t [] (splitNames gs)).filter t.hasName with
    | [] => [gs.map (·.1)]
    | ps => ps
  else [gs.map (·.1)]

end Glob

end Guidebook.Shell
