import Guidebook.Shell.Expansion
import Guidebook.Shell.Tool

namespace Guidebook.Shell

namespace ReadLine

open Tool

/-- A line of the input: its characters, whether a backslash stood in front of them, whether the line
is ended, and what follows. A backslash at its end joins it to the next one. -/
def lineFrom (raw : Bool) : Nat → Bytes → List Glyph × Bool × Bytes
  | 0, b => ([], false, b)
  | n + 1, b =>
    let line := b.takeWhile (· ≠ 10)
    let rest := b.drop line.length
    let t := Octet.decode (line.filter (· ≠ 0))
    let (gs, joined) := if raw then (t.map (·, false), false) else unescaped t
    if joined && !rest.isEmpty then
      let r := lineFrom raw n (rest.drop 1)
      (gs ++ r.1, r.2)
    else (gs, !rest.isEmpty, rest.drop 1)
where
  unescaped : Text → List Glyph × Bool
    | [] => ([], false)
    | ['\\'] => ([], true)
    | '\\' :: c :: cs =>
      let r := unescaped cs
      ((c, true) :: r.1, r.2)
    | c :: cs =>
      let r := unescaped cs
      ((c, false) :: r.1, r.2)

def isSep (seps : Text) (g : Glyph) : Bool := !g.2 && seps.contains g.1

def isGap (seps : Text) (g : Glyph) : Bool := isSep seps g && Fields.isBlank g.1

/-- Whether some characters are blanks, or one separator between blanks if that may still come. -/
def endsField (seps : Text) : Bool → List Glyph → Bool
  | _, [] => true
  | mayCome, g :: gs =>
    if isGap seps g then endsField seps mayCome gs
    else mayCome && isSep seps g && endsField seps false gs

/-- The last field is all that is left, unless only its end is. -/
def lastField (seps : Text) (gs : List Glyph) : List Glyph :=
  let field := gs.takeWhile (!isSep seps ·)
  match gs.drop field.length with
  | [] => field
  | g :: rest =>
    if endsField seps (isGap seps g) rest then field
    else (gs.reverse.dropWhile (isGap seps)).reverse

/-- Gives each name a field and the last name all that is left. -/
def share (seps : Text) (m : Machine) (gs : List Glyph) : List Text → Machine
  | [] => m
  | [n] => m.assign n ((lastField seps (gs.dropWhile (isGap seps))).map (·.1))
  | n :: ns =>
    let gs := gs.dropWhile (isGap seps)
    let field := gs.takeWhile (!isSep seps ·)
    let rest := (gs.drop field.length).dropWhile (isGap seps)
    let rest := if (rest.head?.map (isSep seps)).getD false then rest.drop 1 else rest
    share seps (m.assign n (field.map (·.1))) rest ns

/-- What is asked with has no place here, as nobody is asked. -/
def options : List Text → Except Char (Bool × List Text)
  | ['-', 'p'] :: _ :: as => options as
  | ('-' :: 'p' :: _ :: _) :: as => options as
  | ('-' :: c :: cs) :: as =>
    if c = '-' && cs.isEmpty then .ok (false, as)
    else match (c :: cs).find? (· ≠ 'r') with
      | some d => .error d
      | none => (options as).map fun r => (true, r.2)
  | as => .ok (false, as)

def read : Tool := fun args m =>
  match options args with
  | .error c => refuse m "read: Illegal option -" [c] 2
  | .ok (_, []) => refuse m "read: arg count" [] 2
  | .ok (raw, ns) =>
    let (gs, ended, rest) := lineFrom raw (m.input.length + 1) m.input
    let n := { m with input := rest }
    match ns.findSome? (objection? n) with
    | some why => refuse n "read: " why 2
    | none => (share (Expansion.separators n) n gs ns).ends (if ended then 0 else 1)

end ReadLine

end Guidebook.Shell
