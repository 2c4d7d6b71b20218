import Guidebook.Shell.FileTool
import Guidebook.Shell.Menu

namespace Guidebook.Shell

/-! One string that stands for several arguments, as the first line of a script hands it to `env`. -/

namespace SplitString

open FileTool

/-- What the signs before have begun: nothing, a sign behind a backslash, or the name of a variable. The dollar of a
name and what follows it are kept for the complaint. -/
inductive Pending where
  | nothing
  | slash
  | dollar (start : Text)
  | name (start soFar : Text)

/-- Arguments, and what there is to say about variables on the way. -/
structure Parts where
  words : List Text := []
  notes : List Text := []

def Parts.noting (n : Text) (p : Parts) : Parts := { p with notes := n :: p.notes }

def Parts.withWord (w : Option Text) (p : Parts) : Parts := { p with words := w.toList ++ p.words }

def isGap (c : Char) : Bool := " \t\n\x0b\x0c\r".toList.contains c

/-- The sign that a letter behind a backslash stands for. -/
def plain? (c : Char) : Option Char :=
  if "\"#$'\\".toList.contains c then some c
  else ([('n', '\n'), ('t', '\t'), ('r', '\r'), ('f', Char.ofNat 12), ('v', Char.ofNat 11)]).lookup c

def onlyNames (t : Text) : Text := "only $\x7bVARNAME\x7d expansion is supported, error at: ".toList ++ t

/-- Arguments among signs: `q` is the quotation mark that is open, `w` the argument that has begun. -/
def partsFrom (value : Text → Option Text) (q : Option Char) (w : Option Text) : Pending → Text → Except Text Parts
  | .slash, [] => .error "invalid backslash at end of string in -S".toList
  | .dollar t, [] | .name t _, [] => .error (onlyNames t)
  | .nothing, [] =>
    if q.isSome then .error "no terminating quote in -S string".toList else .ok (Parts.withWord w {})
  | .dollar t, c :: cs => if c = '\x7b' then partsFrom value q w (.name t []) cs else .error (onlyNames t)
  | .name t n, c :: cs =>
    if c = '\x7d' && !n.isEmpty then
      match value n with
      | some v =>
        (partsFrom value q (some (w.getD [] ++ v)) .nothing cs).map
          (·.noting ("expanding $\x7b".toList ++ n ++ "\x7d into ".toList ++ literal v))
      | none =>
        (partsFrom value q w .nothing cs).map
          (·.noting ("replacing $\x7b".toList ++ n ++ "\x7d with null string".toList))
    else if c = '_' || c.isAlpha || (c.isDigit && !n.isEmpty) then partsFrom value q w (.name t (n ++ [c])) cs
    else .error (onlyNames t)
  | .slash, c :: cs =>
    let add := fun (t : Text) => partsFrom value q (some (w.getD [] ++ t)) .nothing cs
    if q = some '\'' then
      if c = '\'' || c = '\\' then add [c] else add ['\\', c]
    else if c = '_' then
      if q.isSome then add [' '] else (partsFrom value q none .nothing cs).map (·.withWord w)
    else if c = 'c' then
      if q.isSome then .error "'\\c' must not appear in double-quoted -S string".toList else .ok (Parts.withWord w {})
    else match plain? c with
      | some c => add [c]
      | none => .error ("invalid sequence '\\".toList ++ [c] ++ "' in -S".toList)
  | .nothing, c :: cs =>
    if c = '\\' then partsFrom value q w .slash cs
    else if c = '$' && q ≠ some '\'' then partsFrom value q w (.dollar (c :: cs)) cs
    else if q = some c then partsFrom value none w .nothing cs
    else if q.isNone && (c = '\'' || c = '"') then partsFrom value (some c) (some (w.getD [])) .nothing cs
    else if q.isNone && isGap c then (partsFrom value q none .nothing cs).map (·.withWord w)
    else if q.isNone && c = '#' && w.isNone then .ok {}
    else partsFrom value q (some (w.getD [] ++ [c])) .nothing cs

/-- What there is to say about a string and its arguments. -/
def shown (t : Text) (p : Parts) : List Text :=
  p.notes ++ ("split -S:  ".toList ++ literal t) ::
    (match p.words with
      | [] => []
      | w :: ws => (" into:    ".toList ++ literal w) :: ws.map fun w => "     &    ".toList ++ literal w)

/-- Arguments with the strings among their options taken apart, and what there is to say about that after a `-v`. -/
def spread (value : Text → Option Text) (u : Menu) : Nat → Bool → List Text → Except Text (List Text × List Text)
  | 0, _, as => .ok (as, [])
  | _, _, [] => .ok ([], [])
  | n + 1, told, a :: as =>
    let keep := fun (told : Bool) (kept rest : List Text) =>
      (spread value u n told rest).map fun r => (kept ++ r.1, r.2)
    let apart := fun (told : Bool) (kept : List Text) (t : Text) (rest : List Text) =>
      (partsFrom value none none .nothing t).bind fun p =>
        (spread value u n told (p.words ++ rest)).map fun r =>
          (kept ++ r.1, (if told then shown t p else []) ++ r.2)
    match a with
    | ['-', '-'] | ['-'] => .ok (a :: as, [])
    | '-' :: '-' :: name =>
      match u.longer name as with
      | .ok ([('S', t)], rest) => apart told [] t rest
      | .ok (g, rest) => keep (told || g.has 'v') (a :: as.take (as.length - rest.length)) rest
      | .error _ => .ok (a :: as, [])
    | '-' :: cs =>
      match u.letters cs as with
      | .ok (g, rest) =>
        let told := told || g.has 'v'
        match g.value? 'S' with
        | some t => apart told ((g.filter (·.1 ≠ 'S')).map fun o => ['-', o.1]) t rest
        | none => keep told (a :: as.take (as.length - rest.length)) rest
      | .error _ => .ok (a :: as, [])
    | a => .ok (a :: as, [])

end SplitString

end Guidebook.Shell
