import Guidebook.Text.Digit

namespace Guidebook.Shell

/-- What a pattern asks of one character. -/
inductive Atom where
  | char (c : Char)
  | any
  | oneOf (ranges : List (Char × Char)) (negated : Bool)
  deriving DecidableEq, Repr

namespace Atom

def fits (a : Atom) (c : Char) : Bool :=
  match a with
  | .char d => c = d
  | .any => true
  | .oneOf rs negated => (rs.any fun r => r.1 ≤ c && c ≤ r.2) != negated

/-- The sets of characters that have a name. -/
def classes : List (Text × List (Char × Char)) :=
  let upper := ('A', 'Z')
  let lower := ('a', 'z')
  let digit := ('0', '9')
  [("alpha".toList, [upper, lower]), ("digit".toList, [digit]), ("alnum".toList, [upper, lower, digit]),
   ("upper".toList, [upper]), ("lower".toList, [lower]), ("blank".toList, [(' ', ' '), ('\t', '\t')]),
   ("space".toList, [(' ', ' '), ('\t', '\r')]), ("xdigit".toList, [digit, ('A', 'F'), ('a', 'f')]),
   ("punct".toList, [('!', '/'), (':', '@'), ('[', Char.ofNat 96), ('\x7b', '~')]),
   ("print".toList, [(' ', '~')]), ("graph".toList, [('!', '~')]), ("cntrl".toList, [('\x00', '\x1f')])]

/-- The ranges up to the bracket that closes them, which is not one if it comes first. -/
def rangesFrom (first : Bool) : Nat → Text → Option (List (Char × Char) × Text)
  | 0, _ => none
  | n + 1, t =>
    let put := fun rs cs => (rangesFrom false n cs).map fun r => (rs ++ r.1, r.2)
    match t with
    | [] => none
    | '[' :: ':' :: cs =>
      let name := cs.takeWhile (· ≠ ':')
      match classes.lookup name, cs.drop name.length with
      | some rs, ':' :: ']' :: cs => put rs cs
      | _, _ => put [('[', '[')] (':' :: cs)
    | c :: cs =>
      if c = ']' ∧ !first then some ([], cs)
      else match cs with
        | '-' :: b :: more => if b = ']' then put [(c, c)] cs else put [(c, b)] more
        | cs => put [(c, c)] cs

/-- A set of characters and what follows it, after its opening bracket. -/
def set? (negators : List Char) (t : Text) : Option (Atom × Text) :=
  let (negated, body) := match t with
    | c :: cs => if negators.contains c then (true, cs) else (false, t)
    | [] => (false, t)
  (rangesFrom true (body.length + 1) body).map fun r => (.oneOf r.1 negated, r.2)

end Atom

end Guidebook.Shell
