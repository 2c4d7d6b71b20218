import Guidebook.Text.Digit

namespace Guidebook.Shell

/-! The rights of a node as a number: three for each of the owner, the group and the others, and three more on top
of them. What may be said about how they change. -/

/-- How rights change: whose, by which sign, and by how much. What is added may be copied from other people, and the
right to run may be for those only that can be run already. A directory keeps what is not mentioned. -/
structure RightsChange where
  affected : Nat
  sign : Char
  value : Nat
  copies : Bool
  spreads : Bool
  mentioned : Nat
  deriving DecidableEq, Repr

namespace Rights

def all : Nat := 0o7777

/-- Rights without some others. -/
def less (a b : Nat) : Nat := a - (a &&& b)

/-- The rights of everybody that somebody has. -/
def spread (n : Nat) : Nat :=
  [0o444, 0o222, 0o111].foldl (fun v w => if n &&& w = 0 then v else v ||| w) 0

def isOctal (c : Char) : Bool := '0' ≤ c && c ≤ '7'

def ofOctal (t : Text) : Nat := t.foldl (fun n c => 8 * n + Text.digitValue c) 0

def isSign (c : Char) : Bool := c = '+' || c = '-' || c = '='

/-- All rights of some people. -/
def people : List (Char × Nat) := [('u', 0o700), ('g', 0o070), ('o', 0o007)]

/-- What may be changed for some people. -/
def affected : List (Char × Nat) := [('u', 0o4700), ('g', 0o2070), ('o', 0o1007), ('a', 0o7777)]

def letters : List (Char × Nat) :=
  [('r', 0o444), ('w', 0o222), ('x', 0o111), ('X', 0), ('s', 0o6000), ('t', 0o1000)]

def joined (vs : List Nat) : Nat := vs.foldl (· ||| ·) 0

/-- Changes for some people, each behind its sign. -/
def changes? (who : Nat) : Nat → Text → Option (List RightsChange)
  | _, [] => some []
  | 0, _ => none
  | n + 1, sign :: cs =>
    if !isSign sign then none
    else
      let mentioned := fun (v : Nat) => if who = 0 then v else who &&& v
      let ds := cs.takeWhile isOctal
      if !ds.isEmpty then
        if who ≠ 0 || ds.length ≠ cs.length || all < ofOctal ds then none
        else some [⟨all, sign, ofOctal ds, false, false, all⟩]
      else match (cs.head?).bind fun c => people.lookup c with
        | some v => (changes? who n (cs.drop 1)).map (⟨who, sign, v, true, false, mentioned v⟩ :: ·)
        | none =>
          let ls := cs.takeWhile fun c => (letters.lookup c).isSome
          let v := joined (ls.filterMap fun c => letters.lookup c)
          (changes? who n (cs.drop ls.length)).map (⟨who, sign, v, false, ls.contains 'X', mentioned v⟩ :: ·)

/-- Changes that a text tells, as a number or in letters. -/
def ofText? (t : Text) : Option (List RightsChange) :=
  if (t.head?.map isOctal).getD false then
    if t.all isOctal && ofOctal t ≤ all then
      let n := ofOctal t
      some [⟨all, '=', n, false, false, if t.length < 5 then (n &&& 0o7000) ||| 0o777 else all⟩]
    else none
  else
    ((Text.pieces (· == ',') t).mapM fun c =>
      let names := c.takeWhile fun x => (affected.lookup x).isSome
      if names.length = c.length then none
      else changes? (joined (names.filterMap fun x => affected.lookup x)) c.length (c.drop names.length)).map List.flatten

/-- What becomes of rights by a change, where new nodes do not get some. -/
def changed (mask : Nat) (isDir : Bool) (old : Nat) (c : RightsChange) : Nat :=
  let kept := less (if isDir then 0o6000 else 0) c.mentioned
  let value :=
    if c.copies then let v := c.value &&& old; v ||| spread v
    else if c.spreads && (isDir || old &&& 0o111 ≠ 0) then c.value ||| 0o111
    else c.value
  let value := less (if c.affected = 0 then less value mask else value &&& c.affected) kept
  match c.sign with
  | '+' => old ||| value
  | '-' => less old value
  | _ => (old &&& ((if c.affected = 0 then 0 else less all c.affected) ||| kept)) ||| value

def after (mask : Nat) (isDir : Bool) (old : Nat) (cs : List RightsChange) : Nat :=
  cs.foldl (changed mask isDir) old

/-- Rights in letters. -/
def shown (n : Nat) : Text :=
  let three := fun (k : Nat) (special : Bool) (both none : Char) =>
    [if n / k / 4 % 2 = 1 then 'r' else '-', if n / k / 2 % 2 = 1 then 'w' else '-',
     if n / k % 2 = 1 then (if special then both else 'x') else if special then none else '-']
  three 64 (n / 2048 % 2 = 1) 's' 'S' ++ three 8 (n / 1024 % 2 = 1) 's' 'S' ++ three 1 (n / 512 % 2 = 1) 't' 'T'

/-- Rights as a number. -/
def octal (n : Nat) : Text := Nat.toDigits 8 n

def filledOctal (n : Nat) : Text := List.replicate (4 - (octal n).length) '0' ++ octal n

end Rights

end Guidebook.Shell
