import Guidebook.Shell.Tool

namespace Guidebook.Shell

namespace Mask

open Tool

/-- What may be done by its letter. -/
def rights : List (Char × Nat) := [('r', 4), ('w', 2), ('x', 1)]

/-- The sorts of those who may do it, with how much theirs counts. -/
def people : List (Char × Nat) := [('u', 64), ('g', 8), ('o', 1)]

def part (perms weight : Nat) : Nat := perms / weight % 8

/-- What is left of rights of some when a sign says what becomes of others. -/
def changed (sign : Char) (old what : Nat) : Nat :=
  if sign = '+' then old ||| what else if sign = '-' then old - (old &&& what) else what

def isSign (c : Char) : Bool := c = '+' || c = '-' || c = '='

/-- What letters stand for, which may be those of other people. -/
def meant? (perms : Nat) (t : Text) : Option Nat :=
  t.foldlM (fun n c =>
    if c = 's' ∨ c = 't' then some n
    else ((rights.lookup c).orElse fun _ => (people.lookup c).map (part perms)).map (n ||| ·)) 0

/-- Changes of rights of some people, one after the other. -/
def actions? (who : List Nat) : Nat → Text → Nat → Option Nat
  | _, [], perms => some perms
  | 0, _, _ => none
  | n + 1, sign :: cs, perms => do
    if !isSign sign then none
    let what := cs.takeWhile (!isSign ·)
    let r ← meant? perms what
    let perms := who.foldl (fun p w => p - part p w * w + changed sign (part p w) r * w) perms
    actions? who n (cs.drop what.length) perms

/-- A change of rights that is put in letters. -/
def clause? (perms : Nat) (t : Text) : Option Nat :=
  let names := t.takeWhile fun c => c = 'a' || (people.lookup c).isSome
  let who := (people.filter fun p => names.isEmpty || names.contains 'a' || names.contains p.1).map (·.2)
  actions? who t.length (t.drop names.length) perms

def clauses? (perms : Nat) (t : Text) : Option Nat := (Text.pieces (· == ',') t).foldlM clause? perms

def all : Nat := 0o777

def shown (mask : Nat) : Text := (('0' :: '0' :: '0' :: Nat.toDigits 8 mask).reverse.take 4).reverse

def shownRights (mask : Nat) : Text :=
  [','].intercalate (people.map fun (c, w) =>
    c :: '=' :: (rights.filter fun r => part mask w &&& r.2 = 0).map (·.1))

def withMask (m : Machine) (mask : Nat) : Machine := { m with tree := { m.tree with mask } }

/-- Shows or changes what may not be done with new files. -/
def umask : Tool := lettered "umask" false "S" fun ls args m =>
  match args with
  | [] => m.tell .out ((if ls.contains 'S' then shownRights m.tree.mask else shown m.tree.mask) ++ ['\n']) 0
  | t :: _ =>
    if (t.head?.map Char.isDigit).getD false then
      if t.all fun c => '0' ≤ c && c ≤ '7' then
        (withMask m (t.foldl (fun n c => 8 * n + Text.digitValue c) 0 % 512)).ends 0
      else refuse m "umask: Illegal number: " t 2
    else match clauses? (all - m.tree.mask) t with
      | some p => (withMask m (all - p)).ends 0
      | none => refuse m "umask: Illegal mode: " t 2

end Mask

end Guidebook.Shell
