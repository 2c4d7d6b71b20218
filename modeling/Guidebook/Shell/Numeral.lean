import Guidebook.Shell.FileTool

namespace Guidebook.Shell

/-! Numbers that options are given as values, perhaps with letters that tell how much is counted at a
time. -/

namespace Numeral

open FileTool

/-- What is wrong with a number. -/
inductive Flaw where
  | shape
  | size
  | range
  deriving DecidableEq, Repr

def bound : Nat := Nat.pow 2 64

/-- How much letters stand for: a power of 1024, or of 1000 if a `B` follows. -/
def powers : List (Char × Nat) :=
  [('k', 1), ('K', 1), ('m', 2), ('M', 2), ('G', 3), ('T', 4), ('P', 5), ('E', 6), ('Z', 7), ('Y', 8), ('R', 9), ('Q', 10)]

/-- How much the letters behind a number stand for. -/
def factor? : Text → Option Nat
  | [] => some 1
  | ['b'] => some 512
  | [c] | [c, 'i', 'B'] => (powers.lookup c).map (Nat.pow 1024)
  | [c, 'B'] => (powers.lookup c).map (Nat.pow 1000)
  | _ => none

/-- A number without a sign but perhaps a plus; the flag tells whether letters may follow. -/
def read (lettered : Bool) (t : Text) : Except Flaw Nat :=
  let t := t.dropWhile fun c => c = ' ' || ('\t' ≤ c && c ≤ '\r')
  let t := if t.head? = some '+' && ((t.drop 1).head?.map Char.isDigit).getD false then t.drop 1 else t
  let ds := t.takeWhile Char.isDigit
  let rest := t.drop ds.length
  match if lettered then factor? rest else if rest.isEmpty then some 1 else none with
  | none => .error .shape
  | some k =>
    if ds.isEmpty then if rest.isEmpty then .error .shape else .ok k
    else if Text.digitsValue ds * k < bound then .ok (Text.digitsValue ds * k)
    else .error .size

/-- What is said of a number that has a flaw. -/
def told (t : Text) : Flaw → Text
  | .shape => literal t
  | .size => literal t ++ ": Value too large for defined data type".toList
  | .range => literal t ++ ": Numerical result out of range".toList

/-- A number in a range, or what is said of it. -/
def within (low high : Nat) (lettered : Bool) (t : Text) : Except Text Nat :=
  match read lettered t with
  | .ok n =>
    if low ≤ n && n ≤ high then .ok n
    else .error (told t (if 0x40000000 ≤ n then .size else .range))
  | .error f => .error (told t f)

/-- A number of any size. -/
def large (t : Text) : Except Text Nat := within 0 bound true t

/-- A number that may have a minus, in a range that begins somewhere. -/
def whole (low : Option Int) (t : Text) : Except Text Int :=
  let back := t.head? = some '-' && ((t.drop 1).head?.map Char.isDigit).getD false
  match read false (if back then t.drop 1 else t) with
  | .ok n =>
    let k : Int := if back then -n else n
    if bound / 2 ≤ n then .error (told t .size)
    else if low.any (k < ·) then .error (told t .range)
    else .ok k
  | .error f => .error (told t f)

/-- A number that stands for the largest one if it is larger. -/
def capped? (t : Text) : Option Nat :=
  match read false t with
  | .ok n => some n
  | .error .size => some bound
  | .error _ => none

/-- The first value of some option that is no number of the wanted sort. -/
def flawed? (read : Text → Except Text α) (ts : List Text) : Option Text :=
  ts.findSome? fun t => match read t with
    | .error why => some why
    | .ok _ => none

end Numeral

/-! The order of versions, in which runs of digits count as numbers. -/

namespace Version

/-- How the sign that a text begins with counts. A tilde comes in front even of the end. -/
def rank : Text → Int
  | [] => -1
  | c :: _ => if c.isDigit then 0 else if c.isAlpha then c.toNat else if c = '~' then -2 else c.toNat + 256

/-- Signs that are no digits one by one, and runs of digits as numbers. -/
def byParts : Nat → Text → Text → Ordering
  | 0, _, _ => .eq
  | n + 1, a, b =>
    let isSign := fun (t : Text) => (t.head?.map fun c => !c.isDigit).getD false
    if isSign a || isSign b then
      (compare (rank a) (rank b)).then (byParts n (a.drop 1) (b.drop 1))
    else if a.isEmpty && b.isEmpty then .eq
    else
      let ds := a.takeWhile Char.isDigit
      let es := b.takeWhile Char.isDigit
      (compare (Text.digitsValue ds) (Text.digitsValue es)).then (byParts n (a.drop ds.length) (b.drop es.length))

/-- Endings such as `.tar.gz`, each of which begins with a letter or a tilde, at the start of a text. -/
def isEndings : Nat → Text → Bool
  | _, [] => true
  | n + 1, '.' :: c :: cs =>
    (c.isAlpha || c = '~') && isEndings n (cs.dropWhile fun d => d.isAlphanum || d = '~')
  | _, _ => false

/-- A name without its endings. -/
def stem : Text → Text
  | [] => []
  | c :: cs => c :: go cs
where
  go : Text → Text
    | [] => []
    | c :: cs => if isEndings (cs.length + 1) (c :: cs) then [] else c :: go cs

/-- Names in the order of versions. Endings only count if nothing else does. Hidden names come first, and among
them those of a directory itself and of the one above it. -/
def order (a b : Text) : Ordering :=
  let kind := fun (t : Text) =>
    if t.isEmpty then 0 else if t = ['.'] then 1 else if t = ['.', '.'] then 2 else if t.head? = some '.' then 3 else 4
  let all := fun (x y : Text) => byParts (x.length + y.length + 1) x y
  (compare (kind a) (kind b)).then ((all (stem a) (stem b)).then (all a b))

end Version

end Guidebook.Shell
