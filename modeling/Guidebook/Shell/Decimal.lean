import Guidebook.Text.Digit

namespace Guidebook.Shell

/-- A number as it is written with a point: its sign and its size, which is a quotient unless it has no
bound or is no number. -/
inductive Magnitude where
  | quotient (n d : Nat)
  | infinite
  | undefined
  deriving DecidableEq, Repr

structure Decimal where
  negative : Bool
  size : Magnitude
  deriving DecidableEq, Repr

namespace Decimal

/-- The whole number next to a quotient. A half goes to the even one. -/
def nearest (n d : Nat) : Nat :=
  let q := n / d
  let r := n % d
  if 2 * r < d then q else if d < 2 * r then q + 1 else q + q % 2

/-- A quotient times a power. -/
def scale (b : Nat) (k : Int) (n d : Nat) : Nat × Nat :=
  if 0 ≤ k then (n * b.pow k.toNat, d) else (n, d * b.pow (-k).toNat)

/-- The number of 53 binary digits next to a quotient. -/
def binary (n d : Nat) : Nat × Nat :=
  if n = 0 then (0, 1)
  else
    let e : Int := (Nat.log2 n : Int) - Nat.log2 d - 52
    let s := scale 2 (-e) n d
    let e := max (if s.1 < s.2 * Nat.pow 2 52 then e - 1 else e) (-1074)
    let s := scale 2 (-e) n d
    scale 2 e (nearest s.1 s.2) 1

/-- The power of ten that a quotient begins with. -/
def exponent (n d : Nat) : Int :=
  if n = 0 then 0
  else
    let x : Int := (Text.ofNat n).length - (Text.ofNat d).length
    let s := scale 10 (-x) n d
    if s.1 < s.2 then x - 1 else x

def padded (width : Nat) (ds : Text) : Text := List.replicate (width - ds.length) '0' ++ ds

/-- Digits with a point in front of the last ones. -/
def pointed (always : Bool) (places : Nat) (n : Nat) : Text :=
  let ds := padded (places + 1) (Text.ofNat n)
  let whole := ds.take (ds.length - places)
  if places = 0 then if always then whole ++ ['.'] else whole
  else whole ++ '.' :: ds.drop (ds.length - places)

/-- A quotient with a number of places. -/
def fixed (always : Bool) (places n d : Nat) : Text := pointed always places (nearest (n * Nat.pow 10 places) d)

/-- The digits of a quotient, one of them in front of the places, and its power of ten. -/
def digits (places n d : Nat) : Nat × Int :=
  let x := exponent n d
  let s := scale 10 (places - x) n d
  let k := nearest s.1 s.2
  if Nat.pow 10 (places + 1) ≤ k then (Nat.pow 10 places, x + 1) else (k, x)

def power (x : Int) : Text :=
  'e' :: (if x < 0 then '-' else '+') :: padded 2 (Text.ofNat x.natAbs)

/-- A quotient with its power of ten. -/
def scientific (always : Bool) (places n d : Nat) : Text :=
  let (k, x) := digits places n d
  pointed always places k ++ power x

def withoutZeros (t : Text) : Text :=
  if t.contains '.' then ((t.reverse.dropWhile (· = '0')).dropWhile (· = '.')).reverse else t

/-- A quotient with a number of digits, with its power of ten if that is far from zero. -/
def general (always : Bool) (count n d : Nat) : Text :=
  let count := max 1 count
  let (k, x) := digits (count - 1) n d
  let trim := if always then id else withoutZeros
  if -4 ≤ x ∧ x < count then trim (fixed always (count - 1 - x).toNat n d)
  else trim (pointed always (count - 1) k) ++ power x

/-- A quotient in base 16 with a power of two, with as many places as there are unless it is said how many. -/
def hexadecimal (always : Bool) (precision : Option Nat) (n d : Nat) : Text :=
  let e : Int := (Nat.log2 n : Int) - Nat.log2 d
  let s := scale 2 (-e) n d
  let e := if n = 0 then 0 else max (if s.1 < s.2 then e - 1 else e) (-1022)
  let places := precision.getD 13
  let s := scale 2 (4 * places - e) n d
  let k := nearest s.1 s.2
  let ds := Nat.toDigits 16 k
  let ds := List.replicate (places + 1 - ds.length) '0' ++ ds
  let fraction := ds.drop (ds.length - places)
  let fraction := if precision.isNone then (fraction.reverse.dropWhile (· = '0')).reverse else fraction
  "0x".toList ++ ds.take (ds.length - places) ++ (if fraction.isEmpty && !always then [] else '.' :: fraction) ++
    'p' :: (if e < 0 then '-' else '+') :: Text.ofNat e.natAbs

/-- A size in the way that a letter asks for. -/
def shown (letter : Char) (always : Bool) (precision : Option Nat) (size : Magnitude) : Text :=
  let t := match size with
    | .infinite => "inf".toList
    | .undefined => "nan".toList
    | .quotient n d =>
      let p := precision.getD 6
      match letter.toLower with
      | 'e' => scientific always p n d
      | 'f' => fixed always p n d
      | 'a' => hexadecimal always precision n d
      | _ => general always p n d
  if letter.isUpper then t.map Char.toUpper else t

/-- The number that a text begins with, if it does, and the rest of it. -/
def ofText? (t : Text) : Option (Decimal × Text) :=
  let (negative, t) := match t with
    | '-' :: cs => (true, cs)
    | '+' :: cs => (false, cs)
    | cs => (false, cs)
  let named := fun (name : String) (size : Magnitude) =>
    if name.toList = Text.lower (t.take name.length) then
      some (⟨negative, size⟩, t.drop name.length) else none
  let whole := t.takeWhile Char.isDigit
  let rest := t.drop whole.length
  let places := match rest with
    | '.' :: cs => cs.takeWhile Char.isDigit
    | _ => []
  let rest := match rest with
    | '.' :: cs => if whole.isEmpty && places.isEmpty then rest else cs.drop places.length
    | _ => rest
  if whole.isEmpty && places.isEmpty then
    ((named "infinity" .infinite).orElse fun _ => named "inf" .infinite).orElse fun _ =>
      named "nan" .undefined
  else
    let (x, rest) := powerOf rest
    let s := scale 10 (max (min (x - places.length) 5000) (-5000)) (Text.digitsValue (whole ++ places)) 1
    let b := binary s.1 s.2
    some (⟨negative, .quotient b.1 b.2⟩, rest)
where
  powerOf (t : Text) : Int × Text :=
    match t with
    | e :: cs =>
      let (negative, ds) := match cs with
        | '-' :: ds => (true, ds)
        | '+' :: ds => (false, ds)
        | ds => (false, ds)
      let k := ds.takeWhile Char.isDigit
      if (e = 'e' || e = 'E') && !k.isEmpty then
        let x : Int := Text.digitsValue k
        (if negative then -x else x, ds.drop k.length)
      else (0, t)
    | [] => (0, [])

def ofInt (i : Int) : Decimal := ⟨i < 0, .quotient i.natAbs 1⟩

def isHexDigit (c : Char) : Bool := c.isDigit || ('a' ≤ c.toLower && c.toLower ≤ 'f')

def hexDigit (c : Char) : Nat := if c.isDigit then c.toNat - 48 else c.toLower.toNat - 87

/-- The number in base 16 that a text begins with, perhaps with a point and a power of two, and the rest of it. -/
def ofHexText? (t : Text) : Option (Decimal × Text) :=
  let (negative, t) := match t with
    | '-' :: cs => (true, cs)
    | '+' :: cs => (false, cs)
    | cs => (false, cs)
  match t with
  | '0' :: x :: cs =>
    let whole := cs.takeWhile isHexDigit
    let (places, rest) := match cs.drop whole.length with
      | '.' :: ds => (ds.takeWhile isHexDigit, ds.dropWhile isHexDigit)
      | rest => ([], rest)
    if !(x = 'x' || x = 'X') || whole.isEmpty && places.isEmpty then none
    else
      let (k, rest) := powerOf rest
      let n := (whole ++ places).foldl (fun n c => 16 * n + hexDigit c) 0
      let s := scale 2 (max (min (k - 4 * places.length) 5000) (-5000)) n 1
      let b := binary s.1 s.2
      some (⟨negative, .quotient b.1 b.2⟩, rest)
  | _ => none
where
  powerOf (t : Text) : Int × Text :=
    match t with
    | p :: cs =>
      let (negative, ds) := match cs with
        | '-' :: ds => (true, ds)
        | '+' :: ds => (false, ds)
        | ds => (false, ds)
      let k := ds.takeWhile Char.isDigit
      if (p = 'p' || p = 'P') && !k.isEmpty then
        let x : Int := Text.digitsValue k
        (if negative then -x else x, ds.drop k.length)
      else (0, t)
    | [] => (0, [])

end Decimal

end Guidebook.Shell
