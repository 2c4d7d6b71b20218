import Guidebook.Shell.Decimal
import Guidebook.Shell.Printf

namespace Guidebook.Shell.Row

/-- What a field, a variable or a place in a table may hold. A text that has been read counts as a number if it
looks like one. -/
inductive Value where
  | unset
  | number (x : Float)
  | text (t : Text)
  | given (t : Text)

namespace Real

/-- A whole number of 53 binary digits times a power of two. -/
def scaled (m : Nat) (k : Int) : Float := (Float.ofNat m).scaleB k

/-- The number that a quotient of the kind that `Decimal.binary` gives stands for. -/
def ofQuotient (n d : Nat) : Float :=
  if d ≤ 1 then
    let k := Nat.log2 n - 52
    scaled (n / Nat.pow 2 k) k
  else scaled n (-(Nat.log2 d : Int))

def infinite : Float := 1.0 / 0.0

def undefined : Float := 0.0 / 0.0

def ofDecimal (d : Decimal) : Float :=
  let x := match d.size with
    | .quotient n d => ofQuotient n d
    | .infinite => infinite
    | .undefined => undefined
  if d.negative then -x else x

/-- The exact quotient that a number stands for, from its 64 binary digits. -/
def toDecimal (x : Float) : Decimal :=
  let b := x.toBits.toNat
  let e := b / Nat.pow 2 52 % 2048
  let m := b % Nat.pow 2 52
  let size : Magnitude :=
    if e = 2047 then if m = 0 then .infinite else .undefined
    else
      let q := if e = 0 then Decimal.scale 2 (-1074) m 1
        else Decimal.scale 2 ((e : Int) - 1075) (m + Nat.pow 2 52) 1
      .quotient q.1 q.2
  ⟨x < 0.0 || x.isNaN, size⟩

/-- The whole number next to a number on the side of zero. -/
def toInt (x : Float) : Int :=
  let d := toDecimal x
  match d.size with
  | .quotient n k =>
    let i : Int := ((n / k : Nat) : Int)
    if d.negative then -i else i
  | _ => if x < 0.0 || x.isNaN then -Nat.pow 2 63 else Nat.pow 2 64 - 1

def ofInt (i : Int) : Float :=
  let b := Decimal.binary i.natAbs 1
  let x := ofQuotient b.1 b.2
  if i < 0 then -x else x

def isWhole (x : Float) : Bool :=
  match (toDecimal x).size with
  | .quotient n d => n % d = 0
  | _ => false

/-- What is left when a number is taken away from another one as often as it can be. -/
def rest (x y : Float) : Float :=
  match (toDecimal x).size, (toDecimal y).size with
  | .quotient n d, .quotient k l =>
    if k = 0 then undefined
    else
      let r := (n * l) % (k * d)
      let b := Decimal.binary r (d * l)
      let z := ofQuotient b.1 b.2
      if x < 0.0 then -z else z
  | .quotient .., .infinite => x
  | _, _ => undefined

end Real

def isGap (c : Char) : Bool := c = ' ' || ('\t' ≤ c && c ≤ '\r')

/-- The number that a text begins with, and what follows it. -/
def readNumber? (t : Text) : Option (Float × Text) :=
  let t := t.dropWhile isGap
  let (negative, u) := match t with
    | '-' :: cs => (true, cs)
    | '+' :: cs => (false, cs)
    | cs => (false, cs)
  match u with
  | '0' :: x :: cs =>
    let ds := if x = 'x' || x = 'X' then cs.takeWhile Arithmetic.isHex else []
    if ds.isEmpty then (Decimal.ofText? t).map fun r => (Real.ofDecimal r.1, r.2)
    else
      let n := Real.ofInt (Arithmetic.ofDigits 16 Arithmetic.hexValue ds)
      some (if negative then -n else n, cs.drop ds.length)
  | _ => (Decimal.ofText? t).map fun r => (Real.ofDecimal r.1, r.2)

def leading (t : Text) : Float := ((readNumber? t).map (·.1)).getD 0.0

/-- The number that a text looks like as a whole. -/
def wholly? (t : Text) : Option Float :=
  let u := t.dropWhile isGap
  match u.head? with
  | none => none
  | some c =>
    if c.isDigit || c = '+' || c = '-' || c = '.' then
      match readNumber? u with
      | some (x, rest) => if rest.all isGap then some x else none
      | none => none
    else none

/-- How a number is written: a whole one with all its digits, others as a format says. -/
def spelled (format : Float → Text) (x : Float) : Text :=
  if Real.isWhole x && -9223372036854775808.0 ≤ x && x ≤ 18446744073709551616.0 then
    Text.ofInt (min (Real.toInt x) (Nat.pow 2 64 - 1))
  else format x

namespace Value

def toNumber : Value → Float
  | .unset => 0.0
  | .number x => x
  | .text t | .given t => leading t

def toText (format : Float → Text) : Value → Text
  | .unset => []
  | .number x => spelled format x
  | .text t | .given t => t

/-- The number that a value counts as where numbers and texts are told apart. -/
def number? : Value → Option Float
  | .unset => some 0.0
  | .number x => some x
  | .text _ => none
  | .given t => wholly? t

def holds : Value → Bool
  | .unset => false
  | .number x => x != 0.0
  | .text t => !t.isEmpty
  | .given t => match wholly? t with
    | some x => x != 0.0
    | none => !t.isEmpty

def ofBool (b : Bool) : Value := .number (if b then 1.0 else 0.0)

def ofNat (n : Nat) : Value := .number (Float.ofNat n)

end Value

/-- Why a format cannot be used. -/
inductive FormatFault where
  | tooFew
  | unknown (count : Nat)
  deriving DecidableEq, Repr

/-- A width or an exactness: digits, or a star that takes a value. -/
def measure (f : Text) (vs : List Value) : Option Int × Text × List Value :=
  match f with
  | '*' :: cs => (some (Real.toInt ((vs.head?).getD .unset).toNumber), cs, vs.drop 1)
  | cs =>
    let ds := cs.takeWhile Char.isDigit
    (if ds.isEmpty then none else some (Text.digitsValue ds), cs.drop ds.length, vs)

/-- The specification behind a percent sign, and what is left of the format and the values. -/
def spec (f : Text) (vs : List Value) : Printf.Spec × Text × List Value :=
  let flags := f.takeWhile Printf.Spec.isFlag
  let (width, f, vs) := measure (f.drop flags.length) vs
  let width := width.getD 0
  let flags := if width < 0 then '-' :: flags else flags
  let sized := fun (precision : Option Nat) (cs : Text) (vs : List Value) =>
    ((⟨flags, width.natAbs, precision⟩ : Printf.Spec), cs.dropWhile fun c => c = 'l' || c = 'h', vs)
  match f with
  | '.' :: cs =>
    let (precision, cs, vs) := measure cs vs
    sized ((some (precision.getD 0)).filter (0 ≤ ·) |>.map Int.toNat) cs vs
  | cs => sized none cs vs

/-- The byte that a value stands for. -/
def byteOf : Value → Text
  | .number x => [Char.ofNat ((Real.toInt x) % 256).toNat]
  | .given t => match wholly? t with
    | some x => [Char.ofNat ((Real.toInt x) % 256).toNat]
    | none => [t.headD (Char.ofNat 0)]
  | .text t => [t.headD (Char.ofNat 0)]
  | .unset => [Char.ofNat 0]

/-- Values in the way that a format asks for, as far as it can be used. -/
def formatted (shown : Float → Text) : Nat → Nat → Text → List Value → Text × Option FormatFault
  | 0, _, _, _ | _, _, [], _ => ([], none)
  | n + 1, k, '%' :: '%' :: cs, vs =>
    let r := formatted shown n k cs vs
    ('%' :: r.1, r.2)
  | n + 1, k, '%' :: f, vs =>
    let (s, cs, vs) := spec f vs
    match cs, vs with
    | [], _ => ('%' :: f, none)
    | c :: _, [] => ([], some (if c.isAlpha then .tooFew else .unknown k))
    | c :: cs, v :: vs =>
      let put := fun (b : Bytes) =>
        let r := formatted shown n (k + 1) cs vs
        (Octet.decode b ++ r.1, r.2)
      if c = 's' then put (s.pad (s.limited (Octet.encode (v.toText shown))))
      else if c = 'c' then put (s.pad (Octet.encode (byteOf v)))
      else if "di".toList.contains c then put (s.number 'd' (Real.toInt v.toNumber))
      else if "ouxX".toList.contains c then put (s.number c (Real.toInt v.toNumber))
      else if "eEfFgG".toList.contains c then put (s.decimal c (Real.toDecimal v.toNumber))
      else ([], some (.unknown k))
  | n + 1, k, c :: cs, vs =>
    let r := formatted shown n k cs vs
    (c :: r.1, r.2)

/-- How a format of its own writes a number. -/
def byFormat (f : Text) (x : Float) : Text :=
  let plain := fun (x : Float) => Octet.decode ((⟨[], 0, none⟩ : Printf.Spec).decimal 'g' (Real.toDecimal x))
  if f = "%.6g".toList then plain x
  else (formatted plain f.length 1 f [.number x]).1

/-- A table of values. Its keys are kept in the order in which they are come to, the latest one first: those that
have been named as texts, and whole numbers that never have been. -/
structure Table where
  cells : List (Text × Value)
  texts : List Text
  numbers : List Int
  peak : Nat

namespace Table

def empty : Table := ⟨[], [], [], 0⟩

def has (t : Table) (k : Text) : Bool := t.cells.any (·.1 = k)

def value? (t : Table) (k : Text) : Option Value := t.cells.lookup k

def first [DecidableEq α] (k : α) (ks : List α) : List α := k :: ks.filter (· ≠ k)

/-- How many lists the keys are kept in for so many of them. -/
def lists (peak : Nat) : Nat := go 40 64
where
  go : Nat → Nat → Nat
    | 0, n => n
    | k + 1, n => if 12 * n < peak then go k (2 * n) else n

/-- The list in which a key is kept. -/
def hash (k : Text) : Nat :=
  k.foldl (fun h c => ((h ^^^ c.toNat) * 16777619) % Nat.pow 2 32) 2166136261

/-- Every key becomes one that has been named as a text: the whole numbers list by list. -/
def named (t : Table) : Table :=
  let count := lists t.peak
  let listed := t.numbers.zipIdx.mergeSort fun a b =>
    let x := (a.1 % count).toNat
    let y := (b.1 % count).toNat
    x < y || x = y && a.2 ≤ b.2
  { t with texts := listed.foldl (fun ks i => Text.ofInt i.1 :: ks) t.texts, numbers := [] }

/-- The keys list by list. -/
def keys (t : Table) : List Text :=
  let t := t.named
  let count := lists t.peak
  let listed := (t.texts.map fun k => (hash k % count, k)).zipIdx.mergeSort fun a b =>
    a.1.1 < b.1.1 || a.1.1 = b.1.1 && a.2 ≤ b.2
  listed.map (·.1.2)

/-- Comes to a key, which may be a whole number. -/
def reach (t : Table) (k : Text) (number : Option Int) : Table :=
  let t := if t.has k then t else { t with cells := (k, .unset) :: t.cells, peak := max t.peak (t.cells.length + 1) }
  match number with
  | some i =>
    if t.texts.contains k then { t with texts := first k t.texts }
    else if !t.texts.isEmpty && !t.numbers.contains i then { t with texts := first k t.texts }
    else { t with numbers := first i t.numbers }
  | none =>
    let t := if t.texts.isEmpty then t.named else t
    { t with texts := first k t.texts }

def put (t : Table) (k : Text) (number : Option Int) (v : Value) : Table :=
  let t := t.reach k number
  { t with cells := t.cells.map fun c => if c.1 = k then (k, v) else c }

def drop (t : Table) (k : Text) : Table :=
  { t with
    cells := t.cells.filter (·.1 ≠ k)
    texts := t.texts.filter (· ≠ k)
    numbers := t.numbers.filter fun i => Text.ofInt i ≠ k }

/-- A table of values under the numbers from one on. -/
def ofList (vs : List Value) : Table :=
  let is := (List.range vs.length).map (· + 1)
  ⟨(is.map Text.ofNat).zip vs, [], (is.map Int.ofNat).reverse, vs.length⟩

end Table

end Guidebook.Shell.Row
