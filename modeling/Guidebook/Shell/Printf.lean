import Guidebook.Shell.Arithmetic
import Guidebook.Shell.Decimal

namespace Guidebook.Shell

namespace Printf

def octalValue (ds : Text) : Nat := ds.foldl (fun n c => 8 * n + Text.digitValue c) 0

def octalByte (ds : Text) : Bytes := [(octalValue ds).toUInt8]

def controls : List (Char × UInt8) :=
  [('a', 7), ('b', 8), ('f', 12), ('n', 10), ('r', 13), ('t', 9), ('v', 11), ('e', 27), ('\\', 92)]

/-- What a text with backslashes spells, up to one that cuts it off. The flag tells whether the text
goes on. -/
def unescape : Nat → Text → Bytes × Bool
  | 0, t => (Octet.encode t, true)
  | n + 1, '\\' :: c :: cs =>
    let put := fun b rest => let r := unescape n rest; (b ++ r.1, r.2)
    if c = 'c' then ([], false)
    else match controls.lookup c with
      | some b => put [b] cs
      | none =>
        if Arithmetic.isOctal c then
          let cs := if c = '0' then cs else c :: cs
          let ds := (cs.take 3).takeWhile Arithmetic.isOctal
          put (octalByte ds) (cs.drop ds.length)
        else put (Octet.encode ['\\']) (c :: cs)
  | n + 1, c :: cs =>
    let r := unescape n cs
    (UInt8.ofNat c.toNat :: r.1, r.2)
  | _, [] => ([], true)

/-- How a value is to be written: at the left, with zeros, with a sign, with a blank for one, with the
mark of its base, how wide and how exact. -/
structure Spec where
  flags : Text
  width : Nat
  precision : Option Nat

namespace Spec

def isFlag (c : Char) : Bool := c = '-' || c = '0' || c = '+' || c = ' ' || c = '#'

def pad (s : Spec) (b : Bytes) : Bytes :=
  let gap := List.replicate (s.width - b.length) 32
  if s.flags.contains '-' then b ++ gap else gap ++ b

def limited (s : Spec) (b : Bytes) : Bytes :=
  match s.precision with
  | none => b
  | some n => b.take n

/-- Digits with what stands in front of them. Zeros fill the width unless it is said how many digits
there are. -/
def digits (s : Spec) (front ds : Text) : Bytes :=
  let ds := List.replicate ((s.precision.getD 1) - ds.length) '0' ++ ds
  let room := s.width - front.length - ds.length
  let fill := s.flags.contains '0' && !s.flags.contains '-' && s.precision.isNone
  let ds := if fill then List.replicate room '0' ++ ds else ds
  s.pad (Octet.encode (front ++ ds))

def sign (s : Spec) (i : Int) : Text :=
  if i < 0 then ['-']
  else if s.flags.contains '+' then ['+']
  else if s.flags.contains ' ' then [' ']
  else []

/-- A number with a point as a letter asks for it. -/
def decimal (s : Spec) (letter : Char) (v : Decimal) : Bytes :=
  let ds := Decimal.shown letter (s.flags.contains '#') s.precision v.size
  let front := s.sign (if v.negative then -1 else 1)
  let room := s.width - front.length - ds.length
  let fill := s.flags.contains '0' && !s.flags.contains '-' && (ds.head?.map Char.isDigit).getD false
  s.pad (Octet.encode (front ++ (if fill then List.replicate room '0' else []) ++ ds))

/-- A number as a letter asks for it. -/
def number (s : Spec) (letter : Char) (i : Int) : Bytes :=
  let n := Arithmetic.bits i
  let marked := s.flags.contains '#' && n != 0
  match letter with
  | 'o' => s.digits (if marked then ['0'] else []) (Nat.toDigits 8 n)
  | 'x' => s.digits (if marked then "0x".toList else []) (Nat.toDigits 16 n)
  | 'X' => s.digits (if marked then "0X".toList else []) ((Nat.toDigits 16 n).map Char.toUpper)
  | 'u' => s.digits [] (Text.ofNat n)
  | _ => s.digits (s.sign i) (Text.ofNat i.natAbs)

end Spec

/-- The number that a text begins with after its blanks, if it does, and the rest of it. -/
def whole? (t : Text) : Option (Int × Text) :=
  let t := Text.trimStart t
  let (negative, t) := match t with
    | '-' :: cs => (true, cs)
    | '+' :: cs => (false, cs)
    | cs => (false, cs)
  let signed := fun (n : Int) => if negative then -n else n
  let read := fun (isDigit : Char → Bool) (value : Text → Int) (t : Text) =>
    let ds := t.takeWhile isDigit
    if ds.isEmpty then none else some (signed (value ds), t.drop ds.length)
  match t with
  | '0' :: x :: cs =>
    match if x = 'x' ∨ x = 'X' then read Arithmetic.isHex (Arithmetic.ofDigits 16 Arithmetic.hexValue) cs else none with
    | some r => some r
    | none => read Arithmetic.isOctal (fun ds => octalValue ds) t
  | t => read Char.isDigit (fun ds => Text.digitsValue ds) t

/-- What keeps an argument from being the number that is asked for. -/
inductive Doubt where
  | unread
  | partlyRead
  | tooFar
  deriving DecidableEq, Repr

def Doubt.why : Doubt → Text
  | .unread => "expected numeric value".toList
  | .partlyRead => "not completely converted".toList
  | .tooFar => "Numerical result out of range".toList

/-- The value of an argument that stands for a number. A quotation mark goes in front of a byte that
stands for its code. -/
def valueOf (read : Text → Option (α × Text)) (ofByte : Nat → α) (arg : Text) : α × Option Doubt :=
  match arg with
  | [] => (ofByte 0, none)
  | q :: cs =>
    if q = '\'' ∨ q = '"' then (ofByte (((Octet.encode cs).head?.map UInt8.toNat).getD 0), none)
    else match read arg with
      | none => (ofByte 0, some .unread)
      | some (v, []) => (v, none)
      | some (v, _) => (v, some .partlyRead)

/-- A whole number between bounds. -/
def value (least greatest : Int) (arg : Text) : Int × Option Doubt :=
  let (i, doubt) := valueOf whole? Int.ofNat arg
  if i < least then (least, some .tooFar)
  else if greatest < i then (greatest, some .tooFar)
  else (i, doubt)

def decimalOf (arg : Text) : Decimal × Option Doubt :=
  let read := fun t =>
    let t := Text.trimStart t
    match (Decimal.ofHexText? t).orElse fun _ => Decimal.ofText? t, whole? t with
    | none, r => r.map fun (i, rest) => (Decimal.ofInt i, rest)
    | some d, some (i, rest) => some (if rest.length < d.2.length then (Decimal.ofInt i, rest) else d)
    | d, none => d
  valueOf read (fun n => Decimal.ofInt n) arg

/-- What is wrong with an argument, or with a format, where nothing follows. -/
inductive Problem where
  | argument (arg : Text) (doubt : Doubt)
  | directive (t : Text)
  | unfinished
  deriving DecidableEq, Repr

def Problem.text : Problem → Text
  | .argument arg doubt => arg ++ ": ".toList ++ doubt.why
  | .directive t => t ++ ": invalid directive".toList
  | .unfinished => "missing format character".toList

def Problem.isFatal : Problem → Bool
  | .argument .. => false
  | _ => true

/-- Formatting under way: what has been written, the arguments that are left, whether it goes on, and
what was wrong. -/
structure Formatted where
  bytes : Bytes
  args : List Text
  goes : Bool
  bad : List Problem

namespace Formatted

def put (f : Formatted) (b : Bytes) : Formatted := { f with bytes := b ++ f.bytes }

def blame (f : Formatted) (arg : Text) (doubt : Option Doubt) : Formatted :=
  { f with bad := (doubt.map (Problem.argument arg)).toList ++ f.bad }

end Formatted

/-- A width or an exactness: digits, or a star that takes an argument. -/
def measure (f : Text) (args : List Text) : Option Int × Text × List Text :=
  match f with
  | '*' :: cs => (some (value (-Text.numberBound) Text.numberBound ((args.head?).getD [])).1, cs, args.drop 1)
  | cs =>
    let ds := cs.takeWhile Char.isDigit
    (if ds.isEmpty then none else some (Text.digitsValue ds), cs.drop ds.length, args)

/-- The specification behind a percent sign, and what is left of the format and the arguments. -/
def spec (f : Text) (args : List Text) : Spec × Text × List Text :=
  let flags := f.takeWhile Spec.isFlag
  let (width, f, args) := measure (f.drop flags.length) args
  let width := width.getD 0
  let flags := if width < 0 then '-' :: flags else flags
  match f with
  | '.' :: cs =>
    let (precision, cs, args) := measure cs args
    (⟨flags, width.natAbs, (some (precision.getD 0)).filter (0 ≤ ·) |>.map Int.toNat⟩, cs, args)
  | cs => (⟨flags, width.natAbs, none⟩, cs, args)

/-- One round of a format. -/
def round : Nat → Text → List Text → Formatted
  | 0, _, args => ⟨[], args, true, []⟩
  | _, [], args => ⟨[], args, true, []⟩
  | n + 1, '%' :: '%' :: cs, args => (round n cs args).put [37]
  | n + 1, '%' :: f, args =>
    let (s, cs, args) := spec f args
    let arg := (args.head?).getD []
    match cs with
    | [] => ⟨[], args, false, [.unfinished]⟩
    | c :: cs =>
      if c = 's' then (round n cs (args.drop 1)).put (s.pad (s.limited (Octet.encode arg)))
      else if c = 'c' then (round n cs (args.drop 1)).put (s.pad ((Octet.encode arg ++ [0]).take 1))
      else if c = 'b' then
        let (b, goes) := unescape arg.length arg
        if goes then (round n cs (args.drop 1)).put (s.pad (s.limited b))
        else ⟨s.pad (s.limited b), args.drop 1, false, []⟩
      else if "di".toList.contains c then
        let (i, doubt) := value (-0x8000000000000000) 0x7fffffffffffffff arg
        ((round n cs (args.drop 1)).put (s.number c i)).blame arg doubt
      else if "ouxX".toList.contains c then
        let (i, doubt) := value (1 - Text.numberBound) (Text.numberBound - 1) arg
        ((round n cs (args.drop 1)).put (s.number c i)).blame arg doubt
      else if "aAeEfFgG".toList.contains c then
        let (d, doubt) := decimalOf arg
        ((round n cs (args.drop 1)).put (s.decimal c d)).blame arg doubt
      else ⟨[], args, false, [.directive ('%' :: f.take (f.length - cs.length))]⟩
  | n + 1, '\\' :: c :: cs, args =>
    match controls.lookup c with
    | some b => (round n cs args).put [b]
    | none =>
      if Arithmetic.isOctal c then
        let ds := ((c :: cs).take 3).takeWhile Arithmetic.isOctal
        (round n ((c :: cs).drop ds.length) args).put (octalByte ds)
      else (round n cs args).put (Octet.encode ['\\', c])
  | n + 1, c :: cs, args => (round n cs args).put [UInt8.ofNat c.toNat]

/-- A format is used again until no arguments are left. -/
def rounds (f : Text) : Nat → List Text → Formatted
  | 0, args => ⟨[], args, true, []⟩
  | n + 1, args =>
    let r := round (f.length + 1) f args
    if r.args.isEmpty ∨ !r.goes ∨ r.args.length = args.length then r
    else
      let s := rounds f n r.args
      { s with bytes := r.bytes ++ s.bytes, bad := r.bad ++ s.bad }

end Printf

end Guidebook.Shell
