import Guidebook.Shell.Reckon
import Guidebook.Shell.Source

namespace Guidebook.Shell

/-! Numbers with letters for how large they are. -/

namespace Magnitude

open FileTool

/-- What the letters stand for: nothing, powers of a thousand, or powers of 1024, where a second letter may or has to
say so. -/
inductive Scale where
  | none
  | auto
  | thousands
  | binary
  | marked
  deriving DecidableEq, Repr

namespace Scale

def ofText? (t : Text) : Option Scale :=
  match String.ofList t with
  | "none" => some .none
  | "auto" => some .auto
  | "si" => some .thousands
  | "iec" => some .binary
  | "iec-i" => some .marked
  | _ => Option.none

def base : Scale → Nat
  | .thousands => 1000
  | _ => 1024

end Scale

/-- The ways to make a number whole. -/
inductive Rounding where
  | up
  | down
  | away
  | inward
  | nearest
  deriving DecidableEq, Repr

def Rounding.ofText? (t : Text) : Option Rounding :=
  match String.ofList t with
  | "up" => some .up
  | "down" => some .down
  | "from-zero" => some .away
  | "towards-zero" => some .inward
  | "nearest" => some .nearest
  | _ => none

/-- A quotient as a whole number. -/
def Rounding.whole (r : Rounding) (n : Int) (d : Nat) : Int :=
  let floor := n.fdiv d
  let ceiling := -((-n).fdiv d)
  match r with
  | .up => ceiling
  | .down => floor
  | .away => if n < 0 then floor else ceiling
  | .inward => n.tdiv d
  | .nearest => if n < 0 then -((-2 * n + d).fdiv (2 * d)) else (2 * n + d).fdiv (2 * d)

def letters : Text := "KMGTPEZYRQ".toList

/-- A number that has been read: a quotient, and how many digits it had behind the point. -/
structure Value where
  top : Int
  bottom : Nat
  places : Nat

/-- Why a text is no number that can be taken. -/
def refusal (scale : Scale) (t : Text) (number rest : Text) : Text :=
  if number.isEmpty then "invalid number: ".toList ++ literal t
  else match rest with
    | c :: _ =>
      if scale = .none && letters.contains c.toUpper then
        "rejecting suffix in input: ".toList ++ literal t ++ " (consider using --from)".toList
      else if scale = .marked && letters.contains c then
        "missing 'i' suffix in input: ".toList ++ literal t ++ " (e.g Ki/Mi/Gi)".toList
      else "invalid suffix in input: ".toList ++ literal t
    | [] => "missing 'i' suffix in input: ".toList ++ literal t ++ " (e.g Ki/Mi/Gi)".toList

/-- The number that a text tells. -/
def read (s : Scale) (t : Text) : Except Text Value :=
  let (negative, body) := match t with
    | '-' :: cs => (true, cs)
    | cs => (false, cs)
  let whole := body.takeWhile Char.isDigit
  let rest := body.drop whole.length
  let (part, rest) := match rest with
    | '.' :: cs => let ds := cs.takeWhile Char.isDigit; (ds, cs.drop ds.length)
    | cs => ([], cs)
  let top : Int := Text.digitsValue (whole ++ part)
  let top := if negative then -top else top
  let fail := .error (refusal s t (whole ++ part) rest)
  let value := fun (k : Nat) => .ok ⟨top * k, Nat.pow 10 part.length, if k = 1 then part.length else 0⟩
  let power := fun (c : Char) => (letters.idxOf? c).map (· + 1)
  if (whole ++ part).isEmpty then fail
  else match s, rest with
    | .marked, [] => value 1
    | _, [] => value 1
    | .none, _ => fail
    | .thousands, [c] => (power c).elim fail fun k => value (Nat.pow 1000 k)
    | .binary, [c] => (power c).elim fail fun k => value (Nat.pow 1024 k)
    | .auto, [c] => (power c).elim fail fun k => value (Nat.pow 1000 k)
    | .auto, [c, 'i'] | .marked, [c, 'i'] => (power c).elim fail fun k => value (Nat.pow 1024 k)
    | _, _ => fail

/-- Divides by a base as often as a number is not smaller. -/
def reduced (base : Nat) : Nat → Int → Nat → Nat → Nat × Nat
  | 0, _, d, k => (d, k)
  | n + 1, v, d, k => if v.natAbs < base * d then (d, k) else reduced base n v (d * base) (k + 1)

/-- A number in pieces of ten with a point. -/
def pointed (places : Nat) (i : Int) : Text := Reckon.shown places i

/-- How a number is shown. -/
def shown (goal : Scale) (r : Rounding) (precision : Option Nat) (v : Value) : Text :=
  match goal with
  | .none | .auto =>
    let places := precision.getD v.places
    pointed places (r.whole (v.top * Nat.pow 10 places) v.bottom)
  | s =>
    let (d, power) := reduced s.base 12 v.top v.bottom 0
    let small := v.top.natAbs < 10 * d
    let places := match precision with
      | some k => min (3 * power) k
      | none => if small then 1 else 0
    let i := r.whole (v.top * Nat.pow 10 places) d
    let exceeds := s.base * Nat.pow 10 places ≤ i.natAbs
    let (i, places, power) := if exceeds then ((1 : Int), 0, power + 1) else (i, places, power)
    let pointShown := i ≠ 0 && i.natAbs < 10 * Nat.pow 10 places && 0 < power
    let final := precision.getD (if pointShown then 1 else 0)
    let i := if places ≤ final then i * Nat.pow 10 (final - places) else Rounding.nearest.whole i (Nat.pow 10 (places - final))
    let letter := if power = 0 then [] else ((letters[power - 1]?).map fun c =>
      if s = .thousands && c = 'K' then ['k'.toUpper] else [c]).getD []
    pointed final i ++ letter ++ if s = .marked && power ≠ 0 then ['i'] else []

/-- A text on a width, at the right of it or, for less than nothing, at the left. -/
def padded (width : Int) (t : Text) : Text :=
  let gap := List.replicate (width.natAbs - t.length) ' '
  if width < 0 then t ++ gap else gap ++ t

/-- A format has one place for a number, which may tell a width and how many digits are behind the point. -/
def format? (f : Text) : Option (Text × Int × Option Nat × Text) :=
  let front := f.takeWhile (· ≠ '%')
  match f.drop front.length with
  | '%' :: cs =>
    let flags := cs.takeWhile "-0' ".toList.contains
    let cs := cs.drop flags.length
    let ds := cs.takeWhile Char.isDigit
    let width : Int := Text.digitsValue ds
    let (precision, cs) := match cs.drop ds.length with
      | '.' :: cs => let ps := cs.takeWhile Char.isDigit; (some (Text.digitsValue ps), cs.drop ps.length)
      | cs => (none, cs)
    match cs with
    | 'f' :: rest => some (front, if flags.contains '-' then -width else width, precision, rest)
    | _ => none
  | _ => none

def isGap (c : Char) : Bool := c = ' ' || c = '\t'

/-- The fields of a line, each with the gap in front of it but for the sign that ends the one before. -/
def fields (mark : Option Char) : Nat → Text → List Text
  | 0, t => [t]
  | n + 1, t =>
    let field := match mark with
      | some c => t.takeWhile (· ≠ c)
      | none =>
        let gap := t.takeWhile isGap
        gap ++ (t.drop gap.length).takeWhile (!isGap ·)
    match t.drop field.length with
    | [] => [field]
    | [_] => if mark.isSome then [field, []] else [field]
    | _ :: rest => field :: fields mark n rest

/-- Which fields are meant by a list of numbers and ranges. -/
def chosen (t : Text) (k : Nat) : Bool :=
  t = ['-'] || (Text.pieces (· == ',') t).any fun r => match Text.cut? '-' r with
    | some (a, b) => (a.isEmpty || Text.digitsValue a ≤ k) && (b.isEmpty || k ≤ Text.digitsValue b)
    | none => Text.digitsValue r = k

def number (g : Given) (c : Char) : Nat := max 1 (((g.value? c).bind sized?).getD 1)

/-- One field as another number. -/
def converted (g : Given) (isAlone : Bool) (t : Text) : Except Text Text :=
  let scale := fun c => ((g.value? c).bind Scale.ofText?).getD .none
  let ending := (g.value? 's').getD []
  let body := t.dropWhile isGap
  let bare := if !ending.isEmpty && ending.isSuffixOf body && ending.length < body.length then
      body.take (body.length - ending.length) else body
  let format := (g.value? 'o').bind format?
  (read (scale 'F') bare).map fun v =>
    let v := { v with top := v.top * number g 'u', bottom := v.bottom * number g 'U' }
    let rounding := ((g.value? 'R').bind Rounding.ofText?).getD .away
    let told := shown (scale 'T') rounding (format.bind (·.2.2.1)) v ++ ending
    match format with
    | some (front, width, _, rest) => front ++ padded width told ++ rest
    | none =>
      match g.value? 'p' with
      | some w => padded ((Condition.integer? w).getD 0) told
      | none => if isAlone then told else padded t.length told

/-- A line in which some fields are other numbers, or what is wrong with one. -/
def line (g : Given) (t : Text) : Text × List Text :=
  let mark := (g.value? 'd').bind List.head?
  let wanted := (g.value? 'f').getD ['1']
  let fs := fields mark t.length t
  let done := fs.zipIdx.map fun (f, i) =>
    if !chosen wanted (i + 1) then (f, none)
    else match converted g (mark.isSome || i = 0 && f.head?.all (!isGap ·)) f with
      | .ok u => (u, none)
      | .error why => (f, some why)
  ([mark.getD ' '].intercalate (done.map (·.1)), done.filterMap (·.2))

/-- Lines one after the other, up to the first one that is wrong if that ends all. -/
def linesOf (g : Given) : List Text → Source.Said
  | [] => []
  | l :: ls =>
    let r := line g l
    let way := String.ofList ((g.value? 'i').getD "abort".toList)
    let said := fun (why : Text) => Except.error (objection "numfmt" why (if way = "warn" then 0 else 2))
    if way = "abort" && !r.2.isEmpty then (r.2.take 1).map said
    else (if way = "ignore" then [] else r.2.map said) ++ .ok (lineOf r.1) :: linesOf g ls

def numfmt : Tool := program "numfmt" 1
  { plain := "GDz", valued := "FTuUpfdosRi", optional := "H",
    long := [("from", 'F'), ("to", 'T'), ("from-unit", 'u'), ("to-unit", 'U'), ("padding", 'p'), ("field", 'f'),
      ("delimiter", 'd'), ("format", 'o'), ("suffix", 's'), ("round", 'R'), ("invalid", 'i'), ("grouping", 'G'),
      ("header", 'H'), ("debug", 'D'), ("zero-terminated", 'z')] }
  fun g args m =>
    let bad := ['F', 'T'].find? fun c => (g.value? c).any fun t => (Scale.ofText? t).isNone
    match bad with
    | some c =>
      let name := if c = 'F' then "--from" else "--to"
      misused "numfmt" ("invalid argument ".toList ++ literal ((g.value? c).getD []) ++ " for ".toList ++ literal name.toList) 1 m
    | none =>
      let (lines, m) := if args.isEmpty then
          (((FileTool.linesOf m.input).map fun l => textOf (bare l)), { m with input := [] })
        else (args, m)
      let header := match g.value? 'H' with
        | some [] => 1
        | some t => Text.digitsValue t
        | none => 0
      Source.finish (.ok ((lines.take header).flatMap lineOf) :: linesOf g (lines.drop header)) 0 m

def all : List (Text × Tool) := [("numfmt".toList, numfmt)]

end Magnitude

end Guidebook.Shell
