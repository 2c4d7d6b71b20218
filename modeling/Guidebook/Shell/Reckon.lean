import Guidebook.Shell.FileTool
import Guidebook.Shell.Pattern

namespace Guidebook.Shell

namespace Reckon

open FileTool

/-- A number with a point as a whole number of pieces, and how many places it has. -/
def number? (t : Text) : Option (Int × Nat) :=
  let (negative, ds) := match t with
    | '-' :: cs => (true, cs)
    | '+' :: cs => (false, cs)
    | cs => (false, cs)
  let signed := fun (n : Nat) => if negative then -(n : Int) else n
  match ds with
  | '0' :: 'x' :: hex => if !hex.isEmpty && hex.all Arithmetic.isHex then
      some (Arithmetic.ofDigits 16 Arithmetic.hexValue hex, 0) else none
  | ds =>
    let (ds, power) := match Text.cut? 'e' ds with
      | some (a, b) => (a, if Text.isDigits b then some (Text.digitsValue b) else none)
      | none => (ds, some 0)
    power.bind fun k =>
      match Text.cut? '.' ds with
      | none => if Text.isDigits ds then some (signed (Text.digitsValue ds * Nat.pow 10 (min k 30)), 0) else none
      | some (a, b) =>
        if (a ++ b).isEmpty || !Text.isDigits (a ++ b) || k ≠ 0 then none
        else some (signed (Text.digitsValue (a ++ b)), b.length)

/-- A whole number of pieces with its point. -/
def shown (places : Nat) (i : Int) : Text :=
  (if i < 0 then ['-'] else []) ++ Decimal.pointed false places i.natAbs

/-- The numbers from one to another in steps. -/
def numbers (last step : Int) : Nat → Int → List Int
  | 0, _ => []
  | n + 1, i =>
    if (0 < step && last < i) || (step < 0 && i < last) then [] else i :: numbers last step n (i + step)

/-- A number filled into a format. -/
def formatted? (f : Text) (places : Nat) (i : Int) : Option Text :=
  let r := Printf.round (f.length + 1) f [shown places i]
  if r.goes && r.bad.isEmpty then some (textOf r.bytes) else none

/-- A format has one place for a number with a point. -/
def isFormat (f : Text) : Bool :=
  match f.dropWhile (· ≠ '%') with
  | '%' :: cs =>
    match cs.dropWhile fun c => c.isDigit || Printf.Spec.isFlag c || c = '.' with
    | c :: rest => "eEfFgGaA".toList.contains c && !rest.contains '%'
    | [] => false
  | _ => false

def run (g : Given) (a s b : Int × Nat) (m : Machine) : Ran :=
  let places := max a.2 s.2
  let all := max places b.2
  let raised := fun (x : Int × Nat) => x.1 * Nat.pow 10 (all - x.2)
  if s.1 = 0 then
    misused "seq" ("invalid Zero increment value: ".toList ++ literal (shown s.2 s.1)) 1 m
  else
    let count := ((raised b - raised a).natAbs / (raised s).natAbs) + 2
    let ns := (numbers (raised b) (raised s) count (raised a)).map fun (i : Int) => i / Nat.pow 10 (all - places)
    let plain := ns.map (shown places)
    let width := (plain.map List.length).foldl max 0
    let ts := match g.value? 'f' with
      | some f => ns.filterMap (formatted? f places)
      | none =>
        if !g.has 'w' then plain
        else plain.map fun t => match t with
          | '-' :: cs => '-' :: (List.replicate (width - t.length) '0' ++ cs)
          | t => List.replicate (width - t.length) '0' ++ t
    if ts.isEmpty then m.ends 0
    else m.tell .out (((g.value? 's').getD ['\n']).intercalate ts ++ ['\n']) 0

def options : Menu :=
  { plain := "w", valued := "sf", long := [("separator", 's'), ("format", 'f'), ("equal-width", 'w')], inFront := true }

/-- Numbers with a minus sign are no options. -/
def guarded : List Text → List Text
  | [] => []
  | a :: as =>
    if (number? a).isSome then "--".toList :: a :: as
    else if a = "--".toList then a :: as
    else match a with
      | ['-', c] => if c = 's' || c = 'f' then a :: as.take 1 ++ guarded (as.drop 1) else a :: guarded as
      | a => a :: guarded as
termination_by as => as.length
decreasing_by all_goals (simp_wf; try omega)

def seq : Tool := fun args m =>
  program "seq" 1 options (fun g args m =>
    match args.find? fun a => (number? a).isNone, (args.filterMap number?) with
    | _, _ :: _ :: _ :: _ :: _ =>
      misused "seq" ("extra operand ".toList ++ literal ((args[3]?).getD [])) 1 m
    | some a, _ => misused "seq" ("invalid floating point argument: ".toList ++ literal a) 1 m
    | none, [] => missing "seq" m
    | none, ns =>
      match (g.value? 'f').filter (!isFormat ·) with
      | some f => m.tell .err ("seq: format ".toList ++ literal f ++ " has unknown %".toList ++
          ((f.dropWhile (· ≠ '%')).drop 1).take 1 ++ " directive\n".toList) 1
      | none =>
        match ns with
        | [b] => run g (1, 0) (1, 0) b m
        | [a, b] => run g a (1, 0) b m
        | a :: s :: b :: _ => run g a s b m
        | [] => m.ends 0) (guarded args) m

/-- A text that stands for nothing. -/
def isNil (t : Text) : Bool :=
  t.isEmpty || (let ds := if t.head? = some '-' then t.drop 1 else t
    !ds.isEmpty && ds.all (· = '0'))

def truth (b : Bool) : Text := if b then ['1'] else ['0']

/-- Why an expression has no value. -/
inductive Trouble where
  | missingAfter (t : Text)
  | unexpected (t : Text)
  | lacksClosing (t : Text)
  | notInteger
  | divided
  | badPattern
  deriving DecidableEq, Repr

def Trouble.text : Trouble → Text
  | .missingAfter t => "syntax error: missing argument after ".toList ++ literal t
  | .unexpected t => "syntax error: unexpected argument ".toList ++ literal t
  | .lacksClosing t => "syntax error: expecting ')' after ".toList ++ literal t
  | .notInteger => "non-integer argument".toList
  | .divided => "division by zero".toList
  | .badPattern => "Invalid regular expression".toList

abbrev Outcome := Except Trouble (Text × List Text)

def integer (t : Text) : Except Trouble Int :=
  let ds := if t.head? = some '-' then t.drop 1 else t
  if Text.isDigits ds then
    .ok (if t.head? = some '-' then -(Text.digitsValue ds : Int) else Text.digitsValue ds)
  else .error .notInteger

def fitted (a b : Text) : Except Trouble Text :=
  match Pattern.ofText? .basic b with
  | none => .error .badPattern
  | some p =>
    let hasGroup := 0 < p.groups
    match p.here? false none a with
    | some r => .ok (if hasGroup then (r.groups.lookup 1).getD [] else Text.ofNat r.taken)
    | none => .ok (if hasGroup then [] else ['0'])

/-- What a sign makes of two words. -/
def combine (a : Text) (o : String) (b : Text) : Except Trouble Text := do
  let compared := fun (f : Ordering → Bool) =>
    match integer a, integer b with
    | .ok i, .ok j => .ok (truth (f (compare i j)))
    | _, _ =>
      let (x, y) := (Octet.encode a, Octet.encode b)
      .ok (truth (f (if x < y then .lt else if y < x then .gt else .eq)))
  match o with
  | "|" => return if !isNil a then a else if !isNil b then b else ['0']
  | "&" => return if isNil a || isNil b then ['0'] else a
  | "<" => compared (· == .lt)
  | "<=" => compared (· != .gt)
  | "=" | "==" => compared (· == .eq)
  | "!=" => compared (· != .eq)
  | ">=" => compared (· != .lt)
  | ">" => compared (· == .gt)
  | "+" => return Text.ofInt ((← integer a) + (← integer b))
  | "-" => return Text.ofInt ((← integer a) - (← integer b))
  | "*" => return Text.ofInt ((← integer a) * (← integer b))
  | "/" => do
    let i ← integer a
    let j ← integer b
    if j = 0 then .error .divided else return Text.ofInt (i.tdiv j)
  | "%" => do
    let i ← integer a
    let j ← integer b
    if j = 0 then .error .divided else return Text.ofInt (i.tmod j)
  | _ => fitted a b

/-- Signs from those that bind least to those that bind most. -/
def levels : List (List String) :=
  [["|"], ["&"], ["<", "<=", "=", "==", "!=", ">=", ">"], ["+", "-"], ["*", "/", "%"], [":"]]

def extracted (t : Text) (start count : Text) : Text :=
  match integer start, integer count with
  | .ok i, .ok n => if i ≤ 0 ∨ n ≤ 0 then [] else (t.drop (i.toNat - 1)).take n.toNat
  | _, _ => []

mutual

/-- The value of words from a level on, and the words that are left. -/
def value : Nat → Nat → Text → List Text → Outcome
  | 0, _, before, _ => .error (.missingAfter before)
  | n + 1, level, before, ws =>
    match levels[level]? with
    | none => primary n before ws
    | some signs => do
      let (a, rest) ← value n (level + 1) before ws
      more n level signs a rest

def more : Nat → Nat → List String → Text → List Text → Outcome
  | 0, _, _, a, rest => .ok (a, rest)
  | n + 1, level, signs, a, rest =>
    match rest with
    | o :: ws =>
      if signs.contains (String.ofList o) then do
        let (b, rest) ← value n (level + 1) o ws
        more n level signs (← combine a (String.ofList o) b) rest
      else .ok (a, rest)
    | [] => .ok (a, [])

def primary : Nat → Text → List Text → Outcome
  | 0, before, _ => .error (.missingAfter before)
  | n + 1, before, ws =>
    match ws with
    | [] => .error (.missingAfter before)
    | ['('] :: ws => do
      let (a, rest) ← value n 0 ['('] ws
      match rest with
      | [')'] :: rest => .ok (a, rest)
      | r :: _ => .error (.unexpected r)
      | [] => .error (.lacksClosing (ws.getLast?.getD ['(']))
    | [')'] :: _ => .error (.unexpected [')'])
    | ['+'] :: w :: ws => .ok (w, ws)
    | w :: ws =>
      match String.ofList w, ws with
      | "length", t :: ws => .ok (Text.ofNat (Octet.encode t).length, ws)
      | "match", t :: p :: ws => do return (← fitted t p, ws)
      | "index", t :: cs :: ws =>
        .ok (Text.ofNat (((t.findIdx? cs.contains).map (· + 1)).getD 0), ws)
      | "substr", t :: i :: k :: ws => .ok (extracted t i k, ws)
      | _, ws => .ok (w, ws)

end

def expr : Tool := fun args m =>
  let args := if args.head? = some "--".toList then args.drop 1 else args
  if args.isEmpty then misused "expr" "missing operand".toList 2 m
  else
    let r := do
      let (v, rest) ← value (16 * args.length + 16) 0 [] args
      match rest with
      | [] => .ok v
      | w :: _ => .error (Trouble.unexpected w)
    match r with
    | .ok v => m.tell .out (v ++ ['\n']) (if isNil v then 1 else 0)
    | .error e => m.tell .err ("expr: ".toList ++ e.text ++ ['\n']) 2

/-- The prime factors of a number from a divisor on. -/
def factors : Nat → Nat → Nat → List Nat
  | 0, _, n => if 1 < n then [n] else []
  | k + 1, d, n =>
    if n < d * d then if 1 < n then [n] else []
    else if n % d = 0 then d :: factors k d (n / d)
    else factors k (d + 1) n

def factor : Tool := fun args m =>
  let ws := if args.isEmpty then Text.words (textOf m.input) else args
  let one := fun (w : Text) (t : Disk) =>
    if Text.isDigits w then
      let n := Text.digitsValue w
      let fs := factors (Nat.sqrt n + 65) 2 n
      (t, lineOf (Text.ofNat n ++ ':' :: fs.flatMap fun f => ' ' :: Text.ofNat f), none)
    else refusing (objection "factor" (literal w ++ " is not a valid positive integer".toList) 1) t
  let r := each (ws.map one) (if args.isEmpty then { m with input := [] } else m)
  { r with printed := r.printed.off .out ++ [(.out, r.printed.on .out)] }

def all : List (Text × Tool) := [("seq".toList, seq), ("expr".toList, expr), ("factor".toList, factor)]

end Reckon

end Guidebook.Shell
