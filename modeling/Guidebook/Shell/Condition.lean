import Guidebook.Shell.Disk

namespace Guidebook.Shell

namespace Condition

/-- What a word of a condition is. -/
inductive Sign where
  | unary (c : Char)
  | binary (t : Text)
  | negation
  | conjunction
  | disjunction
  | opening
  | closing
  deriving DecidableEq, Repr

def unaries : Text := "nzedfsrwxLhpSbcgukOGt".toList

def binaries : List Text :=
  [['='], "!=".toList, ['<'], ['>'], "-eq".toList, "-ne".toList, "-lt".toList, "-le".toList,
   "-gt".toList, "-ge".toList, "-nt".toList, "-ot".toList, "-ef".toList]

def sign? (t : Text) : Option Sign :=
  if binaries.contains t then some (.binary t)
  else match t with
    | ['!'] => some .negation
    | ['('] => some .opening
    | [')'] => some .closing
    | ['-', 'a'] => some .conjunction
    | ['-', 'o'] => some .disjunction
    | ['-', c] => if unaries.contains c then some (.unary c) else none
    | _ => none

def isBinary (t : Text) : Bool := binaries.contains t

/-- Whether words begin with an operand that looks like a sign. -/
def isOperand : List Text → Bool
  | _ :: s :: _ :: _ => isBinary s
  | [_, _] => false
  | _ => true

/-- The sign that words begin with, if they begin with one. -/
def first? (w : List Text) : Option Sign := do
  match ← sign? (← w.head?) with
  | .unary c => if isOperand w then none else some (.unary c)
  | .opening => if w.length = 1 then none else some .opening
  | s => some s

def integer? (t : Text) : Option Int :=
  match Text.trim t with
  | '-' :: ds => if Text.isDigits ds then some (-(Text.digitsValue ds : Int)) else none
  | '+' :: ds | ds => if Text.isDigits ds then some (Text.digitsValue ds : Int) else none

def number (t : Text) : Except Text Int :=
  match integer? t with
  | some i => .ok i
  | none => .error ("Illegal number: ".toList ++ t)

def isAt (t : Disk) (p : Text) (f : Node → Bool) : Bool := (t.find p).toOption.any fun r => f r.2

/-- Whether the first was changed later than the second. -/
def isNewer (t : Disk) (a b : Text) : Bool :=
  match t.find a, t.find b with
  | .ok (_, n), .ok (_, m) => m.time < n.time
  | _, _ => false

/-- Whether two paths lead to the same node. -/
def isSame (t : Disk) (a b : Text) : Bool :=
  match t.find a, t.find b with
  | .ok (a, _), .ok (b, _) => a = b || (t.serial? a).isSome && t.serial? a = t.serial? b
  | _, _ => false

/-- What a sign asks of one operand. -/
def asked (t : Disk) (c : Char) (a : Text) : Bool :=
  match c with
  | 'n' => !a.isEmpty
  | 'z' => a.isEmpty
  | 'd' => t.isDirAt a
  | 'f' => isAt t a fun n => match n with
    | .file .. => true
    | _ => false
  | 's' => isAt t a fun n => match n with
    | .dir _ => true
    | .file _ b => !b.isEmpty
    | _ => false
  | 'x' => isAt t a fun n => n.isDir || Node.runs n.mode
  | 'L' | 'h' => t.isLinkAt a
  | 'c' => isAt t a fun n => match n with
    | .device .. => true
    | _ => false
  | 'u' => isAt t a fun n => n.mode / 2048 % 2 = 1
  | 'g' => isAt t a fun n => n.mode / 1024 % 2 = 1
  | 'k' => isAt t a fun n => n.mode / 512 % 2 = 1
  | 'e' | 'r' | 'w' | 'O' | 'G' => t.existsAt a
  | _ => false

/-- What a sign asks of two operands. -/
def compared (t : Disk) (a o b : Text) : Except Text Bool := do
  match String.ofList o with
  | "=" => return a = b
  | "!=" => return a ≠ b
  | "<" => return String.ofList a < String.ofList b
  | ">" => return String.ofList b < String.ofList a
  | "-eq" => return (← number a) = (← number b)
  | "-ne" => return (← number a) ≠ (← number b)
  | "-lt" => return (← number a) < (← number b)
  | "-le" => return (← number a) ≤ (← number b)
  | "-gt" => return (← number b) < (← number a)
  | "-ge" => return (← number b) ≤ (← number a)
  | "-ef" => return isSame t a b
  | "-nt" => return isNewer t a b
  | "-ot" => return isNewer t b a
  | _ => return false

def lacking (o : Text) : Except Text α := .error (o ++ ": argument expected".toList)

mutual

/-- A condition at the start of words, and the words from its last one on. -/
def either (t : Disk) : Nat → Option Sign → List Text → Except Text (Bool × List Text)
  | 0, _, w => .ok (false, w)
  | n + 1, s, w => do
    let (a, w) ← both t n s w
    if first? (w.drop 1) = some .disjunction then do
      let (b, w) ← either t n (first? (w.drop 2)) (w.drop 2)
      return (a || b, w)
    else return (a, w)

def both (t : Disk) : Nat → Option Sign → List Text → Except Text (Bool × List Text)
  | 0, _, w => .ok (false, w)
  | n + 1, s, w => do
    let (a, w) ← negated t n s w
    if first? (w.drop 1) = some .conjunction then do
      let (b, w) ← both t n (first? (w.drop 2)) (w.drop 2)
      return (a && b, w)
    else return (a, w)

def negated (t : Disk) : Nat → Option Sign → List Text → Except Text (Bool × List Text)
  | 0, _, w => .ok (false, w)
  | n + 1, s, w => do
    if s = some .negation then do
      let rest := if w.length ≤ 1 then w else w.drop 1
      let (a, w) ← if w.length ≤ 1 then .ok (false, w) else negated t n (first? rest) rest
      return (!a, w)
    else primary t n s w

def primary (t : Disk) : Nat → Option Sign → List Text → Except Text (Bool × List Text)
  | 0, _, w => .ok (false, w)
  | n + 1, s, w =>
    match s, w with
    | _, [] => .ok (false, [])
    | some .opening, _ :: rest =>
      if first? rest = some .closing then .ok (false, rest)
      else do
        let (a, w) ← either t n (first? rest) rest
        if first? (w.drop 1) = some .closing then return (a, w.drop 1)
        else .error "closing paren expected".toList
    | some (.unary c), o :: rest =>
      match rest with
      | [] => lacking o
      | a :: _ => .ok (asked t c a, rest)
    | _, a :: rest =>
      match rest with
      | o :: more =>
        if isBinary o then
          match more with
          | [] => lacking o
          | b :: _ => do return (← compared t a o b, more)
        else .ok (!a.isEmpty, w)
      | [] => .ok (!a.isEmpty, w)

end

/-- Words that are a condition with nothing left. -/
def whole (t : Disk) (s : Option Sign) (w : List Text) : Except Text Bool := do
  let (a, rest) ← either t (4 * w.length + 4) s w
  match rest with
  | o :: _ :: _ => .error (o ++ ": unexpected operator".toList)
  | _ => return a

/-- Whether a condition holds, if it makes sense. How few words are meant does not depend on what they
look like. -/
def holds (t : Disk) : List Text → Except Text Bool
  | [] => .ok false
  | a :: rest =>
    let w := a :: rest
    let isBetween := rest.length = 2 && (rest.head?.map isBinary).getD false
    if isBetween then whole t none w
    else if rest.length = 2 ∨ rest.length = 3 then
      if a = ['('] ∧ rest.getLast? = some [')'] then whole t (first? rest.dropLast) rest.dropLast
      else if a = ['!'] then (holds t rest).map not
      else whole t (first? w) w
    else whole t (first? w) w

end Condition

end Guidebook.Shell
