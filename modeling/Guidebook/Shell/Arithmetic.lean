import Guidebook.Shell.Machine

namespace Guidebook.Shell

inductive Operator where
  | or | and | bitOr | bitXor | bitAnd
  | eq | ne | le | ge | lt | gt
  | shl | shr | add | sub | mul | div | mod
  deriving DecidableEq, Repr

/-- An expression over whole numbers of 64 bits. -/
inductive Arithmetic where
  | number (i : Int)
  | variable (name : Text)
  | negative (a : Arithmetic)
  | opposite (a : Arithmetic)
  | complement (a : Arithmetic)
  | binary (o : Operator) (a b : Arithmetic)
  | choice (test yes no : Arithmetic)
  | assign (name : Text) (o : Option Operator) (a : Arithmetic)

namespace Arithmetic

inductive Lexeme where
  | number (i : Int)
  | name (t : Text)
  | sign (t : Text)
  deriving DecidableEq, Repr

def wrap (i : Int) : Int := Int.bmod i 0x10000000000000000

def largest : Nat := 0x7FFFFFFFFFFFFFFF

/-- A number that is too large is the largest one. -/
def ofDigits (base : Nat) (value : Char → Nat) (ds : Text) : Int :=
  min largest (ds.foldl (fun n c => base * n + value c) 0)

def isOctal (c : Char) : Bool := '0' ≤ c && c ≤ '7'

def isHex (c : Char) : Bool := c.isDigit || ('a' ≤ c.toLower && c.toLower ≤ 'f')

def hexValue (c : Char) : Nat := if c.isDigit then Text.digitValue c else c.toLower.toNat - 87

/-- A number in one of three bases. -/
def number? (t : Text) : Option Int :=
  match t with
  | '0' :: x :: ds =>
    if x = 'x' ∨ x = 'X' then
      if !ds.isEmpty && ds.all isHex then some (ofDigits 16 hexValue ds) else none
    else if (x :: ds).all isOctal then some (ofDigits 8 Text.digitValue (x :: ds))
    else none
  | ds => if Text.isDigits ds then some (ofDigits 10 Text.digitValue ds) else none

/-- Signs, longer ones first. -/
def signs : List Text :=
  ["<<=".toList, ">>=".toList, "||".toList, "&&".toList, "==".toList, "!=".toList, "<=".toList,
   ">=".toList, "<<".toList, ">>".toList, "+=".toList, "-=".toList, "*=".toList, "/=".toList,
   "%=".toList, "&=".toList, "^=".toList, "|=".toList] ++ "+-*/%<>=!~&|^?:()".toList.map ([·])

def isGap (c : Char) : Bool := c = ' ' || c = '\t' || c = '\n'

/-- The number that a text begins with, in one of three bases, and how long it is. -/
def leadingNumber (t : Text) : Int × Nat :=
  let hex := fun (ds : Text) => ds.takeWhile isHex
  match t with
  | '0' :: x :: cs =>
    if (x = 'x' ∨ x = 'X') ∧ !(hex cs).isEmpty then (ofDigits 16 hexValue (hex cs), (hex cs).length + 2)
    else
      let ds := t.takeWhile isOctal
      (ofDigits 8 Text.digitValue ds, ds.length)
  | t =>
    let ds := t.takeWhile Char.isDigit
    (ofDigits 10 Text.digitValue ds, ds.length)

/-- What a text is made of. What is not known is a sign of its own. -/
def lexemes : Nat → Text → List Lexeme
  | 0, _ => []
  | n + 1, t =>
    match t.dropWhile isGap with
    | [] => []
    | c :: cs =>
      let t := c :: cs
      let put := fun (l : Lexeme) (k : Nat) => l :: lexemes n (t.drop k)
      if c.isDigit then
        let (i, k) := leadingNumber t
        put (.number i) k
      else if Lexer.isNameStart c then
        let ds := t.takeWhile Lexer.isNameChar
        put (.name ds) ds.length
      else
        let s := (signs.find? (·.isPrefixOf t)).getD [c]
        put (.sign s) s.length

/-- The operators by their sign, each with how closely it binds. -/
def operators : List (Text × Nat × Operator) :=
  [("||".toList, 1, .or), ("&&".toList, 2, .and), (['|'], 3, .bitOr), (['^'], 4, .bitXor),
   (['&'], 5, .bitAnd), ("==".toList, 6, .eq), ("!=".toList, 6, .ne), ("<=".toList, 7, .le),
   (">=".toList, 7, .ge), (['<'], 7, .lt), (['>'], 7, .gt), ("<<".toList, 8, .shl),
   (">>".toList, 8, .shr), (['+'], 9, .add), (['-'], 9, .sub), (['*'], 10, .mul), (['/'], 10, .div),
   (['%'], 10, .mod)]

/-- The operator that a sign of assignment goes along with. -/
def assignment? (s : Text) : Option (Option Operator) :=
  if s = ['='] then some none
  else if s.getLast? = some '=' then ((operators.lookup s.dropLast).filter (3 ≤ ·.1)).map fun o => some o.2
  else none

def lacking (what : String) : Except Text α := .error ("expecting ".toList ++ what.toList)

mutual

def whole : Nat → List Lexeme → Except Text (Arithmetic × List Lexeme)
  | 0, _ => lacking "primary"
  | n + 1, ls =>
    match ls with
    | .name v :: .sign s :: rest =>
      match (if operators.any (·.1 = s) then none else assignment? s) with
      | some o => (whole n rest).map fun r => (.assign v o r.1, r.2)
      | none => conditional n ls
    | ls => conditional n ls

def conditional : Nat → List Lexeme → Except Text (Arithmetic × List Lexeme)
  | 0, _ => lacking "primary"
  | n + 1, ls => do
    let (test, ls) ← chain n 1 ls
    match ls with
    | .sign ['?'] :: ls => do
      let (yes, ls) ← whole n ls
      match ls with
      | .sign [':'] :: ls => do
        let (no, ls) ← conditional n ls
        return (.choice test yes no, ls)
      | _ => lacking "':'"
    | ls => return (test, ls)

/-- Operators that bind at least as closely as a level. -/
def chain : Nat → Nat → List Lexeme → Except Text (Arithmetic × List Lexeme)
  | 0, _, _ => lacking "primary"
  | n + 1, level, ls => do
    let (a, ls) ← primary n ls
    more n level a ls

def more : Nat → Nat → Arithmetic → List Lexeme → Except Text (Arithmetic × List Lexeme)
  | 0, _, _, _ => lacking "primary"
  | n + 1, level, a, ls =>
    match ls with
    | .sign s :: rest =>
      match (operators.lookup s).filter (level ≤ ·.1) with
      | some (k, o) => do
        let (b, ls) ← chain n (k + 1) rest
        more n level (.binary o a b) ls
      | none => .ok (a, ls)
    | ls => .ok (a, ls)

def primary : Nat → List Lexeme → Except Text (Arithmetic × List Lexeme)
  | 0, _ => lacking "primary"
  | n + 1, ls =>
    let under := fun (f : Arithmetic → Arithmetic) ls => (primary n ls).map fun r => (f r.1, r.2)
    match ls with
    | .number i :: ls => .ok (.number i, ls)
    | .name v :: ls => .ok (.variable v, ls)
    | .sign ['+'] :: ls => primary n ls
    | .sign ['-'] :: ls => under .opposite ls
    | .sign ['!'] :: ls => under .negative ls
    | .sign ['~'] :: ls => under .complement ls
    | .sign ['('] :: ls => do
      let (a, ls) ← whole n ls
      match ls with
      | .sign [')'] :: ls => .ok (a, ls)
      | _ => lacking "')'"
    | _ => lacking "primary"

end

/-- The expression that a text spells, or what is wanted for it to spell one. -/
def ofText (t : Text) : Except Text Arithmetic := do
  let ls := lexemes (t.length + 1) t
  match ← whole (16 * ls.length + 16) ls with
  | (a, []) => .ok a
  | _ => lacking "EOF"

/-- The number that is the value of a variable. -/
def valueOf? (t : Text) : Option Int :=
  match Text.trim t with
  | [] => some 0
  | '-' :: ds => (number? ds).map fun i => wrap (-i)
  | '+' :: ds => number? ds
  | ds => number? ds

def truth (b : Bool) : Int := if b then 1 else 0

/-- The 64 bits of a number. -/
def bits (i : Int) : Nat := (i % 0x10000000000000000).toNat

/-- Why an expression has no value. -/
inductive Failure where
  | divided
  | unreadable (value : Text)
  | fixed (name : Text)
  deriving DecidableEq, Repr

def combine (o : Operator) (a b : Int) : Except Failure Int :=
  let divided := fun (i : Int) => if b = 0 then .error .divided else .ok (wrap i)
  match o with
  | .or => .ok (truth (a ≠ 0 || b ≠ 0))
  | .and => .ok (truth (a ≠ 0 && b ≠ 0))
  | .bitOr => .ok (wrap (bits a ||| bits b))
  | .bitXor => .ok (wrap (bits a ^^^ bits b))
  | .bitAnd => .ok (wrap (bits a &&& bits b))
  | .eq => .ok (truth (a = b))
  | .ne => .ok (truth (a ≠ b))
  | .le => .ok (truth (a ≤ b))
  | .ge => .ok (truth (b ≤ a))
  | .lt => .ok (truth (a < b))
  | .gt => .ok (truth (b < a))
  | .shl => .ok (wrap (a * Nat.pow 2 (bits b % 64)))
  | .shr => .ok (a / Nat.pow 2 (bits b % 64))
  | .add => .ok (wrap (a + b))
  | .sub => .ok (wrap (a - b))
  | .mul => .ok (wrap (a * b))
  | .div => divided (a.tdiv b)
  | .mod => divided (a.tmod b)

/-- The number that a variable holds. One that is not there holds zero. -/
def held (m : Machine) (v : Text) : Except Failure Int :=
  let t := (m.value? v).getD []
  match valueOf? t with
  | some i => .ok i
  | none => .error (.unreadable t)

/-- The value of an expression, or what is wrong with it. Assignments change the machine. -/
def eval : Arithmetic → Machine → Except Failure (Int × Machine)
  | .number i, m => .ok (i, m)
  | .variable v, m => (held m v).map (·, m)
  | .negative a, m => (eval a m).map fun r => (truth (r.1 = 0), r.2)
  | .opposite a, m => (eval a m).map fun r => (wrap (-r.1), r.2)
  | .complement a, m => (eval a m).map fun r => (-r.1 - 1, r.2)
  | .binary o a b, m => do
    let (i, m) ← eval a m
    if o = .or ∧ i ≠ 0 then return (1, m)
    else if o = .and ∧ i = 0 then return (0, m)
    else do
      let (j, m) ← eval b m
      return (← combine o i j, m)
  | .choice test yes no, m => do
    let (i, m) ← eval test m
    if i ≠ 0 then eval yes m else eval no m
  | .assign v o a, m => do
    let (i, m) ← eval a m
    let i ← match o with
      | none => .ok i
      | some o => do combine o (← held m v) i
    if ((m.entry? v).map (·.fixed)).getD false then throw (.fixed v)
    else return (i, m.assign v (Text.ofInt i))

end Arithmetic

end Guidebook.Shell
