import Guidebook.Json.Reader
import Guidebook.Toml.Basic

namespace Guidebook.Toml

/-- Reads something at the start of a text; the rest of the text comes with it. -/
abbrev Parser (α : Type) := Text → Option (α × Text)

/-- A character that may stand in comments and strings as it is. -/
def isPlain (c : Char) : Bool := c = '\t' || (32 ≤ c.toNat && c.toNat ≠ 127)

def isSpace (c : Char) : Bool := c = ' ' || c = '\t'

def skipSpace (t : Text) : Text := t.dropWhile isSpace

/-- Skips blanks, line ends and comments; the flag says that a comment has begun. -/
def skipGap : Bool → Text → Text
  | _, [] => []
  | _, '\n' :: r => skipGap false r
  | _, '\r' :: '\n' :: r => skipGap false r
  | true, c :: r => if isPlain c then skipGap true r else c :: r
  | false, c :: r =>
    if isSpace c then skipGap false r
    else if c = '#' then skipGap true r
    else c :: r

def skipComment : Text → Text
  | '#' :: r => r.dropWhile isPlain
  | t => t

/-- What follows the end of the line, if nothing but a comment stands before it. -/
def endLine? (t : Text) : Option Text :=
  match skipComment (skipSpace t) with
  | [] => some []
  | '\n' :: r => some r
  | '\r' :: '\n' :: r => some r
  | _ => none

def simpleEscape? (c : Char) : Option Char :=
  if c = '/' then none else Json.escaped? c

def hexNumber? (ds : Text) : Option Nat :=
  ds.foldlM (fun n d => do return 16 * n + (← Json.hexValue? d)) 0

/-- The character that `n` hexadecimal digits stand for. -/
def scalar? (n : Nat) (t : Text) : Option (Char × Text) := do
  if t.length < n then none
  else
    let v ← hexNumber? (t.take n)
    if v.isValidChar then some (Char.ofNat v, t.drop n) else none

/-- The character that an escape stands for, from behind its backslash. -/
def escape? : Text → Option (Char × Text)
  | [] => none
  | e :: r =>
    match simpleEscape? e with
    | some c => some (c, r)
    | none => if e = 'u' then scalar? 4 r else if e = 'U' then scalar? 8 r else none

theorem length_scalar? {n : Nat} {t r : Text} {c : Char} (h : scalar? n t = some (c, r)) :
    r.length ≤ t.length := by
  unfold scalar? at h
  split at h
  · cases h
  · cases hv : hexNumber? (t.take n) with
    | none => simp [hv] at h
    | some v =>
      simp only [hv, Option.bind_eq_bind, Option.bind_some] at h
      split at h
      · cases h
        simp
      · cases h

theorem length_escape? {t r : Text} {c : Char} (h : escape? t = some (c, r)) :
    r.length < t.length := by
  unfold escape? at h
  split at h
  · cases h
  · next e s =>
    split at h
    · cases h
      exact Nat.lt_succ_self _
    · split at h
      · exact Nat.lt_succ_of_le (length_scalar? h)
      · split at h
        · exact Nat.lt_succ_of_le (length_scalar? h)
        · cases h

/-- A string on one line, from behind its first quotation mark. -/
def basic (t : Text) : Option (Text × Text) :=
  match t with
  | [] => none
  | '"' :: r => some ([], r)
  | '\\' :: r =>
    match _ : escape? r with
    | none => none
    | some (c, s) => (basic s).map fun (u, s) => (c :: u, s)
  | c :: r => if isPlain c then (basic r).map fun (u, s) => (c :: u, s) else none
termination_by t.length
decreasing_by
  · exact Nat.lt_succ_of_lt (length_escape? ‹_›)
  · exact Nat.lt_succ_self _

def literal : Text → Option (Text × Text)
  | [] => none
  | '\'' :: r => some ([], r)
  | c :: r => if isPlain c then (literal r).map fun (u, s) => (c :: u, s) else none

/-- The end of a string of several lines: three quotation marks, and one or two more before them
that belong to the string. -/
def closing? (q : Char) (t : Text) : Option (Text × Text) :=
  let run := (t.takeWhile (· = q)).length
  if run < 3 then none
  else some (List.replicate (min (run - 3) 2) q, t.drop (min run 5))

def skipLineEnd : Text → Text
  | '\n' :: r => r
  | '\r' :: '\n' :: r => r
  | t => t

/-- Skips blanks and line ends. -/
def skipBlank : Text → Text
  | '\n' :: r => skipBlank r
  | '\r' :: '\n' :: r => skipBlank r
  | c :: r => if isSpace c then skipBlank r else c :: r
  | [] => []

theorem length_skipBlank (t : Text) : (skipBlank t).length ≤ t.length := by
  fun_induction skipBlank t with
  | case1 r ih => exact Nat.le_succ_of_le ih
  | case2 r ih => exact Nat.le_succ_of_le (Nat.le_succ_of_le ih)
  | case3 c r _ _ _ ih => exact Nat.le_succ_of_le ih
  | case4 => exact Nat.le_refl _
  | case5 => exact Nat.le_refl _

/-- The backslash before this text ends its line, and the string goes on where the blanks end. -/
def joined? (t : Text) : Option Text :=
  match skipSpace t with
  | '\n' :: r => some (skipBlank r)
  | '\r' :: '\n' :: r => some (skipBlank r)
  | _ => none

theorem length_skipSpace (t : Text) : (skipSpace t).length ≤ t.length :=
  (List.dropWhile_suffix _).length_le

theorem length_joined? {t r : Text} (h : joined? t = some r) : r.length < t.length := by
  have hs := length_skipSpace t
  unfold joined? at h
  split at h
  · next s hs' =>
    cases h
    rw [hs'] at hs
    exact Nat.lt_of_le_of_lt (length_skipBlank _) hs
  · next s hs' =>
    cases h
    rw [hs'] at hs
    exact Nat.lt_of_le_of_lt (length_skipBlank _) (Nat.lt_of_succ_lt hs)
  · cases h

/-- A string of several lines with escapes, from behind the line end that may follow its first
quotation marks. -/
def basicLines (t : Text) : Option (Text × Text) :=
  match closing? '"' t with
  | some r => some r
  | none =>
    match t with
    | [] => none
    | '\\' :: r =>
      match _ : joined? r with
      | some s => basicLines s
      | none =>
        match _ : escape? r with
        | none => none
        | some (c, s) => (basicLines s).map fun (u, s) => (c :: u, s)
    | '\n' :: r => (basicLines r).map fun (u, s) => ('\n' :: u, s)
    | '\r' :: '\n' :: r => (basicLines r).map fun (u, s) => ('\n' :: u, s)
    | c :: r => if isPlain c then (basicLines r).map fun (u, s) => (c :: u, s) else none
termination_by t.length
decreasing_by
  · exact Nat.lt_succ_of_lt (length_joined? ‹_›)
  · exact Nat.lt_succ_of_lt (length_escape? ‹_›)
  · exact Nat.lt_succ_self _
  · exact Nat.lt_succ_of_lt (Nat.lt_succ_self _)
  · exact Nat.lt_succ_self _

def literalLines : Text → Option (Text × Text)
  | [] => none
  | '\n' :: r => (literalLines r).map fun (u, s) => ('\n' :: u, s)
  | '\r' :: '\n' :: r => (literalLines r).map fun (u, s) => ('\n' :: u, s)
  | c :: r =>
    match closing? '\'' (c :: r) with
    | some e => some e
    | none => if isPlain c then (literalLines r).map fun (u, s) => (c :: u, s) else none

/-- A string in one of its four forms. -/
def string? : Text → Option (Text × Text)
  | '"' :: '"' :: '"' :: r => basicLines (skipLineEnd r)
  | '\'' :: '\'' :: '\'' :: r => literalLines (skipLineEnd r)
  | '"' :: r => basic r
  | '\'' :: r => literal r
  | _ => none

/-- Digits with single underscores between them. -/
def digits (isDigit : Char → Bool) : Text → Text × Text
  | [] => ([], [])
  | '_' :: c :: r =>
    if isDigit c then
      let (ds, s) := digits isDigit r
      (c :: ds, s)
    else ([], '_' :: c :: r)
  | c :: r =>
    if isDigit c then
      let (ds, s) := digits isDigit r
      (c :: ds, s)
    else ([], c :: r)

/-- A run of digits that starts with one. -/
def run? (isDigit : Char → Bool) (t : Text) : Option (Text × Text) :=
  match t with
  | c :: _ => if isDigit c then some (digits isDigit t) else none
  | [] => none

def int64? (i : Int) : Option Int := if Text.isInt64 i then some i else none

def isHexDigit (c : Char) : Bool := (Json.hexValue? c).isSome

def isOctalDigit (c : Char) : Bool := '0' ≤ c && c ≤ '7'

def isBinaryDigit (c : Char) : Bool := c = '0' || c = '1'

def based? (base : Nat) (isDigit : Char → Bool) (t : Text) : Option (Int × Text) := do
  let (ds, r) ← run? isDigit t
  let n := ds.foldl (fun n d => base * n + (Json.hexValue? d).getD 0) 0
  return (← int64? n, r)

/-- A whole number in decimal without needless zeros, as its sign and its digits. -/
def whole? (t : Text) : Option ((Bool × Text) × Text) :=
  let (minus, t) := match t with
    | '-' :: r => (true, r)
    | '+' :: r => (false, r)
    | r => (false, r)
  match t with
  | '0' :: r => some ((minus, ['0']), r)
  | t => do
    let (ds, r) ← run? Char.isDigit t
    return ((minus, ds), r)

def integer? : Text → Option (Int × Text)
  | '0' :: 'x' :: r => based? 16 isHexDigit r
  | '0' :: 'o' :: r => based? 8 isOctalDigit r
  | '0' :: 'b' :: r => based? 2 isBinaryDigit r
  | t => do
    let ((minus, ds), r) ← whole? t
    let n : Int := Text.digitsValue ds
    return (← int64? (if minus then -n else n), r)

/-- A decimal number as its sign, its digits, and how many of them stand before its point. -/
structure Decimal where
  minus : Bool
  digits : Text
  point : Int
  deriving DecidableEq, Repr

namespace Decimal

/-- Halfway from the largest number that 64 bits can hold to the next power of two. -/
def bound : Nat := 0x3FFFFFFFFFFFFF <<< 970

/-- How many digits `bound` has. -/
def boundSize : Nat := 309

/-- Whether the nearest number that 64 bits can hold is positive infinity. -/
def isInfinite (d : Decimal) : Bool :=
  let ds := d.digits.dropWhile (· = '0')
  let place := d.point - (d.digits.length - ds.length)
  !d.minus && !ds.isEmpty && (boundSize < place || place = boundSize &&
    bound ≤ Text.digitsValue ((ds ++ List.replicate boundSize '0').take boundSize))

end Decimal

def exponent? : Text → Option (Int × Text)
  | e :: r =>
    if e = 'e' ∨ e = 'E' then do
      let (minus, r) := match r with
        | '+' :: r => (false, r)
        | '-' :: r => (true, r)
        | r => (false, r)
      let (ds, r) ← run? Char.isDigit r
      let n : Int := Text.digitsValue ds
      return (if minus then -n else n, r)
    else none
  | [] => none

/-- A number with a fraction or an exponent. -/
def float? (t : Text) : Option (Decimal × Text) := do
  let ((minus, ds), r) ← whole? t
  match r with
  | '.' :: r => do
    let (fs, r) ← run? Char.isDigit r
    let (e, r) := (exponent? r).getD (0, r)
    return (⟨minus, ds ++ fs, ds.length + e⟩, r)
  | r => do
    let (e, r) ← exponent? r
    return (⟨minus, ds, ds.length + e⟩, r)

def special? (t : Text) : Option Text :=
  let t := match t with
    | '-' :: r => r
    | '+' :: r => r
    | r => r
  if "inf".toList.isPrefixOf t ∨ "nan".toList.isPrefixOf t then some (t.drop 3) else none

/-- A number of exactly `n` digits. -/
def fixed? (n : Nat) (t : Text) : Option (Nat × Text) :=
  let ds := t.take n
  if ds.length = n ∧ ds.all Char.isDigit then some (Text.digitsValue ds, t.drop n) else none

def expect (c : Char) : Text → Option Text
  | d :: r => if d = c then some r else none
  | [] => none

def isLeapYear (y : Nat) : Bool := y % 4 = 0 && (y % 100 ≠ 0 || y % 400 = 0)

def daysIn (year month : Nat) : Nat :=
  if month = 2 then if isLeapYear year then 29 else 28
  else if month = 4 ∨ month = 6 ∨ month = 9 ∨ month = 11 then 30
  else 31

def day? (t : Text) : Option Text := do
  let (y, r) ← fixed? 4 t
  let (m, r) ← fixed? 2 (← expect '-' r)
  let (d, r) ← fixed? 2 (← expect '-' r)
  if 1 ≤ m ∧ m ≤ 12 ∧ 1 ≤ d ∧ d ≤ daysIn y m then some r else none

def clockPart? (bound : Nat) (t : Text) : Option Text := do
  let (n, r) ← fixed? 2 t
  if n < bound then some r else none

def clock? (t : Text) : Option Text := do
  let r ← expect ':' (← clockPart? 24 t)
  let r ← expect ':' (← clockPart? 60 r)
  let r ← clockPart? 61 r
  match r with
  | '.' :: f =>
    let rest := f.dropWhile Char.isDigit
    if rest.length = f.length then some r else some rest
  | r => some r

def offset (t : Text) : Text :=
  match t with
  | 'Z' :: r => r
  | 'z' :: r => r
  | c :: r =>
    if c = '+' ∨ c = '-' then
      (do clockPart? 60 (← expect ':' (← clockPart? 24 r))).getD t
    else t
  | [] => []

/-- What follows a day, a time of day, or both. -/
def date? (t : Text) : Option Text :=
  match day? t with
  | none => clock? t
  | some r =>
    match r with
    | c :: s =>
      if c = 'T' ∨ c = 't' ∨ c = ' ' then
        match clock? s with
        | some u => some (offset u)
        | none => some r
      else some r
    | [] => some []

def isBareChar (c : Char) : Bool := c.isAlphanum || c = '_' || c = '-'

/-- One part of a key. -/
def keyPart? : Text → Option (Text × Text)
  | '"' :: r => basic r
  | '\'' :: r => literal r
  | t =>
    let k := t.takeWhile isBareChar
    if k.isEmpty then none else some (k, t.dropWhile isBareChar)

/-- How deep a value and how long a key may be nested. -/
def depthLimit : Nat := 79

/-- The parts of a key between dots, at most `n` of them. -/
def key? : Nat → Text → Option (List Text × Text)
  | 0, _ => none
  | n + 1, t => do
    let (k, r) ← keyPart? (skipSpace t)
    match skipSpace r with
    | '.' :: r => do
      let (ks, r) ← key? n r
      return (k :: ks, r)
    | r => return ([k], r)

end Guidebook.Toml
