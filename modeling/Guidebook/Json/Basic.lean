import Guidebook.Text.Digit

namespace Guidebook

/-- A JSON value. A number is kept as it is written; `garbled` is a string that spells no text, or an
object with such a string for a key. It can be passed over but not be read. -/
inductive Json where
  | null
  | bool (b : Bool)
  | num (lexeme : Text)
  | str (t : Text)
  | garbled
  | arr (items : List Json)
  | obj (members : List (Text × Json))

namespace Json

def int (i : Int) : Json := .num (Text.ofInt i)

def nat (n : Nat) : Json := int n

def opt : Option Text → Json
  | none => .null
  | some t => .str t

/-- The integer a lexeme stands for. Minus zero is not one. -/
def lexemeInt? : Text → Option Int
  | '-' :: ds => if Text.isDigits ds && Text.digitsValue ds != 0 then some (-Text.digitsValue ds) else none
  | ds => if Text.isDigits ds then some (Text.digitsValue ds) else none

def int? : Json → Option Int
  | .num l => lexemeInt? l
  | _ => none

/-- A number from zero up to, not including, `bound`. -/
def natBelow? (bound : Nat) (v : Json) : Option Nat := do
  let i ← v.int?
  if 0 ≤ i ∧ i < bound then some i.toNat else none

/-- An integer of 64 bits with a sign. -/
def int64? (v : Json) : Option Int := do
  let i ← v.int?
  if Text.isInt64 i then some i else none

def str? : Json → Option Text
  | .str t => some t
  | _ => none

/-- A text, or null for none. -/
def optStr? : Json → Option (Option Text)
  | .null => some none
  | .str t => some (some t)
  | _ => none

def arr? : Json → Option (List Json)
  | .arr vs => some vs
  | _ => none

/-- The name of a constant: a string, or an object with that name as its only key and null beside
it. -/
def constant? : Json → Option Text
  | .str t => some t
  | .obj [(t, .null)] => some t
  | _ => none

/-- The name of a constant within a tagged record, where an empty object may stand for null. -/
def taggedConstant? : Json → Option Text
  | .obj [(t, .obj [])] => some t
  | v => v.constant?

end Json

end Guidebook
