import Guidebook.Json.Basic

namespace Guidebook.Json

/-- What a record's written form holds for one of its fields: a value, nothing under that name, or
nothing because the list of the values ended before it. -/
inductive Slot where
  | given (v : Json)
  | absent
  | short

def Slot.required (f : Json → Option α) : Slot → Option α
  | .given v => f v
  | _ => none

/-- A field that may be left out, but only where fields have names. -/
def Slot.orNone (f : Json → Option (Option α)) : Slot → Option (Option α)
  | .given v => f v
  | .absent => some none
  | .short => none

def Slot.orElse (f : Json → Option α) (d : α) : Slot → Option α
  | .given v => f v
  | _ => some d

/-- The value under a name that may stand only once. -/
def member (ms : List (Text × Json)) (name : Text) : Option Slot :=
  match ms.filter (·.1 = name) with
  | [] => some .absent
  | [(_, v)] => some (.given v)
  | _ => none

def positions : List Text → List Json → Option (List Slot)
  | [], [] => some []
  | [], _ :: _ => none
  | _ :: ns, [] => (positions ns []).map (.short :: ·)
  | _ :: ns, v :: vs => (positions ns vs).map (.given v :: ·)

/-- The fields of a record in the order of `names`. The record is an object with those keys, others
being passed over, or the list of the fields' values. -/
def slots (names : List Text) : Json → Option (List Slot)
  | .obj ms => names.mapM (member ms)
  | .arr vs => positions names vs
  | _ => none

end Guidebook.Json
