import Guidebook.Json.Shape
import Guidebook.Record.Basic

namespace Guidebook

namespace Kind

def ofLabel? (t : Text) : Option Kind :=
  if t = cmd.label then some .cmd
  else if t = snippet.label then some .snippet
  else none

def ofJson? (v : Json) : Option Kind := v.constant?.bind ofLabel?

/-- A kind as it may be written within a tagged record. -/
def ofTaggedJson? (v : Json) : Option Kind := v.taggedConstant?.bind ofLabel?

def toJson (k : Kind) : Json := .str k.label

end Kind

namespace Suggestion

def fieldNames : List Text := ["kind".toList, "note".toList, "body".toList]

def ofSlots? (kind : Json → Option Kind) : List Json.Slot → Option Suggestion
  | [k, n, b] => do
    some ⟨← k.required kind, ← n.orNone Json.optStr?, ← b.required Json.str?⟩
  | _ => none

def ofJson? (v : Json) : Option Suggestion := do ofSlots? Kind.ofJson? (← v.slots fieldNames)

/-- A suggestion that is a tagged record without its tag. -/
def ofTaggedJson? (v : Json) : Option Suggestion := do
  ofSlots? Kind.ofTaggedJson? (← v.slots fieldNames)

def members (s : Suggestion) : List (Text × Json) :=
  [("kind".toList, s.kind.toJson), ("note".toList, .opt s.note), ("body".toList, .str s.body)]

def toJson (s : Suggestion) : Json := .obj s.members

end Suggestion

namespace Record

def tag : Text := "record".toList

def toJson : Record → Json
  | .step t => .obj [(tag, .str "step".toList), ("title".toList, .str t)]
  | .description t => .obj [(tag, .str "description".toList), ("text".toList, .str t)]
  | .suggestion s => .obj ((tag, .str "suggestion".toList) :: s.members)
  | .endOfStep => .obj [(tag, .str "end_of_step".toList)]

def ofBody? (name : Text) (body : Json) : Option Record :=
  if name = "step".toList then do
    match ← body.slots ["title".toList] with
    | [t] => some (.step (← t.required Json.str?))
    | _ => none
  else if name = "description".toList then do
    match ← body.slots ["text".toList] with
    | [t] => some (.description (← t.required Json.str?))
    | _ => none
  else if name = "suggestion".toList then (Suggestion.ofTaggedJson? body).map .suggestion
  else if name = "end_of_step".toList then
    match body with
    | .arr (_ :: _) => none
    | _ => some .endOfStep
  else none

/-- A record is an object that names its sort under `tag`, or a list that starts with that name. -/
def ofJson? : Json → Option Record
  | .obj ms =>
    match ms.filter (·.1 = tag) with
    | [(_, .str name)] => ofBody? name (.obj (ms.filter (·.1 ≠ tag)))
    | _ => none
  | .arr (.str name :: vs) => ofBody? name (.arr vs)
  | _ => none

end Record

end Guidebook
