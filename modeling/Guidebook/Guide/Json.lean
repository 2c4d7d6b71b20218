import Guidebook.Guide.Basic
import Guidebook.Record.Json

namespace Guidebook

namespace Status

def label : Status → Text
  | .todo => "todo".toList
  | .done => "done".toList

def toJson (s : Status) : Json := .str s.label

def ofJson? (v : Json) : Option Status := do
  let name ← v.constant?
  if name = todo.label then some .todo
  else if name = done.label then some .done
  else none

end Status

namespace Step

def fieldNames : List Text :=
  ["title".toList, "description".toList, "status".toList, "start".toList, "len".toList]

def ofSlots? : List Json.Slot → Option Step
  | [t, d, s, a, n] => do
    some ⟨← t.required Json.str?, ← d.orNone Json.optStr?, ← s.orElse Status.ofJson? .todo,
      ← a.required (Json.natBelow? Text.numberBound), ← n.required (Json.natBelow? Text.numberBound)⟩
  | _ => none

def ofJson? (v : Json) : Option Step := do ofSlots? (← v.slots fieldNames)

def toJson (s : Step) : Json :=
  .obj [("title".toList, .str s.title), ("description".toList, .opt s.description),
    ("status".toList, s.status.toJson), ("start".toList, .nat s.start), ("len".toList, .nat s.len)]

end Step

namespace Guide

def fieldNames : List Text := ["steps".toList, "suggestions".toList]

def ofSlots? : List Json.Slot → Option Guide
  | [s, x] => do
    some ⟨← s.required fun v => do (← v.arr?).mapM Step.ofJson?,
      ← x.required fun v => do (← v.arr?).mapM Suggestion.ofJson?⟩
  | _ => none

def ofJson? (v : Json) : Option Guide := do ofSlots? (← v.slots fieldNames)

def toJson (g : Guide) : Json :=
  .obj [("steps".toList, .arr (g.steps.map Step.toJson)),
    ("suggestions".toList, .arr (g.suggestions.map Suggestion.toJson))]

end Guide

end Guidebook
