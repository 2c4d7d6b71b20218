import Guidebook.Guide.Json
import Guidebook.Json.Printer
import Guidebook.Json.Reader
import Guidebook.Path
import Guidebook.Text.Utf8

namespace Guidebook

/-- What a program carries that walks through a guide. The identity gives its state a directory of
its own. -/
structure Payload where
  format : Nat
  identity : Text
  generator : Text
  guide : Guide
  deriving DecidableEq, Repr

namespace Payload

/-- The one format that programs read. -/
def formatRead : Nat := 1

def formatBound : Nat := 0x100000000

def version : Text := "0.1.0".toList

def make (identity : Text) (g : Guide) : Payload := ⟨formatRead, identity, version, g⟩

def fieldNames : List Text :=
  ["format".toList, "identity".toList, "generator".toList, "runbook".toList]

def ofSlots? : List Json.Slot → Option Payload
  | [f, i, v, g] => do
    some ⟨← f.required (Json.natBelow? formatBound), ← i.required Json.str?, ← v.required Json.str?,
      ← g.required Guide.ofJson?⟩
  | _ => none

def ofJson? (v : Json) : Option Payload := do ofSlots? (← v.slots fieldNames)

def toJson (p : Payload) : Json :=
  .obj [("format".toList, .nat p.format), ("identity".toList, .str p.identity),
    ("generator".toList, .str p.generator), ("runbook".toList, p.guide.toJson)]

def encode (p : Payload) : Bytes := Utf8.encode p.toJson.render

/-- Why what a program carries cannot be walked through. -/
inductive Defect where
  | corrupt
  | truncated
  | format (n : Nat)
  deriving DecidableEq, Repr

def Defect.message : Defect → Text
  | .corrupt => "Embedded walkthrough is corrupt".toList
  | .truncated => "Embedded walkthrough is truncated".toList
  | .format n => "Embedded walkthrough uses format ".toList ++ Text.ofNat n ++
      " but this program reads format ".toList ++ Text.ofNat formatRead

def decode (bs : Bytes) : Except Defect Payload :=
  match (Json.readBytes bs).bind ofJson? with
  | none => .error .corrupt
  | some p => if p.format = formatRead then .ok p else .error (.format p.format)

/-- The identity of a program that stands alone. -/
def usualIdentity : Text := "walkthrough".toList

/-- The identity of a file: its name without the extension. -/
def identityOf (path : Text) : Text :=
  ((Path.fileStem? path).filter (!·.isEmpty)).getD usualIdentity

end Payload

end Guidebook
