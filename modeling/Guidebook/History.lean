import Guidebook.FileTree.Basic
import Guidebook.Json.Printer
import Guidebook.Json.Reader
import Guidebook.Json.Shape

namespace Guidebook

/-- A command that was run, the step it was run from, and the second it was recorded in. -/
structure HistoryEntry where
  command : Text
  step : Option Nat
  recordedAt : Int
  deriving DecidableEq, Repr

namespace HistoryEntry

def fieldNames : List Text := ["command".toList, "step".toList, "recorded_at".toList]

def stepOfJson? : Json → Option (Option Nat)
  | .null => some none
  | v => (v.natBelow? Text.numberBound).map some

def ofSlots? : List Json.Slot → Option HistoryEntry
  | [c, s, r] => do
    some ⟨← c.required Json.str?, ← s.orNone stepOfJson?, ← r.required Json.int64?⟩
  | _ => none

def ofJson? (v : Json) : Option HistoryEntry := do ofSlots? (← v.slots fieldNames)

def stepJson : Option Nat → Json
  | none => .null
  | some n => .nat n

def toJson (e : HistoryEntry) : Json :=
  .obj [("command".toList, .str e.command), ("step".toList, stepJson e.step),
    ("recorded_at".toList, .int e.recordedAt)]

end HistoryEntry

/-- What a history file holds: entries, oldest first, and a version that is kept as it is. -/
structure Log where
  entries : List HistoryEntry
  version : Nat
  deriving DecidableEq, Repr

namespace Log

def empty : Log := ⟨[], 0⟩

def versionBound : Nat := 0x100000000

def fieldNames : List Text := ["entries".toList, "version".toList]

def ofSlots? : List Json.Slot → Option Log
  | [e, v] => do
    some ⟨← e.required fun j => do (← j.arr?).mapM HistoryEntry.ofJson?,
      ← v.orElse (Json.natBelow? versionBound) 0⟩
  | _ => none

def ofJson? (v : Json) : Option Log := do ofSlots? (← v.slots fieldNames)

def toJson (l : Log) : Json :=
  .obj [("entries".toList, .arr (l.entries.map HistoryEntry.toJson)),
    ("version".toList, .nat l.version)]

/-- The newest entries, `n` of them or all if there are no more. -/
def newest (n : Nat) (l : Log) : Log := { l with entries := l.entries.drop (l.entries.length - n) }

end Log

/-- The log of the commands that were run, the file it is kept in, and how many entries it has at
most. -/
structure History where
  path : Text
  log : Log
  limit : Nat
  deriving DecidableEq, Repr

namespace History

/-- The log in a file. A missing file holds the empty one; a file without a log holds none. -/
def load? (t : FileTree) (path : Text) : Option Log :=
  if t.existsAt path then
    match t.readText path with
    | .error _ => none
    | .ok s => do Log.ofJson? (← Json.read s)
  else some .empty

/-- Where a file is moved that holds no log. -/
def backup (path : Text) : Text := Path.withFileName path ((Path.fileName? path).getD [] ++ ".bak".toList)

/-- Opens the history in a file. If there is something else in the file, it is moved out of the way
of the next save. -/
def openAt (path : Text) (max : Nat) (t : FileTree) : History × FileTree :=
  let limit := Nat.max max 1
  match load? t path with
  | some l => (⟨path, l.newest limit, limit⟩, t)
  | none => (⟨path, .empty, limit⟩, (t.rename path (backup path)).toOption.getD t)

def record (h : History) (e : HistoryEntry) : History :=
  { h with log := { h.log with entries := h.log.entries ++ [e] }.newest h.limit }

def save (h : History) (t : FileTree) : FileTree × Except IoFault Unit :=
  let content := Utf8.encode h.log.toJson.pretty
  let made : FileTree × Except IoFault Unit := match Path.parent? h.path with
    | none => (t, .ok ())
    | some p => t.makePath p
  match made with
  | (t, .error e) => (t, .error e)
  | (t, .ok ()) =>
    match t.write h.path content with
    | .error e => (t, .error e)
    | .ok t => (t, .ok ())

def entries (h : History) : List HistoryEntry := h.log.entries

def commands (h : History) : List Text := h.entries.map (·.command)

end History

end Guidebook
