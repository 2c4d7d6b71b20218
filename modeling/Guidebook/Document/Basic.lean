import Guidebook.Document.Entry
import Guidebook.FileTree.Basic
import Guidebook.Guide.Basic

namespace Guidebook.Document

/-- What ends a step: its description unless that is empty, and the end mark. -/
def closing : Option Text → List Record
  | none => []
  | some [] => [.endOfStep]
  | some d => [.description d, .endOfStep]

/-- Suggestions count only inside of a step. -/
def within (step : Option Text) (xs : List Suggestion) : List Record :=
  match step with
  | none => []
  | some _ => xs.map .suggestion

def oneLine (t : Text) : Text := [' '].intercalate (Text.lines t)

/-- The keys that mean something to a document. -/
inductive Keyword where
  | step
  | description
  | list
  | single
  deriving DecidableEq, Repr

def Keyword.ofKey? (k : Text) : Option Keyword :=
  if k = "step".toList then some .step
  else if k = "desc".toList then some .description
  else if k = "suggestions".toList then some .list
  else if k = "suggestion".toList then some .single
  else none

/-- The records of the lines at a cursor; `step` is the description, so far, of the step that is
open. Lines that mean nothing are passed over, an unknown key with the block it announces. -/
def recordsFrom (step : Option Text) (c : Cursor) : List Record :=
  match _ : c.take? with
  | none => closing step
  | some (l, d) =>
    if Text.allBlank l || isComment l then recordsFrom step d
    else if isSeparator l then closing step ++ recordsFrom none d
    else match Field.ofText? (Text.trimStart l) with
      | none => recordsFrom step d
      | some f =>
        match Keyword.ofKey? f.key with
        | some .step =>
          let v := readValue (indent l) f.value d
          closing step ++ .step (oneLine v.1) :: recordsFrom (some []) v.2
        | some .description =>
          let v := readValue (indent l) f.value d
          recordsFrom (step.map fun _ => v.1) v.2
        | some .list =>
          let r := readEntries (indent l) none d
          within step r.1 ++ recordsFrom step r.2
        | some .single =>
          let r := readOnly (indent l) .empty false d
          within step (r.1.toList.map Draft.suggestion) ++ recordsFrom step r.2
        | none =>
          match Chomp.ofValue? f.value with
          | some m => recordsFrom step (readBlock m (indent l) d).2
          | none => recordsFrom step d
termination_by c.upcoming.length
decreasing_by
  all_goals have := Cursor.length_take? ‹_›
  · exact this
  · exact this
  · exact this
  · exact Nat.lt_of_le_of_lt (length_readValue ..) this
  · exact Nat.lt_of_le_of_lt (length_readValue ..) this
  · exact Nat.lt_of_le_of_lt (length_readEntries ..) this
  · exact Nat.lt_of_le_of_lt (length_readOnly ..) this
  · exact Nat.lt_of_le_of_lt (length_readBlock ..) this
  · exact this

def recordsOf (t : Text) : List Record := recordsFrom none (.ofText t)

/-- The records of a document that has a step. -/
def read (t : Text) : Except BuildError (List Record) :=
  let rs := recordsOf t
  if rs.any Record.isStep then .ok rs else .error .noSteps

def compile (t : Text) : Except BuildError Guide := do Guide.ofRecords (← read t)

/-- Why there is no guide to be had from a file or from an interview. -/
inductive Failure where
  | build (e : BuildError)
  | unreadable (path : Text) (e : IoFault)
  | notInteractive
  | broken (e : IoFault)
  deriving DecidableEq, Repr

def Failure.fault : Failure → Fault
  | .build e => ⟨e.message, []⟩
  | .unreadable p e =>
    ⟨"Cannot read specification '".toList ++ p ++ "': ".toList ++ e.message, [e.message]⟩
  | .notInteractive => ⟨"The wizard requires an interactive terminal".toList, []⟩
  | .broken e => ⟨"IO error: ".toList ++ e.message, [e.message]⟩

def ofFile (t : FileTree) (p : Text) : Except Failure (List Record) :=
  match t.readText p with
  | .error e => .error (.unreadable p e)
  | .ok s => (read s).mapError .build

end Guidebook.Document
