import Guidebook.Record.Basic

namespace Guidebook

inductive Status where
  | todo
  | done
  deriving DecidableEq, Repr

/-- A step and the slice of the guide's suggestions that belongs to it. -/
structure Step where
  title : Text
  description : Option Text
  status : Status
  start : Nat
  len : Nat
  deriving DecidableEq, Repr

/-- The steps of a walkthrough and the suggestions of all of them. Steps are numbered from one. -/
structure Guide where
  steps : List Step
  suggestions : List Suggestion
  deriving DecidableEq, Repr

/-- What no list of records of a guide does. -/
inductive Malformed where
  | neverClosed (title : Text)
  | descriptionOutside
  | suggestionOutside
  | endOutside
  deriving DecidableEq, Repr

inductive BuildError where
  | noSteps
  | malformed (m : Malformed)
  deriving DecidableEq, Repr

def Malformed.message : Malformed → Text
  | .neverClosed title => "step '".toList ++ title ++ "' was never closed".toList
  | .descriptionOutside => "description outside of a step".toList
  | .suggestionOutside => "suggestion outside of a step".toList
  | .endOutside => "end of step outside of a step".toList

def BuildError.message : BuildError → Text
  | .noSteps => "No steps found".toList
  | .malformed m => "Malformed record stream: ".toList ++ m.message

namespace Step

def isDone (s : Step) : Bool := s.status == .done

end Step

namespace Guide

def stepCount (g : Guide) : Nat := g.steps.length

def step? (g : Guide) : Nat → Option Step
  | 0 => none
  | i + 1 => g.steps[i]?

/-- The suggestions of a step; none for a number without a step. -/
def suggestionsOf (g : Guide) (i : Nat) : List Suggestion :=
  match g.step? i with
  | none => []
  | some s => (g.suggestions.drop s.start).take s.len

def markDone (g : Guide) : Nat → Guide
  | 0 => g
  | i + 1 => { g with steps := g.steps.modify i fun s => { s with status := .done } }

/-- The numbers of the steps that are not done. -/
def pending (g : Guide) : List Nat :=
  (g.steps.zipIdx.filter fun (s, _) => !s.isDone).map fun (_, i) => i + 1

/-- Adds a record to the guide so far and the step that is open. -/
def add (g : Guide) : Option Step → Record → Except BuildError (Guide × Option Step)
  | some s, .step _ => .error (.malformed (.neverClosed s.title))
  | none, .step t => .ok (g, some ⟨t, none, .todo, g.suggestions.length, 0⟩)
  | none, .description _ => .error (.malformed .descriptionOutside)
  | some s, .description t => .ok (g, some { s with description := some t })
  | none, .suggestion _ => .error (.malformed .suggestionOutside)
  | some s, .suggestion x =>
    .ok ({ g with suggestions := g.suggestions ++ [x] }, some { s with len := s.len + 1 })
  | none, .endOfStep => .error (.malformed .endOutside)
  | some s, .endOfStep => .ok ({ g with steps := g.steps ++ [s] }, none)

def addAll (g : Guide) : Option Step → List Record → Except BuildError (Guide × Option Step)
  | o, [] => .ok (g, o)
  | o, r :: rs =>
    match g.add o r with
    | .error e => .error e
    | .ok (g, o) => addAll g o rs

/-- The guide that a list of records describes. -/
def ofRecords (rs : List Record) : Except BuildError Guide :=
  match addAll ⟨[], []⟩ none rs with
  | .error e => .error e
  | .ok (_, some s) => .error (.malformed (.neverClosed s.title))
  | .ok (g, none) => if g.steps.isEmpty then .error .noSteps else .ok g

end Guide

end Guidebook
