import Guidebook.Record.Basic

namespace Guidebook

/-- What may stand between the two marks of a step. -/
inductive Part where
  | description (text : Text)
  | suggestion (s : Suggestion)
  deriving DecidableEq, Repr

namespace Part

def record : Part → Record
  | .description t => .description t
  | .suggestion s => .suggestion s

def description? : Part → Option Text
  | .description t => some t
  | .suggestion _ => none

def suggestion? : Part → Option Suggestion
  | .description _ => none
  | .suggestion s => some s

end Part

/-- A step of a stream of records: its title and what stands between its two marks, in any order. -/
structure Group where
  title : Text
  parts : List Part
  deriving DecidableEq, Repr

namespace Group

def records (x : Group) : List Record := .step x.title :: (x.parts.map Part.record ++ [.endOfStep])

def suggestions (x : Group) : List Suggestion := x.parts.filterMap Part.suggestion?

/-- Of several descriptions the last one counts. -/
def description (x : Group) : Option Text := (x.parts.filterMap Part.description?).getLast?

end Group

/-- The lists of records that make a guide: one step after the other, at least one. -/
def IsStream (rs : List Record) : Prop := ∃ xs : List Group, xs ≠ [] ∧ rs = xs.flatMap Group.records

/-- A step as documents and interviews give it: at most one description, and that at its end. -/
structure Section where
  title : Text
  suggestions : List Suggestion
  description : Option Text
  deriving DecidableEq, Repr

namespace Section

def parts (x : Section) : List Part :=
  x.suggestions.map .suggestion ++ x.description.toList.map .description

def toGroup (x : Section) : Group := ⟨x.title, x.parts⟩

def records (x : Section) : List Record := x.toGroup.records

end Section

/-- What a guide can tell of a group. -/
def Group.toSection (x : Group) : Section := ⟨x.title, x.suggestions, x.description⟩

namespace Record

def title? : Record → Option Text
  | .step t => some t
  | _ => none

def suggestion? : Record → Option Suggestion
  | .suggestion s => some s
  | _ => none

end Record

namespace Part

theorem titles_record (ps : List Part) : (ps.map record).filterMap Record.title? = [] := by
  induction ps with
  | nil => rfl
  | cons p ps ih => cases p <;> exact ih

theorem suggestions_record (ps : List Part) :
    (ps.map record).filterMap Record.suggestion? = ps.filterMap suggestion? := by
  induction ps with
  | nil => rfl
  | cons p ps ih =>
    cases p with
    | description t => exact ih
    | suggestion s => exact congrArg (s :: ·) ih

theorem isStep_record (ps : List Part) : (ps.map record).filter Record.isStep = [] := by
  induction ps with
  | nil => rfl
  | cons p ps ih => cases p <;> exact ih

end Part

namespace Group

theorem titles_records (xs : List Group) :
    (xs.flatMap records).filterMap Record.title? = xs.map title := by
  induction xs with
  | nil => rfl
  | cons x xs ih =>
    have hx : x.records.filterMap Record.title? = [x.title] := by
      simp only [records, List.filterMap_cons, Record.title?, List.filterMap_append,
        Part.titles_record, List.filterMap_nil, List.nil_append]
    rw [List.flatMap_cons, List.filterMap_append, hx, ih, List.map_cons, List.singleton_append]

theorem suggestions_records (xs : List Group) :
    (xs.flatMap records).filterMap Record.suggestion? = xs.flatMap suggestions := by
  induction xs with
  | nil => rfl
  | cons x xs ih =>
    have hx : x.records.filterMap Record.suggestion? = x.suggestions := by
      simp only [records, List.filterMap_cons, Record.suggestion?, List.filterMap_append,
        Part.suggestions_record, List.filterMap_nil, List.append_nil, suggestions]
    rw [List.flatMap_cons, List.filterMap_append, hx, ih, List.flatMap_cons]

theorem isStep_records (xs : List Group) :
    (xs.flatMap records).filter Record.isStep = xs.map fun x => .step x.title := by
  induction xs with
  | nil => rfl
  | cons x xs ih =>
    have hx : x.records.filter Record.isStep = [.step x.title] := by
      simp only [records, List.filter_cons, Record.isStep, List.filter_append,
        Part.isStep_record, List.filter_nil, List.nil_append, ↓reduceIte, Bool.false_eq_true]
    rw [List.flatMap_cons, List.filter_append, hx, ih, List.map_cons, List.singleton_append]

end Group

namespace Section

theorem suggestions_toGroup (x : Section) : x.toGroup.suggestions = x.suggestions := by
  cases h : x.description <;>
    simp [toGroup, parts, Group.suggestions, Function.comp_def, Part.suggestion?, h]

theorem description_toGroup (x : Section) : x.toGroup.description = x.description := by
  cases h : x.description <;>
    simp [toGroup, parts, Group.description, Function.comp_def, Part.description?, h]

theorem toSection_toGroup (x : Section) : x.toGroup.toSection = x := by
  rw [Group.toSection, suggestions_toGroup, description_toGroup, toGroup]

theorem flatMap_toGroup (xs : List Section) :
    (xs.map toGroup).flatMap Group.records = xs.flatMap records := List.flatMap_map ..

end Section

end Guidebook
