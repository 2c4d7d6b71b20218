import Guidebook.Text.Digit

namespace Guidebook

/-- How a table came to be: under its own header, as the way to a header below it, as the way to a
dotted key, or between braces. It decides what may still be added to it. -/
inductive TableSort where
  | named
  | implied
  | dotted
  | closed
  deriving DecidableEq, Repr

/-- A TOML value. Of a decimal number and of a date only the sort is kept. -/
inductive Toml where
  | str (t : Text)
  | int (i : Int)
  | bool (b : Bool)
  | float
  | date
  | arr (items : List Toml)
  | table (sort : TableSort) (members : List (Text × Toml))
  | tables (all : List (List (Text × Toml)))

abbrev Toml.Members := List (Text × Toml)

namespace Toml

def set (ms : Members) (k : Text) (v : Toml) : Members :=
  match ms with
  | [] => [(k, v)]
  | m :: ms => if m.1 = k then (k, v) :: ms else m :: set ms k v

/-- Changes the table that a path leads to. Tables on the way that are missing are made. A path of a
dotted key does not lead into a table with a header of its own, no path leads into one between
braces, and of several tables under one name it takes the last. -/
def within (dotted : Bool) (f : TableSort → Members → Option Members) :
    List Text → TableSort → Members → Option Members
  | [], s, ms => f s ms
  | k :: ks, _, ms =>
    match ms.lookup k with
    | none => do
      let s := if dotted then .dotted else .implied
      return set ms k (.table s (← within dotted f ks s []))
    | some (.table s inner) =>
      if s = .closed ∨ dotted ∧ s = .named then none
      else do return set ms k (.table s (← within dotted f ks s inner))
    | some (.tables all) => do
      let last := all.getLast?.getD []
      return set ms k (.tables (all.dropLast ++ [← within dotted f ks .named last]))
    | some _ => none

/-- Adds a value under a key that is new in its table. A key without dots adds to the table itself,
one with dots only to tables that dotted keys have made. -/
def insert (path : List Text) (k : Text) (v : Toml) (ms : Members) : Option Members :=
  within true (fun s ms =>
    if (s == .dotted) = path.isEmpty ∨ (ms.lookup k).isSome then none else some (set ms k v))
    path .named ms

/-- Adds all of these values, one after the other. -/
def insertAll : List (List Text × Text × Toml) → Members → Option Members
  | [], ms => some ms
  | (path, k, v) :: rest, ms => do insertAll rest (← insert path k v ms)

end Toml

end Guidebook
