import Guidebook.Shell.Expansion
import Guidebook.Shell.FileTool
import Guidebook.Shell.Row.Rules

namespace Guidebook.Shell.Row

/-- What a name stands for: nothing yet, a table if it turns out to be one, a value, or a table. Tables are known by
numbers. -/
inductive Slot where
  | unset
  | perhaps (table : Nat)
  | value (v : Value)
  | table (n : Nat)

/-- A script at work: the shell, what has been written, the latest first, and what is held back of it; what names
stand for, those of the function at work first, and the tables; the row and its fields; what is left of the file
that rows come from, which argument is the next one, and whether an argument has been a file. Then the files and the
commands that are being read, the files that are being written, the commands that are being written to, which ranges
of rows are open, the number that chance starts from, and the status. -/
structure Scan where
  machine : Machine
  said : List Printed
  held : List Bytes
  globals : List (Text × Slot)
  locals : List (Text × Slot)
  tables : List (Nat × Table)
  fresh : Nat
  row : Value
  fields : List Value
  rest : Option Text
  next : Nat
  named : Bool
  files : List (Text × Text)
  commands : List (Text × Text × Nat)
  written : List Text
  pipes : List (Text × List Bytes)
  opened : List Nat
  seed : Value
  chance : Nat
  status : Nat

/-- Why something is not gone on with. -/
inductive Stop where
  | leave
  | again
  | next
  | nextFile
  | exit
  | give (v : Value)
  | broken (why : Text)

/-- What a script does. -/
abbrev Act (α : Type) := ExceptT Stop (StateM Scan) α

namespace Scan

def slot (s : Scan) (name : Text) : Slot :=
  match s.locals.lookup name with
  | some x => x
  | none => (s.globals.lookup name).getD .unset

def placed (ns : List (Text × Slot)) (name : Text) (x : Slot) : List (Text × Slot) :=
  (name, x) :: ns.filter (·.1 ≠ name)

def withSlot (s : Scan) (name : Text) (x : Slot) : Scan :=
  if s.locals.any (·.1 = name) then { s with locals := placed s.locals name x }
  else { s with globals := placed s.globals name x }

def global (s : Scan) (name : String) : Value :=
  match s.globals.lookup name.toList with
  | some (.value v) => v
  | _ => .unset

def withGlobal (s : Scan) (name : String) (v : Value) : Scan :=
  { s with globals := placed s.globals name.toList (.value v) }

def table (s : Scan) (n : Nat) : Table := (s.tables.lookup n).getD .empty

def withTable (s : Scan) (n : Nat) (t : Table) : Scan :=
  { s with tables := (n, t) :: s.tables.filter (·.1 ≠ n) }

/-- How numbers become texts, and how they are printed. -/
def converted (s : Scan) : Float → Text := byFormat ((s.global "CONVFMT").toText (byFormat "%.6g".toList))

def printed (s : Scan) : Float → Text := byFormat ((s.global "OFMT").toText (byFormat "%.6g".toList))

def text (s : Scan) (v : Value) : Text := v.toText s.converted

def globalText (s : Scan) (name : String) : Text := s.text (s.global name)

def nonempty? (p : Pattern) : Option Char → Text → Option (Nat × Nat)
  | _, [] => none
  | b, c :: cs =>
    match (p.here? false b (c :: cs)).filter (0 < ·.taken) with
    | some m => some (0, m.taken)
    | none => (nonempty? p (some c) cs).map fun r => (r.1 + 1, r.2)

/-- The pieces of a text between those that a pattern fits. -/
def between (p : Pattern) : Nat → Option Char → Text → List Text
  | 0, _, t => [t]
  | n + 1, b, t =>
    match nonempty? p b t with
    | none => [t]
    | some (i, k) =>
      let front := t.take (i + k)
      t.take i :: between p n (front.getLast?.orElse fun _ => b) (t.drop (i + k))

/-- The words of a text. -/
def words : Nat → Text → List Text
  | 0, _ => []
  | n + 1, t =>
    let t := t.dropWhile isGap
    let w := t.takeWhile (!isGap ·)
    if w.isEmpty then [] else w :: words n (t.drop w.length)

/-- The pieces of a text with separators of some kind. -/
def pieces (separator t : Text) : List Text :=
  if t.isEmpty then []
  else match separator with
  | [' '] => words (t.length + 1) t
  | [] => t.map ([·])
  | [c] => Text.pieces (· == c) t
  | f => between (patternOf f) t.length none t

def split (s : Scan) (t : Text) : List Value :=
  (pieces (s.globalText "FS") t).map .given

/-- Takes a value for the row. -/
def withRow (s : Scan) (v : Value) : Scan :=
  let t := s.text v
  { s with row := .given t, fields := s.split t }

/-- Makes the row of its fields. -/
def rebuilt (s : Scan) (fields : List Value) : Scan :=
  { s with fields := fields, row := .given ((s.globalText "OFS").intercalate (fields.map s.text)) }

def field (s : Scan) (n : Nat) : Value :=
  match n with
  | 0 => s.row
  | n + 1 => (s.fields[n]?).getD .unset

def withField (s : Scan) (n : Nat) (v : Value) : Scan :=
  match n with
  | 0 => s.withRow v
  | n + 1 =>
    let fields := s.fields ++ List.replicate (n + 1 - s.fields.length) (.text [])
    s.rebuilt (fields.set n v)

def withCount (s : Scan) (n : Nat) : Scan :=
  s.rebuilt (s.fields.take n ++ List.replicate (n - s.fields.length) (.text []))

/-- The first row of a text with separators of some kind, and what follows it. -/
def cut (separator t : Text) : Text × Text :=
  match separator with
  | [] =>
    let t := t.dropWhile (· = '\n')
    let (i, k) := ((nonempty? (.many (.one (.char '\n')) 2 none) none t)).getD (t.length, 0)
    let row := t.take i
    (if k = 0 && row.getLast? = some '\n' then row.dropLast else row, t.drop (i + k))
  | [c] =>
    let row := t.takeWhile (· ≠ c)
    (row, t.drop (row.length + 1))
  | f =>
    match nonempty? (patternOf f) none t with
    | none => (t, [])
    | some (i, k) => (t.take i, t.drop (i + k))

/-- The first row of a text if there is one. -/
def cut? (separator t : Text) : Option (Text × Text) :=
  let t := if separator.isEmpty then t.dropWhile (· = '\n') else t
  if t.isEmpty then none else some (cut separator t)

/-- What has been held back is written. -/
def flushed (s : Scan) : Scan :=
  let b := s.held.reverse.flatten
  if b.isEmpty then s else { s with said := [(.out, b)] :: s.said, held := [] }

def say (s : Scan) (p : Printed) : Scan := if p.isEmpty then s else { s with said := p :: s.said }

/-- Runs a command with something to read. -/
def run (read : Reader) (command : Text) (m : Machine) : Ran :=
  match read.start "/bin/sh".toList ["-c".toList, command] m with
  | .ok r => r
  | .error _ => m.ends 127

/-- The number by which the end of a command is known. -/
def ending (f : Finish) : Nat := f.code

/-- A command that has been written to gets what has been written. -/
def closePipe (read : Reader) (s : Scan) (command : Text) : Scan × Nat :=
  let given := ((s.pipes.lookup command).getD []).reverse.flatten
  let r := run read command { s.machine with input := given }
  (({ s with
      machine := { r.machine with input := s.machine.input }
      pipes := s.pipes.filter (·.1 ≠ command) }).say r.printed, ending r.finish)

def assigned (s : Scan) (name t : Text) : Scan :=
  let v := Value.given (Word.unescape t.length t)
  if name = "NF".toList then s.withCount (Real.toInt v.toNumber).toNat
  else { s with globals := placed s.globals name (.value v) }

/-- A name and a value in one word. -/
def assignment? (t : Text) : Option (Text × Text) :=
  match Text.cut? '=' t with
  | some (n, v) =>
    if !n.isEmpty && n.all Word.isNameSign && !(n.head?.map Char.isDigit).getD true then some (n, v) else none
  | none => none

/-- Lets the next file be read, if there is one. The input is read if no file is named. -/
def opening (s : Scan) : Nat → Except Text (Scan × Bool)
  | 0 => .ok (s, false)
  | n + 1 =>
    let fromInput := fun (s : Scan) =>
      { s with
        named := true, rest := some (Octet.decode s.machine.input), machine := { s.machine with input := [] } }
    if s.next < (Real.toInt (s.global "ARGC").toNumber).toNat then
      let list := match s.globals.lookup "ARGV".toList with
        | some (.table k) => s.table k
        | _ => .empty
      let t := s.text ((list.value? (Text.ofNat s.next)).getD .unset)
      let s := { s with next := s.next + 1 }
      if t.isEmpty then opening s n
      else match assignment? t with
        | some (k, v) => opening (s.assigned k v) n
        | none =>
          let s := ({ s with named := true }.withGlobal "FILENAME" (.text t)).withGlobal "FNR" (Value.ofNat 0)
          if t = ['-'] || t = "/dev/stdin".toList then .ok (fromInput s, true)
          else match s.machine.tree.read t with
            | .ok b => .ok ({ s with rest := some (Octet.decode b) }, true)
            | .error .isDirectory => .error "read error (Is a directory)".toList
            | .error e => .error ("cannot open \"".toList ++ t ++ "\" (".toList ++ FileTool.reason e ++ [')'])
    else if s.named then .ok (s, false)
    else .ok (fromInput (s.withGlobal "FILENAME" (.text ['-'])), true)

/-- The next row of all that is read. -/
def nextRow (s : Scan) : Nat → Except Text (Scan × Option Text)
  | 0 => .ok (s, none)
  | n + 1 =>
    match s.rest.bind (cut? (s.globalText "RS")) with
    | some (row, rest) => .ok ({ s with rest := some rest }, some row)
    | none =>
      match s.opening (n + 1) with
      | .error why => .error why
      | .ok (t, false) => .ok ({ t with rest := none }, none)
      | .ok (t, true) => nextRow t n

/-- How many times it makes sense to look for another file. -/
def patience (s : Scan) : Nat := (Real.toInt (s.global "ARGC").toNumber).toNat + 2

def counted (s : Scan) (name : String) : Scan :=
  s.withGlobal name (.number ((s.global name).toNumber + 1.0))

end Scan

end Guidebook.Shell.Row
