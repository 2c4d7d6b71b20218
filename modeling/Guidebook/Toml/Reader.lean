import Guidebook.Toml.Lexeme

namespace Guidebook.Toml

/-- The path to the table of a dotted key, and the key in it. -/
def splitKey (ks : List Text) : Option (List Text × Text) := do
  return (ks.dropLast, ← ks.getLast?)

/-- Items between commas up to a bracket; a comma may stand before the bracket, too. -/
def items (value : Parser Toml) : Nat → Text → Option (List Toml × Text)
  | 0, _ => none
  | n + 1, t =>
    match skipGap false t with
    | ']' :: r => some ([], r)
    | t => do
      let (v, r) ← value t
      match skipGap false r with
      | ']' :: r => return ([v], r)
      | ',' :: r => do
        let (vs, r) ← items value n r
        return (v :: vs, r)
      | _ => none

/-- A key, an equals sign and a value. -/
def pair? (value : Parser Toml) (t : Text) : Option ((List Text × Text × Toml) × Text) := do
  let (ks, r) ← key? depthLimit t
  let (path, k) ← splitKey ks
  let (v, r) ← value (skipSpace (← expect '=' r))
  return ((path, k, v), r)

/-- Pairs between commas up to a brace, all of them on one line. -/
def pairs (value : Parser Toml) : Nat → Text → Option (List (List Text × Text × Toml) × Text)
  | 0, _ => none
  | n + 1, t => do
    let (p, r) ← pair? value t
    match skipSpace r with
    | '\x7d' :: r => return ([p], r)
    | ',' :: r => do
      let (ps, r) ← pairs value n r
      return (p :: ps, r)
    | _ => none

def inline? (value : Parser Toml) (t : Text) : Option (Toml × Text) :=
  match skipSpace t with
  | '\x7d' :: r => some (.table .closed [], r)
  | t => do
    let (ps, r) ← pairs value t.length t
    return (.table .closed (← insertAll ps []), r)

def word? (t : Text) : Option (Toml × Text) :=
  if "true".toList.isPrefixOf t then some (.bool true, t.drop 4)
  else if "false".toList.isPrefixOf t then some (.bool false, t.drop 5)
  else none

/-- A date or a number. There is no number that is too large for 64 bits. -/
def number? (t : Text) : Option (Toml × Text) :=
  match date? t, float? t, special? t, integer? t with
  | some r, _, _, _ => some (.date, r)
  | none, some (d, r), _, _ => if d.isInfinite then none else some (.float, r)
  | none, none, some r, _ => some (.float, r)
  | none, none, none, some (i, r) => some (.int i, r)
  | none, none, none, none => none

def scalar (t : Text) : Option (Toml × Text) :=
  match string? t with
  | some (s, r) => some (.str s, r)
  | none => if t.head? = some '"' ∨ t.head? = some '\'' then none else word? t <|> number? t

/-- A value that is nested no deeper than `n`. -/
def value : Nat → Parser Toml
  | 0, t => scalar t
  | n + 1, t =>
    match t with
    | '[' :: r => (items (value n) (r.length + 1) r).map fun (vs, r) => (.arr vs, r)
    | '\x7b' :: r => inline? (value n) r
    | t => scalar t

/-- What one line says. -/
inductive Statement where
  | nothing
  | pair (path : List Text) (key : Text) (v : Toml)
  | header (path : List Text) (key : Text)
  | listHeader (path : List Text) (key : Text)

def headerEnd (make : List Text → Text → Statement) (close : Text → Option Text) (t : Text) :
    Option (Statement × Text) := do
  let (ks, r) ← key? depthLimit t
  let (path, k) ← splitKey ks
  return (make path k, ← close r)

/-- What the line that a text starts with says, and what follows the line. -/
def statement (t : Text) : Option (Statement × Text) := do
  let t := skipSpace t
  let (s, r) ← match t with
    | [] => some (.nothing, t)
    | '#' :: _ => some (.nothing, t)
    | '\n' :: _ => some (.nothing, t)
    | '\r' :: _ => some (.nothing, t)
    | '[' :: '[' :: r => headerEnd .listHeader (fun r => do expect ']' (← expect ']' r)) r
    | '[' :: r => headerEnd .header (expect ']') r
    | t => (pair? (value depthLimit) t).map fun ((path, k, v), r) => (.pair path k v, r)
  return (s, ← endLine? r)

def statements : Nat → Text → Option (List Statement)
  | 0, _ => none
  | _, [] => some []
  | n + 1, t => do
    let (s, r) ← statement t
    return s :: (← statements n r)

/-- A document that is being put together: what is complete, and the table that lines go into. -/
structure Assembly where
  root : Members
  table : Members
  path : List Text
  key : Option Text
  isList : Bool

namespace Assembly

def start : Assembly := ⟨[], [], [], none, false⟩

def place (a : Assembly) (k : Text) (_ : TableSort) (ms : Members) : Option Members :=
  if a.isList then
    match ms.lookup k with
    | none => some (set ms k (.tables [a.table]))
    | some (.tables all) => some (set ms k (.tables (all ++ [a.table])))
    | some _ => none
  else some (set ms k (.table .named a.table))

/-- Puts the table that lines went into where its header says. -/
def close (a : Assembly) : Option Members :=
  match a.key with
  | none => some a.table
  | some k => within false (a.place k) a.path .named a.root

/-- What a table has before its header: what headers below it have added. A table with a header
gets no second one. -/
def found? (k : Text) (ms : Members) : Option Members :=
  match ms.lookup k with
  | none => some []
  | some (.table .implied inner) => some inner
  | some _ => none

def mayList (k : Text) (ms : Members) : Bool :=
  match ms.lookup k with
  | none => true
  | some (.tables _) => true
  | some _ => false

/-- The table that a path leads to, together with the document after the way to it was made. -/
def reach (path : List Text) (root : Members) : Option (Members × Members) := do
  let root ← within false (fun _ ms => some ms) path .named root
  return (root, ← go path root)
where
  go : List Text → Members → Option Members
    | [], ms => some ms
    | k :: ks, ms =>
      match ms.lookup k with
      | some (.table _ inner) => go ks inner
      | some (.tables all) => go ks (all.getLast?.getD [])
      | _ => none

def add (a : Assembly) : Statement → Option Assembly
  | .nothing => some a
  | .pair path k v => do return { a with table := ← insert path k v a.table }
  | .header path k => do
    let (root, parent) ← reach path (← a.close)
    return ⟨root, ← found? k parent, path, some k, false⟩
  | .listHeader path k => do
    let (root, parent) ← reach path (← a.close)
    if mayList k parent then some ⟨root, [], path, some k, true⟩ else none

end Assembly

/-- A mark that may stand before everything else. -/
def byteOrderMark : Char := '\uFEFF'

/-- The members of the table that a document writes down. -/
def read (t : Text) : Option Members := do
  let t := match t with
    | c :: r => if c = byteOrderMark then r else c :: r
    | [] => []
  let ss ← statements (t.length + 1) t
  (← ss.foldlM Assembly.add .start).close

end Guidebook.Toml
