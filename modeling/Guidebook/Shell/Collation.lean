import Guidebook.Shell.Numeral
import Guidebook.Shell.Source

namespace Guidebook.Shell

/-! Two lists in order, read side by side: which lines they share, and which rows of two tables go
together. -/

namespace Collation

open FileTool

/-- How much it is looked for that lists are in order: not at all, once something has been found in one list only, or
always. -/
inductive Check where
  | never
  | later
  | always
  deriving DecidableEq, Repr

def checkOf (g : Given) : Check :=
  match g.latest? "KN" with
  | some 'K' => .always
  | some _ => .never
  | none => .later

/-- Two names of what is to be read, or what is wrong with them. -/
def twoNames (tool : String) (args : List Text) (m : Machine) (f : Text → Text → Ran) : Ran :=
  match args with
  | [] => missing tool m
  | [p] => misused tool ("missing operand after ".toList ++ literal p) 1 m
  | [p, q] => f p q
  | _ :: _ :: p :: _ => misused tool ("extra operand ".toList ++ literal p) 1 m

/-- Two sources, of which both have to be there. -/
def twoSources (tool : String) (p q : Text) (m : Machine) (f : Bytes → Bytes → Machine → Ran) : Ran :=
  let (ss, n) := Source.opened [p, q] m
  match Source.untilFirst (ss.map (Source.through tool id)) with
  | [.ok a, .ok b] => f a b n
  | said => Source.finish (said.filter fun w => w matches .error _) 1 n

/-! ## Lines that two lists share -/

/-- Two lists that are read side by side: what is left of each, what has been read of each from the last to the first,
whether something has been found in one of them only, what has been said of their order, and how many lines were in the
first one only, in the second one only and in both. -/
structure Pair where
  left : List Bytes
  right : List Bytes
  leftRead : List Bytes := []
  rightRead : List Bytes := []
  apart : Bool := false
  leftTold : Bool := false
  rightTold : Bool := false
  counts : Nat × Nat × Nat := (0, 0, 0)

def disorder (k : String) : Complaint := objection "comm" ("file ".toList ++ k.toList ++ " is not in sorted order".toList) 1

/-- Whether a line that has been read, or the one before it at the end, comes behind the line that follows it. -/
def isTurned (seen rest : List Bytes) : Bool :=
  match seen, rest with
  | a :: _, b :: _ => decide (b < a)
  | b :: a :: _, [] => decide (b < a)
  | _, _ => false

/-- Goes on by a line in the lists that flags tell, and says what is out of order. -/
def Pair.advance (how : Check) (inLeft inRight : Bool) (p : Pair) : Pair × Source.Said :=
  let looks := how = .always || how = .later && p.apart
  let p := if inLeft then { p with left := p.left.drop 1, leftRead := p.left.take 1 ++ p.leftRead } else p
  let p := if inRight then { p with right := p.right.drop 1, rightRead := p.right.take 1 ++ p.rightRead } else p
  let isLeft := inLeft && looks && !p.leftTold && isTurned p.leftRead p.left
  let isRight := inRight && looks && !p.rightTold && isTurned p.rightRead p.right
  ({ p with leftTold := p.leftTold || isLeft, rightTold := p.rightTold || isRight },
    (if isLeft then [.error (disorder "1")] else []) ++ if isRight then [.error (disorder "2")] else [])

/-- What is written of lines: those of one list or of both, each in a column of its own. -/
def pairLines (how : Check) (shown : Nat → Bytes → Bytes) : Nat → Pair → Pair × Source.Said
  | 0, p => (p, [])
  | n + 1, p =>
    let go := fun (k : Nat) (l : Bytes) (inLeft inRight : Bool) (p : Pair) =>
      let (p, said) := p.advance how inLeft inRight
      if how = .always && !said.isEmpty then (p, .ok (shown k l) :: said)
      else
        let r := pairLines how shown n p
        (r.1, .ok (shown k l) :: said ++ r.2)
    let (i, j, k) := p.counts
    let onlyLeft := fun (a : Bytes) => go 1 a true false { p with apart := true, counts := (i + 1, j, k) }
    let onlyRight := fun (b : Bytes) => go 2 b false true { p with apart := true, counts := (i, j + 1, k) }
    match p.left, p.right with
    | [], [] => (p, [])
    | a :: _, [] => onlyLeft a
    | [], b :: _ => onlyRight b
    | a :: _, b :: _ =>
      if a = b then go 3 b true true { p with counts := (i, j, k + 1) }
      else if a < b then onlyLeft a
      else onlyRight b

def comm : Tool := program "comm" 1
  { plain := "123zKNT", valued := "O", hidden := "KNTO",
    long := [("check-order", 'K'), ("nocheck-order", 'N'), ("output-delimiter", 'O'), ("total", 'T'), ("zero-terminated", 'z')] }
  fun g args m =>
    let joints := (g.values 'O').eraseDups
    if 1 < joints.length then finish [objection "comm" "multiple output delimiters specified".toList 1] [] 1 m
    else twoNames "comm" args m fun p q => twoSources "comm" p q m fun a b n =>
      let mark : UInt8 := if g.has 'z' then 0 else 10
      let joint := match joints with
        | [] => [9]
        | t :: _ => if t.isEmpty then [0] else Octet.encode t
      let shown := fun (k : Nat) (l : Bytes) =>
        if g.has (Char.ofNat (48 + k)) then []
        else
          (if 2 ≤ k && !g.has '1' then joint else []) ++ (if k = 3 && !g.has '2' then joint else []) ++ l ++ [mark]
      let (as, bs) := (between mark a, between mark b)
      let how := checkOf g
      let (r, said) := pairLines how shown (as.length + bs.length + 1) { left := as, right := bs }
      let told := r.leftTold || r.rightTold
      if how = .always && told then Source.finish said 0 n
      else
        let (i, j, k) := r.counts
        let number := fun (c : Nat) => Octet.encode (Text.ofNat c) ++ joint
        let total := if g.has 'T' then number i ++ number j ++ number k ++ Octet.encode "total".toList ++ [mark] else []
        let last := if told then [.error (objection "comm" "input is not in sorted order".toList 1)] else []
        Source.finish (said ++ .ok total :: last) 0 n

/-! ## Rows of two tables that go together -/

/-- What is written of rows: fields of one table or of the other, or those that they share. -/
inductive Format where
  | usual
  | counted (left right : Nat)
  | listed (fields : List (Nat × Nat))

/-- A way to put two tables together: by which fields, by what fields are parted, which rows without a partner are
written and whether pairs are, what stands where nothing is, whether letters may be small, how lines end, and how
rows are written. -/
structure Joining where
  keys : Nat × Nat
  separator : Option UInt8
  alone : Bool × Bool
  pairs : Bool
  filler : Bytes
  folded : Bool
  mark : UInt8
  check : Check
  format : Format

/-- A row: its fields, and the line that it was. -/
structure Row where
  fields : List Bytes
  line : Bytes

/-- The fields between blanks. If blanks come last, so does an empty field. -/
def blankFields (l : Bytes) : List Bytes :=
  let isBlank := fun (x : UInt8) => x = 32 || x = 9 || x = 10
  let body := l.dropWhile isBlank
  let fields := (body.splitOnP isBlank).filter (!·.isEmpty)
  if (body.getLast?.map isBlank).getD false then fields ++ [[]] else fields

def Joining.row (w : Joining) (l : Bytes) : Row :=
  ⟨match w.separator with
    | some c => if l.isEmpty then [] else l.splitOn c
    | none => blankFields l, l⟩

/-- A key as it is compared. -/
def Joining.key (w : Joining) (field : Nat) (r : Row) : Bytes :=
  let k := (r.fields[field]?).getD []
  if w.folded then k.map fun x => if 97 ≤ x && x ≤ 122 then x - 32 else x else k

def Joining.field (w : Joining) (k : Nat) (r : Row) : Bytes :=
  match r.fields[k]? with
  | some [] | none => w.filler
  | some t => t

/-- What is written of a row and its partner, of which one may not be there. -/
def Joining.shown (w : Joining) (x y : Option Row) : Bytes :=
  let empty : Row := ⟨[], []⟩
  let (a, b) := (x.getD empty, y.getD empty)
  let key := if x.isSome then w.field w.keys.1 a else w.field w.keys.2 b
  let others := fun (count : Option Nat) (key : Nat) (r : Row) =>
    ((List.range (count.getD r.fields.length)).filter (· ≠ key)).map fun i => w.field i r
  let fields := match w.format with
    | .usual => key :: (others none w.keys.1 a ++ others none w.keys.2 b)
    | .counted i j => key :: (others (some i) w.keys.1 a ++ others (some j) w.keys.2 b)
    | .listed fs => fs.map fun (file, k) =>
        if file = 0 then key else w.field k (if file = 1 then a else b)
  [w.separator.getD 32].intercalate fields ++ [w.mark]

/-- A table that is being read: its rows that are left, the last one that has been read, the number of the row that comes
first of those that are left, and whether it has been said that it is not in order. -/
structure Table where
  name : Text
  rows : List Row
  number : Nat := 1
  told : Bool := false

/-- Two tables that are read side by side, and whether something has been found in one of them only. -/
structure Tables where
  left : Table
  right : Table
  apart : Bool := false

/-- The complaint that the second of the rows that are left comes in front of the first one. -/
def Joining.disorder? (w : Joining) (apart : Bool) (field : Nat) (t : Table) : Option Complaint :=
  match t.rows with
  | a :: b :: _ =>
    if (w.check = .always || w.check = .later && apart) && !t.told && decide (w.key field b < w.key field a) then
      some (objection "join" (t.name ++ ':' :: Text.ofNat (t.number + 1) ++ ": is not sorted: ".toList ++ textOf b.line) 1)
    else none
  | _ => none

/-- Goes on by a row, and says whether the one that comes then is in order. -/
def Joining.next (w : Joining) (apart : Bool) (field : Nat) (t : Table) : Table × Source.Said :=
  let c := w.disorder? apart field t
  ({ t with rows := t.rows.drop 1, number := t.number + 1, told := t.told || c.isSome }, c.toList.map .error)

/-- Goes on behind all rows that have a key: those rows, the table then, and what is said. -/
def Joining.sharing (w : Joining) (apart : Bool) (field : Nat) (key : Bytes) : Nat → Table → List Row × Table × Source.Said
  | 0, t => ([], t, [])
  | n + 1, t =>
    match t.rows with
    | a :: _ =>
      if w.key field a = key then
        let (t, said) := w.next apart field t
        let (rows, t, more) := w.sharing apart field key n t
        (a :: rows, t, said ++ more)
      else ([], t, [])
    | [] => ([], t, [])

/-- All the rows that are left of a table that has no partner any more. -/
def Joining.remaining (w : Joining) (apart wanted : Bool) (field : Nat) (shown : Row → Bytes) : Nat → Table → Table × Source.Said
  | 0, t => (t, [])
  | n + 1, t =>
    match t.rows with
    | [] => (t, [])
    | a :: _ =>
      let (t, said) := w.next apart field t
      let (t, more) := w.remaining apart wanted field shown n t
      (t, .ok (if wanted then shown a else []) :: said ++ more)

def Joining.run (w : Joining) : Nat → Tables → Tables × Source.Said
  | 0, t => (t, [])
  | n + 1, t =>
    match t.left.rows, t.right.rows with
    | a :: _, b :: _ =>
      let (i, j) := (w.key w.keys.1 a, w.key w.keys.2 b)
      if i = j then
        let (xs, left, said) := w.sharing t.apart w.keys.1 j t.left.rows.length t.left
        let (ys, right, more) := w.sharing t.apart w.keys.2 i t.right.rows.length t.right
        let pairs := if w.pairs then xs.flatMap fun x => ys.flatMap fun y => w.shown (some x) (some y) else []
        let (t, rest) := w.run n { t with left, right }
        (t, said ++ more ++ .ok pairs :: rest)
      else if i < j then
        let (left, said) := w.next t.apart w.keys.1 t.left
        let (t, rest) := w.run n { t with left, apart := true }
        (t, .ok (if w.alone.1 then w.shown (some a) none else []) :: said ++ rest)
      else
        let (right, said) := w.next t.apart w.keys.2 t.right
        let (t, rest) := w.run n { t with right, apart := true }
        (t, .ok (if w.alone.2 then w.shown none (some b) else []) :: said ++ rest)
    | xs, ys =>
      let apart := t.apart || !xs.isEmpty && !ys.isEmpty
      let (left, said) :=
        w.remaining apart w.alone.1 w.keys.1 (fun x => w.shown (some x) none) xs.length t.left
      let (right, more) :=
        w.remaining apart w.alone.2 w.keys.2 (fun y => w.shown none (some y)) ys.length t.right
      ({ left, right, apart }, said ++ more)

/-- What has been said up to the first complaint, if that is the end of it. -/
def Joining.whole (w : Joining) (said : Source.Said) : Source.Said :=
  if w.check = .always then Source.untilFirst said
  else if said.any fun c => c matches .error _ then
    said ++ [.error (objection "join" "input is not in sorted order".toList 1)]
  else said

def fieldOf (t : Text) : Except Text Nat :=
  match (Numeral.capped? t).filter (· ≠ 0) with
  | some n => .ok (n - 1)
  | none => .error ("invalid field number: ".toList ++ literal t)

/-- The fields that a list tells. -/
def listed (t : Text) : Except Text (List (Nat × Nat)) :=
  (Text.pieces (fun c => c == ',' || c == ' ' || c == '\t') t).mapM fun p => match p with
    | ['0'] => .ok (0, 0)
    | '0' :: _ => .error ("invalid field specifier: ".toList ++ literal p)
    | '1' :: '.' :: f => (fieldOf f).map (1, ·)
    | '2' :: '.' :: f => (fieldOf f).map (2, ·)
    | '1' :: _ | '2' :: _ => .error ("invalid field specifier: ".toList ++ literal p)
    | _ => .error ("invalid file number in field spec: ".toList ++ literal p)

/-- The field by which rows go together, of which there may not be two. -/
def keyOf (fields : List Nat) : Except Text Nat :=
  match fields with
  | [] => .ok 0
  | k :: ks => match ks.find? (· ≠ k) with
    | some l => .error ("incompatible join fields ".toList ++ Text.ofNat k ++ ", ".toList ++ Text.ofNat l)
    | none => .ok k

/-- By what fields are parted. -/
def separatorOf (ts : List Text) : Except Text (Option UInt8) := do
  let cs ← ts.mapM fun t => match Octet.encode t with
    | [] => .ok (10 : UInt8)
    | [c] => .ok c
    | [92, 48] => .ok 0
    | _ => .error ("multi-character tab ".toList ++ literal t)
  match cs.eraseDups with
  | [] => return none
  | [c] => return some c
  | _ => .error "incompatible tabs".toList

/-- What options tell, apart from how many fields rows have. -/
def joiningOf (g : Given) : Except Text Joining := do
  let given ← (g.filter fun o => "12j".toList.contains o.1).mapM fun o => do return (o.1, ← fieldOf o.2)
  let keyIn := fun c => keyOf ((given.filter fun o => o.1 = c || o.1 = 'j').map (·.2))
  let (i, j) := (← keyIn '1', ← keyIn '2')
  let lists ← ((g.values 'o').filter (· ≠ "auto".toList)).mapM listed
  let alone := (g.filter fun o => o.1 = 'a' || o.1 = 'v').map (·.2)
  match alone.find? fun t => !(["1".toList, "2".toList].contains t), (g.values 'e').eraseDups with
  | some t, _ => .error ("invalid field number: ".toList ++ literal t)
  | none, _ :: _ :: _ => .error "conflicting empty-field replacement strings".toList
  | none, fillers =>
    return { keys := (i, j), separator := ← separatorOf (g.values 't')
             alone := (alone.contains ['1'], alone.contains ['2']), pairs := !g.has 'v'
             filler := Octet.encode fillers.flatten, folded := g.has 'i', mark := if g.has 'z' then 0 else 10
             check := checkOf g, format := if lists.isEmpty then .usual else .listed lists.flatten }

/-- Rows of two tables that share a field. -/
def join : Tool := program "join" 1
  { plain := "izKNH", valued := "12javteo", hidden := "KNH",
    long := [("ignore-case", 'i'), ("nocheck-order", 'N'), ("check-order", 'K'), ("header", 'H'), ("zero-terminated", 'z')] }
  fun g args m =>
    match joiningOf g with
    | .error why => finish [objection "join" why 1] [] 1 m
    | .ok w => twoNames "join" args m fun p q =>
      if isInput p && isInput q then
        finish [objection "join" "both files cannot be standard input".toList 1] [] 1 m
      else twoSources "join" p q m fun a b n =>
        let rows := fun (b : Bytes) => (between w.mark b).map w.row
        let (xs, ys) := (rows a, rows b)
        let count := fun (rs : List Row) => ((rs.head?).map fun r => r.fields.length).getD 0
        let w := if (g.values 'o').contains "auto".toList then { w with format := .counted (count xs) (count ys) } else w
        let isTitled := g.has 'H' && !(xs.isEmpty && ys.isEmpty)
        let title := if isTitled then w.shown xs.head? ys.head? else []
        let skip := if isTitled then 1 else 0
        let (_, said) := w.run (xs.length + ys.length + 1)
          { left := { name := p, rows := xs.drop skip, number := 1 + skip }
            right := { name := q, rows := ys.drop skip, number := 1 + skip } }
        Source.finish (.ok title :: w.whole said) 0 n

def all : List (Text × Tool) := [("comm".toList, comm), ("join".toList, join)]

end Collation

end Guidebook.Shell
