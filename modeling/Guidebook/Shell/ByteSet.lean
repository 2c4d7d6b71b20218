import Guidebook.Shell.Atom
import Guidebook.Shell.Printf
import Guidebook.Shell.Source

namespace Guidebook.Shell

/-! Sets of bytes, and what is done to the bytes that are in them. -/

namespace ByteSet

open FileTool

/-- What a set of bytes is made of: a byte, a range, a named class, a byte that stands for those that are like it, or
one byte as often as is said or as often as it has to be. -/
inductive Piece where
  | one (x : UInt8)
  | range (x y : UInt8)
  | named (name : Text)
  | alike (x : UInt8)
  | again (x : UInt8) (n : Option Nat)

/-- The byte at the start of a set, where a backslash has a meaning. -/
def byte? : Bytes → Option (UInt8 × Bytes)
  | [] => none
  | 92 :: x :: xs =>
    let isOctal := fun (y : UInt8) => 48 ≤ y && y ≤ 55
    if isOctal x then
      let ds := ((x :: xs).take 3).takeWhile isOctal
      let n := ds.foldl (fun (n : Nat) (y : UInt8) => 8 * n + (y.toNat - 48)) 0
      let ds := if n < 256 then ds else ds.take 2
      some ((ds.foldl (fun (n : Nat) (y : UInt8) => 8 * n + (y.toNat - 48)) 0).toUInt8, (x :: xs).drop ds.length)
    else match Printf.controls.lookup (Char.ofNat x.toNat) with
      | some y => some (if x = 101 then x else y, xs)
      | none => some (x, xs)
  | x :: xs => some (x, xs)

/-- What is between `[x` and `x]`, and what follows. -/
def bracketed? (x : UInt8) (t : Bytes) : Option (Text × Bytes) :=
  go [] t
where
  go (seen : Bytes) : Bytes → Option (Text × Bytes)
    | y :: 93 :: rest => if y = x then some (textOf seen.reverse, rest) else go (y :: seen) (93 :: rest)
    | y :: rest => go (y :: seen) rest
    | [] => none

/-- How often a byte stands there, which is told between a `*` and a bracket. What begins with a zero is octal. -/
def count? (ds : Text) : Option (Option Nat) :=
  if ds.isEmpty then some none
  else
    let base := if ds.head? = some '0' then 8 else 10
    if ds.all fun c => c.isDigit && c.toNat < 48 + base then
      let n := ds.foldl (fun n c => base * n + (c.toNat - 48)) 0
      some (if n = 0 then none else some n)
    else none

/-- The pieces of a set, or what is wrong with it. -/
def pieces : Nat → Bytes → Except Text (List Piece)
  | 0, _ => .ok []
  | n + 1, t =>
    let followed := fun (p : Piece) (rest : Bytes) => do return p :: (← pieces n rest)
    let single := fun (_ : Unit) => match byte? t with
      | none => .ok []
      | some (x, rest) =>
        match rest with
        | 45 :: more =>
          match byte? more with
          | some (y, rest) =>
            if y < x then
              .error ("range-endpoints of ".toList ++ literal [Octet.ofByte x, '-', Octet.ofByte y] ++
                " are in reverse collating sequence order".toList)
            else followed (.range x y) rest
          | none => followed (.one x) rest
        | rest => followed (.one x) rest
    let repeated := fun (_ : Unit) => match t with
      | 91 :: more =>
        match byte? more with
        | some (x, 42 :: more) =>
          let ds := textOf (more.takeWhile (· ≠ 93))
          if more.length = ds.length then none
          else some (x, ds, more.drop (ds.length + 1))
        | _ => none
      | _ => none
    let again := fun (_ : Unit) => match repeated () with
      | some (x, ds, rest) =>
        match count? ds with
        | some k => followed (.again x k) rest
        | none => .error ("invalid repeat count ".toList ++ literal ds ++ " in [c*n] construct".toList)
      | none => single ()
    match t with
    | 91 :: 58 :: more =>
      match bracketed? 58 more with
      | some ([], _) => .error "missing character class name '[::]'".toList
      | some (name, rest) =>
        if (Atom.classes.lookup name).isSome then followed (.named name) rest
        else if isCount more then again ()
        else .error ("invalid character class ".toList ++ literal name)
      | none => again ()
    | 91 :: 61 :: more =>
      match bracketed? 61 more with
      | some ([], _) => .error "missing equivalence class character '[==]'".toList
      | some ([c], rest) => followed (.alike (UInt8.ofNat c.toNat)) rest
      | some (name, _) =>
        if isCount more then again ()
        else .error (name ++ ": equivalence class operand must be a single character".toList)
      | none => again ()
    | 91 :: _ => again ()
    | _ => single ()
where
  /-- Whether a `*`, digits and a bracket come next. -/
  isCount (t : Bytes) : Bool :=
    t.head? = some 42 && ((t.drop 1).dropWhile fun x => 48 ≤ x && x ≤ 57).head? = some 93

def everyByte : Bytes := (List.range 256).map (·.toUInt8)

def classBytes (n : Text) : Bytes :=
  match Atom.classes.lookup n with
  | some rs => everyByte.filter fun x =>
      x < 128 && rs.any fun r => r.1.toNat ≤ x.toNat && x.toNat ≤ r.2.toNat
  | none => []

/-- The bytes of a piece. What fills up is as long as it has to be. -/
def Piece.bytes (filling : Nat) : Piece → Bytes
  | .one x | .alike x => [x]
  | .range x y => everyByte.filter fun z => x ≤ z && z ≤ y
  | .named n => classBytes n
  | .again x n => List.replicate (n.getD filling) x

/-- The bytes of a set, which has to have so many if it can. -/
def bytesOf (wanted : Nat) (ps : List Piece) : Bytes :=
  let least := (ps.map fun p => (p.bytes 0).length).foldl (· + ·) 0
  ps.flatMap (Piece.bytes (wanted - least))

def Piece.fills : Piece → Bool
  | .again _ none => true
  | _ => false

/-- Whether a piece is one of the two classes of letters that go together. -/
def Piece.isCase : Piece → Bool
  | .named n => n = "upper".toList || n = "lower".toList
  | _ => false

def Piece.isClass : Piece → Bool
  | .named _ => true
  | _ => false

/-- Where the classes of letters begin in a set. -/
def caseStarts (ps : List Piece) : List Nat :=
  (ps.foldl (fun (r : List Nat × Nat) p =>
    (if p.isCase then r.1 ++ [r.2] else r.1, r.2 + (p.bytes 0).length)) ([], 0)).1

/-- What is wrong with sets of which one is to be put in the place of the other. -/
def unfit? (g : Given) (old new : List Piece) : Option Text :=
  let size := fun (ps : List Piece) => (bytesOf 0 ps).length
  let complement := g.hasAny "cC"
  let oldSize := if complement then 256 - (bytesOf 0 old).eraseDups.length else size old
  if old.any Piece.fills then some "the [c*] repeat construct may not appear in string1".toList
  else if 1 < (new.filter Piece.fills).length then
    some "only one [c*] repeat construct may appear in string2".toList
  else if new.any fun p => p matches .alike _ then
    some "[=c=] expressions may not appear in string2 when translating".toList
  else if new.any fun p => p.isClass && !p.isCase then
    some "when translating, the only character classes that may appear in\nstring2 are 'upper' and 'lower'".toList
  else if !complement && (caseStarts new).any fun k => k < oldSize && !(caseStarts old).contains k then
    some "misaligned [:upper:] and/or [:lower:] construct".toList
  else if !g.has 't' && size new < oldSize && !new.any Piece.fills then
    if size new = 0 then some "when not truncating set1, string2 must be non-empty".toList
    else if (new.getLast?.map Piece.isClass).getD false then
      some "when translating with string1 longer than string2,\nthe latter string must not end with a character class".toList
    else domain complement
  else domain complement
where
  domain (complement : Bool) : Option Text :=
    if complement && old.any Piece.isClass && 1 < (bytesOf 256 new).eraseDups.length then
      some "when translating with complemented character classes,\nstring2 must map all characters in the domain to one".toList
    else none

/-- Leaves one of equal bytes that follow each other. -/
def squeeze (set : Bytes) : Bytes → Bytes
  | x :: y :: rest => if x = y && set.contains x then squeeze set (y :: rest) else x :: squeeze set (y :: rest)
  | rest => rest
termination_by b => b.length

/-- Whether a backslash stands alone at the end. -/
def endsOpen : Bytes → Bool
  | [92] => true
  | 92 :: _ :: xs => endsOpen xs
  | _ :: xs => endsOpen xs
  | [] => false

/-- What becomes of the input. -/
def changed (g : Given) (old : List Piece) (new : Option (List Piece)) (b : Bytes) : Bytes :=
  let listed := bytesOf 0 old
  let old := if g.hasAny "cC" then everyByte.filter (!listed.contains ·) else listed
  let new := new.map fun ps => bytesOf old.length ps
  let one := fun (x : UInt8) =>
    match old.reverse.idxOf? x, new.bind List.getLast? with
    | some i, some last =>
      match (new.getD [])[old.length - 1 - i]? with
      | some y => y
      | none => if g.has 't' then x else last
    | _, _ => x
  let table := everyByte.map one
  let b :=
    if g.has 'd' then b.filter (!old.contains ·)
    else if new.isSome then b.map fun x => (table[x.toNat]?).getD x
    else b
  if g.has 's' then squeeze (new.getD old) b else b

def tr : Tool := program "tr" 1
  { plain := "cCdst", long := [("complement", 'c'), ("delete", 'd'), ("squeeze-repeats", 's'),
      ("truncate-set1", 't')], inFront := true }
  fun g sets m =>
    let deletes := g.has 'd'
    let squeezes := g.has 's'
    let run := fun (a : Text) (b : Option Text) =>
      let parsed := fun (t : Text) => pieces t.length (Octet.encode t)
      let warning := if (a :: b.toList).any fun t => endsOpen (Octet.encode t) then
          [objection "tr" "warning: an unescaped backslash at end of string is not portable".toList 0]
        else []
      match parsed a, parsed (b.getD []) with
      | .error why, _ | _, .error why => finish (warning ++ [objection "tr" why 1]) [] 1 m
      | .ok old, .ok new =>
        let wrong := if b.isSome && !deletes then unfit? g old new
          else if old.any Piece.fills then some "the [c*] repeat construct may not appear in string1".toList
          else if new.any Piece.fills then some "the [c*] construct may appear in string2 only when translating".toList
          else none
        match wrong with
        | some why => finish (warning ++ [objection "tr" why 1]) [] 1 m
        | none => finish warning (changed g old (b.map fun _ => new) m.input) 0 { m with input := [] }
    match sets with
    | [] => missing "tr" m
    | [a] =>
      if !deletes && !squeezes then
        misused "tr" ("missing operand after ".toList ++ literal a ++
          "\nTwo strings must be given when translating.".toList) 1 m
      else if deletes && squeezes then
        misused "tr" ("missing operand after ".toList ++ literal a ++
          "\nTwo strings must be given when both deleting and squeezing repeats.".toList) 1 m
      else run a none
    | [a, b] =>
      if deletes && !squeezes then
        misused "tr" ("extra operand ".toList ++ literal b ++
          "\nOnly one string may be given when deleting without squeezing repeats.".toList) 1 m
      else run a (some b)
    | _ :: _ :: c :: _ => misused "tr" ("extra operand ".toList ++ literal c) 1 m

def all : List (Text × Tool) := [("tr".toList, tr)]

end ByteSet

end Guidebook.Shell
