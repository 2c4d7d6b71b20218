import Guidebook.Shell.Numeral
import Guidebook.Shell.TextTool

namespace Guidebook.Shell

/-! Lines that follow each other and are the same. -/

namespace Repeat

open FileTool

/-- What of a line counts: not the first fields and characters, perhaps no more than so many, perhaps not whether
letters are small. -/
structure View where
  fields : Nat
  chars : Nat
  limit : Option Nat
  folded : Bool
  deriving DecidableEq, Repr

def isBlank (x : UInt8) : Bool := x = 32 || x = 9 || x = 10

/-- What comes behind so many fields and the blanks in front of them. -/
def pastFields : Nat → Bytes → Bytes
  | 0, l => l
  | _, [] => []
  | n + 1, l => pastFields n ((l.dropWhile isBlank).dropWhile (!isBlank ·))

def View.of (v : View) (l : Bytes) : Bytes :=
  let l := (pastFields v.fields l).drop v.chars
  let l := match v.limit with
    | some n => l.take n
    | none => l
  if v.folded then l.map fun x => if 65 ≤ x && x ≤ 90 then x + 32 else x else l

/-- Lines that count the same and follow each other. -/
def runs (key : Bytes → Bytes) : List Bytes → List (List Bytes)
  | [] => []
  | l :: ls =>
    match runs key ls with
    | (k :: r) :: rest => if key k = key l then (l :: k :: r) :: rest else [l] :: (k :: r) :: rest
    | rest => [l] :: rest

def groupings : List String := ["prepend", "append", "separate", "both"]

def separations : List String := ["none", "prepend", "separate"]

def menu : Menu :=
  { plain := "cduDiz0123456789", valued := "fsw", optional := "AG", hidden := "AG",
    long := [("count", 'c'), ("repeated", 'd'), ("unique", 'u'), ("ignore-case", 'i'), ("all-repeated", 'A'),
      ("group", 'G'), ("skip-fields", 'f'), ("skip-chars", 's'), ("check-chars", 'w'), ("zero-terminated", 'z')] }

/-- A count behind a plus sign is one of characters to be left out. -/
def plusCounts : List Text → Given × List Text
  | [] => ([], [])
  | p :: ps =>
    let r := plusCounts ps
    match p with
    | '+' :: ds => if Text.isDigits ds then (r.1 ++ [('s', ds)], r.2) else (r.1, p :: r.2)
    | _ => (r.1, p :: r.2)

def wrong? (g : Given) : Option Text :=
  g.findSome? fun (c, t) =>
    let what := match c with
      | 'f' => some "fields to skip"
      | 's' => some "bytes to skip"
      | 'w' => some "bytes to compare"
      | _ => none
    what.bind fun w =>
      if (Numeral.capped? t).isSome then none else some (t ++ ": invalid number of ".toList ++ w.toList)

def viewOf (g : Given) : View :=
  let number := fun c => (g.value? c).bind Numeral.capped?
  let digits := (g.filter fun o => o.1.isDigit).map (·.1)
  let fields := match (g.filter fun o => o.1 = 'f' || o.1.isDigit).getLast? with
    | some ('f', _) => (number 'f').getD 0
    | _ => Text.digitsValue digits
  ⟨fields, (number 's').getD 0, number 'w', g.has 'i'⟩

/-- Every line, with empty ones between the groups, in front of them or behind them. -/
def grouped (mark : UInt8) (how : String) (rs : List (List Bytes)) : Bytes :=
  let groups := rs.map fun r => r.flatMap (· ++ [mark])
  match how with
  | "prepend" => groups.flatMap fun g => mark :: g
  | "append" => groups.flatMap (· ++ [mark])
  | "both" => groups.flatMap (fun g => mark :: g) ++ if groups.isEmpty then [] else [mark]
  | _ => [mark].intercalate groups

/-- All lines of groups that have more than one. If single ones are wanted, the last of each is not. -/
def allRepeated (mark : UInt8) (how : String) (single : Bool) (rs : List (List Bytes)) : Bytes :=
  let groups := (rs.filter fun r => 1 < r.length).map fun r =>
    (if single then r.dropLast else r).flatMap (· ++ [mark])
  match how with
  | "prepend" => groups.flatMap fun g => mark :: g
  | "separate" => [mark].intercalate groups
  | _ => groups.flatten

/-- One line of each group that is wanted, perhaps with how many there are. -/
def firsts (mark : UInt8) (g : Given) (rs : List (List Bytes)) : Bytes :=
  let rs := rs.filter fun r => if r.length = 1 then !g.has 'd' else !g.has 'u'
  rs.flatMap fun r =>
    (if g.has 'c' then Octet.encode (atRight 7 (Text.ofNat r.length) ++ [' ']) else []) ++ (r.head?.getD []) ++ [mark]

def shown (g : Given) (b : Bytes) : Bytes :=
  let mark : UInt8 := if g.has 'z' then 0 else 10
  let rs := runs (viewOf g).of (between mark b)
  let word := fun words usual c => ((g.value? c).bind (TextTool.wordOf? words)).getD usual
  if g.has 'G' then grouped mark (word groupings "separate" 'G') rs
  else if g.hasAny "DA" then allRepeated mark (word separations "none" 'A') (g.has 'u') rs
  else firsts mark g rs

def uniq : Tool := program "uniq" 1 menu fun g files m =>
  let (more, files) := plusCounts files
  let g := g ++ more
  let wrongWord := fun words c => (g.values c).find? fun t => !t.isEmpty && (TextTool.wordOf? words t).isNone
  match files, wrong? g, wrongWord separations 'A', wrongWord groupings 'G' with
  | _ :: _ :: p :: _, _, _, _ => misused "uniq" ("extra operand ".toList ++ literal p) 1 m
  | _, some why, _, _ => finish [objection "uniq" why 1] [] 1 m
  | _, _, some t, _ => TextTool.unfit "uniq" "--all-repeated" separations t m
  | _, _, _, some t => TextTool.unfit "uniq" "--group" groupings t m
  | files, _, _, _ =>
    if g.has 'G' && g.hasAny "cdDuA" then
      misused "uniq" "--group is mutually exclusive with -c/-d/-D/-u".toList 1 m
    else if g.has 'c' && g.hasAny "DA" then
      misused "uniq" "printing all duplicated lines and repeat counts is meaningless".toList 1 m
    else
      let (ss, n) := Source.opened (files.take 1) m
      let b := ((ss.head?).map fun s => s.content).getD (.ok [])
      match b with
      | .error .isDirectory => finish [objection "uniq" ("error reading ".toList ++ quoted ((files.head?).getD []) ++ ": Is a directory".toList) 1] [] 1 n
      | .error e => finish [complain "uniq" "" (named ((files.head?).getD [])) e 1] [] 1 n
      | .ok b =>
        match (files.drop 1).filter (!isInput ·) with
        | p :: _ =>
          let b := if p = (files.head?).getD [] then [] else b
          match n.tree.write p (shown g b) with
          | .ok t => { n with tree := t }.ends 0
          | .error e => finish [complain "uniq" "" (named p) e 1] [] 1 n
        | [] => finish [] (shown g b) 0 n

def all : List (Text × Tool) := [("uniq".toList, uniq)]

end Repeat

end Guidebook.Shell
