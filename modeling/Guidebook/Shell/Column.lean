import Guidebook.Shell.Numeral
import Guidebook.Shell.Source

namespace Guidebook.Shell

/-! Parts of lines by their positions, and lines put beside each other. -/

namespace Column

open FileTool

/-- Positions from one to another. -/
structure Span where
  first : Nat
  last : Option Nat
  deriving DecidableEq, Repr

/-- How far a list of positions has been read: a number, what was in front of the dash if there was one, and
whether there are digits in front of it and behind it. -/
structure Reading where
  value : Nat
  start : Option Nat
  before : Bool
  behind : Bool

def Reading.fresh : Reading := ⟨0, none, false, false⟩

/-- A list of positions ends here, or the part of it before a comma. -/
def Reading.span (r : Reading) (zero : Text) : Except Text Span :=
  match r.start with
  | none => if r.value = 0 then .error zero else .ok ⟨r.value, some r.value⟩
  | some k =>
    if !r.before && !r.behind then .error "invalid range with no endpoint: -".toList
    else if !r.behind then .ok ⟨k, none⟩
    else if r.value < k then .error "invalid decreasing range".toList
    else .ok ⟨k, some r.value⟩

/-- Positions such as `1,3-5,7-`, or what is wrong with them. The flag tells whether they are those of fields. -/
def spans (inFields : Bool) (r : Reading) : Text → Except Text (List Span)
  | [] => (r.span zero).map ([·])
  | '-' :: cs =>
    if r.start.isSome then .error (if inFields then "invalid field range" else "invalid byte or character range").toList
    else if r.before && r.value = 0 then .error zero
    else spans inFields ⟨0, some (if r.before then r.value else 1), r.before, false⟩ cs
  | c :: cs =>
    if c = ',' || c = ' ' || c = '\t' then do
      let s ← r.span zero
      return s :: (← spans inFields .fresh cs)
    else if c.isDigit then
      let value := r.value * 10 + (c.toNat - 48)
      let r := { r with value, before := r.before || r.start.isNone, behind := r.behind || r.start.isSome }
      if Numeral.bound ≤ value + 1 then
        .error ((if inFields then "field number " else "byte/character offset ").toList ++
          literal (Text.ofNat value ++ cs.takeWhile Char.isDigit) ++ " is too large".toList)
      else spans inFields r cs
    else .error ((if inFields then "invalid field value " else "invalid byte/character position ").toList ++
      literal (c :: cs))
where
  zero : Text := (if inFields then "fields are numbered from 1" else "byte/character positions are numbered from 1").toList

/-- A span together with those behind it that it overlaps. -/
def absorb (s : Span) : List Span → List Span
  | t :: more =>
    if s.last.all (t.first ≤ ·) then
      absorb ⟨s.first, match s.last, t.last with
        | some a, some b => some (max a b)
        | _, _ => none⟩ more
    else s :: t :: more
  | [] => [s]

/-- Spans in order, of which those that overlap are one. -/
def merged (ss : List Span) : List Span := (ss.mergeSort fun a b => a.first ≤ b.first).foldr absorb []

/-- What some spans in order leave out, from a position on. -/
def others (start : Nat) : List Span → List Span
  | [] => [⟨start, none⟩]
  | s :: ss =>
    let rest := match s.last with
      | some k => others (k + 1) ss
      | none => []
    if start < s.first then ⟨start, some (s.first - 1)⟩ :: rest else rest

def slice (s : Span) (xs : List α) : List α :=
  let front := xs.drop (s.first - 1)
  match s.last with
  | some k => front.take (k + 1 - s.first)
  | none => front

/-- The parts of a list that spans tell, of which none is empty. -/
def slices (ss : List Span) (xs : List α) : List (List α) := (ss.map (slice · xs)).filter (!·.isEmpty)

/-- A way to cut: at which byte lines end, which spans are wanted, by which bytes fields are parted, what goes between
what is left, and whether lines without a separator are left out. -/
structure Manner where
  mark : UInt8
  wanted : List Span
  separator : Option UInt8
  joint : Option Bytes
  strict : Bool

def Manner.line (w : Manner) (l : Bytes) : Bytes :=
  match w.separator with
  | none => ((w.joint.getD []).intercalate (slices w.wanted l)) ++ [w.mark]
  | some d =>
    if l.contains d then ((w.joint.getD [d]).intercalate (slices w.wanted (l.splitOn d)).flatten) ++ [w.mark]
    else if w.strict then [] else l ++ [w.mark]

def Manner.all (w : Manner) (b : Bytes) : Bytes :=
  if w.separator = some w.mark then if b.isEmpty then [] else w.line (withoutMark w.mark b)
  else (between w.mark b).flatMap w.line

def cut : Tool := program "cut" 1
  { plain := "nszC", valued := "fdcbO", hidden := "CO", long := [("fields", 'f'), ("delimiter", 'd'), ("characters", 'c'),
      ("bytes", 'b'), ("only-delimited", 's'), ("complement", 'C'), ("output-delimiter", 'O'),
      ("zero-terminated", 'z')] }
  fun g files m =>
    let fail := fun (why : Text) => misused "cut" why 1 m
    let lists := g.filter fun o => "fcb".toList.contains o.1
    let isWide := (g.values 'd').any (1 < ·.length)
    match lists with
    | [] => fail (if isWide then "the delimiter must be a single character"
        else "you must specify a list of bytes, characters, or fields").toList
    | (kind, list) :: more =>
      let inFields := kind = 'f'
      if isWide then fail "the delimiter must be a single character".toList
      else if !more.isEmpty then fail "only one list may be specified".toList
      else if g.has 'd' && !inFields then
        fail "an input delimiter may be specified only when operating on fields".toList
      else if g.has 's' && !inFields then
        fail "suppressing non-delimited lines makes sense\n\tonly when operating on fields".toList
      else match spans inFields .fresh list with
        | .error why => fail why
        | .ok ss =>
          let ss := merged ss
          let separator : UInt8 := match (g.value? 'd').map Octet.encode with
            | some (x :: _) => x
            | some [] => 0
            | none => 9
          let joint := (g.value? 'O').map fun t => if t.isEmpty then [0] else Octet.encode t
          let w : Manner :=
            { mark := if g.has 'z' then 0 else 10, wanted := if g.has 'C' then others 1 ss else ss
              separator := if inFields then some separator else none, joint, strict := g.has 's' }
          let (sources, n) := Source.opened files m
          Source.finish (sources.map (Source.through "cut" w.all)) 0 n

/-- Marks that are put between pieces, where a backslash has a meaning, unless one stands alone at the end. -/
def jointsOf? : Text → Option (List Bytes)
  | [] => some []
  | ['\\'] => none
  | '\\' :: c :: cs =>
    (jointsOf? cs).map fun rest => (match c with
      | '0' => []
      | 'b' => [8]
      | 'f' => [12]
      | 'n' => [10]
      | 'r' => [13]
      | 't' => [9]
      | 'v' => [11]
      | c => Octet.encode [c]) :: rest
  | c :: cs => (jointsOf? cs).map fun rest => Octet.encode [c] :: rest

/-- Pieces with marks between them, which are taken in turn. -/
def together (joints : List Bytes) (mark : UInt8) (pieces : List Bytes) : Bytes :=
  (pieces.zipIdx.flatMap fun (p, i) =>
    p ++ if i + 1 = pieces.length || joints.isEmpty then [] else (joints[i % joints.length]?).getD []) ++ [mark]

/-- Lines of the input dealt out to those that read it. -/
def dealt (ls : List Bytes) (hands i : Nat) : List Bytes :=
  (ls.zipIdx.filter fun x => x.2 % hands = i).map (·.1)

/-- The lines of each source. The input is dealt out to all that read it. -/
def columns (mark : UInt8) (input : List Bytes) (hands : Nat) : Nat → List Source → List (List Bytes)
  | _, [] => []
  | k, s :: ss =>
    if isInput s.name then dealt input hands k :: columns mark input hands (k + 1) ss
    else between mark (s.content.toOption.getD []) :: columns mark input hands k ss

def paste : Tool := program "paste" 1
  { plain := "sz", valued := "d", long := [("delimiters", 'd'), ("serial", 's'), ("zero-terminated", 'z')] }
  fun g files m =>
    let list := (g.value? 'd').getD ['\t']
    match if list.isEmpty then some [[]] else jointsOf? list with
    | none =>
      m.tell .err ("paste: delimiter list ends with an unescaped backslash: ".toList ++ list ++ ['\n']) 1
    | some joints =>
      let mark : UInt8 := if g.has 'z' then 0 else 10
      let (ss, n) := Source.opened files m
      if g.has 's' then
        Source.finish (ss.flatMap fun s => match s.content with
          | .ok b => [.ok (together joints mark (between mark b))]
          | .error .isDirectory => [.ok [mark], .error (Source.refusal "paste" s .isDirectory)]
          | .error e => [.error (Source.refusal "paste" s e)]) 0 n
      else
        let isClosed := fun (s : Source) => match s.content with
          | .ok _ | .error .isDirectory => false
          | .error _ => true
        match ss.find? isClosed with
        | some s => Source.finish [Source.through "paste" id s] 0 m
        | none =>
          let hands := (ss.filter fun s => isInput s.name).length
          let cs := columns mark (between mark m.input) hands 0 ss
          let height := (cs.map List.length).foldl max 0
          let out := (List.range height).flatMap fun i => together joints mark (cs.map fun ls => (ls[i]?).getD [])
          Source.finish ((Source.gathered "paste" ss).2 ++ [.ok out]) 0 n

def all : List (Text × Tool) := [("cut".toList, cut), ("paste".toList, paste)]

end Column

end Guidebook.Shell
