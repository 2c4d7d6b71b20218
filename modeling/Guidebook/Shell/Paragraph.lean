import Guidebook.Shell.Source

namespace Guidebook.Shell

/-! Paragraphs whose lines are broken where that costs least: the lines should all be about as long as they are meant
to be, and should end where sentences or other pieces end. -/

namespace Paragraph

open FileTool

/-- A word with the space behind it, and what it begins and ends with: a bracket, a sign, a full stop, and whether a
sentence ends with it. -/
structure Piece where
  text : Text
  space : Nat
  opens : Bool
  sign : Bool
  stop : Bool
  final : Bool
  deriving DecidableEq, Repr

/-- How wide lines may be, how wide they should be, whether all spaces are made alike, and whether lines are never
joined. -/
structure Shape where
  width : Nat
  goal : Nat
  uniform : Bool
  apart : Bool

def square (n : Int) : Int := n * n

def shortCost (n : Int) : Int := square (10 * n)

def raggedCost (n : Int) : Int := shortCost n / 2

/-- What it costs that a line begins with a word that comes after some others, latest first. -/
def baseCost (before : List Piece) (w : Piece) : Int :=
  let behind := match before with
    | p :: rest =>
      if p.stop then if p.final then -(square 50) else square 600
      else if p.sign then -(square 40)
      else match rest with
        | q :: _ => if q.final then square 200 / (p.text.length + 2) else 0
        | [] => 0
    | [] => 0
  let own := if w.opens then -(square 40)
    else if w.final then square 150 / (w.text.length + 2) else 0
  square 70 + behind + own

/-- How the words from one on are broken into lines: how many are in the first line, how long that is, and what all
lines cost. -/
structure Break where
  count : Nat
  length : Nat
  cost : Int

/-- What a line costs that is so long, in front of some other lines. -/
def lineCost (s : Shape) (length : Nat) (next : List Break) : Int :=
  match next with
  | [] => 0
  | b :: bs => shortCost ((s.goal : Int) - length) +
      if bs.length + 1 = b.count then 0 else raggedCost ((length : Int) - b.length)

/-- Tries one end of a line after the other. -/
def best (s : Shape) (ends : Nat → List Break → Int) :
    Nat → Nat → List Piece → List Break → Option Break → Option Break
  | _, _, [], _, found => found
  | k, length, w :: ws, bs, found =>
    let length := length + w.text.length
    let cost := ends length bs + ((bs.head?).map (·.cost)).getD 0
    let found := match found with
      | some b => if cost < b.cost then some ⟨k + 1, length, cost⟩ else some b
      | none => some ⟨k + 1, length, cost⟩
    match ws with
    | [] => found
    | v :: _ =>
      if length + w.space + v.text.length < s.width then best s ends (k + 1) (length + w.space) ws (bs.drop 1) found
      else found

/-- The best breaks from each word on. The first line has to go with one that was before it. -/
def breaks (s : Shape) (indent : Nat) : List Piece → List Piece → List Break
  | _, [] => []
  | before, w :: ws =>
    let rest := breaks s indent (w :: before) ws
    match best s (lineCost s) 0 indent (w :: ws) rest none with
    | some b => { b with cost := b.cost + baseCost before w } :: rest
    | none => rest

def spaces (tabs : Bool) (column count : Nat) : Text :=
  let goal := column + count
  let tabGoal := goal / 8 * 8
  if tabs && column + 1 < tabGoal then
    List.replicate (tabGoal / 8 - column / 8) '\t' ++ List.replicate (goal - tabGoal) ' '
  else List.replicate count ' '

/-- The lines of words that have been broken. -/
def lines (tabs : Bool) (indent : Nat) : Nat → List Piece → List Break → Text
  | 0, _, _ => []
  | n + 1, ws, bs =>
    match bs with
    | [] => []
    | b :: _ =>
      let here := ws.take b.count
      let line := here.zipIdx.foldl (fun (t : Text × Nat) w =>
        let gap := if w.2 + 1 < here.length then spaces tabs (t.2 + w.1.text.length) w.1.space else []
        (t.1 ++ w.1.text ++ gap, t.2 + w.1.text.length + if w.2 + 1 < here.length then w.1.space else 0))
        (spaces tabs 0 indent, indent)
      line.1 ++ '\n' :: lines tabs indent n (ws.drop b.count) (bs.drop b.count)

def isGap (c : Char) : Bool := c = ' ' || c = '\t'

/-- A word with the column behind it and what follows it in the line. -/
def piece (s : Shape) (column : Nat) (w : Text) (rest : Text) : Piece × Nat × Text :=
  let gap := rest.takeWhile isGap
  let after := rest.drop gap.length
  let start := column + w.length
  let next := gap.foldl (fun k c => if c = '\t' then (k / 8 + 1) * 8 else k + 1) start
  let core := (w.reverse.take (w.length - 1)).dropWhile ")]'\"".toList.contains
  let last := (core.head?).getD ((w.head?).getD ' ')
  let stop := ".?!".toList.contains last
  let final := stop && (after.isEmpty || 1 < next - start)
  let isSign := fun (c : Char) => 33 ≤ c.toNat && c.toNat < 127 && !c.isAlphanum
  (⟨w, if after.isEmpty || s.uniform then if final then 2 else 1 else next - start,
    "(['`\"".toList.contains ((w.head?).getD ' '), isSign ((w.getLast?).getD ' '), stop, final⟩, next, after)

def pieces (s : Shape) : Nat → Nat → Text → List Piece
  | 0, _, _ | _, _, [] => []
  | n + 1, column, t =>
    let w := t.takeWhile (!isGap ·)
    let (p, next, rest) := piece s column w (t.drop w.length)
    p :: pieces s n next rest

def indentOf (l : Text) : Nat :=
  (l.takeWhile isGap).foldl (fun k c => if c = '\t' then (k / 8 + 1) * 8 else k + 1) 0

/-- One paragraph after the other. An empty line stays where it is. -/
def filled (s : Shape) (tabs : Bool) : Nat → List Text → Text
  | 0, _ | _, [] => []
  | n + 1, l :: ls =>
    let tabs := tabs || l.contains '\t'
    if l.all isGap then '\n' :: filled s tabs n ls
    else
      let indent := indentOf l
      let more := if s.apart then [] else ls.takeWhile fun k => !k.all isGap && indentOf k = indent
      let ws := (l :: more).flatMap fun k => pieces s (k.length + 1) indent (k.dropWhile isGap)
      let ws := match ws.reverse with
        | w :: rest => ({ w with stop := true, final := true } :: rest).reverse
        | [] => []
      let tabs := tabs || more.any (·.contains '\t')
      lines tabs indent (ws.length + 1) ws (breaks s indent [] ws) ++ filled s tabs n (ls.drop more.length)

/-- A width may be given as an option of its own. -/
def widened (args : List Text) : List Text :=
  match args with
  | ('-' :: d :: ds) :: as => if Text.isDigits (d :: ds) then "-w".toList :: (d :: ds) :: as else args
  | _ => args

def fmt : Tool := fun args m =>
  let u : Menu :=
    { plain := "ctsu", valued := "wgp", long := [("crown-margin", 'c'), ("tagged-paragraph", 't'), ("split-only", 's'),
      ("uniform-spacing", 'u'), ("width", 'w'), ("goal", 'g'), ("prefix", 'p')] }
  program "fmt" 1 u (fun g files m =>
    let number := fun c => (g.value? c).map Text.digitsValue
    let wrong := ((g.values 'w') ++ g.values 'g').find? (!Text.isDigits ·)
    match wrong with
    | some t => m.tell .err ("fmt: invalid width: ".toList ++ literal t ++ ['\n']) 1
    | none =>
      let width := match number 'w', number 'g' with
        | some w, _ => w
        | none, some g => g + 10
        | none, none => 75
      let goal := (number 'g').getD (width * 187 / 200)
      let s : Shape := ⟨width, goal, g.has 'u', g.has 's'⟩
      let (ss, n) := Source.opened files m
      let one := fun (c : Source) => match c.content with
        | .ok b =>
          let ls := (linesOf b).map fun l => textOf (bare l)
          Except.ok (Octet.encode (filled s false (ls.length + 1) ls))
        | .error e => .error (objection "fmt" (opening c.name e) 1)
      Source.finish (ss.map one) 0 n) (widened args) m

def all : List (Text × Tool) := [("fmt".toList, fmt)]

end Paragraph

end Guidebook.Shell
