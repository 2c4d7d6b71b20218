import Guidebook.Shell.FileTool

namespace Guidebook.Shell

/-! Orders that are not those of a list: words some of which come before others, and lines in any order. -/

/-- Words with how many come before each of them that have not been told yet, and which come behind it, latest
first. They stand in their usual order. -/
structure Precedence where
  items : List (Text × Nat × List Text)

namespace Precedence

open FileTool

def count (n : Precedence) (x : Text) : Nat := ((n.items.lookup x).map (·.1)).getD 0

def behind (n : Precedence) (x : Text) : List Text := ((n.items.lookup x).map (·.2)).getD []

def change (n : Precedence) (x : Text) (f : Nat × List Text → Nat × List Text) : Precedence :=
  ⟨n.items.map fun i => if i.1 = x then (i.1, f i.2) else i⟩

/-- One word comes before another one. A word that comes before itself only counts as a word. -/
def add (n : Precedence) (a b : Text) : Precedence :=
  if a = b then n
  else (n.change a fun i => (i.1, b :: i.2)).change b fun i => (i.1 + 1, i.2)

def ofPairs (ws : List Text) : Precedence :=
  let names := (ws.eraseDups).mergeSort Builtin.inOrder
  go ws ⟨names.map fun x => (x, 0, [])⟩
where
  go : List Text → Precedence → Precedence
    | a :: b :: ws, n => go ws (n.add a b)
    | _, n => n

/-- Tells words for which nothing is left that comes before them, one after the other. -/
def told : Nat → List Text → Precedence → List Text × Precedence
  | 0, _, n | _, [], n => ([], n)
  | k + 1, x :: queue, n =>
    let (n, free) := (n.behind x).foldl (fun (s : Precedence × List Text) y =>
      let m := s.1.change y fun i => (i.1 - 1, i.2)
      (m, if m.count y = 0 then s.2 ++ [y] else s.2)) (n, [])
    let n := ⟨n.items.filter (·.1 ≠ x)⟩
    let r := told k (queue ++ free) n
    (x :: r.1, r.2)

/-- The words from one to another one by links. -/
def chain (links : List (Text × Text)) (last : Text) : Nat → Text → List Text
  | 0, x => [x]
  | k + 1, x =>
    if x = last then [x]
    else match links.lookup x with
      | some y => x :: chain links last k y
      | none => [x]

/-- Looks for words that come before each other in a circle, and takes one of the reasons for that away. -/
def opened : Nat → List Text → Option Text → List (Text × Text) → Precedence → List Text × Precedence
  | 0, _, _, _, n => ([], n)
  | k + 1, [], mark, links, n => opened k (n.items.map (·.1)) mark links n
  | k + 1, x :: xs, mark, links, n =>
    if n.count x = 0 then opened k xs mark links n
    else match mark with
      | none => opened k xs (some x) links n
      | some y =>
        if !(n.behind x).contains y then opened k xs mark links n
        else if (links.lookup x).isNone then opened k xs (some x) ((x, y) :: links) n
        else (chain links x links.length y,
          (n.change x fun i => (i.1, i.2.erase y)).change y fun i => (i.1 - 1, i.2))

/-- All words in an order that fits, with circles that were found behind some of them. -/
def listed : Nat → Precedence → List (List Text × List Text)
  | 0, _ => []
  | k + 1, n =>
    let free := (n.items.filter (·.2.1 = 0)).map (·.1)
    let (ws, n) := told (n.items.length + 1) free n
    if n.items.isEmpty then [(ws, [])]
    else
      let (circle, n) := opened (4 * n.items.length * (n.items.length + 1)) (n.items.map (·.1)) none [] n
      (ws, circle) :: listed k n

def isGap (c : Char) : Bool := c = ' ' || c = '\t' || c = '\n'

def tsort : Tool := program "tsort" 1 { plain := "w" } fun _ files m =>
  match files with
  | _ :: p :: _ => misused "tsort" ("extra operand ".toList ++ literal p) 1 m
  | files =>
    let name := (files.head?).getD ['-']
    let (cs, complaints, n) := sources "tsort" "" 1 files m
    let ws := (Text.pieces isGap (textOf (cs.flatMap (·.2)))).filter (!·.isEmpty)
    if !complaints.isEmpty then finish complaints [] 1 n
    else if ws.length % 2 = 1 then
      finish [objection "tsort" (named name ++ ": input contains an odd number of tokens".toList) 1] [] 1 n
    else
      let parts := listed (ws.length * ws.length + 1) (ofPairs ws)
      let said := parts.flatMap fun (xs, circle) =>
        let words := xs.flatMap lineOf
        let complaints := if circle.isEmpty then [] else
          objection "tsort" (named name ++ ": input contains a loop:".toList) 1 :: circle.map fun x => objection "tsort" x 1
        (if words.isEmpty then [] else [(Channel.out, words)]) ++ complaints.map fun c => (.err, Octet.encode c.what)
      ⟨n, said, .status (if parts.all (·.2.isEmpty) then 0 else 1)⟩

/-- Lines in some order, which may be any. -/
def shuf : Tool := program "shuf" 1
  { plain := "erz", valued := "inoR", long := [("echo", 'e'), ("input-range", 'i'), ("head-count", 'n'),
      ("output", 'o'), ("repeat", 'r'), ("zero-terminated", 'z'), ("random-source", 'R')] }
  fun g args m =>
    let mark : UInt8 := if g.has 'z' then 0 else 10
    let range := (g.value? 'i').map fun t => match Text.cut? '-' t with
      | some (a, b) =>
        if Text.isDigits a && Text.isDigits b && Text.digitsValue a ≤ Text.digitsValue b + 1 then
          some ((List.range (Text.digitsValue b + 1 - Text.digitsValue a)).map fun i => Text.ofNat (Text.digitsValue a + i))
        else none
      | none => none
    let most := (g.value? 'n').map Text.digitsValue
    let shown := fun (ls : List Bytes) (m : Machine) =>
      let ls := match most with
        | some k => if g.has 'r' && !ls.isEmpty then (List.range k).filterMap fun i => ls[i % ls.length]? else ls.take k
        | none => ls
      let out := ls.flatMap fun l => l ++ [mark]
      match g.value? 'o' with
      | none => finish [] out 0 m
      | some p => each [fun t => settle t (complain "shuf" "" (named p) · 1) (t.write p out)] m
    if range = some none then
      m.tell .err ("shuf: invalid input range: ".toList ++ literal ((g.value? 'i').getD []) ++ ['\n']) 1
    else match range with
      | some (some ns) => shown (ns.map Octet.encode) m
      | _ =>
        if g.has 'e' then shown (args.map Octet.encode) m
        else
          let (cs, complaints, n) := sources "shuf" "" 1 (args.take 1) m
          let b := cs.flatMap (·.2)
          let ls := if mark = 10 then (linesOf b).map bare else (linesOf (b.map fun x => if x = 0 then 10 else x)).map bare
          if complaints.isEmpty then shown ls n else finish complaints [] 1 n

def all : List (Text × Tool) := [("tsort".toList, tsort), ("shuf".toList, shuf)]

end Precedence

end Guidebook.Shell
