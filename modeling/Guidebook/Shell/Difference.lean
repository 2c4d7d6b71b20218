import Guidebook.Shell.FileTool

namespace Guidebook.Shell

/-- What has happened to a line between two texts. -/
inductive Fate where
  | kept
  | gone
  | made
  deriving DecidableEq, Repr

/-- Lines that stand in one place of each text: where they start, counted from 0, and the lines
themselves. Lines that are kept at the edges of a hunk are no part of it. -/
structure Hunk where
  old : Nat
  new : Nat
  lines : List (Fate × Bytes)

namespace Hunk

def gone (h : Hunk) : List Bytes := (h.lines.filter (·.1 = .gone)).map (·.2)

def made (h : Hunk) : List Bytes := (h.lines.filter (·.1 = .made)).map (·.2)

/-- How many lines of each text a hunk covers. -/
def oldSize (h : Hunk) : Nat := (h.lines.filter (·.1 ≠ .made)).length

def newSize (h : Hunk) : Nat := (h.lines.filter (·.1 ≠ .gone)).length

end Hunk

namespace Difference

open FileTool

variable {α : Type}

/-- How much the rests of two lists have in common, for one element of the first and all rests of the
second, from what is so for the element after it. -/
def row [DecidableEq α] (a : α) : List α → List Nat → List Nat
  | b :: bs, x :: xs =>
    let r := row a bs xs
    (if a = b then xs.headD 0 + 1 else max x (r.headD 0)) :: r
  | _, _ => [0]

def table [DecidableEq α] (bs : List α) : List α → List (List Nat)
  | [] => [List.replicate (bs.length + 1) 0]
  | a :: as =>
    let rows := table bs as
    row a bs (rows.headD []) :: rows

/-- The fates of all lines, where as many are kept as can be. The number bounds the steps. -/
def fates [DecidableEq α] : Nat → List α → List α → List (List Nat) → List Fate
  | 0, _, _, _ => []
  | _, [], bs, _ => bs.map fun _ => .made
  | _, as, [], _ => as.map fun _ => .gone
  | n + 1, a :: as, b :: bs, rows =>
    if a = b then .kept :: fates n as bs ((rows.drop 1).map (·.drop 1))
    else
      let withoutOld := (((rows.drop 1).headD []).headD 0)
      let withoutNew := (((rows.headD []).drop 1).headD 0)
      if withoutNew ≤ withoutOld then .gone :: fates n as (b :: bs) (rows.drop 1)
      else .made :: fates n (a :: as) bs (rows.map (·.drop 1))

/-- Lines with their fates. Those that are kept are shown as they were. -/
def told : List Fate → List Bytes → List Bytes → List (Fate × Bytes)
  | .kept :: fs, a :: as, _ :: bs => (.kept, a) :: told fs as bs
  | .gone :: fs, a :: as, bs => (.gone, a) :: told fs as bs
  | .made :: fs, as, b :: bs => (.made, b) :: told fs as bs
  | _, _, _ => []

/-- Moves a run of lines with the same fate on, as long as the line behind it is like its first one. -/
def slid (key : Bytes → Bytes) : Nat → List (Fate × Bytes) → List (Fate × Bytes)
  | 0, ls => ls
  | _, [] => []
  | n + 1, (f, a) :: ls =>
    if f = .kept then (f, a) :: slid key n ls
    else
      let run := ls.takeWhile (·.1 = f)
      match ls.drop run.length with
      | (.kept, k) :: rest =>
        if key k = key a then (.kept, a) :: slid key n (run ++ (f, k) :: rest)
        else (f, a) :: run ++ (.kept, k) :: slid key n rest
      | rest =>
        let more := rest.takeWhile (·.1 ≠ .kept)
        (f, a) :: run ++ more ++ slid key n (rest.drop more.length)

/-- How many elements two lists have in common at their start. -/
def shared [DecidableEq α] : List α → List α → Nat
  | a :: as, b :: bs => if a = b then shared as bs + 1 else 0
  | _, _ => 0

/-- How two texts differ, line by line. What they share at both ends, but for so many lines, is not
looked at. -/
def compared (key : Bytes → Bytes) (margin : Nat) (a b : Bytes) : List (Fate × Bytes) :=
  let as := linesOf a
  let bs := linesOf b
  let ks := as.map key
  let ls := bs.map key
  let front := shared ks ls
  let back := shared (ks.drop front).reverse (ls.drop front).reverse - margin
  let front := front - margin
  let inner := fun {β : Type} (xs : List β) => (xs.drop front).take (xs.length - front - back)
  let n := as.length + bs.length + 1
  let middle := slid key n
    (told (fates n (inner ks) (inner ls) (table (inner ls) (inner ks))) (inner as) (inner bs))
  (as.take front).map (.kept, ·) ++ middle ++ (as.drop (as.length - back)).map (.kept, ·)

/-- Splits lines where so many in a row are kept that two changes do not belong together; that many
lines at each side go with a change. -/
def hunksFrom (context : Nat) : Nat → Nat → Nat → List (Fate × Bytes) → List Hunk
  | 0, _, _, _ => []
  | n + 1, old, new, ls =>
    let quiet := ls.takeWhile (·.1 = .kept)
    match ls.drop quiet.length with
    | [] => []
    | rest =>
      let before := min context quiet.length
      let lead := quiet.drop (quiet.length - before)
      let body := together (2 * context) rest.length rest
      let behind := (rest.drop body.length).takeWhile (·.1 = .kept)
      let h : Hunk :=
        ⟨old + quiet.length - before, new + quiet.length - before, lead ++ body ++ behind.take context⟩
      h :: hunksFrom context n
        (old + quiet.length + (body.filter (·.1 ≠ .made)).length)
        (new + quiet.length + (body.filter (·.1 ≠ .gone)).length) (rest.drop body.length)
where
  /-- Changes between which no more lines are kept than may be. -/
  together (most : Nat) : Nat → List (Fate × Bytes) → List (Fate × Bytes)
    | 0, _ => []
    | n + 1, ls =>
      let change := ls.takeWhile (·.1 ≠ .kept)
      let rest := ls.drop change.length
      let quiet := rest.takeWhile (·.1 = .kept)
      if quiet.length ≤ most && !(rest.drop quiet.length).isEmpty then
        change ++ quiet ++ together most n (rest.drop quiet.length)
      else change

def hunks (context : Nat) (ls : List (Fate × Bytes)) : List Hunk := hunksFrom context ls.length 0 0 ls

def noEnd : Bytes := Octet.encode "\\ No newline at end of file\n".toList

/-- A line behind a mark. -/
def marked (front : String) (l : Bytes) : Bytes :=
  Octet.encode front.toList ++ bare l ++ 10 :: if isEnded l then [] else noEnd

/-- Lines by their numbers; none at all are named by the line before them. -/
def rangeOf (start size : Nat) : Text :=
  if size = 0 then Text.ofNat start
  else if size = 1 then Text.ofNat (start + 1)
  else Text.ofNat (start + 1) ++ ',' :: Text.ofNat (start + size)

def plainly (h : Hunk) : Bytes :=
  let sign := if h.gone.isEmpty then 'a' else if h.made.isEmpty then 'd' else 'c'
  lineOf (rangeOf h.old h.oldSize ++ sign :: rangeOf h.new h.newSize) ++
    h.gone.flatMap (marked "< ") ++
    (if sign = 'c' then Octet.encode "---\n".toList else []) ++ h.made.flatMap (marked "> ")

/-- Lines by the first of them and how many there are. -/
def sizedRange (start size : Nat) : Text :=
  if size = 0 then Text.ofNat start ++ ",0".toList
  else if size = 1 then Text.ofNat (start + 1)
  else Text.ofNat (start + 1) ++ ',' :: Text.ofNat size

def unified (h : Hunk) : Bytes :=
  lineOf ("@@ -".toList ++ sizedRange h.old h.oldSize ++ " +".toList ++ sizedRange h.new h.newSize ++ " @@".toList) ++
    h.lines.flatMap fun l => marked (match l.1 with
      | .kept => " "
      | .gone => "-"
      | .made => "+") l.2

/-- What of a line counts. -/
def keyOf (g : Given) (l : Bytes) : Bytes :=
  let isBlank := fun (x : UInt8) => x = 32 || x = 9 || x = 13
  let l := if g.has 'i' then l.map fun x => if 65 ≤ x && x ≤ 90 then x + 32 else x else l
  if g.has 'w' then (bare l).filter (!isBlank ·)
  else if g.has 'b' then
    let words := ((bare l).splitOnP isBlank).filter (!·.isEmpty)
    (if (l.head?.map isBlank).getD false then [32] else []) ++ ([32] : Bytes).intercalate words
  else l

def timeless : Text := "\t1970-01-01 00:00:00.000000000 +0000".toList

/-- What is said about two contents, and whether they differ. -/
def report (g : Given) (front : Text) (p q : Text) (a b : Bytes) : Bytes × Bool :=
  let same := a = b || !(compared (keyOf g) 0 a b).any fun l => l.1 ≠ .kept
  if same then (if g.has 's' then lineOf ("Files ".toList ++ p ++ " and ".toList ++ q ++ " are identical".toList) else [], false)
  else if g.has 'q' then (lineOf ("Files ".toList ++ p ++ " and ".toList ++ q ++ " differ".toList), true)
  else if (a.contains 0 || b.contains 0) && !g.has 'a' then
    (lineOf ("Binary files ".toList ++ p ++ " and ".toList ++ q ++ " differ".toList), true)
  else
    let context := (g.value? 'U').map Text.digitsValue
    let isUnified := g.has 'u' || context.isSome
    let ls := compared (keyOf g) (if isUnified then context.getD 3 else 0) a b
    if isUnified then
      let labels := g.values 'L'
      let name := fun (i : Nat) (p : Text) => (labels[i]?).getD (p ++ timeless)
      (Octet.encode front ++ lineOf ("--- ".toList ++ name 0 p) ++ lineOf ("+++ ".toList ++ name 1 q) ++
        (hunks (context.getD 3) ls).flatMap unified, true)
    else (Octet.encode front ++ (hunks 0 ls).flatMap plainly, true)

/-- What is said about two paths, complaints, and the status. -/
structure Verdict where
  out : Printed
  status : Nat

def Verdict.join (v w : Verdict) : Verdict := ⟨v.out ++ w.out, max v.status w.status⟩

def Verdict.both (vs : List Verdict) : Verdict := vs.foldl Verdict.join ⟨[], 0⟩

def outcome (r : Bytes × Bool) : Verdict := ⟨if r.1.isEmpty then [] else [(.out, r.1)], if r.2 then 1 else 0⟩

def failure (p : Text) (e : IoFault) : Verdict := ⟨[(.err, (complain "diff" "" p e 2).what |> Octet.encode)], 2⟩

def remark (t : Text) (status : Nat) : Verdict := ⟨[(.out, lineOf t)], status⟩

def namesOf (t : Disk) (p : Text) : List Text :=
  match t.find p with
  | .ok (a, .dir _) => Glob.namesIn t a
  | _ => []

/-- Compares two paths. What is in directories is compared name by name; those in them only if that is
asked for. -/
def judge (g : Given) (words : Text) (input : Bytes) (t : Disk) : Nat → Bool → Text → Text → Verdict
  | 0, _, _, _ => ⟨[], 0⟩
  | n + 1, inside, p, q =>
    let content : Text → Except IoFault Bytes := fun p => if isInput p then .ok input else t.read p
    let front := if inside then "diff ".toList ++ words ++ p ++ ' ' :: q ++ ['\n'] else []
    if t.isDirAt p && t.isDirAt q then
      if inside && !g.has 'r' then remark ("Common subdirectories: ".toList ++ p ++ " and ".toList ++ q) 0
      else
        let ns := namesOf t p
        let ks := namesOf t q
        let all := (ns ++ ks.filter (!ns.contains ·)).mergeSort fun a b => !decide (Octet.encode b < Octet.encode a)
        Verdict.both (all.map fun name =>
          let a := Walk.under p name
          let b := Walk.under q name
          if ns.contains name && ks.contains name || g.has 'N' then judge g words input t n true a b
          else remark ("Only in ".toList ++ (if ns.contains name then p else q) ++ ": ".toList ++ name) 1)
    else if inside && t.isDirAt p && t.existsAt q then
      remark ("File ".toList ++ p ++ " is a directory while file ".toList ++ q ++ " is a regular file".toList) 1
    else if inside && t.isDirAt q && t.existsAt p then
      remark ("File ".toList ++ p ++ " is a regular file while file ".toList ++ q ++ " is a directory".toList) 1
    else if t.isDirAt p && !inside then judge g words input t n false (Walk.under p (Walk.lastName q)) q
    else if t.isDirAt q && !inside then judge g words input t n false p (Walk.under q (Walk.lastName p))
    else
      let lax : Except IoFault Bytes → Except IoFault Bytes := fun r => match r with
        | .error .notFound => if g.has 'N' then .ok [] else r
        | r => r
      match lax (content p), lax (content q) with
      | .ok a, .ok b => outcome (report g front p q a b)
      | .error e, .ok _ => failure p e
      | .ok _, .error e => failure q e
      | .error e, .error f => (failure p e).join (failure q f)

def menu : Menu :=
  { plain := "iwbBqsruNaydtTpe", valued := "ULxC",
    long := [("ignore-case", 'i'), ("ignore-all-space", 'w'), ("ignore-space-change", 'b'), ("brief", 'q'),
      ("report-identical-files", 's'), ("recursive", 'r'), ("new-file", 'N'), ("text", 'a'), ("unified", 'u'),
      ("label", 'L'), ("minimal", 'd')] }

def diff : Tool := fun args m =>
  let misused := fun (why : Text) =>
    m.tell .err ("diff: ".toList ++ why ++ "\ndiff: Try 'diff --help' for more information.\n".toList) 2
  match menu.read args with
  | .error why => misused why
  | .ok (g, files) =>
    match files with
    | [] => misused "missing operand after 'diff'".toList
    | [p] => misused ("missing operand after ".toList ++ literal p)
    | _ :: _ :: p :: _ => misused ("extra operand ".toList ++ literal p)
    | [p, q] =>
      let words := (args.filter fun a => a.head? = some '-' && 1 < a.length).flatMap (· ++ [' '])
      let v := judge g words m.input m.tree (m.tree.size + 1) false p q
      ⟨if isInput p || isInput q then { m with input := [] } else m, v.out, .status v.status⟩

/-- The first place where contents are not the same. -/
def firstDifference : Nat → Bytes → Bytes → Option Nat
  | n, a :: as, b :: bs => if a = b then firstDifference (n + 1) as bs else some n
  | _, _, _ => none

def octal (width : Nat) (x : UInt8) : Text :=
  let n := x.toNat
  let ds := [n / 64, n / 8 % 8, n % 8].map fun k => Char.ofNat (48 + k)
  let short := ds.dropWhile (· = '0')
  atRight width (if short.isEmpty then ['0'] else short)

/-- What is said when one of two contents is the start of the other one. -/
def shorter (name : Text) (part : Bytes) (ofPlaces : Bool) : Text :=
  if part.isEmpty then "cmp: EOF on ".toList ++ name ++ " which is empty".toList
  else
    let place := if ofPlaces then []
      else ", ".toList ++ (if part.getLast? = some 10 then "line " else "in line ").toList ++
        Text.ofNat (part.count 10 + if part.getLast? = some 10 then 0 else 1)
    "cmp: EOF on ".toList ++ name ++ " after byte ".toList ++ Text.ofNat part.length ++ place

def cmpResult (g : Given) (p q : Text) (a b : Bytes) (m : Machine) : Ran :=
  let silent := g.has 's'
  let (short, name) := if a.length < b.length then (a, p) else (b, q)
  let ends := if a.length = b.length || silent then []
    else [(Channel.err, lineOf (shorter name short (g.has 'l')))]
  let finish := Finish.status (if a = b then 0 else 1)
  if g.has 'l' then
    let width := (Text.ofNat (min a.length b.length)).length
    let rows := ((a.zip b).zipIdx.filter fun x => x.1.1 ≠ x.1.2).flatMap fun x =>
      lineOf (atRight width (Text.ofNat (x.2 + 1)) ++ ' ' :: octal 3 x.1.1 ++ ' ' :: octal 3 x.1.2)
    ⟨m, ends ++ if rows.isEmpty then [] else [(.out, rows)], finish⟩
  else match firstDifference 0 a b with
    | none => ⟨m, ends, finish⟩
    | some n =>
      let line := (a.take n).count 10 + 1
      let said := p ++ ' ' :: q ++ " differ: char ".toList ++ Text.ofNat (n + 1) ++ ", line ".toList ++ Text.ofNat line
      ⟨m, if silent then [] else [(.out, lineOf said)], finish⟩

def cmp : Tool := fun args m =>
  let misused := fun (why : Text) =>
    m.tell .err ("cmp: ".toList ++ why ++ "\ncmp: Try 'cmp --help' for more information.\n".toList) 2
  let u : Menu :=
    { plain := "slb", valued := "ni", long := [("silent", 's'), ("quiet", 's'), ("verbose", 'l'), ("bytes", 'n')] }
  match u.read args with
  | .error why => misused why
  | .ok (g, files) =>
    let pair := match files with
      | [p] => some (p, ['-'])
      | [p, q] => some (p, q)
      | _ => none
    match files, pair with
    | [], _ => misused "missing operand after 'cmp'".toList
    | _, none => misused ("extra operand ".toList ++ literal ((files[2]?).getD []))
    | _, some (p, q) =>
      let content : Text → Except IoFault Bytes := fun p => if isInput p then .ok m.input else m.tree.read p
      let trimmed := fun (b : Bytes) =>
        let b := b.drop (((g.value? 'i').bind sized?).getD 0)
        match (g.value? 'n').bind sized? with
        | some n => b.take n
        | none => b
      let n := if isInput p || isInput q then { m with input := [] } else m
      match content p, content q with
      | .ok a, .ok b => cmpResult g p q (trimmed a) (trimmed b) n
      | .error e, _ => finish (if g.has 's' then [] else [complain "cmp" "" p e 2]) [] 2 m
      | _, .error e => finish (if g.has 's' then [] else [complain "cmp" "" q e 2]) [] 2 m

def all : List (Text × Tool) := [("diff".toList, diff), ("cmp".toList, cmp)]

end Difference

end Guidebook.Shell
