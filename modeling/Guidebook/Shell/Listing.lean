import Guidebook.Shell.Inquiry
import Guidebook.Shell.Numeral

namespace Guidebook.Shell

namespace Listing

open FileTool Inquiry

/-- Something that is listed: its name, its address and its node. -/
structure Entry where
  name : Text
  address : Address
  node : Node

def isHidden (n : Text) : Bool := n.head? = some '.'

/-- A sign for what a node is. -/
def sign (g : Given) (n : Node) : Text :=
  match n with
  | .dir _ => if g.hasAny "Fpj" then ['/'] else []
  | .link .. => if g.hasAny "Fj" then ['@'] else []
  | .file m _ => if g.has 'F' && Node.runs m.mode then ['*'] else []
  | .device .. => []

def shownSize (g : Given) (n : Nat) : Text := if g.has 'h' then human n else Text.ofNat n

/-- A moment as it stands in a line: the clock is told only if it was not long ago. -/
def shownTime (g : Given) (now time : Nat) : Text :=
  let full := "%Y-%m-%d %H:%M:%S.%N %z".toList
  let isRecent := time ≤ now && now < time + 15778476000000
  let style := match g.latest? "yz", (g.value? 'y').map String.ofList with
    | some 'z', _ => some full
    | _, some "full-iso" => some full
    | _, some "long-iso" => some "%Y-%m-%d %H:%M".toList
    | _, some "iso" => some (if isRecent then "%m-%d %H:%M" else "%Y-%m-%d ").toList
    | _, some t => if t.toList.head? = some '+' then some (t.toList.drop 1) else none
    | _, none => none
  match style with
  | some f => if f = full then moment time else Calendar.shown (secondsOf time) (f.length + 8) f
  | none =>
    Calendar.shown (secondsOf time) 20 (if isRecent then "%b %e %H:%M" else "%b %e  %Y").toList

def widest (ts : List Text) : Nat := (ts.map (·.length)).foldl max 0

def quotedName (g : Given) (name : Text) : Text :=
  if g.has 'Q' then '"' :: name.flatMap (fun c => if c = '"' || c = '\\' then ['\\', c] else [c]) ++ ['"'] else name

/-- Lines about nodes whose columns stand below each other. -/
def long (g : Given) (t : Disk) (es : List Entry) : List Text :=
  let owner := if g.has 'n' then ['0'] else "root".toList
  let names := fun (e : Entry) => Text.ofNat (namesOf t e.address e.node)
  let size := fun (e : Entry) => match e.node with
    | .device .. => "1, 3".toList
    | n => shownSize g (bytesOf n)
  let namesWidth := widest (es.map names)
  let sizeWidth := widest (es.map size)
  es.map fun e =>
    let people := (if g.has 'g' then [] else owner ++ [' ']) ++ (if g.hasAny "oG" then [] else owner ++ [' '])
    let front := modeLine e.node ++ ' ' :: atRight namesWidth (names e) ++ ' ' :: people ++
      atRight sizeWidth (size e) ++ ' ' :: shownTime g t.now e.node.time ++ [' ']
    front ++ quotedName g e.name ++ match e.node with
      | .link _ u => " -> ".toList ++ quotedName g u ++ match t.node? (Walk.target t e.address) with
        | some (.link ..) | none => []
        | some n => sign g n
      | n => sign g n

/-- Entries in the order that is asked for. -/
def ordered (g : Given) (es : List Entry) : List Entry :=
  let ending := fun (e : Entry) => if e.name.contains '.' then e.name.reverse.takeWhile (· ≠ '.') |>.reverse else []
  let es := match g.latest? "StXUfkV" with
    | some 'V' => es.mergeSort fun a b => Version.order a.name b.name != .gt
    | some 'S' => es.mergeSort fun a b => bytesOf b.node ≤ bytesOf a.node
    | some 't' => es.mergeSort fun a b => b.node.time ≤ a.node.time
    | some 'X' => es.mergeSort fun a b => Builtin.inOrder (ending a) (ending b)
    | _ => es
  let es := if g.has 'r' && !g.hasAny "Uf" then es.reverse else es
  if g.has 'D' then
    let r := es.partition (·.node.isDir)
    r.1 ++ r.2
  else es

/-- Spaces and tabs from one place in a line to another one. -/
def gap : Nat → Nat → Nat → Text
  | 0, _, _ => []
  | n + 1, a, b =>
    if b ≤ a then []
    else if (a + 1) / 8 < b / 8 then '\t' :: gap n (a + 8 - a % 8) b
    else ' ' :: gap n (a + 1) b

/-- Cuts names into lines of columns, which fill a line of so many signs as well as they can. -/
def columns (across : Bool) (width : Nat) (ts : List Text) : List Text :=
  let n := ts.length
  let column := fun (k i : Nat) => if across then i % k else i / ((n + k - 1) / k)
  let widths := fun (k : Nat) => (List.range k).map fun c =>
    ((ts.zipIdx.filter fun x => column k x.2 = c).map fun x => x.1.length + if c + 1 = k then 0 else 2).foldl max 3
  let k := ((List.range (min n (width / 3))).map (· + 1)).reverse.find? fun k => (widths k).foldl (· + ·) 0 < width
  let k := k.getD 1
  let ws := widths k
  let rows := (n + k - 1) / k
  (List.range rows).map fun r =>
    let row := ts.zipIdx.filter fun x => if across then x.2 / k = r else x.2 % rows = r
    (row.foldl (fun (s : Text × Nat × Nat) x =>
      let start := s.2.2
      (s.1 ++ gap (start + 1) s.2.1 start ++ x.1, start + x.1.length,
        start + (ws[column k x.2]?).getD 0)) ([], 0, 0)).1

/-- Names behind each other, with commas between them, in lines of so many signs. -/
def commaed (width : Nat) : Nat → List Text → Text
  | _, [] => []
  | _, [t] => t
  | place, t :: u :: ts =>
    let place := place + t.length
    if place + u.length + 2 < width then t ++ ", ".toList ++ commaed width (place + 2) (u :: ts)
    else t ++ ",\n".toList ++ commaed width 0 (u :: ts)

def isLong (g : Given) : Bool := g.hasAny "lgnoz"

def rows (g : Given) (t : Disk) (es : List Entry) : Bytes :=
  let names := if isLong g then long g t es else es.map fun e => quotedName g e.name ++ sign g e.node
  let blocks := es.map fun e => shownSize g (if g.has 'h' then blocksOf e.node * 512 else blocksOf e.node / 2)
  let serials := es.map fun e => Text.ofNat ((t.serial? e.address).getD 0 + 1000)
  let beside := fun (isAsked : Bool) (width : Nat) (fs ns : List Text) =>
    if isAsked then (fs.zip ns).map fun (f, n) => atRight width f ++ ' ' :: n else ns
  let shown := beside (g.has 's') (widest blocks) blocks names
  let shown := beside (g.has 'i') (widest serials) serials shown
  let width := match (g.value? 'w').map Text.digitsValue with
    | some 0 => 1000000
    | some n => n
    | none => 80
  if isLong g then shown.flatMap lineOf
  else match g.latest? "m1Cx" with
    | some 'm' => if shown.isEmpty then [] else lineOf (commaed width 0 shown)
    | some 'C' => (columns false width shown).flatMap lineOf
    | some 'x' => (columns true width shown).flatMap lineOf
    | _ => shown.flatMap lineOf

/-- Whether a name is to be left out. -/
def isIgnored (g : Given) (name : Text) : Bool :=
  let fits := fun (p : Text) => Glob.fits (Glob.ofGlyphs (p.map (·, false))) name
  (g.values 'I').any fits || (!g.hasAny "aAf" && (g.values 'E').any fits) || g.has 'B' && name.getLast? = some '~'

/-- An entry as it is, or what it leads to. -/
def entry (g : Given) (t : Disk) (name : Text) (a : Address) : Option Entry :=
  let b := if g.has 'L' then Walk.target t a else a
  (t.node? b).map (⟨name, b, ·⟩)

/-- What is in a directory. -/
def entries (g : Given) (t : Disk) (a : Address) : List Entry :=
  let names := (Glob.namesIn t a).filter fun n => (g.hasAny "aAf" || !isHidden n) && !isIgnored g n
  let dots := if g.hasAny "af" then
      [(['.'], a), (['.', '.'], a.dropLast)].filterMap fun d => entry g t d.1 d.2
    else []
  ordered g (dots ++ names.filterMap fun n => entry g t n (a ++ [n]))

def inner (g : Given) (t : Disk) (es : List Entry) : Bytes :=
  let blocks := (es.map fun e => blocksOf e.node).foldl (· + ·) 0 / 2
  (if isLong g || g.has 's' then
    lineOf ("total ".toList ++ if g.has 'h' then human (blocks * 1024) else Text.ofNat blocks) else []) ++ rows g t es

/-- The parts of a listing of a directory and, if that is asked for, of those in it. -/
def parts (g : Given) (t : Disk) : Nat → Text → Address → List (Text × Bytes)
  | 0, _, _ => []
  | n + 1, p, a =>
    let es := entries g t a
    (p, inner g t es) :: if !g.has 'R' then [] else
      (es.filter fun e => e.node.isDir && e.name ≠ ['.'] && e.name ≠ ['.', '.']).flatMap fun e =>
        parts g t n (Walk.under p e.name) e.address

/-- A long name that tells the order is one of the letters for it. -/
def unfolded (g : Given) : Given :=
  g.map fun o =>
    if o.1 = 'v' then ('V', [])
    else if o.1 ≠ 'O' then o
    else
      let orders := [("size", 'S'), ("time", 't'), ("none", 'U'), ("extension", 'X'), ("name", 'k'), ("version", 'V')]
      ((orders.lookup (String.ofList o.2)).getD 'k', [])

/-- Lists what is there in a way that holds unless something else is asked for. -/
def lister (tool : String) (usual : Given) : Tool := program tool 2
  { plain := "aAdFpRrStUfl1CxmihksnogGBcuLHqQbNvXZV", valued := "ITwyOE", hidden := "V", optional := "Y",
    long := [("all", 'a'), ("almost-all", 'A'), ("directory", 'd'), ("classify", 'F'), ("recursive", 'R'),
      ("reverse", 'r'), ("size", 's'), ("inode", 'i'), ("color", 'Y'), ("quote-name", 'Q'), ("file-type", 'j'),
      ("human-readable", 'h'), ("ignore", 'I'), ("group-directories-first", 'D'), ("full-time", 'z'),
      ("time-style", 'y'), ("sort", 'O'), ("no-group", 'G'), ("numeric-uid-gid", 'n'), ("dereference", 'L'),
      ("width", 'w'), ("ignore-backups", 'B'), ("literal", 'N'), ("hide", 'E')] }
  fun g args m =>
    let t := m.tree
    let g := usual ++ unfolded g
    let ps := if args.isEmpty then [['.']] else args
    let look := fun (p : Text) =>
      let named := t.entry p
      if g.hasAny "LH" then (match t.find p with
        | .ok r => .ok r
        | .error e => if g.has 'L' then .error e else named)
      else if g.hasAny "dF" || isLong g then named
      else match t.find p with
        | .ok (a, .dir m) => .ok (a, .dir m)
        | _ => named
    let bad := ps.filterMap fun p => match look p with
      | .error e => some (complain tool "cannot access " (quoted p) e 2)
      | .ok _ => none
    let found := ps.filterMap fun p => (look p).toOption.map fun r => (⟨p, r.1, r.2⟩ : Entry)
    let byName := if g.hasAny "Uf" then found else found.mergeSort fun a b => Builtin.inOrder a.name b.name
    let (dirs, others) := (ordered g byName).partition fun e => e.node.isDir && !g.has 'd'
    let named := 1 < ps.length || g.has 'R'
    let blocks := (if others.isEmpty then [] else [rows g t others]) ++
      (dirs.flatMap fun e => parts g t t.size e.name e.address).map fun (p, b) =>
        if named then lineOf (p ++ [':']) ++ b else b
    match Numeral.flawed? Numeral.large (g.values 'w') with
    | some why => finish [objection tool ("invalid line width: ".toList ++ why) 2] [] 2 m
    | none => finish bad ([10].intercalate blocks) 0 m

def all : List (Text × Tool) :=
  [("ls".toList, lister "ls" []), ("dir".toList, lister "dir" [('C', [])]), ("vdir".toList, lister "vdir" [('l', [])])]

end Listing

end Guidebook.Shell
