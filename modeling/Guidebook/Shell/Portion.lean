import Guidebook.Shell.FileTool
import Guidebook.Shell.Numeral

namespace Guidebook.Shell

/-! Tools for parts of files: blocks that are copied, files that are cut off or filled up, and pieces that become
files of their own. -/

namespace Portion

open FileTool

/-- Puts a piece of bytes over others from a place on. What is behind it stays or goes. -/
def overlaid (old piece : Bytes) (place : Nat) (stays : Bool) : Bytes :=
  Disk.overlaid (if stays then old else old.take place) piece place

/-- How blocks are copied: what is read and how much at a time, what is written and how much at a time, how many
blocks are left out, passed over and copied at most, what is done to them, and how much is said. -/
structure Copying where
  source : Option Text := none
  target : Option Text := none
  inSize : Nat := 512
  outSize : Nat := 512
  whole : Bool := false
  lineSize : Nat := 0
  skip : Nat := 0
  seek : Nat := 0
  count : Option Nat := none
  inBytes : List Text := []
  changes : List Text := []
  status : Text := []

/-- A number of things or of bytes, or a product of such numbers; the flag tells whether it is one of bytes. -/
def amount? (t : Text) : Option (Nat × Bool) :=
  let inBytes := t.getLast? = some 'B' && ((t.dropLast.getLast?).map Char.isDigit).getD false
  let t := if inBytes then t.dropLast else t
  ((Text.pieces (· == 'x') t).mapM sized?).map fun ns => (ns.foldl (· * ·) 1, inBytes)

def knownChanges : List String :=
  ["ascii", "ebcdic", "ibm", "block", "unblock", "lcase", "ucase", "sparse", "swab", "sync", "excl", "nocreat", "notrunc",
   "noerror", "fdatasync", "fsync"]

def knownFlags : List String :=
  ["append", "binary", "cio", "direct", "directory", "dsync", "noatime", "nocache", "nofollow", "nolinks", "nonblock",
   "sync", "text", "fullblock", "count_bytes", "skip_bytes", "seek_bytes", "noctty"]

/-- One more operand, or what is wrong with it, and whether help is offered. -/
def Copying.told (w : Copying) (a : Text) : Except (Text × Bool) Copying :=
  let what := if "--".toList.isPrefixOf a then "unrecognized option " else "unrecognized operand "
  let unknown : Except (Text × Bool) Copying := .error (what.toList ++ literal a, true)
  match Text.cut? '=' a with
  | none => unknown
  | some (name, v) =>
    let words := Text.pieces (· == ',') v
    let known := fun (what : String) (all : List String) (f : List Text → Copying) =>
      match words.find? fun x => !all.contains (String.ofList x) with
      | some x => .error ("invalid ".toList ++ what.toList ++ ": ".toList ++ literal x, true)
      | none => .ok (f words)
    let counted := fun (least : Nat) (f : Nat → Bool → Copying) =>
      match (amount? v).filter (least ≤ ·.1) with
      | some (n, inBytes) => .ok (f n inBytes)
      | none => .error ("invalid number: ".toList ++ literal v, false)
    let inBytes := fun (flag : String) (isSo : Bool) => if isSo then flag.toList :: w.inBytes else w.inBytes
    match String.ofList name with
    | "if" => .ok { w with source := some v }
    | "of" => .ok { w with target := some v }
    | "bs" => counted 1 fun n _ => { w with inSize := n, outSize := n, whole := true }
    | "ibs" => counted 1 fun n _ => if w.whole then w else { w with inSize := n }
    | "obs" => counted 1 fun n _ => if w.whole then w else { w with outSize := n }
    | "cbs" => counted 1 fun n _ => { w with lineSize := n }
    | "skip" | "iseek" => counted 0 fun n b => { w with skip := n, inBytes := inBytes "skip_bytes" b }
    | "seek" | "oseek" => counted 0 fun n b => { w with seek := n, inBytes := inBytes "seek_bytes" b }
    | "count" => counted 0 fun n b => { w with count := some n, inBytes := inBytes "count_bytes" b }
    | "conv" => known "conversion" knownChanges fun ws => { w with changes := w.changes ++ ws }
    | "iflag" => known "input flag" knownFlags fun ws => { w with inBytes := w.inBytes ++ ws.filter (· ≠ "append".toList) }
    | "oflag" => known "output flag" knownFlags fun ws => { w with inBytes := w.inBytes ++ ws }
    | "status" => known "status level" ["none", "noxfer", "progress"] fun _ => { w with status := v }
    | _ => unknown

def Copying.does (w : Copying) (change : String) : Bool := w.changes.contains change.toList

def Copying.isIn (w : Copying) (flag : String) : Bool := w.inBytes.contains flag.toList

/-- Bytes in pieces of some size. -/
def blocks (size : Nat) : Nat → Bytes → List Bytes
  | 0, _ | _, [] => []
  | n + 1, b => b.take size :: blocks size n (b.drop size)

def swapped : Bytes → Bytes
  | x :: y :: rest => y :: x :: swapped rest
  | rest => rest

/-- What becomes of the bytes that have been read. -/
def Copying.changed (w : Copying) (b : Bytes) : Bytes :=
  let b := if w.does "sync" then (blocks w.inSize b.length b).flatMap fun p =>
      p ++ List.replicate (w.inSize - p.length) (if w.does "block" || w.does "unblock" then 32 else 0)
    else b
  let b := if w.does "swab" then (blocks w.inSize b.length b).flatMap swapped else b
  let b := if w.does "ucase" then b.map fun x => if 97 ≤ x && x ≤ 122 then x - 32 else x
    else if w.does "lcase" then b.map fun x => if 65 ≤ x && x ≤ 90 then x + 32 else x
    else b
  if w.does "block" && w.lineSize ≠ 0 then
    (linesOf b).flatMap fun l => (bare l).take w.lineSize ++ List.replicate (w.lineSize - (bare l).length) 32
  else if w.does "unblock" && w.lineSize ≠ 0 then
    (blocks w.lineSize b.length b).flatMap fun l => (l.reverse.dropWhile (· = 32)).reverse ++ [10]
  else b

/-- A number of bytes in a larger unit, if it is large enough. -/
def inUnits (base : Nat) (units : List String) (n : Nat) : Option Text :=
  go 1 units
where
  go (k : Nat) : List String → Option Text
    | [] => none
    | u :: us =>
      let size := base.pow k
      if n < size then none
      else (go (k + 1) us).orElse fun _ =>
        let tenths := (n * 10 * 2 + size) / (2 * size)
        let t := if tenths < 100 then Text.ofNat (tenths / 10) ++ '.' :: Text.ofNat (tenths % 10)
          else Text.ofNat ((n * 2 + size) / (2 * size))
        some (t ++ ' ' :: u.toList)

/-- What is said of a number of bytes that have been copied. -/
def copied (n : Nat) : Text :=
  let large := (inUnits 1000 ["kB", "MB", "GB", "TB"] n).toList ++ (inUnits 1024 ["KiB", "MiB", "GiB", "TiB"] n).toList
  Text.ofNat n ++ (if n = 1 then " byte" else " bytes").toList ++
    (if large.isEmpty then [] else " (".toList ++ ", ".toList.intercalate large ++ [')']) ++
    " copied, 0.0001 s, ".toList ++
    (inUnits 1000 ["kB", "MB", "GB", "TB"] (n * 10000)).getD (Text.ofNat (n * 10000) ++ " B".toList) ++ "/s\n".toList

/-- Copies blocks of bytes. -/
def dd : Tool := fun args m =>
  match args.foldlM Copying.told ({} : Copying) with
  | .error (why, true) => misused "dd" why 1 m
  | .error (why, false) => m.tell .err ("dd: ".toList ++ why ++ ['\n']) 1
  | .ok w =>
    let skip := if w.isIn "skip_bytes" then w.skip else w.skip * w.inSize
    let seek := if w.isIn "seek_bytes" then w.seek else w.seek * w.outSize
    let limit := w.count.map fun n => if w.isIn "count_bytes" then n else n * w.inSize
    let source := match w.source with
      | some p => (m.tree.read p).mapError fun e =>
          if e = IoFault.isDirectory then "dd: error reading ".toList ++ quoted p ++ ": ".toList ++ reason e
          else "dd: failed to open ".toList ++ quoted p ++ ": ".toList ++ reason e
      | none => .ok m.input
    match source with
    | .error why => m.tell .err (why ++ ['\n']) 1
    | .ok all =>
      let c := match limit with
        | some n => (all.drop skip).take n
        | none => all.drop skip
      let n := if w.source.isNone then { m with input := all.drop (skip + c.length) } else m
      let out := w.changed c
      let counts := fun (size k : Nat) => Text.ofNat (k / size) ++ '+' :: (if k % size = 0 then ['0'] else ['1'])
      let said :=
        if w.status = "none".toList then []
        else
          counts w.inSize c.length ++ " records in\n".toList ++ counts w.outSize out.length ++ " records out\n".toList ++
            if w.status = "noxfer".toList then [] else copied out.length
      let said := if said.isEmpty then [] else [(Channel.err, Octet.encode said)]
      match w.target with
      | none => ⟨n, (if out.isEmpty then [] else [(Channel.out, out)]) ++ said, .status 0⟩
      | some p =>
        let fail := fun (e : IoFault) => m.tell .err ("dd: failed to open ".toList ++ quoted p ++ ": ".toList ++ reason e ++ ['\n']) 1
        if w.does "excl" && m.tree.existsAt p then fail .alreadyExists
        else if w.does "nocreat" && !m.tree.existsAt p then fail .notFound
        else match m.tree.opened p true with
        | .error e => fail e
        | .ok (t, k) =>
          let place := fun (old : Bytes) => if w.isIn "append" then old.length else seek
          let t := t.setContent k fun old => overlaid old out (place old) (w.does "notrunc" || w.isIn "append" && w.does "notrunc")
          ⟨{ n with tree := t }, said, .status 0⟩

/-- Cuts a file or fills it with zeros. -/
def resize (made : Bool) (size : Nat → Nat) (p : Text) : Act := fun t =>
  if !made && !t.existsAt p then (t, [], none)
  else settle t (complain "truncate" "cannot open " (quoted p ++ " for writing".toList) · 1) do
    let (t, k) ← t.opened p true
    return t.setContent k fun c => c.take (size c.length) ++ List.replicate (size c.length - c.length) 0

/-- A size that may be relative to the one there is, and whether it is. -/
def sizing? (t : Text) : Except Text (Bool × (Nat → Nat)) :=
  let t := Text.trimStart t
  let relative := fun (ds : Text) (f : Nat → Nat → Nat) => match Numeral.large ds with
    | .ok n => .ok (true, fun k => f k n)
    | .error why => .error ("Invalid number: ".toList ++ why)
  let rounded := fun (ds : Text) (f : Nat → Nat → Nat) =>
    if (Numeral.large ds).toOption = some 0 then .error "division by zero".toList else relative ds f
  match t with
  | '+' :: ds => relative ds (· + ·)
  | '-' :: ds => relative ds (· - ·)
  | '<' :: ds => relative (Text.trimStart ds) min
  | '>' :: ds => relative (Text.trimStart ds) max
  | '%' :: ds => rounded (Text.trimStart ds) fun k n => (k + n - 1) / n * n
  | '/' :: ds => rounded (Text.trimStart ds) fun k n => k / n * n
  | ds => match Numeral.large ds with
    | .ok n => .ok (false, fun _ => n)
    | .error why => .error ("Invalid number: ".toList ++ why)

def truncate : Tool := program "truncate" 1
  { plain := "co", valued := "sr", long := [("no-create", 'c'), ("io-blocks", 'o'), ("size", 's'), ("reference", 'r')] }
  fun g files m =>
    let fail := fun (why : Text) => m.tell .err ("truncate: ".toList ++ why ++ ['\n']) 1
    let sizings := (g.values 's').map sizing?
    let sizing := match sizings.find? fun r => !r.isOk with
      | some r => r.map some
      | none => match sizings.getLast? with
        | some r => r.map some
        | none => .ok none
    let reference := (g.value? 'r').map fun p => (m.tree.read p).map List.length
    match sizing, reference with
    | .error why, _ => fail why
    | .ok none, none => misused "truncate" "you must specify either '--size' or '--reference'".toList 1 m
    | .ok (some (false, _)), some _ =>
      misused "truncate" "you must specify a relative '--size' with '--reference'".toList 1 m
    | .ok s, r =>
      if files.isEmpty then misused "truncate" "missing file operand".toList 1 m
      else match r with
        | some (.error e) => fail ("cannot stat ".toList ++ quoted ((g.value? 'r').getD []) ++ ": ".toList ++ reason e)
        | r =>
          let base := r.bind fun x => x.toOption
          let size := fun (old : Nat) => ((s.map (·.2)).getD id) (base.getD old)
          each (files.map (resize (!g.has 'c') size)) m

/-- Writes other bytes to files, which may go away afterwards. -/
def shred : Tool := program "shred" 1
  { plain := "fuvxz", valued := "ns", long := [("force", 'f'), ("iterations", 'n'), ("size", 's'), ("remove", 'u'),
      ("verbose", 'v'), ("exact", 'x'), ("zero", 'z')] }
  fun g files m =>
    if files.isEmpty then misused "shred" "missing file operand".toList 1 m
    else each (files.map fun p (t : Disk) => match t.read p with
      | .error e => refusing (objection "shred" (named p ++ ": failed to open for writing: ".toList ++ reason e) 1) t
      | .ok b =>
        let size := ((g.value? 's').bind sized?).getD (if g.has 'x' then b.length else (b.length + 4095) / 4096 * 4096)
        let t := (t.write p (List.replicate size 0)).toOption.getD t
        (if g.has 'u' then (t.removeFile p).toOption.getD t else t, [], none)) m

def all : List (Text × Tool) :=
  [("dd".toList, dd), ("truncate".toList, truncate), ("shred".toList, shred)]

end Portion

end Guidebook.Shell
