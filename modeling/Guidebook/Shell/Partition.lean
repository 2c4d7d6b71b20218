import Guidebook.Shell.Condition
import Guidebook.Shell.Numeral
import Guidebook.Shell.Pattern
import Guidebook.Shell.Portion
import Guidebook.Shell.Printf
import Guidebook.Shell.Source

namespace Guidebook.Shell

/-! Files that are divided into pieces, each of which becomes a file. -/

namespace Partition

open FileTool

/-! ## Pieces of some size -/

/-- What pieces are: so many lines, so many bytes, as many lines as fit into so many bytes, or one of so many parts, of
which perhaps only one is shown. -/
inductive Plan where
  | lines (n : Nat)
  | bytes (n : Nat)
  | packed (n : Nat)
  | parts (n : Nat) (one : Option Nat)
  | lineParts (n : Nat) (one : Option Nat)
  | dealt (n : Nat) (one : Option Nat)
  deriving DecidableEq, Repr

/-- Lists of so many things each. -/
def groups (size : Nat) : Nat → List α → List (List α)
  | 0, _ | _, [] => []
  | n + 1, xs => xs.take size :: groups size n (xs.drop size)

/-- As many lines as fit, or so much of a line as fits. What has been taken comes last. -/
def packs (size : Nat) : Nat → Bytes → List Bytes → List Bytes
  | 0, held, _ => if held.isEmpty then [] else [held]
  | _, held, [] => if held.isEmpty then [] else [held]
  | n + 1, held, l :: ls =>
    if held.length + l.length ≤ size then packs size n (held ++ l) ls
    else if held.isEmpty then l.take size :: packs size n [] (l.drop size :: ls)
    else held :: packs size n [] (l :: ls)

/-- The sizes of so many parts of something. The first ones are larger if they cannot all be alike. -/
def sizes (total n : Nat) : List Nat := (List.range n).map fun i => total / n + if i < total % n then 1 else 0

/-- Pieces of these sizes. -/
def takes : List Nat → List α → List (List α)
  | [], _ => []
  | k :: ks, xs => xs.take k :: takes ks (xs.drop k)

/-- Lines by the part in which they begin, whose ends are told. -/
def byStart : List Nat → Nat → List Bytes → List Bytes
  | [], _, _ => []
  | e :: es, place, ls =>
    let r := before e place ls
    r.1.flatten :: byStart es r.2.1 r.2.2
where
  /-- The lines that begin in front of a place, where the next one begins, and the others. -/
  before (e : Nat) : Nat → List Bytes → List Bytes × Nat × List Bytes
    | place, l :: ls =>
      if place < e then
        let r := before e (place + l.length) ls
        (l :: r.1, r.2)
      else ([], place, l :: ls)
    | place, [] => ([], place, [])

def ends : Nat → List Nat → List Nat
  | _, [] => []
  | n, k :: ks => (n + k) :: ends (n + k) ks

def Plan.pieces (s : Plan) (mark : UInt8) (b : Bytes) : List Bytes :=
  let ls := endedBy mark b
  match s with
  | .lines n => (groups n ls.length ls).map List.flatten
  | .bytes n => groups n b.length b
  | .packed n => packs n (b.length + ls.length + 1) [] ls
  | .parts n _ => takes (sizes b.length n) b
  | .lineParts n _ => byStart (ends 0 (sizes b.length n)) 0 ls
  | .dealt n _ => (List.range n).map fun i => ((ls.zipIdx.filter fun x => x.2 % n = i).map (·.1)).flatten

def Plan.one : Plan → Option Nat
  | .parts _ k | .lineParts _ k | .dealt _ k => k
  | _ => none

/-- How many files there will be, if that is known. -/
def Plan.number : Plan → Option Nat
  | .parts n _ | .lineParts n _ | .dealt n _ => some n
  | _ => none

/-- How the names of files end: by which signs, how many, whether there may be more of them, with which number they
begin, and what comes behind. -/
structure Endings where
  signs : Text
  width : Nat
  grows : Bool
  first : Nat
  last : Text

/-- A number in some signs. -/
def inSigns (signs : Text) : Nat → Nat → Text
  | 0, _ => []
  | w + 1, n => inSigns signs w (n / signs.length) ++ ((signs[n % signs.length]?).getD 'a') :: []

/-- The ending of the name of a file by its number, if there are enough. Where there may be more signs, the last
sign in front tells that there are. -/
def Endings.of (e : Endings) (k : Nat) : Option Text :=
  go (e.width + k + 2) e.width [] (e.first + k)
where
  go : Nat → Nat → Text → Nat → Option Text
    | 0, _, _, _ => none
    | n + 1, width, front, k =>
      let base := e.signs.length
      let room := if e.grows then (base - 1) * base.pow (width - 1) else base.pow width
      if k < room then some (front ++ inSigns e.signs width k ++ e.last)
      else if e.grows then go n (width + 1) (front ++ e.signs.getLast?.toList) (k - room)
      else none

def digitsOf (base n : Nat) : Nat → Nat
  | 0 => 1
  | fuel + 1 => if n < base then 1 else digitsOf base (n / base) fuel + 1

/-- The sort of the pieces that a number of them tells. -/
def partsOf (t : Text) : Except Text Plan :=
  let number := fun (u : Text) => match Numeral.large u with
    | .ok n => if n = 0 then .error ("invalid number of chunks: ".toList ++ literal u) else .ok n
    | .error why => .error ("invalid number of chunks: ".toList ++ why)
  let counted := fun (u : Text) (f : Nat → Option Nat → Plan) => match Text.cut? '/' u with
    | none => (number u).map (f · none)
    | some (k, n) => do
      let n ← number n
      match Numeral.large k with
      | .ok i => if i = 0 || n < i then .error ("invalid chunk number: ".toList ++ literal k) else .ok (f n (some i))
      | .error _ => .error ("invalid chunk number: ".toList ++ literal k)
  match t with
  | 'l' :: '/' :: u => counted u .lineParts
  | 'r' :: '/' :: u => counted u .dealt
  | u => counted u .parts

/-- The sort of the pieces that options tell. -/
def sortOf (g : Given) : Except (Text × Bool) Plan :=
  let asked := g.filter fun o => "lbCn".toList.contains o.1 || o.1.isDigit
  let digits := (asked.filter fun o => o.1.isDigit).map (·.1)
  let sorts := (asked.filter fun o => !o.1.isDigit) ++ if digits.isEmpty then [] else [('l', digits)]
  match sorts with
  | [] => .ok (.lines 1000)
  | [(c, t)] =>
    if c = 'n' then (partsOf t).mapError (·, false)
    else
      let what := if c = 'l' then "invalid number of lines: " else "invalid number of bytes: "
      match Numeral.large t with
      | .error why => .error (what.toList ++ why, false)
      | .ok 0 => .error (what.toList ++ literal t, false)
      | .ok n => .ok (if c = 'l' then .lines n else if c = 'b' then .bytes n else .packed n)
  | _ => .error ("cannot split in more than one way".toList, true)

/-- How names end, as options and the number of the files tell. -/
def endingsOf (g : Given) (s : Plan) : Except (Text × Bool) Endings := do
  let signs := match g.latest? "dDxX" with
    | some 'd' | some 'D' => "0123456789".toList
    | some _ => "0123456789abcdef".toList
    | none => "abcdefghijklmnopqrstuvwxyz".toList
  let start := ((g.value? 'D').orElse fun _ => g.value? 'X').filter (!·.isEmpty)
  let first ← match start with
    | none => .ok 0
    | some t =>
      match t.mapM fun c => signs.idxOf? c with
      | some ds => .ok (ds.foldl (fun n d => signs.length * n + d) 0)
      | none =>
        let sort := if signs.length = 16 then "hexadecimal" else "numerical"
        .error (literal t ++ ": invalid start value for ".toList ++ sort.toList ++ " suffix".toList, true)
  let last := (g.value? 'A').getD []
  if last.contains '/' then .error ("invalid suffix ".toList ++ quoted last ++ ", contains directory separator".toList, true)
  else
    let asked ← match (g.value? 'a') with
      | none => .ok 0
      | some t => match Numeral.whole (some 0) t with
        | .ok k => .ok k.toNat
        | .error why => .error ("invalid suffix length: ".toList ++ why, false)
    let needed := match s.number with
      | some n => digitsOf signs.length (n - 1 + if first < n then first else 0) 64
      | none => 0
    if asked ≠ 0 && asked < needed then
      .error ("the suffix length needs to be at least ".toList ++ Text.ofNat needed, false)
    else if asked ≠ 0 then return ⟨signs, asked, false, first, last⟩
    else return ⟨signs, max 2 needed, s.number.isNone && start.isNone, first, last⟩

def menu : Menu :=
  { plain := "deuxV0123456789", valued := "lbnaCtAF", optional := "DX", hidden := "AFDXV",
    long := [("lines", 'l'), ("bytes", 'b'), ("line-bytes", 'C'), ("number", 'n'), ("suffix-length", 'a'),
      ("numeric-suffixes", 'D'), ("hex-suffixes", 'X'), ("additional-suffix", 'A'), ("elide-empty-files", 'e'),
      ("separator", 't'), ("unbuffered", 'u'), ("verbose", 'V')] }

def markOf (t : Text) : Except Text UInt8 :=
  match Octet.encode t with
  | [] => .error "empty record separator".toList
  | [x] => .ok x
  | [92, 48] => .ok 0
  | _ => .error ("multi-character separator ".toList ++ literal t)

/-- Does one thing after the other up to the first that does not work. -/
def inTurn : List Act → Machine → Ran
  | [], m => m.ends 0
  | a :: as, m =>
    let r := each [a] m
    if r.finish.code ≠ 0 then r
    else
      let s := inTurn as r.machine
      ⟨s.machine, r.printed ++ s.printed, s.finish⟩

def split : Tool := program "split" 1 menu fun g args m =>
  let planned := do
    let s ← sortOf g
    let e ← endingsOf g s
    let mark ← (((g.value? 't').map markOf).getD (.ok 10)).mapError (·, false)
    return (s, e, mark)
  match planned, args with
  | .error (why, true), _ => misused "split" why 1 m
  | .error (why, false), _ => finish [objection "split" why 1] [] 1 m
  | _, _ :: _ :: p :: _ => misused "split" ("extra operand ".toList ++ literal p) 1 m
  | .ok (s, e, mark), args =>
    let (ss, n) := Source.opened (args.take 1) m
    let content : Except IoFault Bytes := ((ss.head?).map fun x => x.content).getD (.ok [])
    let name := (args.head?).getD []
    match content with
    | .error .isDirectory => finish [complain "split" "" (named name) .isDirectory 1] [] 1 n
    | .error err => finish [complain "split" "cannot open " (quoted name ++ " for reading".toList) err 1] [] 1 n
    | .ok b =>
      let front := (args[1]?).getD ['x']
      let ps := s.pieces mark b
      match s.one with
      | some k => finish [] ((ps[k - 1]?).getD []) 0 n
      | none =>
        let ps := if g.has 'e' then ps.filter (!·.isEmpty) else ps
        let acts : List Act := ps.zipIdx.map fun (c, i) (t : Disk) => match e.of i with
          | some ending =>
            let p := front ++ ending
            match t.write p c with
            | .ok t => saying (g.has 'V') ("creating file ".toList ++ quoted p) t
            | .error err => refusing (complain "split" "" (named p) err 1) t
          | none => refusing (objection "split" "output file suffixes exhausted".toList 1) t
        inTurn acts n

/-! ## Pieces that end where something is found -/

/-- Where a piece ends: in front of a line by its number, or by what is in it, perhaps so many lines later or earlier.
What is in front of it may be left out. Then how many times more the same holds, as often as it can be if nothing is
said. -/
structure Cut where
  line : Option Nat
  pattern : Option Pattern
  shift : Int
  skips : Bool
  shown : Text
  again : Option Nat

/-- The cuts that arguments tell, or one that makes no sense. -/
def cuts? : Nat → List Text → Except Text (List Cut)
  | 0, _ | _, [] => .ok []
  | n + 1, a :: as => do
    let (again, rest) ← match as with
      | ('\x7b' :: t) :: rest =>
        if t = "*\x7d".toList then .ok (none, rest)
        else if t.getLast? = some '\x7d' && Text.isDigits t.dropLast then .ok (some (Text.digitsValue t.dropLast), rest)
        else .error (literal ('\x7b' :: t) ++ ": integer required between '\x7b' and '\x7d'".toList)
      | rest => .ok (some 0, rest)
    let cut ← match a with
      | c :: t =>
        if c = '/' || c = '%' then
          let body := t.reverse.dropWhile (· ≠ c)
          let after := t.drop body.length
          match body, Pattern.ofText? .basic (body.drop 1).reverse with
          | [], _ => .error (literal a ++ ": closing delimiter '".toList ++ [c] ++ "' missing".toList)
          | _, none => .error (literal a ++ ": invalid regular expression".toList)
          | _, some p => .ok (⟨none, some p, (Condition.integer? after).getD 0, c = '%', a, again⟩ : Cut)
        else if Text.isDigits a then .ok ⟨some (Text.digitsValue a), none, 0, false, a, again⟩
        else .error (literal a ++ ": invalid pattern".toList)
      | [] => .error (literal a ++ ": invalid pattern".toList)
    let more ← cuts? n rest
    return cut :: more

/-- The number of the line in front of which a piece ends that begins with some line. -/
def Cut.place? (c : Cut) (lines : List Bytes) (start nth : Nat) : Option Nat :=
  match c.line, c.pattern with
  | some n, _ => if n * (nth + 1) ≤ lines.length then some (n * (nth + 1)) else none
  | none, some p =>
    let first := if start = 1 && nth = 0 then start else start + 1
    let found := ((lines.zipIdx 1).drop (first - 1)).find? fun x => p.occursIn false (textOf (bare x.1))
    found.bind fun x =>
      let i := (x.2 : Int) + c.shift
      if (start : Int) ≤ i && i ≤ lines.length + 1 then some i.toNat else none
  | none, none => none

/-- The pieces of some lines, and the cut that could not be made. -/
def cutUp (lines : List Bytes) : Nat → Nat → Nat → List Cut → List Bytes × Option (Cut × Nat)
  | 0, _, _, _ => ([], none)
  | _, start, _, [] => ([(lines.drop (start - 1)).flatten], none)
  | n + 1, start, nth, c :: cs =>
    match c.place? lines start nth with
    | none =>
      if c.again.isNone then cutUp lines n start 0 cs
      else ([(lines.drop (start - 1)).flatten], some (c, nth))
    | some place =>
      let r := if c.again.all (nth < ·) then cutUp lines n place (nth + 1) (c :: cs) else cutUp lines n place 0 cs
      if c.skips then r else (((lines.drop (start - 1)).take (place - start)).flatten :: r.1, r.2)

def csplit : Tool := program "csplit" 1
  { plain := "kszm", valued := "fnb", long := [("prefix", 'f'), ("digits", 'n'), ("suffix-format", 'b'),
      ("keep-files", 'k'), ("quiet", 's'), ("silent", 's'), ("elide-empty-files", 'z'), ("suppress-matched", 'm')] }
  fun g args m =>
    match args with
    | [] => missing "csplit" m
    | [p] => misused "csplit" ("missing operand after ".toList ++ literal p) 1 m
    | p :: cuts =>
      match cuts? cuts.length cuts, sources "csplit" "cannot open " 1 [p] m with
      | .error why, _ => m.tell .err ("csplit: ".toList ++ why ++ ['\n']) 1
      | .ok cs, (contents, complaints, n) =>
        if !complaints.isEmpty then finish (complaints.map fun _ =>
          objection "csplit" ("cannot open ".toList ++ quoted p ++ " for reading: No such file or directory".toList) 1) [] 1 n
        else
          let lines := linesOf (contents.flatMap (·.2))
          let r := cutUp lines (lines.length * (cs.length + 1) + 2) 1 0 cs
          let pieces := if g.has 'z' then r.1.filter (!·.isEmpty) else r.1
          let width := ((g.value? 'n').map Text.digitsValue).getD 2
          let front := (g.value? 'f').getD "xx".toList
          let name := fun (i : Nat) => front ++ match g.value? 'b' with
            | some f => textOf (Printf.round (f.length + 1) f [Text.ofNat i]).bytes
            | none => List.replicate (width - (Text.ofNat i).length) '0' ++ Text.ofNat i
          let sizes := if g.has 's' then [] else pieces.flatMap fun b => lineOf (Text.ofNat b.length)
          let made := each (pieces.zipIdx.map fun (b, i) (t : Disk) =>
            settle t (complain "csplit" "" (named (name i)) · 1) (t.write (name i) b)) n
          match r.2 with
          | none => { made with printed := (if sizes.isEmpty then [] else [(.out, sizes)]) ++ made.printed }
          | some (c, nth) =>
            let why := (if c.line.isSome then ": line number out of range" else ": match not found").toList
            let why := if 0 < nth then why ++ " on repetition ".toList ++ Text.ofNat nth else why
            let dropped := fun (t : Disk) (i : Nat) => (t.removeFile (name i)).toOption.getD t
            let tree := (List.range pieces.length).foldl dropped made.machine.tree
            let left := if g.has 'k' then made.machine else { made.machine with tree }
            finish [objection "csplit" (literal c.shown ++ why) 1] sizes 1 left

def all : List (Text × Tool) := [("split".toList, split), ("csplit".toList, csplit)]

end Partition

end Guidebook.Shell
