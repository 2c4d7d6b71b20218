import Guidebook.Shell.Source

namespace Guidebook.Shell

/-! Bytes written in signs that can be seen, and read back from them. -/

/-- How bytes are shown: as characters, by name, or some at a time as a number. -/
inductive Shape where
  | char
  | named
  | number (base size : Nat) (signed : Bool)
  deriving DecidableEq, Repr

namespace Shape

def size : Shape → Nat
  | .char | .named => 1
  | .number _ size _ => size

/-- How many signs the longest value takes. -/
def width : Shape → Nat
  | .char | .named => 3
  | .number base size signed =>
    if base = 8 then (8 * size + 2) / 3
    else if base = 16 then 2 * size
    else (Text.ofNat (Nat.pow 2 (8 * size - if signed then 1 else 0))).length + if signed then 1 else 0

def names : List String :=
  ["nul", "soh", "stx", "etx", "eot", "enq", "ack", "bel", "bs", "ht", "nl", "vt", "ff", "cr", "so", "si",
   "dle", "dc1", "dc2", "dc3", "dc4", "nak", "syn", "etb", "can", "em", "sub", "esc", "fs", "gs", "rs", "us",
   "sp"]

def digitsIn (base : Nat) : Nat → Nat → Text
  | 0, _ => []
  | k + 1, n =>
    let d := n % base
    digitsIn base k (n / base) ++ [if d < 10 then Char.ofNat (48 + d) else Char.ofNat (87 + d)]

def charShown (n : Nat) : Text :=
  match n with
  | 0 => ['\\', '0']
  | 7 => ['\\', 'a']
  | 8 => ['\\', 'b']
  | 9 => ['\\', 't']
  | 10 => ['\\', 'n']
  | 11 => ['\\', 'v']
  | 12 => ['\\', 'f']
  | 13 => ['\\', 'r']
  | n => if 32 ≤ n && n < 127 then [Char.ofNat n] else digitsIn 8 3 n

/-- A value of bytes, of which the lowest one comes first. -/
def shown (s : Shape) (b : Bytes) : Text :=
  let n := b.foldr (fun x n => 256 * n + x.toNat) 0
  match s with
  | .char => charShown n
  | .named =>
    let k := n % 128
    if k = 127 then "del".toList else ((names[k]?).map String.toList).getD [Char.ofNat k]
  | .number base size signed =>
    if base = 10 then
      if signed && Nat.pow 2 (8 * size - 1) ≤ n then Text.ofInt ((n : Int) - Nat.pow 2 (8 * size)) else Text.ofNat n
    else digitsIn base s.width n

/-- The shapes that a text spells, each of which may ask for the characters behind it. -/
def ofText? : Nat → Text → Except Char (List (Shape × Bool))
  | 0, _ | _, [] => .ok []
  | n + 1, c :: cs =>
    let sizes := [('C', 1), ('S', 2), ('I', 4), ('L', 8)]
    let ds := cs.takeWhile Char.isDigit
    let (size, rest) := match cs with
      | d :: more => match sizes.lookup d with
        | some k => (k, more)
        | none => (if ds.isEmpty then 4 else Text.digitsValue ds, cs.drop ds.length)
      | [] => (4, [])
    let go := fun (s : Shape) (rest : Text) =>
      let z : Bool := rest.head? = some 'z'
      (ofText? n (if z then rest.drop 1 else rest)).map ((s, z) :: ·)
    match c with
    | 'c' => go .char cs
    | 'a' => go .named cs
    | 'd' => go (.number 10 size true) rest
    | 'u' => go (.number 10 size false) rest
    | 'o' => go (.number 8 size false) rest
    | 'x' => go (.number 16 size false) rest
    | c => .error c

end Shape

namespace Dump

open FileTool

/-- Contents in parts of the same size. -/
def inParts (size : Nat) : Nat → Bytes → List Bytes
  | 0, _ | _, [] => []
  | n + 1, x :: xs => (x :: xs).take (max 1 size) :: inParts size n ((x :: xs).drop (max 1 size))

/-- A line of values. Values of several shapes stand below each other, so that all lines are equally
wide. -/
def row (perLine total : Nat) (s : Shape) (spelled : Bool) (b : Bytes) : Text :=
  let fields := perLine / s.size
  let pad := total - s.width * fields
  let values := (inParts s.size b.length b).map fun p => s.shown (p ++ List.replicate (s.size - p.length) 0)
  let cells := values.zipIdx.map fun (v, k) =>
    let i := fields - k
    atRight (pad * i / fields - pad * (i - 1) / fields + s.width) v
  let visible := b.map fun x => if 32 ≤ x && x < 127 then Char.ofNat x.toNat else '.'
  let line := cells.flatten
  if spelled then Builtin.padTo total line ++ "  >".toList ++ visible ++ ['<'] else line

/-- How places are written, if they are. -/
def placeShown (radix : Char) (n : Nat) : Text :=
  match radix with
  | 'n' => []
  | 'd' => let t := Text.ofNat n; List.replicate (7 - t.length) '0' ++ t
  | 'x' => Shape.digitsIn 16 6 n
  | _ => Shape.digitsIn 8 7 n

/-- All lines. One that is the same as the one before it is left out, and a star stands for all of
those. -/
def rows (radix : Char) (perLine : Nat) (shapes : List (Shape × Bool)) (all : Bool) :
    Nat → Option Bytes → Bool → List Bytes → Text
  | _, _, _, [] => []
  | place, before, starred, b :: bs =>
    let go := fun starred => rows radix perLine shapes all (place + b.length) (some b) starred bs
    if !all && before = some b && b.length = perLine then
      (if starred then [] else ['*', '\n']) ++ go true
    else
      let total := (shapes.map fun s => (s.1.width + 1) * (perLine / s.1.size)).foldl max 0
      let front := placeShown radix place
      let lines := shapes.zipIdx.flatMap fun (s, i) =>
        (if i = 0 then front else List.replicate front.length ' ') ++ row perLine total s.1 s.2 b ++ ['\n']
      lines ++ go false

def plainShapes : List (Char × String) :=
  [('a', "a"), ('b', "o1"), ('c', "c"), ('d', "u2"), ('i', "d4"), ('l', "d8"), ('o', "o2"), ('s', "d2"),
   ('x', "x2")]

def od : Tool := program "od" 1
  { plain := "abcdilosxv", valued := "AjNtS", optional := "w",
    long := [("address-radix", 'A'), ("skip-bytes", 'j'), ("read-bytes", 'N'), ("format", 't'),
      ("output-duplicates", 'v'), ("width", 'w')] }
  fun g files m =>
    let asked := g.filterMap fun o =>
      if o.1 = 't' then some o.2 else (plainShapes.lookup o.1).map String.toList
    let asked := if asked.isEmpty then ["o2".toList] else asked
    let read := asked.map fun t => (Shape.ofText? (t.length + 1) t).mapError (·, t)
    match read.findSome? fun r => match r with
      | .error e => some e
      | .ok _ => none with
    | some (c, t) =>
      m.tell .err ("od: invalid character '".toList ++ c :: "' in type string ".toList ++ quoted t ++ ['\n']) 1
    | none =>
      let shapes := (read.filterMap Except.toOption).flatten
      let number := fun c => (g.value? c).bind sized?
      let perLine := match g.value? 'w' with
        | some [] => 32
        | some t => max 1 (Text.digitsValue t)
        | none => 16
      let (cs, complaints, n) := sources "od" "" 1 files m
      let whole := cs.flatMap (·.2)
      let skipped := (number 'j').getD 0
      let b := whole.drop skipped
      let b := match number 'N' with
        | some k => b.take k
        | none => b
      if whole.length < skipped then m.tell .err "od: cannot skip past end of combined input\n".toList 1
      else
        let radix := ((g.value? 'A').bind List.head?).getD 'o'
        let out := rows radix perLine shapes (g.has 'v') skipped none false (inParts perLine b.length b)
        let last := placeShown radix (skipped + b.length)
        let all := if cs.isEmpty then [] else out ++ if last.isEmpty then [] else last ++ ['\n']
        finish complaints (Octet.encode all) 0 n

/-- Signs for groups of bits: how many bits each stands for, and which signs there are. -/
structure Alphabet where
  bits : Nat
  signs : Text

namespace Alphabet

/-- How many bytes make a whole number of signs. -/
def group (a : Alphabet) : Nat := Nat.lcm a.bits 8 / 8

def encodeGroup (a : Alphabet) (b : Bytes) : Text :=
  let n := (b ++ List.replicate (a.group - b.length) 0).foldl (fun (n : Nat) (x : UInt8) => 256 * n + x.toNat) 0
  let all := a.group * 8 / a.bits
  let used := (8 * b.length + a.bits - 1) / a.bits
  ((List.range all).map fun i =>
    if i < used then (a.signs[n / Nat.pow 2 (a.bits * (all - 1 - i)) % Nat.pow 2 a.bits]?).getD '=' else '=')

def encode (a : Alphabet) (b : Bytes) : Text := (inParts a.group b.length b).flatMap a.encodeGroup

/-- The bytes of some signs, as far as they make sense, and whether they all do. -/
def decode (a : Alphabet) : Nat → Text → Bytes × Bool
  | 0, _ => ([], true)
  | n + 1, t =>
    let count := a.group * 8 / a.bits
    match t with
    | [] => ([], true)
    | t =>
      let part := t.take count
      let known := part.takeWhile (a.signs.contains ·)
      let value := known.foldl (fun n c => Nat.pow 2 a.bits * n + a.signs.findIdx (· = c)) 0 * Nat.pow 2 (a.bits * (count - known.length))
      let bytes := (List.range (known.length * a.bits / 8)).map fun i =>
        UInt8.ofNat (value / Nat.pow 2 (8 * (a.group - 1 - i)) % 256)
      let fine := part.length = count && (part.drop known.length).all (· = '=')
      if !fine then (bytes, false)
      else if known.length < count then (bytes, (t.drop count).isEmpty)
      else
        let r := decode a n (t.drop count)
        (bytes ++ r.1, r.2)

end Alphabet

def upper : Text := (List.range 26).map fun i => Char.ofNat (65 + i)

def lower : Text := upper.map Char.toLower

def sixBits : Alphabet := ⟨6, upper ++ lower ++ "0123456789+/".toList⟩

def fiveBits : Alphabet := ⟨5, upper ++ "234567".toList⟩

/-- Lines that are so long at the most; all is one line if there is no limit. -/
def wrapped (width : Nat) (t : Text) : Text :=
  if width = 0 then t
  else (inParts width t.length (t.map fun c => UInt8.ofNat c.toNat)).flatMap fun p =>
    p.map (fun (x : UInt8) => Char.ofNat x.toNat) ++ ['\n']

def signTool (tool : String) (a : Alphabet) : Tool := program tool 1
  { plain := "di", valued := "w", long := [("decode", 'd'), ("ignore-garbage", 'i'), ("wrap", 'w')] }
  fun g files m =>
    match files with
    | _ :: p :: _ => misused tool ("extra operand ".toList ++ literal p) 1 m
    | files =>
      let (cs, complaints, m) := sources tool "" 1 files m
      let b := cs.flatMap (·.2)
      if g.has 'd' then
        let t := (b.filter (· ≠ 10)).map fun (x : UInt8) => Char.ofNat x.toNat
        let t := if g.has 'i' then t.filter fun c => c = '=' || a.signs.contains c else t
        let (out, fine) := a.decode (t.length + 1) t
        let r := finish complaints out 0 m
        if fine then r
        else { r with printed := r.printed ++ [(.err, lineOf (tool.toList ++ ": invalid input".toList))],
                      finish := .status 1 }
      else
        let width := ((g.value? 'w').map Text.digitsValue).getD 76
        finish complaints (Octet.encode (wrapped width (a.encode b))) 0 m

/-- Runs of bytes that can be read, each with its place, if they are long enough. -/
def readable (least : Nat) : Nat → Nat → Bytes → List (Nat × Bytes)
  | 0, _, _ | _, _, [] => []
  | n + 1, place, x :: b =>
    let run := (x :: b).takeWhile fun y => y = 9 || (32 ≤ y && y < 127)
    if run.isEmpty then readable least n (place + 1) b
    else
      let rest := readable least n (place + run.length) ((x :: b).drop run.length)
      if least ≤ run.length then (place, run) :: rest else rest

def strings : Tool := program "strings" 1
  { plain := "af", valued := "nte", long := [("all", 'a'), ("bytes", 'n'), ("radix", 't'), ("print-file-name", 'f')] }
  fun g files m =>
    let least := max 1 (((g.value? 'n').map Text.digitsValue).getD 4)
    let shownPlace := fun (n : Nat) => match (g.value? 't').bind List.head? with
      | some 'd' => atRight 7 (Text.ofNat n) ++ [' ']
      | some 'x' => atRight 7 (Nat.toDigits 16 n) ++ [' ']
      | some 'o' => atRight 7 (Nat.toDigits 8 n) ++ [' ']
      | _ => []
    let (ss, n) := Source.opened files m
    let one := fun (s : Source) => match s.content with
      | .ok b => Except.ok ((readable least (b.length + 1) 0 b).flatMap fun (k, b) =>
          Octet.encode ((if g.has 'f' then s.name ++ ": ".toList else []) ++ shownPlace k) ++ b ++ [10])
      | .error .notFound => .error (objection "strings" ('\'' :: s.name ++ "': No such file".toList) 1)
      | .error .isDirectory => .error (objection "strings" ("Warning: '".toList ++ s.name ++ "' is a directory".toList) 1)
      | .error e =>
        .error (objection "strings" ("Warning: could not locate '".toList ++ s.name ++ "'.  reason: ".toList ++ reason e) 1)
    Source.finish (ss.map one) 0 n

def all : List (Text × Tool) :=
  [("od".toList, od), ("strings".toList, strings), ("base64".toList, signTool "base64" sixBits),
   ("base32".toList, signTool "base32" fiveBits)]

end Dump

end Guidebook.Shell
