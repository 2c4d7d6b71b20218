import Guidebook.Shell.Source

namespace Guidebook.Shell

/-! Sums of bytes by which contents are told apart. Words are taken from the bytes, a state of words is
changed by one block of them after the other, and what is left of the state is the sum. -/

namespace Digest

open FileTool

/-- The least root of a number: the greatest whole number whose power is not greater, found bit by
bit. -/
def root (power : Nat) (n : Nat) : Nat → Nat → Nat
  | 0, r => r
  | k + 1, r =>
    let s := r + Nat.pow 2 k
    root power n k (if s.pow power ≤ n then s else r)

def isPrime (n : Nat) : Bool := 1 < n && (List.range n).all fun d => d < 2 || n % d ≠ 0

def primes (count : Nat) : List Nat := ((List.range 420).filter isPrime).take count

/-- The first bits behind the point of a root of a prime number. -/
def rootBits (w power p : Nat) : BitVec w := BitVec.ofNat w (root power (p * Nat.pow 2 (power * w)) (w + 8) 0)

/-- The bytes of a number, the highest one first. -/
def bytesOf : Nat → Nat → Bytes
  | 0, _ => []
  | k + 1, n => bytesOf k (n / 256) ++ [(n % 256).toUInt8]

def valueOf (b : Bytes) : Nat := b.foldl (fun n x => 256 * n + x.toNat) 0

def inParts (size : Nat) : Nat → Bytes → List Bytes
  | 0, _ | _, [] => []
  | n + 1, x :: xs => (x :: xs).take size :: inParts size n ((x :: xs).drop size)

/-- Contents made so long that they fill blocks of 16 words, with their length in bits at the end. -/
def padded (wordBytes : Nat) (lowFirst : Bool) (b : Bytes) : Bytes :=
  let block := 16 * wordBytes
  let zeros := (block - (b.length + 1 + 2 * wordBytes) % block) % block
  let size := bytesOf (2 * wordBytes) (8 * b.length)
  b ++ 0x80 :: List.replicate zeros 0 ++ if lowFirst then size.reverse else size

def wordsOf (w : Nat) (lowFirst : Bool) (block : Bytes) : List (BitVec w) :=
  (inParts (w / 8) 16 block).map fun p => BitVec.ofNat w (valueOf (if lowFirst then p.reverse else p))

def blocksOf (w : Nat) (lowFirst : Bool) (b : Bytes) : List (List (BitVec w)) :=
  let all := padded (w / 8) lowFirst b
  (inParts (2 * w) (all.length / (2 * w)) all).map (wordsOf w lowFirst)

def entry (ws : List (BitVec w)) (i : Nat) : BitVec w := (ws[i]?).getD 0

def sums (as bs : List (BitVec w)) : List (BitVec w) := (as.zip bs).map fun p => p.1 + p.2

/-- How bits are moved in the sums of the second family: turned by three numbers, or by two and pushed
by the third one. -/
structure Turns where
  schedule0 : Nat × Nat × Nat
  schedule1 : Nat × Nat × Nat
  state0 : Nat × Nat × Nat
  state1 : Nat × Nat × Nat

def turnedThrice (x : BitVec w) (t : Nat × Nat × Nat) : BitVec w :=
  x.rotateRight t.1 ^^^ x.rotateRight t.2.1 ^^^ x.rotateRight t.2.2

def turnedAndPushed (x : BitVec w) (t : Nat × Nat × Nat) : BitVec w :=
  x.rotateRight t.1 ^^^ x.rotateRight t.2.1 ^^^ (x >>> t.2.2)

/-- More words of a block, the latest one first. -/
def schedule (t : Turns) : Nat → List (BitVec w) → List (BitVec w)
  | 0, ws => ws
  | n + 1, ws =>
    schedule t n
      ((turnedAndPushed (entry ws 1) t.schedule1 + entry ws 6 + turnedAndPushed (entry ws 14) t.schedule0 + entry ws 15) :: ws)

def secondRound (t : Turns) (s : List (BitVec w)) (kw : BitVec w × BitVec w) : List (BitVec w) :=
  match s with
  | [a, b, c, d, e, f, g, h] =>
    let x := h + turnedThrice e t.state1 + ((e &&& f) ^^^ (~~~e &&& g)) + kw.1 + kw.2
    let y := turnedThrice a t.state0 + ((a &&& b) ^^^ (a &&& c) ^^^ (b &&& c))
    [x + y, a, b, c, d + x, e, f, g]
  | s => s

def second (w : Nat) (t : Turns) (rounds : Nat) (start : List (BitVec w)) (b : Bytes) : List (BitVec w) :=
  let ks := (primes rounds).map (rootBits w 3)
  (blocksOf w false b).foldl (fun s block =>
    let ws := (schedule t (rounds - 16) block.reverse).reverse
    sums s ((ks.zip ws).foldl (secondRound t) s)) start

def spelled (bs : Bytes) : Text :=
  let digit := fun (n : Nat) => if n < 10 then Char.ofNat (48 + n) else Char.ofNat (87 + n)
  bs.flatMap fun x => [digit (x.toNat / 16), digit (x.toNat % 16)]

def highFirst (w : Nat) (ws : List (BitVec w)) : Text := spelled (ws.flatMap fun x => bytesOf (w / 8) x.toNat)

def short : Turns := ⟨(7, 18, 3), (17, 19, 10), (2, 13, 22), (6, 11, 25)⟩

def long : Turns := ⟨(1, 8, 7), (19, 61, 6), (28, 34, 39), (14, 18, 41)⟩

def sha256 (b : Bytes) : Text :=
  highFirst 32 (second 32 short 64 ((primes 8).map (rootBits 32 2)) b)

def sha512 (b : Bytes) : Text :=
  highFirst 64 (second 64 long 80 ((primes 8).map (rootBits 64 2)) b)

def sha384 (b : Bytes) : Text :=
  highFirst 64 ((second 64 long 80 (((primes 16).drop 8).map (rootBits 64 2)) b).take 6)

/-- The shorter sum starts with the lower halves of what the long one starts with. -/
def sha224 (b : Bytes) : Text :=
  let start := ((primes 16).drop 8).map fun p => BitVec.ofNat 32 (rootBits 64 2 p).toNat
  highFirst 32 ((second 32 short 64 start b).take 7)

def firstStart : List (BitVec 32) := [0x67452301, 0xefcdab89, 0x98badcfe, 0x10325476, 0xc3d2e1f0]

def firstSchedule : Nat → List (BitVec 32) → List (BitVec 32)
  | 0, ws => ws
  | n + 1, ws => firstSchedule n ((entry ws 2 ^^^ entry ws 7 ^^^ entry ws 13 ^^^ entry ws 15).rotateLeft 1 :: ws)

def firstRound (s : List (BitVec 32)) (iw : Nat × BitVec 32) : List (BitVec 32) :=
  match s with
  | [a, b, c, d, e] =>
    let (f, k) : BitVec 32 × Nat := match iw.1 / 20 with
      | 0 => ((b &&& c) ||| (~~~b &&& d), 2)
      | 1 => (b ^^^ c ^^^ d, 3)
      | 2 => ((b &&& c) ||| (b &&& d) ||| (c &&& d), 5)
      | _ => (b ^^^ c ^^^ d, 10)
    let constant := BitVec.ofNat 32 (root 2 (k * Nat.pow 2 60) 34 0)
    [a.rotateLeft 5 + f + e + constant + iw.2, a, b.rotateLeft 30, c, d]
  | s => s

def sha1 (b : Bytes) : Text :=
  highFirst 32 ((blocksOf 32 false b).foldl (fun s block =>
    let ws := (firstSchedule 64 block.reverse).reverse
    sums s (((List.range 80).zip ws).foldl firstRound s)) firstStart)

/-- A number with 120 bits behind the point. -/
def one : Int := Int.ofNat (Nat.pow 2 120)

/-- The terms of the series for sine and cosine of 1 in turn. -/
def series : Nat → Nat → Int → Int × Int
  | 0, _, _ => (0, 0)
  | n + 1, k, term =>
    let next := -(term / ((2 * k + 1) * (2 * k + 2) : Nat))
    let r := series n (k + 1) next
    (term / ((2 * k + 1 : Nat) : Int) + r.1, term + r.2)

/-- The sines of 1, 2, 3 and so on, each from the one before it. -/
def sines : Nat → Int × Int → Int × Int → List Int
  | 0, _, _ => []
  | n + 1, (s, c), (a, b) => a :: sines n (s, c) ((a * c + b * s) / one, (b * c - a * s) / one)

def sineBits : List (BitVec 32) :=
  let unit := series 30 0 one
  (sines 64 unit unit).map fun s => BitVec.ofNat 32 (s.natAbs / Nat.pow 2 88)

def fourTurns : List (List Nat) := [[7, 12, 17, 22], [5, 9, 14, 20], [4, 11, 16, 23], [6, 10, 15, 21]]

def mixRound (block : List (BitVec 32)) (s : List (BitVec 32)) (ik : Nat × BitVec 32) : List (BitVec 32) :=
  match s with
  | [a, b, c, d] =>
    let i := ik.1
    let (f, g) : BitVec 32 × Nat := match i / 16 with
      | 0 => ((b &&& c) ||| (~~~b &&& d), i)
      | 1 => ((d &&& b) ||| (~~~d &&& c), 5 * i + 1)
      | 2 => (b ^^^ c ^^^ d, 3 * i + 5)
      | _ => (c ^^^ (b ||| ~~~d), 7 * i)
    let turn := (((fourTurns[i / 16]?).getD [])[i % 4]?).getD 0
    [d, b + (a + f + ik.2 + entry block (g % 16)).rotateLeft turn, b, c]
  | s => s

def md5 (b : Bytes) : Text :=
  let ks := (List.range 64).zip sineBits
  let s := (blocksOf 32 true b).foldl (fun s block => sums s (ks.foldl (mixRound block) s)) (firstStart.take 4)
  spelled (s.flatMap fun x => (bytesOf 4 x.toNat).reverse)

/-- The remainder of contents and their length as a polynomial. -/
def remainder (b : Bytes) : Nat :=
  let size := b.length
  let lengthBytes := ((bytesOf 8 size).reverse).take ((Nat.log2 size / 8) + if size = 0 then 0 else 1)
  let bit := fun (r : BitVec 32) (_ : Nat) => if r.msb then (r <<< 1) ^^^ 0x04c11db7 else r <<< 1
  let r := (b ++ lengthBytes).foldl (fun (r : BitVec 32) x =>
    (List.range 8).foldl bit (r ^^^ (BitVec.ofNat 32 x.toNat <<< 24))) 0
  (~~~r).toNat

/-- A sum in which the bits are turned by one before each byte is added. -/
def turnedSum (b : Bytes) : Nat := b.foldl (fun n x => (n / 2 + n % 2 * 32768 + x.toNat) % 65536) 0

/-- The sum of all bytes, put together to 16 bits. -/
def plainSum (b : Bytes) : Nat :=
  let n := b.foldl (fun n x => n + x.toNat) 0 % Nat.pow 2 32
  let r := n % 65536 + n / 65536
  r % 65536 + r / 65536

/-- The orders in which words of a block are mixed in. -/
def mixOrders : List (List Nat) :=
  [[0, 1, 2, 3, 4, 5, 6, 7, 8, 9, 10, 11, 12, 13, 14, 15], [14, 10, 4, 8, 9, 15, 13, 6, 1, 12, 0, 2, 11, 7, 5, 3],
   [11, 8, 12, 0, 5, 2, 15, 13, 10, 14, 3, 6, 7, 1, 9, 4], [7, 9, 3, 1, 13, 12, 11, 14, 2, 6, 5, 10, 4, 0, 15, 8],
   [9, 0, 5, 7, 2, 4, 10, 15, 14, 1, 11, 12, 6, 8, 3, 13], [2, 12, 6, 10, 0, 11, 8, 3, 4, 13, 7, 5, 15, 14, 1, 9],
   [12, 5, 1, 15, 14, 13, 4, 10, 0, 7, 6, 3, 9, 2, 8, 11], [13, 11, 7, 14, 12, 1, 3, 9, 5, 0, 15, 4, 8, 6, 2, 10],
   [6, 15, 14, 9, 11, 3, 0, 8, 12, 2, 13, 7, 1, 4, 10, 5], [10, 2, 8, 4, 7, 6, 1, 5, 15, 11, 9, 14, 3, 12, 13, 0]]

/-- The words that each step of a round works on: columns, and then diagonals. -/
def mixPlaces : List (Nat × Nat × Nat × Nat) :=
  [(0, 4, 8, 12), (1, 5, 9, 13), (2, 6, 10, 14), (3, 7, 11, 15), (0, 5, 10, 15), (1, 6, 11, 12), (2, 7, 8, 13),
   (3, 4, 9, 14)]

def mixed (v : List (BitVec 64)) (p : Nat × Nat × Nat × Nat) (x y : BitVec 64) : List (BitVec 64) :=
  let (i, j, k, l) := p
  let (a, b, c, d) := (entry v i, entry v j, entry v k, entry v l)
  let a := a + b + x
  let d := (d ^^^ a).rotateRight 32
  let c := c + d
  let b := (b ^^^ c).rotateRight 24
  let a := a + b + y
  let d := (d ^^^ a).rotateRight 16
  let c := c + d
  let b := (b ^^^ c).rotateRight 63
  (((v.set i a).set j b).set k c).set l d

def mixRounds (block v : List (BitVec 64)) : List (BitVec 64) :=
  (List.range 12).foldl (fun v r =>
    let order := (mixOrders[r % 10]?).getD []
    (mixPlaces.zipIdx).foldl (fun v (p, i) =>
      mixed v p (entry block ((order[2 * i]?).getD 0)) (entry block ((order[2 * i + 1]?).getD 0))) v) v

/-- The words of up to 128 bytes, the low byte of each first. -/
def lowWords (b : Bytes) : List (BitVec 64) :=
  (List.range 16).map fun i =>
    BitVec.ofNat 64 (((b.drop (8 * i)).take 8).foldr (fun x n => 256 * n + x.toNat) 0)

/-- Sums up blocks of 128 bytes, of which the last one counts as such. -/
def mixBlocks (start : List (BitVec 64)) : Nat → Nat → List (BitVec 64) → Bytes → List (BitVec 64)
  | 0, _, h, _ => h
  | n + 1, count, h, b =>
    let isLast := b.length ≤ 128
    let count := count + min 128 b.length
    let v := h ++ start
    let v := v.set 12 (entry v 12 ^^^ BitVec.ofNat 64 count)
    let v := if isLast then v.set 14 (~~~(entry v 14)) else v
    let v := mixRounds (lowWords (b.take 128)) v
    let h := (List.range 8).map fun i => entry h i ^^^ entry v i ^^^ entry v (i + 8)
    if isLast then h else mixBlocks start n count h (b.drop 128)

/-- A sum of so many bytes. -/
def blake (size : Nat) (b : Bytes) : Text :=
  let start := (primes 8).map (rootBits 64 2)
  let h := start.set 0 (entry start 0 ^^^ BitVec.ofNat 64 (0x01010000 + size))
  let h := mixBlocks start (b.length / 128 + 1) 0 h b
  spelled ((h.flatMap fun x => (bytesOf 8 x.toNat).reverse).take size)

/-- A way to make a sum: what it is called in a list, how many signs it has, and the sum. -/
structure Method where
  name : Text
  size : Nat
  sum : Bytes → Text

def methods : List (String × Method) :=
  [("md5", ⟨"MD5".toList, 32, md5⟩), ("sha1", ⟨"SHA1".toList, 40, sha1⟩), ("sha224", ⟨"SHA224".toList, 56, sha224⟩),
   ("sha256", ⟨"SHA256".toList, 64, sha256⟩), ("sha384", ⟨"SHA384".toList, 96, sha384⟩),
   ("sha512", ⟨"SHA512".toList, 128, sha512⟩), ("blake2b", ⟨"BLAKE2b".toList, 128, blake 64⟩)]

/-- A name with what cannot stand in one line as it is, and whether there is any of that. -/
def escaped (p : Text) : Text × Bool :=
  let t := p.flatMap fun c =>
    if c = '\\' then ['\\', '\\'] else if c = '\n' then ['\\', 'n'] else if c = '\x0d' then ['\\', 'r'] else [c]
  (t, t ≠ p)

def unescaped : Text → Text
  | '\\' :: '\\' :: cs => '\\' :: unescaped cs
  | '\\' :: 'n' :: cs => '\n' :: unescaped cs
  | '\\' :: 'r' :: cs => '\x0d' :: unescaped cs
  | c :: cs => c :: unescaped cs
  | [] => []

/-- A line of a list of sums. -/
def lineFor (g : Given) (w : Method) (tagged : Bool) (name : Text) (b : Bytes) : Bytes :=
  let (shown, isOdd) := if g.has 'z' then (name, false) else escaped name
  let sum := w.sum b
  let t := if tagged then w.name ++ " (".toList ++ shown ++ ") = ".toList ++ sum
    else sum ++ (if g.latest? "bt" = some 'b' then " *" else "  ").toList ++ shown
  Octet.encode ((if isOdd then '\\' :: t else t) ++ [if g.has 'z' then Char.ofNat 0 else '\n'])

def isHex (c : Char) : Bool := c.isDigit || 'a' ≤ c && c ≤ 'f' || 'A' ≤ c && c ≤ 'F'

/-- What a line of a list says: the sum, the name and how the sum is made. -/
def listed? (ws : List Method) (l : Bytes) : Option (Text × Text × Method) :=
  let t := (textOf (bare l)).dropWhile fun c => c = ' ' || c = '\t'
  let t := if t.getLast? = some '\x0d' then t.dropLast else t
  let (t, isOdd) := match t with
    | '\\' :: t => (t, true)
    | t => (t, false)
  let read := fun (p : Text) => if isOdd then unescaped p else p
  let tagged := ws.findSome? fun w =>
    let front := w.name ++ " (".toList
    if front.isPrefixOf t then
      let rest := (t.drop front.length).reverse
      let sum := (rest.takeWhile isHex).reverse
      match rest.drop sum.length with
      | ' ' :: '=' :: ' ' :: ')' :: name =>
        if sum.length = w.size then some (sum, read name.reverse, w) else none
      | _ => none
    else none
  tagged.orElse fun _ =>
    let sum := t.takeWhile isHex
    match ws, t.drop sum.length with
    | [w], ' ' :: ' ' :: name | [w], ' ' :: '*' :: name =>
      if sum.length = w.size && !name.isEmpty then some (sum, read name, w) else none
    | _, _ => none

/-- What has come of the lines of a list. -/
structure Checked where
  fine : Nat := 0
  wrong : Nat := 0
  unread : Nat := 0
  formless : Nat := 0
  said : Source.Said := []

/-- Looks whether a content still has the sum that a line says. -/
def checkLine (tool : String) (g : Given) (ws : List Method) (list : Text) (m : Machine) (r : Checked) (l : Bytes × Nat) :
    Checked :=
  let say := fun (t : Text) => if g.has 's' then [] else [Except.ok (lineOf t)]
  if l.1.head? = some 35 || bare l.1 = [] then r
  else match listed? ws l.1 with
    | none =>
      let warning := if g.has 'w' then
          [.error (objection tool (list ++ ": ".toList ++ Text.ofNat l.2 ++ ": improperly formatted ".toList ++
            ((ws.head?.map (·.name)).getD []) ++ " checksum line".toList) 0)]
        else []
      { r with formless := r.formless + 1, said := r.said ++ warning }
    | some (sum, name, w) =>
      match if name = ['-'] then .ok m.input else m.tree.read name with
      | .ok b =>
        if (w.sum b) = sum.map Char.toLower then
          { r with fine := r.fine + 1, said := r.said ++ if g.has 'q' then [] else say (name ++ ": OK".toList) }
        else { r with wrong := r.wrong + 1, said := r.said ++ say (name ++ ": FAILED".toList) }
      | .error e =>
        if g.has 'I' && e = IoFault.notFound then { r with formless := r.formless, said := r.said }
        else
          { r with
            unread := r.unread + 1
            said := r.said ++ .error (complain tool "" (named name) e 1) :: say (name ++ ": FAILED open or read".toList) }

/-- Looks whether contents still have the sums that are listed. -/
def checkList (tool : String) (g : Given) (ws : List Method) (m : Machine) (s : Source) : Source.Said :=
  let name := if isInput s.name then "standard input".toList else named s.name
  match s.content with
  | .error e => [.error (Source.refusal tool s e)]
  | .ok b =>
    let r := ((linesOf b).zipIdx 1).foldl (checkLine tool g ws name m) {}
    let isProper := ((linesOf b).any fun l => l.head? ≠ some 35 && (listed? ws l).isSome)
    let warn := fun (n : Nat) (one many : String) (status : Nat) =>
      if n = 0 then []
      else if g.has 's' then [Except.error ⟨[], status⟩]
      else [.error (objection tool ("WARNING: ".toList ++ Text.ofNat n ++ ' ' :: (if n = 1 then one else many).toList) status)]
    if !isProper then [.error (objection tool (name ++ ": no properly formatted checksum lines found".toList) 1)]
    else
      r.said ++ warn r.formless "line is improperly formatted" "lines are improperly formatted" (if g.has 'S' then 1 else 0) ++
        warn r.unread "listed file could not be read" "listed files could not be read" 1 ++
        warn r.wrong "computed checksum did NOT match" "computed checksums did NOT match" 1 ++
        if g.has 'I' && r.fine = 0 then [.error (objection tool (name ++ ": no file was verified".toList) 1)] else []

def menu : Menu :=
  { plain := "btcqswzTISU", valued := "al", hidden := "qsTISU",
    long := [("binary", 'b'), ("text", 't'), ("check", 'c'), ("quiet", 'q'), ("status", 's'), ("warn", 'w'), ("zero", 'z'),
      ("tag", 'T'), ("ignore-missing", 'I'), ("strict", 'S'), ("untagged", 'U'), ("algorithm", 'a'), ("length", 'l')] }

/-- What is only meaningful when sums are checked. -/
def checkOnly : List (Char × String) :=
  [('I', "--ignore-missing"), ('s', "--status"), ('w', "--warn"), ('q', "--quiet"), ('S', "--strict")]

def summed (tool : String) (g : Given) (w : Method) (ws : List Method) (tagged : Bool) : Tool := fun files m =>
  let (ss, n) := Source.opened files m
  if g.has 'T' && g.has 'c' then
    misused tool "the --tag option is meaningless when verifying checksums".toList 1 m
  else if g.has 'c' then Source.finish (ss.flatMap (checkList tool g ws m)) 0 n
  else match checkOnly.find? fun o => g.has o.1 with
    | some o => misused tool ("the ".toList ++ o.2.toList ++ " option is meaningful only when verifying checksums".toList) 1 m
    | none => Source.finish (ss.map fun s => Source.through tool (lineFor g w tagged s.name) s) 0 n

def sumTool (tool method : String) : Tool := program tool 1 { menu with valued := "", plain := "btcqswzTIS" } fun g files m =>
  match methods.lookup method with
  | some w => summed tool g w [w] (g.has 'T') files m
  | none => m.ends 1

/-- Sums of so many bits. -/
def b2sum : Tool := program "b2sum" 1 { menu with valued := "l", plain := "btcqswzTIS" } fun g files m =>
  let bits := ((g.value? 'l').map Text.digitsValue).getD 0
  if bits % 8 ≠ 0 then
    m.tell .err ("b2sum: invalid length: ".toList ++ literal ((g.value? 'l').getD []) ++
      "\nb2sum: length is not a multiple of 8\n".toList) 1
  else if 512 < bits then
    m.tell .err ("b2sum: invalid length: ".toList ++ literal ((g.value? 'l').getD []) ++
      "\nb2sum: maximum digest length for 'BLAKE2b' is 512 bits\n".toList) 1
  else
    let size := if bits = 0 then 64 else bits / 8
    let name := "BLAKE2b".toList ++ if size = 64 then [] else '-' :: Text.ofNat bits
    let w : Method := ⟨name, 2 * size, blake size⟩
    summed "b2sum" g w [w] (g.has 'T') files m

/-- A line with a number and a size, and the name if there is one. -/
def sizeLines (tool : String) (f : Bytes → Text) : Tool := fun files m =>
  let (ss, n) := Source.opened files m
  let one := fun (s : Source) => Source.through tool
    (fun b => lineOf (f b ++ if files.isEmpty then [] else ' ' :: s.name)) s
  Source.finish (ss.map one) 0 n

def remainderLine (b : Bytes) : Text := Text.ofNat (remainder b) ++ ' ' :: Text.ofNat b.length

def turnedLine (b : Bytes) : Text :=
  let t := Text.ofNat (turnedSum b)
  List.replicate (5 - t.length) '0' ++ t ++ ' ' :: atRight 5 (Text.ofNat ((b.length + 1023) / 1024))

def plainLine (b : Bytes) : Text := Text.ofNat (plainSum b) ++ ' ' :: Text.ofNat ((b.length + 511) / 512)

def algorithms : List String := ["bsd", "sysv", "crc"] ++ methods.map (·.1)

def cksum : Tool := program "cksum" 1 menu fun g files m =>
  match g.value? 'a' with
  | none =>
    if g.has 'c' then summed "cksum" g ⟨[], 0, md5⟩ (methods.map (·.2)) true files m
    else sizeLines "cksum" remainderLine files m
  | some a =>
    match String.ofList a, methods.lookup (String.ofList a) with
    | "bsd", _ => sizeLines "cksum" turnedLine files m
    | "sysv", _ => sizeLines "cksum" plainLine files m
    | "crc", _ => sizeLines "cksum" remainderLine files m
    | _, some w => summed "cksum" g w [w] (!g.has 'U') files m
    | _, none =>
      misused "cksum" ("invalid argument ".toList ++ literal a ++ " for '--algorithm'\nValid arguments are:".toList ++
        (algorithms ++ ["sm3"]).flatMap fun w => "\n  - ".toList ++ literal w.toList) 1 m

def sum : Tool := program "sum" 1 { plain := "rs", long := [("sysv", 's')] } fun g files m =>
  sizeLines "sum" (if g.latest? "rs" = some 's' then plainLine else turnedLine) files m

def all : List (Text × Tool) :=
  [("cksum".toList, cksum), ("sum".toList, sum), ("b2sum".toList, b2sum), ("md5sum".toList, sumTool "md5sum" "md5"),
   ("sha1sum".toList, sumTool "sha1sum" "sha1"), ("sha224sum".toList, sumTool "sha224sum" "sha224"),
   ("sha256sum".toList, sumTool "sha256sum" "sha256"), ("sha384sum".toList, sumTool "sha384sum" "sha384"),
   ("sha512sum".toList, sumTool "sha512sum" "sha512")]

end Digest

end Guidebook.Shell
