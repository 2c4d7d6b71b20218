import Guidebook.Shell.Source

namespace Guidebook.Shell

/-! What can be asked about nodes: what is known about them, where links lead, and which paths are theirs. -/

namespace Inquiry

open FileTool

/-- What a directive stands for: a text, or a number. -/
inductive Fact where
  | text (t : Text)
  | number (t : Text)
  deriving DecidableEq, Repr

def count (n : Nat) : Fact := .number (Text.ofNat n)

/-- The size of a node in bytes. -/
def bytesOf : Node → Nat
  | .dir _ => 4096
  | .file _ c => c.length
  | .link _ u => u.length
  | .device .. => 0

/-- How many pieces of 512 bytes a node takes. -/
def blocksOf : Node → Nat
  | .dir _ => 8
  | .file _ c => (c.length + 4095) / 4096 * 8
  | _ => 0

/-- The letter that says what a node is. -/
def letterOf : Node → Char
  | .dir _ => 'd'
  | .file .. => '-'
  | .link .. => 'l'
  | .device .. => 'c'

/-- What a node is and what its rights are. -/
def modeLine (n : Node) : Text := letterOf n :: Rights.shown n.mode

/-- What a node is, as a number with its rights. -/
def modeNumber (n : Node) : Nat :=
  n.mode + match n with
    | .dir _ => 0o040000
    | .file .. => 0o100000
    | .link .. => 0o120000
    | .device .. => 0o020000

/-- How many names there are for a node. A directory has one in each directory in it, too. -/
def namesOf (t : Disk) (a : Address) (n : Node) : Nat :=
  if n.isDir then
    2 + ((t.namesIn a).filter fun x => (t.node? (a ++ [x])).any (·.isDir)).length
  else t.links a

/-- A moment in full. -/
def moment (time : Nat) : Text :=
  let fraction := Text.ofNat (time % 1000000)
  Calendar.shown (secondsOf time) 20 "%Y-%m-%d %H:%M:%S".toList ++ '.' ::
    List.replicate (6 - fraction.length) '0' ++ fraction ++ "000 +0000".toList

/-- A moment in seconds, perhaps with the first digits of what is behind them. -/
def seconds (precision : Option Nat) (time : Nat) : Text :=
  let fraction := Text.ofNat (time % 1000000)
  Text.ofNat (time / 1000000) ++ match precision with
    | none | some 0 => []
    | some k => '.' :: (List.replicate (6 - fraction.length) '0' ++ fraction ++ List.replicate k '0').take k

def hex (n : Nat) : Text := Nat.toDigits 16 n

/-- What a directive says about a node. -/
def fact (t : Disk) (p : Text) (a : Address) (n : Node) (precision : Option Nat) (c : Char) : Fact :=
  match c with
  | 'n' => .text p
  | 'N' => .text (quoted p ++ match n with
    | .link _ u => " -> ".toList ++ quoted u
    | _ => [])
  | 'F' => .text (typeOf n)
  | 's' => count (bytesOf n)
  | 'a' => .number (Rights.octal n.mode)
  | 'A' => .text (modeLine n)
  | 'f' => .number (hex (modeNumber n))
  | 'h' => count (namesOf t a n)
  | 'i' => count ((t.serial? a).getD 0 + 1000)
  | 'U' | 'G' => .text "root".toList
  | 'u' | 'g' | 'r' | 'R' => count 0
  | 't' | 'T' => count (match n with
    | .device .. => if c = 't' then 1 else 3
    | _ => 0)
  | 'b' => count (blocksOf n)
  | 'B' => count 512
  | 'o' => count 4096
  | 'd' => count 65024
  | 'D' => .number (hex 65024)
  | 'm' => .text ['/']
  | 'x' | 'y' | 'z' | 'w' => .text (moment n.time)
  | 'X' | 'Y' | 'Z' | 'W' => .number (seconds precision n.time)
  | _ => .text ['?']

/-- A fact on a width. -/
def placed (flags : Text) (width : Nat) (precision : Option Nat) (f : Fact) : Text :=
  let (t, isNumber) := match f with
    | .text t => (match precision with
      | some k => t.take k
      | none => t, false)
    | .number t => (t, true)
  let t := if flags.contains '#' && isNumber && t.head? ≠ some '0' then '0' :: t else t
  let gap := width - t.length
  if flags.contains '-' then t ++ List.replicate gap ' '
  else List.replicate gap (if flags.contains '0' && isNumber then '0' else ' ') ++ t

/-- A format filled in; the flag tells whether signs behind backslashes stand for others. -/
def filledIn (escapes : Bool) (f : Option Nat → Char → Fact) : Nat → Text → Text
  | 0, _ | _, [] => []
  | n + 1, '%' :: '%' :: cs => '%' :: filledIn escapes f n cs
  | n + 1, '%' :: cs =>
    let flags := cs.takeWhile "-+ #0'".toList.contains
    let cs := cs.drop flags.length
    let ds := cs.takeWhile Char.isDigit
    let cs := cs.drop ds.length
    let (precision, cs) := match cs with
      | '.' :: cs =>
        let ps := cs.takeWhile Char.isDigit
        (some (if ps.isEmpty then 9 else Text.digitsValue ps), cs.drop ps.length)
      | cs => (none, cs)
    match cs with
    | [] => '%' :: flags ++ ds
    | c :: cs =>
      let (c, cs) := match c, cs with
        | 'H', 'd' :: cs => ('d', cs)
        | 'L', 'd' :: cs => ('u', cs)
        | c, cs => (c, cs)
      placed flags (Text.digitsValue ds) (if "XYZW".toList.contains c then none else precision) (f precision c) ++
        filledIn escapes f n cs
  | n + 1, '\\' :: c :: cs =>
    if !escapes then '\\' :: filledIn escapes f n (c :: cs)
    else
      let octal := ((c :: cs).takeWhile Rights.isOctal).take 3
      if !octal.isEmpty then
        Char.ofNat (Rights.ofOctal octal % 256) :: filledIn escapes f n ((c :: cs).drop octal.length)
      else
        let hex := if c = 'x' then (cs.takeWhile fun d => (Nat.toDigits 16 15).contains d || d.isDigit || "abcdefABCDEF".toList.contains d).take 2 else []
        let signs := [('n', 10), ('t', 9), ('a', 7), ('b', 8), ('e', 27), ('f', 12), ('r', 13), ('v', 11)]
        if !hex.isEmpty then
          Char.ofNat (hex.foldl (fun n d => 16 * n + value d) 0) :: filledIn escapes f n (cs.drop hex.length)
        else Char.ofNat ((signs.lookup c).getD c.toNat) :: filledIn escapes f n cs
  | n + 1, c :: cs => c :: filledIn escapes f n cs
where
  value (d : Char) : Nat :=
    if d.isDigit then d.toNat - 48 else d.toLower.toNat - 87

/-- How a node is described if nothing else is asked for. -/
def usual : Text :=
  ("  Size: %-10s\tBlocks: %-10b IO Block: %-6o %F\nDevice: 254,0\tInode: %-10i  Links: %h\n" ++
    "Access: (%04a/%10.10A)  Uid: (%5u/%8U)   Gid: (%5g/%8G)\nAccess: %x\nModify: %y\nChange: %z\n Birth: %w").toList

def terse : Text := "%n %s %b %f %u %g %D %i %h %t %T %X %Y %Z %W %o".toList

def stat : Tool := program "stat" 1
  { plain := "Lft", valued := "cp", long := [("format", 'c'), ("printf", 'p'), ("dereference", 'L'),
      ("terse", 't'), ("file-system", 'f')] }
  fun g args m =>
    let one := fun (p : Text) (t : Disk) => match if g.has 'L' then t.find p else t.entry p with
      | .error e => refusing (complain "stat" "cannot statx " (quoted p) e 1) t
      | .ok (a, n) =>
        let fill := fun (escapes : Bool) (f : Text) =>
          Octet.encode (filledIn escapes (fact t p a n) (f.length + 1) f)
        let format := (g.value? 'c').getD []
        match g.latest? "cp" with
        | some 'p' => (t, fill true ((g.value? 'p').getD []), none)
        | some _ => (t, fill false format ++ [10], none)
        | none =>
          if g.has 't' then (t, fill false terse ++ [10], none)
          else
            let title := "  File: ".toList ++ p ++ match n with
              | .link _ u => " -> ".toList ++ u
              | _ => []
            (t, lineOf title ++ fill false usual ++ [10], none)
    if args.isEmpty then missing "stat" m else each (args.map one) m

/-- Goes by some names as far as there is anything, and on where there is nothing. -/
def reach (t : Disk) : Nat → Address → List Text → Address
  | _, a, [] => a
  | 0, a, _ => a
  | n + 1, a, x :: xs =>
    if x = ['.'] then reach t n a xs
    else if x = ['.', '.'] then reach t n a.dropLast xs
    else match t.node? (a ++ [x]) with
      | some (.link _ u) => reach t n (if Path.isAbsolute u then [] else a) (Path.names u ++ xs)
      | _ => reach t n (a ++ [x]) xs

/-- How much has to be there for a path: all of it, all but the last name, or nothing. -/
inductive Demand where
  | all
  | parents
  | nothing
  deriving DecidableEq, Repr

/-- Where a path leads in the end. -/
def ending (t : Disk) (d : Demand) (p : Text) : Except IoFault Address :=
  if p.isEmpty then .error .notFound
  else if d = .nothing then
    .ok (reach t Disk.patience (if Path.isAbsolute p then [] else t.here) (Path.names p))
  else do
    let s ← t.spot p
    match ← t.lookUp s with
    | none => if d = .all then .error .notFound else .ok s.address
    | some n => if s.slash && !n.isDir then .error .notDirectory else .ok s.address

/-- The way from a directory to something else. -/
def wayFrom (dir a : Address) : Text :=
  let same := ((dir.zip a).takeWhile fun (x, y) => x = y).length
  let names := List.replicate (dir.length - same) ['.', '.'] ++ a.drop same
  if names.isEmpty then ['.'] else ['/'].intercalate names

def demand (g : Given) (letters : String) (usual : Demand) : Demand :=
  match g.latest? letters with
  | some 'e' => .all
  | some 'm' => .nothing
  | some _ => .parents
  | none => usual

def lineEnd (g : Given) : Bytes := if g.has 'z' then [0] else [10]

/-- Shows the path of a node from the root, or from a directory. -/
def realpath : Tool := program "realpath" 1
  { plain := "eEmsqzLP", valued := "TB",
    long := [("canonicalize-existing", 'e'), ("canonicalize", 'E'), ("canonicalize-missing", 'm'), ("strip", 's'),
      ("no-symlinks", 's'), ("quiet", 'q'), ("zero", 'z'), ("logical", 'L'), ("physical", 'P'),
      ("relative-to", 'T'), ("relative-base", 'B')] }
  fun g args m =>
    let d := demand g "eEm" .parents
    let plainly := fun (t : Disk) (p : Text) =>
      Builtin.strolled t.here p
    let located := fun (t : Disk) (p : Text) =>
      if g.has 's' then do
        let a ← ending t d (Machine.shownPath (plainly t p).dropLast)
        if d = .nothing || t.isDirAt (Machine.shownPath a) then return plainly t p else .error .notFound
      else if g.has 'L' then ending t d (if p.isEmpty then p else Machine.shownPath (plainly t p)) else ending t d p
    let base := (g.value? 'B').map (located m.tree)
    let start := ((g.value? 'T').orElse fun _ => g.value? 'B').map (located m.tree)
    let shown := fun (a : Address) =>
      match start, base with
      | some (.ok s), some (.ok b) => if b.isPrefixOf a && b.isPrefixOf s then wayFrom s a else Machine.shownPath a
      | some (.ok s), none => wayFrom s a
      | _, _ => Machine.shownPath a
    let one := fun (p : Text) (t : Disk) => match located t p with
      | .ok a => (t, Octet.encode (shown a) ++ lineEnd g, none)
      | .error e =>
        (t, [], some (if g.has 'q' then ⟨[], 1⟩ else complain "realpath" "" (if p.isEmpty then quoted p else named p) e 1))
    if args.isEmpty then missing "realpath" m
    else match start with
      | some (.error e) =>
        finish [complain "realpath" "" (named ((g.value? 'T').getD ((g.value? 'B').getD []))) e 1] [] 1 m
      | _ => each (args.map one) m

/-- Shows where links lead. -/
def readlink : Tool := program "readlink" 1
  { plain := "femnqsvz", long := [("canonicalize", 'f'), ("canonicalize-existing", 'e'),
      ("canonicalize-missing", 'm'), ("no-newline", 'n'), ("quiet", 'q'), ("silent", 's'), ("verbose", 'v'),
      ("zero", 'z')] }
  fun g args m =>
    let several := 1 < args.length
    let tail := if g.has 'n' && !several then [] else lineEnd g
    let found := fun (t : Disk) (p : Text) =>
      if g.hasAny "fem" then ((ending t (demand g "fem" .parents) p).map Machine.shownPath).mapError (complain "readlink" "" (named p) · 1)
      else match t.entry p with
        | .ok (_, .link _ u) => .ok u
        | .ok _ => .error (objection "readlink" (named p ++ ": Invalid argument".toList) 1)
        | .error e => .error (complain "readlink" "" (named p) e 1)
    let one := fun (p : Text) (t : Disk) => match found t p with
      | .ok u => (t, Octet.encode u ++ tail, none)
      | .error c => (t, [], some (if g.latest? "vqs" = some 'v' then c else ⟨[], 1⟩))
    if args.isEmpty then missing "readlink" m
    else
      let r := each (args.map one) m
      if g.has 'n' && several then
        { r with printed := (.err, lineOf "readlink: ignoring --no-newline with multiple arguments".toList) :: r.printed }
      else r

/-- A size with one letter for what it counts, from a kilobyte on. -/
def human (n : Nat) : Text :=
  if n < 1024 then Text.ofNat n else go 9 1024 "KMGTPEZY".toList
where
  go : Nat → Nat → Text → Text
    | 0, _, _ | _, _, [] => Text.ofNat n
    | k + 1, unit, c :: cs =>
      let tenths := (10 * n + unit - 1) / unit
      if tenths < 100 then Text.ofNat (tenths / 10) ++ '.' :: Text.ofNat (tenths % 10) ++ [c]
      else
        let whole := (n + unit - 1) / unit
        if whole < 1024 || cs.isEmpty then Text.ofNat whole ++ [c] else go k (1024 * unit) cs

/-- How much the nodes at a path and below it take, directory by directory. -/
def du : Tool := program "du" 1
  { plain := "sahbckmSLlxDHP0", valued := "dB", long := [("summarize", 's'), ("all", 'a'), ("human-readable", 'h'),
      ("bytes", 'b'), ("total", 'c'), ("max-depth", 'd'), ("separate-dirs", 'S'), ("apparent-size", 'A'),
      ("dereference", 'L'), ("count-links", 'l'), ("block-size", 'B'), ("null", '0'), ("one-file-system", 'x')] }
  fun g args m =>
    let t := m.tree
    let exact := g.hasAny "bA"
    let size := fun (n : Node) =>
      if exact then if n.isDir then 0 else bytesOf n else 512 * blocksOf n
    let unit := match g.latest? "bkmB" with
      | some 'b' => 1
      | some 'm' => 1048576
      | some 'B' => max 1 (((g.value? 'B').bind sized?).getD 1024)
      | _ => 1024
    let shown := fun (n : Nat) => if g.has 'h' then human n else Text.ofNat ((n + unit - 1) / unit)
    let row := fun (n : Nat) (p : Text) => shown n ++ '\t' :: p ++ ['\n']
    let most := if g.has 's' then some 0 else (g.value? 'd').map Text.digitsValue
    let one := fun (vs : List Visit) =>
        let counted := vs.zipIdx.filter fun v => v.1.isDir || g.has 'l' ||
          !(vs.take v.2).any fun w => !w.isDir && t.serial? w.address = t.serial? v.1.address
        let counted := counted.map (·.1)
        let below := fun (v : Visit) => counted.filter fun w =>
          if g.has 'S' && v.isDir then
            w.address = v.address || (!w.isDir && w.address.dropLast = v.address)
          else v.address.isPrefixOf w.address
        let sum := fun (v : Visit) => ((below v).map fun w => size w.node).foldl (· + ·) 0
        let rows := counted.filter fun v => v.depth = 0 || ((v.isDir || g.has 'a') && most.all (v.depth ≤ ·))
        (rows.flatMap fun v => row (sum v) v.path, (counted.map fun w => size w.node).foldl (· + ·) 0)
    let ps := if args.isEmpty then [['.']] else args
    let results := ps.map fun p => ((Walk.from? t true (g.has 'L') p).map one).mapError fun e =>
      if p.isEmpty then objection "du" "invalid zero-length file name".toList 1 else complain "du" "cannot access " (quoted p) e 1
    let sizes := results.filterMap fun r => r.toOption.map (·.2)
    let total := if g.has 'c' then row (sizes.foldl (· + ·) 0) "total".toList else []
    Source.finish (results.map (fun r => r.map fun x => Octet.encode x.1) ++ [.ok (Octet.encode total)]) 0 m

/-- What is wrong with a path wherever it may be used, if anything is. -/
def flaw? (g : Given) (t : Disk) (p : Text) : Option Text :=
  let isPlain := fun (c : Char) => c.isAlphanum || "._-/".toList.contains c
  let dashed := (Path.names p).any fun n => n.head? = some '-'
  let strange := p.find? (!isPlain ·)
  let limit := if g.hasAny "pa" then 14 else Disk.nameLimit
  let pathLimit := if g.hasAny "pa" then 255 else Disk.pathLimit
  let long := (Path.names p).find? (limit < ·.length)
  if g.hasAny "Pa" && dashed then some ("leading '-' in a component of file name ".toList ++ quoted p)
  else if p.isEmpty && g.hasAny "Ppa" then some "empty file name".toList
  else match if g.hasAny "pa" then strange else none, long with
    | some c, _ => some ("non-portable character '".toList ++ c :: "' in file name ".toList ++ quoted p)
    | none, some n =>
      if pathLimit < p.length then
        some ("limit ".toList ++ Text.ofNat pathLimit ++ " exceeded by length ".toList ++ Text.ofNat p.length ++
          " of file name ".toList ++ quoted p)
      else some ("limit ".toList ++ Text.ofNat limit ++ " exceeded by length ".toList ++ Text.ofNat n.length ++
        " of file name component ".toList ++ quoted n)
    | none, none =>
      if g.hasAny "pa" then none
      else match t.find p with
        | .error .notDirectory => some (named p ++ ": Not a directory".toList)
        | .error .nameTooLong => some (named p ++ ": File name too long".toList)
        | .error .notFound => if p.isEmpty then some "'': No such file or directory".toList else none
        | _ => none

def pathchk : Tool := program "pathchk" 1 { plain := "pPa", long := [("portability", 'a')] } fun g args m =>
  if args.isEmpty then missing "pathchk" m
  else finish ((args.filterMap (flaw? g m.tree)).map fun why => objection "pathchk" why 1) [] 0 m

def all : List (Text × Tool) :=
  [("stat".toList, stat), ("realpath".toList, realpath), ("readlink".toList, readlink), ("du".toList, du),
   ("pathchk".toList, pathchk)]

end Inquiry

end Guidebook.Shell
