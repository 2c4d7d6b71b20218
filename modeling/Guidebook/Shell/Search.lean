import Guidebook.Shell.Source
import Guidebook.Shell.Pattern

namespace Guidebook.Shell

namespace Search

open FileTool

/-- Whether a match is a word of its own. -/
def standsAlone (t : Text) (start taken : Nat) : Bool :=
  !((t.take start).getLast?.any Edge.isWord) && !((t.drop (start + taken)).head?.any Edge.isWord)

/-- The matches in a line, each with its place. -/
def matchesIn (p : Pattern) (folded whole words : Bool) (t : Text) : List (Nat × Text) :=
  go (t.length + 1) 0
where
  go : Nat → Nat → List (Nat × Text)
    | 0, _ => []
    | n + 1, k =>
      match p.here? folded ((t.take k).getLast?) (t.drop k) with
      | some r =>
        let fine := (!whole || k = 0 && r.taken = t.length) && (!words || standsAlone t k r.taken)
        if fine then
          (k, t.extract k (k + r.taken)) :: (if k < t.length then go n (k + max 1 r.taken) else [])
        else if k < t.length then go n (k + 1) else []
      | none => if k < t.length then go n (k + 1) else []

/-- Whether a line has a match. -/
def hits (p : Pattern) (folded whole words : Bool) (t : Text) : Bool :=
  if words then !(matchesIn p folded whole words t).isEmpty
  else if whole then (Pattern.seq .atStart (.seq p .atEnd)).occursIn folded t
  else p.occursIn folded t

def patternsOf (style : Option Pattern.Style) (t : Text) : Option (List Pattern) :=
  (Text.pieces (· == '\n') t).mapM fun l => match style with
    | some s => Pattern.ofText? s l
    | none => some (Pattern.ofPlain l)

/-- A line that is looked through: its number, where it starts, and itself. -/
structure Row where
  number : Nat
  start : Nat
  line : Bytes

def rowsOf (b : Bytes) : List Row :=
  ((linesOf b).foldl (fun (r : List Row × Nat × Nat) l =>
    (⟨r.2.1, r.2.2, l⟩ :: r.1, r.2.1 + 1, r.2.2 + l.length)) ([], 1, 0)).1.reverse

/-- Which lines are shown when some around those that are chosen are shown, too. -/
def around (before after : Nat) (chosen : List Nat) (n : Nat) : Bool :=
  chosen.any fun k => k ≤ n + before && n ≤ k + after

def shownName (p : Text) : Text := if isInput p then "(standard input)".toList else p

/-- What stands in front of a line; the sign behind each part tells whether the line was chosen. -/
def front (g : Given) (named : Bool) (p : Text) (r : Row) (start : Nat) (sign : Char) : Bytes :=
  Octet.encode ((if named then shownName p ++ [sign] else []) ++
    (if g.has 'n' then Text.ofNat r.number ++ [sign] else []) ++
    if g.has 'b' then Text.ofNat (r.start + start) ++ [sign] else [])

/-- Lines with others around them, where groups are kept apart. -/
def grouped (line : Row → Char → Bytes) (before after : Nat) (chosen : List Nat) : Option Nat → List Row → Bytes
  | _, [] => []
  | last, r :: rs =>
    if around before after chosen r.number then
      (if last.any fun n => n + 1 < r.number then "--\n".toList.map (·.toNat.toUInt8) else []) ++
        line r (if chosen.contains r.number then ':' else '-') ++
        grouped line before after chosen (some r.number) rs
    else grouped line before after chosen last rs

/-- Whether contents are no text. -/
def isBinary (b : Bytes) : Bool := b.contains 0

def results (g : Given) (ps : List Pattern) (named : Bool) (s : Text × Bytes) : Bytes × Bool :=
  let folded := g.hasAny "iy"
  let hit := fun (l : Bytes) => ps.any fun p => hits p folded (g.has 'x') (g.has 'w') (textOf (bare l))
  let rows := rowsOf s.2
  let all := rows.filter fun r => hit r.line != g.has 'v'
  let chosen := match (g.value? 'm').map Text.digitsValue with
    | some n => all.take n
    | none => all
  let found := !chosen.isEmpty
  let number := fun c => ((g.value? c).orElse fun _ => g.value? 'C').map Text.digitsValue
  let line := fun (r : Row) (sign : Char) => front g named s.1 r 0 sign ++ ended r.line
  let out :=
    if g.has 'q' then []
    else if g.has 'l' then if found then lineOf (shownName s.1) else []
    else if g.has 'L' then if found then [] else lineOf (shownName s.1)
    else if g.has 'c' then
      (if named then Octet.encode (shownName s.1 ++ [':']) else []) ++ lineOf (Text.ofNat chosen.length)
    else if isBinary s.2 && !g.has 'a' then
      if found then lineOf ("grep: ".toList ++ shownName s.1 ++ ": binary file matches".toList) else []
    else if g.has 'o' then
      if g.has 'v' then []
      else chosen.flatMap fun r =>
        let t := textOf (bare r.line)
        let ms := (ps.flatMap fun p => matchesIn p folded (g.has 'x') (g.has 'w') t).filter (!·.2.isEmpty)
        let ms := ms.mergeSort fun a b => a.1 ≤ b.1
        (apart 0 ms).flatMap fun (k, t) => front g named s.1 r k ':' ++ lineOf t
    else if g.hasAny "ABC" then
      let last := (chosen.getLast?.map (·.number)).getD 0
      let rest := if (g.value? 'm').isSome then rows.filter (·.number ≤ last + (number 'A').getD 0) else rows
      grouped line ((number 'B').getD 0) ((number 'A').getD 0) (chosen.map (·.number)) none rest
    else chosen.flatMap (line · ':')
  (out, if g.has 'L' then !found else found)
where
  /-- Matches that do not begin in others. -/
  apart : Nat → List (Nat × Text) → List (Nat × Text)
    | _, [] => []
    | k, (i, t) :: ms => if i < k then apart k ms else (i, t) :: apart (i + t.length) ms

/-- The files to look through, where those in directories count if that is asked for. -/
def files (g : Given) (m : Machine) (ps : List Text) : List Text :=
  if !g.hasAny "rR" then ps
  else
    let ps := if ps.isEmpty then [['.']] else ps
    let fits := fun (p : Text) =>
      let name := Walk.lastName p
      let glob := fun (t : Text) => Glob.fits (Glob.ofGlyphs (t.map (·, false))) name
      ((g.values 'I').isEmpty || (g.values 'I').any glob) && !(g.values 'X').any glob
    ps.flatMap fun p =>
      if m.tree.isDirAt p then
        let found := (m.tree.find p).map fun r => Walk.visits m.tree false (g.has 'R') m.tree.size [] 0 p r.1
        match found with
        | .ok vs => ((vs.filter fun v => !v.isDir && !v.node.isLink).map (·.path)).filter fits |>.map fun q =>
            if ps = [['.']] && "./".toList.isPrefixOf q && m.tree.isDirAt ['.'] && p = ['.'] && g.has 'Z' then q.drop 2 else q
        | .error _ => []
      else [p]

def usage (m : Machine) : Ran :=
  m.tell .err ("Usage: grep [OPTION]... PATTERNS [FILE]...\nTry 'grep --help' for more " ++
    "information.\n").toList 2

def options : Menu :=
  { plain := "EFGPivwxcnhHlLoqsbarRUyzTZ", valued := "emfABCIXdD", optional := "Y",
    long := [("extended-regexp", 'E'), ("fixed-strings", 'F'), ("basic-regexp", 'G'), ("perl-regexp", 'P'),
      ("ignore-case", 'i'), ("invert-match", 'v'), ("word-regexp", 'w'), ("line-regexp", 'x'),
      ("count", 'c'), ("line-number", 'n'), ("no-filename", 'h'), ("with-filename", 'H'),
      ("files-with-matches", 'l'), ("files-without-match", 'L'), ("only-matching", 'o'), ("quiet", 'q'),
      ("silent", 'q'), ("no-messages", 's'), ("byte-offset", 'b'), ("text", 'a'), ("recursive", 'r'),
      ("dereference-recursive", 'R'), ("regexp", 'e'), ("file", 'f'), ("max-count", 'm'),
      ("after-context", 'A'), ("before-context", 'B'), ("context", 'C'), ("include", 'I'),
      ("exclude", 'X'), ("color", 'Y'), ("colour", 'Y')] }

/-- A count behind a minus sign asks for lines around those that are found. -/
def withContext (args : List Text) : List Text :=
  args.map fun a => match a with
    | '-' :: c :: cs => if Text.isDigits (c :: cs) then "-C".toList ++ c :: cs else a
    | a => a

def grep (style : Option Pattern.Style) : Tool := fun args m =>
  match options.read (withContext args) with
  | .error why =>
    m.tell .err ("grep: ".toList ++ why ++
      "\nUsage: grep [OPTION]... PATTERNS [FILE]...\nTry 'grep --help' for more information.\n".toList) 2
  | .ok (g, rest) =>
    let style := match g.latest? "EFGP" with
      | some 'F' => none
      | some 'G' => some .basic
      | some _ => some .extended
      | none => style
    let listed := (g.values 'f').map fun p => if isInput p then .ok m.input else (m.tree.read p).mapError (p, ·)
    let fromFiles := listed.filterMap fun r => r.toOption.map fun b => (linesOf b).map fun l => textOf (bare l)
    let given := g.values 'e' ++ fromFiles.flatten
    let (pattern, names) := match g.hasAny "ef", rest with
      | false, p :: fs => (some p, fs)
      | false, [] => (none, [])
      | true, fs => (some (Text.joinLines given), fs)
    match listed.findSome? fun r => match r with
      | .error e => some e
      | .ok _ => none with
    | some (p, e) => finish [complain "grep" "" p e 2] [] 2 m
    | none =>
      match pattern.map fun p => if g.has 'f' && given.isEmpty then some [] else patternsOf style p with
      | none => usage m
      | some none => m.tell .err "grep: Invalid regular expression\n".toList 2
      | some (some ps) =>
        let fs := files g m names
        let (ss, n) := if g.hasAny "rR" && fs.isEmpty then ([], m) else Source.opened fs m
        let named := (1 < fs.length || g.has 'H' || g.hasAny "rR" && (names.isEmpty || names.any m.tree.isDirAt)) && !g.has 'h'
        let short := fun (s : Text × Bytes) =>
          if g.hasAny "rR" && names.isEmpty && "./".toList.isPrefixOf s.1 then (s.1.drop 2, s.2) else s
        let rs := ss.map fun s => s.content.map fun b => results g ps named (short (s.name, b))
        let found := rs.any fun r => (r.toOption.map (·.2)).getD false
        let said := (ss.zip rs).map fun (s, r) => match r with
          | .ok r => Except.ok r.1
          | .error e => .error (if g.has 's' then ⟨[], 2⟩ else complain "grep" "" s.name e 2)
        if g.has 'q' && found then finish [] [] 0 n
        else Source.finish said (if found then 0 else 1) n

def all : List (Text × Tool) :=
  [("grep".toList, grep (some .basic)), ("egrep".toList, grep (some .extended)), ("fgrep".toList, grep none)]

end Search

end Guidebook.Shell
