import Guidebook.Shell.EditScript
import Guidebook.Shell.FileTool

namespace Guidebook.Shell

namespace StreamEdit

open FileTool

/-- A text that is worked on. Its flag tells whether an end of line belongs to it. -/
structure Sheet where
  text : Text
  ended : Bool
  deriving DecidableEq, Repr

/-- A line that there is to read, and the file that it is from. -/
structure Incoming where
  sheet : Sheet
  name : Text
  deriving DecidableEq, Repr

/-- What is written when the work on a line is done. -/
inductive Late where
  | text (t : Text)
  | file (p : Text)
  deriving DecidableEq, Repr

/-- How lines are dealt with: whether they are shown only when asked for, the sign that ends them, and how
wide those are that are spelled out. At last whether a link stays when what it leads to is changed. -/
structure Custom where
  quiet : Bool
  mark : Char
  width : Nat
  follows : Bool
  deriving DecidableEq, Repr

/-- The work under way: the files, the input, lines to come, the number and the file of the line, the line
itself, the one that is kept, what is written later, ranges that are open and where they end, whether
something has been substituted, what was looked for last, what has been written, latest first, whether
that lacks an end of line, and how many lines of other files have been read. -/
structure Desk where
  tree : Disk
  input : Bytes
  lines : List Incoming
  number : Nat
  name : Text
  front : Sheet
  back : Sheet
  late : List Late
  opened : List (Nat × Option Nat)
  changed : Bool
  latest : Option Sought
  out : List Bytes
  lacking : Bool
  used : List (Text × Nat)

/-- How it goes on: with the next edit, with another one, with the next line, with the same line from
the first edit on, or not at all. -/
inductive Goal where
  | on
  | goTo (k : Nat)
  | done (shown : Bool)
  | again
  | quit (status : Nat) (shown : Bool)
  deriving DecidableEq, Repr

/-- The end of a line that was left out is written before anything else. -/
def Desk.sayBytes (d : Desk) (c : Custom) (b : Bytes) (lacking : Bool) : Desk :=
  { d with out := b :: (if d.lacking then [Octet.encode [c.mark]] else []) ++ d.out, lacking }

def Desk.say (d : Desk) (c : Custom) (s : Sheet) : Desk :=
  d.sayBytes c (Octet.encode (if s.ended then s.text ++ [c.mark] else s.text)) (!s.ended)

/-- Puts a line at the end of a file. -/
def Desk.note (d : Desk) (c : Custom) (p : Text) (s : Sheet) : Desk :=
  if p = "/dev/stdout".toList then d.say c s
  else
    let old := (d.tree.read p).toOption.getD []
    let gap := if old.isEmpty || old.getLast? = some 10 then [] else [10]
    let b := gap ++ Octet.encode (if s.ended then s.text ++ [c.mark] else s.text)
    { d with tree := (d.tree.append p b).toOption.getD d.tree }

/-- Writes what has been put off. -/
def Desk.settled (d : Desk) (c : Custom) : Desk :=
  let step := fun (d : Desk) (l : Late) => match l with
    | .text t => d.sayBytes c (Octet.encode t) false
    | .file p =>
      if isInput p then { d.sayBytes c d.input false with input := [] }
      else match d.tree.read p with
        | .ok b => if b.isEmpty then d else d.sayBytes c b false
        | .error _ => d
  { d.late.foldl step d with late := [] }

/-- Takes up the next line; the flag tells whether the one there is stays in front of it. -/
def Desk.turn? (d : Desk) (c : Custom) (joined : Bool) : Option Desk :=
  match d.lines with
  | [] => none
  | l :: ls =>
    let d := d.settled c
    let front := if joined then ⟨d.front.text ++ c.mark :: l.sheet.text, l.sheet.ended⟩ else l.sheet
    some { d with lines := ls, number := d.number + 1, name := l.name, front, changed := false }

def Desk.seek (d : Desk) (s : Option Sought) : Option Sought := s.orElse fun _ => d.latest

/-- Whether the line is at a place. -/
def Desk.hits (d : Desk) (a : Spot) : Bool × Desk :=
  match a with
  | .number n => (n = d.number, d)
  | .steps first step =>
    (if step = 0 then d.number = first else first ≤ d.number && (d.number - first) % step = 0, d)
  | .last => (d.lines.isEmpty, d)
  | .fitting s =>
    match d.seek s with
    | some s => (s.pattern.occursIn s.folded d.front.text, { d with latest := some s })
    | none => (false, d)
  | .further _ | .multiple _ => (false, d)

def Desk.closing (d : Desk) (k : Nat) : Desk := { d with opened := d.opened.filter (·.1 ≠ k) }

def Desk.opening (d : Desk) (k : Nat) (goal : Option Nat) : Desk :=
  { d with opened := (k, goal) :: d.opened.filter (·.1 ≠ k) }

/-- Whether the lines of an edit hold the line. A range is open from its first line to its last one. -/
def Desk.selects (d : Desk) (k : Nat) : Lines → Bool × Desk
  | .all => (true, d)
  | .single a => d.hits a
  | .between a b =>
    match d.opened.lookup k with
    | some (some n) =>
      let e := if n ≤ d.number then d.closing k else d
      if d.number ≤ n then (true, e) else e.hits a
    | some none =>
      let (hit, e) := d.hits b
      (true, if hit then e.closing k else e)
    | none =>
      let (hit, e) := d.hits a
      if !hit then (false, e)
      else (true, match b with
        | .number n => if n ≤ d.number then e else e.opening k (some n)
        | .further n => if n = 0 then e else e.opening k (some (d.number + n))
        | .multiple n =>
          if n = 0 then e else e.opening k (some ((d.number / n + 1) * n))
        | .last => if d.lines.isEmpty then e else e.opening k none
        | _ => e.opening k none)

/-- How letters are to be written: all of them, and the next one. -/
abbrev Case := Option Bool × Option Bool

def cased (upper : Bool) (c : Char) : Char := if upper then c.toUpper else c.toLower

/-- A text in some case, and the case of what follows. -/
def inCase (k : Case) (t : Text) : Text × Case :=
  match t with
  | [] => ([], k)
  | c :: cs =>
    let all := fun (c : Char) => (k.1.map (cased · c)).getD c
    (((k.2.map (cased · c)).getD (all c)) :: cs.map all, (k.1, none))

/-- What is put in the place of a match. -/
def filled (ps : List Filling) (taken : Text) (groups : List (Nat × Text)) : Text :=
  (ps.foldl (fun (r : Text × Case) p =>
    let put := fun (t : Text) =>
      let s := inCase r.2 t
      (r.1 ++ s.1, s.2)
    match p with
    | .plain t => put t
    | .group 0 => put taken
    | .group n => put ((groups.lookup n).getD [])
    | .casing (.all upper) => (r.1, some upper, r.2.2)
    | .casing (.next upper) => (r.1, r.2.1, some upper)
    | .casing .stop => (r.1, none, none)) ([], none, none)).1

/-- The signs that spell a byte. -/
def spelled (x : UInt8) : Text :=
  let octal := fun (n : Nat) => [n / 64, n / 8 % 8, n % 8].map fun k => Char.ofNat (48 + k)
  match x.toNat with
  | 7 => ['\\', 'a']
  | 8 => ['\\', 'b']
  | 9 => ['\\', 't']
  | 10 => ['\\', 'n']
  | 11 => ['\\', 'v']
  | 12 => ['\\', 'f']
  | 13 => ['\\', 'r']
  | 92 => ['\\', '\\']
  | n => if 32 ≤ n && n < 127 then [Char.ofNat n] else '\\' :: octal n

/-- A text spelled out, in lines that are not wider than they may be. -/
def spellOut (width : Nat) (b : Bytes) : Text :=
  (b.foldl (fun (r : Text × Nat) x =>
    let s := spelled x
    if 0 < width && width < r.2 + s.length + 1 then (r.1 ++ ['\\', '\n'] ++ s, s.length)
    else (r.1 ++ s, r.2 + s.length)) ([], 0)).1 ++ ['$']

/-- Where a label is among some edits; no label is the end of them. -/
def goalOf (es : List Edit) (label : Text) : Nat :=
  if label.isEmpty then es.length else (es.findIdx? fun e => e.act = .label label).getD es.length

/-- The part of a line up to its first end of line. -/
def firstOf (c : Custom) (t : Text) : Text := t.takeWhile (· ≠ c.mark)

def Desk.substitute (d : Desk) (c : Custom) (s : Substitution) : Desk :=
  match d.seek s.sought with
  | none => d
  | some q =>
    let r := q.pattern.replace q.folded (filled s.new) s.first s.every d.front.text
    let d := { d with latest := some q }
    if r.2 = 0 then d
    else
      let d := { d with front := { d.front with text := r.1 }, changed := true }
      let d := if s.printed then d.say c d.front else d
      match s.goal with
      | some p => d.note c p d.front
      | none => d

/-- Puts off a line of another file, the next one of it. -/
def Desk.readLine (d : Desk) (p : Text) : Desk :=
  let ls := linesOf ((d.tree.read p).toOption.getD [])
  let n := (d.used.lookup p).getD 0
  match ls[n]? with
  | some l =>
    { d with late := d.late ++ [.text (textOf (bare l) ++ ['\n'])], used := (p, n + 1) :: d.used.filter (·.1 ≠ p) }
  | none => d

/-- Does what an edit says. -/
def Desk.act (d : Desk) (c : Custom) (es : List Edit) (ranging : Bool) : EditAct → Desk × Goal
  | .substitute s => (d.substitute c s, .on)
  | .translate old new =>
    let t := d.front.text.map fun x => ((old.zip new).lookup x).getD x
    ({ d with front := { d.front with text := t } }, .on)
  | .delete => (d, .done false)
  | .deleteFirst =>
    match Text.cut? c.mark d.front.text with
    | none => (d, .done false)
    | some (_, rest) => ({ d with front := { d.front with text := rest } }, .again)
  | .print => (d.say c d.front, .on)
  | .printFirst => (d.say c ⟨firstOf c d.front.text, true⟩, .on)
  | .number => (d.sayBytes c (Octet.encode (Text.ofNat d.number ++ ['\n'])) false, .on)
  | .name => (d.sayBytes c (Octet.encode (d.name ++ ['\n'])) false, .on)
  | .spell width =>
    (d.sayBytes c (Octet.encode (spellOut (width.getD c.width) (Octet.encode d.front.text) ++ ['\n'])) false, .on)
  | .clear => ({ d with front := { d.front with text := [] } }, .on)
  | .next =>
    if d.lines.isEmpty then (d, .done true)
    else
      let e := if c.quiet then d else d.say c d.front
      ((e.turn? c false).getD e, .on)
  | .join =>
    match d.turn? c true with
    | some e => (e, .on)
    | none => (d, .done true)
  | .keep false => ({ d with back := d.front }, .on)
  | .keep true => ({ d with back := ⟨d.back.text ++ c.mark :: d.front.text, d.front.ended⟩ }, .on)
  | .recall false => ({ d with front := d.back }, .on)
  | .recall true => ({ d with front := ⟨d.front.text ++ c.mark :: d.back.text, d.back.ended⟩ }, .on)
  | .swap => ({ d with front := d.back, back := d.front }, .on)
  | .before t => (d.sayBytes c (Octet.encode t) false, .on)
  | .after t => ({ d with late := d.late ++ [.text t] }, .on)
  | .change t => (if ranging then d else d.sayBytes c (Octet.encode t) false, .done false)
  | .file p => ({ d with late := d.late ++ [.file p] }, .on)
  | .fileLine p => (d.readLine p, .on)
  | .write p => (d.note c p d.front, .on)
  | .writeFirst p => (d.note c p ⟨firstOf c d.front.text, true⟩, .on)
  | .jump none label => (d, .goTo (goalOf es label))
  | .jump (some wanted) label =>
    ({ d with changed := false }, if d.changed = wanted then .goTo (goalOf es label) else .on)
  | .label _ | .block _ => (d, .on)
  | .quit status silent => (d, .quit status (!silent))

/-- One edit, if the line is one that it is for. What is in a block is left out with the block. -/
def Desk.edit (d : Desk) (c : Custom) (es : List Edit) (k : Nat) (e : Edit) : Desk × Goal :=
  let (hit, d) := d.selects k e.lines
  if hit != e.negated then d.act c es ((d.opened.lookup k).isSome && !e.negated) e.act
  else match e.act with
    | .block size => (d, .goTo (k + 1 + size))
    | _ => (d, .on)

/-- The work on a line is done. -/
def Desk.finished (d : Desk) (c : Custom) (shown : Bool) : Desk :=
  (if shown && !c.quiet then d.say c d.front else d).settled c

/-- Goes on with the edits from a number on, for so many steps at the most. The status tells how it has
ended, and the flag whether it is over with all files. -/
def follow (c : Custom) (es : List Edit) : Nat → Nat → Desk → Desk × Option Nat
  | 0, _, d => (d, some 1)
  | n + 1, k, d =>
    let (d, g) : Desk × Goal := match es[k]? with
      | none => (d, .done true)
      | some e => d.edit c es k e
    match g with
    | .on => follow c es n (k + 1) d
    | .goTo j => follow c es n j d
    | .again => follow c es n 0 (d.settled c)
    | .done shown =>
      let d := d.finished c shown
      match d.turn? c false with
      | some e => follow c es n 0 e
      | none => (d, none)
    | .quit status shown => (if shown then d.finished c true else d, some status)

/-- How many steps are enough for all but scripts that go on forever. -/
def patience (es : List Edit) (ls : List Incoming) : Nat := 20000 * (es.length + 1) * (ls.length + 1)

/-- Ranges that begin before the first line. -/
def beginnings (es : List Edit) : List (Nat × Option Nat) :=
  es.zipIdx.filterMap fun (e, k) => match e.lines with
    | .between (.number 0) _ => some (k, none)
    | _ => none

/-- Lines of some contents. -/
def sourcesOf (c : Custom) (name : Text) (b : Bytes) : List Incoming :=
  let ps := Text.pieces (· == c.mark) (textOf b)
  let ended := ps.getLast? = some []
  let ps := if ended then ps.dropLast else ps
  ps.zipIdx.map fun (p, i) => ⟨⟨p, ended || i + 1 < ps.length⟩, name⟩

/-- Works on some lines. The status is there if all is over. -/
def work (c : Custom) (es : List Edit) (m : Machine) (ls : List Incoming) : Desk × Option Nat :=
  let d : Desk :=
    { tree := m.tree, input := m.input, lines := ls, number := 0, name := [], front := ⟨[], true⟩,
      back := ⟨[], true⟩, late := [], opened := beginnings es, changed := false, latest := none, out := [],
      lacking := false, used := [] }
  match d.turn? c false with
  | some d => follow c es (patience es ls) 0 d
  | none => (d, none)

def Desk.written (d : Desk) : Bytes := d.out.reverse.flatten

/-- Files that are written to are there from the beginning. -/
def prepared (es : List Edit) (t : Disk) : Disk :=
  let goals := es.filterMap fun e => match e.act with
    | .write p | .writeFirst p => some p
    | .substitute s => s.goal
    | _ => none
  goals.foldl (fun t p => if "/dev/".toList.isPrefixOf p then t else (t.write p []).toOption.getD t) t

/-- Files that are changed where they are; each may be kept under another name. -/
def inPlace (c : Custom) (es : List Edit) (suffix : Text) : List Text → Ran → Ran
  | [], r => r
  | p :: ps, r =>
    let m := r.machine
    let worst := fun (k : Nat) => Finish.status (max r.finish.code k)
    let failed := fun (k : Complaint) =>
      inPlace c es suffix ps ⟨m, r.printed ++ [(.err, Octet.encode k.what)], worst k.status⟩
    match m.tree.find p with
    | .error e => failed (complain "sed" "can't read " p e 2)
    | .ok (_, .dir _) | .ok (_, .device ..) | .ok (_, .link ..) => failed (objection "sed" ("couldn't edit ".toList ++ p ++ ": not a regular file".toList) 4)
    | .ok (_, .file s b) =>
      let (d, ending) := work c es m (sourcesOf c p b)
      let kept := if suffix.contains '*' then Text.replace ['*'] (Walk.lastName p) suffix else p ++ suffix
      let t := if suffix.isEmpty then d.tree else (d.tree.rename p kept).toOption.getD d.tree
      let place := if c.follows then d.tree.spot p else d.tree.locate p
      let a := (place.toOption.map (·.address)).getD []
      let n := { m with tree := t.add a (.file { s with time := t.now } d.written), input := d.input }
      match ending with
      | some status => ⟨n, r.printed, worst status⟩
      | none => inPlace c es suffix ps ⟨n, r.printed, r.finish⟩

/-- Contents that are each worked on apart. -/
def apart (c : Custom) (es : List Edit) : List (Text × Bytes) → Machine → Bytes → Bytes × Nat × Machine
  | [], m, out => (out, 0, m)
  | (p, b) :: ss, m, out =>
    let (d, ending) := work c es m (sourcesOf c p b)
    let n := { m with tree := d.tree, input := d.input }
    match ending with
    | some status => (out ++ d.written, status, n)
    | none =>
      let gap := if d.lacking && !ss.isEmpty then Octet.encode [c.mark] else []
      apart c es ss n (out ++ d.written ++ gap)

def menu : Menu :=
  { plain := "nErsuzpF", valued := "efl", optional := "i",
    long := [("quiet", 'n'), ("silent", 'n'), ("expression", 'e'), ("file", 'f'), ("in-place", 'i'),
      ("line-length", 'l'), ("posix", 'p'), ("regexp-extended", 'E'), ("separate", 's'), ("unbuffered", 'u'),
      ("null-data", 'z'), ("follow-symlinks", 'F')] }

def usage : Text :=
  "Usage: sed [OPTION]... \x7bscript-only-if-no-other-script\x7d [input-file]...\n\n".toList

/-- The texts of the script that the options spell, in their order, or a file that cannot be read. -/
def scriptsOf (g : Given) (m : Machine) : Except (Text × IoFault) (List Text) :=
  (g.filter fun o => o.1 = 'e' || o.1 = 'f').mapM fun o =>
    if o.1 = 'e' then .ok o.2
    else if isInput o.2 then .ok (textOf (bare m.input))
    else ((m.tree.read o.2).mapError (o.2, ·)).map fun b => textOf (bare b)

def sed : Tool := fun args m =>
  match menu.read args with
  | .error why => m.tell .err ("sed: ".toList ++ why ++ '\n' :: usage) 1
  | .ok (g, rest) =>
    match scriptsOf g m, g.hasAny "ef", rest with
    | .error (p, e), _, _ => finish [complain "sed" "couldn't open file " p e 4] [] 4 m
    | .ok _, false, [] => m.tell .err usage 1
    | .ok given, named, rest =>
      let scripts := if named then given else rest.take 1
      let files := if named then rest else rest.drop 1
      let style := if g.hasAny "Er" then .extended else .basic
      match EditScript.read style scripts with
      | .error (why, status) => m.tell .err ("sed: ".toList ++ why ++ ['\n']) status
      | .ok es =>
        let first := (scripts.head?).getD []
        let hushed := ['#', 'n'].isPrefixOf first
        let width := ((g.value? 'l').map Text.digitsValue).getD 70
        let c : Custom :=
          { quiet := g.has 'n' || hushed, mark := if g.has 'z' then Char.ofNat 0 else '\n',
            width := if width = 1 then 0 else width, follows := g.has 'F' }
        let m := { m with tree := prepared es m.tree }
        match g.value? 'i', files with
        | some _, [] => m.tell .err "sed: no input files\n".toList 1
        | some suffix, fs => inPlace c es suffix fs (m.ends 0)
        | none, fs =>
          let dir := fs.find? m.tree.isDirAt
          let stuck := dir.toList.map fun p =>
            complain "sed" "read error on " p .isDirectory 4
          let front := fs.takeWhile (!m.tree.isDirAt ·)
          let (cs, complaints, n) :=
            if front.isEmpty && dir.isSome then ([], [], m) else sources "sed" "can't read " 2 front m
          let (out, status, n) :=
            if g.has 's' then apart c es cs n []
            else
              let (d, ending) := work c es n (cs.flatMap fun s => sourcesOf c s.1 s.2)
              (d.written, ending.getD 0, { n with tree := d.tree, input := d.input })
          finish (complaints ++ stuck) out status n

end StreamEdit

end Guidebook.Shell
