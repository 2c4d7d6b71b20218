import Guidebook.Shell.Pattern

namespace Guidebook.Shell

/-- A pattern that is looked for, perhaps without regard to case. -/
structure Sought where
  pattern : Pattern
  folded : Bool
  deriving DecidableEq, Repr

/-- How letters are written: all in one case up to further notice, or only the next one. -/
inductive Casing where
  | all (upper : Bool)
  | next (upper : Bool)
  | stop
  deriving DecidableEq, Repr

/-- What is put in the place of a match: a text, a group of the match, or the match itself, which is
group 0. -/
inductive Filling where
  | plain (t : Text)
  | group (n : Nat)
  | casing (c : Casing)
  deriving DecidableEq, Repr

/-- A place among lines. A pattern that is missing is the one that was looked for last. -/
inductive Spot where
  | number (n : Nat)
  | steps (first step : Nat)
  | last
  | fitting (s : Option Sought)
  | further (n : Nat)
  | multiple (n : Nat)
  deriving DecidableEq, Repr

/-- Which lines something is done to. -/
inductive Lines where
  | all
  | single (a : Spot)
  | between (a b : Spot)
  deriving DecidableEq, Repr

structure Substitution where
  sought : Option Sought
  new : List Filling
  first : Nat
  every : Bool
  printed : Bool
  goal : Option Text
  deriving DecidableEq, Repr

/-- What is done to a line that is held before the eyes. Another one can be kept in the back. -/
inductive EditAct where
  | substitute (s : Substitution)
  | translate (old new : Text)
  | delete
  | deleteFirst
  | print
  | printFirst
  | number
  | name
  | spell (width : Option Nat)
  | clear
  | next
  | join
  | keep (more : Bool)
  | recall (more : Bool)
  | swap
  | before (t : Text)
  | after (t : Text)
  | change (t : Text)
  | file (p : Text)
  | fileLine (p : Text)
  | write (p : Text)
  | writeFirst (p : Text)
  | jump (changed : Option Bool) (label : Text)
  | label (name : Text)
  | block (size : Nat)
  | quit (status : Nat) (silent : Bool)
  deriving DecidableEq, Repr

structure Edit where
  lines : Lines
  negated : Bool
  act : EditAct
  deriving DecidableEq, Repr

/-- Why a script makes no sense. -/
inductive EditFault where
  | unknown (c : Char)
  | missing
  | extra
  | openBlock
  | strayBrace
  | strayComma
  | openAddress
  | openCommand (c : Char)
  | unknownFlag
  | twice (c : Char)
  | numberTwice
  | zeroNumber
  | noText
  | noLabel
  | noAddress
  | noComment
  | oneAddress
  | zeroLine
  | manyNegations
  | lengths
  | noFile
  | badPattern
  | noGroup (n : Nat)
  | lostLabel (t : Text)
  | noPattern
  deriving DecidableEq, Repr

def EditFault.text : EditFault → Text
  | .unknown c => "unknown command: `".toList ++ [c, '\'']
  | .missing => "missing command".toList
  | .extra => "extra characters after command".toList
  | .openBlock => "unmatched `\x7b'".toList
  | .strayBrace => "unexpected `\x7d'".toList
  | .strayComma => "unexpected `,'".toList
  | .openAddress => "unterminated address regex".toList
  | .openCommand c => "unterminated `".toList ++ c :: "' command".toList
  | .unknownFlag => "unknown option to `s'".toList
  | .twice c => "multiple `".toList ++ c :: "' options to `s' command".toList
  | .numberTwice => "multiple number options to `s' command".toList
  | .zeroNumber => "number option to `s' command may not be zero".toList
  | .noText => "expected \\ after `a', `c' or `i'".toList
  | .noLabel => "\":\" lacks a label".toList
  | .noAddress => ": doesn't want any addresses".toList
  | .noComment => "comments don't accept any addresses".toList
  | .oneAddress => "command only uses one address".toList
  | .zeroLine => "invalid usage of line address 0".toList
  | .manyNegations => "multiple `!'s".toList
  | .lengths => "strings for `y' command are different lengths".toList
  | .noFile => "missing filename in r/R/w/W commands".toList
  | .badPattern => "Invalid preceding regular expression".toList
  | .noGroup n => "invalid reference \\".toList ++ Text.ofNat n ++ " on `s' command's RHS".toList
  | .noPattern => "no previous regular expression".toList
  | .lostLabel t => "can't find label for jump to `".toList ++ t ++ ['\'']

namespace EditScript

/-- What is wrong with a script, and what of it has not been read. -/
abbrev Reading := Except (EditFault × Text)

def isBlank (c : Char) : Bool := c = ' ' || c = '\t'

def digits (t : Text) : Text := t.takeWhile Char.isDigit

/-- Everything up to a delimiter, and what follows. A backslash keeps the delimiter. In a pattern, it
ends nothing between brackets, and a backslash with an `n` is the end of a line. -/
def upTo (pattern : Bool) (d : Char) : Nat → Text → Option (Text × Text)
  | 0, _ => none
  | _, [] => none
  | n + 1, '\\' :: c :: cs =>
    let kept := if c = d then [c] else if c = 'n' && pattern then ['\n'] else if c = '\n' then ['\n'] else ['\\', c]
    (upTo pattern d n cs).map fun r => (kept ++ r.1, r.2)
  | n + 1, '[' :: cs =>
    let inside := (Atom.set? ['^'] cs).map fun r => cs.take (cs.length - r.2.length)
    match pattern, inside with
    | true, some set =>
      if set.contains '\n' || d = '[' then (upTo pattern d n cs).map fun r => ('[' :: r.1, r.2)
      else (upTo pattern d n (cs.drop set.length)).map fun r => ('[' :: spelled set ++ r.1, r.2)
    | true, none => none
    | false, _ => if d = '[' then some ([], cs) else (upTo pattern d n cs).map fun r => ('[' :: r.1, r.2)
  | n + 1, c :: cs =>
    if c = d then some ([], cs)
    else if c = '\n' then none
    else (upTo pattern d n cs).map fun r => (c :: r.1, r.2)
where
  spelled (set : Text) : Text := Text.replace "\\t".toList ['\t'] (Text.replace "\\n".toList ['\n'] set)

/-- The character that an escape after a backslash stands for, and what follows. -/
def escape? : Text → Option (Char × Text)
  | 'a' :: cs => some (Char.ofNat 7, cs)
  | 'f' :: cs => some (Char.ofNat 12, cs)
  | 'n' :: cs => some ('\n', cs)
  | 'r' :: cs => some ('\r', cs)
  | 't' :: cs => some ('\t', cs)
  | 'v' :: cs => some (Char.ofNat 11, cs)
  | 'c' :: c :: cs => some (Char.ofNat (c.toUpper.toNat ^^^ 64), cs)
  | 'd' :: cs => numbered 10 3 Char.isDigit cs
  | 'o' :: cs => numbered 8 3 (fun c => '0' ≤ c && c ≤ '7') cs
  | 'x' :: cs => numbered 16 2 (fun c => c.isDigit || 'a' ≤ c.toLower && c.toLower ≤ 'f') cs
  | _ => none
where
  value (c : Char) : Nat := if c.isDigit then Text.digitValue c else c.toLower.toNat - 87
  numbered (base most : Nat) (p : Char → Bool) (cs : Text) : Option (Char × Text) :=
    let ds := (cs.take most).takeWhile p
    if ds.isEmpty then none
    else some (Char.ofNat ((ds.foldl (fun n c => base * n + value c) 0) % 256), cs.drop ds.length)

/-- A pattern with its escapes in the form that patterns know. -/
def unescaped : Nat → Text → Text
  | 0, t => t
  | n + 1, '\\' :: c :: cs =>
    let known := "acdfovxr".toList.contains c
    match if known then escape? (c :: cs) else none with
    | some (d, rest) => (if "*.[]^$\\/+?()|".toList.contains d then ['\\', d] else [d]) ++ unescaped n rest
    | none => '\\' :: c :: unescaped n cs
  | n + 1, c :: cs => c :: unescaped n cs
  | _, [] => []

/-- A pattern between delimiters; nothing between them is the pattern that was looked for last. -/
def sought (style : Pattern.Style) (t : Text) (folded byLine : Bool) (rest : Text) : Reading (Option Sought) :=
  if t.isEmpty then .ok none
  else match Pattern.ofText? style (unescaped t.length t) with
    | some p => .ok (some ⟨if byLine then p.byLine else p, folded⟩)
    | none => .error (.badPattern, rest)

/-- A place at the start of a text, if there is one. -/
def spot? (style : Pattern.Style) : Text → Reading (Option (Spot × Text))
  | '$' :: cs => .ok (some (.last, cs))
  | '/' :: cs => fitting '/' cs
  | '\\' :: d :: cs => fitting d cs
  | t =>
    let ds := digits t
    if ds.isEmpty then .ok none
    else match (t.drop ds.length).dropWhile isBlank with
      | '~' :: cs =>
        let cs := cs.dropWhile isBlank
        .ok (some (.steps (Text.digitsValue ds) (Text.digitsValue (digits cs)), cs.drop (digits cs).length))
      | _ => .ok (some (.number (Text.digitsValue ds), t.drop ds.length))
where
  fitting (d : Char) (cs : Text) : Reading (Option (Spot × Text)) :=
    match upTo true d (cs.length + 1) cs with
    | none => .error (.openAddress, [])
    | some (old, cs) => do
      let flags := cs.takeWhile fun c => c = 'I' || c = 'M'
      let rest := cs.drop flags.length
      let s ← sought style old (flags.contains 'I') (flags.contains 'M') rest
      return some (.fitting s, rest)

/-- The second place of a range. -/
def secondSpot? (style : Pattern.Style) : Text → Reading (Option (Spot × Text))
  | '+' :: cs => .ok (some (.further (Text.digitsValue (digits cs)), cs.drop (digits cs).length))
  | '~' :: cs => .ok (some (.multiple (Text.digitsValue (digits cs)), cs.drop (digits cs).length))
  | t => spot? style t

def lines (style : Pattern.Style) (t : Text) : Reading (Lines × Text) := do
  match ← spot? style t with
  | none => return (.all, t)
  | some (a, rest) =>
    match rest.dropWhile isBlank with
    | ',' :: cs =>
      match ← secondSpot? style (cs.dropWhile isBlank) with
      | none => .error (.strayComma, (cs.dropWhile isBlank).drop 1)
      | some (b, rest) =>
        match a, b with
        | .number 0, .fitting _ => return (.between a b, rest)
        | .number 0, _ => .error (.zeroLine, rest.drop 1)
        | a, b => return (.between a b, rest)
    | _ => if a = .number 0 then .error (.zeroLine, rest.drop 1) else return (.single a, rest)

/-- The text of a line to be put in, which goes on where its line ends with a backslash, and what
follows it. -/
def body : Nat → Text → Text × Text
  | 0, t => (t, [])
  | n + 1, '\\' :: cs =>
    match escape? cs, cs with
    | some (c, rest), _ => (c :: (body n rest).1, (body n rest).2)
    | none, c :: cs => (c :: (body n cs).1, (body n cs).2)
    | none, [] => ([], [])
  | _, '\n' :: cs => ([], '\n' :: cs)
  | n + 1, c :: cs => (c :: (body n cs).1, (body n cs).2)
  | _, [] => ([], [])

/-- The text behind a command that puts one in, with its end of line: on the line below it after a
backslash, or on its own line. A backslash in front of it keeps its blanks. -/
def textOf (t : Text) : Text × Text :=
  let read := fun (t : Text) => ((body t.length t).1 ++ ['\n'], (body t.length t).2)
  match t.dropWhile isBlank with
  | '\\' :: cs =>
    match cs.dropWhile isBlank with
    | '\n' :: rest => read rest
    | [] => ([], [])
    | _ => match cs with
      | c :: more => if isBlank c then read cs else ((c :: (read more).1), (read more).2)
      | [] => ([], [])
  | cs => read cs

/-- What is put in the place of a match. -/
def parts : Nat → Text → List Filling
  | 0, _ | _, [] => []
  | n + 1, '&' :: cs => .group 0 :: parts n cs
  | n + 1, '\\' :: c :: cs =>
    match c with
    | 'U' => .casing (.all true) :: parts n cs
    | 'L' => .casing (.all false) :: parts n cs
    | 'u' => .casing (.next true) :: parts n cs
    | 'l' => .casing (.next false) :: parts n cs
    | 'E' => .casing .stop :: parts n cs
    | c =>
      if c.isDigit then .group (Text.digitValue c) :: parts n cs
      else match escape? (c :: cs) with
        | some (d, rest) => .plain [d] :: parts n rest
        | none => .plain [c] :: parts n cs
  | n + 1, c :: cs => .plain [c] :: parts n cs

/-- Letters behind a substitution, under way. -/
structure Flags where
  number : Option Nat := none
  every : Bool := false
  printed : Bool := false
  folded : Bool := false
  byLine : Bool := false
  goal : Option Text := none

def flags : Nat → Flags → Text → Reading (Flags × Text)
  | 0, f, t => .ok (f, t)
  | _, f, [] => .ok (f, [])
  | n + 1, f, c :: cs =>
    match c with
    | 'g' => if f.every then .error (.twice 'g', cs) else flags n { f with every := true } cs
    | 'p' => if f.printed then .error (.twice 'p', cs) else flags n { f with printed := true } cs
    | 'i' | 'I' => flags n { f with folded := true } cs
    | 'm' | 'M' => flags n { f with byLine := true } cs
    | 'w' =>
      let name := (cs.dropWhile isBlank).takeWhile (· ≠ '\n')
      if name.isEmpty then .error (.noFile, []) else .ok ({ f with goal := some name }, cs.dropWhile (· ≠ '\n'))
    | c =>
      if c.isDigit then
        let ds := digits (c :: cs)
        let rest := (c :: cs).drop ds.length
        if f.number.isSome then .error (.numberTwice, rest)
        else if Text.digitsValue ds = 0 then .error (.zeroNumber, rest)
        else flags n { f with number := some (Text.digitsValue ds) } rest
      else if isBlank c then flags n f cs
      else if "\n;\x7d#".toList.contains c then .ok (f, c :: cs)
      else .error (.unknownFlag, cs)

/-- The greatest group that is asked for. -/
def lastGroup (ps : List Filling) : Nat :=
  ps.foldl (fun n p => match p with
    | .group k => max n k
    | _ => n) 0

def substitution (style : Pattern.Style) (t : Text) : Reading (EditAct × Text) :=
  match t with
  | [] => .error (.openCommand 's', [])
  | d :: cs =>
    match (upTo true d (cs.length + 1) cs).bind fun r =>
        (upTo false d (r.2.length + 1) r.2).map fun s => (r.1, s.1, s.2) with
    | none => .error (.openCommand 's', [])
    | some (old, new, cs) => do
      let (f, rest) ← flags (cs.length + 1) {} cs
      let s ← sought style old f.folded f.byLine rest
      let new := parts (new.length + 1) new
      if s.any fun s => s.pattern.groups < lastGroup new then .error (.noGroup (lastGroup new), rest)
      else return (.substitute ⟨s, new, f.number.getD 1, f.every, f.printed, f.goal⟩, rest)

/-- Characters for characters. -/
def plainly : Nat → Text → Text
  | n + 1, '\\' :: c :: cs =>
    match c with
    | '\\' => '\\' :: plainly n cs
    | 'n' => '\n' :: plainly n cs
    | 't' => '\t' :: plainly n cs
    | c => c :: plainly n cs
  | n + 1, c :: cs => c :: plainly n cs
  | _, _ => []

def translation (t : Text) : Reading (EditAct × Text) :=
  match t with
  | [] => .error (.openCommand 'y', [])
  | d :: cs =>
    match (upTo false d (cs.length + 1) cs).bind fun r =>
        (upTo false d (r.2.length + 1) r.2).map fun s => (r.1, s.1, s.2) with
    | none => .error (.openCommand 'y', [])
    | some (old, new, cs) =>
      let old := plainly old.length old
      let new := plainly new.length new
      if old.length = new.length then .ok (.translate old new, cs) else .error (.lengths, cs)

/-- A number behind a command. -/
def count? (cs : Text) : Option Nat × Text :=
  let cs := cs.dropWhile isBlank
  let ds := digits cs
  (if ds.isEmpty then none else some (Text.digitsValue ds), cs.drop ds.length)

/-- A name of a file goes on to the end of the line. -/
def fileName (make : Text → EditAct) (cs : Text) : Reading (EditAct × Text) :=
  let name := (cs.dropWhile isBlank).takeWhile (· ≠ '\n')
  if name.isEmpty then .error (.noFile, cs.dropWhile (· ≠ '\n'))
  else .ok (make name, cs.dropWhile (· ≠ '\n'))

def labelName (cs : Text) : Text × Text :=
  let name := (cs.dropWhile isBlank).takeWhile fun c => !(isBlank c) && !"\n;\x7d".toList.contains c
  (name, (cs.dropWhile isBlank).drop name.length)

def wordAct? : Char → Option EditAct
  | 'd' => some .delete
  | 'D' => some .deleteFirst
  | 'p' => some .print
  | 'P' => some .printFirst
  | '=' => some .number
  | 'F' => some .name
  | 'z' => some .clear
  | 'n' => some .next
  | 'N' => some .join
  | 'h' => some (.keep false)
  | 'H' => some (.keep true)
  | 'g' => some (.recall false)
  | 'G' => some (.recall true)
  | 'x' => some .swap
  | _ => none

/-- What a command does, and what follows it. -/
def act (style : Pattern.Style) (c : Char) (cs : Text) : Reading (EditAct × Text) :=
  let put := fun (make : Text → EditAct) =>
    if (cs.dropWhile isBlank).isEmpty then .error (.noText, [])
    else .ok (make (textOf cs).1, (textOf cs).2)
  match c with
  | 's' => substitution style cs
  | 'y' => translation cs
  | 'a' => put .after
  | 'i' => put .before
  | 'c' => put .change
  | 'r' => fileName .file cs
  | 'R' => fileName .fileLine cs
  | 'w' => fileName .write cs
  | 'W' => fileName .writeFirst cs
  | 'b' => .ok (.jump none (labelName cs).1, (labelName cs).2)
  | 't' => .ok (.jump (some true) (labelName cs).1, (labelName cs).2)
  | 'T' => .ok (.jump (some false) (labelName cs).1, (labelName cs).2)
  | 'l' => .ok (.spell (count? cs).1, (count? cs).2)
  | 'q' => .ok (.quit ((count? cs).1.getD 0) false, (count? cs).2)
  | 'Q' => .ok (.quit ((count? cs).1.getD 0) true, (count? cs).2)
  | c => match wordAct? c with
    | some a => .ok (a, cs)
    | none => .error (.unknown c, cs)

/-- The end of a command, and what follows it. -/
def ending (cs : Text) : Reading Text :=
  match cs.dropWhile isBlank with
  | [] => .ok []
  | c :: rest =>
    if c = '\n' || c = ';' then .ok rest
    else if c = '#' || c = '\x7d' then .ok (c :: rest)
    else .error (.extra, rest)

def isGap (c : Char) : Bool := isBlank c || c = ';' || c = '\n'

def usesOne : EditAct → Bool
  | .quit .. => true
  | _ => false

/-- The edits that a text spells, as far as a block goes if one is open, and what follows. A block is
followed by what is in it. -/
def edits (style : Pattern.Style) : Nat → Bool → Text → Reading (List Edit × Text)
  | 0, _, t => .error (.missing, t)
  | n + 1, inBlock, t =>
    match t.dropWhile isGap with
    | [] => if inBlock then .error (.openBlock, t) else .ok ([], [])
    | '#' :: cs => edits style n inBlock (cs.dropWhile (· ≠ '\n'))
    | '\x7d' :: cs => if inBlock then .ok ([], cs) else .error (.strayBrace, cs)
    | t => do
      let (ls, t) ← lines style t
      let t := t.dropWhile isBlank
      let negated := t.head? = some '!'
      let t := if negated then (t.drop 1).dropWhile isBlank else t
      match t with
      | [] => .error (.missing, [])
      | '!' :: cs => if negated then .error (.manyNegations, cs) else .error (.unknown '!', cs)
      | '\x7b' :: cs =>
        let (inner, rest) ← edits style n true cs
        let rest ← ending rest
        let (others, rest) ← edits style n inBlock rest
        return (⟨ls, negated, .block inner.length⟩ :: inner ++ others, rest)
      | '\x7d' :: cs => if ls = .all then .error (.strayBrace, cs) else .error (.noAddress, cs)
      | '#' :: cs => .error (.noComment, cs)
      | ':' :: cs =>
        let (name, rest) := labelName cs
        if ls ≠ .all then .error (.noAddress, cs)
        else if name.isEmpty then .error (.noLabel, rest)
        else
          let (others, rest) ← edits style n inBlock rest
          return (⟨ls, false, .label name⟩ :: others, rest)
      | c :: cs =>
        let (a, rest) ← act style c cs
        match ls, usesOne a with
        | .between .., true => .error (.oneAddress, cs)
        | _, _ =>
          let rest ← ending rest
          let (others, rest) ← edits style n inBlock rest
          return (⟨ls, negated, a⟩ :: others, rest)

/-- Labels that are jumped to and are not there. -/
def lost? (es : List Edit) : Option Text :=
  let labels := es.filterMap fun e => match e.act with
    | .label t => some t
    | _ => none
  es.findSome? fun e => match e.act with
    | .jump _ t => if t.isEmpty || labels.contains t then none else some t
    | _ => none

/-- Whether the first pattern that is looked for is the one that was looked for last. -/
def looksBack (es : List Edit) : Bool :=
  let spot := fun (a : Spot) => match a with
    | .fitting s => [s]
    | _ => []
  let all := es.flatMap fun e =>
    (match e.lines with
      | .all => []
      | .single a => spot a
      | .between a b => spot a ++ spot b) ++
    match e.act with
      | .substitute s => [s.sought]
      | _ => []
  all.head? = some none

/-- Why a script is no script: in words, and with which status. -/
def read (style : Pattern.Style) (scripts : List Text) : Except (Text × Nat) (List Edit) :=
  let whole := Text.joinLines scripts
  match edits style (whole.length + 1) false whole with
  | .ok (es, _) =>
    match lost? es with
    | some t => .error (EditFault.text (.lostLabel t), 4)
    | none =>
      if looksBack es then .error ("-e expression #1, char 0: ".toList ++ EditFault.text .noPattern, 1)
      else .ok es
  | .error (why, rest) =>
    let (k, place) := if why = .openBlock then (scripts.length, 0) else whereIn scripts (whole.length - rest.length)
    .error ("-e expression #".toList ++ Text.ofNat k ++ ", char ".toList ++ Text.ofNat place ++ ": ".toList ++
      why.text, 1)
where
  /-- Which of some texts a place is in, and where. -/
  whereIn : List Text → Nat → Nat × Nat
    | [], k => (1, k)
    | [_], k => (1, k)
    | t :: ts, k =>
      if k ≤ t.length then (1, k)
      else
        let r := whereIn ts (k - t.length - 1)
        (r.1 + 1, r.2)

end EditScript

end Guidebook.Shell
