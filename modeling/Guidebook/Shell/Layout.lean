import Guidebook.Shell.Numeral
import Guidebook.Shell.Pattern
import Guidebook.Shell.Source

namespace Guidebook.Shell

/-! Lines with numbers in front of them, lines that are broken where they are too long, and tabs in the place of
blanks. -/

namespace Layout

open FileTool

/-- Which lines get a number. -/
inductive Style where
  | all
  | full
  | none
  | fitting (p : Pattern)

/-- How lines are numbered: which ones in each of three sorts of parts of a page, by which text parts begin, how numbers
are shown, where they begin and how they go on, how many empty lines count as one, and whether numbers begin anew
with each part. -/
structure Numbering where
  styles : List Style
  mark : Bytes
  format : Text
  width : Nat
  gap : Bytes
  first : Int
  step : Int
  joined : Nat
  anew : Bool

/-- A number in its column. -/
def Numbering.number (w : Numbering) (n : Int) : Bytes :=
  let t := Text.ofInt n
  let room := w.width - t.length
  Octet.encode (if w.format = "ln".toList then t ++ List.replicate room ' '
    else if w.format = "rz".toList then
      if n < 0 then '-' :: List.replicate room '0' ++ t.drop 1 else List.replicate room '0' ++ t
    else List.replicate room ' ' ++ t) ++ w.gap

/-- Which part of a page begins with a line, if one does. The longest mark begins the first one. -/
def Numbering.part? (w : Numbering) (l : Bytes) : Option Nat :=
  if w.mark.length < 2 then none
  else [3, 2, 1].findIdx? fun k => l = (List.replicate k w.mark).flatten

/-- Where the numbering is: the part of the page, the next number, and how many empty lines have come one after the
other. -/
structure Place where
  part : Nat
  next : Int
  empty : Nat

def Numbering.isWanted (w : Numbering) (p : Place) (l : Bytes) : Bool :=
  match w.styles[p.part]? with
  | some .all => w.joined ≤ 1 || !l.isEmpty || w.joined ≤ p.empty
  | some .full => !l.isEmpty
  | some (.fitting r) => r.occursIn false (textOf l)
  | _ => false

/-- What becomes of a line, and where the numbering is behind it. -/
def Numbering.line (w : Numbering) (p : Place) (l : Bytes) : Bytes × Place :=
  match w.part? l with
  | some k => ([10], { p with part := k, next := if w.anew then w.first else p.next })
  | none =>
    if w.isWanted p l then (w.number p.next ++ l ++ [10], { p with next := p.next + w.step, empty := 1 })
    else (List.replicate (w.width + w.gap.length) 32 ++ l ++ [10],
      { p with empty := if l.isEmpty then p.empty + 1 else p.empty })

def Numbering.lines (w : Numbering) : Place → List Bytes → Bytes
  | _, [] => []
  | p, l :: ls =>
    let r := w.line p l
    r.1 ++ w.lines r.2 ls

def style? (t : Text) : Option Style :=
  match t with
  | 'a' :: _ => some .all
  | 't' :: _ => some .full
  | 'n' :: _ => some .none
  | 'p' :: cs => some (((Pattern.ofText? .basic cs).map Style.fitting).getD .none)
  | _ => none

/-- The first option whose value makes no sense, and whether help is offered. -/
def wrongNumbering? (g : Given) : Option (Text × Bool) :=
  let number := fun (low : Option Int) (what : String) (t : Text) =>
    (Numeral.flawed? (Numeral.whole low) [t]).map fun why => ("invalid ".toList ++ what.toList ++ ": ".toList ++ why, false)
  let style := fun (what : String) (t : Text) =>
    if (style? t).isSome then none
    else some ("invalid ".toList ++ what.toList ++ " numbering style: ".toList ++ literal t, true)
  let all := g.filterMap fun (c, t) => match c with
    | 'b' => style "body" t
    | 'h' => style "header" t
    | 'f' => style "footer" t
    | 'v' => number none "starting line number" t
    | 'i' => number none "line number increment" t
    | 'l' => number (some 1) "line number of blank lines" t
    | 'w' => number (some 1) "line number field width" t
    | 'n' =>
      if ["ln".toList, "rn".toList, "rz".toList].contains t then none
      else some ("invalid line numbering format: ".toList ++ literal t, true)
    | _ => none
  (all.find? (!·.2)).orElse fun _ => all.head?

def numberingOf (g : Given) : Numbering :=
  let style := fun c usual => ((g.value? c).bind style?).getD usual
  let number := fun c usual => ((g.value? c).bind fun t => (Numeral.whole none t).toOption).getD usual
  let mark := match g.value? 'd' with
    | none => "\\:".toList
    | some [c] => [c, ':']
    | some t => t
  { styles := [style 'h' .none, style 'b' .full, style 'f' .none], mark := Octet.encode mark
    format := (g.value? 'n').getD "rn".toList, width := (number 'w' 6).toNat, gap := Octet.encode ((g.value? 's').getD ['\t'])
    first := number 'v' 1, step := number 'i' 1, joined := (number 'l' 1).toNat, anew := !g.has 'p' }

def nl : Tool := program "nl" 1
  { plain := "p", valued := "bdfhilnsvw",
    long := [("header-numbering", 'h'), ("body-numbering", 'b'), ("footer-numbering", 'f'), ("starting-line-number", 'v'),
      ("line-increment", 'i'), ("no-renumber", 'p'), ("join-blank-lines", 'l'), ("number-separator", 's'),
      ("number-width", 'w'), ("number-format", 'n'), ("section-delimiter", 'd')] }
  fun g files m =>
    match wrongNumbering? g with
    | some (why, true) => misused "nl" why 1 m
    | some (why, false) => finish [objection "nl" why 1] [] 1 m
    | none =>
      let (ss, n) := Source.opened files m
      let w := numberingOf g
      let ls := fun (s : Source) => between 10 (s.content.toOption.getD [])
      Source.finish ((Source.gathered "nl" ss).2 ++ [.ok (w.lines ⟨1, w.first, 1⟩ (ss.flatMap ls))]) 0 n

/-- The column behind a character. Bytes may count alike. -/
def columnBehind (inBytes : Bool) (column : Nat) (x : UInt8) : Nat :=
  if inBytes then column + 1
  else if x = 8 then column - 1
  else if x = 13 then 0
  else if x = 9 then (column / 8 + 1) * 8
  else column + 1

/-- A way to break lines: where, whether bytes count alike, and whether blanks are looked for. -/
structure Fold where
  width : Nat
  inBytes : Bool
  atBlanks : Bool

def Fold.columnOf (w : Fold) (l : Bytes) : Nat := l.foldl (columnBehind w.inBytes) 0

/-- What is held back of a line in which a character is too much: what is written of it with the end of a line, and
what is left. If the number of tries is used up, nothing is written. -/
def Fold.broken (w : Fold) (x : UInt8) : Nat → Bytes → Bytes × Bytes
  | 0, held => ([], held ++ [x])
  | n + 1, held =>
    if columnBehind w.inBytes (w.columnOf held) x ≤ w.width then ([], held ++ [x])
    else
      let back := held.reverse.dropWhile fun y => y ≠ 32 && y ≠ 9
      if w.atBlanks && !back.isEmpty then
        let r := w.broken x n (held.drop back.length)
        (back.reverse ++ 10 :: r.1, r.2)
      else if held.isEmpty then ([], [x])
      else
        let r := w.broken x n []
        (held ++ 10 :: r.1, r.2)

/-- Breaks lines. What is held back comes at the end, with the column behind it. -/
def Fold.all (w : Fold) : Bytes → Nat → Bytes → Bytes
  | held, _, [] => held
  | held, column, x :: xs =>
    if x = 10 then held ++ 10 :: w.all [] 0 xs
    else
      let next := columnBehind w.inBytes column x
      if next ≤ w.width then w.all (held ++ [x]) next xs
      else
        let r := w.broken x (held.length + 2) held
        r.1 ++ w.all r.2 (w.columnOf r.2) xs

/-- Digits as letters, each of which begins a number. -/
def digitLetters : String := "0123456789"

/-- The values of an option, or of digits that stand for it. -/
def sizes (g : Given) (c : Char) : List Text :=
  g.filterMap fun o => if o.1 = c then some o.2 else if o.1.isDigit then some (o.1 :: o.2) else none

def fold : Tool := program "fold" 1
  { plain := "bs", valued := "w", optional := digitLetters, long := [("width", 'w'), ("spaces", 's'), ("bytes", 'b')] }
  fun g files m =>
    let number := Numeral.within 1 (Numeral.bound - 10) false
    match Numeral.flawed? number (sizes g 'w') with
    | some why => finish [objection "fold" ("invalid number of columns: ".toList ++ why) 1] [] 1 m
    | none =>
      let width := ((sizes g 'w').getLast?.bind fun t => (number t).toOption).getD 80
      let (ss, n) := Source.opened files m
      Source.finish (ss.map (Source.through "fold" ((⟨width, g.has 'b', g.has 's'⟩ : Fold).all [] 0))) 0 n

/-- Where tabs go: to some columns, and behind the last of them perhaps to multiples of a width, or by a width at a
time. -/
structure Tabs where
  stops : List Nat
  multiple : Nat
  step : Nat
  deriving DecidableEq, Repr

/-- The column that a tab goes on to behind the last stop. -/
def Tabs.beyond? (t : Tabs) (last column : Nat) : Option Nat :=
  if t.multiple ≠ 0 then some ((column / t.multiple + 1) * t.multiple)
  else if t.step ≠ 0 then some (column + (t.step - (column - last) % t.step))
  else none

/-- The column that a tab goes on to, if there is one. -/
def Tabs.after? (t : Tabs) (column : Nat) : Option Nat :=
  match t.stops with
  | [] => { t with multiple := if t.multiple = 0 && t.step = 0 then 8 else t.multiple }.beyond? 0 column
  | [size] => if t.multiple = 0 && t.step = 0 then some ((column / size + 1) * size) else go [size]
  | stops => go stops
where
  go (stops : List Nat) : Option Nat :=
    (stops.find? (column < ·)).orElse fun _ => t.beyond? ((stops.getLast?).getD 0) column

/-- One more number of a list, which may have a sign in front of it. -/
def Tabs.put (t : Tabs) (sign : Char) : Option Nat → Except Text Tabs
  | none => .ok t
  | some n =>
    if Numeral.bound ≤ n then .error ("tab stop is too large ".toList ++ literal (Text.ofNat n))
    else if sign = '/' then
      if t.multiple ≠ 0 then .error "'/' specifier only allowed with the last value".toList
      else .ok { t with multiple := n }
    else if sign = '+' then
      if t.step ≠ 0 then .error "'+' specifier only allowed with the last value".toList
      else .ok { t with step := n }
    else .ok { t with stops := t.stops ++ [n] }

/-- The tabs that a list tells, behind those of lists before it, or what is wrong with it. -/
def Tabs.read (t : Tabs) (sign : Char) (n : Option Nat) : Text → Except Text Tabs
  | [] => t.put sign n
  | c :: cs =>
    if c = ',' || c = ' ' || c = '\t' then do (← t.put sign n).read sign none cs
    else if c = '/' || c = '+' then
      if n.isSome then .error ('\'' :: c :: "' specifier not at start of number: ".toList ++ literal (c :: cs))
      else t.read c none cs
    else if c.isDigit then t.read sign (some (n.getD 0 * 10 + (c.toNat - 48))) cs
    else .error ("tab size contains invalid character(s): ".toList ++ literal (c :: cs))

/-- What is wrong with some tabs. -/
def Tabs.wrong? (t : Tabs) : Option Text :=
  if t.stops.contains 0 then some "tab size cannot be 0".toList
  else if (t.stops.zip (t.stops.drop 1)).any fun p => p.2 ≤ p.1 then some "tab sizes must be ascending".toList
  else if t.multiple ≠ 0 && t.step ≠ 0 then some "'/' specifier is mutually exclusive with '+'".toList
  else none

/-- The tabs that options tell, or what is wrong with them. -/
def Tabs.of (lists : List Text) : Except Text Tabs := do
  let t ← lists.foldlM (fun (t : Tabs) l => t.read ' ' none l) (⟨[], 0, 0⟩ : Tabs)
  match t.wrong? with
  | some why => .error why
  | none => .ok t

/-- Blanks in the place of tabs; the flags tell whether that goes on behind other characters and whether it is done
here. -/
def untabbed (t : Tabs) (everywhere : Bool) : Nat → Bool → Bytes → Bytes
  | _, _, [] => []
  | column, here, x :: xs =>
    if x = 10 then x :: untabbed t everywhere 0 true xs
    else if !here then x :: untabbed t everywhere column false xs
    else if x = 9 then
      let next := (t.after? column).getD (column + 1)
      List.replicate (next - column) 32 ++ untabbed t everywhere next true xs
    else if x = 8 then x :: untabbed t everywhere (column - 1) everywhere xs
    else x :: untabbed t everywhere (column + 1) (everywhere || x = 32) xs

/-- How far tabs have been put in a line: the column, blanks that have been held back, whether one of them stands alone
in front of a tab stop, whether a blank has come last, and whether tabs are put at all. -/
structure Tabbing where
  column : Nat := 0
  held : Bytes := []
  lone : Bool := false
  blank : Bool := true
  here : Bool := true
  deriving DecidableEq, Repr

/-- What is held back is let go. Where more than one follow a lone blank, that is a tab. -/
def Tabbing.released (s : Tabbing) : Bytes :=
  if s.lone && 1 < s.held.length then 9 :: s.held.drop 1 else s.held

/-- One more character: what is written, and how far it is then. -/
def Tabbing.step (t : Tabs) (everywhere : Bool) (s : Tabbing) (x : UInt8) : Bytes × Tabbing :=
  if x = 10 then (s.released ++ [10], {})
  else if !s.here then ([x], s)
  else if x = 32 || x = 9 then
    match t.after? s.column with
    | none => (s.released ++ [x], { s with held := [], lone := false, blank := true, here := false })
    | some next =>
      if x = 32 && !(s.blank && s.column + 1 = next) then
        ([], { s with column := s.column + 1, held := s.held ++ [x], lone := s.lone || s.column + 1 = next, blank := true })
      else
        (if s.lone then [9, 9] else [9], { s with column := next, held := [], lone := false, blank := true })
  else
    let column := if x = 8 then s.column - 1 else s.column + 1
    (s.released ++ [x], { column, held := [], lone := false, blank := false, here := everywhere })

def tabbed (t : Tabs) (everywhere : Bool) : Tabbing → Bytes → Bytes
  | s, [] => s.released
  | s, x :: xs =>
    let r := s.step t everywhere x
    r.1 ++ tabbed t everywhere r.2 xs

/-- A tool that deals with tabs. -/
def tabTool (tool : String) (u : Menu) (f : Given → Tabs → Bytes → Bytes) : Tool :=
  program tool 1 { u with valued := "t", optional := digitLetters } fun g files m =>
    match Tabs.of (sizes g 't') with
    | .error why => finish [objection tool why 1] [] 1 m
    | .ok t =>
      let (ss, n) := Source.opened files m
      let (b, said) := Source.gathered tool ss
      Source.finish (said ++ [.ok (f g t b)]) 0 n

def expand : Tool :=
  tabTool "expand" { plain := "i", long := [("initial", 'i'), ("tabs", 't')] }
    fun g t b => untabbed t (!g.has 'i') 0 true b

def unexpand : Tool :=
  tabTool "unexpand" { plain := "af", hidden := "f", long := [("tabs", 't'), ("all", 'a'), ("first-only", 'f')] }
    fun g t b => tabbed t (g.hasAny "at" && !g.has 'f') {} b

def all : List (Text × Tool) :=
  [("nl".toList, nl), ("fold".toList, fold), ("expand".toList, expand), ("unexpand".toList, unexpand)]

end Layout

end Guidebook.Shell
