import Guidebook.Shell.Numeral
import Guidebook.Shell.Signal
import Guidebook.Shell.Source

namespace Guidebook.Shell

/-! Parts of what there is to read: the first lines, or the last ones. -/

namespace Excerpt

open FileTool

/-- Which part is wanted: of pieces that end with a mark or of bytes, and so many of them or all but so
many. -/
structure Part where
  mark : Option UInt8
  turned : Bool
  count : Nat
  deriving DecidableEq, Repr

def Part.pieces (w : Part) (b : Bytes) : List Bytes :=
  match w.mark with
  | some x => endedBy x b
  | none => b.map ([·])

/-- The first pieces, or what is left without the last ones. -/
def Part.front (w : Part) (b : Bytes) : Bytes :=
  let ls := w.pieces b
  (ls.take (if w.turned then ls.length - w.count else w.count)).flatten

/-- The last pieces, or what is left without the first ones. -/
def Part.back (w : Part) (b : Bytes) : Bytes :=
  let ls := w.pieces b
  (ls.drop (if w.turned then w.count else ls.length - w.count)).flatten

def menu : Menu :=
  { plain := "qvzfF0123456789", valued := "ncsp", hidden := "pM",
    long := [("lines", 'n'), ("bytes", 'c'), ("quiet", 'q'), ("silent", 'q'), ("verbose", 'v'),
      ("zero-terminated", 'z'), ("follow", 'f'), ("retry", 'M'), ("pid", 'p'), ("sleep-interval", 's')] }

/-- What is said of a count that is none. -/
def wrongCount (tool : String) (g : Given) (isSign : Char → Bool) : Option Text :=
  (g.filter fun o => o.1 = 'n' || o.1 = 'c').findSome? fun (c, t) =>
    let t := if (t.head?.map isSign).getD false then t.drop 1 else t
    (Numeral.flawed? Numeral.large [t]).map fun why =>
      tool.toList ++ ": invalid number of ".toList ++ (if c = 'n' then "lines: " else "bytes: ").toList ++ why ++ ['\n']

/-- The part that options tell. A sign in front of the count turns it around. -/
def wanted (g : Given) (turning : Char) : Part :=
  let last := ((g.filter fun o => o.1 = 'n' || o.1 = 'c').getLast?).getD ('n', "10".toList)
  let isTurned := last.2.head? = some turning
  let digits := if last.2.head? = some '-' || last.2.head? = some '+' then last.2.drop 1 else last.2
  ⟨if last.1 = 'c' then none else some (if g.has 'z' then 0 else 10), isTurned, (Numeral.large digits).toOption.getD 0⟩

def isHeaded (g : Given) (files : List Text) : Bool :=
  match g.latest? "qv" with
  | some 'q' => false
  | some _ => true
  | none => 1 < files.length

/-- What becomes of each source. Each may have its name above it, unless it cannot even be opened; the flag
tells whether one has been named already. -/
def headed (tool : String) (isNamed : Bool) (f : Bytes → Bytes) : Bool → List Source → Source.Said
  | _, [] => []
  | later, s :: ss =>
    let name := if isInput s.name then "standard input".toList else s.name
    let front := if isNamed then
        (if later then [10] else []) ++ lineOf ("==> ".toList ++ name ++ " <==".toList)
      else []
    match s.content with
    | .ok b => .ok (front ++ f b) :: headed tool isNamed f true ss
    | .error .isDirectory =>
      .ok front :: .error (objection tool (opening s.name .isDirectory) 1) :: headed tool isNamed f true ss
    | .error e => .error (objection tool (opening s.name e) 1) :: headed tool isNamed f later ss

/-- The letters behind a count such as `-3`: how much is counted at a time, and what else they say, or one that
says nothing. -/
def behindCount : Char → Given → Text → Except Char (Char × Given)
  | unit, g, [] => .ok (unit, g)
  | unit, g, c :: cs =>
    if "bkmcl".toList.contains c then behindCount c g cs
    else if "qvz".toList.contains c then behindCount unit (g ++ [(c, [])]) cs
    else .error c

/-- The first lines or bytes of each source. -/
def head : Tool := fun args m =>
  match args with
  | ('-' :: d :: cs) :: as =>
    if d.isDigit then
      let ds := (d :: cs).takeWhile Char.isDigit
      match behindCount 'l' [] ((d :: cs).drop ds.length) with
      | .error c => misused "head" ("invalid trailing option -- ".toList ++ [c]) 1 m
      | .ok (unit, g) =>
        let count := if unit = 'l' then ('n', ds) else if unit = 'c' then ('c', ds) else ('c', ds ++ [unit])
        program "head" 1 menu (fun more => run (count :: g ++ more)) as m
    else program "head" 1 menu run args m
  | args => program "head" 1 menu run args m
where
  run (g : Given) : Tool := fun files m =>
    match wrongCount "head" g (· = '-'), g.find? fun o => o.1.isDigit with
    | _, some o => misused "head" ("invalid trailing option -- ".toList ++ [o.1]) 1 m
    | some why, none => m.tell .err why 1
    | none, none =>
      let w := wanted g '-'
      let (ss, n) := Source.opened files m
      let stays := files.isEmpty && (m.wiring.reading? 0).isSome && !w.turned
      let n := if stays then { n with input := m.input.drop (w.front m.input).length } else n
      Source.finish (headed "head" (isHeaded g files) w.front false ss) 0 n

/-- Options of old: one count in front of at most one file. -/
def ofOld? (args : List Text) : Option (Given × List Text) :=
  let read := fun (sign : Char) (t : Text) (files : List Text) =>
    let ds := t.takeWhile Char.isDigit
    let rest := t.drop ds.length
    let (unit, rest) := match rest with
      | 'b' :: cs => ('b', cs)
      | 'c' :: cs => ('c', cs)
      | 'l' :: cs => ('l', cs)
      | cs => ('l', cs)
    let follows := rest = ['f']
    if !follows && !rest.isEmpty then none
    else
      let n := if ds.isEmpty then "10".toList else ds
      let front := if sign = '+' then ['+'] else []
      some ([(if unit = 'l' then 'n' else 'c', front ++ n ++ if unit = 'b' then ['b'] else [])] ++
        (if follows then [('f', [])] else []), files)
  match args with
  | t :: files =>
    let fits := match files with
      | [] => true
      | [p] => !("-".toList.isPrefixOf p && 1 < p.length)
      | [p, _] => p = "--".toList
      | _ => false
    let files := files.filter (· ≠ "--".toList)
    match t with
    | '+' :: cs => if fits then read '+' cs files else none
    | '-' :: c :: cs => if fits && !(c = 'c' && cs.isEmpty) then read '-' (c :: cs) files else none
    | _ => none
  | [] => none

/-- The last lines or bytes of each source. -/
def tail : Tool := fun args m =>
  match ofOld? args with
  | some (g, files) => run g files m
  | none =>
    program "tail" 1 menu (fun g files m =>
      match g.find? fun o => o.1.isDigit with
      | some o => m.tell .err ("tail: option used in invalid context -- ".toList ++ [o.1, '\n']) 1
      | none => run g files m) args m
where
  run (g : Given) : Tool := fun files m =>
    match wrongCount "tail" g (fun c => c = '-' || c = '+') with
    | some why => m.tell .err why 1
    | none =>
      let w := wanted g '+'
      let w := { w with count := if w.turned then w.count - 1 else w.count }
      let waits := g.hasAny "fF"
      if w.count = 0 && !w.turned && !waits then m.ends 0
      else
        let (ss, n) := Source.opened files m
        let r := Source.finish (headed "tail" (isHeaded g files) w.back false ss) 0 n
        let isLasting := fun (s : Source) =>
          s.content.isOk && !(isInput s.name && (m.wiring.reading? 0).isNone)
        if waits && ss.any isLasting then
          let s := Signal.passTo r.machine (m.course.clock + forever)
          ⟨s.machine, r.printed ++ s.printed, s.finish⟩
        else r
  /-- A time that is longer than anybody waits. -/
  forever : Nat := Nat.pow 10 15

def all : List (Text × Tool) := [("head".toList, head), ("tail".toList, tail)]

end Excerpt

end Guidebook.Shell
