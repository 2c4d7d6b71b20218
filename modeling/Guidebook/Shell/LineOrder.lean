import Guidebook.Shell.Numeral
import Guidebook.Shell.TextTool

namespace Guidebook.Shell

/-- A place in a line: a field, perhaps a character in it, and whether blanks in front of it are passed
over. -/
structure FieldSpot where
  field : Nat
  char : Nat
  blanks : Bool
  deriving DecidableEq, Repr

/-- What lines are ordered by: the piece from one place to another, and letters for the way. -/
structure Key where
  first : FieldSpot
  last : Option FieldSpot
  marks : Text
  deriving DecidableEq, Repr

namespace LineOrder

open FileTool

def isBlank (x : UInt8) : Bool := x = 32 || x = 9

def marks : Text := "bdfghiMnRrV".toList

/-- The count that a text begins with, and what follows, or what is said if there is none. -/
def countIn (what : String) (t : Text) : Except Text (Nat × Text) :=
  let ds := t.takeWhile Char.isDigit
  if ds.isEmpty then .error (what.toList ++ ": invalid count at start of ".toList ++ literal t)
  else .ok (Text.digitsValue ds, t.drop ds.length)

/-- A field and a place in it, with letters and what follows. What is said of zeros is told. -/
def spotIn (key : Text) (what : String) (isFirst : Bool) (t : Text) : Except Text (FieldSpot × Text × Text) := do
  let bad := fun (why : String) => .error (why.toList ++ ": invalid field specification ".toList ++ literal key)
  let (field, rest) ← countIn what t
  let (char, rest) ← match rest with
    | '.' :: more => if field = 0 then .ok (0, rest) else countIn "invalid number after '.'" more
    | more => .ok (if isFirst then 1 else 0, more)
  if field = 0 then bad "field number is zero"
  else if isFirst && char = 0 then bad "character offset is zero"
  else
    let ms := rest.takeWhile marks.contains
    return (⟨field, char, ms.contains 'b'⟩, ms, rest.drop ms.length)

def keyIn (t : Text) : Except Text Key := do
  let stray : Except Text Key :=
    .error ("stray character in field spec: invalid field specification ".toList ++ literal t)
  let (first, ms, rest) ← spotIn t "invalid number at field start" true t
  match rest with
  | [] => return ⟨first, none, ms⟩
  | ',' :: more => do
    let (last, ns, rest) ← spotIn t "invalid number after ','" false more
    if rest.isEmpty then return ⟨first, some last, ms ++ ns⟩ else stray
  | _ => stray

/-- Letters that ask for orders that do not go together. -/
def opposed? (ms : Text) : Option Text :=
  let count := ("ghMn".toList.filter ms.contains).length + if "diRV".toList.any ms.contains then 1 else 0
  if 1 < count then some ("dfghiMnRV".toList.filter ms.contains) else none

/-- What follows the first field and its separator. -/
def afterField (separator : Option UInt8) (l : Bytes) : Bytes :=
  match separator with
  | some s => (l.dropWhile (· ≠ s)).drop 1
  | none => (l.dropWhile isBlank).dropWhile (!isBlank ·)

def afterFields (separator : Option UInt8) : Nat → Bytes → Bytes
  | 0, l => l
  | n + 1, l => afterFields separator n (afterField separator l)

def passed (blanks : Bool) (l : Bytes) : Bytes := if blanks then l.dropWhile isBlank else l

/-- What is left of a line from the start of a key on. -/
def fromStart (separator : Option UInt8) (s : FieldSpot) (l : Bytes) : Bytes :=
  (passed s.blanks (afterFields separator (s.field - 1) l)).drop (s.char - 1)

/-- What is left of a line behind the end of a key. -/
def fromEnd (separator : Option UInt8) (s : FieldSpot) (l : Bytes) : Bytes :=
  let l := afterFields separator (s.field - 1) l
  if s.char ≠ 0 then (passed s.blanks l).drop s.char
  else match separator with
    | some c => l.dropWhile (· ≠ c)
    | none => (l.dropWhile isBlank).dropWhile (!isBlank ·)

def pieceOf (separator : Option UInt8) (k : Key) (l : Bytes) : Bytes :=
  let start := fromStart separator k.first l
  match k.last with
  | none => start
  | some s => start.take (start.length - (fromEnd separator s l).length)

/-- The number that a line begins with: its digits, and how many of them are behind the point. -/
def leading (l : Bytes) : Int × Nat × Bytes :=
  let l := l.dropWhile isBlank
  let (negative, l) := match l with
    | 45 :: r => (true, r)
    | r => (false, r)
  let isDigit := fun (x : UInt8) => 48 ≤ x && x ≤ 57
  let whole := l.takeWhile isDigit
  let rest := l.drop whole.length
  let (places, rest) := match rest with
    | 46 :: r => (r.takeWhile isDigit, r.dropWhile isDigit)
    | r => ([], r)
  let size : Nat := (whole ++ places).foldl (fun n x => 10 * n + (x.toNat - 48)) 0
  let n : Int := size
  (if negative then -n else n, places.length, rest)

def byNumber (a b : Bytes) : Ordering :=
  let x := leading a
  let y := leading b
  compare (x.1 * Nat.pow 10 y.2.1) (y.1 * Nat.pow 10 x.2.1)

def units : Bytes := [75, 77, 71, 84, 80, 69, 90, 89]

/-- Numbers with letters for their sizes. -/
def bySize (a b : Bytes) : Ordering :=
  let rank := fun (x : Int × Nat × Bytes) =>
    let unit : Nat := ((x.2.2.head?.bind fun u => units.idxOf? (if u = 107 then 75 else u)).map (· + 1)).getD 0
    let r : Int := unit + 1
    if x.1 = 0 then 0 else if x.1 < 0 then -r else r
  (compare (rank (leading a)) (rank (leading b))).then (byNumber a b)

/-- Numbers as they may be written anywhere. What is no number comes first, and then what is said to be none. -/
def byValue (a b : Bytes) : Ordering :=
  let value := fun (l : Bytes) =>
    let t := Text.trimStart (textOf l)
    match (Decimal.ofHexText? t).orElse fun _ => Decimal.ofText? t with
    | none => (0, (0 : Int), 1)
    | some (⟨_, .undefined⟩, _) => (1, 0, 1)
    | some (⟨true, .infinite⟩, _) => (2, 0, 1)
    | some (⟨negative, .quotient n d⟩, _) => (3, if negative then -n else n, d)
    | some (⟨false, .infinite⟩, _) => (4, 0, 1)
  let (i, n, d) := value a
  let (j, k, e) := value b
  (compare i j).then (compare (n * e) (k * d))

def months : List Text :=
  ["JAN".toList, "FEB".toList, "MAR".toList, "APR".toList, "MAY".toList, "JUN".toList, "JUL".toList,
   "AUG".toList, "SEP".toList, "OCT".toList, "NOV".toList, "DEC".toList]

def monthOf (l : Bytes) : Nat :=
  ((months.idxOf? (((textOf (l.dropWhile isBlank)).take 3).map Char.toUpper)).map (· + 1)).getD 0

def byBytes (a b : Bytes) : Ordering := if a < b then .lt else if b < a then .gt else .eq

def upper (l : Bytes) : Bytes := l.map fun x => if 97 ≤ x && x ≤ 122 then x - 32 else x

def isAlnum (x : UInt8) : Bool := (48 ≤ x && x ≤ 57) || (65 ≤ x && x ≤ 90) || (97 ≤ x && x ≤ 122)

/-- Pieces of lines in the order that letters ask for. -/
def byMarks (ms : Text) (a b : Bytes) : Ordering :=
  let ready := fun l =>
    let l := passed (ms.contains 'b') l
    let l := if ms.contains 'd' then l.filter fun x => isBlank x || isAlnum x else l
    let l := if ms.contains 'i' then l.filter fun x => 32 ≤ x && x < 127 else l
    if ms.contains 'f' then upper l else l
  let order :=
    if ms.contains 'n' then byNumber a b
    else if ms.contains 'g' then byValue a b
    else if ms.contains 'h' then bySize a b
    else if ms.contains 'M' then compare (monthOf a) (monthOf b)
    else if ms.contains 'V' then Version.order (textOf a) (textOf b)
    else byBytes (ready a) (ready b)
  if ms.contains 'r' then order.swap else order

def byKeys (separator : Option UInt8) (keys : List Key) (usual : Text) (a b : Bytes) : Ordering :=
  if keys.isEmpty then byMarks usual a b
  else keys.foldl (fun o k =>
    let ms := if k.marks.isEmpty then usual else k.marks
    let k := if k.marks.isEmpty && usual.contains 'b' then { k with first := { k.first with blanks := true } } else k
    o.then (byMarks (ms.filter (· ≠ 'b')) (pieceOf separator k a) (pieceOf separator k b))) .eq

/-- Lines without those that are equal to the one before. -/
def once (same : Bytes → Bytes → Bool) : List Bytes → List Bytes
  | a :: b :: ls => if same a b then once same (a :: ls) else a :: once same (b :: ls)
  | ls => ls
termination_by ls => ls.length

/-- The first line that is out of order, and its number. -/
def disorder? (fine : Bytes → Bytes → Bool) : Nat → List Bytes → Option (Nat × Bytes)
  | n, a :: b :: ls => if fine a b then disorder? fine (n + 1) (b :: ls) else some (n + 1, b)
  | _, _ => none

/-- Pieces that each end with a byte, which the last one may lack. -/
def cutAt (mark : UInt8) : Bytes → List Bytes
  | [] => []
  | x :: xs =>
    if x = mark then [] :: cutAt mark xs
    else match cutAt mark xs with
      | [] => [[x]]
      | l :: ls => (x :: l) :: ls

def wording (p : Text) (e : IoFault) : Text :=
  (if e = .isDirectory then "read failed: ".toList else "cannot read: ".toList) ++ named p ++ ": ".toList ++ reason e

def sort : Tool := program "sort" 2
  { plain := "bdfghiMnRrVcCmsuzD", valued := "ktoSTPOF", optional := "K", hidden := "PODFK", long := [("reverse", 'r'), ("numeric-sort", 'n'),
      ("unique", 'u'), ("key", 'k'), ("field-separator", 't'), ("output", 'o'), ("ignore-case", 'f'),
      ("stable", 's'), ("check", 'K'), ("merge", 'm'), ("human-numeric-sort", 'h'), ("version-sort", 'V'),
      ("general-numeric-sort", 'g'), ("month-sort", 'M'), ("ignore-leading-blanks", 'b'),
      ("dictionary-order", 'd'), ("zero-terminated", 'z'), ("random-sort", 'R'), ("parallel", 'P'), ("sort", 'O'), ("debug", 'D'),
      ("buffer-size", 'S'), ("temporary-directory", 'T'), ("ignore-nonprinting", 'i'), ("files0-from", 'F')] }
  fun g files m =>
    let fail := fun (why : Text) => m.tell .err ("sort: ".toList ++ why ++ ['\n']) 2
    let g : Given := g.map unfolded
    match (g.values 'O').head?, g.value? 'F', files with
    | some t, _, _ => TextTool.unfit "sort" "--sort" (kinds.map (·.1)) t m
    | none, some _, p :: _ =>
      misused "sort" ("extra operand ".toList ++ literal p ++ "\nfile operands cannot be combined with --files0-from".toList) 2 m
    | none, some l, [] =>
      match (if isInput l then .ok m.input else m.tree.read l : Except IoFault Bytes) with
      | .error e => finish [complain "sort" "open failed: " (named l) e 2] [] 2 m
      | .ok b =>
        let files := (between 0 b).map textOf
        if files.isEmpty then fail ("no input from ".toList ++ quoted l)
        else run g files (if isInput l then { m with input := [] } else m)
    | none, none, files => run g files m
where
  /-- Words for orders. -/
  kinds : List (String × Char) :=
    [("general-numeric", 'g'), ("human-numeric", 'h'), ("month", 'M'), ("numeric", 'n'), ("random", 'R'), ("version", 'V')]
  /-- An option in the place of one that says the same in a word. -/
  unfolded (o : Char × Text) : Char × Text :=
    if o.1 = 'O' then match (TextTool.wordOf? (kinds.map (·.1)) o.2).bind fun w => kinds.lookup w with
      | some c => (c, [])
      | none => o
    else if o.1 = 'K' then (if ["quiet".toList, "silent".toList].contains o.2 then 'C' else 'c', [])
    else o
  run (g : Given) (files : List Text) (m : Machine) : Ran :=
    let fail := fun (why : Text) => m.tell .err ("sort: ".toList ++ why ++ ['\n']) 2
    let keys := (g.values 'k').map keyIn
    let usual := marks.filter g.has
    let mark := g.value? 't'
    let separator := (mark.bind fun t => if t = ['\\', '0'] then some 0 else (Octet.encode t).head?)
    let wrong := keys.findSome? fun k => match k with
      | .error why => some why
      | .ok _ => none
    let keys := keys.filterMap Except.toOption
    let opposed := (keys.findSome? fun k => opposed? (if k.marks.isEmpty then usual else k.marks)).orElse fun _ => opposed? usual
    match wrong, mark.filter fun t => 1 < t.length && t ≠ ['\\', '0'] with
    | some why, _ => fail why
    | none, some t => fail ("multi-character tab ".toList ++ literal t)
    | none, none =>
      if mark = some [] then fail "empty tab".toList
      else if opposed.isSome then fail ("options '-".toList ++ opposed.getD [] ++ "' are incompatible".toList)
      else if g.hasAny "cC" && 1 < files.length then
        fail ("extra operand ".toList ++ literal ((files[1]?).getD []) ++ " not allowed with -".toList ++ (g.latest? "cC").toList)
      else if 1 < (g.values 'o').eraseDups.length then fail "multiple output files specified".toList
      else
        let (cs, complaints, m) := sourcesBy wording "sort" 2 files m
        match complaints with
        | c :: _ => finish [c] [] 2 m
        | [] =>
          let order := byKeys separator keys usual
          let full := fun a b =>
            let last := if g.hasAny "su" then .eq else
              if usual.contains 'r' then (byBytes a b).swap else byBytes a b
            (order a b).then last
          let upTo := fun a b => full a b != .gt
          let linesIn := fun (c : Bytes) =>
            if g.has 'z' then cutAt 0 c else (linesOf c).map bare
          let ls := cs.map fun s => linesIn s.2
          if g.hasAny "cC" then
            let fine := fun a b => if g.has 'u' then order a b == .lt else upTo a b
            match disorder? fine 1 ls.flatten with
            | none => m.ends 0
            | some (n, l) =>
              if g.has 'C' then m.ends 1
              else
                let name := (cs.head?.map (·.1)).getD ['-']
                m.tell .err ("sort: ".toList ++ name ++ ':' :: Text.ofNat n ++ ": disorder: ".toList ++
                  textOf l ++ ['\n']) 1
          else
            let sorted := if g.has 'm' then ls.foldl (fun a b => List.merge a b upTo) []
              else ls.flatten.mergeSort upTo
            let kept := if g.has 'u' then once (fun a b => order a b == .eq) sorted else sorted
            let out := kept.flatMap (· ++ [if g.has 'z' then 0 else 10])
            match g.value? 'o' with
            | none => finish [] out 0 m
            | some p =>
              match m.tree.write p out with
              | .ok t => finish [] [] 0 { m with tree := t }
              | .error e => finish [complain "sort" "open failed: " p e 2] [] 2 m

end LineOrder

end Guidebook.Shell
