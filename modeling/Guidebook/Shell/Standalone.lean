import Guidebook.Shell.Source

namespace Guidebook.Shell

/-! Programs by the names of what the shell can do itself. Others start them, and they differ in small ways. -/

namespace Standalone

open FileTool

/-- The byte that some digits stand for. -/
def byteOf (base : Nat) (ds : Text) : Bytes := [(ds.foldl (fun n d => base * n + Arithmetic.hexValue d) 0).toUInt8]

/-- The first few signs of a kind, and what follows them. -/
def few (n : Nat) (p : Char → Bool) (t : Text) : Text × Text :=
  let ds := (t.take n).takeWhile p
  (ds, t.drop ds.length)

def isHexDigit (c : Char) : Bool := Arithmetic.isHex c

/-- What a text with backslashes spells, up to one that cuts it off. The flag tells whether the text goes on.
`marks` are signs that a backslash may stand before without a need. -/
def unescaped (marks : Text) : Nat → Text → Bytes × Bool
  | 0, t => (Octet.encode t, true)
  | n + 1, '\\' :: c :: cs =>
    let put := fun b rest => let r := unescaped marks n rest; (b ++ r.1, r.2)
    let (octal, after) := few 3 Arithmetic.isOctal (if c = '0' then cs else c :: cs)
    let (hex, afterHex) := few 2 isHexDigit cs
    if c = 'c' then ([], false)
    else match Printf.controls.lookup c with
      | some b => put [b] cs
      | none =>
        if c = '0' || Arithmetic.isOctal c then put (byteOf 8 octal) after
        else if c = 'x' && !hex.isEmpty then put (byteOf 16 hex) afterHex
        else if marks.contains c then put (Octet.encode [c]) cs
        else put [92] (c :: cs)
  | n + 1, c :: cs =>
    let r := unescaped marks n cs
    (UInt8.ofNat c.toNat :: r.1, r.2)
  | _, [] => ([], true)

/-- The leading options of `echo`, as letters, and the words behind them. -/
def echoLetters : List Text → Text × List Text
  | ('-' :: c :: cs) :: as =>
    if (c :: cs).all "neE".toList.contains then
      let r := echoLetters as
      (c :: cs ++ r.1, r.2)
    else ([], ('-' :: c :: cs) :: as)
  | as => ([], as)

/-- Words in a line. Only with `-e` a backslash is more than itself. -/
def echo : Tool := fun args m =>
  let (letters, words) := echoLetters args
  let t := [' '].intercalate words
  let (b, goes) :=
    if (letters.filter (· ≠ 'n')).getLast? = some 'e' then unescaped [] t.length t else (Octet.encode t, true)
  ⟨m, [(.out, b ++ if letters.contains 'n' || !goes then [] else [10])], .status 0⟩

/-- A round of a format: what has been said, which arguments are left, and with which status it is over if it is. -/
structure Round where
  said : Source.Said
  args : List Text
  ended : Option Nat

namespace Round

def put (b : Bytes) (r : Round) : Round := { r with said := .ok b :: r.said }

def blame (whats : List Complaint) (r : Round) : Round := { r with said := whats.map .error ++ r.said }

end Round

def complaint (why : Text) (status : Nat) : Complaint := objection "printf" why status

/-- What is wrong with an argument that stands for a number. -/
def doubts (arg : Text) : Option Printf.Doubt → List Complaint
  | some .unread => [complaint (literal arg ++ ": expected a numeric value".toList) 1]
  | some .partlyRead => [complaint (literal arg ++ ": value not completely converted".toList) 1]
  | some .tooFar => [complaint (literal arg ++ ": Numerical result out of range".toList) 1]
  | none =>
    match arg with
    | q :: _ :: c :: cs =>
      if q = '\'' || q = '"' then
        [complaint ("warning: ".toList ++ (c :: cs) ++
          ": character(s) following character constant have been ignored".toList) 0]
      else []
    | _ => []

/-- An argument as a number. A quotation mark alone is none. -/
def number (read : Text → α × Option Printf.Doubt) (arg : Text) : α × List Complaint :=
  let r := read arg
  (r.1, doubts arg (if arg = ['\''] || arg = ['"'] then some .unread else r.2))

/-- Signs of a specification that a letter does not go with. -/
def isAllowed (s : Printf.Spec) (hasPrecision : Bool) (c : Char) : Bool :=
  let marked := s.flags.contains '#' && "cdisu".toList.contains c
  let zeroed := s.flags.contains '0' && "cs".toList.contains c
  "aAcdeEfFgGiosuxX".toList.contains c && !marked && !zeroed && !(c = 'c' && hasPrecision)

/-- What a backslash and the signs behind it stand for in a format. -/
inductive Escape where
  | bytes (b : Bytes) (rest : Text)
  | cut
  | lacking

def escape : Text → Escape
  | [] => .bytes [92] []
  | c :: cs =>
    let (octal, after) := few 3 Arithmetic.isOctal (c :: cs)
    let (hex, afterHex) := few 2 isHexDigit cs
    if c = 'x' then (if hex.isEmpty then .lacking else .bytes (byteOf 16 hex) afterHex)
    else if !octal.isEmpty then .bytes (byteOf 8 octal) after
    else if c = 'c' then .cut
    else if c = '"' then .bytes [34] cs
    else match Printf.controls.lookup c with
      | some b => .bytes [b] cs
      | none => .bytes (92 :: Octet.encode [c]) cs

def round : Nat → Text → List Text → Round
  | 0, _, args | _, [], args => ⟨[], args, none⟩
  | n + 1, '%' :: '%' :: cs, args => (round n cs args).put [37]
  | n + 1, '%' :: 'b' :: cs, args =>
    let arg := args.headD []
    let (b, goes) := unescaped ['"'] arg.length arg
    if goes then (round n cs (args.drop 1)).put b else ⟨[.ok b], args.drop 1, some 0⟩
  | n + 1, '%' :: 'q' :: cs, args =>
    match args with
    | [] => round n cs []
    | a :: as => (round n cs as).put (Octet.encode (if isBare a then a else quoted a))
  | n + 1, '%' :: f, args =>
    let (s, rest, left) := Printf.spec f args
    let cs := rest.dropWhile "lLhjtz".toList.contains
    let arg := left.headD []
    let starred := f.takeWhile (fun c => Printf.Spec.isFlag c || c.isDigit || c = '*' || c = '.')
    let widths := (args.take (args.length - left.length)).flatMap fun a =>
      (number (Printf.value (-0x8000000000000000) 0x7fffffffffffffff) a).2
    let hasPrecision := starred.contains '.'
    match cs with
    | [] => ⟨[.error (complaint ('%' :: f ++ ": invalid conversion specification".toList) 1)], left, some 1⟩
    | c :: cs =>
      let next := fun (b : Bytes) (whats : List Complaint) =>
        ((round n cs (left.drop 1)).put b).blame (widths ++ whats)
      if !isAllowed s hasPrecision c then
        ⟨[.error (complaint ('%' :: f.take (f.length - cs.length) ++ ": invalid conversion specification".toList) 1)],
          left, some 1⟩
      else if c = 's' then next (s.pad (s.limited (Octet.encode arg))) []
      else if c = 'c' then next (s.pad ((Octet.encode arg ++ [0]).take 1)) []
      else if c = 'd' || c = 'i' then
        let (i, whats) := number (Printf.value (-0x8000000000000000) 0x7fffffffffffffff) arg
        next (s.number c i) whats
      else if "ouxX".toList.contains c then
        let (i, whats) := number (Printf.value (1 - Text.numberBound) (Text.numberBound - 1)) arg
        next (s.number c i) whats
      else
        let (d, whats) := number Printf.decimalOf arg
        next (s.decimal c d) whats
  | n + 1, '\\' :: cs, args =>
    match escape cs with
    | .bytes b rest => (round n rest args).put b
    | .cut => ⟨[], args, some 0⟩
    | .lacking => ⟨[.error (complaint "missing hexadecimal number in escape".toList 1)], args, some 1⟩
  | n + 1, c :: cs, args => (round n cs args).put [UInt8.ofNat c.toNat]

/-- A format is used again until no arguments are left. If it takes none, the others are not used. -/
def rounds (f : Text) : Nat → List Text → Round
  | 0, args => ⟨[], args, none⟩
  | n + 1, args =>
    let r := round (f.length + 1) f args
    match r.ended, r.args with
    | some _, _ | _, [] => r
    | none, a :: as =>
      if r.args.length = args.length then
        { r with said := r.said ++
            [.error (complaint ("warning: ignoring excess arguments, starting with ".toList ++ literal a) 0)] }
      else
        let s := rounds f n (a :: as)
        { s with said := r.said ++ s.said }

/-- What is said one after the other, with bytes that follow each other in one piece. -/
def joined : Source.Said → Source.Said
  | .ok a :: rest =>
    match joined rest with
    | .ok b :: more => .ok (a ++ b) :: more
    | more => .ok a :: more
  | w :: rest => w :: joined rest
  | [] => []

/-- Arguments in a form. -/
def printf : Tool := fun args m =>
  match (if args.head? = some ['-', '-'] then args.drop 1 else args) with
  | [] => misused "printf" "missing operand".toList 1 m
  | f :: as =>
    let r := rounds f (as.length + 1) as
    let said := joined r.said
    match r.ended with
    | some n => { Source.finish said 0 m with finish := .status n }
    | none => Source.finish said 0 m

/-- Where the shell is, by the names of the nodes. -/
def pwd : Tool := program "pwd" 1 { plain := "LP", long := [("logical", 'L'), ("physical", 'P')] } fun g args m =>
  let here := Machine.shownPath (if g.latest? "LP" = some 'L' then m.place else m.tree.here)
  let extra := if args.isEmpty then [] else [.error (objection "pwd" "ignoring non-option arguments".toList 0)]
  Source.finish (extra ++ [.ok (Octet.encode (here ++ ['\n']))]) 0 m

namespace Test

/-- Whether a condition holds, or why it makes no sense. -/
abbrev Verdict := Except Text Bool

def integer (t : Text) : Except Text Int :=
  match Condition.integer? t with
  | some i => .ok i
  | none => .error ("invalid integer ".toList ++ literal t)

def binaries : List Text := "==".toList :: Condition.binaries.filter fun o => o ≠ ['<'] && o ≠ ['>']

def compared (t : Disk) (a o b : Text) : Verdict := do
  if ["-eq", "-ne", "-lt", "-le", "-gt", "-ge"].map String.toList |>.contains o then
    discard (integer a)
    discard (integer b)
  Condition.compared t a (if o = "==".toList then ['='] else o) b

def asked (t : Disk) (o a : Text) : Verdict :=
  match o with
  | ['-', 't'] => do
    discard (integer a)
    return false
  | ['-', c] => .ok (Condition.asked t c a)
  | _ => .ok false

def isUnary (o : Text) : Bool :=
  match o with
  | ['-', c] => (Condition.unaries ++ ['N']).contains c
  | _ => false

def shapedUnary (o : Text) : Bool := o.length = 2 && o.head? = some '-'

def missing (o : Text) : Except Text α := .error ("missing argument after ".toList ++ literal o)

mutual

/-- A condition at the start of words, and the words behind it. `fuel` is how deep it goes. -/
def either (t : Disk) : Nat → Text → List Text → Except Text (Bool × List Text)
  | 0, _, w => .ok (false, w)
  | n + 1, last, w => do
    let (a, w) ← both t n last w
    match w with
    | ['-', 'o'] :: w => do
      let (b, w) ← either t n ['-', 'o'] w
      return (a || b, w)
    | w => return (a, w)

def both (t : Disk) : Nat → Text → List Text → Except Text (Bool × List Text)
  | 0, _, w => .ok (false, w)
  | n + 1, last, w => do
    let (a, w) ← term t n last w
    match w with
    | ['-', 'a'] :: w => do
      let (b, w) ← both t n ['-', 'a'] w
      return (a && b, w)
    | w => return (a, w)

def term (t : Disk) : Nat → Text → List Text → Except Text (Bool × List Text)
  | 0, _, w => .ok (false, w)
  | n + 1, last, w =>
    match w with
    | [] => missing last
    | ['!'] :: w => (term t n ['!'] w).map fun r => (!r.1, r.2)
    | a :: o :: w =>
      if a = ['('] && !(w.isEmpty && o = [')']) then do
        let (v, rest) ← either t n a (o :: w)
        match rest with
        | [')'] :: rest => return (v, rest)
        | [] => .error "')' expected".toList
        | x :: _ => .error ("')' expected, found ".toList ++ x)
      else match w, binaries.contains o with
        | b :: w, true => (compared t a o b).map fun v => (v, w)
        | w, _ =>
          if isUnary a then (asked t a o).map fun v => (v, w)
          else if shapedUnary a then .error (literal a ++ ": unary operator expected".toList)
          else .ok (!a.isEmpty, o :: w)
    | [a] =>
      if a = ['('] then missing a
      else if isUnary a then missing a
      else if shapedUnary a then .error (literal a ++ ": unary operator expected".toList)
      else .ok (!a.isEmpty, [])

end

/-- Words as one condition with nothing behind it. -/
def whole (t : Disk) (w : List Text) : Verdict := do
  let (v, rest) ← either t (5 * w.length + 5) [] w
  match rest with
  | x :: _ => .error ("extra argument ".toList ++ literal x)
  | [] => return v

def holdsTwo (t : Disk) (a b : Text) : Verdict :=
  if a = ['!'] then .ok b.isEmpty
  else if isUnary a then asked t a b
  else if shapedUnary a then .error (literal a ++ ": unary operator expected".toList)
  else missing b

def holdsThree (t : Disk) (a b c : Text) : Verdict :=
  if binaries.contains b then compared t a b c
  else if a = ['!'] then (holdsTwo t b c).map not
  else if a = ['('] && c = [')'] then .ok (!b.isEmpty)
  else if b = ['-', 'a'] || b = ['-', 'o'] then whole t [a, b, c]
  else .error (literal b ++ ": binary operator expected".toList)

/-- Whether a condition holds. How few words are meant goes by their number. -/
def holds (t : Disk) : List Text → Verdict
  | [] => .ok false
  | [a] => .ok (!a.isEmpty)
  | [a, b] => holdsTwo t a b
  | [a, b, c] => holdsThree t a b c
  | [a, b, c, d] =>
    if a = ['!'] then (holdsThree t b c d).map not
    else if a = ['('] && d = [')'] then holdsTwo t b c
    else whole t [a, b, c, d]
  | w => whole t w

end Test

def condition (tool : String) : Tool := fun args m =>
  match Test.holds m.tree args with
  | .ok v => m.ends (if v then 0 else 1)
  | .error why => Source.finish [.error (objection tool why 2)] 2 m

def bracket : Tool := fun args m =>
  if args.getLast? = some [']'] then condition "[" args.dropLast m
  else Source.finish [.error (objection "[" "missing ']'".toList 2)] 2 m

def all : List (Text × Tool) :=
  [("true".toList, Tool.quit 0), ("false".toList, Tool.quit 1), ("echo".toList, echo), ("printf".toList, printf),
   ("kill".toList, Signal.kill), ("pwd".toList, pwd), ("test".toList, condition "test"), (['['], bracket)]

end Standalone

end Guidebook.Shell
