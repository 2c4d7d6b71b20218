import Guidebook.Shell.Atom

namespace Guidebook.Shell

/-- Places at the edges of words: where one begins, where one ends, either of them, or neither. -/
inductive Edge where
  | front
  | back
  | either
  | neither
  deriving DecidableEq, Repr

namespace Edge

def isWord (c : Char) : Bool := c.isAlphanum || c = '_'

def fits (e : Edge) (before after : Option Char) : Bool :=
  let b := (before.map isWord).getD false
  let a := (after.map isWord).getD false
  match e with
  | .front => !b && a
  | .back => b && !a
  | .either => b != a
  | .neither => b == a

end Edge

/-- A pattern for a piece of a text. Its places are those of the text, or those of lines in it. -/
inductive Pattern where
  | empty
  | one (a : Atom)
  | atStart
  | atEnd
  | lineStart
  | lineEnd
  | edge (e : Edge)
  | seq (p q : Pattern)
  | either (p q : Pattern)
  | many (p : Pattern) (least : Nat) (most : Option Nat)
  | group (n : Nat) (p : Pattern)
  | again (n : Nat)
  deriving DecidableEq, Repr

namespace Pattern

/-- Two ways to write patterns: in one, signs that are not for one character have a backslash. -/
inductive Style where
  | basic
  | extended
  deriving DecidableEq, Repr

inductive Sign where
  | atom (a : Atom)
  | star
  | plus
  | optional
  | times (least : Nat) (most : Option Nat)
  | bar
  | opening
  | closing
  | caret
  | dollar
  | place (p : Pattern)
  | back (n : Nat)
  deriving DecidableEq, Repr

/-- The bounds of a repetition: a number, or two of which the second may be missing. -/
def bounds? (t : Text) : Option (Nat × Option Nat) :=
  match Text.cut? ',' t with
  | none => if Text.isDigits t then some (Text.digitsValue t, some (Text.digitsValue t)) else none
  | some (a, b) =>
    let least := if a.isEmpty then 0 else Text.digitsValue a
    if b.isEmpty then some (least, none)
    else if Text.isDigits b then some (least, some (Text.digitsValue b))
    else none

def operatorSign? (c : Char) : Option Sign :=
  match c with
  | '+' => some .plus
  | '?' => some .optional
  | '|' => some .bar
  | '(' => some .opening
  | ')' => some .closing
  | _ => none

def backquote : Char := Char.ofNat 96

def classSign (c : Char) : Sign :=
  let word := [('A', 'Z'), ('a', 'z'), ('0', '9'), ('_', '_')]
  let space := [(' ', ' '), ('\t', '\r')]
  match c with
  | 'n' => .atom (.char '\n')
  | 't' => .atom (.char '\t')
  | 'w' => .atom (.oneOf word false)
  | 'W' => .atom (.oneOf word true)
  | 's' => .atom (.oneOf space false)
  | 'S' => .atom (.oneOf space true)
  | '<' => .place (.edge .front)
  | '>' => .place (.edge .back)
  | 'b' => .place (.edge .either)
  | 'B' => .place (.edge .neither)
  | '\'' => .place .atEnd
  | c => if c = backquote then .place .atStart else .atom (.char c)

/-- Up to the end of bounds, and what follows it. -/
def boundsText (style : Style) (t : Text) : Text × Text :=
  let body := t.takeWhile fun c => c ≠ '\x7d' && c ≠ '\\'
  (body, t.drop (body.length + if style = .basic then 2 else 1))

def signs (style : Style) : Nat → Text → Option (List Sign)
  | 0, _ => none
  | _, [] => some []
  | n + 1, '\\' :: c :: cs =>
    if c = '\x7b' ∧ style = .basic then do
      let (body, rest) := boundsText style cs
      let (least, most) ← bounds? body
      return .times least most :: (← signs style n rest)
    else if '1' ≤ c ∧ c ≤ '9' then (signs style n cs).map (.back (Text.digitValue c) :: ·)
    else
      let s := match style, operatorSign? c with
        | .basic, some s => s
        | _, _ => classSign c
      (signs style n cs).map (s :: ·)
  | n + 1, '[' :: cs => do
    let (a, rest) ← Atom.set? ['^'] cs
    return .atom a :: (← signs style n rest)
  | n + 1, c :: cs =>
    let (body, rest) := boundsText style cs
    match if c = '\x7b' ∧ style = .extended then bounds? body else none with
    | some (least, most) => (signs style n rest).map (.times least most :: ·)
    | none =>
      let s := match c, style, operatorSign? c with
        | '.', _, _ => .atom .any
        | '*', _, _ => .star
        | '^', _, _ => .caret
        | '$', _, _ => .dollar
        | _, .extended, some s => s
        | c, _, _ => .atom (.char c)
      (signs style n cs).map (s :: ·)

/-- Where a basic pattern has a sign that stands for itself there. -/
def settle (style : Style) (first : Bool) : List Sign → List Sign
  | [] => []
  | s :: ss =>
    let last := match ss with
      | [] | .closing :: _ | .bar :: _ => true
      | _ => false
    let t := match style, s with
      | .basic, .star => if first then .atom (.char '*') else .star
      | .basic, .caret => if first then .caret else .atom (.char '^')
      | .basic, .dollar => if last then .dollar else .atom (.char '$')
      | _, s => s
    let opens := match t with
      | .opening | .bar | .caret => true
      | _ => false
    t :: settle style opens ss

mutual

def alternatives : Nat → Nat → List Sign → Option (Pattern × Nat × List Sign)
  | 0, _, _ => none
  | n + 1, groups, ss => do
    let (p, groups, ss) ← sequence n groups ss
    match ss with
    | .bar :: ss => do
      let (q, groups, ss) ← alternatives n groups ss
      return (.either p q, groups, ss)
    | ss => return (p, groups, ss)

def sequence : Nat → Nat → List Sign → Option (Pattern × Nat × List Sign)
  | 0, _, _ => none
  | n + 1, groups, ss =>
    match ss with
    | [] | .bar :: _ | .closing :: _ => some (.empty, groups, ss)
    | ss => do
      let (p, groups, ss) ← single n groups ss
      let (p, ss) := repeated n p ss
      let (q, groups, ss) ← sequence n groups ss
      return (.seq p q, groups, ss)

def single : Nat → Nat → List Sign → Option (Pattern × Nat × List Sign)
  | 0, _, _ => none
  | n + 1, groups, ss =>
    match ss with
    | .atom a :: ss => some (.one a, groups, ss)
    | .caret :: ss => some (.atStart, groups, ss)
    | .dollar :: ss => some (.atEnd, groups, ss)
    | .place p :: ss => some (p, groups, ss)
    | .star :: _ | .plus :: _ | .optional :: _ | .times .. :: _ => some (.empty, groups, ss)
    | .back k :: ss => if k ≤ groups then some (.again k, groups, ss) else none
    | .opening :: ss => do
      let (p, more, ss) ← alternatives n (groups + 1) ss
      match ss with
      | .closing :: ss => some (.group (groups + 1) p, more, ss)
      | _ => none
    | _ => none

def repeated : Nat → Pattern → List Sign → Pattern × List Sign
  | 0, p, ss => (p, ss)
  | n + 1, p, ss =>
    match ss with
    | .star :: ss => repeated n (.many p 0 none) ss
    | .plus :: ss => repeated n (.many p 1 none) ss
    | .optional :: ss => repeated n (.many p 0 (some 1)) ss
    | .times a b :: ss => repeated n (.many p a b) ss
    | ss => (p, ss)

end

/-- The pattern that a text spells. -/
def ofText? (style : Style) (t : Text) : Option Pattern := do
  let ss ← signs style (t.length + 1) t
  match ← alternatives (4 * ss.length + 4) 0 (settle style true ss) with
  | (p, _, []) => some p
  | _ => none

/-- The pattern of a text that stands for itself. -/
def ofPlain (t : Text) : Pattern := t.foldr (fun c p => .seq (.one (.char c)) p) .empty

/-- The same pattern for a text of several lines, where each line has its start and its end. -/
def byLine : Pattern → Pattern
  | .atStart => .lineStart
  | .atEnd => .lineEnd
  | .seq p q => .seq p.byLine q.byLine
  | .either p q => .either p.byLine q.byLine
  | .many p least most => .many p.byLine least most
  | .group n p => .group n p.byLine
  | p => p

/-- How many groups a pattern has. -/
def groups : Pattern → Nat
  | .seq p q | .either p q => p.groups + q.groups
  | .many p .. => p.groups
  | .group _ p => p.groups + 1
  | _ => 0

/-- Whether the first way to match is the longest one because there is no other. -/
def isPlain : Pattern → Bool
  | .either .. => false
  | .many (.one _) _ none => true
  | .many .. => false
  | .seq p q => p.isPlain && q.isPlain
  | .group _ p => p.isPlain
  | _ => true

/-- How far a match has come: the character before what is left, how many characters it has taken,
what is left, and what the groups have taken. -/
structure Matching where
  before : Option Char
  taken : Nat
  rest : Text
  groups : List (Nat × Text)

namespace Matching

def take (m : Matching) (n : Nat) : Matching :=
  { m with
    before := ((m.rest.take n).getLast?).orElse fun _ => m.before
    taken := m.taken + n
    rest := m.rest.drop n }

end Matching

/-- A pattern again and again, as often as it can be, as far as it takes something and the rest goes on
from there. -/
def repeatedly (f : Matching → (Matching → Option Matching) → Option Matching)
    (k : Matching → Option Matching) : Nat → Nat → Option Nat → Matching → Option Matching
  | 0, least, _, m => if least = 0 then k m else none
  | n + 1, least, most, m =>
    let again := if most = some 0 then none
      else f m fun r =>
        if r.taken = m.taken ∧ least = 0 then none
        else repeatedly f k n (least - 1) (most.map (· - 1)) r
    match again with
    | some r => some r
    | none => if least = 0 then k m else none

/-- The first match from a place that the rest can go on from. -/
def run : Pattern → Bool → Matching → (Matching → Option Matching) → Option Matching
  | .empty, _, m, k => k m
  | .one a, folded, m, k =>
    match m.rest with
    | [] => none
    | c :: _ =>
      if a.fits c || folded && (a.fits c.toLower || a.fits c.toUpper) then k (m.take 1) else none
  | .atStart, _, m, k => if m.before.isNone then k m else none
  | .atEnd, _, m, k => if m.rest.isEmpty then k m else none
  | .lineStart, _, m, k => if m.before.all (· = '\n') then k m else none
  | .lineEnd, _, m, k => if m.rest.head?.all (· = '\n') then k m else none
  | .edge e, _, m, k => if e.fits m.before m.rest.head? then k m else none
  | .seq p q, folded, m, k => run p folded m fun r => run q folded r k
  | .either p q, folded, m, k =>
    match run p folded m k with
    | some r => some r
    | none => run q folded m k
  | .many p least most, folded, m, k =>
    repeatedly (run p folded) k (least + m.rest.length + 1) least most m
  | .group n p, folded, m, k =>
    run p folded m fun r =>
      k { r with groups := (n, m.rest.take (r.taken - m.taken)) :: r.groups.filter (·.1 ≠ n) }
  | .again n, folded, m, k =>
    match m.groups.lookup n with
    | none => none
    | some t =>
      let u := m.rest.take t.length
      if u = t || folded && u.map Char.toLower = t.map Char.toLower then k (m.take t.length) else none

/-- The longest match at the start of a text, which stands behind some character. -/
def here? (p : Pattern) (folded : Bool) (before : Option Char) (t : Text) : Option Matching :=
  let start : Matching := ⟨before, 0, t, []⟩
  (p.run folded start some).map fun r =>
    let longer := fun i => p.run folded start fun s => if s.taken + i = t.length then some s else none
    if p.isPlain then r else ((List.range (t.length - r.taken)).findSome? longer).getD r

def occursFrom (p : Pattern) (folded : Bool) : Option Char → Text → Bool
  | b, [] => (p.run folded ⟨b, 0, [], []⟩ some).isSome
  | b, c :: cs => (p.run folded ⟨b, 0, c :: cs, []⟩ some).isSome || occursFrom p folded (some c) cs

def occursIn (p : Pattern) (folded : Bool) (t : Text) : Bool := p.occursFrom folded none t

/-- Matches from a number on are replaced, all of them or only that one. No match is empty right
behind another one. The number tells how many have been replaced. -/
def replace (p : Pattern) (folded : Bool) (new : Text → List (Nat × Text) → Text) (first : Nat)
    (every : Bool) (t : Text) : Text × Nat :=
  go (t.length + 1) 1 none false t
where
  go : Nat → Nat → Option Char → Bool → Text → Text × Nat
    | 0, _, _, _, t => (t, 0)
    | n + 1, k, before, behind, t =>
      let found := (p.here? folded before t).filter fun m => 0 < m.taken || !behind
      let step := fun (front : Text) (count k j : Nat) (behind : Bool) =>
        let r := go n k (((t.take j).getLast?).orElse fun _ => before) behind (t.drop j)
        (front ++ r.1, count + r.2)
      match found, t with
      | none, [] => ([], 0)
      | none, c :: _ => step [c] 0 k 1 false
      | some m, t =>
        let chosen := k = first || every && first ≤ k
        let put := if chosen then new (t.take m.taken) m.groups else t.take m.taken
        let count := if chosen then 1 else 0
        if chosen && !every then (put ++ t.drop m.taken, 1)
        else match m.taken, t with
          | 0, [] => (put, count)
          | 0, c :: _ => step (put ++ [c]) count (k + 1) 1 false
          | j, _ => step put count (k + 1) j true

end Pattern

end Guidebook.Shell
