import Guidebook.Shell.Pattern

namespace Guidebook.Shell.Row

/-- How two numbers become one. -/
inductive Calc where
  | add
  | sub
  | mul
  | div
  | rest
  | power
  deriving DecidableEq, Repr

/-- How two values compare. -/
inductive Relation where
  | lt
  | le
  | eq
  | ne
  | ge
  | gt
  deriving DecidableEq, Repr

/-- Functions that are always there. -/
inductive Helper where
  | length
  | index
  | part
  | split
  | replace
  | replaceAll
  | seek
  | format
  | sin
  | cos
  | angle
  | exp
  | log
  | root
  | whole
  | random
  | seed
  | lower
  | upper
  | system
  | close
  | flush
  deriving DecidableEq, Repr

mutual

/-- What has a value. A pattern by itself tells whether the row has a piece that it fits. The last ones take a row
from what is read, from a file, or from what a command prints, and put it somewhere if that is said. -/
inductive Expr where
  | number (x : Float)
  | text (t : Text)
  | pattern (p : Pattern)
  | var (name : Text)
  | field (n : Expr)
  | cell (table : Text) (key : Exprs)
  | assign (goal : Expr) (op : Option Calc) (value : Expr)
  | step (goal : Expr) (up : Bool) (before : Bool)
  | calc (c : Calc) (a b : Expr)
  | relate (r : Relation) (a b : Expr)
  | fits (wanted : Bool) (t p : Expr)
  | not (a : Expr)
  | minus (a : Expr)
  | plus (a : Expr)
  | and (a b : Expr)
  | or (a b : Expr)
  | choice (test a b : Expr)
  | join (a b : Expr)
  | among (key : Exprs) (table : Text)
  | help (h : Helper) (args : Exprs)
  | call (name : Text) (args : Exprs)
  | take (goal : Exprs)
  | takeFile (file : Expr) (goal : Exprs)
  | takeCommand (command : Expr) (goal : Exprs)

inductive Exprs where
  | nil
  | cons (e : Expr) (es : Exprs)

end

def Exprs.ofList : List Expr → Exprs
  | [] => .nil
  | e :: es => .cons e (ofList es)

/-- Whether something can be given a value. -/
def Expr.isPlace : Expr → Bool
  | .var _ | .field _ | .cell .. => true
  | _ => false

/-- Where rows are printed to if not to the output: to a file, to the end of a file, or to a command. -/
inductive Way where
  | file
  | added
  | command
  deriving DecidableEq, Repr

/-- What is done for a row. -/
inductive Action where
  | skip
  | eval (e : Expr)
  | print (formatted : Bool) (args : Exprs) (way : Option (Way × Expr))
  | andThen (a b : Action)
  | choice (test : Expr) (yes no : Action)
  | loop (first : Bool) (test : Expr) (step body : Action)
  | forKeys (name table : Text) (body : Action)
  | leave
  | again
  | next
  | nextFile
  | exit (status : Option Expr)
  | give (value : Option Expr)
  | drop (table : Text) (key : Exprs)
  | dropAll (table : Text)

/-- Which rows something is done for. -/
inductive Choice where
  | atStart
  | atEnd
  | every
  | fitting (e : Expr)
  | between (a b : Expr)

structure Rule where
  choice : Choice
  action : Action

structure Function where
  name : Text
  args : List Text
  body : Action

/-- What is done for the rows of some files. -/
structure Script where
  rules : List Rule
  functions : List Function

/-- The pattern of a text in which a backslash may stand before any character. -/
def patternOf (t : Text) : Pattern :=
  let u := plainly t.length t
  (Pattern.ofText? .extended u).getD (Pattern.ofPlain t)
where
  controls : List (Char × Nat) :=
    [('n', 10), ('t', 9), ('r', 13), ('f', 12), ('v', 11), ('a', 7), ('b', 8)]
  plainly : Nat → Text → Text
    | 0, t => t
    | _, [] => []
    | n + 1, '\\' :: c :: cs =>
      match controls.lookup c with
      | some k => Char.ofNat k :: plainly n cs
      | none => if c.isAlphanum || c = '"' || c = '/' || c = '_' || c = '<' || c = '>' || c = '\'' then c :: plainly n cs
        else '\\' :: c :: plainly n cs
    | n + 1, '[' :: cs =>
      let (front, cs) := match cs with
        | '^' :: cs => (['^'], cs)
        | cs => ([], cs)
      let (first, cs) := match cs with
        | ']' :: cs => if cs.contains ']' then (true, cs) else (false, ']' :: cs)
        | cs => (false, cs)
      let (members, closing, rest) := within n cs
      '[' :: front ++ (if first || closing then [']'] else []) ++ members ++ ']' :: plainly n rest
    | n + 1, c :: cs => c :: plainly n cs
  /-- What stands in a set, whether a closing bracket is among it, and what follows. -/
  within : Nat → Text → Text × Bool × Text
    | 0, t => ([], false, t)
    | _, [] => ([], false, [])
    | _, ']' :: cs => ([], false, cs)
    | n + 1, '\\' :: c :: cs =>
      let r := within n cs
      if c = ']' then (r.1, true, r.2.2)
      else ((((controls.lookup c).map Char.ofNat).getD c :: r.1), r.2)
    | n + 1, '[' :: ':' :: cs =>
      let name := cs.takeWhile (· ≠ ':')
      let r := within n (cs.drop (name.length + 2))
      ("[:".toList ++ name ++ ":]".toList ++ r.1, r.2)
    | n + 1, c :: cs =>
      let r := within n cs
      (c :: r.1, r.2)

end Guidebook.Shell.Row
