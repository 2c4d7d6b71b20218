import Guidebook.Shell.Row.Script
import Guidebook.Shell.Row.Value

namespace Guidebook.Shell.Row

/-- What a script is written in. A name right in front of a parenthesis is that of a function. -/
inductive Word where
  | number (x : Float)
  | text (t : Text)
  | pattern (t : Text)
  | name (t : Text)
  | caller (t : Text)
  | helper (h : Helper)
  | key (t : Text)
  | sign (t : Text)
  | newline

/-- A word and the line where it stands. -/
structure Placed where
  word : Word
  line : Nat

/-- Why a script makes no sense. -/
inductive Problem where
  | near (t : Text)
  | endOfLine
  | unexpected
  | openText (t : Text)
  | openPattern (t : Text)
  | openBrace
  | openParen
  | stray (c : Char)
  | strayNext (t : Text)
  | strayReturn
  | strayLeave (t : Text)
  | neverDefined (name : Text)
  | tooMany (name : Text)
  | wrongCount (name : Text)
  deriving DecidableEq, Repr

structure Fault where
  line : Nat
  problem : Problem
  deriving DecidableEq, Repr

def Problem.toText : Problem → Text
  | .near t => "syntax error at or near ".toList ++ t
  | .endOfLine => "syntax error at or near end of line".toList
  | .unexpected => "syntax error at or near end of line".toList
  | .openText t => "runaway string constant \"".toList ++ t.take 10 ++ " ...".toList
  | .openPattern t => "runaway regular expression /".toList ++ t.take 10 ++ " ...".toList
  | .openBrace => "missing \x7d near end of file".toList
  | .openParen => "missing ) near end of line".toList
  | .stray c => "extra '".toList ++ [c, '\'']
  | .strayNext t => "improper use of ".toList ++ t
  | .strayReturn => "return outside function body".toList
  | .strayLeave t => t ++ " statement outside of loop".toList
  | .neverDefined n => "function ".toList ++ n ++ " never defined".toList
  | .tooMany n => "too many arguments in call to ".toList ++ n
  | .wrongCount n => "wrong number of arguments in call to ".toList ++ n

namespace Word

def keys : List Text :=
  ["BEGIN", "END", "function", "if", "else", "while", "for", "do", "break", "continue", "next",
   "nextfile", "exit", "return", "delete", "in", "getline", "print", "printf"].map String.toList

def helpers : List (Text × Helper) :=
  [("length", Helper.length), ("index", .index), ("substr", .part), ("split", .split), ("sub", .replace),
   ("gsub", .replaceAll), ("match", .seek), ("sprintf", .format), ("sin", .sin), ("cos", .cos),
   ("atan2", .angle), ("exp", .exp), ("log", .log), ("sqrt", .root), ("int", .whole), ("rand", .random),
   ("srand", .seed), ("tolower", .lower), ("toupper", .upper), ("system", .system), ("close", .close),
   ("fflush", .flush)].map fun h => (h.1.toList, h.2)

/-- How many arguments a function may have. -/
def counts : Helper → List Nat
  | .length | .seed | .flush => [0, 1]
  | .random => [0]
  | .index | .seek | .angle => [2]
  | .part | .split | .replace | .replaceAll => [2, 3]
  | .format => []
  | _ => [1]

/-- The signs, longer ones first. -/
def signs : List Text :=
  ["&&", "||", "++", "--", "+=", "-=", "*=", "/=", "%=", "^=", "==", "!=", "<=", ">=", "!~", ">>",
   "+", "-", "*", "/", "%", "^", "=", "<", ">", "!", "~", "?", ":", ",", ";", "(", ")", "[", "]", "$", "|",
   "\x7b", "\x7d"].map String.toList

/-- Whether a slash behind a word divides. -/
def isOperand : Word → Bool
  | .number _ | .text _ | .name _ | .pattern _ => true
  | .helper h => h = .length
  | .sign t => [[')'], [']'], ['$'], ['+', '+'], ['-', '-']].contains t
  | _ => false

def shown : Word → Problem
  | .newline => .endOfLine
  | .number x => .near (spelled (byFormat "%.6g".toList) x)
  | .text t => .near t
  | .pattern t => .near ('/' :: t ++ ['/'])
  | .name t | .caller t | .key t | .sign t => .near t
  | .helper h => .near (((helpers.find? (·.2 = h)).map (·.1)).getD [])

def controls : List (Char × Nat) :=
  [('n', 10), ('t', 9), ('r', 13), ('a', 7), ('b', 8), ('f', 12), ('v', 11), ('"', 34), ('\\', 92)]

/-- What a text with backslashes spells. -/
def unescape : Nat → Text → Text
  | 0, t => t
  | _, [] => []
  | n + 1, '\\' :: '\n' :: cs => unescape n cs
  | n + 1, '\\' :: c :: cs =>
    match controls.lookup c with
    | some k => Char.ofNat k :: unescape n cs
    | none =>
      if Arithmetic.isOctal c then
        let ds := ((c :: cs).take 3).takeWhile Arithmetic.isOctal
        Char.ofNat (Printf.octalValue ds % 256) :: unescape n ((c :: cs).drop ds.length)
      else
        let ds := if c = 'x' then (cs.take 2).takeWhile Arithmetic.isHex else []
        if ds.isEmpty then '\\' :: c :: unescape n cs
        else Char.ofNat (Arithmetic.ofDigits 16 Arithmetic.hexValue ds).toNat :: unescape n (cs.drop ds.length)
  | n + 1, c :: cs => c :: unescape n cs

/-- Up to a mark that no backslash stands before, and what follows the mark. -/
def upTo? (mark : Char) : Text → Option (Text × Text)
  | [] => none
  | '\\' :: c :: cs => (upTo? mark cs).map fun r => ('\\' :: c :: r.1, r.2)
  | c :: cs =>
    if c = mark then some ([], cs)
    else if c = '\n' then none
    else (upTo? mark cs).map fun r => (c :: r.1, r.2)

/-- The same for a pattern, where a mark within a set counts for nothing. -/
def patternUpTo? : Text → Option (Text × Text) := upTo? '/'

def isNameSign (c : Char) : Bool := c.isAlphanum || c = '_'

/-- The digits of a number, with a point and a power of ten if there are any. -/
def numberText (t : Text) : Text :=
  match Decimal.ofText? t with
  | some (_, rest) => t.take (t.length - rest.length)
  | none => []

def ofName (t rest : Text) : Word :=
  if keys.contains t then .key t
  else match helpers.lookup t with
    | some h => .helper h
    | none => if rest.head? = some '(' then .caller t else .name t

/-- The words of a script behind one after which a slash divides or not. -/
def words : Nat → Nat → Bool → Text → Except Fault (List Placed)
  | 0, _, _, _ | _, _, _, [] => .ok []
  | n + 1, line, operand, c :: cs =>
    let put := fun (w : Word) (rest : Text) =>
      (words n line w.isOperand rest).map (⟨w, line⟩ :: ·)
    if c = '\n' then (words n (line + 1) false cs).map (⟨.newline, line⟩ :: ·)
    else if c = ' ' || c = '\t' || c = '\r' then words n line operand cs
    else if c = '#' then words n line operand (cs.dropWhile (· ≠ '\n'))
    else if c = '\\' && cs.head? = some '\n' then words n (line + 1) operand (cs.drop 1)
    else if c = '"' then
      match upTo? '"' cs with
      | some (t, rest) => put (.text (unescape t.length t)) rest
      | none => .error ⟨line, .openText (cs.takeWhile (· ≠ '\n'))⟩
    else if c = '/' && !operand then
      match patternUpTo? cs with
      | some (t, rest) => put (.pattern t) rest
      | none => .error ⟨line, .openPattern (cs.takeWhile (· ≠ '\n'))⟩
    else if c.isDigit || c = '.' && (cs.head?.map Char.isDigit).getD false then
      let t := numberText (c :: cs)
      put (.number (leading t)) ((c :: cs).drop t.length)
    else if isNameSign c then
      let t := c :: cs.takeWhile isNameSign
      let rest := cs.dropWhile isNameSign
      put (ofName t rest) rest
    else match signs.find? (·.isPrefixOf (c :: cs)) with
      | some s => put (.sign s) ((c :: cs).drop s.length)
      | none => .error ⟨line, .near [c]⟩

end Word

end Guidebook.Shell.Row
