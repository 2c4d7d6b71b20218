import Guidebook.Text.Basic

namespace Guidebook.Document

/-- The number of blanks a line starts with. -/
def indent (l : Text) : Nat := (l.takeWhile Text.isBlank).length

def isComment (l : Text) : Bool := (Text.trimStart l).head? == some '#'

def separator : Text := "---".toList

def isSeparator (l : Text) : Bool := Text.trim l == separator

/-- Removes the blanks a line starts with, but no more than `n` of them. -/
def stripColumns : Nat → Text → Text
  | n + 1, c :: cs => if Text.isBlank c then stripColumns n cs else c :: cs
  | _, l => l

/-- Nothing, or a blank first. -/
def startsBlank (t : Text) : Bool := (t.head?.map Text.isBlank).getD true

/-- What follows the dash that starts an entry of a list. -/
def afterDash? : Text → Option Text
  | '-' :: r => if startsBlank r then some r else none
  | _ => none

/-- A key and what is written beside it on its line. -/
structure Field where
  key : Text
  value : Text
  deriving DecidableEq, Repr

namespace Field

def isKeyChar (c : Char) : Bool := c.isAlphanum || c == '_' || c == '-'

def isKey (t : Text) : Bool := !t.isEmpty && t.all isKeyChar

/-- Reads `key: value`. The colon ends the line or has a blank behind it. -/
def ofText? (t : Text) : Option Field :=
  match Text.cut? ':' t with
  | none => none
  | some (k, r) =>
    let key := Text.trimEnd k
    if isKey key && startsBlank r then some ⟨key, Text.trim r⟩ else none

end Field

/-- How a block treats the blank lines at its end. -/
inductive Chomp where
  | drop
  | keep
  deriving DecidableEq, Repr

/-- A value that says that a block follows. -/
def Chomp.ofValue? (v : Text) : Option Chomp :=
  if v = ['|'] ∨ v = ['|', '-'] then some .drop
  else if v = ['|', '+'] then some .keep
  else none

/-- Whether `q` occurs without an odd run of backslashes before it. -/
def hasBare (q : Char) : Bool → Text → Bool
  | _, [] => false
  | true, _ :: cs => hasBare q false cs
  | false, c :: cs => if c = '\\' then hasBare q true cs else c = q || hasBare q false cs

def isQuote (c : Char) : Bool := c = '"' || c = '\''

/-- What stands between the quotes of a value that is one quoted text, and every other value as it
is. -/
def unquote : Text → Text
  | q :: r =>
    if isQuote q && r.getLast? == some q && !hasBare q false r.dropLast then r.dropLast else q :: r
  | [] => []

end Guidebook.Document
