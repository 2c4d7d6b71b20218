import Guidebook.Text.Digit

namespace Guidebook.Shell

/-- What stands for a parameter that is missing. -/
inductive Missing where
  | other
  | assign
  | fail
  | instead
  deriving DecidableEq, Repr

/-- What is made of the value of a parameter. Texts in it are words of their own. -/
inductive Use where
  | value
  | length
  | ifMissing (act : Missing) (orEmpty : Bool) (more : Text)
  | without (atEnd longest : Bool) (pattern : Text)
  deriving DecidableEq, Repr

/-- A piece of a word: a character, something that is filled in later, or nothing at all, which makes
a word of two quotation marks. What is quoted is kept together. Commands know on which line they
start. -/
inductive Part where
  | char (c : Char) (quoted : Bool)
  | param (name : Text) (use : Use) (quoted : Bool)
  | output (commands : Text) (line : Nat) (quoted : Bool)
  | sum (expression : Text) (quoted : Bool)
  | here (text : Text)
  | mark
  deriving DecidableEq, Repr

abbrev Word := List Part

inductive TokenSort where
  | word (w : Word)
  | number (n : Nat)
  | op (t : Text)
  | broken (why : Text)
  | ending
  deriving DecidableEq, Repr

/-- A piece of a text, and the line that its end stands on. What cannot be cut is broken, and nothing
follows it but the end of all. A piece of what other words stand for knows those words. -/
structure Token where
  sort : TokenSort
  line : Nat
  origin : List Text
  deriving DecidableEq, Repr

/-- The text of a word in which nothing is quoted and nothing to be filled in. -/
def plain? (w : Word) : Option Text :=
  w.mapM fun p => match p with
    | .char c false => some c
    | _ => none

/-- What a character stands in: a word of a command, a word within braces, double quotation marks
in one of both, or a text that follows a command. -/
inductive Around where
  | bare
  | braced
  | double (inBraces : Bool)
  | here
  deriving DecidableEq, Repr

def Around.isQuoted : Around → Bool
  | .bare | .braced => false
  | .double _ | .here => true

inductive Enclosure where
  | braces
  | parens
  | backquotes
  deriving DecidableEq, Repr

/-- What a character is read as part of. Of what is enclosed, the marks that are to close it are kept,
innermost first. -/
inductive Mode where
  | blank
  | text (a : Around)
  | single (inBraces : Bool)
  | escape (a : Around)
  | dollar (a : Around)
  | name (a : Around) (seen : Text)
  | enclosed (a : Around) (e : Enclosure) (closers : Text) (escaped : Bool) (seen : Text)
  | operator (t : Text)
  | comment
  | body (line seen : Text)
  | broken (why : Text)

/-- The line that ends a text that follows a command. If it is quoted, nothing is filled in; if it is
indented, tabs in front of lines count for nothing. -/
structure Delimiter where
  line : Text
  quoted : Bool
  indented : Bool

/-- A text that is being cut into tokens on a line. The word that has begun, the tokens and the texts
that follow commands are newest first; some of those texts are still due. -/
structure Lexer where
  line : Nat
  mode : Mode
  parts : List Part
  tokens : List Token
  due : List Delimiter
  texts : List Word

namespace Lexer

def start (line : Nat) : Lexer := ⟨line, .blank, [], [], [], []⟩

def add (l : Lexer) (p : Part) : Lexer := { l with parts := p :: l.parts }

def goto (l : Lexer) (m : Mode) : Lexer := { l with mode := m }

def emit (l : Lexer) (s : TokenSort) : Lexer := { l with tokens := ⟨s, l.line, []⟩ :: l.tokens }

def hereOp : Text := "<<".toList

def indentedOp : Text := "<<-".toList

def delimiter (w : Word) (indented : Bool) : Delimiter :=
  ⟨w.filterMap fun p => match p with
    | .char c _ => some c
    | _ => none,
   w.any fun p => match p with
    | .char _ quoted => quoted
    | _ => true, indented⟩

/-- Ends the word that has begun. A digit right before a redirection is the number of a stream. -/
def endWord (l : Lexer) (redirected : Bool) : Lexer :=
  if l.parts.isEmpty then l
  else
    let w := l.parts.reverse
    let s := match redirected, (plain? w).filter fun t => t.length = 1 && Text.isDigits t with
      | true, some ds => .number (Text.digitsValue ds)
      | _, _ => .word w
    let due := match l.tokens.head?.map (·.sort) with
      | some (.op o) =>
        if o = hereOp ∨ o = indentedOp then l.due ++ [delimiter w (o = indentedOp)] else l.due
      | _ => l.due
    ({ l with mode := .blank, parts := [], due := due } : Lexer).emit s

/-- An end of a line, which belongs to the next one. -/
def newline (l : Lexer) : Lexer :=
  let l := l.endWord false
  { l with
    mode := if l.due.isEmpty then .blank else .body [] []
    tokens := ⟨.op ['\n'], l.line + 1, []⟩ :: l.tokens }

def operators : List Text :=
  [[';'], ['&'], ['|'], ['('], [')'], ['<'], ['>'], "&&".toList, "||".toList, ";;".toList,
   ">>".toList, ">&".toList, "<&".toList, ">|".toList, "<>".toList, hereOp, indentedOp]

def isNameStart (c : Char) : Bool := c.isAlpha || c = '_'

def isNameChar (c : Char) : Bool := c.isAlphanum || c = '_'

def isName (t : Text) : Bool := (t.head?.map isNameStart).getD false && t.all isNameChar

def isSpecial (c : Char) : Bool :=
  c.isDigit || c = '?' || c = '$' || c = '#' || c = '@' || c = '*' || c = '!' || c = '-'

def backquote : Char := Char.ofNat 96

/-- A character of a word or of a quotation. -/
def char (l : Lexer) (a : Around) (c : Char) : Lexer :=
  if c = '\\' then l.goto (.escape a)
  else if c = '$' then l.goto (.dollar a)
  else if c = backquote then l.goto (.enclosed a .backquotes [backquote] false [])
  else
    let plain := (l.add (.char c a.isQuoted)).goto (.text a)
    match a with
    | .here => plain
    | .double inBraces =>
      if c = '"' then l.goto (.text (if inBraces then .braced else .bare)) else plain
    | _ =>
      if c = '\'' then (l.add .mark).goto (.single (a = .braced))
      else if c = '"' then (l.add .mark).goto (.text (.double (a = .braced)))
      else plain

/-- A character at which a word of a command may end. -/
def outside (l : Lexer) (c : Char) : Lexer :=
  if c = ' ' ∨ c = '\t' then l.endWord false
  else if c = '\n' then l.newline
  else if operators.contains [c] then (l.endWord (c = '<' || c = '>')).goto (.operator [c])
  else l.char .bare c

def within (l : Lexer) (a : Around) (c : Char) : Lexer :=
  if a = .bare then l.outside c else l.char a c

def atBlank (l : Lexer) (c : Char) : Lexer := if c = '#' then l.goto .comment else l.outside c

/-- Where to go on after what left no character. -/
def resting (l : Lexer) (a : Around) : Mode :=
  if a = .bare ∧ l.parts.isEmpty then .blank else .text a

/-- What a backslash keeps from being special within quotation marks. -/
def isKept (a : Around) (c : Char) : Bool :=
  c = '$' || c = '\\' || c = backquote || (c = '"' && a != .here)

/-- The name at the start of a text. -/
def nameOf (t : Text) : Text :=
  match t with
  | [] => []
  | c :: _ =>
    if isNameStart c then t.takeWhile isNameChar
    else if c.isDigit then t.takeWhile Char.isDigit
    else if isSpecial c then [c]
    else []

def missing? (c : Char) : Option Missing :=
  match c with
  | '-' => some .other
  | '=' => some .assign
  | '?' => some .fail
  | '+' => some .instead
  | _ => none

def use? : Text → Option Use
  | [] => some .value
  | '%' :: '%' :: p => some (.without true true p)
  | '%' :: p => some (.without true false p)
  | '#' :: '#' :: p => some (.without false true p)
  | '#' :: p => some (.without false false p)
  | ':' :: c :: more => (missing? c).map (.ifMissing · true more)
  | c :: more => (missing? c).map (.ifMissing · false more)

/-- What stands in braces: a parameter and what is made of it. -/
def param? (t : Text) : Option (Text × Use) :=
  match t with
  | '#' :: c :: cs =>
    if nameOf (c :: cs) = c :: cs then some (c :: cs, .length) else (use? (c :: cs)).map (['#'], ·)
  | t =>
    match nameOf t with
    | [] => none
    | n => (use? (t.drop n.length)).map (n, ·)

/-- The commands that stand in backquotes. -/
def unquoted (a : Around) : Text → Text
  | '\\' :: c :: cs =>
    if isKept (if a.isQuoted then a else .here) c then c :: unquoted a cs
    else '\\' :: c :: unquoted a cs
  | c :: cs => c :: unquoted a cs
  | [] => []

/-- What has been enclosed is a part of the word. -/
def close (l : Lexer) (a : Around) (e : Enclosure) (t : Text) : Lexer :=
  let put := fun p => (l.add p).goto (.text a)
  match e with
  | .backquotes => put (.output (unquoted a t) 1 a.isQuoted)
  | .parens =>
    if t.head? ≠ some '(' then put (.output t (l.line - t.count '\n') a.isQuoted)
    else if t.getLast? = some ')' then put (.sum (t.drop 1).dropLast a.isQuoted)
    else l.goto (.broken "Syntax error: Missing '))'".toList)
  | .braces =>
    match param? t with
    | some (n, u) => put (.param n u a.isQuoted)
    | none => l.goto (.broken "Bad substitution".toList)

/-- What closes a mark that opens within another one. The end of a line closes a comment. -/
def closer? (outer : Char) (plainQuotes afterDollar : Bool) (c : Char) : Option Char :=
  if outer = backquote ∨ outer = '\n' then none
  else if c = backquote then some backquote
  else if afterDollar ∧ c = '(' then some ')'
  else if afterDollar ∧ c = '\x7b' then some '\x7d'
  else if outer = '"' then none
  else if c = '"' then some '"'
  else if c = '\'' ∧ !plainQuotes then some '\''
  else if c = '(' ∧ outer = ')' then some ')'
  else none

/-- Whether a word in the place of a command leaves the next one there. -/
def leads (w : Text) : Bool :=
  ["then".toList, "do".toList, "else".toList, "elif".toList, "if".toList, "while".toList,
    "until".toList, ['!'], ['\x7b']].contains w

/-- How many choices among patterns some commands leave open. The flag tells whether a command can be
next. -/
def openChoices (first : Bool) (word : Text) (count : Nat) : Text → Nat
  | [] => ended word
  | c :: cs =>
    if c = ' ' ∨ c = '\t' then
      openChoices (first && (word.isEmpty || leads word.reverse)) [] (ended word) cs
    else if ";&|()\n".toList.contains c then openChoices true [] (ended word) cs
    else openChoices first (c :: word) count cs
where
  ended (word : Text) : Nat :=
    if first && word.reverse = "case".toList then count + 1
    else if first && word.reverse = "esac".toList then count - 1
    else count

def enclose (l : Lexer) (a : Around) (e : Enclosure) (closers : Text) (escaped : Bool) (seen : Text)
    (c : Char) : Lexer :=
  let on := fun closers escaped => l.goto (.enclosed a e closers escaped (c :: seen))
  match escaped, closers with
  | true, _ => on closers false
  | false, [] => l
  | false, outer :: rest =>
    if c = outer then
      if !rest.isEmpty then on rest false
      else if e = .parens && seen.getLast? ≠ some '(' && 0 < openChoices true [] 0 seen.reverse then
        on closers false
      else l.close a e seen.reverse
    else if outer = '\'' ∨ outer = '\n' then on closers false
    else if c = '\\' then on closers true
    else if c = '#' ∧ outer = ')' ∧ seen.getLast? ≠ some '(' ∧ (seen.head?.map " \t\n;&|(".toList.contains).getD true then
      on ('\n' :: closers) false
    else
      let plainQuotes := a.isQuoted && e = .braces && rest.isEmpty
      match closer? outer plainQuotes (seen.head? = some '$') c with
      | some d => on (d :: closers) false
      | none => on closers false

/-- The end of a line of a text that follows a command. -/
def endLine (l : Lexer) (line seen : Text) (ending : Text) : Lexer :=
  match l.due with
  | [] => l.goto .blank
  | d :: due =>
    let t := if d.indented then line.reverse.dropWhile (· = '\t') else line.reverse
    if t = d.line then
      let w := if d.quoted then seen.reverse.map (.char · true) else [.here seen.reverse]
      { l with mode := if due.isEmpty then .blank else .body [] [], due := due, texts := w :: l.texts }
    else l.goto (.body [] (ending ++ t.reverse ++ seen))

def advance (l : Lexer) (c : Char) : Lexer :=
  match l.mode with
  | .blank => l.atBlank c
  | .text a => l.within a c
  | .single inBraces =>
    if c = '\'' then l.goto (.text (if inBraces then .braced else .bare)) else l.add (.char c true)
  | .escape a =>
    if c = '\n' then l.goto (l.resting a)
    else if a.isQuoted ∧ !isKept a c then
      ((l.add (.char '\\' true)).add (.char c true)).goto (.text a)
    else (l.add (.char c true)).goto (.text a)
  | .dollar a =>
    if isNameStart c then l.goto (.name a [c])
    else if isSpecial c then (l.add (.param [c] .value a.isQuoted)).goto (.text a)
    else if c = '\x7b' then l.goto (.enclosed a .braces ['\x7d'] false [])
    else if c = '(' then l.goto (.enclosed a .parens [')'] false [])
    else ((l.add (.char '$' a.isQuoted)).goto (.text a)).within a c
  | .name a seen =>
    if isNameChar c then l.goto (.name a (c :: seen))
    else ((l.add (.param seen.reverse .value a.isQuoted)).goto (.text a)).within a c
  | .enclosed a e closers escaped seen => l.enclose a e closers escaped seen c
  | .operator t =>
    if operators.contains (t ++ [c]) then l.goto (.operator (t ++ [c]))
    else ((l.emit (.op t)).goto .blank).atBlank c
  | .comment => if c = '\n' then l.newline else l
  | .body line seen =>
    if c = '\n' then l.endLine line seen ['\n'] else l.goto (.body (c :: line) seen)
  | .broken _ => l

def isBroken (l : Lexer) : Bool :=
  match l.mode with
  | .broken _ => true
  | _ => false

def step (l : Lexer) (c : Char) : Lexer :=
  let m := l.advance c
  if c = '\n' && !l.isBroken then { m with line := l.line + 1 } else m

/-- Ends what the end of a text ends. -/
def flush (l : Lexer) : Lexer :=
  match l.mode with
  | .escape a => (l.add (.char '\\' true)).goto (.text a)
  | .dollar a => (l.add (.char '$' a.isQuoted)).goto (.text a)
  | .name a seen => (l.add (.param seen.reverse .value a.isQuoted)).goto (.text a)
  | .operator t => (l.emit (.op t)).goto .blank
  | .body line seen =>
    let l := l.endLine line seen []
    match l.mode, l.due with
    | .body _ seen, d :: _ => (l.goto (.body [] seen)).endLine d.line.reverse seen []
    | _, _ => l
  | _ => l

/-- The texts that follow commands in the places of the words that end them. -/
def placed : List Token → List Word → List Token
  | ⟨.op o, i, f⟩ :: ⟨.word w, j, g⟩ :: ts, texts =>
    if o = hereOp ∨ o = indentedOp then
      ⟨.op hereOp, i, f⟩ :: ⟨.word ((texts.head?).getD []), j, g⟩ :: placed ts (texts.drop 1)
    else ⟨.op o, i, f⟩ :: placed (⟨.word w, j, g⟩ :: ts) texts
  | t :: ts, texts => t :: placed ts texts
  | [], _ => []

/-- What is wrong where a text ends too early. -/
def fault? : Mode → Option Text
  | .blank | .comment | .body .. | .text .bare => none
  | .broken why => some why
  | .enclosed _ .braces .. => some "Syntax error: Missing '\x7d'".toList
  | .enclosed _ .backquotes .. => some "Syntax error: EOF in backquote substitution".toList
  | .enclosed _ .parens _ _ seen =>
    if seen.getLast? = some '(' then some "Syntax error: Missing '))'".toList
    else some "Syntax error: end of file unexpected (expecting \")\")".toList
  | _ => some "Syntax error: Unterminated quoted string".toList

def finish (l : Lexer) : List Token :=
  let l := l.flush
  let l := match fault? l.mode with
    | some why => l.emit (.broken why)
    | none => l.endWord false
  placed (l.emit .ending).tokens.reverse l.texts.reverse

end Lexer

/-- A word that gives a variable a value. -/
def assignment? (w : Word) : Option (Text × Word) :=
  let name := w.takeWhile fun p => match p with
    | .char c false => Lexer.isNameChar c
    | _ => false
  match plain? name, w.drop name.length with
  | some n, .char '=' false :: value => if Lexer.isName n then some (n, value) else none
  | _, _ => none

/-- The tokens of a text. -/
def tokens (line : Nat) (t : Text) : List Token := (t.foldl Lexer.step (Lexer.start line)).finish

/-- The word that a text is in which nothing ends a word. -/
def Word.ofText? (a : Around) (t : Text) : Option Word :=
  let l := (t.foldl Lexer.step ((Lexer.start 1).goto (.text a))).flush
  match l.mode with
  | .text b => if b = a then some l.parts.reverse else none
  | _ => none

end Guidebook.Shell
