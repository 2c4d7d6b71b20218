import Guidebook.Shell.Script

namespace Guidebook.Shell

namespace Script

def redirectSort? (op : Text) : Option (Nat × RedirectSort) :=
  if op = ">".toList then some (1, .write)
  else if op = ">|".toList then some (1, .force)
  else if op = ">>".toList then some (1, .append)
  else if op = "<".toList then some (0, .read)
  else if op = "<>".toList then some (0, .both)
  else if op = Lexer.hereOp then some (0, .here)
  else if op = ">&".toList then some (1, .duplicate)
  else if op = "<&".toList then some (0, .duplicate)
  else none

/-- What is wrong with a text, and on which line. -/
structure SyntaxFault where
  line : Nat
  why : Text
  deriving DecidableEq, Repr

/-- The tokens that there are, and what words in the place of a command stand for. -/
structure Source where
  tokens : List Token
  aliases : List (Text × Text)

/-- What takes tokens from the start of those that there are. -/
abbrev Reading (α : Type) := StateT Source (Except SyntaxFault) α

namespace Reading

def next : Reading TokenSort := do
  return ((← get).tokens.head?.map (·.sort)).getD .ending

def line : Reading Nat := do
  return ((← get).tokens.head?.map (·.line)).getD 1

def count : Reading Nat := do return (← get).tokens.length

def take : Reading Unit := modify fun s => { s with tokens := s.tokens.drop 1 }

/-- A word in which nothing is quoted. -/
def plainNext? : Reading (Option Text) := do
  match ← next with
  | .word w => return plain? w
  | _ => return none

def isOp (t : String) : Reading Bool := do return (← next) = .op t.toList

def isWord (t : String) : Reading Bool := do return (← plainNext?) = some t.toList

def skipLines : Reading Unit :=
  modify fun s => { s with tokens := s.tokens.dropWhile (·.sort = .op ['\n']) }

def fail (why : Text) : Reading α := do throw ⟨← line, why⟩

/-- Words that are no commands of their own where a command can be. -/
def keywords : List Text :=
  [['!'], "case".toList, "do".toList, "done".toList, "elif".toList, "else".toList, "esac".toList,
   "fi".toList, "for".toList, "if".toList, "in".toList, "then".toList, "until".toList,
   "while".toList, ['\x7b'], ['\x7d']]

def quoted (t : Text) : Text := '"' :: t ++ ['"']

/-- What a token is called. The flag tells whether keywords count. -/
def nameOf (asKeyword : Bool) : TokenSort → Text
  | .word w =>
    match (plain? w).filter fun t => asKeyword && keywords.contains t with
    | some t => quoted t
    | none => "word".toList
  | .number _ => "redirection".toList
  | .op t =>
    if t = ['\n'] then "newline".toList
    else if (redirectSort? t).isSome then "redirection".toList
    else quoted t
  | .broken _ | .ending => "end of file".toList

/-- The next token does not fit; perhaps it is clear what would. -/
def unexpected (asKeyword : Bool) (wanted : Option Text) : Reading α := do
  match ← next with
  | .broken why => fail why
  | t =>
    let hint := match wanted with
      | none => []
      | some w => " (expecting ".toList ++ w ++ [')']
    fail ("Syntax error: ".toList ++ nameOf asKeyword t ++ " unexpected".toList ++ hint)

/-- The tokens of what a word stands for in the place of that word, as long as it does not come from the
same word. If it ends in a blank, the next word may stand for something, too. -/
def unfolded (aliases : List (Text × Text)) : Nat → List Token → List Token
  | n + 1, ⟨.word w, line, origin⟩ :: ts =>
    match (plain? w).filter fun t => !keywords.contains t && !origin.contains t with
    | none => ⟨.word w, line, origin⟩ :: ts
    | some t =>
      match aliases.lookup t with
      | none => ⟨.word w, line, origin⟩ :: ts
      | some v =>
        let inner := ((Guidebook.Shell.tokens line v).filter (·.sort ≠ .ending)).map fun k =>
          { k with line := line, origin := t :: origin }
        let opens := (v.getLast?.map fun c => c = ' ' || c = '\t').getD false
        unfolded aliases n (inner ++ if opens then unfolded aliases n ts else ts)
  | _, ts => ts

def unfoldNext : Reading Unit := modify fun s =>
  if s.aliases.isEmpty then s
  else { s with tokens := unfolded s.aliases (s.aliases.length + s.tokens.length + 1) s.tokens }

def expectWord (t : String) : Reading Unit := do
  if ← isWord t then take else unexpected true (some (quoted t.toList))

def expectOp (asKeyword : Bool) (t : String) : Reading Unit := do
  if ← isOp t then take else unexpected asKeyword (some (quoted t.toList))

end Reading

/-- What a simple command is made of, newest first. -/
structure Simple where
  line : Nat
  assigned : List (Text × Word)
  words : List Word
  redirects : List Redirect

namespace Simple

def script (s : Simple) : Script := .simple s.line s.assigned.reverse s.words.reverse s.redirects.reverse

/-- A word counts as an assignment as long as no other has come before. -/
def add (s : Simple) (w : Word) : Simple :=
  match s.words, assignment? w with
  | [], some a => { s with assigned := a :: s.assigned }
  | _, _ => { s with words := w :: s.words }

def isEmpty (s : Simple) : Bool := s.assigned.isEmpty && s.words.isEmpty && s.redirects.isEmpty

/-- The name of the function that begins so. -/
def name? (s : Simple) : Option Word :=
  match s.assigned, s.words, s.redirects with
  | [], [w], [] => some w
  | _, _, _ => none

end Simple

open Reading

/-- A redirection, if there is one. -/
def redirect? : Reading (Option Redirect) := do
  let stream? ← match ← next with
    | .number n => do take; pure (some n)
    | _ => pure none
  match ← next with
  | .op o =>
    match redirectSort? o with
    | none => return none
    | some (usual, sort) =>
      take
      match ← next with
      | .word w =>
        take
        return some ⟨stream?.getD usual, sort, w⟩
      | _ => unexpected false none
  | _ => return none

def redirects : Nat → Reading (List Redirect)
  | 0 => return []
  | n + 1 => do
    match ← redirect? with
    | none => return []
    | some r => return r :: (← redirects n)

/-- What a simple command is made of, up to what ends it. -/
def simpleFrom : Nat → Simple → Reading Simple
  | 0, s => return s
  | n + 1, s => do
    if s.words.isEmpty then unfoldNext
    match ← redirect? with
    | some r => simpleFrom n { s with redirects := r :: s.redirects }
    | none =>
      match ← next with
      | .word w => do
        take
        simpleFrom n (s.add w)
      | _ => return s

/-- The words up to the end of a line. -/
def wordsFrom : Nat → Reading (List Word)
  | 0 => return []
  | n + 1 => do
    match ← next with
    | .word w => do
      take
      return w :: (← wordsFrom n)
    | _ => return []

/-- The patterns in front of what is done for them. -/
def patternsFrom : Nat → Reading (List Word)
  | 0 => unexpected true none
  | n + 1 => do
    match ← next with
    | .word w => do
      take
      if ← isOp "|" then do
        take
        return w :: (← patternsFrom n)
      else do
        expectOp false ")"
        return [w]
    | .ending | .broken _ => unexpected true (some (quoted [')']))
    | _ => do
      take
      unexpected true (some (quoted [')']))

/-- All the arguments that there are. -/
def everyArgument : List Word := [[.param ['@'] .value true]]

/-- What a loop goes through, in front of its body. -/
def itemsFrom (n : Nat) : Reading (List Word) := do
  let before ← get
  skipLines
  if ← isWord "in" then do
    take
    let ws ← wordsFrom n
    if ← isOp ";" then take
    else if !(← isOp "\n") then unexpected false none
    return ws
  else do
    set before
    if ← isOp ";" then take
    return everyArgument

def inTurn (a b : Script) : Script :=
  match b with
  | .skip => a
  | b => .andThen a b

/-- Whether the next token ends commands that stand in others. -/
def endsList : Reading Bool := do
  match ← next with
  | .op o => return o = [')'] || o = ";;".toList
  | .word w =>
    return ((plain? w).map fun t => ["then".toList, "elif".toList, "else".toList, "fi".toList,
      "do".toList, "done".toList, "esac".toList, ['\x7d']].contains t).getD false
  | _ => return false

def atEnd : Reading Bool := do return (← next) = .ending

/-- Commands that no function takes the name of. -/
def specials : List Text :=
  ["break".toList, "continue".toList, "eval".toList, "exec".toList, "exit".toList, "export".toList,
   "local".toList, "readonly".toList, "return".toList, "set".toList, "shift".toList, "times".toList,
   "trap".toList, "unset".toList]

mutual

/-- Commands up to what ends those that stand in others. There may be none where that is said. -/
def list : Nat → Bool → Reading Script
  | 0, _ => unexpected true none
  | n + 1, emptyAllowed => do
    skipLines
    unfoldNext
    if ← atEnd then return .skip
    else if emptyAllowed && (← endsList) then return .skip
    else do
      let a ← andOr n
      if ← isOp "&" then do
        take
        return inTurn (.background a) (← list n true)
      else if (← isOp ";") || (← isOp "\n") then do
        take
        return inTurn a (← list n true)
      else return a

def andOr : Nat → Reading Script
  | 0 => unexpected true none
  | n + 1 => do more n (← pipeline n)

def more : Nat → Script → Reading Script
  | 0, _ => unexpected true none
  | n + 1, a => do
    if ← isOp "&&" then do
      take
      skipLines
      more n (.ifOk a (← pipeline n))
    else if ← isOp "||" then do
      take
      skipLines
      more n (.ifFailed a (← pipeline n))
    else return a

def pipeline : Nat → Reading Script
  | 0 => unexpected true none
  | n + 1 => do
    if ← isWord "!" then do
      take
      return .negate (← piped n)
    else piped n

def piped : Nat → Reading Script
  | 0 => unexpected true none
  | n + 1 => do
    let a ← command n
    if ← isOp "|" then do
      take
      skipLines
      return .pipe a (← piped n)
    else return a

def command : Nat → Reading Script
  | 0 => unexpected true none
  | n + 1 => do
    unfoldNext
    let line ← line
    let withRedirects := fun (s : Script) => do
      let rs ← redirects (n + 1)
      return if rs.isEmpty then s else .redirected line s rs
    if ← isOp "(" then do
      take
      let a ← list n false
      expectOp true ")"
      withRedirects (.apart a)
    else match (← plainNext?).map String.ofList with
      | some "\x7b" => do
        take
        let body ← block n "\x7d"
        let rs ← redirects (n + 1)
        return if rs.isEmpty then body else match body with
          | .redirected _ (.apart a) _ | .apart a => .redirected line (.apart a) rs
          | a => .redirected line a rs
      | some "if" => do
        take
        withRedirects (← choiceFrom n)
      | some "while" => do
        take
        withRedirects (.loop true (← block n "do") (← block n "done"))
      | some "until" => do
        take
        withRedirects (.loop false (← block n "do") (← block n "done"))
      | some "for" => do
        take
        withRedirects (← loopFor n)
      | some "case" => do
        take
        match ← next with
        | .word w => do
          take
          skipLines
          expectWord "in"
          withRedirects (.select w (← armsFrom n))
        | _ => unexpected true (some "word".toList)
      | _ => simpleOrFunction n

/-- A function begins like a simple command. -/
def simpleOrFunction : Nat → Reading Script
  | 0 => unexpected true none
  | n + 1 => do
    if (← endsList) || (← isWord "!") || (← isWord "in") then unexpected true none
    let line ← line
    let s ← simpleFrom (1000 * (← count) + 1000) ⟨line, [], [], []⟩
    match s.name?, ← isOp "(" with
    | some w, true => do
      take
      expectOp false ")"
      match (plain? w).filter fun t => Lexer.isName t && !specials.contains t with
      | none => fail "Syntax error: Bad function name".toList
      | some name => do
        skipLines
        return .define name (← command n)
    | _, _ =>
      if s.isEmpty then unexpected true none else return s.script

/-- Commands in front of a word. -/
def block : Nat → String → Reading Script
  | 0, _ => unexpected true none
  | n + 1, closing => do
    let a ← list n false
    expectWord closing
    return a

def loopFor : Nat → Reading Script
  | 0 => unexpected true none
  | n + 1 => do
    match (← plainNext?).filter Lexer.isName with
    | none => fail "Syntax error: Bad for loop variable".toList
    | some name => do
      take
      let ws ← itemsFrom (← count)
      skipLines
      expectWord "do"
      return .forEach name ws (← block n "done")

def choiceFrom : Nat → Reading Script
  | 0 => unexpected true none
  | n + 1 => do
    let test ← block n "then"
    let yes ← list n false
    if ← isWord "elif" then do
      take
      return .choice test yes (← choiceFrom n)
    else if ← isWord "else" then do
      take
      return .choice test yes (← block n "fi")
    else do
      expectWord "fi"
      return .choice test yes .skip

/-- What is done for patterns, up to the end of all. -/
def armsFrom : Nat → Reading Arms
  | 0 => unexpected true none
  | n + 1 => do
    skipLines
    if ← isWord "esac" then do
      take
      return .nil
    else do
      if ← isOp "(" then take
      let ps ← patternsFrom (← count)
      let a ← list n true
      if ← isWord "esac" then do
        take
        return .cons ps a .nil
      else do
        expectOp true ";;"
        return .cons ps a (← armsFrom n)

end

/-- The commands of the next line; none if there are no more lines. -/
def lineFrom : Nat → Reading Script
  | 0 => unexpected true none
  | n + 1 => do
    let a ← andOr (1000 * (← count) + 1000)
    let more : Reading Script := do
      if (← isOp "\n") || (← atEnd) then return .skip else lineFrom n
    if ← isOp "&" then do
      take
      return inTurn (.background a) (← more)
    else if ← isOp ";" then do
      take
      return inTurn a (← more)
    else if (← isOp "\n") || (← atEnd) then return a
    else unexpected true none

def line? : Reading (Option Script) := do
  skipLines
  if ← atEnd then return none else return some (← lineFrom (1000 * (← count) + 1000))

end Script

end Guidebook.Shell
