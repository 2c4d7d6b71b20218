import Guidebook.Shell.Row.Word

namespace Guidebook.Shell.Row

/-- Reads words one after the other. -/
abbrev Parse (α : Type) := StateT (List Placed) (Except Fault) α

namespace Parse

/-- Where an expression stands: in front of `in` within the head of a loop, or behind `print`, where some signs
tell where to print. -/
structure Around where
  inLoop : Bool
  printed : Bool

def Around.usual : Around := ⟨false, false⟩

def peek : Parse (Option Word) := do return ((← get).head?).map (·.word)

def advance : Parse Unit := modify (·.drop 1)

def fail (lastLine : Nat) : Parse α := do
  match (← get).head? with
  | some w => throw ⟨w.line, w.word.shown⟩
  | none => throw ⟨lastLine, .openBrace⟩

def isSign (s : String) : Option Word → Bool
  | some (.sign t) => t = s.toList
  | _ => false

def isKey (s : String) : Option Word → Bool
  | some (.key t) => t = s.toList
  | _ => false

def accept (s : String) : Parse Bool := do
  if isSign s (← peek) then do advance; return true else return false

def acceptKey (s : String) : Parse Bool := do
  if isKey s (← peek) then do advance; return true else return false

def expect (last : Nat) (s : String) : Parse Unit := do
  if ← accept s then return () else fail last

def skipLines : Parse Unit := modify (·.dropWhile fun p => match p.word with
  | .newline => true
  | _ => false)

/-- Line ends and semicolons. -/
def skipEnds : Parse Unit := modify (·.dropWhile fun p => match p.word with
  | .newline => true
  | .sign t => t = [';']
  | _ => false)

/-- One thing after the other with signs between them, from left to right. -/
def chain (sub : Parse Expr) (op? : Word → Option (Expr → Expr → Expr)) : Nat → Expr → Parse Expr
  | 0, a => return a
  | n + 1, a => do
    match (← peek).bind op? with
    | none => return a
    | some f => do
      advance
      skipLines
      let b ← sub
      chain sub op? n (f a b)

def signed (ops : List (String × (Expr → Expr → Expr))) : Word → Option (Expr → Expr → Expr)
  | .sign t => (ops.find? (·.1.toList = t)).map (·.2)
  | _ => none

def products : Word → Option (Expr → Expr → Expr) :=
  signed [("*", .calc .mul), ("/", .calc .div), ("%", .calc .rest)]

def sums : Word → Option (Expr → Expr → Expr) := signed [("+", .calc .add), ("-", .calc .sub)]

def relations (c : Around) : Word → Option (Expr → Expr → Expr) :=
  signed ([("<", .relate .lt), ("<=", .relate .le), ("==", .relate .eq), ("!=", .relate .ne), (">=", .relate .ge)] ++
    if c.printed then [] else [(">", .relate .gt)])

def fittings : Word → Option (Expr → Expr → Expr) := signed [("~", .fits true), ("!~", .fits false)]

def calcs : List (String × Option Calc) :=
  [("=", none), ("+=", some .add), ("-=", some .sub), ("*=", some .mul), ("/=", some .div), ("%=", some .rest),
   ("^=", some .power)]

def assignment? : Option Word → Option (Option Calc)
  | some (.sign t) => (calcs.find? (·.1.toList = t)).map (·.2)
  | _ => none

/-- Whether a word may begin something that is joined to what stands before it. -/
def joins (c : Around) : Option Word → Bool
  | some w => match w with
    | .number _ | .text _ | .pattern _ | .name _ | .caller _ | .helper _ => true
    | .sign t => [['('], ['$'], ['!'], ['+', '+'], ['-', '-']].contains t
    | .key _ => false
    | .newline => false
  | none => false && c.printed

def joinRest (sub : Parse Expr) (c : Around) : Nat → Expr → Parse Expr
  | 0, a => return a
  | n + 1, a => do
    if joins c (← peek) then do
      let b ← sub
      joinRest sub c n (.join a b)
    else return a

def amongRest (c : Around) (last : Nat) : Nat → Expr → Parse Expr
  | 0, a => return a
  | n + 1, a => do
    if !c.inLoop && isKey "in" (← peek) then do
      advance
      match ← peek with
      | some (.name t) => do
        advance
        amongRest c last n (.among (.cons a .nil) t)
      | _ => fail last
    else return a

/-- Things with commas between them. -/
def commas (sub : Parse Expr) : Nat → Parse (List Expr)
  | 0 => return []
  | n + 1 => do
    let a ← sub
    if ← accept "," then do
      skipLines
      return a :: (← commas sub n)
    else return [a]

def checkCount (line : Nat) (h : Helper) (args : List Expr) : Parse Unit := do
  let allowed := Word.counts h
  if allowed.isEmpty && !args.isEmpty || allowed.contains args.length then return ()
  else throw ⟨line, .wrongCount (((Word.helpers.find? (·.2 = h)).map (·.1)).getD [])⟩

def line (last : Nat) : Parse Nat := do return (((← get).head?).map (·.line)).getD last

/-- Who takes a row from a command that stands before it. -/
def takers (place : Parse (Option Expr)) : Nat → Expr → Parse Expr
  | 0, a => return a
  | n + 1, a => do
    match ← get with
    | ⟨.sign ['|'], _⟩ :: ⟨.key k, _⟩ :: _ =>
      if k = "getline".toList then do
        advance
        advance
        let goal ← place
        takers place n (.takeCommand a (.ofList goal.toList))
      else return a
    | _ => return a

mutual

def expr (last : Nat) : Nat → Around → Parse Expr
  | 0, _ => fail last
  | n + 1, c => do
    let u := unary last n c
    let product := do chain u products n (← u)
    let sum := do chain product sums n (← product)
    let joined := do joinRest sum c n (← sum)
    let related := do chain joined (relations c) n (← joined)
    let fitted := do chain related fittings n (← related)
    let among := do amongRest c last n (← fitted)
    let both := do chain among (signed [("&&", .and)]) n (← among)
    let a ← chain both (signed [("||", .or)]) n (← both)
    if ← accept "?" then do
      skipLines
      let b ← expr last n c
      skipLines
      expect last ":"
      skipLines
      return .choice a b (← expr last n c)
    else return a

/-- Something with signs before it. -/
def unary (last : Nat) : Nat → Around → Parse Expr
  | 0, _ => fail last
  | n + 1, c => do
    if ← accept "!" then return .not (← unary last n c)
    else if ← accept "-" then return .minus (← unary last n c)
    else if ← accept "+" then return .plus (← unary last n c)
    else do
      let a ← stepped last n c
      if ← accept "^" then return .calc .power a (← unary last n c) else return a

/-- Something that may be given a value here. -/
def stepped (last : Nat) : Nat → Around → Parse Expr
  | 0, _ => fail last
  | n + 1, c => do
    let before := (isSign "++" (← peek), isSign "--" (← peek))
    if before.1 || before.2 then do
      advance
      return .step (← primary last n c) before.1 true
    else do
      let a ← primary last n c
      let b ← if a.isPlace then
          if ← accept "++" then pure (Expr.step a true false)
          else if ← accept "--" then pure (Expr.step a false false)
          else match assignment? (← peek) with
            | some op => do
              advance
              skipLines
              pure (Expr.assign a op (← expr last n c))
            | none => pure a
        else pure a
      takers (place? last n c) n b

/-- Where a row is put that is taken, if that is said. -/
def place? (last : Nat) : Nat → Around → Parse (Option Expr)
  | 0, _ => fail last
  | n + 1, c => do
    match ← peek with
    | some (.name _) => return some (← primary last n c)
    | some (.sign ['$']) => return some (← primary last n c)
    | _ => return none

def primary (last : Nat) : Nat → Around → Parse Expr
  | 0, _ => fail last
  | n + 1, c => do
    match ← peek with
    | some (.number x) => do advance; return .number x
    | some (.text t) => do advance; return .text t
    | some (.pattern t) => do advance; return .pattern (patternOf t)
    | some (.name t) => do
      advance
      if ← accept "[" then do
        let key ← commas (expr last n .usual) n
        expect last "]"
        return .cell t (.ofList key)
      else return .var t
    | some (.caller t) => do
      advance
      advance
      return .call t (.ofList (← arguments last n))
    | some (.helper h) => do
      let l ← line last
      advance
      let args ← if ← accept "(" then arguments last n else pure []
      checkCount l h args
      return .help h (.ofList args)
    | some (.key k) =>
      if k = "getline".toList then do
        advance
        let goal := Exprs.ofList (← place? last n c).toList
        if ← accept "<" then return .takeFile (← primary last n c) goal else return .take goal
      else fail last
    | some (.sign ['$']) => do
      advance
      let up := isSign "++" (← peek)
      if up || isSign "--" (← peek) then do
        advance
        return .field (.step (← primary last n c) up true)
      else if ← accept "-" then return .field (.minus (← primary last n c))
      else return .field (← primary last n c)
    | some (.sign ['-']) => do advance; return .minus (← unary last n c)
    | some (.sign ['+']) => do advance; return .plus (← unary last n c)
    | some (.sign ['!']) => do advance; return .not (← unary last n c)
    | some (.sign ['(']) => do
      advance
      skipLines
      let es ← commas (expr last n .usual) n
      skipLines
      expect last ")"
      match es with
      | [e] => return e
      | es =>
        if ← acceptKey "in" then
          match ← peek with
          | some (.name t) => do advance; return .among (.ofList es) t
          | _ => fail last
        else fail last
    | _ => fail last

/-- The arguments of a function up to their end. -/
def arguments (last : Nat) : Nat → Parse (List Expr)
  | 0 => fail last
  | n + 1 => do
    skipLines
    if ← accept ")" then return []
    else do
      let es ← commas (expr last n .usual) n
      skipLines
      expect last ")"
      return es

end

end Parse

end Guidebook.Shell.Row
