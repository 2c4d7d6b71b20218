import Guidebook.Shell.Row.Grammar

namespace Guidebook.Shell.Row

namespace Parse

/-- Where a statement stands: within a function, within a loop, or for rows. -/
structure Place where
  inFunction : Bool
  inLoop : Bool
  forRows : Bool

/-- The end of a statement: a line end, a semicolon, or a brace to come. -/
def ending (last : Nat) : Parse Unit := do
  match ← peek with
  | some .newline => advance
  | some (.sign [';']) => advance
  | some (.sign ['\x7d']) => return ()
  | none => return ()
  | _ => fail last

def atEnding : Parse Bool := do
  match ← peek with
  | some .newline | none => return true
  | some (.sign t) => return t = [';'] || t = ['\x7d']
  | _ => return false

/-- Something that may not be there. -/
def optional (sub : Parse Expr) : Parse (Option Expr) := do
  if ← atEnding then return none else return some (← sub)

/-- Where to print to. -/
def way? (last fuel : Nat) : Parse (Option (Way × Expr)) := do
  let goal := expr last fuel ⟨false, true⟩
  if ← accept ">" then return some (.file, ← goal)
  else if ← accept ">>" then return some (.added, ← goal)
  else if ← accept "|" then return some (.command, ← goal)
  else return none

def endsPrint : Option Word → Bool
  | none | some .newline => true
  | some (.sign t) => [[';'], ['\x7d'], ['>'], ['>', '>'], ['|']].contains t
  | _ => false

/-- What is printed, which may stand in parentheses as a whole. -/
def printed (last fuel : Nat) : Parse (List Expr) := do
  let start ← get
  let plain : Parse (List Expr) := do
    if endsPrint (← peek) then return [] else commas (expr last fuel ⟨false, true⟩) fuel
  let whole : Parse (Option (List Expr)) := do
    if ← accept "(" then do
      let es ← arguments last fuel
      return if endsPrint (← peek) then some es else none
    else return none
  match whole.run start with
  | .ok (some es, rest) => do set rest; return es
  | _ => plain

def printing (last fuel : Nat) (formatted : Bool) : Parse Action := do
  let l ← line last
  let es ← printed last fuel
  if formatted && es.isEmpty then throw ⟨l, .wrongCount "printf".toList⟩
  let way ← way? last fuel
  ending last
  return .print formatted (.ofList es) way

/-- A key among signs in front of which there may be line ends. -/
def laterKey (s : String) : Parse Bool := do
  let start ← get
  skipEnds
  if ← acceptKey s then return true
  else do
    set start
    return false

/-- The head of a loop over the keys of a table. -/
def keysHead? : List Placed → Option (Text × Text × List Placed)
  | ⟨.name a, _⟩ :: ⟨.key k, _⟩ :: ⟨.name b, _⟩ :: ⟨.sign [')'], _⟩ :: rest =>
    if k = "in".toList then some (a, b, rest) else none
  | _ => none

mutual

def statement (last : Nat) : Nat → Place → Parse Action
  | 0, _ => fail last
  | n + 1, p => do
    let value := expr last n .usual
    let body := do skipLines; statement last n { p with inLoop := true }
    let l ← line last
    match ← peek with
    | some (.sign ['\x7b']) => block last n p
    | some (.sign [';']) => do advance; return .skip
    | some .newline => do advance; return .skip
    | some (.key k) =>
      let isKey := fun (s : String) => k = s.toList
      if isKey "if" then do
        advance
        expect last "("
        let test ← value
        expect last ")"
        skipLines
        let yes ← statement last n p
        if ← laterKey "else" then do
          skipLines
          return .choice test yes (← statement last n p)
        else return .choice test yes .skip
      else if isKey "while" then do
        advance
        expect last "("
        let test ← value
        expect last ")"
        if ← accept ";" then return .loop true test .skip .skip
        else return .loop true test .skip (← body)
      else if isKey "do" then do
        advance
        let a ← body
        if ← laterKey "while" then do
          expect last "("
          let test ← value
          expect last ")"
          ending last
          return .loop false test .skip a
        else fail last
      else if isKey "for" then do
        advance
        expect last "("
        match keysHead? (← get) with
        | some (a, b, rest) => do
          set rest
          return .forKeys a b (← body)
        | none => do
          let begin ← if isSign ";" (← peek) then pure Action.skip else do pure (.eval (← expr last n ⟨true, false⟩))
          expect last ";"
          skipLines
          let test ← if isSign ";" (← peek) then pure (Expr.number 1.0) else value
          expect last ";"
          skipLines
          let step ← if isSign ")" (← peek) then pure Action.skip else do pure (.eval (← value))
          expect last ")"
          if ← accept ";" then return .andThen begin (.loop true test step .skip)
          else return .andThen begin (.loop true test step (← body))
      else if isKey "break" || isKey "continue" then do
        advance
        if !p.inLoop then throw ⟨l, .strayLeave k⟩
        ending last
        return if isKey "break" then .leave else .again
      else if isKey "next" || isKey "nextfile" then do
        advance
        if !p.forRows then throw ⟨l, .strayNext k⟩
        ending last
        return if isKey "next" then .next else .nextFile
      else if isKey "exit" then do
        advance
        let e ← optional value
        ending last
        return .exit e
      else if isKey "return" then do
        advance
        if !p.inFunction then throw ⟨l, .strayReturn⟩
        let e ← optional value
        ending last
        return .give e
      else if isKey "delete" then do
        advance
        match ← peek with
        | some (.name t) => do
          advance
          let key ← if ← accept "[" then do
              let es ← commas value n
              expect last "]"
              pure (some es)
            else pure none
          ending last
          return match key with
            | some es => .drop t (.ofList es)
            | none => .dropAll t
        | _ => fail last
      else if isKey "print" || isKey "printf" then do
        advance
        printing last n (isKey "printf")
      else if isKey "getline" then do
        let e ← value
        ending last
        return .eval e
      else fail last
    | _ => do
      let e ← value
      ending last
      return .eval e

/-- Statements between braces. -/
def block (last : Nat) : Nat → Place → Parse Action
  | 0, _ => fail last
  | n + 1, p => do
    expect last "\x7b"
    let a ← statements last n p
    expect last "\x7d"
    return a

def statements (last : Nat) : Nat → Place → Parse Action
  | 0, _ => fail last
  | n + 1, p => do
    skipEnds
    if isSign "\x7d" (← peek) then return .skip
    else do
      let a ← statement last n p
      return .andThen a (← statements last n p)

end

def names : Nat → Parse (List Text)
  | 0 => return []
  | n + 1 => do
    skipLines
    match ← peek with
    | some (.name t) => do
      advance
      skipLines
      if ← accept "," then return t :: (← names n) else return [t]
    | _ => return []

def wholeRow : Action := .print false .nil none

/-- A function or a rule. -/
def item (last fuel : Nat) : Parse (Function ⊕ Rule) := do
  let forRows : Place := ⟨false, false, true⟩
  if ← acceptKey "function" then
    match ← peek with
    | some (.name t) | some (.caller t) => do
      advance
      expect last "("
      let ns ← names fuel
      expect last ")"
      skipLines
      return .inl ⟨t, ns, ← block last fuel ⟨true, false, true⟩⟩
    | _ => fail last
  else if ← acceptKey "BEGIN" then return .inr ⟨.atStart, ← block last fuel ⟨false, false, false⟩⟩
  else if ← acceptKey "END" then return .inr ⟨.atEnd, ← block last fuel ⟨false, false, false⟩⟩
  else if isSign "\x7b" (← peek) then return .inr ⟨.every, ← block last fuel forRows⟩
  else do
    let a ← expr last fuel .usual
    let choice ← if ← accept "," then do
        skipLines
        pure (Choice.between a (← expr last fuel .usual))
      else pure (Choice.fitting a)
    if isSign "\x7b" (← peek) then return .inr ⟨choice, ← block last fuel forRows⟩
    else if ← atEnding then return .inr ⟨choice, wholeRow⟩
    else fail last

def items (last fuel : Nat) : Nat → Parse (List (Function ⊕ Rule))
  | 0 => fail last
  | n + 1 => do
    skipEnds
    if (← peek).isNone then return []
    else do
      let i ← item last fuel
      return i :: (← items last fuel n)

end Parse

namespace Script

/-- A function that is called but is not there. -/
def missing? (functions : List Function) (ws : List Placed) : Option Text :=
  ws.findSome? fun w => match w.word with
    | .caller t => if functions.any (·.name = t) then none else some t
    | _ => none

/-- A closing sign that nothing has been opened for. -/
def stray? : Nat → Nat → List Placed → Option Fault
  | _, _, [] => none
  | braces, parens, w :: ws =>
    match w.word with
    | .sign ['\x7b'] => stray? (braces + 1) parens ws
    | .sign ['('] | .caller _ => stray? braces (parens + if w.word matches .sign _ then 1 else 0) ws
    | .sign ['\x7d'] => if braces = 0 then some ⟨w.line, .stray '\x7d'⟩ else stray? (braces - 1) parens ws
    | .sign [')'] => if parens = 0 then some ⟨w.line, .stray ')'⟩ else stray? braces (parens - 1) ws
    | _ => stray? braces parens ws

/-- The script that a text spells. -/
def ofText (t : Text) : Except Fault Script := do
  let ws ← Word.words (t.length + 1) 1 false t
  let last := (t.filter (· = '\n')).length + 2
  match stray? 0 0 ws with
  | some f => throw f
  | none => do
    let fuel := 4 * ws.length + 20
    let (is, _) ← (Parse.items last fuel (ws.length + 1)).run ws
    let functions := is.filterMap fun i => match i with
      | .inl f => some f
      | .inr _ => none
    let rules := is.filterMap fun i => match i with
      | .inl _ => none
      | .inr r => some r
    match missing? functions ws with
    | some n => throw ⟨last, .neverDefined n⟩
    | none => return ⟨rules, functions⟩

end Script

end Guidebook.Shell.Row
