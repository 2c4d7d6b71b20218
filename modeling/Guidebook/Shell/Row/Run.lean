import Guidebook.Shell.Menu
import Guidebook.Shell.Row.Scan
import Guidebook.Shell.Signal

namespace Guidebook.Shell.Row

open Scan

/-- Something that can be given a value. -/
inductive Spot where
  | var (name : Text)
  | field (n : Nat)
  | cell (table : Nat) (key : Text) (number : Option Int)

/-- An argument of a function: what stands there, what it comes to, and where a value may be put. -/
structure Part where
  expr : Expr
  value : Act Value
  spot : Act Spot

/-- How functions of a script are called. -/
abbrev Caller := Text → List Slot → Act Value

namespace Act

def broken (why : Text) : Act α := throw (.broken why)

def runTime (why : Text) : Act α := do
  let s ← get
  let n := fun (name : String) => s.globalText name
  broken ("run time error: ".toList ++ why ++ "\n\tFILENAME=\"".toList ++ n "FILENAME" ++ "\" FNR=".toList ++
    n "FNR" ++ " NR=".toList ++ n "NR")

def text (v : Value) : Act Text := do return (← get).text v

def read (name : Text) : Act Value := do
  let s ← get
  if name = "NF".toList then return Value.ofNat s.fields.length
  else match s.slot name with
    | .value v => return v
    | .table _ => broken ("illegal reference to array ".toList ++ name)
    | _ => return .unset

/-- The table that a name stands for. -/
def tableOf (name : Text) : Act Nat := do
  let s ← get
  match s.slot name with
  | .table n => return n
  | .perhaps n => do
    set (s.withSlot name (.table n))
    return n
  | .unset => do
    let n := s.fresh
    set ({ s with fresh := n + 1 }.withSlot name (.table n))
    return n
  | .value _ => broken ("illegal reference to variable ".toList ++ name)

/-- What a function gets for a name: a table is the same one for both. -/
def shared (name : Text) : Act Slot := do
  let s ← get
  if name = "NF".toList then return .value (← read name)
  else match s.slot name with
    | .unset => do
      let n := s.fresh
      set ({ s with fresh := n + 1 }.withSlot name (.perhaps n))
      return .perhaps n
    | x => return x

def load : Spot → Act Value
  | .var name => read name
  | .field n => do return (← get).field n
  | .cell n k i => do
    let s ← get
    let t := (s.table n).reach k i
    set (s.withTable n t)
    return (t.value? k).getD .unset

def store (v : Value) : Spot → Act Unit
  | .var name => do
    let s ← get
    if name = "NF".toList then do
      let n := Real.toInt v.toNumber
      if n < 0 then runTime "negative value assigned to NF".toList
      else set (s.withCount n.toNat)
    else match s.slot name with
      | .table _ => broken ("illegal reference to array ".toList ++ name)
      | _ => set (s.withSlot name (.value v))
  | .field n => modify (·.withField n v)
  | .cell n k i => modify fun s => s.withTable n ((s.table n).put k i v)

def fieldSpot (v : Value) : Act Spot := do
  let n := Real.toInt v.toNumber
  if n < 0 then runTime ("negative field index $".toList ++ Text.ofInt n) else return .field n.toNat

/-- The key that some values stand for, and the number if it is one. -/
def keyOf (vs : List Value) : Act (Text × Option Int) := do
  let s ← get
  match vs with
  | [.number x] => return (s.text (.number x), if Real.isWhole x then some (Real.toInt x) else none)
  | vs => return ((s.globalText "SUBSEP").intercalate (vs.map s.text), none)

def cellSpot (name : Text) (key : Act (List Value)) : Act Spot := do
  let (k, i) ← keyOf (← key)
  return .cell (← tableOf name) k i

/-- The pattern that something stands for. -/
def pattern (e : Expr) (value : Act Value) : Act Pattern := do
  match e with
  | .pattern p => return p
  | _ => do return patternOf (← text (← value))

def calculated (c : Calc) (x y : Float) : Float :=
  match c with
  | .add => x + y
  | .sub => x - y
  | .mul => x * y
  | .div => x / y
  | .rest => Real.rest x y
  | .power => x.pow y

def holdsBy (r : Relation) (o : Ordering) : Bool :=
  match r with
  | .lt => o = .lt
  | .le => o ≠ .gt
  | .eq => o = .eq
  | .ne => o ≠ .eq
  | .ge => o ≠ .lt
  | .gt => o = .gt

def related (r : Relation) (a b : Value) : Act Bool := do
  let asTexts : Act Bool := do return holdsBy r (compare ((← text a).map Char.toNat) ((← text b).map Char.toNat))
  match a, b, a.number?, b.number? with
  | .unset, .text _, _, _ | .text _, .unset, _, _ => asTexts
  | _, _, some x, some y =>
    return match r with
      | .lt => x < y
      | .le => x ≤ y
      | .eq => x == y
      | .ne => x != y
      | .ge => y ≤ x
      | .gt => y < x
  | _, _, _, _ => asTexts

/-- The first place where a text stands in another one, from one on. -/
def position (t u : Text) : Nat :=
  ((List.range (t.length + 1)).find? fun i => u.isPrefixOf (t.drop i)).map (· + 1) |>.getD 0

/-- The piece of a text from a place on, of some length if that is said. -/
def part (t : Text) (start : Float) (length : Option Float) : Text :=
  let nearest := fun (x : Float) => Real.toInt (if x < 0.0 then (x - 0.5).ceil else (x + 0.5).floor)
  let a := nearest start
  let b : Int := match length with
    | none => t.length + 1
    | some k => if k.isNaN then a else nearest (start + k)
  let front := (max a 1) - 1
  (t.drop front.toNat).take (min (b - 1) t.length - front).toNat

/-- What is put in the place of a match. -/
def filled (matched : Text) : Text → Text
  | '\\' :: '\\' :: '&' :: cs => '\\' :: matched ++ filled matched cs
  | '\\' :: '&' :: cs => '&' :: filled matched cs
  | '&' :: cs => matched ++ filled matched cs
  | c :: cs => c :: filled matched cs
  | [] => []

/-- Where a pattern fits a text first, and how long that is. -/
def sought? (p : Pattern) : Option Char → Text → Option (Nat × Nat)
  | b, [] => (p.here? false b []).map fun m => (0, m.taken)
  | b, c :: cs =>
    match p.here? false b (c :: cs) with
    | some m => some (0, m.taken)
    | none => (sought? p (some c) cs).map fun r => (r.1 + 1, r.2)

/-- Replaces what a pattern fits. -/
def replaced (every : Bool) : List Part → Act Value
  | p :: new :: rest => do
    let pattern ← pattern p.expr p.value
    let new ← text (← new.value)
    let spot ← match rest with
      | [] => pure (Spot.field 0)
      | goal :: _ => if goal.expr.isPlace then goal.spot else pure (Spot.var [])
    let old ← match rest with
      | goal :: _ => if goal.expr.isPlace then load spot else goal.value
      | [] => load spot
    let (t, n) := pattern.replace false (fun m _ => filled m new) 1 every (← text old)
    if 0 < n then store (.text t) spot
    return Value.ofNat n
  | _ => return .unset

def splitTo : List Part → Act Value
  | t :: goal :: rest => do
    let t ← text (← t.value)
    let vs ← match rest with
      | [] => do pure ((← get).split t)
      | p :: _ =>
        match p.expr with
        | .pattern q => pure ((if t.isEmpty then [] else between q t.length none t).map .given)
        | _ => do pure ((pieces (← text (← p.value)) t).map Value.given)
    match goal.expr with
    | .var name => do
      let n ← tableOf name
      modify (·.withTable n (.ofList vs))
      return Value.ofNat vs.length
    | _ => broken "improper use of split".toList
  | _ => return .unset

def formatOf (what : String) : List Value → Act Text
  | [] => return []
  | f :: vs => do
    let s ← get
    let f ← text f
    let call := what.toList ++ "(\"".toList ++ f ++ "\")".toList
    match formatted s.converted (f.length + 1) 1 f vs with
    | (t, none) => return t
    | (t, some .tooFew) => do
      if what = "printf" then set { s with held := Octet.encode t :: s.held }
      runTime ("not enough arguments passed to ".toList ++ call)
    | (_, some (.unknown k)) =>
      runTime ("improper conversion(number ".toList ++ Text.ofNat k ++ ") in ".toList ++ call)

/-- Closes what a text names. -/
def close (shell : Reader) (t : Text) : Act Value := do
  let s ← get
  if s.pipes.any (·.1 = t) then do
    let (s, n) := s.flushed.closePipe shell t
    set s
    return Value.ofNat n
  else match s.commands.lookup t with
    | some (_, n) => do
      set { s with commands := s.commands.filter (·.1 ≠ t) }
      return Value.ofNat n
    | none =>
      if s.written.contains t || s.files.any (·.1 = t) then do
        set { s with written := s.written.filter (· ≠ t), files := s.files.filter (·.1 ≠ t) }
        return Value.ofNat 0
      else return .number (-1.0)

/-- What the functions do that are always there. -/
def help (shell : Reader) (h : Helper) (ps : List Part) : Act Value := do
  let number := fun (f : Float → Float) => match ps with
    | p :: _ => do return Value.number (f (← p.value).toNumber)
    | [] => return Value.unset
  match h, ps with
  | .length, [] => do return Value.ofNat (← text (← get).row).length
  | .length, p :: _ =>
    match p.expr with
    | .var name => do
      let s ← get
      match s.slot name with
      | .table n => return Value.ofNat (s.table n).cells.length
      | _ => do return Value.ofNat (← text (← p.value)).length
    | _ => do return Value.ofNat (← text (← p.value)).length
  | .index, [a, b] => do
    let t ← text (← a.value)
    return Value.ofNat (position t (← text (← b.value)))
  | .part, a :: b :: rest => do
    let t ← text (← a.value)
    let start := (← b.value).toNumber
    let length ← match rest with
      | [] => pure none
      | c :: _ => do pure (some (← c.value).toNumber)
    return .text (part t start length)
  | .split, ps => splitTo ps
  | .replace, ps => replaced false ps
  | .replaceAll, ps => replaced true ps
  | .seek, [a, b] => do
    let t ← text (← a.value)
    let p ← pattern b.expr b.value
    let (start, length) : Int × Int := match sought? p none t with
      | some (i, k) => (i + 1, k)
      | none => (0, -1)
    modify fun s => (s.withGlobal "RSTART" (.number (Real.ofInt start))).withGlobal "RLENGTH" (.number (Real.ofInt length))
    return .number (Real.ofInt start)
  | .format, ps => do return .text (← formatOf "sprintf" (← ps.mapM (·.value)))
  | .sin, _ => number Float.sin
  | .cos, _ => number Float.cos
  | .exp, _ => number Float.exp
  | .log, _ => number Float.log
  | .root, _ => number Float.sqrt
  | .whole, _ => number fun x => if x < 0.0 then x.ceil else x.floor
  | .angle, [a, b] => do
    let y := (← a.value).toNumber
    return .number (y.atan2 (← b.value).toNumber)
  | .random, _ => do
    let s ← get
    let n := (s.chance * 1103515245 + 12345) % 2147483648
    set { s with chance := n }
    return .number (Float.ofNat n / 2147483648.0)
  | .seed, ps => do
    let old := (← get).seed
    let v ← match ps with
      | p :: _ => p.value
      | [] => pure (Value.number 1.0)
    modify fun s => { s with seed := v, chance := (Real.toInt v.toNumber).toNat }
    return old
  | .lower, p :: _ => do return .text (Text.lower (← text (← p.value)))
  | .upper, p :: _ => do return .text ((← text (← p.value)).map Char.toUpper)
  | .system, p :: _ => do
    let t ← text (← p.value)
    let s := (← get).flushed
    let r := run shell t s.machine
    set ({ s with machine := r.machine }.say r.printed)
    return Value.ofNat (ending r.finish)
  | .close, p :: _ => do close shell (← text (← p.value))
  | .flush, _ => do
    modify (·.flushed)
    return Value.ofNat 0
  | _, _ => return .unset

/-- Gives a row that has been taken to a place, or makes it the row at hand. -/
def taken (goal : Option (Act Spot)) (t : Text) (counts : List String) : Act Value := do
  modify fun s => counts.foldl Scan.counted s
  match goal with
  | some spot => do store (.given t) (← spot)
  | none => modify (·.withRow (.given t))
  return Value.ofNat 1

def takeNext (goal : Option (Act Spot)) : Act Value := do
  let s ← get
  match s.nextRow s.patience with
  | .error why => broken why
  | .ok (s, none) => do
    set s
    return Value.ofNat 0
  | .ok (s, some t) => do
    set s
    taken goal t ["NR", "FNR"]

def takeFile (name : Text) (goal : Option (Act Spot)) : Act Value := do
  let s ← get
  let isInput := name = ['-'] || name = "/dev/stdin".toList
  let rest : Option Text := match s.files.lookup name with
    | some t => some t
    | none => if isInput then some (Octet.decode s.machine.input)
      else (s.machine.tree.read name).toOption.map Octet.decode
  match rest with
  | none => return .number (-1.0)
  | some t => do
    let m := if isInput then { s.machine with input := [] } else s.machine
    let put := fun (u : Text) => { s with files := placedFiles s.files name u, machine := m }
    match cut? (s.globalText "RS") t with
    | none => do
      set (put [])
      return Value.ofNat 0
    | some (row, rest) => do
      set (put rest)
      taken goal row []
where
  placedFiles (fs : List (Text × Text)) (name t : Text) : List (Text × Text) := (name, t) :: fs.filter (·.1 ≠ name)

def takeCommand (shell : Reader) (command : Text) (goal : Option (Act Spot)) : Act Value := do
  let s ← get
  let (s, t, n) := match s.commands.lookup command with
    | some (t, n) => (s, t, n)
    | none =>
      let s := s.flushed
      let r := run shell command s.machine
      ({ s with machine := r.machine }.say (r.printed.off .out), Octet.decode (r.printed.on .out), ending r.finish)
  let put := fun (u : Text) => { s with commands := (command, u, n) :: s.commands.filter (·.1 ≠ command) }
  match cut? (s.globalText "RS") t with
  | none => do
    set (put [])
    return Value.ofNat 0
  | some (row, rest) => do
    set (put rest)
    taken goal row []

mutual

/-- What something comes to. -/
def eval (shell : Reader) (call : Caller) : Expr → Act Value
  | .number x => return .number x
  | .text t => return .text t
  | .pattern p => do return Value.ofBool (p.occursIn false (← text (← get).row))
  | .var name => read name
  | .field e => do load (← fieldSpot (← eval shell call e))
  | .cell table key => do
    load (← cellSpot table do (← parts shell call key).mapM (·.value))
  | .assign goal op value => do
    match op with
    | none => do
      let v ← eval shell call value
      store v (← spot shell call goal)
      return v
    | some c => do
      let y := (← eval shell call value).toNumber
      let p ← spot shell call goal
      let v := Value.number (calculated c (← load p).toNumber y)
      store v p
      return v
  | .step goal up before => do
    let p ← spot shell call goal
    let x := (← load p).toNumber
    let y := if up then x + 1.0 else x - 1.0
    store (.number y) p
    return .number (if before then y else x)
  | .calc c a b => do
    let x := (← eval shell call a).toNumber
    return .number (calculated c x (← eval shell call b).toNumber)
  | .relate r a b => do
    let v ← eval shell call a
    return Value.ofBool (← related r v (← eval shell call b))
  | .fits wanted t p => do
    let t ← text (← eval shell call t)
    let p ← pattern p (eval shell call p)
    return Value.ofBool (p.occursIn false t = wanted)
  | .not a => do return Value.ofBool !(← eval shell call a).holds
  | .minus a => do return .number (-(← eval shell call a).toNumber)
  | .plus a => do return .number (← eval shell call a).toNumber
  | .and a b => do
    if (← eval shell call a).holds then return Value.ofBool (← eval shell call b).holds
    else return Value.ofBool false
  | .or a b => do
    if (← eval shell call a).holds then return Value.ofBool true
    else return Value.ofBool (← eval shell call b).holds
  | .choice test a b => do
    if (← eval shell call test).holds then eval shell call a else eval shell call b
  | .join a b => do
    let t ← text (← eval shell call a)
    return .text (t ++ (← text (← eval shell call b)))
  | .among key table => do
    let (k, _) ← keyOf (← (← parts shell call key).mapM (·.value))
    let n ← tableOf table
    return Value.ofBool (((← get).table n).has k)
  | .help h args => do help shell h (← parts shell call args)
  | .call name args => do
    let slots ← (← parts shell call args).mapM fun p => match p.expr with
      | .var n => shared n
      | _ => do return Slot.value (← p.value)
    call name slots
  | .take goal => do takeNext (((← parts shell call goal).head?).map (·.spot))
  | .takeFile file goal => do
    let name ← text (← eval shell call file)
    takeFile name (((← parts shell call goal).head?).map (·.spot))
  | .takeCommand command goal => do
    let command ← text (← eval shell call command)
    takeCommand shell command (((← parts shell call goal).head?).map (·.spot))

/-- Where a value is put. -/
def spot (shell : Reader) (call : Caller) : Expr → Act Spot
  | .var name => return .var name
  | .field e => do fieldSpot (← eval shell call e)
  | .cell table key => cellSpot table do (← parts shell call key).mapM (·.value)
  | _ => return .var []

def parts (shell : Reader) (call : Caller) : Exprs → Act (List Part)
  | .nil => return []
  | .cons e es => do return ⟨e, eval shell call e, spot shell call e⟩ :: (← parts shell call es)

end

/-- Writes a text where it is to go. -/
def emit (way : Option (Way × Text)) (t : Text) : Act Unit := do
  let b := Octet.encode t
  let s ← get
  let isOut := fun (p : Text) => p = ['-'] || p = "/dev/stdout".toList
  match way with
  | none => set { s with held := b :: s.held }
  | some (.command, c) =>
    match s.pipes.lookup c with
    | some bs => set { s with pipes := (c, b :: bs) :: s.pipes.filter (·.1 ≠ c) }
    | none => set { s.flushed with pipes := (c, [b]) :: s.pipes }
  | some (way, p) =>
    if isOut p then set { s with held := b :: s.held }
    else if p = "/dev/stderr".toList then set (s.say [(.err, b)])
    else if p = "/dev/null".toList then return ()
    else
      let opened : Except IoFault Disk :=
        if s.written.contains p then .ok s.machine.tree
        else if way = .file then s.machine.tree.write p [] else s.machine.tree.append p []
      match opened.bind (·.append p b) with
      | .ok t => set { s with machine := { s.machine with tree := t }, written := p :: s.written.filter (· ≠ p) }
      | .error e =>
        broken ("cannot open \"".toList ++ p ++ "\" for output (".toList ++ FileTool.reason e ++ [')'])

/-- What is printed of some values. -/
def line (asFormat : Bool) (vs : List Value) : Act Text := do
  let s ← get
  if asFormat then formatOf "printf" vs
  else
    let shown := fun (v : Value) => v.toText s.printed
    let vs := if vs.isEmpty then [s.row] else vs
    return (s.globalText "OFS").intercalate (vs.map shown) ++ s.globalText "ORS"

/-- Rounds as long as a test holds, if that is looked at, up to a number of them. -/
def rounds (test : Act Bool) (step body : Act Unit) : Nat → Bool → Scan → Except Stop Unit × Scan
  | 0, _, s => (.ok (), s)
  | n + 1, looks, s =>
    match if looks then test.run.run s else (.ok true, s) with
    | (.error e, s) => (.error e, s)
    | (.ok false, s) => (.ok (), s)
    | (.ok true, s) =>
      match body.run.run s with
      | (.error .leave, s) => (.ok (), s)
      | (.ok _, s) | (.error .again, s) =>
        match step.run.run s with
        | (.ok _, s) => rounds test step body n true s
        | r => r
      | r => r

def bound : Nat := 100000000

/-- A round for each of some keys. -/
def forKeys (name : Text) (body : Act Unit) : List Text → Scan → Except Stop Unit × Scan
  | [], s => (.ok (), s)
  | k :: ks, s =>
    match (do store (.text k) (.var name); body : Act Unit).run.run s with
    | (.error .leave, s) => (.ok (), s)
    | (.ok _, s) | (.error .again, s) => forKeys name body ks s
    | r => r

/-- Does what a script says. -/
def exec (shell : Reader) (call : Caller) : Action → Act Unit
  | .skip => return ()
  | .eval e => do
    let _ ← eval shell call e
  | .print asFormat args way => do
    let vs ← (← parts shell call args).mapM (·.value)
    let t ← line asFormat vs
    match way with
    | none => emit none t
    | some (way, e) => do emit (some (way, ← text (← eval shell call e))) t
  | .andThen a b => do
    exec shell call a
    exec shell call b
  | .choice test yes no => do
    if (← eval shell call test).holds then exec shell call yes else exec shell call no
  | .loop first test step body => fun s =>
    rounds (do return (← eval shell call test).holds) (exec shell call step) (exec shell call body) bound first s
  | .forKeys name table body => do
    let n ← tableOf table
    let keys := ((← get).table n).keys
    modify fun s => s.withTable n (s.table n).named
    (fun s => forKeys name (exec shell call body) keys s : Act Unit)
  | .leave => throw .leave
  | .again => throw .again
  | .next => throw .next
  | .nextFile => throw .nextFile
  | .exit status => do
    match status with
    | some e => do
      let v ← eval shell call e
      modify fun s => { s with status := ((Real.toInt v.toNumber) % 256).toNat }
    | none => pure ()
    throw .exit
  | .give value => do
    match value with
    | some e => throw (.give (← eval shell call e))
    | none => throw (.give .unset)
  | .drop table key => do
    let (k, _) ← keyOf (← (← parts shell call key).mapM (·.value))
    let n ← tableOf table
    modify fun s => s.withTable n ((s.table n).drop k)
  | .dropAll table => do
    let n ← tableOf table
    modify (·.withTable n .empty)

/-- How deep functions may call each other. -/
def depth : Nat := 5000

/-- Calls a function of a script. -/
def caller (shell : Reader) (fs : List Function) : Nat → Caller
  | 0, name, _ => broken ("function ".toList ++ name ++ ": call stack overflow".toList)
  | n + 1, name, args => do
    match fs.find? (·.name = name) with
    | none => broken ("function ".toList ++ name ++ " never defined".toList)
    | some f => do
      let outer := (← get).locals
      let all := args ++ List.replicate (f.args.length - args.length) .unset
      modify fun s => { s with locals := f.args.zip all }
      let r ← (fun s =>
        match (exec shell (caller shell fs n) f.body).run.run s with
        | (.ok _, s) => (.ok Value.unset, s)
        | (.error (.give v), s) => (.ok v, s)
        | (.error e, s) => (.error e, s) : Act Value)
      modify fun s => { s with locals := outer }
      return r

end Act

end Guidebook.Shell.Row
