import Guidebook.Shell.Row.Run

namespace Guidebook.Shell.Row

open Scan

/-- What the options of a row tool say: the separator of fields, variables with values, and the texts of the
script, which may be in files. -/
structure Order where
  separator : Option Text
  values : List Text
  scripts : List Text

/-- Reads options. What is left are arguments. -/
def Order.read (tool : Text) (m : Machine) : Nat → Order → List Text → Except Text (Order × List Text)
  | 0, o, as => .ok (o, as)
  | n + 1, o, as =>
    let valued := fun (c : Char) (cs : Text) (as : List Text) (f : Text → Except Text Order) =>
      match cs, as with
      | [], [] => .error ("option -".toList ++ [c] ++ " lacks argument".toList)
      | [], v :: as => do Order.read tool m n (← f v) as
      | cs, as => do Order.read tool m n (← f cs) as
    match as with
    | ['-', '-'] :: as => .ok (o, as)
    | ('-' :: 'F' :: cs) :: as => valued 'F' cs as fun v => .ok { o with separator := some v }
    | ('-' :: 'v' :: cs) :: as => valued 'v' cs as fun v => .ok { o with values := o.values ++ [v] }
    | ('-' :: 'W' :: cs) :: as => valued 'W' cs as fun _ => .ok o
    | ('-' :: 'f' :: cs) :: as => valued 'f' cs as fun v =>
      if v = ['-'] then .ok { o with scripts := o.scripts ++ [Octet.decode m.input] }
      else match m.tree.read v with
        | .ok b => .ok { o with scripts := o.scripts ++ [Octet.decode b] }
        | .error e => .error ("cannot open \"".toList ++ v ++ "\" (".toList ++ FileTool.reason e ++ [')'])
    | ('-' :: c :: cs) :: as =>
      if c = '-' then .ok (o, as) else .error ("not an option: -".toList ++ c :: cs)
    | as => .ok (o, as)

/-- A script before it starts. -/
def Scan.start (tool : Text) (args : List Text) (m : Machine) : Scan :=
  let texts := [("FS", " "), ("OFS", " "), ("ORS", "\n"), ("RS", "\n"), ("SUBSEP", "\x1c"), ("CONVFMT", "%.6g"),
    ("OFMT", "%.6g"), ("FILENAME", "")].map fun v => (v.1.toList, Slot.value (.text v.2.toList))
  let numbers := [("NR", 0), ("FNR", 0), ("RSTART", 0), ("ARGC", args.length + 1)].map fun v =>
    (v.1.toList, Slot.value (Value.ofNat v.2))
  let named := (Table.ofList (args.map .given)).put ['0'] (some 0) (.given tool)
  let argTable := { named with cells := ((tool :: args).zipIdx.map fun a => (Text.ofNat a.2, Value.given a.1)) }
  let shown := m.vars.filter fun v => v.exported && v.value.isSome
  let outer := shown.foldl (fun t v => t.put v.name none (.given (v.value.getD []))) Table.empty
  { machine := m, said := [], held := [],
    globals := texts ++ numbers ++ [("RLENGTH".toList, .value (.number (-1.0))), ("ARGV".toList, .table 0),
      ("ENVIRON".toList, .table 1)],
    locals := [], tables := [(0, argTable), (1, outer)], fresh := 2, row := .unset, fields := [],
    rest := none, next := 1, named := false, files := [], commands := [], written := [], pipes := [], opened := [],
    seed := .number 0.0, chance := 0, status := 0 }

/-- How the work on a script goes on: as usual, to its end, or not at all. -/
inductive Progress where
  | on
  | exit
  | broken (why : Text)

/-- Does something and tells how the work goes on. -/
def done (a : Act Unit) (s : Scan) : Progress × Scan :=
  let (r, s) := a.run.run s
  let s := { s with locals := [] }
  match r with
  | .error .exit => (.exit, s)
  | .error (.broken why) => (.broken why, s)
  | .error .nextFile => (.on, { s with rest := none })
  | _ => (.on, s)

/-- Whether a rule is one for the row at hand. The number is that of the rule. -/
def chosen (shell : Reader) (call : Caller) (k : Nat) : Choice → Act Bool
  | .every => return true
  | .fitting e => do return (← Act.eval shell call e).holds
  | .between a b => do
    let s ← get
    if s.opened.contains k || (← Act.eval shell call a).holds then do
      let last := (← Act.eval shell call b).holds
      modify fun s =>
        let others := s.opened.filter (· ≠ k)
        { s with opened := if last then others else k :: others }
      return true
    else return false
  | _ => return false

/-- Does what the rules say for the row at hand. -/
def forRow (shell : Reader) (call : Caller) (rules : List (Rule × Nat)) : Act Unit :=
  rules.forM fun (r, k) => do
    if ← chosen shell call k r.choice then Act.exec shell call r.action

/-- One row after the other, up to a number of them. -/
def overRows (shell : Reader) (call : Caller) (rules : List (Rule × Nat)) : Nat → Scan → Progress × Scan
  | 0, s => (.on, s)
  | n + 1, s =>
    match s.nextRow s.patience with
    | .error why => (.broken why, s)
    | .ok (s, none) => (.on, s)
    | .ok (s, some t) =>
      match done (forRow shell call rules) (((s.counted "NR").counted "FNR").withRow (.given t)) with
      | (.on, s) => overRows shell call rules n s
      | r => r

def actionsFor (isOne : Choice → Bool) (rules : List Rule) : List Action :=
  (rules.filter fun r => isOne r.choice).map (·.action)

/-- What has been written to commands gets there at last, to the latest one first. -/
def ended (shell : Reader) : Nat → Scan → Scan
  | 0, s => s.flushed
  | n + 1, s =>
    match s.pipes with
    | [] => s.flushed
    | (c, _) :: _ => ended shell n (s.closePipe shell c).1

/-- Does all that a script says. -/
def work (shell : Reader) (script : Script) (s : Scan) : Progress × Scan :=
  let call := Act.caller shell script.functions Act.depth
  let all := fun (as : List Action) (s : Scan) => done (as.forM (Act.exec shell call)) s
  let atStart := actionsFor (· matches .atStart) script.rules
  let atEnd := actionsFor (· matches .atEnd) script.rules
  let rules := script.rules.zipIdx.filter fun r => !(r.1.choice matches .atStart) && !(r.1.choice matches .atEnd)
  let first := all atStart s
  let rows := match first with
    | (.on, s) => if rules.isEmpty && atEnd.isEmpty then (Progress.on, s) else overRows shell call rules Act.bound s
    | r => r
  match rows with
  | (.broken why, s) => (.broken why, s)
  | (_, s) => all atEnd s

/-- A tool for the rows of files. -/
def tool (name : Text) (shell : Reader) : Guidebook.Shell.Tool := fun args m =>
  let fail := fun (m : Machine) (why : Text) => m.tell .err (name ++ ": ".toList ++ why ++ ['\n']) 2
  match Order.read name m (args.length + 1) ⟨none, [], []⟩ args with
  | .error why => fail m why
  | .ok (o, rest) =>
    let found : Option (Text × List Text) := match o.scripts, rest with
      | [], [] => none
      | [], t :: as => some (t, as)
      | ts, as => some (['\n'].intercalate ts, as)
    match found with
    | none => m.tell .err "Usage: mawk [Options] [Program] [file ...]\n".toList 2
    | some (t, files) =>
      match Script.ofText t with
      | .error f => fail m ("line ".toList ++ Text.ofNat f.line ++ ": ".toList ++ f.problem.toText)
      | .ok script =>
        let m := if o.scripts.isEmpty || !args.contains ['-'] then m else { m with input := [] }
        let s := Scan.start name files m
        let s := match o.separator with
          | some f => s.withGlobal "FS" (.text (Word.unescape f.length f))
          | none => s
        match o.values.find? fun v => (Scan.assignment? v).isNone with
        | some v => fail m ("improper assignment: -v ".toList ++ v)
        | none =>
          let s := o.values.foldl (fun s v => ((Scan.assignment? v).map fun p => s.assigned p.1 p.2).getD s) s
          let (p, s) := work shell script s
          let s := match p with
            | .broken why => s.say [(.err, Octet.encode (name ++ ": ".toList ++ why ++ ['\n']))]
            | _ => s
          let s := ended shell s.pipes.length s
          let status := match p with
            | .broken _ => 2
            | _ => s.status
          ⟨s.machine, s.said.reverse.flatten, .status status⟩

def all : List (Text × (Reader → Guidebook.Shell.Tool)) :=
  ["awk".toList, "mawk".toList].map fun n => (n, tool n)

end Guidebook.Shell.Row
