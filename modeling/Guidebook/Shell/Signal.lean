import Guidebook.Shell.Tool

namespace Guidebook.Shell

namespace Signal

open Tool

/-- The names of the signals in the order of their numbers, which start at one. Some have none. -/
def names : List Text :=
  ["HUP".toList, "INT".toList, "QUIT".toList, "ILL".toList, "TRAP".toList, "ABRT".toList, "BUS".toList,
   "FPE".toList, "KILL".toList, "USR1".toList, "SEGV".toList, "USR2".toList, "PIPE".toList,
   "ALRM".toList, "TERM".toList, "16".toList, "CHLD".toList, "CONT".toList, "STOP".toList,
   "TSTP".toList, "TTIN".toList, "TTOU".toList, "URG".toList, "XCPU".toList, "XFSZ".toList,
   "VTALRM".toList, "PROF".toList, "WINCH".toList, "IO".toList, "PWR".toList, "SYS".toList,
   "32".toList, "33".toList, "RTMIN".toList] ++
  ((List.range 15).map fun i => "RTMIN+".toList ++ Text.ofNat (i + 1)) ++
  ((List.range 14).map fun i => "RTMAX-".toList ++ Text.ofNat (14 - i)) ++ ["RTMAX".toList]

/-- The end of the shell counts as a signal. -/
def atExit : Text := "EXIT".toList

def nameOf (n : Nat) : Text := ((atExit :: names)[n]?).getD []

def numbered? (t : Text) : Option Nat :=
  if Text.isDigits t then some (Text.digitsValue t) |>.filter (· ≤ names.length) else none

def ofName? (t : Text) : Option Nat := (names.idxOf? (t.map Char.toUpper)).map (· + 1)

def ofText? (t : Text) : Option Nat := (numbered? t).orElse fun _ => ofName? t

/-- A signal by its number or its name, which may begin with letters that say what it is. -/
def ofSpec? (t : Text) : Option Nat :=
  ofText? (if "SIG".toList.isPrefixOf (t.map Char.toUpper) then t.drop 3 else t)

/-- Signals that nobody dies of. -/
def harmless : List Nat := [0, 17, 18, 23, 28]

/-- Signals that nothing can be done about. -/
def unstoppable : List Nat := [9, 19]

def terminate : Nat := 15

/-- The whole shell gets a signal. It does what it has been told to do on it, if it has been told
anything. -/
def receive (m : Machine) (signal : Nat) : Ran :=
  let sent : Ran := ⟨m, [(.signal Machine.ownNumber signal, [])], .status 0⟩
  if m.course.behind then sent
  else match ((m.whole.getD m.traps).lookup signal).filter fun _ => !unstoppable.contains signal with
  | some [] => m.ends 0
  | some _ =>
    if m.whole.isSome then sent else ({ m with pending := m.pending ++ [signal] } : Machine).ends 0
  | none => if harmless.contains signal then m.ends 0 else ⟨m, [], .killed signal⟩

def change (m : Machine) (j : Job) : Machine :=
  { m with jobs := m.jobs.map fun k => if k.process = j.process then j else k }

/-- A job gets a signal: it ends, and what it would have done later is not done. -/
def strike (m : Machine) (j : Job) (signal : Nat) : Machine :=
  if harmless.contains signal then m
  else
    let now := m.course.clock
    let stays := fun (d : Deed) => d.process ≠ j.process || d.time ≤ now
    change { m with course := { m.course with own := m.course.own.filter stays } }
      { j with finish := .killed signal, ending := now }

/-- Deals with a signal that some process has been sent. -/
def passOn (r : Ran) (s : Nat × Nat) : Ran :=
  match r.finish with
  | .killed _ => r
  | f =>
    if s.1 = Machine.ownNumber then
      let q := receive r.machine s.2
      ⟨q.machine, r.printed ++ q.printed, match q.finish with
        | .killed n => .killed n
        | _ => f⟩
    else match r.machine.jobs.find? (·.process = s.1) with
      | some j => { r with machine := if r.machine.course.clock < j.ending then strike r.machine j s.2 else r.machine }
      | none => { r with printed := r.printed ++ [(.signal s.1 s.2, [])] }

/-- Deals with the signals that something has sent which has ended. Those that go further stay where they
are. -/
def heeded (r : Ran) : Ran :=
  if r.printed.signals.isEmpty then r
  else r.printed.foldl (fun r w => match w.1 with
    | .signal k n => passOn r (k, n)
    | _ => { r with printed := r.printed ++ [w] }) { r with printed := [] }

/-- Does what something in the background does at a time that has come. -/
def befall (r : Ran) (d : Deed) : Ran :=
  match r.finish with
  | .killed _ => r
  | _ =>
    let c := r.machine.course
    let m := r.machine.timed d.time
    let s := heeded ⟨{ m with tree := d.turns.apply m.tree }, d.printed, .status 0⟩
    ⟨s.machine.timed c.clock, if s.printed.isEmpty then r.printed else r.printed ++ (.clock d.time, []) :: s.printed, s.finish⟩

/-- Lets time pass up to a moment that is allowed. -/
def pass (m : Machine) (goal : Nat) : Ran :=
  let c := m.course
  let (due, left) := c.own.partition (·.time ≤ goal)
  let (seen, unseen) := c.others.partition (·.time ≤ goal)
  let after := { Course.seen seen c.clock m.tree with now := m.tree.now }
  let n := { m with
    tree := after, course := { c with pauses := ⟨goal, m.tree, after⟩ :: c.pauses, own := left, others := unseen } }
  let r := (Course.inOrder due).foldl befall ((n.timed goal).ends 0)
  { r with printed := r.printed ++ [(.clock goal, [])] }

/-- Lets time pass up to a moment, or until time is up. -/
def passTo (m : Machine) (goal : Nat) : Ran :=
  match m.course.deadline.filter (· ≤ goal) with
  | none => pass m (max goal m.course.clock)
  | some d =>
    let r := pass m (max d m.course.clock)
    match r.finish with
    | .killed _ => r
    | _ => { r with finish := .late }

/-- Keeps something that has been started in the background. It is known by the first number that nothing
else is known by. -/
def keep (m : Machine) (finish : Finish) (ending : Nat) : Machine :=
  let others := m.jobs.filter fun j => !(j.waited && j.ending ≤ m.course.clock)
  let slot := ((List.range (others.length + 1)).map (· + 1)).find? fun k => others.all (·.slot ≠ k)
  let n := m.started + 1
  { m with jobs := others ++ [⟨slot.getD 1, Machine.ownNumber + n, finish, ending, false⟩], started := n }

/-- Something has been started in the background: what it does before its first pause is done, the rest is
still to come. If there is no pause, it has ended. -/
def detached (m : Machine) (r : Ran) : Ran :=
  let c := r.machine.course
  match c.pauses.reverse, r.finish with
  | [], .status _ =>
    let n := { r.machine with
      input := m.input, course := { m.course with own := m.course.own ++ c.own }, status := 0 }
    ⟨keep n r.finish c.clock, r.printed, .status 0⟩
  | [], _ => r
  | p :: ps, finish =>
    let process := Machine.ownNumber + m.started + 1
    let deeds := (Course.stretches c.added (p :: ps) r.machine.tree).map fun (time, turns) =>
      ({ time, process, turns, printed := [] } : Deed)
    let (first, later) := r.printed.stretches
    let told := later.map fun (time, printed) => ({ time, process, turns := [], printed } : Deed)
    let killed := match finish with
      | .killed n => [(.signal Machine.ownNumber n, [])]
      | _ => []
    let last : Deed := { time := c.clock, process, turns := [], printed := killed }
    let n := { m with
      tree := p.before.asIn m.tree
      course := { m.course with own := m.course.own ++ deeds ++ told ++ [last] ++ c.own }, status := 0 }
    ⟨keep n (.status finish.code) c.clock, first, .status 0⟩

/-- The job that a text stands for: by its number, by the process, or the latest one. -/
def job? (m : Machine) (t : Text) : Option Job :=
  match t with
  | ['%'] | ['%', '%'] | ['%', '+'] => m.jobs.getLast?
  | ['%', '-'] => m.jobs.dropLast.getLast?
  | '%' :: ds => if Text.isDigits ds then m.jobs.find? (·.slot = Text.digitsValue ds) else none
  | ds => if Text.isDigits ds then m.jobs.find? (·.process = Text.digitsValue ds) else none

def noJob (t : Text) : Text :=
  if [['%'], ['%', '%'], ['%', '+'], ['%', '-']].contains t then "No current job".toList
  else "No such job: ".toList ++ t

/-- Signals go to one after the other. -/
def send (signal : Nat) : List Text → Tool
  | [] => quit 0
  | t :: ts => fun args m =>
    match job? m t with
    | some j =>
      if j.waited || j.ending < m.course.clock then gone signal ts args m
      else send signal ts args (strike m j signal)
    | none =>
      if t.head? = some '%' then refuse m "kill: " (noJob t) 2
      else
        let ds := if t.head? = some '-' then t.drop 1 else t
        if !Text.isDigits ds then refuse m "kill: Illegal number: " ds 2
        else if t = Text.ofNat Machine.ownNumber then
          let r := receive m signal
          match r.finish with
          | .killed _ => r
          | _ => after r (send signal ts args)
        else match m.around.find? fun j => Text.ofNat j.process = t && !j.waited && m.course.clock ≤ j.ending with
          | some j => after ⟨m, [(.signal j.process signal, [])], .status 0⟩ (send signal ts args)
          | none => gone signal ts args m
where
  after (r : Ran) (f : Machine → Ran) : Ran :=
    let s := f r.machine
    { s with printed := r.printed ++ s.printed }
  gone (signal : Nat) (ts : List Text) : Tool := fun args m =>
    let r := send signal ts args m
    ⟨r.machine, (.err, Octet.encode (m.complaint "kill: No such process\n".toList)) :: r.printed,
      match r.finish with
      | .status 0 => .status 1
      | f => f⟩

/-- The names of signals, or the one that has ended something with a status. -/
def list : Tool := fun args m =>
  match args with
  | [] => m.tell .out ((['0'] :: names).flatMap (· ++ ['\n'])) 0
  | t :: _ =>
    match number? t with
    | none => refuse m "kill: Illegal number: " t 2
    | some n =>
      let n := if 128 < n then n - 128 else n
      if 0 < n && n ≤ names.length then m.tell .out (nameOf n ++ ['\n']) 0
      else refuse m "kill: invalid signal number or exit status: " t 2

def kill : Tool := fun args m =>
  let usage := refuse m "kill: Usage: kill [-s sigspec | -signum | -sigspec] [pid | job]... or\nkill -l [exitstatus]" [] 2
  let aim := fun (signal : Nat) (targets : List Text) =>
    if targets.isEmpty then usage else send signal targets [] m
  let named := fun (t : Text) (targets : List Text) =>
    match ofText? t with
    | some n => aim n (targets.dropWhile (· = "--".toList))
    | none => refuse m "kill: invalid signal number or name: " t 2
  match args with
  | ['-', 'l'] :: as => list as m
  | ['-', 's'] :: [] => refuse m "kill: No arg for -s option" [] 2
  | ['-', 's'] :: t :: as => named t as
  | ['-', '-'] :: as => aim terminate as
  | ('-' :: c :: cs) :: as =>
    match ofText? (c :: cs) with
    | some n => aim n (as.dropWhile (· = "--".toList))
    | none => if c = 's' then named cs as else refuse m "kill: Illegal option -" [c] 2
  | as => aim terminate as

def trapped? (t : Text) : Option Nat :=
  if t.map Char.toUpper = atExit then some 0 else ofText? t

def setTraps (action : Option Text) : List Text → Tool
  | [] => quit 0
  | s :: ss => fun args m =>
    match trapped? s with
    | none => m.tell .err ("trap: ".toList ++ s ++ ": bad trap\n".toList) 1
    | some n =>
      let others := m.traps.filter (·.1 ≠ n)
      setTraps action ss args { m with traps := (action.map (n, ·)).toList ++ others }

def showTraps : Tool := fun _ m =>
  m.tell .out ((List.range (names.length + 1)).flatMap fun n =>
    match m.traps.lookup n with
    | some a => "trap -- ".toList ++ quoted a ++ ' ' :: nameOf n ++ ['\n']
    | none => []) 0

def trap : Tool := lettered "trap" true "" fun _ args m =>
  match args with
  | [] => showTraps [] m
  | [s] => setTraps none [s] [] m
  | action :: ss =>
    if (numbered? action).isSome then setTraps none (action :: ss) [] m
    else setTraps (if action = ['-'] then none else some action) ss [] m

/-- What is said about a process that a signal has killed. -/
def lastWords : Finish → Printed
  | .killed n => ((farewells.lookup n).map fun t => (Channel.err, Octet.encode (t.toList ++ ['\n']))).toList
  | _ => []
where
  farewells : List (Nat × String) :=
    [(1, "Hangup"), (3, "Quit"), (4, "Illegal instruction"), (5, "Trace/breakpoint trap"), (6, "Aborted"),
     (7, "Bus error"), (8, "Floating point exception"), (9, "Killed"), (10, "User defined signal 1"),
     (11, "Segmentation fault"), (12, "User defined signal 2"), (14, "Alarm clock"), (15, "Terminated")]

/-- Waits up to a moment, or until a signal comes that something is to be done about. -/
def await (m : Machine) (goal : Nat) : Ran :=
  let heard := fun (d : Deed) => (d.printed.signals.find? fun s =>
    s.1 = Machine.ownNumber && ((m.traps.lookup s.2).map (!·.isEmpty)).getD false).map (·.2)
  match ((Course.inOrder m.course.own).filter (·.time ≤ goal)).find? fun d => (heard d).isSome with
  | none => if goal ≤ m.course.clock then m.ends 0 else passTo m goal
  | some d =>
    let r := passTo m d.time
    match r.finish with
    | .killed _ => r
    | _ => { r with finish := .status (128 + (heard d).getD 0) }

/-- Goes on if a wait has not been broken off. -/
def afterWait (r : Ran) (f : Machine → Ran) : Ran :=
  match r.finish with
  | .status 0 =>
    let s := f r.machine
    { s with printed := r.printed ++ s.printed }
  | _ => r

/-- Waits up to a moment that may change by what happens. -/
def settle (goal : Machine → Nat) : Nat → Machine → Ran
  | 0, m => await m (goal m)
  | n + 1, m =>
    let coming := (m.course.own.map (·.time)).filter fun t => m.course.clock < t && t < goal m
    match coming.min? with
    | none => await m (goal m)
    | some t => afterWait (await m t) (settle goal n)

/-- Waits for something that ends at some time, as far as is known. -/
def awaitEnd (ends : Machine → Nat) (m : Machine) : Ran := settle ends m.course.own.length m

def waitFor (m : Machine) : Nat → List Text → Ran
  | status, [] => m.ends status
  | _, t :: ts =>
    match job? m t with
    | some j =>
      let now := fun (m : Machine) => (m.jobs.find? (·.process = j.process)).getD j
      afterWait (awaitEnd (fun m => (now m).ending) m) fun m =>
        let j := now m
        let said := if j.ending = m.course.clock && !j.waited then lastWords j.finish else []
        let r := waitFor (change m { j with waited := true }) j.finish.code ts
        { r with printed := said ++ r.printed }
    | none =>
      if t.head? = some '%' then refuse m "wait: " (noJob t) 2
      else if Text.isDigits t then waitFor m 127 ts
      else refuse m "wait: Illegal number: " t 2

def wait : Tool := lettered "wait" false "" fun _ args m =>
  if !args.isEmpty then waitFor m 0 args
  else
    afterWait (awaitEnd (fun m => (m.jobs.map (·.ending)).foldl max 0) m) fun m =>
      ({ m with jobs := m.jobs.map ({ · with waited := true }) } : Machine).ends 0

/-- How a job is doing. -/
def stateOf (m : Machine) (j : Job) : Text :=
  if m.course.clock < j.ending then "Running".toList
  else match j.finish with
    | .killed n => ((lastWords.farewells.lookup n).getD "").toList
    | f => if f.code = 0 then "Done".toList else "Done(".toList ++ Text.ofNat f.code ++ [')']

/-- How a job stands among others: it is the latest one, or the one before that. -/
def markOf (m : Machine) (j : Job) : Char :=
  let latest := m.jobs.reverse.map (·.process)
  if latest.head? = some j.process then '+'
  else if (latest.drop 1).head? = some j.process then '-' else ' '

/-- The line about a job: how it stands, how it is doing, and perhaps which process it is. -/
def jobLine (withProcess : Bool) (m : Machine) (j : Job) : Text :=
  let front := '[' :: Text.ofNat j.slot ++ "] ".toList ++ markOf m j :: ' ' ::
    if withProcess then Text.ofNat j.process ++ [' '] else []
  let text := front ++ stateOf m j
  text ++ List.replicate (33 - text.length) ' ' ++ ['\n']

/-- Tells about jobs, and forgets each that has ended. -/
def tellJobs (line : Machine → Job → Text) (m : Machine) : List Job → Machine × Text
  | [] => (m, [])
  | j :: js =>
    let left := m.jobs.filter fun k => k.process ≠ j.process || m.course.clock < k.ending
    let r := tellJobs line { m with jobs := left } js
    (r.1, line m j ++ r.2)

/-- Tells about what was started in the background. What has ended is told about once. -/
def jobs : Tool := lettered "jobs" false "lp" fun ls args m =>
  let chosen := if args.isEmpty then m.jobs.reverse else args.filterMap (job? m)
  match args.find? fun t => (job? m t).isNone with
  | some t => refuse m "jobs: " (noJob t) 2
  | none =>
    let line := if ls.contains 'p' then fun _ (j : Job) => Text.ofNat j.process ++ ['\n']
      else jobLine (ls.contains 'l')
    let r := tellJobs line m chosen
    r.1.tell .out r.2 0

/-- Nothing that has been started can be gone on with. -/
def resume (tool : String) : Tool := fun args m =>
  let t := (args.head?).getD ['%', '+']
  refuse m (tool ++ ": ") (match job? m t with
    | none => noJob t
    | some _ => "job ".toList ++ (args.head?).getD "(null)".toList ++ " not created under job control".toList) 2

end Signal

end Guidebook.Shell
