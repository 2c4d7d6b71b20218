import Guidebook.Shell.Expansion
import Guidebook.Shell.Reckon
import Guidebook.Shell.SplitString
import Guidebook.Shell.TextTool

namespace Guidebook.Shell

/-! Programs that start another one: `env`, `xargs`, `nohup`, `nice` and `timeout`. -/

namespace Errand

open FileTool

/-- A program could not be started. -/
def notStarted (front : Text) (e : IoFault) (m : Machine) : Ran :=
  m.tell .err (front ++ ": ".toList ++ reason e ++ ['\n']) (if e = .notFound then 127 else 126)

/-- Starts a program, or says in front of its name who could not. -/
def sent (read : Reader) (tool what : String) (name : Text) (args : List Text) (m : Machine) : Ran :=
  match read.start name args m with
  | .ok r => r
  | .error e =>
    notStarted (tool.toList ++ ": ".toList ++ what.toList ++ (if tool = "nohup" then quoted else literal) name) e m

/-- Variables in front of a program. -/
def assignments (m : Machine) : List Text → Machine × List Text
  | [] => (m, [])
  | a :: as =>
    match Text.cut? '=' a with
    | some (n, v) => assignments ((m.assign n v).exportName n) as
    | none => (m, a :: as)

/-- Where programs are looked for when nothing says where. -/
def withPath (m : Machine) : Machine :=
  if (m.value? "PATH".toList).isSome then m else m.assign "PATH".toList "/bin:/usr/bin".toList

/-- The options of `env`. -/
def envMenu : Menu :=
  { plain := "i0v", valued := "uCS", optional := "BDI", hidden := "BDIL", inFront := true,
    long := [("ignore-environment", 'i'), ("unset", 'u'), ("chdir", 'C'), ("null", '0'), ("split-string", 'S'),
      ("debug", 'v'), ("block-signal", 'B'), ("default-signal", 'D'), ("ignore-signal", 'I'),
      ("list-signal-handling", 'L')] }

/-- A program with other variables, or in another directory. `told` is what has been said about its arguments. -/
def envWith (read : Reader) (told : List Text) (g : Given) (args : List Text) (m : Machine) : Ran :=
  let (bare, args) := if args.head? = some ['-'] then (true, args.drop 1) else (g.has 'i', args)
  let away := if bare then [] else g.values 'u'
  let n := away.foldl Machine.unset (if bare then { m with vars := [] } else m)
  let set := args.takeWhile (·.contains '=')
  let (n, args) := assignments n args
  let moved : Except IoFault Machine := match g.value? 'C' with
    | none => .ok n
    | some p => (n.tree.find p).bind fun r =>
        if r.2.isDir then .ok { n with tree := { n.tree with here := r.1 } } else .error .notDirectory
  let steps := told ++ (if bare then ["cleaning environ".toList] else away.map ("unset:    ".toList ++ ·)) ++
    set.map ("setenv:   ".toList ++ ·) ++ (g.values 'C').map ("chdir:    ".toList ++ quoted ·)
  let started := fun (a : Text) (as : List Text) =>
    ("executing: ".toList ++ a) ::
      (a :: as).zipIdx.map fun w => "   arg[".toList ++ (toString w.2).toList ++ "]= ".toList ++ literal w.1
  let traced := fun (ls : List Text) (r : Ran) =>
    if g.has 'v' && !ls.isEmpty then { r with printed := (.err, ls.flatMap lineOf) :: r.printed } else r
  match away.find? (fun n => n.isEmpty || n.contains '='), args, moved with
  | some n, _, _ => finish [objection "env" ("cannot unset ".toList ++ literal n ++ ": Invalid argument".toList) 125] [] 125 m
  | none, [], _ =>
    if g.has 'C' then misused "env" "must specify command with --chdir (-C)".toList 125 m
    else traced steps { TextTool.printenv (if g.has '0' then ["-0".toList] else []) n with machine := m }
  | none, a :: as, moved =>
    if g.has '0' then misused "env" "cannot specify --null (-0) with command".toList 125 m
    else match moved with
      | .error e =>
        traced steps (finish [complain "env" "cannot change directory to " (quoted ((g.value? 'C').getD [])) e 125] [] 125 m)
      | .ok n =>
        let r := traced (steps ++ started a as) (match read.start a as (withPath n) with
          | .ok r => r
          | .error e =>
            let r := notStarted ("env: ".toList ++ literal a) e n
            if e = .notFound && a.any SplitString.isGap then
              { r with printed := r.printed ++ [(.err, lineOf "env: use -[v]S to pass options in shebang lines".toList)] }
            else r)
        { r with machine := { r.machine with vars := m.vars, tree := r.machine.tree.asIn m.tree } }

/-- A program with other variables, or in another directory. -/
def env (read : Reader) : Tool := fun args m =>
  let known := fun n => (m.vars.find? fun v => v.exported && v.name = n).bind (·.value)
  match SplitString.spread known envMenu (args.flatten.length + args.length + 1) false args with
  | .error why => finish [objection "env" why 125] [] 125 m
  | .ok (args, told) => program "env" 125 envMenu (envWith read told) args m

/-- Words in which quotation marks and backslashes keep signs together, or a mark that stays open. -/
def wordsOf (isGap : Char → Bool) : Option Char → Option Text → Text → Except Char (List Text)
  | some q, _, [] => .error q
  | none, w, [] => .ok w.toList
  | some q, w, c :: cs =>
    if c = q then wordsOf isGap none w cs
    else if c = '\n' then .error q
    else wordsOf isGap (some q) (some (w.getD [] ++ [c])) cs
  | none, w, '\\' :: c :: cs => wordsOf isGap none (some (w.getD [] ++ [c])) cs
  | none, w, c :: cs =>
    if c = '\'' || c = '"' then wordsOf isGap (some c) (some (w.getD [])) cs
    else if isGap c then (wordsOf isGap none none cs).map (w.toList ++ ·)
    else wordsOf isGap none (some (w.getD [] ++ [c])) cs

/-- A list in parts of some size. -/
def batches (size : Nat) : Nat → List α → List (List α)
  | 0, _ | _, [] => []
  | n + 1, x :: xs => (x :: xs).take (max 1 size) :: batches size n ((x :: xs).drop (max 1 size))

/-- The sign that a text stands for between words. -/
def separatorOf (t : Text) : Char :=
  match t with
  | ['\\', 'n'] => '\n'
  | ['\\', 't'] => '\t'
  | ['\\', '0'] => Char.ofNat 0
  | t => (t.head?).getD '\n'

/-- The arguments of each start of a program, or a mark that stays open. -/
def shares (g : Given) (input : Text) : Except Char (List (List Text)) :=
  let isGap := fun (c : Char) => c = ' ' || c = '\t' || c = '\n'
  let isLineEnd := fun (c : Char) => c = '\n'
  let number := fun c => (g.value? c).map Text.digitsValue
  let parted := fun (ws : List Text) => batches ((number 'n').getD ws.length) ws.length ws
  if g.hasAny "0d" then
    let c := if g.latest? "0d" = some '0' then Char.ofNat 0 else separatorOf ((g.value? 'd').getD [])
    let ws := Text.pieces (· == c) input
    let ws := if ws.getLast? = some [] then ws.dropLast else ws
    .ok (if g.hasAny "Ii" then ws.map ([·]) else parted ws)
  else if g.hasAny "Ii" then
    (wordsOf isLineEnd none none input).map fun ls =>
      ((ls.map (·.dropWhile isGap)).filter (!·.isEmpty)).map ([·])
  else if g.hasAny "Ll" then do
    let ls ← ((Text.pieces (· == '\n') input).mapM (wordsOf isGap none none))
    let ls := ls.filter (!·.isEmpty)
    return (batches (((number 'L').orElse fun _ => number 'l').getD 1) ls.length ls).map List.flatten
  else (wordsOf isGap none none input).map parted

/-- Starts a program with one share of arguments after the other until it is said to stop. -/
def forShares (read : Reader) (traced : Bool) (name : Text) (args : List Text → List Text) :
    List (List Text) → Ran → Ran
  | [], r => r
  | s :: ss, r =>
    let all := args s
    let shown := if traced then [(Channel.err, lineOf ([' '].intercalate (name :: all)))] else []
    let (known, q) := match read.start name all { r.machine with input := [] } with
      | .ok q => (true, q)
      | .error e => (false, notStarted ("xargs: ".toList ++ name) e r.machine)
    let next : Ran := ⟨{ q.machine with input := r.machine.input }, r.printed ++ shown ++ q.printed, r.finish⟩
    match known, q.finish.code with
    | false, k => { next with finish := .status k }
    | true, 0 => forShares read traced name args ss next
    | true, 255 =>
      { next with
        printed := next.printed ++
          [(.err, lineOf ("xargs: ".toList ++ name ++ ": exited with status 255; aborting".toList))],
        finish := .status 124 }
    | true, _ => forShares read traced name args ss { next with finish := .status 123 }

/-- A program for words that there are to read. -/
def xargs (read : Reader) : Tool := fun args m =>
  let u : Menu :=
    { plain := "0rtpxo", valued := "dnLIPasE", optional := "ile", inFront := true,
      long := [("null", '0'), ("delimiter", 'd'), ("max-args", 'n'), ("max-lines", 'l'), ("replace", 'i'),
        ("no-run-if-empty", 'r'), ("verbose", 't'), ("max-procs", 'P'), ("arg-file", 'a')] }
  program "xargs" 1 u (fun g args m =>
    let given : Except (Text × IoFault) (Bytes × Machine) := match g.value? 'a' with
      | none => .ok (m.input, { m with input := [] })
      | some p => ((m.tree.read p).mapError (p, ·)).map fun b => (b, m)
    match given with
    | .error (p, e) =>
      finish [objection "xargs" ("Cannot open input file ".toList ++ literal p ++ ": ".toList ++ reason e) 1] [] 1 m
    | .ok (b, n) =>
      let (name, args) := match args with
        | [] => ("echo".toList, [])
        | a :: as => (a, as)
      match shares g (textOf b) with
      | .error q =>
        n.tell .err ("xargs: unmatched ".toList ++ (if q = '"' then "double" else "single").toList ++
          (" quote; by default quotes are special to xargs unless you use the -0 option\n").toList) 1
      | .ok ss =>
        let mark := match g.value? 'I', g.value? 'i' with
          | some t, _ => some t
          | none, some t => some (if t.isEmpty then "\x7b\x7d".toList else t)
          | none, none => none
        let ss := if ss.isEmpty && mark.isNone && !g.has 'r' then [[]] else ss
        let filled := fun (s : List Text) => match mark with
          | some t => args.map (Text.replace t s.flatten)
          | none => args ++ s
        let r := forShares read (g.has 't') name filled ss (n.ends 0)
        { r with machine := { r.machine with input := n.input } }) args m

/-- A length of time in millionths of a second. -/
def duration? (t : Text) : Option Nat :=
  let factor : Option Int := match t.getLast? with
    | some 's' => some 1
    | some 'm' => some 60
    | some 'h' => some 3600
    | some 'd' => some 86400
    | _ => none
  let number := match factor with
    | some k => (Reckon.number? t.dropLast).map fun (x : Int × Nat) => (x.1 * k, x.2)
    | none => Reckon.number? t
  (number.filter (0 ≤ ·.1)).map fun x => x.1.natAbs * 1000000 / Nat.pow 10 x.2

def sleep : Tool := program "sleep" 1 { plain := "" } fun _ args m =>
  let wrong := args.filter fun a => (duration? a).isNone
  if args.isEmpty then missing "sleep" m
  else if wrong.isEmpty then Signal.passTo m (m.course.clock + ((args.filterMap duration?).foldl (· + ·) 0))
  else misused "sleep" ("\nsleep: ".toList.intercalate (wrong.map fun a => "invalid time interval ".toList ++ literal a)) 1 m

/-- A program that is ended if it takes too long. What it would have done after that is not done. -/
def timeout (read : Reader) : Tool := fun args m =>
  let u : Menu :=
    { plain := "v", valued := "sk", inFront := true,
      long := [("signal", 's'), ("kill-after", 'k'), ("preserve-status", 'p'), ("foreground", 'f'), ("verbose", 'v')] }
  program "timeout" 125 u (fun g args m =>
    match args with
    | [] | [_] => m.tell .err "Try 'timeout --help' for more information.\n".toList 125
    | d :: name :: args =>
      match duration? d with
      | none => misused "timeout" ("invalid time interval ".toList ++ literal d) 125 m
      | some d =>
        let limit := if d = 0 then none else some (m.course.clock + d)
        let deadline := (m.course.deadline.toList ++ limit.toList).min?
        let r := sent read "timeout" "failed to run command " name args
          { m with course := { m.course with deadline } }
        let n := { r.machine with course := { r.machine.course with deadline := m.course.deadline } }
        let signal := ((g.value? 's').bind Signal.ofSpec?).getD Signal.terminate
        match r.finish with
        | .late =>
          if m.course.deadline.isSome && m.course.deadline = deadline then ⟨n, r.printed, .late⟩
          else if signal = 9 then ⟨n, r.printed ++ Signal.lastWords (.killed 9), .status (128 + 9)⟩
          else ⟨n, r.printed, .status (if g.has 'p' then 128 + signal else 124)⟩
        | f => ⟨n, r.printed, f⟩) args m

def nohup (read : Reader) : Tool := program "nohup" 125 { plain := "", inFront := true } fun _ args m =>
  match args with
  | [] => misused "nohup" "missing operand".toList 125 m
  | a :: as => sent read "nohup" "failed to run command " a as m

def nice (read : Reader) : Tool := program "nice" 125
  { plain := "0123456789", valued := "n", long := [("adjustment", 'n')], inFront := true } fun g args m =>
    match (g.values 'n').find? fun t => (Condition.integer? t).isNone, args with
    | some t, _ => m.tell .err ("nice: invalid adjustment ".toList ++ literal t ++ ['\n']) 125
    | none, [] =>
      if g.isEmpty then m.tell .out "0\n".toList 0
      else misused "nice" "a command must be given with an adjustment".toList 125 m
    | none, a :: as => sent read "nice" "" a as m

/-- A program in a session of its own, or with other buffers, which nobody can tell. -/
def plainly (tool why : String) (status : Nat) (u : Menu) (read : Reader) : Tool := program tool status u fun _ args m =>
  match args with
  | [] => misused tool why.toList status m
  | a :: as => sent read tool "failed to run command " a as m

def sessions : Menu :=
  { plain := "cfw", inFront := true, long := [("ctty", 'c'), ("fork", 'f'), ("wait", 'w')] }

def buffers : Menu :=
  { plain := "", valued := "ioe", inFront := true, long := [("input", 'i'), ("output", 'o'), ("error", 'e')] }

/-- A program that has a file to itself, which is made if it is not there. -/
def flock (read : Reader) : Tool := fun args m =>
  let u : Menu :=
    { plain := "sxnuoF", valued := "wEc", inFront := true,
      long := [("shared", 's'), ("exclusive", 'x'), ("nonblock", 'n'), ("nb", 'n'), ("unlock", 'u'), ("close", 'o'),
        ("wait", 'w'), ("timeout", 'w'), ("conflict-exit-code", 'E'), ("command", 'c')] }
  program "flock" 64 u (fun g args m =>
    match args with
    | [] => m.tell .err "flock: not enough arguments\nTry 'flock --help' for more information.\n".toList 64
    | p :: rest =>
      let command := match g.value? 'c', rest with
        | some c, _ => some ("/bin/sh".toList, ["-c".toList, c])
        | none, ['-', 'c'] :: c :: _ => some ("/bin/sh".toList, ["-c".toList, c])
        | none, a :: as => some (a, as)
        | none, [] => none
      match command with
      | none => if Text.isDigits p then m.ends 0 else
          m.tell .err "flock: requires file descriptor, file or directory\n".toList 64
      | some (a, as) =>
        match if m.tree.isDirAt p then .ok m.tree else m.tree.append p [] with
        | .error e => finish [complain "flock" "cannot open lock file " p e 66] [] 66 m
        | .ok t => sent read "flock" "failed to execute " a as { m with tree := t }) args m

/-- Programs that start another one. -/
def all : List (Text × (Reader → Tool)) :=
  [("env".toList, env), ("xargs".toList, xargs), ("timeout".toList, timeout), ("nohup".toList, nohup),
   ("nice".toList, nice), ("flock".toList, flock),
   ("setsid".toList, plainly "setsid" "no command specified" 1 sessions), ("stdbuf".toList, plainly "stdbuf" "missing operand" 125 buffers)]

end Errand

end Guidebook.Shell
