import Guidebook.Shell.Grammar
import Guidebook.Shell.Launch

namespace Guidebook.Shell

namespace Script

/-- What stands for a command, which sort of command it is called, if there is one. -/
def whatIs? (m : Machine) (name : Text) : Option (Text × Text) :=
  let sort := fun (t : String) => some (name, ' ' :: t.toList)
  if Reading.keywords.contains name then sort "is a shell keyword"
  else match m.aliases.lookup name with
  | some v => some ("alias ".toList ++ name ++ '=' :: Tool.quoted v, " is an alias for ".toList ++ v)
  | none =>
    if m.functions.any (·.1 = name) then sort "is a shell function"
    else if isSpecial name then sort "is a special shell builtin"
    else if (Builtin.all.lookup name).isSome || evaluators.contains name then sort "is a shell builtin"
    else match m.found.lookup name with
    | some p => some (p, " is a tracked alias for ".toList ++ p)
    | none => (Launch.located? m name).map fun p => (p, " is ".toList ++ p)
where
  /-- Commands that deal with other commands. -/
  evaluators : List Text := ["command".toList, "type".toList, "hash".toList]
  isSpecial (name : Text) : Bool :=
    (Builtin.special.lookup name).isSome || name = ['.'] || name = "eval".toList || name = "exec".toList

/-- Commands whose failure ends the shell and whose assignments stay. -/
def isSpecial (name : Text) : Bool := whatIs?.isSpecial name

/-- Tells what commands are called. -/
def tellNames : Tool := fun ns m =>
  let found := ns.filterMap (whatIs? m)
  m.tell .out (found.flatMap (·.1 ++ ['\n'])) (if found.length = ns.length then 0 else 127)

/-- Tells what sort of commands some are. -/
def tellSorts : Tool := fun ns m =>
  m.tell .out (ns.flatMap fun n => n ++ ((whatIs? m n).map (·.2)).getD ": not found".toList ++ ['\n'])
    (if ns.all fun n => (whatIs? m n).isSome then 0 else 127)

/-- Looks for commands. -/
def hash : Tool := Tool.lettered "hash" false "rv" fun ls ns m =>
  if ls.contains 'r' then { m with found := [] }.ends 0
  else if ns.isEmpty then
    let shown := (List.range 31).flatMap fun k => m.found.filter fun f => Launch.rowOf f.1 = k
    m.tell .out (shown.flatMap fun f => f.2 ++ ['\n']) 0
  else
  let missing := ns.filter fun n => !n.contains '/' && (whatIs? m n).isNone
  let why := fun n => if (Launch.located m n) matches .error .denied then ": Permission denied" else ": not found"
  ⟨ns.foldl (fun m n => if missing.contains n || isOwn m n then m else Launch.remembered m n) m, missing.map fun n => (.err, Octet.encode (m.complaint ("hash: ".toList ++ n ++ (why n).toList))),
    .status (if missing.isEmpty then 0 else 1)⟩
where
  /-- Whether a name stands for something within the shell. -/
  isOwn (m : Machine) (n : Text) : Bool :=
    m.functions.any (·.1 = n) || whatIs?.isSpecial n || (Builtin.all.lookup n).isSome || whatIs?.evaluators.contains n

/-- Runs a text in this shell, which tells where commands come from. -/
def inside (read : Reader) (context : Text) (t : Text) (m : Machine) : Ran :=
  let r := read.run 1 t { m with context := context ++ ": ".toList }
  { r with machine := { r.machine with context := m.context } }

/-- A command that could not write what it has to say. -/
def refused (name : Text) (why : Text) (r : Ran) : Ran :=
  let isOwn := (Builtin.all.lookup name).isSome
  let what :=
    if isOwn then r.machine.complaint (name ++ ": ".toList ++ name ++ ": I/O error".toList)
    else name ++ ": write error: ".toList ++ why ++ ['\n']
  let status := if ["ls".toList, "sort".toList, "grep".toList, "diff".toList].contains name then 2 else 1
  { r with
    printed := r.printed.off .out ++ [(.err, Octet.encode what)]
    finish := match r.finish with
      | .status n => .status (if isOwn then n ||| status else max n status)
      | f => f }

/-- Lets what a command has written go where the streams of the shell go. -/
def sent (name : Text) (f : Machine → Ran) (m : Machine) : Ran :=
  let r := f m
  match m.wiring.refusal? .out with
  | some why => Redirect.outward (if (r.printed.on .out).isEmpty then r else refused name why r) m.wiring
  | none => Redirect.outward r m.wiring

/-- Runs the text of a file in this shell. -/
def source (read : Reader) (p : Text) (m : Machine) : Ran :=
  let fail := fun (why : Text) => sent ['.'] (·.breaks why) m
  if !p.contains '/' then fail (".: ".toList ++ p ++ ": not found".toList)
  else match (m.tree.read p).map Octet.decode with
  | .error _ => fail (".: cannot open ".toList ++ p ++ ": No such file".toList)
  | .ok t =>
    let r := inside read p t m
    match r.finish with
    | .back n => { r with finish := .status n }
    | _ => r

/-- Calls a function: it has arguments of its own, and variables that it covers are uncovered at its
end. -/
def callFunction (read : Reader) (body : Script) (args : List Text) (m : Machine) : Ran :=
  let r := read.call body { m with args := args, options := .start, loops := 0, covered := some [] }
  let n := (r.machine.covered.getD []).foldl Machine.uncover r.machine
  let n := { n with args := m.args, options := m.options, loops := m.loops, covered := m.covered }
  ⟨n, r.printed, match r.finish with
    | .back k => .status k
    | f => f⟩

/-- A program takes the place of the shell. -/
def takeOver (read : Reader) (args : List Text) (m : Machine) : Ran :=
  match args with
  | [] => m.ends 0
  | a :: as =>
    let r := sent a (fun m => Launch.orElse m "exec: ".toList a (Launch.start read Launch.survive a as m)) m
    ⟨{ r.machine with traps := [] }, r.printed, .exit r.finish.code⟩

/-- Runs a command that has nothing to do with others. -/
def runPlain (read : Reader) (name : Text) (args : List Text) (m : Machine) : Ran :=
  match Builtin.all.lookup name with
  | some t => t args m
  | none =>
    let m := Launch.remembered m name
    Launch.orElse m [] name (Launch.start read Launch.survive name args m)

/-- A failure that would end the shell is no more than a failure. -/
def softened (name : Text) (r : Ran) : Ran :=
  match r.finish with
  | .exit 2 => if name = "exit".toList || name = "eval".toList then r else { r with finish := .status 2 }
  | _ => r

/-- Runs a command that consists of these fields. The flag tells whether it may be a function. -/
def runFields (read : Reader) (own : Bool) (m : Machine) : List Text → Ran
  | [] => m.ends 0
  | name :: args =>
    match if own then m.functions.lookup name else none with
    | some body => callFunction read body args m
    | none =>
      if name = "eval".toList then inside read name ([' '].intercalate args) m
      else if name = "exec".toList then takeOver read args m
      else if name = ['.'] then
        match args.dropWhile (· = "--".toList) with
        | [] => m.ends 0
        | p :: _ => source read p m
      else if name = "type".toList then sent name (tellSorts args) m
      else if name = "hash".toList then sent name (hash args) m
      else if name = "command".toList then
        match args with
        | [] => m.ends 0
        | ['-', '-'] :: as => softened ((as.head?).getD []) (runFields read false m as)
        | ['-', 'p'] :: as =>
          let path := "PATH".toList
          let r := runFields read false (m.assign path Machine.usualPath.toList) as
          softened ((as.head?).getD []) { r with machine := r.machine.withOld m [path] }
        | ('-' :: c :: cs) :: as =>
          match Tool.letters "pvV".toList ((c :: cs).cons '-' :: as) with
          | .error d => sent name (Tool.refuse · "command: Illegal option -" [d] 2) m
          | .ok (ls, ns) => sent name ((if ls.contains 'V' then tellSorts else tellNames) (ns.take 1)) m
        | as => softened ((as.head?).getD []) (runFields read false m as)
      else sent name (runPlain read name args) m

/-- Where the streams of the shell go from here on. -/
def rewired (read : Reader) (rs : List Redirect) (m : Machine) : Ran :=
  match (Redirect.applyAll read m.wiring rs).run (.start m) with
  | .error r => Redirect.outward r m.wiring
  | .ok (.error e, p) =>
    Redirect.outward ⟨p.machine, p.said ++ [(.err, Octet.encode (p.machine.ownComplaint e))], .exit 2⟩ m.wiring
  | .ok (.ok w, p) =>
    let said := Redirect.outward ⟨p.machine, p.said, .status 0⟩ m.wiring
    { said with machine := { said.machine with wiring := w } }

/-- Goes on if it has come to an end of its own. -/
def andNext (r : Ran) (f : Nat → Machine → Ran) : Ran :=
  match r.finish with
  | .status n =>
    let s := f n r.machine
    ⟨s.machine, r.printed ++ s.printed, s.finish⟩
  | _ => r

/-- Fills something in and goes on with that, and with the status of commands whose output it is. -/
def having (e : Expansion α) (f : α → Option Nat → Machine → Ran) (m : Machine) : Ran :=
  match e.run (.start m) with
  | .error r => Redirect.outward r m.wiring
  | .ok (a, p) =>
    andNext (Redirect.outward ⟨p.machine, p.said, .status 0⟩ m.wiring) fun _ n => f a p.status n

/-- Shows a command where complaints go if commands are to be shown. -/
def traced (w : Wiring) (values : List (Text × Text)) (fields : List Text) (m : Machine) : Ran :=
  if m.manner.traced && !(values.isEmpty && fields.isEmpty) then
    let shown := values.map (fun (n, v) => n ++ '=' :: v) ++ fields
    let line := (m.value? "PS4".toList).getD [] ++ [' '].intercalate shown ++ ['\n']
    Redirect.outward ⟨m, [(.err, Octet.encode line)], .status 0⟩ w
  else m.ends 0

/-- Runs a command with values that variables have for it. -/
def runWith (read : Reader) (assigned : List (Text × Word)) (fields : List Text) (w : Wiring)
    (status : Option Nat) (m : Machine) : Ran :=
  let special := (fields.head?.map isSpecial).getD false
  having (assignAll read assigned) (fun values after n =>
    andNext (traced w values fields n) fun _ n =>
      let names := values.map Prod.fst
      if fields.isEmpty then n.ends ((after.orElse fun _ => status).getD 0)
      else if special then runFields read true n fields
      else
        let r := runFields read true (names.foldl Machine.exportName n) fields
        if names.isEmpty then r else { r with machine := r.machine.withOld m names }) m

/-- The fields are filled in first, then the streams are redirected, then the values are filled in. -/
def runSimple (read : Reader) (assigned : List (Text × Word)) (words : List Word)
    (redirects : List Redirect) (m : Machine) : Ran :=
  having (Word.expandAll read words) (fun fields status n =>
    let fatal := (fields.head?.map isSpecial).getD false
    if fields = ["exec".toList] then
      andNext (having (assignAll read assigned) (fun values _ k => traced n.wiring values fields k) n)
        fun _ k => rewired read redirects k
    else if fields = ["command".toList, "exec".toList] then softened [] (rewired read redirects n)
    else Redirect.around read fatal redirects (runWith read assigned fields n.wiring status) n) m

/-- Keeps the status of what has ended. -/
def noted (r : Ran) : Ran := { r with machine := { r.machine with status := r.finish.code } }

/-- Does what the shell has been told to do on signals that it has got. -/
def attend (read : Reader) (r : Ran) : Ran :=
  let r := Signal.heeded r
  match r.finish, if r.machine.whole.isSome then [] else r.machine.pending with
  | .status n, s :: ss =>
    let m := { r.machine with pending := [] }
    let actions := (s :: ss).filterMap fun k => m.traps.lookup k
    andNext { r with machine := m } fun _ m =>
      noted ((actions.foldl (fun r t => andNext r fun _ m => read.run 1 t m) (m.ends n) |> andNext)
        fun _ m => m.ends n)
  | _, _ => r

/-- A failure ends a shell that has been told so, unless somebody looks for it. -/
def strictly (tested : Bool) (r : Ran) : Ran :=
  match r.finish with
  | .status (n + 1) => if r.machine.manner.strict && !tested then { r with finish := .exit (n + 1) } else r
  | _ => r

/-- Runs something apart, where it changes neither variables nor the working directory. -/
def aside (read : Reader) (f : Machine → Ran) (m : Machine) : Ran :=
  let r := read.atEnd (f m.within)
  noted ⟨m.afterwards r.machine r.finish.code, r.printed, r.finish.apart⟩

/-- What the first prints is what there is to read for the second. -/
def between (read : Reader) (f g : Machine → Ran) (m : Machine) : Ran :=
  let r := aside read f { m with wiring := m.wiring.straightened }
  let rest := r.printed.off .out
  let t := Redirect.outward ⟨{ r.machine with wiring := m.wiring }, rest, r.finish⟩ m.wiring
  match t.finish with
  | .killed _ | .late => t
  | _ =>
    let s := aside read g { t.machine with
      status := m.status, input := r.printed.on .out, wiring := { m.wiring with source := 0 }.withReading 0 none }
    ⟨{ s.machine with input := t.machine.input, wiring := m.wiring }, t.printed ++ s.printed, s.finish⟩

/-- Something whose failure is looked for. -/
def asTest (f : Machine → Ran) (m : Machine) : Ran :=
  let r := f { m with tested := true }
  { r with machine := { r.machine with tested := m.tested } }

/-- What a round of a loop means for the loop: it goes on, or it ends in some way. -/
def afterRound : Finish → Option Finish
  | .status _ => none
  | .leave (n + 2) again => some (.leave (n + 1) again)
  | .leave _ true => none
  | .leave _ false => some (.status 0)
  | f => some f

def inLoop (f : Machine → Ran) (m : Machine) : Ran :=
  let r := f { m with loops := m.loops + 1 }
  { r with machine := { r.machine with loops := m.loops } }

/-- Rounds up to a number of them, with the last status and what has been printed, newest first. -/
def rounds (whileOk : Bool) (test body : Machine → Ran) : Nat → Nat → List Printed → Machine → Ran
  | 0, status, seen, m => ⟨m, seen.reverse.flatten, .status status⟩
  | n + 1, status, seen, m =>
    let t := test m
    match t.finish with
    | .status k =>
      if (k = 0) = whileOk then
        let b := body t.machine
        match afterRound b.finish with
        | none => rounds whileOk test body n b.finish.code (b.printed :: t.printed :: seen) b.machine
        | some f => ⟨b.machine, (b.printed :: t.printed :: seen).reverse.flatten, f⟩
      else ⟨t.machine, (t.printed :: seen).reverse.flatten, .status status⟩
    | f =>
      match afterRound f with
      | none => rounds whileOk test body n 0 (t.printed :: seen) t.machine
      | some f => ⟨t.machine, (t.printed :: seen).reverse.flatten, f⟩

/-- A round for each of some texts, which a variable has as its value. -/
def roundsFor (name : Text) (body : Machine → Ran) : List Text → Nat → List Printed → Machine → Ran
  | [], status, seen, m => ⟨m, seen.reverse.flatten, .status status⟩
  | t :: ts, _, seen, m =>
    let b := if Tool.isFixed m name then Redirect.outward (m.breaksItself (name ++ ": is read only".toList)) m.wiring
      else body (m.assign name t)
    match afterRound b.finish with
    | none => roundsFor name body ts b.finish.code (b.printed :: seen) b.machine
    | some f => ⟨b.machine, (b.printed :: seen).reverse.flatten, f⟩

/-- How many rounds a loop may have. -/
def roundBound : Nat := 1000000

/-- Whether a text is one that a word stands for as a pattern. -/
def fitsAny (read : Reader) (t : Text) : List Word → Expansion Bool
  | [] => return false
  | w :: ws => do
    let gs ← w.glyphs read
    if Glob.fits (Glob.ofGlyphs gs) t then return true else fitsAny read t ws

mutual

/-- What a command does; a reader deals with what is not part of it. -/
def eval (read : Reader) : Script → Machine → Ran
  | .skip, m => m.ends m.status
  | .simple line assigned words redirects, m =>
    if m.manner.idle then m.ends 0
    else strictly m.tested (attend read (noted (runSimple read assigned words redirects { m with line := line })))
  | .andThen a b, m => andNext (eval read a m) fun _ k => eval read b k
  | .ifOk a b, m => andNext (asTest (eval read a) m) fun n k => if n = 0 then eval read b k else k.ends n
  | .ifFailed a b, m =>
    andNext (asTest (eval read a) m) fun n k => if n = 0 then k.ends n else eval read b k
  | .negate a, m =>
    andNext (asTest (eval read a) m) fun n k => noted (k.ends (if n = 0 then 1 else 0))
  | .pipe a b, m => strictly m.tested (attend read (noted (between read (eval read a) (eval read b) m)))
  | .background a, m =>
    Signal.heeded (Signal.detached m
      (aside read (eval read a) { m with input := [], course := m.course.beside }))
  | .apart a, m => strictly m.tested (attend read (noted (aside read (eval read a) m)))
  | .redirected line a redirects, m =>
    let fatal := m.manner.strict && !m.tested
    noted (Redirect.around read fatal redirects (eval read a) { m with line := line })
  | .choice test yes no, m => andNext (asTest (eval read test) m) fun n k =>
    if n = 0 then eval read yes k
    else match no with
      | .skip => noted (k.ends 0)
      | no => eval read no k
  | .loop whileOk test body, m =>
    noted (inLoop (rounds whileOk (asTest (eval read test)) (eval read body) roundBound 0 []) m)
  | .forEach name items body, m =>
    having (Word.expandAll read items)
      (fun ts _ n => noted (inLoop (roundsFor name (eval read body) ts 0 []) n)) m
  | .select subject arms, m =>
    having (subject.text read) (fun t _ n => evalArms read t arms n) m
  | .define name body, m =>
    noted (({ m with functions := (name, body) :: m.functions.filter (·.1 ≠ name) } : Machine).ends 0)

/-- What is done for a text. -/
def evalArms (read : Reader) (t : Text) : Arms → Machine → Ran
  | .nil, m => noted (m.ends 0)
  | .cons patterns body rest, m =>
    having (fitsAny read t patterns)
      (fun fitting _ n =>
        if fitting then
          match body with
          | .skip => noted (n.ends 0)
          | body => eval read body n
        else evalArms read t rest n) m

end

/-- Runs the lines of a text, each as soon as it has been read. -/
def runLines (read : Reader) : Nat → Nat → List Token → Machine → Ran
  | 0, status, _, m => m.ends status
  | n + 1, status, ts, m =>
    match StateT.run line? ⟨ts, m.aliases⟩ with
    | .error e => Redirect.outward (({ m with line := e.line } : Machine).breaksItself e.why) m.wiring
    | .ok (none, _) => m.ends status
    | .ok (some s, rest) => andNext (eval read s m) fun k m => runLines read n k rest.tokens m

/-- How deep texts and functions may stand within each other. -/
def nesting : Nat := 200

/-- What deals with texts down to a depth. -/
def reader : Nat → Reader
  | 0 => ⟨fun _ _ m => m.ends 2, fun _ m => m.ends 2, fun _ _ _ => .error .notFound, fun _ _ f => return f⟩
  | n + 1 =>
    let read := reader n
    ⟨fun line t m => let ts := tokens line t; runLines read (1000 * ts.length + 1) 0 ts m, eval read,
      fun name args m =>
        if name.isEmpty then .error .notFound else Launch.start read Launch.survive name args m, Expansion.fill read⟩

end Script

end Guidebook.Shell
