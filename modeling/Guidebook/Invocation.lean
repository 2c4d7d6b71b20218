import Guidebook.Input.Keyboard
import Guidebook.Input.Pipe
import Guidebook.Interview
import Guidebook.Program.Basic
import Guidebook.Record.Json
import Guidebook.Request
import Guidebook.Session
import Guidebook.Settings
import Guidebook.Shell.Host

namespace Guidebook

/-- What a program reads from and writes to: pipes, or a terminal with rows and somebody at its
keys. -/
inductive Console where
  | pipe (input : Bytes)
  | terminal (rows : Nat) (keys : List Key)

def Console.isTerminal : Console → Bool
  | .terminal .. => true
  | .pipe _ => false

def Console.rows? : Console → Option Nat
  | .terminal rows _ => some rows
  | .pipe _ => none

/-- A program that is started: the content of its own file, its arguments, the variables of the
environment, the console, the files and the present second. -/
structure Invocation where
  program : Bytes
  args : List Text
  env : List (Text × Text)
  console : Console
  tree : FileTree
  now : Int

/-- What comes of it: what was written, the files afterwards, and what went wrong. Arguments that
make no sense are not a fault of the program. -/
structure Completion where
  output : Bytes
  tree : FileTree
  result : Except (Option Fault) Unit

namespace Completion

def code (c : Completion) : Nat :=
  match c.result with
  | .ok () => 0
  | .error (some _) => 1
  | .error none => 2

/-- What is told about what went wrong. -/
def report (c : Completion) : Text :=
  match c.result with
  | .error (some f) => f.report
  | _ => []

end Completion

namespace Invocation

def environment (i : Invocation) : Env := fun name => i.env.lookup name

def done (i : Invocation) (t : Text) : Completion := ⟨Utf8.encode t, i.tree, .ok ()⟩

def failed (i : Invocation) (f : Fault) : Completion := ⟨[], i.tree, .error (some f)⟩

/-- Everything that is seen of a conversation. -/
def transcript {μ : Type} (word : μ → Text) (es : List (Event μ)) : Bytes :=
  es.flatMap fun e => match e with
    | .say m => Utf8.encode (word m)
    | .read _ _ shown => Utf8.encode shown
    | .printed b => b
    | _ => []

/-- Asks somebody at a terminal for the records of a guide. -/
def interview (i : Invocation) : Bytes × Except Document.Failure (List Record) :=
  match i.console with
  | .pipe _ => ([], .error .notInteractive)
  | .terminal _ keys =>
    let r := Interview.conduct Keyboard.source ⟨[], keys⟩
    (transcript id r.1, r.2.1)

def records (i : Invocation) : Origin → Bytes × Except Document.Failure (List Record)
  | .document p => ([], Document.ofFile i.tree p)
  | .interview => i.interview

def identityOf : Origin → Text
  | .document p => Payload.identityOf p
  | .interview => Payload.usualIdentity

/-- Goes on with the records, after what was seen while they were gathered. -/
def withRecords (i : Invocation) (o : Origin) (f : List Record → Completion) : Completion :=
  match i.records o with
  | (seen, .error e) => ⟨seen, i.tree, .error (some e.fault)⟩
  | (seen, .ok rs) =>
    let c := f rs
    { c with output := seen ++ c.output }

def printRecords (i : Invocation) (o : Origin) : Completion :=
  i.withRecords o fun rs =>
    i.done ((Json.arr (rs.map Record.toJson)).pretty ++ ['\n'])

def ofBuild (e : BuildError) : Fault := (Document.Failure.build e).fault

/-- Writes a program that walks through the guide, made from this program. -/
def writeProgram (i : Invocation) (output : Text) (g : Guide) : Completion :=
  match Program.write i.program (.make (Payload.identityOf output) g) output i.tree with
  | (t, .error f) => ⟨[], t, .error (some f)⟩
  | (t, .ok ()) =>
    ⟨Utf8.encode ("Wrote ".toList ++ output ++ " (".toList ++ Text.ofNat g.stepCount ++
      " steps)\n".toList), t, .ok ()⟩

def build (i : Invocation) (o : Origin) (output : Option Text) : Completion :=
  i.withRecords o fun rs =>
    match Guide.ofRecords rs with
    | .error e => i.failed (ofBuild e)
    | .ok g => i.writeProgram (output.getD (identityOf o)) g

def host (i : Invocation) (c : Settings) : Shell.Host :=
  ⟨c.shellProgram, c.editorProgram, i.env, i.console.isTerminal⟩

def look (i : Invocation) (c : Settings) (o : PlayOptions) : Look :=
  ⟨c.color && i.console.isTerminal, .ofSettings (o.pageSize <|> c.pageSize) i.console.rows?⟩

def setting (i : Invocation) (c : Settings) (o : PlayOptions) : Setting :=
  ⟨i.look c o, (i.host c).runner, i.environment.home, i.now⟩

def desk (i : Invocation) (c : Settings) (identity : Text) : Desk :=
  .openAt (c.stateDirFor i.environment identity) (c.scratch i.environment) c.maxHistory i.tree

/-- The commands of earlier sessions that fit on a line. -/
def recallable (h : History) : List Text :=
  (h.entries.map (·.command)).filter fun c => !c.contains '\n'

def conclude (l : Look) (es : List Said) (s : Session) (e : Ending) : Completion :=
  ⟨transcript (Message.text l) es, s.desk.tree, match e with
    | .failed e => .error (some (.ofIo e))
    | _ => .ok ()⟩

/-- A session on the console. -/
def session (i : Invocation) (g : Guide) (identity : Text) (c : Settings) (o : PlayOptions) :
    Completion :=
  let x := i.setting c o
  let d := i.desk c identity
  let step := o.step.getD 1
  match i.console with
  | .pipe input =>
    let r := Session.conduct x Pipe.source (.ofBytes input) g d step
    conclude x.look r.1 r.2.1.1 r.2.1.2
  | .terminal _ keys =>
    let r := Session.conduct x Keyboard.source ⟨recallable d.history, keys⟩ g d step
    conclude x.look r.1 r.2.1.1 r.2.1.2

def ofSettings : Settings.Failure → Fault
  | .unreadable e => .ofIo e
  | .malformed => ⟨"The settings make no sense".toList, []⟩

def isStep (g : Guide) (step : Nat) : Bool := 1 ≤ step && step ≤ g.stepCount

/-- Plays a guide under the settings that are found. A step that it is to start at has to exist. -/
def play (i : Invocation) (g : Guide) (identity : Text) (o : PlayOptions) : Completion :=
  match Settings.load i.tree i.environment with
  | .error e => i.failed (ofSettings e)
  | .ok c =>
    match o.step.filter fun n => !isStep g n with
    | some n => i.failed ⟨(Mistake.noStep n g.stepCount).message, []⟩
    | none => i.session g identity c o

def playDocument (i : Invocation) (p : Text) (o : PlayOptions) : Completion :=
  match Document.ofFile i.tree p with
  | .error e => i.failed e.fault
  | .ok rs =>
    match Guide.ofRecords rs with
    | .error e => i.failed (ofBuild e)
    | .ok g => i.play g (Payload.identityOf p) o

def refused (i : Invocation) : Completion := ⟨[], i.tree, .error none⟩

def versionLine (name : Text) : Text := name ++ ' ' :: Payload.version ++ ['\n']

def usage : Text :=
  "Usage: walkbook --from <PATH> [--output <PATH>]\n       walkbook play <SPEC>\n".toList

/-- Does what was asked for. The guide is the one that the program carries, if it carries one. -/
def serve (i : Invocation) (p : Option Payload) : Request → Completion
  | .help => i.done usage
  | .version name => i.done (versionLine name)
  | .completions _ => i.done []
  | .records o => i.printRecords o
  | .build o output => i.build o output
  | .play d o => i.playDocument d o
  | .walk o =>
    match p with
    | some p => i.play p.guide p.identity o
    | none => i.refused

/-- What a program is asked for by its arguments. A program that carries a guide is asked for nothing
but to walk through it. -/
def request (p : Option Payload) (args : List Text) : Option Request :=
  match p with
  | some p => Request.ofWalkArgs p.identity args
  | none => Request.ofArgs args

/-- Looks into the program's own file first. -/
def run (i : Invocation) : Completion :=
  match Program.load i.program with
  | .error e => i.failed ⟨e.message, []⟩
  | .ok p =>
    match request p i.args with
    | none => i.refused
    | some r => i.serve p r

/-- Whether a program that is started with these arguments reads its input. -/
def listens (program : Bytes) (args : List Text) : Bool :=
  match Program.load program with
  | .error _ => false
  | .ok p => ((request p args).map Request.converses).getD false

end Invocation

end Guidebook
