import Guidebook.Dialogue
import Guidebook.History
import Guidebook.Message
import Guidebook.Runner
import Guidebook.Stash

namespace Guidebook

/-- What a session works with: files, the stash and the history in them, the directory for what is
edited, how many commands and editors have been started, and the input that there is for them. -/
structure Desk where
  tree : FileTree
  stash : Stash
  history : History
  scratch : Text
  runs : Nat
  edits : Nat
  input : Bytes

namespace Desk

def stashFile : Text := "snippet.txt".toList

def historyFile : Text := "history.json".toList

/-- The desk of a walkthrough that keeps its state in one directory and edits in another. -/
def openAt (state scratch : Text) (limit : Nat) (t : FileTree) : Desk :=
  let r := History.openAt (Path.join state historyFile) limit t
  ⟨r.2, ⟨Path.join state stashFile⟩, r.1, scratch, 0, 0, []⟩

end Desk

abbrev Said := Event Message

/-- What came of a piece of work. What happened before it broke off has happened. -/
structure Worked (α : Type) where
  events : List Said
  desk : Desk
  result : Except Trouble α

/-- A piece of work at a desk. -/
def Work (α : Type) : Type := Desk → Worked α

namespace Work

variable {α β : Type}

def done (a : α) : Work α := fun d => ⟨[], d, .ok a⟩

def breakOff (t : Trouble) : Work α := fun d => ⟨[], d, .error t⟩

/-- The second work follows the first, unless that broke off. -/
def next (w : Work α) (f : α → Work β) : Work β := fun d =>
  match w d with
  | ⟨es, d, .error t⟩ => ⟨es, d, .error t⟩
  | ⟨es, d, .ok a⟩ =>
    let r := f a d
    ⟨es ++ r.events, r.desk, r.result⟩

instance : Monad Work where
  pure := done
  bind := next

def say (m : Message) : Work Unit := fun d => ⟨[.say m], d, .ok ()⟩

def notice (t : String) : Work Unit := say (.notice t.toList)

def ofExcept (r : Except Trouble α) : Work α := fun d => ⟨[], d, r⟩

def asFault (context : Option Text) (e : IoFault) : Trouble :=
  .fault (match context with
    | some c => (Fault.ofIo e).within c
    | none => .ofIo e)

/-- Looks at the files. -/
def look (f : FileTree → Except IoFault α) : Work α := fun d =>
  ⟨[], d, (f d.tree).mapError (asFault none)⟩

/-- Changes the files, perhaps in part; `context` says what for. -/
def change (context : Option Text) (f : FileTree → FileTree × Except IoFault α) : Work α := fun d =>
  let r := f d.tree
  ⟨[], { d with tree := r.1 }, r.2.mapError (asFault context)⟩

/-- Changes the files in one piece. -/
def whole (f : FileTree → Except Trouble (FileTree × α)) : Work α := fun d =>
  match f d.tree with
  | .error t => ⟨[], d, .error t⟩
  | .ok (t, a) => ⟨[], { d with tree := t }, .ok a⟩

def ofReply (e : Said) (d : Desk) (r : Reply) : Worked Int :=
  ⟨e :: (if r.output.isEmpty then [] else [.printed r.output]) ++
      (if r.used = 0 then [] else [.used r.used]),
    { d with tree := r.tree, input := d.input.drop r.used }, r.result.mapError .fault⟩

/-- Runs a command; the result is its exit code. -/
def command (r : Runner) (c : Text) : Work Int := fun d =>
  ofReply (.run c) { d with runs := d.runs + 1 } (r.command d.runs c d.input d.tree)

/-- Has a file edited; the result is the exit code of the editor. -/
def editor (r : Runner) (path : Text) : Work Int := fun d =>
  ofReply (.edit path (d.tree.read path).toOption) { d with edits := d.edits + 1 }
    (r.editor d.edits path d.input d.tree)

/-- Has a file edited and says so if the editor fails. -/
def edit (r : Runner) (path : Text) : Work Bool := do
  let code ← editor r path
  if code = 0 then done true
  else do
    say (.warning ("Editor exited with ".toList ++ Text.ofInt code ++ " (".toList ++
      (Outcome.ofCode code).label ++ ")".toList))
    done false

/-- Does the work and takes a file away after it, even if it breaks off. -/
def thenRemove (path : Text) (w : Work α) : Work α := fun d =>
  let r := w d
  { r with desk := { r.desk with tree := (r.desk.tree.removeFile path).toOption.getD r.desk.tree } }

def scratchName : Text := "walkbook-".toList

/-- A new file in the scratch directory; the result is its path. -/
def scratchFile (suffix content : Text) : Work Text := do
  let dir := (← scratchDir)
  change (some ("Failed to create scratch directory ".toList ++ dir)) (·.makePath dir)
  let place := if dir.isEmpty then ['.'] else dir
  whole fun t =>
    (t.makeTemp place scratchName suffix false (Utf8.encode content)).mapError
      (asFault (some ("Failed to create scratch file in ".toList ++ dir)))
where
  scratchDir : Work Text := fun d => ⟨[], d, .ok d.scratch⟩

/-- Has a text edited in a file of its own. There is no result if the editor fails. -/
def editText (r : Runner) (suffix content : Text) : Work (Option Text) := do
  let path ← scratchFile suffix content
  thenRemove path do
    if ← edit r path then do
      let t ← look (·.readText path)
      done (some t)
    else done none

/-- Puts a command that was run into the history and saves it. A save that fails is not the
command's fault. -/
def record (e : HistoryEntry) : Work Unit := fun d =>
  let h := d.history.record e
  let r := h.save d.tree
  let d := { d with history := h, tree := r.1 }
  match r.2 with
  | .ok () => ⟨[], d, .ok ()⟩
  | .error e => ⟨[.say (.warning ("Could not save history: ".toList ++ e.message))], d, .ok ()⟩

/-- Runs a command from a step and records it. -/
def execute (r : Runner) (now : Int) (step : Nat) (c : Text) : Work Unit := do
  let code ← command r c
  record ⟨c, some step, now⟩
  say (.outcome code)

def onStash (f : Stash → FileTree → FileTree × Except IoFault Unit) : Work Unit := fun d =>
  change none (f d.stash) d

def readStash : Work Text := fun d => look d.stash.read d

def paste (file : Text) (mode : PasteMode) : Work Unit := do
  pasteStash
  say (.notice ("Snippet pasted into ".toList ++ file ++ " (".toList ++ mode.label ++ ").".toList))
where
  pasteStash : Work Unit := fun d =>
    whole (fun t => (d.stash.pasteInto file mode t).map fun t => (t, ())) d

def touchStash (r : Runner) : Work Unit := do
  onStash Stash.touch
  let path ← stashPath
  let _ ← edit r path
  done ()
where
  stashPath : Work Text := fun d => ⟨[], d, .ok d.stash.path⟩

def trimFeeds (t : Text) : Text := (t.reverse.dropWhile (· = '\n')).reverse

def viewStash : Work Unit := do
  let t ← readStash
  if t.isEmpty then notice "The snippet stash is empty." else say (.notice (trimFeeds t))

def clearStash : Work Unit := do
  onStash Stash.clear
  notice "Snippet stash cleared."

end Work

end Guidebook
