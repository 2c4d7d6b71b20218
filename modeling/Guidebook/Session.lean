import Guidebook.Buffer
import Guidebook.Work

namespace Guidebook

/-- What a session asks for next. -/
inductive Place where
  | acknowledge
  | command
  | confirm
  | jump
  | placing (file : Text)
  deriving DecidableEq, Repr

/-- How a session ends: the walkthrough is finished, somebody quits, the input ends, or it cannot be
read. -/
inductive Ending where
  | completed
  | quit
  | inputClosed
  | failed (e : IoFault)
  deriving DecidableEq, Repr

/-- What a session works under: the look of what it says, who runs its commands, the home directory
and the present second. -/
structure Setting where
  look : Look
  runner : Runner
  home : Option Text
  now : Int

/-- A walkthrough under way. Steps and pages are numbered from one. -/
structure Session where
  guide : Guide
  step : Nat
  page : Nat
  place : Place
  desk : Desk

/-- Where a command leads. -/
inductive Way where
  | stay
  | enter (step : Nat)
  | leave
  | finish
  | quit
  | ask (file : Text)
  deriving DecidableEq, Repr

namespace Session

/-- What follows a line that was heard. -/
abbrev Turn := List Said × (Session ⊕ (Session × Ending))

def here (s : Session) : List Suggestion := s.guide.suggestionsOf s.step

def prompt (s : Session) : Text :=
  let total := Text.ofNat s.guide.stepCount
  match s.place with
  | .acknowledge => "Press Enter to continue... ".toList
  | .command => '[' :: Text.ofNat s.step ++ '/' :: total ++ "]> ".toList
  | .confirm => "Finish anyway? [y/N] ".toList
  | .jump => "Jump to step [1-".toList ++ total ++ "], Enter to cancel: ".toList
  | .placing file =>
    "Put the snippet into ".toList ++ file ++ "? [a]ppend, [o]verwrite, [s]kip: ".toList

def listed (s : Session) : Said := .say (.suggestions s.here s.page)

def titled (s : Session) (step : Nat) : List Said :=
  match s.guide.step? step with
  | none => []
  | some x => [.say (.header step s.guide.stepCount x)]

def flow (s : Session) (step : Nat) : Said := .say (.flow s.guide.steps step)

/-- Shows a step and waits for somebody to take note of it. -/
def enter (s : Session) (step : Nat) : List Said × Session :=
  (s.titled step ++ [.say .blank, s.flow step],
    { s with step := step, page := 1, place := .acknowledge })

def complete (s : Session) : Session × Ending :=
  ({ s with guide := s.guide.markDone s.step }, .completed)

/-- The steps but the present one that are not done. -/
def unfinished (s : Session) : List Nat := s.guide.pending.filter (· ≠ s.step)

def openLine (g : Guide) (number : Nat) : List Said :=
  match g.step? number with
  | none => []
  | some x =>
    [.say (.notice ("  ".toList ++ Text.ofNat number ++ ". ".toList ++ x.title))]

/-- Ends the walkthrough, but asks first if steps would be left out. -/
def finish (s : Session) : Turn :=
  if s.unfinished.isEmpty then ([.say (.notice "All steps done.".toList)], .inr s.complete)
  else
    (.say (.notice "Steps not done yet:".toList) :: (s.unfinished.map (openLine s.guide)).flatten,
      .inl { s with place := .confirm })

def isDone (s : Session) : Bool := ((s.guide.step? s.step).map Step.isDone).getD true

/-- Leaving the prompt of a step leads to the next one if the step is done, and else back to it. -/
def leave (s : Session) : Turn :=
  if !s.isDone then
    let r := s.enter s.step
    (r.1, .inl r.2)
  else if s.step < s.guide.stepCount then
    let r := s.enter (s.step + 1)
    (r.1, .inl r.2)
  else s.finish

def follow (s : Session) : Way → Turn
  | .stay => ([], .inl { s with place := .command })
  | .enter step =>
    let r := s.enter step
    (r.1, .inl r.2)
  | .leave => s.leave
  | .finish => s.finish
  | .quit => ([], .inr (s, .quit))
  | .ask file => ([], .inl { s with place := .placing file })

def report : Trouble → Message
  | .mistake m => .error m.message
  | .fault f => .warning f.line

/-- Has a suggestion edited, then runs the command or stashes the snippet it has become. -/
def pick (x : Setting) (number : Nat) (step : Step) (s : Suggestion) : Work Unit :=
  match s.kind with
  | .cmd => do
    match ← Work.editText x.runner ".sh".toList (Buffer.ofCommand number step s) with
    | none => Work.notice "Nothing was run."
    | some t =>
      let c := Buffer.stripComments t
      if c.isEmpty then Work.notice "Nothing to run." else Work.execute x.runner x.now number c
  | .snippet => do
    match ← Work.editText x.runner ".txt".toList (Buffer.ofSnippet number step s) with
    | none => Work.notice "The snippet stash was left unchanged."
    | some t =>
      match Buffer.snippet? t with
      | none => Work.breakOff (.mistake .noMarkers)
      | some c =>
        Work.onStash (·.replace c)
        Work.notice "Snippet stashed. Use ':snippet paste <file>' or ':snippet open <file>' to use it."

/-- Edits the file that the stash was to be placed in. -/
def editFile (x : Setting) (file : Text) : Work Unit := do
  let _ ← Work.edit x.runner file
  Work.done ()

def stashWork (x : Setting) : StashCommand → Work Way
  | .view => do
    Work.viewStash
    return .stay
  | .edit => do
    Work.touchStash x.runner
    return .stay
  | .clear => do
    Work.clearStash
    return .stay
  | .paste file mode => do
    Work.paste file mode
    return .stay
  | .place file => do
    if (← Work.readStash).isEmpty then
      editFile x file
      return .stay
    else return .ask file

/-- What is left to do with a file once it is known how the stash gets into it. -/
def placeWork (x : Setting) (file answer : Text) : Work Way := do
  let a := Text.lower (Text.trim answer)
  if a = "a".toList ∨ a = "append".toList then Work.paste file .append
  else if a = "o".toList ∨ a = "overwrite".toList then Work.paste file .overwrite
  editFile x file
  return .stay

/-- Does a piece of work and goes where it leads. Work that breaks off is reported and leads
nowhere. -/
def work (s : Session) (w : Work Way) : Turn :=
  let r := w s.desk
  let s := { s with desk := r.desk }
  match r.result with
  | .error t => (r.events ++ [.say (report t)], .inl { s with place := .command })
  | .ok way =>
    let f := s.follow way
    (r.events ++ f.1, f.2)

def staying (w : Work Unit) : Work Way := do
  w
  return .stay

def fail (s : Session) (m : Mistake) : Turn := s.work (Work.breakOff (.mistake m))

def turnPage (x : Setting) (s : Session) (page : Nat) : Turn :=
  let s := { s with page := x.look.pager.clamp page s.here.length }
  ([s.listed], .inl s)

def obey (x : Setting) (s : Session) : Command → Turn
  | .nothing => s.follow .stay
  | .home =>
    let s := { s with page := 1 }
    (s.titled s.step ++ [s.listed], .inl s)
  | .suggestions => ([s.listed], .inl s)
  | .flow => ([s.flow s.step], .inl s)
  | .help => ([.say .help], .inl s)
  | .pick n =>
    match s.guide.step? s.step, n with
    | some step, i + 1 =>
      match s.here[i]? with
      | some y => s.work (staying (pick x s.step step y))
      | none => s.fail (.noSuggestion n s.here.length)
    | _, n => s.fail (.noSuggestion n s.here.length)
  | .nextStep =>
    let s := { s with guide := s.guide.markDone s.step }
    if s.guide.stepCount ≤ s.step then s.finish else s.follow (.enter (s.step + 1))
  | .goto n =>
    if n = 0 ∨ s.guide.stepCount < n then s.fail (.noStep n s.guide.stepCount)
    else s.follow (.enter n)
  | .nextPage => s.turnPage x (s.page + 1)
  | .prevPage => s.turnPage x (s.page - 1)
  | .page n => s.turnPage x n
  | .finish => s.finish
  | .quit => s.follow .quit
  | .leave => s.leave
  | .stash c => s.work (stashWork x c)
  | .shell t => s.work (staying (Work.execute x.runner x.now s.step t))

/-- Goes where the answer says, if it is the number of a step. -/
def jumpTo (s : Session) (answer : Text) : Turn :=
  let a := Text.trim answer
  if a.isEmpty then s.follow .stay
  else match Text.natural? a with
    | none => s.fail (.notNumber a)
    | some n =>
      if 1 ≤ n ∧ n ≤ s.guide.stepCount then s.follow (.enter n)
      else s.fail (.noStep n s.guide.stepCount)

def hearLine (x : Setting) (s : Session) (l : Text) : Turn :=
  match s.place with
  | .acknowledge => ([s.listed, .say .hint], .inl { s with place := .command })
  | .command =>
    let turn := match Command.ofInput x.home l with
      | .error m => s.fail m
      | .ok c => s.obey x c
    (.remember l :: turn.1, turn.2)
  | .confirm =>
    if Text.isYes (Text.trim l) then ([], .inr s.complete) else ([], .inl { s with place := .jump })
  | .jump => s.jumpTo l
  | .placing file => s.work (placeWork x file l)

/-- A failure to read ends the session. Where it asks how the stash gets into a file, the failure
only breaks that off. -/
def hear (x : Setting) (heard : Heard) (s : Session) : Turn :=
  match heard, s.place with
  | .line l, _ => s.hearLine x l
  | .closed, _ => ([], .inr (s, .inputClosed))
  | .failed e, .placing _ => s.work (Work.breakOff (.fault (.ofIo e)))
  | .failed e, _ => ([], .inr (s, .failed e))

/-- A session whose commands have an input. -/
def supplied (s : Session) (input : Bytes) : Session :=
  { s with desk := { s.desk with input := input } }

def dialogue (x : Setting) : Dialogue Session (Session × Ending) Message where
  prompt := prompt
  hear h input s := hear x h (s.supplied input)
  rank _ := 0
  rank_closed b s t h := by cases hp : s.place <;> simp [hear] at h

/-- A session before its first step: it starts at a step of the guide, the nearest to `step`. -/
def start (g : Guide) (desk : Desk) (step : Nat) : List Said × Session :=
  let first := min (max step 1) (max g.stepCount 1)
  enter ⟨g, first, 1, .acknowledge, desk⟩ first

/-- Everything that happens in a session, its end, and what is left of the input. -/
def conduct {ι : Type} (x : Setting) (src : Source ι) (i : ι) (g : Guide) (desk : Desk) (step : Nat) :
    List Said × (Session × Ending) × ι :=
  let s := start g desk step
  let r := (dialogue x).run src i s.2
  (s.1 ++ r.1, r.2)

end Session

end Guidebook
