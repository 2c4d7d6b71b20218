import Guidebook.Proofs.Guide.Progress
import Guidebook.Proofs.Pager.Pages
import Guidebook.Proofs.Work.Events

namespace Guidebook

/-- A way that does not lead away from the step. -/
inductive Way.Keeps : Way → Prop where
  | stay : Keeps .stay
  | ask (file : Text) : Keeps (.ask file)

namespace Session

/-- The command that a session hears at the prompt of a step. -/
def command? (x : Setting) (s : Session) : Heard → Option Command
  | .line l => if s.place = .command then (Command.ofInput x.home l).toOption else none
  | _ => none

/-- A session once the step is marked that a line says is done. -/
def marked (x : Setting) (h : Heard) (s : Session) : Session :=
  if s.command? x h = some .nextStep then { s with guide := s.guide.markDone s.step } else s

variable (x : Setting) (h : Heard) (s : Session)

/-- The reasons for a walkthrough to be finished: a command leads to its end and nothing else is
left to do, or somebody wants it to be finished anyway. -/
inductive Completes : Prop where
  | nothingLeft (c : Command) (hc : s.command? x h = some c)
    (hf : c = .finish ∨ c = .nextStep ∨ c = .leave) (hu : s.unfinished = [])
  | confirmed (l : Text) (hp : s.place = .confirm) (hl : h = .line l)
    (hy : Text.isYes (Text.trim l))

/-- What a session comes to when it hears something, but for the mark on the step that it leaves. -/
inductive Move : Session ⊕ (Session × Ending) → Prop where
  | rest (d : Desk) (p : Place) (hp : p ≠ .acknowledge) :
    Move (.inl { s with desk := d, place := p })
  | turn (n : Nat) (hp : s.place = .command) :
    Move (.inl { s with page := x.look.pager.clamp n s.here.length })
  | enter (n : Nat) (hn : n ∈ s.guide.numbers) : Move (.inl (s.enter n).2)
  | complete (hc : s.Completes x h) : Move (.inr s.complete)
  | quit (hc : s.command? x h = some .quit) : Move (.inr (s, .quit))
  | close (hc : h = .closed) : Move (.inr (s, .inputClosed))
  | fail (e : IoFault) (hc : h = .failed e) : Move (.inr (s, .failed e))

variable {x h s}

section Equations

variable {l : Text}

theorem hear_acknowledge (hp : s.place = .acknowledge) :
    hear x (.line l) s = ([s.listed, .say .hint], .inl { s with place := .command }) := by
  rw [hear, hearLine, hp]

theorem hear_command {c : Command} (hp : s.place = .command)
    (hc : Command.ofInput x.home l = .ok c) :
    hear x (.line l) s = (.remember l :: (s.obey x c).1, (s.obey x c).2) := by
  rw [hear, hearLine, hp, hc]

theorem hear_mistake {m : Mistake} (hp : s.place = .command)
    (hm : Command.ofInput x.home l = .error m) :
    hear x (.line l) s = (.remember l :: (s.fail m).1, (s.fail m).2) := by
  rw [hear, hearLine, hp, hm]

theorem hear_confirm (hp : s.place = .confirm) :
    hear x (.line l) s =
      if Text.isYes (Text.trim l) then ([], .inr s.complete)
      else ([], .inl { s with place := .jump }) := by
  rw [hear, hearLine, hp]

theorem hear_jump (hp : s.place = .jump) : hear x (.line l) s = s.jumpTo l := by
  rw [hear, hearLine, hp]

theorem hear_placing {file : Text} (hp : s.place = .placing file) :
    hear x (.line l) s = s.work (placeWork x file l) := by
  rw [hear, hearLine, hp]

theorem hear_closed : hear x .closed s = ([], .inr (s, .inputClosed)) := by rw [hear]

theorem hear_failed {e : IoFault} (hp : ∀ file, s.place ≠ .placing file) :
    hear x (.failed e) s = ([], .inr (s, .failed e)) := by
  cases h : s.place <;> simp_all [hear]

theorem hear_failed_placing {e : IoFault} {file : Text} (hp : s.place = .placing file) :
    hear x (.failed e) s = s.work (Work.breakOff (.fault (.ofIo e))) := by
  simp only [hear, hp]

end Equations

section Commands

theorem command?_line {l : Text} (hp : s.place = .command) :
    s.command? x (.line l) = (Command.ofInput x.home l).toOption := if_pos hp

theorem command?_of_place (hp : s.place ≠ .command) : s.command? x h = none := by
  cases h <;> simp [command?, hp]

theorem command?_eq_some {c : Command} (hc : s.command? x h = some c) :
    s.place = .command ∧ ∃ l, h = .line l ∧ Command.ofInput x.home l = .ok c := by
  by_cases hp : s.place = .command
  · cases h with
    | line l =>
      rw [command?_line hp] at hc
      cases ho : Command.ofInput x.home l with
      | error m => simp [ho, Except.toOption] at hc
      | ok c' =>
        rw [ho] at hc
        exact ⟨hp, l, rfl, by rw [ho, Option.some.inj hc]⟩
    | closed | failed e => simp [command?] at hc
  · rw [command?_of_place hp] at hc
    cases hc

theorem marked_of_ne (hn : s.command? x h ≠ some .nextStep) : s.marked x h = s := if_neg hn

theorem step_marked (s : Session) : (s.marked x h).step = s.step := by
  rw [marked]
  split <;> rfl

end Commands

theorem move_finish {c : Command} (hc : s.command? x h = some c)
    (hf : c = .finish ∨ c = .nextStep ∨ c = .leave) : Move x h s s.finish.2 := by
  rw [finish]
  split
  · next hu => exact .complete (.nothingLeft c hc hf (List.isEmpty_iff.mp hu))
  · exact .rest s.desk .confirm (by simp)

theorem step_mem_numbers (hd : s.isDone = false) : s.step ∈ s.guide.numbers := by
  by_contra hn
  simp [isDone, Guide.step?_eq_none hn] at hd

theorem move_leave (hc : s.command? x h = some .leave) : Move x h s s.leave.2 := by
  rw [leave]
  split
  · next hd => exact .enter s.step (step_mem_numbers (by simpa using hd))
  · split
    · exact .enter (s.step + 1) (Guide.mem_numbers.mpr (by omega))
    · exact move_finish hc (by simp)

/-- Work leads back to the prompt of the step, or to a question about a file. -/
theorem move_work {w : Work Way} (hw : Work.Yields Way.Keeps w) : Move x h s (s.work w).2 := by
  rw [work]
  dsimp only
  split
  · exact .rest _ .command (by simp)
  · next way hr =>
    cases hw _ _ hr with
    | stay => exact .rest _ .command (by simp)
    | ask file => exact .rest _ (.placing file) (by simp)

theorem move_fail (m : Mistake) : Move x h s (s.fail m).2 := .rest s.desk .command (by simp)

theorem yields_staying (w : Work Unit) : Work.Yields Way.Keeps (staying w) :=
  Work.yields_bind fun _ => Work.yields_pure .stay

theorem yields_stashWork (x : Setting) (c : StashCommand) :
    Work.Yields Way.Keeps (stashWork x c) := by
  cases c with
  | place file =>
    refine Work.yields_bind fun t => ?_
    split
    · exact yields_staying _
    · exact Work.yields_pure (.ask file)
  | view | edit | clear | paste file mode => exact yields_staying _

theorem yields_placeWork (x : Setting) (file answer : Text) :
    Work.Yields Way.Keeps (placeWork x file answer) := by
  rw [placeWork]
  dsimp only
  split
  · exact Work.yields_bind fun _ => yields_staying _
  · split
    · exact Work.yields_bind fun _ => yields_staying _
    · exact yields_staying _

theorem move_obey {c : Command} (hp : s.place = .command) (hc : s.command? x h = some c)
    (hn : c ≠ .nextStep) : Move x h s (s.obey x c).2 := by
  have ha : Move x h s (.inl s) := .rest s.desk s.place (by simp [hp])
  cases c with
  | nothing => exact .rest s.desk .command (by simp)
  | home =>
    have h1 := Move.turn (x := x) (h := h) 1 hp
    rwa [Pager.clamp_one] at h1
  | suggestions | flow | help => exact ha
  | pick n =>
    simp only [obey]
    split
    · split
      · exact move_work (yields_staying _)
      · exact move_fail _
    · exact move_fail _
  | nextStep => exact absurd rfl hn
  | goto n =>
    rw [obey]
    split
    · exact move_fail _
    · exact .enter n (Guide.mem_numbers.mpr (by omega))
  | nextPage | prevPage | page n => exact .turn _ hp
  | finish => exact move_finish hc (by simp)
  | quit => exact .quit hc
  | leave => exact move_leave hc
  | stash c => exact move_work (yields_stashWork x c)
  | shell t => exact move_work (yields_staying _)

theorem move_jumpTo (l : Text) : Move x h s (s.jumpTo l).2 := by
  rw [jumpTo]
  split
  · exact .rest s.desk .command (by simp)
  · split
    · exact move_fail _
    · split
      · next n _ hn => exact .enter n (Guide.mem_numbers.mpr hn)
      · exact move_fail _

theorem move_nextStep (hp : s.place = .command) (hc : s.command? x h = some .nextStep) :
    Move x h { s with guide := s.guide.markDone s.step } (s.obey x .nextStep).2 := by
  have hc' : command? x { s with guide := s.guide.markDone s.step } h = some .nextStep := by
    obtain ⟨-, l, rfl, ho⟩ := command?_eq_some hc
    rw [command?_line (by exact hp), ho]
    rfl
  rw [obey]
  split
  · exact move_finish hc' (by simp)
  · next hl =>
    exact .enter (s.step + 1)
      (Guide.mem_numbers.mpr ⟨Nat.le_add_left 1 s.step, Nat.lt_of_not_le hl⟩)

/-- Everything that a session can come to, from any state and whatever it hears. -/
theorem move_hear (x : Setting) (h : Heard) (s : Session) :
    Move x h (s.marked x h) (hear x h s).2 := by
  cases hc : s.command? x h with
  | some c =>
    obtain ⟨hp, l, rfl, ho⟩ := command?_eq_some hc
    rw [hear_command hp ho]
    by_cases hn : c = .nextStep
    · subst hn
      rw [marked, if_pos hc]
      exact move_nextStep hp hc
    · rw [marked_of_ne (by simpa [hc] using hn)]
      exact move_obey hp hc hn
  | none =>
    rw [marked_of_ne (by simp [hc])]
    cases h with
    | closed => exact .close rfl
    | failed e =>
      by_cases hp : ∃ file, s.place = .placing file
      · obtain ⟨file, hp⟩ := hp
        rw [hear_failed_placing hp]
        exact move_work fun d a ha => nomatch ha
      · rw [hear_failed fun file hf => hp ⟨file, hf⟩]
        exact .fail e rfl
    | line l =>
      cases hp : s.place with
      | acknowledge =>
        rw [hear_acknowledge hp]
        exact .rest s.desk .command (by simp)
      | command =>
        rw [command?_line hp] at hc
        cases ho : Command.ofInput x.home l with
        | error m =>
          rw [hear_mistake hp ho]
          exact move_fail m
        | ok c => simp [ho, Except.toOption] at hc
      | confirm =>
        rw [hear_confirm hp]
        split
        · next hy => exact .complete (.confirmed l hp rfl hy)
        · exact .rest s.desk .jump (by simp)
      | jump =>
        rw [hear_jump hp]
        exact move_jumpTo l
      | placing file =>
        rw [hear_placing hp]
        exact move_work (yields_placeWork x file l)

end Session

end Guidebook
