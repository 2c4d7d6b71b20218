import Guidebook.Proofs.Session.Move

namespace Guidebook.Session

variable {x : Setting} {h : Heard} {s : Session} {P : Said → Prop}

/-- What is said of a piece of work that broke off. -/
def complaints {α : Type} : Except Trouble α → List Said
  | .error t => [.say (report t)]
  | .ok _ => []

theorem staying_events (w : Work Unit) (d : Desk) : (staying w d).events = (w d).events := by
  rw [staying, Work.events_bind]
  split <;> exact List.append_nil _

theorem work_staying_events (s : Session) (w : Work Unit) :
    (s.work (staying w)).1 = (w s.desk).events ++ complaints (w s.desk).result := by
  have hr : (staying w s.desk).result = (w s.desk).result.map fun _ => .stay := by
    rw [staying, Work.result_bind]
    cases (w s.desk).result <;> rfl
  rw [work]
  dsimp only
  rw [staying_events, hr]
  cases (w s.desk).result <;> rfl

theorem emits_staying {w : Work Unit} (hw : Work.Emits P w) : Work.Emits P (staying w) :=
  Work.emits_bind hw fun _ => Work.emits_pure _

section Incidental

variable (hP : Incidental P)

include hP

theorem of_mem_titled (s : Session) (n : Nat) : ∀ e ∈ s.titled n, P e := by
  rw [titled]
  split
  · simp
  · simpa using hP.say _

theorem of_mem_enter (s : Session) (n : Nat) : ∀ e ∈ (s.enter n).1, P e := by
  intro e he
  rcases List.mem_append.mp he with he | he
  · exact of_mem_titled hP s n e he
  · simp only [List.mem_cons, List.not_mem_nil, or_false] at he
    rcases he with rfl | rfl <;> exact hP.say _

theorem of_mem_finish (s : Session) : ∀ e ∈ s.finish.1, P e := by
  have hline (g : Guide) (n : Nat) : ∀ e ∈ openLine g n, P e := by
    rw [openLine]
    split
    · simp
    · simpa using hP.say _
  rw [finish]
  split
  · simpa using hP.say _
  · intro e he
    rcases List.mem_cons.mp he with rfl | he
    · exact hP.say _
    · obtain ⟨es, hes, he⟩ := List.mem_flatten.mp he
      obtain ⟨n, -, rfl⟩ := List.mem_map.mp hes
      exact hline _ n e he

theorem of_mem_leave (s : Session) : ∀ e ∈ s.leave.1, P e := by
  rw [leave]
  split
  · exact of_mem_enter hP s _
  · split
    · exact of_mem_enter hP s _
    · exact of_mem_finish hP s

theorem of_mem_follow (s : Session) (way : Way) : ∀ e ∈ (s.follow way).1, P e := by
  cases way with
  | stay | quit | ask file => simp [follow]
  | enter n => exact of_mem_enter hP s n
  | leave => exact of_mem_leave hP s
  | finish => exact of_mem_finish hP s

theorem of_mem_work {w : Work Way} (hw : Work.Emits P w) (s : Session) :
    ∀ e ∈ (s.work w).1, P e := by
  rw [work]
  dsimp only
  split
  · intro e he
    rcases List.mem_append.mp he with he | he
    · exact hw _ e he
    · rw [List.mem_singleton.mp he]
      exact hP.say _
  · intro e he
    rcases List.mem_append.mp he with he | he
    · exact hw _ e he
    · exact of_mem_follow hP _ _ e he

theorem of_mem_fail (s : Session) (m : Mistake) : ∀ e ∈ (s.fail m).1, P e :=
  of_mem_work hP (Work.emits_breakOff _) s

theorem of_mem_jumpTo (s : Session) (l : Text) : ∀ e ∈ (s.jumpTo l).1, P e := by
  rw [jumpTo]
  split
  · exact of_mem_follow hP s _
  · split
    · exact of_mem_fail hP s _
    · split
      · exact of_mem_follow hP s _
      · exact of_mem_fail hP s _

theorem emits_editFile (x : Setting) (file : Text) : Work.Emits P (editFile x file) :=
  Work.emits_bind (Work.emits_edit hP _ _) fun _ => Work.emits_pure _

theorem emits_stashWork (x : Setting) (c : StashCommand) : Work.Emits P (stashWork x c) := by
  cases c with
  | view => exact emits_staying (Work.emits_viewStash hP.toSpoken)
  | edit => exact emits_staying (Work.emits_touchStash hP _)
  | clear => exact emits_staying (Work.emits_clearStash hP.toSpoken)
  | paste file mode => exact emits_staying (Work.emits_paste hP.toSpoken file mode)
  | place file =>
    refine Work.emits_bind (Work.emits_nothing fun _ => rfl) fun t => ?_
    split
    · exact emits_staying (emits_editFile hP x file)
    · exact Work.emits_pure _

theorem emits_placeWork (x : Setting) (file answer : Text) :
    Work.Emits P (placeWork x file answer) := by
  have hj : Work.Emits P (staying (editFile x file)) := emits_staying (emits_editFile hP x file)
  rw [placeWork]
  dsimp only
  split
  · exact Work.emits_bind (Work.emits_paste hP.toSpoken _ _) fun _ => hj
  · split
    · exact Work.emits_bind (Work.emits_paste hP.toSpoken _ _) fun _ => hj
    · exact hj

/-- Whatever a command does is incidental, unless it is one that may lead to a command being run. -/
theorem of_mem_obey (s : Session) {c : Command} (hpick : ∀ n, c ≠ .pick n)
    (hshell : ∀ t, c ≠ .shell t) : ∀ e ∈ (s.obey x c).1, P e := by
  have hlisted (t : Session) : ∀ e ∈ [t.listed], P e := by simpa [listed] using hP.say _
  cases c with
  | nothing => simp [obey, follow]
  | home =>
    intro e he
    rcases List.mem_append.mp he with he | he
    · exact of_mem_titled hP _ _ e he
    · exact hlisted _ e he
  | suggestions | nextPage | prevPage | page n => exact hlisted _
  | flow | help => simpa [obey, Session.flow] using hP.say _
  | pick n => exact absurd rfl (hpick n)
  | nextStep =>
    rw [obey]
    split
    · exact of_mem_finish hP _
    · exact of_mem_follow hP _ _
  | goto n =>
    rw [obey]
    split
    · exact of_mem_fail hP s _
    · exact of_mem_follow hP s _
  | finish => exact of_mem_finish hP s
  | quit => exact of_mem_follow hP s .quit
  | leave => exact of_mem_leave hP s
  | stash c => exact of_mem_work hP (emits_stashWork hP x c) s
  | shell t => exact absurd rfl (hshell t)

/-- To have a suggestion edited is incidental, but a command may be run after it. -/
theorem emits_pick (x : Setting) (number : Nat) (step : Step) {y : Suggestion}
    (hrun : y.kind = .cmd → ∀ c, P (.run c)) : Work.Emits P (pick x number step y) := by
  rw [pick]
  split
  · next hk =>
    refine Work.emits_bind (Work.emits_editText hP _ _ _) fun t => ?_
    split
    · exact Work.emits_say hP.toSpoken _
    · dsimp only
      split
      · exact Work.emits_say hP.toSpoken _
      · exact Work.emits_execute hP.toSpoken (hrun hk) _ _ _ _
  · refine Work.emits_bind (Work.emits_editText hP _ _ _) fun t => ?_
    split
    · exact Work.emits_say hP.toSpoken _
    · split
      · exact Work.emits_breakOff _
      · exact Work.emits_bind (Work.emits_onStash _) fun _ => Work.emits_say hP.toSpoken _

/-- To answer any other question than the one for a command is incidental, and so is a mistake. -/
theorem of_mem_hear_of_none (hremember : ∀ l, P (.remember l)) (hc : s.command? x h = none) :
    ∀ e ∈ (hear x h s).1, P e := by
  cases h with
  | closed => simp [hear_closed]
  | failed e =>
    by_cases hp : ∃ file, s.place = .placing file
    · obtain ⟨file, hp⟩ := hp
      rw [hear_failed_placing hp]
      exact of_mem_work hP (Work.emits_breakOff _) s
    · simp [hear_failed fun file hf => hp ⟨file, hf⟩]
  | line l =>
    cases hp : s.place with
    | acknowledge => simpa [hear_acknowledge hp, listed] using ⟨hP.say _, hP.say _⟩
    | command =>
      rw [command?_line hp] at hc
      cases ho : Command.ofInput x.home l with
      | error m =>
        rw [hear_mistake hp ho]
        simpa using ⟨hremember l, of_mem_fail hP s m⟩
      | ok c => simp [ho, Except.toOption] at hc
    | confirm =>
      rw [hear_confirm hp]
      split <;> simp
    | jump =>
      rw [hear_jump hp]
      exact of_mem_jumpTo hP s l
    | placing file =>
      rw [hear_placing hp]
      exact of_mem_work hP (emits_placeWork hP x file l) s

/-- Whatever follows a line is incidental, but for commands that are run and lines to be
remembered. -/
theorem of_mem_hear (hrun : ∀ c, P (.run c)) (hremember : ∀ l, P (.remember l)) (x : Setting)
    (h : Heard) (s : Session) : ∀ e ∈ (hear x h s).1, P e := by
  cases hc : s.command? x h with
  | none => exact of_mem_hear_of_none hP hremember hc
  | some c =>
    obtain ⟨hp, l, rfl, ho⟩ := command?_eq_some hc
    have hobey : ∀ e ∈ (s.obey x c).1, P e := by
      cases c with
      | pick n =>
        simp only [obey]
        split
        · split
          · exact of_mem_work hP (emits_staying (emits_pick hP x _ _ fun _ => hrun)) s
          · exact of_mem_fail hP s _
        · exact of_mem_fail hP s _
      | shell t => exact of_mem_work hP (emits_staying (Work.emits_execute hP.toSpoken hrun _ _ _ _)) s
      | _ => exact of_mem_obey hP s (by simp) (by simp)
    rw [hear_command hp ho]
    simpa using ⟨hremember l, hobey⟩

end Incidental

end Guidebook.Session
