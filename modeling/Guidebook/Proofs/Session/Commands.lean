import Guidebook.Proofs.Command.Grammar
import Guidebook.Proofs.Session.Course
import Guidebook.Proofs.Session.Events

namespace Guidebook

/-- The command that is run, if the event is that. -/
def Event.command? {μ : Type} : Event μ → Option Text
  | .run c => some c
  | _ => none

/-- The commands that are run, in order. -/
def commands {μ : Type} (es : List (Event μ)) : List Text := es.filterMap Event.command?

theorem commands_append {μ : Type} (es fs : List (Event μ)) :
    commands (es ++ fs) = commands es ++ commands fs := List.filterMap_append

theorem commands_eq_nil {μ : Type} {es : List (Event μ)} (h : ∀ e ∈ es, e.command? = none) :
    commands es = [] := List.filterMap_eq_nil_iff.mpr h

theorem incidental_command? : Incidental fun e => e.command? = none :=
  ⟨⟨fun _ => rfl, fun _ => rfl, fun _ => rfl⟩, fun _ _ => rfl⟩

theorem commands_execute (r : Runner) (now : Int) (step : Nat) (c : Text) (d : Desk) :
    commands (Work.execute r now step c d).events = [c] := by
  obtain ⟨es, he, hes⟩ := Work.execute_events incidental_command?.toSpoken r now step c d
  rw [he]
  exact congrArg (c :: ·) (commands_eq_nil hes)

namespace Command

theorem ofLine_shell {home : Option Text} {t c : Text} (h : ofLine home t = .ok (.shell c)) :
    c = t := by
  have hverbs : ∀ p ∈ verbs, ∀ n, p.2 n ≠ .shell c := by simp [verbs]
  rw [ofLine] at h
  split at h
  · cases hn : number t <;> simp [hn, Except.map] at h
  · dsimp only at h
    split at h
    · simpa using h.symm
    · split at h
      · next make hm =>
        split at h
        · cases h
        · cases hn : number (Text.trim (split t).2) with
          | error m => simp [hn, Except.map] at h
          | ok n =>
            rw [hn] at h
            exact absurd (Except.ok.inj h) (hverbs _ (mem_of_lookup hm) n)
      · split at h
        · cases hs : StashCommand.ofWords home (Text.words (split t).2) <;>
            simp [hs, Except.map] at h
        · simpa using h.symm

/-- Only the whole of a line is a command for the shell. -/
theorem ofInput_shell {home : Option Text} {l c : Text} (h : ofInput home l = .ok (.shell c)) :
    c = Text.trim l := by
  have haliases : ∀ p ∈ aliases, p.2 ≠ .shell c := by simp [aliases]
  rw [ofInput] at h
  split at h
  · cases h
  · split at h
    · next ha => exact absurd (Except.ok.inj h) (haliases _ (mem_of_lookup ha))
    · exact ofLine_shell h

end Command

namespace Session

variable {x : Setting} {s : Session} {h : Heard}

/-- The command that a picked suggestion has become: what is left of the saved text, if anything
is, once the editor ended well. -/
def picked? (x : Setting) (number : Nat) (step : Step) (y : Suggestion) (d : Desk) : Option Text :=
  match y.kind, (Work.editText x.runner ".sh".toList (Buffer.ofCommand number step y) d).result with
  | .cmd, .ok (some t) =>
    if (Buffer.stripComments t).isEmpty then none else some (Buffer.stripComments t)
  | _, _ => none

theorem commands_pick (x : Setting) (number : Nat) (step : Step) (y : Suggestion) (d : Desk) :
    commands (pick x number step y d).events = (picked? x number step y d).toList := by
  cases hk : y.kind with
  | snippet =>
    rw [commands_eq_nil (emits_pick incidental_command? x number step (by simp [hk]) d)]
    simp [picked?, hk]
  | cmd =>
    have hedit := commands_eq_nil (Work.emits_editText incidental_command? x.runner ".sh".toList
      (Buffer.ofCommand number step y) d)
    simp only [pick, picked?, hk, Work.events_bind, commands_append, hedit, List.nil_append]
    cases (Work.editText x.runner ".sh".toList (Buffer.ofCommand number step y) d).result with
    | error e => rfl
    | ok o =>
      cases o with
      | none => rfl
      | some t =>
        dsimp only
        split
        · rfl
        · exact commands_execute ..

theorem picked?_eq_some {number : Nat} {step : Step} {y : Suggestion} {d : Desk} {c : Text} :
    picked? x number step y d = some c ↔
      y.kind = .cmd ∧ ∃ t, Work.Saved x.runner ".sh".toList (Buffer.ofCommand number step y) d t ∧
        Buffer.stripComments t ≠ [] ∧ Buffer.stripComments t = c := by
  rw [picked?]
  simp only [← Work.editText_eq_some]
  generalize (Work.editText x.runner ".sh".toList (Buffer.ofCommand number step y) d).result = r
  split
  · next t hk => simp [hk]
  · next hn =>
    simp only [reduceCtorEq, false_iff]
    rintro ⟨hk, t, hr, -⟩
    exact hn t hk hr

/-- The command that is run when a command is obeyed. -/
def ran? (x : Setting) (s : Session) : Command → Option Text
  | .shell t => some t
  | .pick (i + 1) => do picked? x s.step (← s.guide.step? s.step) (← s.here[i]?) s.desk
  | _ => none

theorem commands_complaints {α : Type} (r : Except Trouble α) : commands (complaints r) = [] := by
  cases r <;> rfl

theorem commands_staying (s : Session) (w : Work Unit) :
    commands (s.work (staying w)).1 = commands (w s.desk).events := by
  rw [work_staying_events, commands_append, commands_complaints, List.append_nil]

theorem commands_obey (s : Session) (c : Command) :
    commands (s.obey x c).1 = (s.ran? x c).toList := by
  have hfail (m : Mistake) : commands (s.fail m).1 = [] :=
    commands_eq_nil (of_mem_fail incidental_command? s m)
  cases c with
  | pick n =>
    cases n with
    | zero => cases hs : s.guide.step? s.step <;> simp [obey, ran?, hs, hfail]
    | succ i =>
      cases hs : s.guide.step? s.step with
      | none => simp [obey, ran?, hs, hfail]
      | some step =>
        cases hy : s.here[i]? with
        | none => simp [obey, ran?, hs, hy, hfail]
        | some y => simp [obey, ran?, hs, hy, commands_staying, commands_pick]
  | shell t => exact (commands_staying s _).trans (commands_execute ..)
  | _ => exact commands_eq_nil (of_mem_obey incidental_command? s (by simp) (by simp))

theorem commands_hear (x : Setting) (h : Heard) (s : Session) :
    commands (hear x h s).1 = ((s.command? x h).bind (s.ran? x)).toList := by
  cases hc : s.command? x h with
  | none => exact commands_eq_nil (of_mem_hear_of_none incidental_command? (fun _ => rfl) hc)
  | some c =>
    obtain ⟨hp, l, rfl, ho⟩ := command?_eq_some hc
    rw [hear_command hp ho]
    exact commands_obey s c

/-- The reasons for a command to be run: it was typed at the prompt of a step, or it is what was
left when a suggestion of the step had been edited and saved. -/
inductive Wanted (x : Setting) (s : Session) (h : Heard) : Text → Prop where
  | typed (l : Text) (hl : h = .line l) (hc : s.command? x h = some (.shell (Text.trim l))) :
    Wanted x s h (Text.trim l)
  | reviewed (i : Nat) (step : Step) (y : Suggestion) (t : Text)
    (hc : s.command? x h = some (.pick (i + 1))) (hs : s.guide.step? s.step = some step)
    (hy : s.here[i]? = some y) (hk : y.kind = .cmd)
    (ht : Work.Saved x.runner ".sh".toList (Buffer.ofCommand s.step step y) s.desk t)
    (hne : Buffer.stripComments t ≠ []) : Wanted x s h (Buffer.stripComments t)

theorem mem_commands_hear {c : Text} : c ∈ commands (hear x h s).1 ↔ Wanted x s h c := by
  rw [commands_hear, Option.mem_toList, Option.bind_eq_some_iff]
  constructor
  · rintro ⟨k, hc, hr⟩
    obtain ⟨-, l, rfl, ho⟩ := command?_eq_some hc
    unfold ran? at hr
    split at hr
    · next t =>
      cases hr
      rw [Command.ofInput_shell ho] at hc ⊢
      exact .typed l rfl hc
    · next i =>
      obtain ⟨step, hs, y, hy, hp⟩ := by simpa [Option.bind_eq_some_iff] using hr
      obtain ⟨hk, t, ht, hne, rfl⟩ := picked?_eq_some.mp hp
      exact .reviewed i step y t hc hs hy hk ht hne
    · cases hr
  · rintro (⟨l, hl, hc⟩ | ⟨i, step, y, t, hc, hs, hy, hk, ht, hne⟩)
    · exact ⟨_, hc, rfl⟩
    · refine ⟨_, hc, ?_⟩
      simpa [ran?, hs, hy] using picked?_eq_some.mpr ⟨hk, t, ht, hne, rfl⟩

theorem commands_start (g : Guide) (desk : Desk) (step : Nat) :
    commands (start g desk step).1 = [] :=
  commands_eq_nil (of_mem_enter incidental_command? _ _)

/-- Each command that a session runs is run in one of its rounds, at most one in each, and it is run
there if and only if somebody has typed it or has reviewed it. -/
theorem conduct_commands {ι : Type} (x : Setting) (src : Source ι) (i : ι) (g : Guide) (desk : Desk)
    (step : Nat) :
    commands (conduct x src i g desk step).1 =
      (rounds x src i g desk step).flatMap (fun e => commands e.events) ∧
    ∀ e ∈ rounds x src i g desk step,
      (commands e.events).length ≤ 1 ∧
      ∀ c, c ∈ commands e.events ↔ Wanted x (e.before.supplied e.behind) e.heard c := by
  refine ⟨?_, fun e he => ?_⟩
  · rw [conduct_events, commands_append, commands_start, List.nil_append, commands,
      List.filterMap_flatMap]
    rfl
  · rw [← events_made ((course_conduct x src i g desk step).made e he)]
    exact ⟨commands_hear x _ _ ▸ Option.length_toList_le, fun c => mem_commands_hear⟩

end Session

end Guidebook
