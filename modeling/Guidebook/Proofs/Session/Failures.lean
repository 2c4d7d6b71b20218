import Guidebook.Proofs.Session.Course
import Guidebook.Proofs.Work.Failures

namespace Guidebook.Session

open Work

variable {x : Setting} {s : Session} {h : Heard} {c : Trouble}

/-- The reasons for what a line asks for not to be done: nobody knows what the line means, there is no
such suggestion or step, or the work that it asks for breaks off. -/
inductive Fails (x : Setting) (s : Session) : Heard → Trouble → Prop where
  | misread (l : Text) (m : Mistake) (hp : s.place = .command)
    (hm : Command.ofInput x.home l = .error m) : Fails x s (.line l) (.mistake m)
  | noSuggestion (h : Heard) (n : Nat) (hc : s.command? x h = some (.pick n))
    (hn : n = 0 ∨ s.here.length < n) : Fails x s h (.mistake (.noSuggestion n s.here.length))
  | noStep (h : Heard) (n : Nat) (hc : s.command? x h = some (.goto n))
    (hn : n = 0 ∨ s.guide.stepCount < n) : Fails x s h (.mistake (.noStep n s.guide.stepCount))
  | pick (h : Heard) (i : Nat) (step : Step) (y : Suggestion) (c : Trouble)
    (hc : s.command? x h = some (.pick (i + 1))) (hs : s.guide.step? s.step = some step)
    (hy : s.here[i]? = some y) (hw : (Session.pick x s.step step y s.desk).result = .error c) :
    Fails x s h c
  | stash (h : Heard) (k : StashCommand) (c : Trouble) (hc : s.command? x h = some (.stash k))
    (hw : (stashWork x k s.desk).result = .error c) : Fails x s h c
  | shell (h : Heard) (l : Text) (c : Trouble) (hc : s.command? x h = some (.shell l))
    (hw : (execute x.runner x.now s.step l s.desk).result = .error c) : Fails x s h c
  | placing (l file : Text) (c : Trouble) (hp : s.place = .placing file)
    (hw : (placeWork x file l s.desk).result = .error c) : Fails x s (.line l) c
  | unread (e : IoFault) (file : Text) (hp : s.place = .placing file) :
    Fails x s (.failed e) (.fault (.ofIo e))
  | notNumber (l : Text) (hp : s.place = .jump) (hl : Text.trim l ≠ [])
    (hn : Text.natural? (Text.trim l) = none) :
    Fails x s (.line l) (.mistake (.notNumber (Text.trim l)))
  | noTarget (l : Text) (n : Nat) (hp : s.place = .jump)
    (ha : Text.natural? (Text.trim l) = some n) (hn : n = 0 ∨ s.guide.stepCount < n) :
    Fails x s (.line l) (.mistake (.noStep n s.guide.stepCount))

/-- Trouble is told once, and the session asks for the next command where it is. -/
structure Reported (s : Session) (c : Trouble) (n : Turn) : Prop where
  told : complaintsOf n.1 = [report c]
  next : ∃ d, n.2 = .inl { s with desk := d, place := .command } ∧ d.history = s.desk.history

theorem complaintsOf_report (c : Trouble) : complaintsOf [.say (report c)] = [report c] := by
  cases c <;> rfl

/-- Work that breaks off has not complained before. -/
theorem reported_work {w : Work Way} (hw : QuietUnless (fun _ => True) w)
    (hc : (w s.desk).result = .error c) : Reported s c (s.work w) := by
  have hq : Quiet w s.desk := hw.quiet s.desk (by simp [hc])
  have he : s.work w = ((w s.desk).events ++ [.say (report c)],
      .inl { s with desk := (w s.desk).desk, place := .command }) := by
    rw [work, hc]
  rw [he]
  refine ⟨?_, _, rfl, hq.history⟩
  rw [complaintsOf_append, hq.silent, complaintsOf_report, List.nil_append]

theorem reported_fail (m : Mistake) : Reported s (.mistake m) (s.fail m) :=
  reported_work (quietUnless_of_quiet (quiet_breakOff _)) rfl

theorem quietUnless_staying {w : Work Unit} (hw : QuietUnless (fun _ => True) w) :
    QuietUnless (fun _ => True) (staying w) :=
  quietUnless_bind hw (fun _ => quietUnless_of_quiet (quiet_pure _))
    fun _ _ => succeeds_pure trivial

theorem result_staying_eq_error {w : Work Unit} {d : Desk} :
    (staying w d).result = .error c ↔ (w d).result = .error c := by
  rw [staying, result_bind]
  cases (w d).result with
  | error t => simp
  | ok a => simp [pure, done]

theorem quietUnless_editFile (x : Setting) (file : Text) :
    QuietUnless (fun _ => True) (editFile x file) :=
  quietUnless_edited x.runner file

theorem quietUnless_pick (x : Setting) (number : Nat) (step : Step) (y : Suggestion) :
    QuietUnless (fun _ => True) (pick x number step y) := by
  rw [pick]
  split
  · refine quietUnless_bind (quietUnless_editText _ _ _) (fun t => ?_) fun t ht => ?_
    · split
      · exact quietUnless_of_quiet (quiet_notice _)
      · dsimp only
        split
        · exact quietUnless_of_quiet (quiet_notice _)
        · exact quietUnless_execute _ _ _ _
    · subst ht
      exact succeeds_say _
  · refine quietUnless_bind (quietUnless_editText _ _ _) (fun t => ?_) fun t ht => ?_
    · split
      · exact quietUnless_of_quiet (quiet_notice _)
      · split
        · exact quietUnless_of_quiet (quiet_breakOff _)
        · exact quietUnless_of_quiet (quiet_bind (quiet_onStash _) fun _ => quiet_notice _)
    · subst ht
      exact succeeds_say _

theorem quietUnless_stashWork (x : Setting) (k : StashCommand) :
    QuietUnless (fun _ => True) (stashWork x k) := by
  cases k with
  | view => exact quietUnless_staying (quietUnless_of_quiet quiet_viewStash)
  | edit => exact quietUnless_staying (quietUnless_touchStash x.runner)
  | clear => exact quietUnless_staying (quietUnless_of_quiet quiet_clearStash)
  | paste file mode => exact quietUnless_staying (quietUnless_of_quiet (quiet_paste file mode))
  | place file =>
    refine quietUnless_after quiet_readStash fun t => ?_
    split
    · exact quietUnless_staying (quietUnless_editFile x file)
    · exact quietUnless_of_quiet (quiet_pure _)

theorem quietUnless_placeWork (x : Setting) (file answer : Text) :
    QuietUnless (fun _ => True) (placeWork x file answer) := by
  have hedit : QuietUnless (fun _ => True) (staying (editFile x file)) :=
    quietUnless_staying (quietUnless_editFile x file)
  have hpaste (mode : PasteMode) :
      QuietUnless (fun _ => True) (paste file mode >>= fun _ => staying (editFile x file)) :=
    quietUnless_after (quiet_paste file mode) fun _ => hedit
  rw [placeWork]
  dsimp only
  split
  · exact hpaste .append
  · split
    · exact hpaste .overwrite
    · exact hedit

theorem Reported.remember {n : Turn} (l : Text) (hr : Reported s c n) :
    Reported s c (.remember l :: n.1, n.2) := ⟨hr.told, hr.next⟩

theorem reported_command {k : Command} (hk : s.command? x h = some k)
    (hr : Reported s c (s.obey x k)) : Reported s c (hear x h s) := by
  obtain ⟨hp, l, rfl, ho⟩ := command?_eq_some hk
  rw [hear_command hp ho]
  exact hr.remember l

theorem obey_noSuggestion {n : Nat} (hn : n = 0 ∨ s.here.length < n) :
    s.obey x (.pick n) = s.fail (.noSuggestion n s.here.length) := by
  simp only [obey]
  split
  · next step i _ =>
    rw [List.getElem?_eq_none (by omega)]
  · rfl

/-- Whatever fails, it is told once and changes nothing. -/
theorem reported_hear (hf : Fails x s h c) : Reported s c (hear x h s) := by
  cases hf with
  | misread l m hp hm =>
    rw [hear_mistake hp hm]
    exact (reported_fail m).remember l
  | noSuggestion _ n hc hn =>
    refine reported_command hc ?_
    rw [obey_noSuggestion hn]
    exact reported_fail _
  | noStep _ n hc hn =>
    refine reported_command hc ?_
    rw [obey, if_pos hn]
    exact reported_fail _
  | pick _ i step y c hc hs hy hw =>
    refine reported_command hc ?_
    simp only [obey, hs, hy]
    exact reported_work (quietUnless_staying (quietUnless_pick x s.step step y))
      (result_staying_eq_error.mpr hw)
  | stash _ k c hc hw => exact reported_command hc (reported_work (quietUnless_stashWork x k) hw)
  | shell _ l c hc hw =>
    exact reported_command hc
      (reported_work (quietUnless_staying (quietUnless_execute x.runner x.now s.step l))
        (result_staying_eq_error.mpr hw))
  | placing l file c hp hw =>
    rw [hear_placing hp]
    exact reported_work (quietUnless_placeWork x file l) hw
  | unread e file hp =>
    rw [hear_failed_placing hp]
    exact reported_work (quietUnless_of_quiet (quiet_breakOff _)) rfl
  | notNumber l hp hl hn =>
    rw [hear_jump hp, jumpTo, if_neg (by simpa using hl), hn]
    exact reported_fail _
  | noTarget l n hp ha hn =>
    have hl : Text.trim l ≠ [] := by
      intro hl
      rw [hl] at ha
      cases ha
    rw [hear_jump hp, jumpTo, if_neg (by simpa using hl), ha]
    simp only [if_neg (show ¬ (1 ≤ n ∧ n ≤ s.guide.stepCount) by omega)]
    exact reported_fail _

section Mild

theorem complaintsOf_titled (s : Session) (n : Nat) : complaintsOf (s.titled n) = [] := by
  rw [titled]
  split <;> rfl

theorem complaintsOf_enter (s : Session) (n : Nat) : complaintsOf (s.enter n).1 = [] := by
  rw [enter, complaintsOf_append, complaintsOf_titled]
  rfl

theorem complaintsOf_finish (s : Session) : complaintsOf s.finish.1 = [] := by
  have hline (g : Guide) (n : Nat) : ∀ e ∈ openLine g n, e.complaint? = none := by
    rw [openLine]
    split
    · simp
    · simp [Event.complaint?]
  rw [finish]
  split
  · rfl
  · refine List.filterMap_eq_nil_iff.mpr fun e he => ?_
    rcases List.mem_cons.mp he with rfl | he
    · rfl
    · obtain ⟨es, hes, he⟩ := List.mem_flatten.mp he
      obtain ⟨n, -, rfl⟩ := List.mem_map.mp hes
      exact hline _ n e he

theorem complaintsOf_leave (s : Session) : complaintsOf s.leave.1 = [] := by
  rw [leave]
  split
  · exact complaintsOf_enter s _
  · split
    · exact complaintsOf_enter s _
    · exact complaintsOf_finish s

theorem complaintsOf_follow (s : Session) (way : Way) : complaintsOf (s.follow way).1 = [] := by
  cases way with
  | stay | quit | ask file => rfl
  | enter n => exact complaintsOf_enter s n
  | leave => exact complaintsOf_leave s
  | finish => exact complaintsOf_finish s

theorem mild_work {w : Work Way} (hw : QuietUnless (fun _ => True) w)
    (hn : ∀ c, (w s.desk).result ≠ .error c) : Mild (s.work w).1 := by
  rw [work]
  dsimp only
  split
  · next c hc => exact absurd hc (hn c)
  · exact (hw.mild s.desk).append (mild_of_silent (complaintsOf_follow _ _))

theorem step?_of_here (hl : 0 < s.here.length) : ∃ step, s.guide.step? s.step = some step := by
  rw [here, Guide.suggestionsOf] at hl
  cases hs : s.guide.step? s.step with
  | none => simp [hs] at hl
  | some step => exact ⟨step, rfl⟩

theorem mild_obey {k : Command} (hk : s.command? x h = some k) (hn : ∀ c, ¬Fails x s h c) :
    Mild (s.obey x k).1 := by
  cases k with
  | nothing | suggestions | flow | help | nextPage | prevPage | page n | quit =>
    exact mild_of_silent rfl
  | home =>
    refine mild_of_silent ?_
    rw [obey, complaintsOf_append, complaintsOf_titled]
    rfl
  | pick n =>
    by_cases hr : n = 0 ∨ s.here.length < n
    · exact absurd (.noSuggestion h n hk hr) (hn _)
    · rw [not_or, Nat.not_lt] at hr
      obtain ⟨i, rfl⟩ := Nat.exists_eq_succ_of_ne_zero hr.1
      obtain ⟨step, hs⟩ := step?_of_here (Nat.zero_lt_of_lt hr.2)
      simp only [obey, hs, List.getElem?_eq_getElem (show i < s.here.length from hr.2)]
      exact mild_work (quietUnless_staying (quietUnless_pick x s.step step s.here[i])) fun c hc =>
        hn c (.pick h i step s.here[i] c hk hs (List.getElem?_eq_getElem hr.2)
          (result_staying_eq_error.mp hc))
  | nextStep =>
    rw [obey]
    split
    · exact mild_of_silent (complaintsOf_finish _)
    · exact mild_of_silent (complaintsOf_enter _ _)
  | goto n =>
    rw [obey]
    split
    · next hs => exact absurd (.noStep h n hk hs) (hn _)
    · exact mild_of_silent (complaintsOf_enter _ _)
  | finish => exact mild_of_silent (complaintsOf_finish s)
  | leave => exact mild_of_silent (complaintsOf_leave s)
  | stash k => exact mild_work (quietUnless_stashWork x k) fun c hc => hn c (.stash h k c hk hc)
  | shell l =>
    exact mild_work (quietUnless_staying (quietUnless_execute x.runner x.now s.step l)) fun c hc =>
      hn c (.shell h l c hk (result_staying_eq_error.mp hc))

theorem mild_jumpTo {l : Text} (hp : s.place = .jump) (hn : ∀ c, ¬Fails x s (.line l) c) :
    Mild (s.jumpTo l).1 := by
  rw [jumpTo]
  split
  · exact mild_of_silent rfl
  · next hl =>
    split
    · next ha => exact absurd (.notNumber l hp (by simpa using hl) ha) (hn _)
    · next n ha =>
      split
      · exact mild_of_silent (complaintsOf_enter _ _)
      · next hs => exact absurd (.noTarget l n hp ha (by omega)) (hn _)

/-- Nothing but what fails is complained of, besides an editor or the file of the history. -/
theorem mild_hear (hn : ∀ c, ¬Fails x s h c) : Mild (hear x h s).1 := by
  cases h with
  | closed =>
    rw [hear_closed]
    exact mild_of_silent rfl
  | failed e =>
    have hp (file : Text) : s.place ≠ .placing file := fun hp => hn _ (.unread e file hp)
    rw [hear_failed hp]
    exact mild_of_silent rfl
  | line l =>
    cases hp : s.place with
    | acknowledge =>
      rw [hear_acknowledge hp]
      exact mild_of_silent rfl
    | command =>
      cases ho : Command.ofInput x.home l with
      | error m => exact absurd (.misread l m hp ho) (hn _)
      | ok k =>
        have hk : s.command? x (.line l) = some k := by rw [command?_line hp, ho]; rfl
        rw [hear_command hp ho]
        exact mild_obey hk hn
    | confirm =>
      rw [hear_confirm hp]
      split <;> exact mild_of_silent rfl
    | jump =>
      rw [hear_jump hp]
      exact mild_jumpTo hp hn
    | placing file =>
      rw [hear_placing hp]
      exact mild_work (quietUnless_placeWork x file l) fun c hc => hn c (.placing l file c hp hc)

end Mild

end Guidebook.Session
