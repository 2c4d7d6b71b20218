import Guidebook.Proofs.Session.Failures

namespace Guidebook.Session

open Work

variable {x : Setting} {s : Session} {h : Heard} {file : Text}

/-- What a failure must leave as it is: the step and the page, the guide with all that is done in
it, and the recorded history. -/
structure Unchanged (s t : Session) : Prop where
  position : t.position = s.position
  guide : t.guide = s.guide
  history : t.desk.history = s.desk.history

theorem Unchanged.trans {t u : Session} (hst : Unchanged s t) (htu : Unchanged t u) :
    Unchanged s u :=
  ⟨htu.position.trans hst.position, htu.guide.trans hst.guide, htu.history.trans hst.history⟩

/-- Somebody is asked next how the stash gets into a file. -/
def Asks (file : Text) (n : Session ⊕ (Session × Ending)) : Prop :=
  ∃ t, n = .inl t ∧ t.place = .placing file

theorem not_asks_finish : ¬ Asks file s.finish.2 := by
  rw [finish]
  split <;> simp [Asks]

theorem not_asks_leave : ¬ Asks file s.leave.2 := by
  rw [leave]
  split
  · simp [Asks, enter]
  · split
    · simp [Asks, enter]
    · exact not_asks_finish

/-- Only work that wants to know about a file leads to that question. -/
theorem of_asks_work {w : Work Way} (ha : Asks file (s.work w).2) :
    (w s.desk).result = .ok (.ask file) ∧
      s.work w = ((w s.desk).events,
        .inl { s with desk := (w s.desk).desk, place := .placing file }) := by
  rw [work] at ha ⊢
  dsimp only at ha ⊢
  cases hr : (w s.desk).result with
  | error c => simp [Asks, hr] at ha
  | ok way =>
    rw [hr] at ha
    cases way with
    | ask f =>
      obtain ⟨t, ht, hf⟩ := ha
      cases ht
      cases hf
      exact ⟨rfl, by simp [follow]⟩
    | leave => exact absurd ha not_asks_leave
    | finish => exact absurd ha not_asks_finish
    | stay | enter n | quit => simp [Asks, follow, enter] at ha

theorem not_asks_work {w : Work Way} (hw : Yields (· = .stay) w) : ¬ Asks file (s.work w).2 :=
  fun ha => nomatch hw _ _ (of_asks_work ha).1

theorem not_asks_fail (m : Mistake) : ¬ Asks file (s.fail m).2 :=
  not_asks_work fun _ _ ha => nomatch ha

theorem yields_stay (w : Work Unit) : Yields (· = .stay) (staying w) :=
  yields_bind fun _ => yields_pure rfl

theorem not_asks_placeWork (x : Setting) (f answer : Text) :
    ¬ Asks file (s.work (placeWork x f answer)).2 := by
  refine not_asks_work ?_
  rw [placeWork]
  dsimp only
  split
  · exact yields_bind fun _ => yields_stay _
  · split
    · exact yields_bind fun _ => yields_stay _
    · exact yields_stay _

theorem not_asks_jumpTo (l : Text) : ¬ Asks file (s.jumpTo l).2 := by
  rw [jumpTo]
  split
  · simp [Asks, follow]
  · split
    · exact not_asks_fail _
    · split
      · simp [Asks, follow, enter]
      · exact not_asks_fail _

/-- The stash holds something and is to be put into a file. -/
theorem of_asks_stashWork {k : StashCommand} (ha : Asks file (s.work (stashWork x k)).2) :
    k = .place file ∧ s.work (stashWork x k) = ([], .inl { s with place := .placing file }) := by
  obtain ⟨hr, he⟩ := of_asks_work ha
  cases k with
  | place f =>
    obtain ⟨t, ht, hr⟩ := result_bind_eq_ok.mp hr
    split at hr
    · exact nomatch yields_stay _ _ _ hr
    · next hne =>
      cases hr
      have hevents : (stashWork x (.place file) s.desk).events = [] := by
        simp only [stashWork, events_bind, ht, if_neg hne]
        rfl
      have hdesk : (stashWork x (.place file) s.desk).desk = s.desk := by
        simp only [stashWork, desk_bind, ht, if_neg hne]
        rfl
      rw [he, hevents, hdesk]
      exact ⟨rfl, rfl⟩
  | view | edit | clear | paste f mode => exact nomatch yields_stay _ _ _ hr

theorem of_asks_obey {k : Command} (hp : s.place = .command) (ha : Asks file (s.obey x k).2) :
    k = .stash (.place file) ∧ s.obey x k = ([], .inl { s with place := .placing file }) := by
  cases k with
  | stash k =>
    obtain ⟨rfl, he⟩ := of_asks_stashWork ha
    exact ⟨rfl, he⟩
  | nothing | home | suggestions | flow | help | nextPage | prevPage | page n | quit =>
    simp [Asks, obey, follow, turnPage, hp] at ha
  | pick n =>
    simp only [obey] at ha
    split at ha
    · split at ha
      · exact absurd ha (not_asks_work (yields_stay _))
      · exact absurd ha (not_asks_fail _)
    · exact absurd ha (not_asks_fail _)
  | nextStep =>
    rw [obey] at ha
    split at ha
    · exact absurd ha not_asks_finish
    · simp [Asks, follow, enter] at ha
  | goto n =>
    rw [obey] at ha
    split at ha
    · exact absurd ha (not_asks_fail _)
    · simp [Asks, follow, enter] at ha
  | finish => exact absurd ha not_asks_finish
  | leave => exact absurd ha not_asks_leave
  | shell l => exact absurd ha (not_asks_work (yields_stay _))

/-- The question about a file is asked only when the command for that has been heard, and nothing
else has happened then. -/
theorem of_asks_hear (ha : Asks file (hear x h s).2) :
    s.command? x h = some (.stash (.place file)) ∧ complaintsOf (hear x h s).1 = [] ∧
      (hear x h s).2 = .inl { s with place := .placing file } := by
  cases h with
  | closed => simp [Asks, hear_closed] at ha
  | failed e =>
    by_cases hp : ∃ f, s.place = .placing f
    · obtain ⟨f, hp⟩ := hp
      rw [hear_failed_placing hp] at ha
      exact absurd ha (not_asks_work fun d a ha => nomatch ha)
    · simp [Asks, hear_failed fun f hf => hp ⟨f, hf⟩] at ha
  | line l =>
    cases hp : s.place with
    | acknowledge => simp [Asks, hear_acknowledge hp] at ha
    | command =>
      cases ho : Command.ofInput x.home l with
      | error m =>
        rw [hear_mistake hp ho] at ha
        exact absurd ha (not_asks_fail m)
      | ok k =>
        rw [hear_command hp ho] at ha ⊢
        obtain ⟨rfl, he⟩ := of_asks_obey hp ha
        rw [he, command?_line hp, ho]
        exact ⟨rfl, rfl, rfl⟩
    | confirm =>
      rw [hear_confirm hp] at ha
      split at ha <;> simp [Asks] at ha
    | jump =>
      rw [hear_jump hp] at ha
      exact absurd ha (not_asks_jumpTo l)
    | placing f =>
      rw [hear_placing hp] at ha
      exact absurd ha (not_asks_placeWork x f l)

variable {g : Guide} {desk : Desk} {step : Nat} {ι : Type} {src : Source ι} {i : ι}

/-- A round that asks how the stash gets into a file follows the one that heard the command for it,
which complained of nothing and left everything as it was. -/
theorem previous_of_placing {fs gs : List Round} {e : Round}
    (hes : rounds x src i g desk step = fs ++ e :: gs) (hp : e.before.place = .placing file) :
    ∃ ds d, fs = ds ++ [d] ∧ d.before.command? x d.heard = some (.stash (.place file)) ∧
      complaintsOf d.events = [] ∧ Unchanged d.before e.before := by
  have hc := course_conduct x src i g desk step
  rw [hes] at hc
  rcases hc.exists_previous with ⟨rfl, hs⟩ | ⟨ds, d, rfl, hd⟩
  · rw [hs] at hp
    cases hp
  · have hm : (dialogue x).Made d := hc.made d (by simp)
    have hn := next_made hm
    rw [hd] at hn
    obtain ⟨hk, hq, ht⟩ := of_asks_hear (x := x) (h := d.heard)
      (s := d.before.supplied d.behind) ⟨e.before, hn, hp⟩
    rw [events_made hm] at hq
    rw [hn, Sum.inl.injEq] at ht
    refine ⟨ds, d, rfl, ?_, hq, ?_⟩
    · cases hh : d.heard <;> rw [hh] at hk <;> exact hk
    · rw [ht]
      exact ⟨rfl, rfl, rfl⟩

/-- Whatever fails in a session is told once, and the session asks for the next command, with the
step and the page, the guide and the history as they were. They are as they were before the command
was typed even if its work was interrupted to ask how the stash gets into a file. Nothing else is
complained of, besides an editor that ended badly or a history that was not saved, and a session
itself fails only if its input cannot be read. -/
theorem conduct_failures (x : Setting) {ι : Type} (src : Source ι) (i : ι) (g : Guide) (desk : Desk)
    (step : Nat) :
    (∀ fs e gs c, rounds x src i g desk step = fs ++ e :: gs →
      Fails x (e.before.supplied e.behind) e.heard c →
      complaintsOf e.events = [report c] ∧
      ∃ d hs, gs = d :: hs ∧ d.before.place = .command ∧ Unchanged e.before d.before ∧
        ∀ file, e.before.place = .placing file →
          ∃ bs b, fs = bs ++ [b] ∧ b.before.command? x b.heard = some (.stash (.place file)) ∧
            complaintsOf b.events = [] ∧ Unchanged b.before d.before) ∧
    (∀ e ∈ rounds x src i g desk step, ∀ m ∈ complaintsOf e.events,
      m.Aside ∨ ∃ c, Fails x (e.before.supplied e.behind) e.heard c) ∧
    ∀ f, (conduct x src i g desk step).2.1.2 = .failed f →
      ∃ e ∈ rounds x src i g desk step,
        e.heard = .failed f ∧ e.next = .inr (conduct x src i g desk step).2.1 := by
  have hc := course_conduct x src i g desk step
  refine ⟨fun fs e gs c hes hf => ?_, fun e he m hm => ?_, fun f hf => ?_⟩
  · rw [hes] at hc
    have hm : (dialogue x).Made e := hc.made e (by simp)
    have hr := reported_hear hf
    obtain ⟨k, hk, hh⟩ := hr.next
    rw [next_made hm] at hk
    obtain ⟨d, hs, rfl, hd⟩ := hc.suffix.exists_next hk
    have hu : Unchanged e.before d.before := by
      rw [hd]
      exact ⟨rfl, rfl, hh⟩
    refine ⟨events_made hm ▸ hr.told, d, hs, rfl, by rw [hd], hu, fun file hp => ?_⟩
    obtain ⟨bs, b, hbs, hb, hq, hbe⟩ := previous_of_placing hes hp
    exact ⟨bs, b, hbs, hb, hq, hbe.trans hu⟩
  · by_contra! hn
    rw [← events_made (hc.made e he)] at hm
    exact hn.1 (mild_hear hn.2 m hm)
  · obtain ⟨e, he, hr⟩ := hc.ends
    have hm := move_made (hc.made e he)
    rw [hr] at hm
    generalize (conduct x src i g desk step).2.1 = r at hf hm hr
    obtain ⟨t, en⟩ := r
    cases hf
    cases hm with
    | fail f hh => exact ⟨e, he, hh, hr⟩

/-- A failure to read ends a session, and it is the last that the session hears, at every place but
one: where it asks how the stash gets into a file, the failure is only told, and the session goes on
to read the next command. -/
theorem conduct_unread (x : Setting) {ι : Type} (src : Source ι) (i : ι) (g : Guide) (desk : Desk)
    (step : Nat) :
    let r := conduct x src i g desk step
    ∀ fs e gs f, rounds x src i g desk step = fs ++ e :: gs → e.heard = .failed f →
      ((∀ file, e.before.place ≠ .placing file) →
        gs = [] ∧ e.events = [] ∧ r.2.1.2 = .failed f ∧
          reads r.1 = fs.map Exchange.heard ++ [.failed f]) ∧
      ∀ file, e.before.place = .placing file →
        e.events = [.say (.warning f.message)] ∧
        ∃ d hs, gs = d :: hs ∧ d.before.place = .command ∧ Unchanged e.before d.before := by
  intro r fs e gs f hes hh
  have hc := course_conduct x src i g desk step
  rw [hes] at hc
  have hm : (dialogue x).Made e := hc.made e (by simp)
  have hevents := events_made hm
  have hnext := next_made hm
  rw [hh] at hevents hnext
  refine ⟨fun hp => ?_, fun file hp => ?_⟩
  · rw [hear_failed (by exact hp)] at hevents hnext
    obtain ⟨rfl, hr⟩ := hc.suffix.eq_nil hnext.symm
    refine ⟨rfl, hevents.symm, congrArg Prod.snd hr.symm, ?_⟩
    rw [reads_conduct, hes, List.map_append, List.map_singleton, hh]
  · rw [hear_failed_placing (by exact hp)] at hevents hnext
    obtain ⟨d, hs, rfl, hd⟩ := hc.suffix.exists_next hnext.symm
    refine ⟨hevents.symm.trans ?_, d, hs, rfl, by rw [hd], ?_⟩
    · simp [work, breakOff, report, Fault.line, Fault.ofIo]
    · rw [hd]
      exact ⟨rfl, rfl, rfl⟩

/-- A guide of one step and a stash that holds a snippet. -/
def oneStep : Guide := ⟨[⟨"Env".toList, none, .todo, 0, 0⟩], []⟩

def filled : FileTree :=
  ⟨[(["state".toList], .dir), (["state".toList, "snippet.txt".toList], .file false [88])], [], []⟩

/-- A session that hears a line that is no text where it asks how the stash gets into a file, and
still hears that somebody quits. -/
theorem conduct_unread_goes_on :
    let x : Setting := ⟨⟨false, Pager.ofSize 14⟩, Runner.ofScripts [] [], none, 0⟩
    let i := Plain.chunks (Utf8.encode "\n:snippet open out\n".toList ++ [255, 10, 113, 10])
    let r := conduct x Plain.source i oneStep
      (Desk.openAt "/state".toList "/tmp".toList 100 filled) 1
    Guide.ofRecords oneStep.records = .ok oneStep ∧
    reads r.1 = [.line [], .line ":snippet open out".toList, .failed .notUtf8, .line ['q']] ∧
    r.2.1.2 = .quit := by
  intro x i r
  let desk := Desk.openAt "/state".toList "/tmp".toList 100 filled
  let asked : Session := ⟨oneStep, 1, 1, .command, desk⟩
  let placing : Session := ⟨oneStep, 1, 1, .placing "out".toList, desk⟩
  refine ⟨by decide, ?_, ?_⟩
  · rw [reads_conduct, rounds, Dialogue.exchanges_more _ (t := asked) rfl,
      Dialogue.exchanges_more _ (t := placing) rfl, Dialogue.exchanges_more _ (t := asked) rfl,
      Dialogue.exchanges_last _ (r := (asked, .quit)) rfl]
    rfl
  · show ((dialogue x).run Plain.source i (start oneStep desk 1).2).2.1.2 = .quit
    rw [Dialogue.run_more _ (t := asked) rfl, Dialogue.run_more _ (t := placing) rfl,
      Dialogue.run_more _ (t := asked) rfl, Dialogue.run_last _ (r := (asked, .quit)) rfl]

end Guidebook.Session
