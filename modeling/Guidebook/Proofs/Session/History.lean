import Guidebook.Proofs.Dialogue.Script
import Guidebook.Proofs.Session.Commands
import Guidebook.Proofs.Session.Reckoning
import Guidebook.Proofs.Work.History

namespace Guidebook.Session

open Work

variable {x : Setting} {s : Session} {h : Heard} {c : Text} {d : Desk} {number : Nat} {step : Step}
  {y : Suggestion}

theorem spares_staying {w : Work Unit} (hw : Spares w) : Spares (staying w) :=
  spares_bind hw fun _ => spares_pure _

theorem spares_editFile (x : Setting) (file : Text) : Spares (editFile x file) :=
  spares_bind (spares_edit x.runner file) fun _ => spares_pure ()

theorem spares_stashWork (x : Setting) (k : StashCommand) : Spares (stashWork x k) := by
  cases k with
  | view => exact spares_staying (spares_of_quiet quiet_viewStash)
  | edit => exact spares_staying (spares_touchStash x.runner)
  | clear => exact spares_staying (spares_of_quiet quiet_clearStash)
  | paste file mode => exact spares_staying (spares_of_quiet (quiet_paste file mode))
  | place file =>
    refine spares_bind (spares_of_quiet quiet_readStash) fun t => ?_
    split
    · exact spares_staying (spares_editFile x file)
    · exact spares_pure _

theorem spares_placeWork (x : Setting) (file answer : Text) : Spares (placeWork x file answer) := by
  have hedit : Spares (staying (editFile x file)) := spares_staying (spares_editFile x file)
  rw [placeWork]
  dsimp only
  split
  · exact spares_bind (spares_of_quiet (quiet_paste file .append)) fun _ => hedit
  · split
    · exact spares_bind (spares_of_quiet (quiet_paste file .overwrite)) fun _ => hedit
    · exact hedit

/-- The desk at which the command is run that a suggestion has become. -/
def reviewed (x : Setting) (number : Nat) (step : Step) (y : Suggestion) (d : Desk) : Desk :=
  (editText x.runner ".sh".toList (Buffer.ofCommand number step y) d).desk

theorem desk_pick (hp : picked? x number step y d = some c) :
    (pick x number step y d).desk =
      (execute x.runner x.now number c (reviewed x number step y d)).desk := by
  obtain ⟨hk, t, ht, hne, rfl⟩ := picked?_eq_some.mp hp
  rw [← editText_eq_some] at ht
  have he : (Buffer.stripComments t).isEmpty = false := List.isEmpty_eq_false_iff.mpr hne
  simp only [pick, hk, desk_bind, ht, he]
  rfl

theorem history_pick (hp : picked? x number step y d = none) :
    (pick x number step y d).desk.history = d.history := by
  cases hk : y.kind with
  | snippet =>
    refine (?_ : Spares (pick x number step y)) d
    simp only [pick, hk]
    refine spares_bind (spares_editText x.runner _ _) fun t => ?_
    split
    · exact spares_of_quiet (quiet_notice _)
    · split
      · exact spares_of_quiet (quiet_breakOff _)
      · exact spares_of_quiet (quiet_bind (quiet_onStash _) fun _ => quiet_notice _)
  | cmd =>
    have hedit := spares_editText x.runner ".sh".toList (Buffer.ofCommand number step y) d
    simp only [picked?, hk] at hp
    simp only [pick, hk, desk_bind]
    cases hr : (editText x.runner ".sh".toList (Buffer.ofCommand number step y) d).result with
    | error e => exact hedit
    | ok o =>
      cases o with
      | none => exact hedit
      | some t =>
        have he : (Buffer.stripComments t).isEmpty = true := by
          by_contra he
          rw [hr] at hp
          simp [he] at hp
        simp only [he, if_true]
        exact hedit

/-- The command that is run when a command is obeyed, and the desk that it is run at. -/
def call? (x : Setting) (s : Session) : Command → Option (Text × Desk)
  | .shell t => some (t, s.desk)
  | .pick (i + 1) => do
    let step ← s.guide.step? s.step
    let y ← s.here[i]?
    let c ← picked? x s.step step y s.desk
    some (c, reviewed x s.step step y s.desk)
  | _ => none

theorem ran?_eq (s : Session) (k : Command) : s.ran? x k = (s.call? x k).map Prod.fst := by
  cases k with
  | pick n =>
    cases n with
    | zero => rfl
    | succ i =>
      cases hs : s.guide.step? s.step with
      | none => simp [ran?, call?, hs]
      | some step =>
        cases hy : s.here[i]? with
        | none => simp [ran?, call?, hs, hy]
        | some y => cases hp : picked? x s.step step y s.desk <;> simp [ran?, call?, hs, hy, hp]
  | _ => rfl

theorem history_reviewed (x : Setting) (number : Nat) (step : Step) (y : Suggestion) (d : Desk) :
    (reviewed x number step y d).history = d.history := spares_editText x.runner _ _ d

theorem desk_obey {k : Command} (hc : s.call? x k = some (c, d)) :
    (left (s.obey x k).2).desk = (execute x.runner x.now s.step c d).desk ∧
      d.history = s.desk.history := by
  unfold call? at hc
  split at hc
  · next t =>
    cases hc
    exact ⟨(desk_work s _).trans (desk_staying _ _), rfl⟩
  · next i =>
    simp only [Option.bind_eq_bind, Option.bind_eq_some_iff] at hc
    obtain ⟨step, hs, y, hy, c', hp, hc⟩ := hc
    cases hc
    simp only [obey, hs, hy]
    exact ⟨(desk_work s _).trans ((desk_staying _ _).trans (desk_pick hp)), history_reviewed ..⟩
  · cases hc

theorem history_obey {k : Command} (hc : s.call? x k = none) :
    (left (s.obey x k).2).desk.history = s.desk.history := by
  have hfail (m : Mistake) : (left (s.fail m).2).desk.history = s.desk.history := by
    rw [desk_fail]
  cases k with
  | nothing | home | suggestions | flow | help | nextPage | prevPage | page n | quit => rfl
  | pick n =>
    cases n with
    | zero => cases hs : s.guide.step? s.step <;> simp [obey, hs, hfail]
    | succ i =>
      cases hs : s.guide.step? s.step with
      | none => simp [obey, hs, hfail]
      | some step =>
        cases hy : s.here[i]? with
        | none => simp [obey, hs, hy, hfail]
        | some y =>
          have hp : picked? x s.step step y s.desk = none :=
            Option.eq_none_iff_forall_ne_some.mpr fun c hp => by simp [call?, hs, hy, hp] at hc
          simp only [obey, hs, hy]
          rw [desk_work, desk_staying, history_pick hp]
  | nextStep =>
    rw [obey]
    split
    · rw [desk_finish]
    · rw [desk_follow]
  | goto n =>
    rw [obey]
    split
    · exact hfail _
    · rw [desk_follow]
  | finish => rw [obey, desk_finish]
  | leave => rw [obey, desk_leave]
  | stash k => exact (congrArg Desk.history (desk_work s _)).trans (spares_stashWork x k s.desk)
  | shell t => cases hc

/-- What answers any other question than the one for a command leaves the history as it is. -/
theorem history_hear_of_none (hc : s.command? x h = none) :
    (left (hear x h s).2).desk.history = s.desk.history := by
  have hspares {w : Work Way} (hw : Spares w) : (left (s.work w).2).desk.history = s.desk.history := by
    rw [desk_work, hw]
  have hfail (m : Mistake) : (left (s.fail m).2).desk.history = s.desk.history := by
    rw [desk_fail]
  cases h with
  | closed => rw [hear_closed]; rfl
  | failed e =>
    by_cases hp : ∃ file, s.place = .placing file
    · obtain ⟨file, hp⟩ := hp
      rw [hear_failed_placing hp]
      exact hspares (spares_of_quiet (quiet_breakOff _))
    · rw [hear_failed fun file hf => hp ⟨file, hf⟩]
      rfl
  | line l =>
    cases hp : s.place with
    | acknowledge =>
      rw [hear_acknowledge hp]
      rfl
    | command =>
      rw [command?_line hp] at hc
      cases ho : Command.ofInput x.home l with
      | error m =>
        rw [hear_mistake hp ho]
        exact hfail m
      | ok k => simp [ho, Except.toOption] at hc
    | confirm =>
      rw [hear_confirm hp]
      split <;> rfl
    | jump =>
      rw [hear_jump hp, jumpTo]
      split
      · rfl
      · split
        · exact hfail _
        · split
          · rfl
          · exact hfail _
    | placing file =>
      rw [hear_placing hp]
      exact hspares (spares_placeWork x file l)

/-- The command that is run when something is heard, and the desk that it is run at. -/
def heardCall? (x : Setting) (s : Session) (h : Heard) : Option (Text × Desk) :=
  (s.command? x h).bind (s.call? x)

theorem commands_hear_eq (x : Setting) (h : Heard) (s : Session) :
    commands (hear x h s).1 = ((s.heardCall? x h).map Prod.fst).toList := by
  rw [commands_hear, heardCall?, Option.map_bind]
  congr 2
  funext k
  exact ran?_eq s k

theorem desk_hear (hc : s.heardCall? x h = some (c, d)) :
    (left (hear x h s).2).desk = (execute x.runner x.now s.step c d).desk ∧
      d.history = s.desk.history := by
  obtain ⟨k, hk, hcall⟩ := Option.bind_eq_some_iff.mp hc
  obtain ⟨hp, l, rfl, ho⟩ := command?_eq_some hk
  rw [hear_command hp ho]
  exact desk_obey hcall

/-- What a session adds to the history when it hears something. -/
def executed (x : Setting) (s : Session) (h : Heard) : List HistoryEntry :=
  match s.heardCall? x h with
  | some (c, d) => entered x.runner x.now s.step c d
  | none => []

theorem history_hear (x : Setting) (h : Heard) (s : Session) :
    (left (hear x h s).2).desk.history =
      (executed x s h).foldl History.record s.desk.history := by
  rw [executed]
  cases hc : s.heardCall? x h with
  | some p =>
    obtain ⟨c, d⟩ := p
    obtain ⟨hd, hh⟩ := desk_hear hc
    rw [hd, history_execute, hh]
  | none =>
    cases hk : s.command? x h with
    | none => exact history_hear_of_none hk
    | some k =>
      obtain ⟨hp, l, rfl, ho⟩ := command?_eq_some hk
      rw [heardCall?, hk] at hc
      rw [hear_command hp ho]
      exact history_obey hc

section Rounds

/-- The command that is run in a round, and the desk that it is run at. -/
def callOf? (x : Setting) (e : Round) : Option (Text × Desk) :=
  (e.before.supplied e.behind).heardCall? x e.heard

/-- What a round adds to the history: what was run and the step it was run from, if it could be
started. -/
def executedIn (x : Setting) (e : Round) : List HistoryEntry :=
  executed x (e.before.supplied e.behind) e.heard

/-- A command was run in a round, and the history was saved after it without a failure. -/
def SavedIn (x : Setting) (e : Round) : Prop :=
  ∃ c d code, callOf? x e = some (c, d) ∧ (commandReply x.runner c d).result = .ok code ∧
    ((e.before.desk.history.record ⟨c, some e.before.step, x.now⟩).save
      (commandReply x.runner c d).tree).2 = .ok ()

/-- Where a session stands that has these rounds before it and that end. -/
def standing (r : Session × Ending) : List Round → Session
  | [] => r.1
  | e :: _ => e.before

variable {e : Round} {es fs gs : List Round} {r : Session × Ending}

theorem commands_made (he : (dialogue x).Made e) :
    commands e.events = ((callOf? x e).map Prod.fst).toList := by
  rw [← events_made he, commands_hear_eq]
  rfl

theorem desk_made (he : (dialogue x).Made e) (hc : callOf? x e = some (c, d)) :
    (left e.next).desk = (execute x.runner x.now e.before.step c d).desk ∧
      d.history = e.before.desk.history := by
  rw [← next_made he]
  exact desk_hear hc

theorem history_made (he : (dialogue x).Made e) :
    (left e.next).desk.history = (executedIn x e).foldl History.record e.before.desk.history := by
  rw [← next_made he, history_hear]
  rfl

/-- What was saved in a round is in the file after it. -/
theorem read_saved (he : (dialogue x).Made e) (hs : SavedIn x e) :
    (left e.next).desk.tree.read (left e.next).desk.history.path =
      .ok (Utf8.encode (left e.next).desk.history.log.toJson.pretty) := by
  obtain ⟨c, d, code, hc, hr, ho⟩ := hs
  obtain ⟨hd, hh⟩ := desk_made he hc
  obtain ⟨hhistory, htree⟩ := desk_execute hr x.now e.before.step
  rw [hd, hhistory, htree, hh]
  exact History.read_save ho

theorem standing_start (hc : (dialogue x).Course s es r) : standing r es = s := by
  obtain ⟨e, fs, rfl, rfl⟩ := hc.first
  rfl

theorem history_course (hc : (dialogue x).Course s (fs ++ gs) r) :
    (standing r gs).desk.history =
      (fs.flatMap (executedIn x)).foldl History.record s.desk.history := by
  -- The rounds before are gone through from the start; where they end, the next one begins.
  induction fs generalizing s with
  | nil =>
    rw [List.nil_append] at hc
    rw [standing_start hc]
    rfl
  | cons f fs ih =>
    rw [List.cons_append] at hc
    generalize hl : fs ++ gs = ls at hc
    cases hc with
    | last he hr =>
      obtain ⟨rfl, rfl⟩ := List.append_eq_nil_iff.mp hl
      have hm := history_made he
      rw [hr] at hm
      simpa [standing, left] using hm
    | more he ht hc =>
      have hm := history_made he
      rw [ht] at hm
      rw [ih (hl ▸ hc), List.flatMap_cons, List.foldl_append, ← hm]
      rfl

theorem mem_executedIn {n : HistoryEntry} (h : n ∈ executedIn x e) :
    n.step = some e.before.step ∧ n.recordedAt = x.now := by
  rw [executedIn, executed] at h
  split at h
  · rw [entered] at h
    split at h
    · rw [List.mem_singleton.mp h]
      exact ⟨rfl, rfl⟩
    · cases h
  · cases h

theorem fits_of_mem_executedIn {n : HistoryEntry} (hnow : Text.isInt64 x.now)
    (hstep : e.before.step < Text.numberBound) (h : n ∈ executedIn x e) : n.Fits := by
  obtain ⟨hs, hr⟩ := mem_executedIn h
  refine ⟨fun k hk => ?_, hr ▸ hnow⟩
  rw [hs] at hk
  cases hk
  exact hstep

end Rounds

open Guide

/-- The history of a session is what was in its file at the start and what was run since, each
command with the step that it was run from if it could be started, and of these the newest. As long
as its file is as it was left by the last save, if that was done without a failure, it holds the same
entries. -/
theorem conduct_history {rs : List Record} {g : Guide} (hg : ofRecords rs = .ok g) (x : Setting)
    {ι : Type} (src : Source ι) (i : ι) (state scratch : Text) (limit : Nat) (t : FileTree)
    (step : Nat) :
    let path := Path.join state Desk.historyFile
    let desk := Desk.openAt state scratch limit t
    let es := rounds x src i g desk step
    let r := (conduct x src i g desk step).2.1
    (∀ e ∈ es, commands e.events = ((callOf? x e).map Prod.fst).toList ∧
      ∀ c d, callOf? x e = some (c, d) →
        (left e.next).desk = (execute x.runner x.now e.before.step c d).desk) ∧
    (∀ fs gs, es = fs ++ gs → (standing r gs).desk.history.entries =
      (History.stored t path ++ fs.flatMap (executedIn x)).rtake (Nat.max limit 1)) ∧
    (Text.isInt64 x.now → g.stepCount < Text.numberBound →
      ∀ ds f ms gs, es = ds ++ f :: ms ++ gs → SavedIn x f → (∀ m ∈ ms, executedIn x m = []) →
        (standing r gs).desk.tree.read path = (left f.next).desk.tree.read path →
        History.load? (standing r gs).desk.tree path = some (standing r gs).desk.history.log) := by
  intro path desk es r
  have hc : (dialogue x).Course (start g desk step).2 es r := course_conduct x src i g desk step
  have hhistory (fs gs : List Round) (hes : es = fs ++ gs) : (standing r gs).desk.history =
      (fs.flatMap (executedIn x)).foldl History.record (History.openAt path limit t).1 :=
    history_course (hes ▸ hc)
  refine ⟨fun e he => ⟨commands_made (hc.made e he), fun c d hd => (desk_made (hc.made e he) hd).1⟩,
    fun fs gs hes => ?_, ?_⟩
  · rw [hhistory fs gs hes, History.entries_records]
  · intro hnow hcount ds f ms gs hes hs hms hread
    have hm : (dialogue x).Made f := hc.made f (by simp [hes])
    -- Nothing was recorded after the save, so the history is still the one that was saved.
    have hsame : (standing r gs).desk.history = (left f.next).desk.history := by
      rw [hes, List.append_assoc] at hc
      have hq : (dialogue x).Course f.before (f :: ms ++ gs) r := hc.suffix
      rw [history_course hq, history_made hm, List.flatMap_cons,
        List.flatMap_eq_nil_iff.mpr hms, List.append_nil]
    have hpath : (standing r gs).desk.history.path = path := by
      rw [hhistory _ gs hes, History.path_records]
    -- What is written can be read because every step that was recorded is one of the guide.
    have hfits : (standing r gs).desk.history.log.Fits := by
      rw [hhistory _ gs hes]
      refine History.fits_records path limit t fun n hn => ?_
      obtain ⟨e, he, hne⟩ := List.mem_flatMap.mp hn
      have hp := placed_course (stepCount_pos_of_ofRecords hg) hc e
        (hes ▸ List.mem_append_left gs he)
      have hle := hp.guide.stepCount ▸ hp.step_le
      exact fits_of_mem_executedIn hnow (Nat.lt_of_le_of_lt hle hcount) hne
    have hsaved := read_saved hm hs
    rw [← hsame, hpath] at hsaved
    rw [History.load?_of_read (hread.trans hsaved), History.decode?_encode hfits]

/-- A command that cannot be started, and one that fails. -/
def twoRuns : Runner :=
  .ofScripts [{ Script.idle with fail := some (.ofIo .notFound) }, { Script.idle with code := 3 }] []

/-- The history of a session that runs them one after the other. -/
theorem conduct_history_twoRuns :
    let x : Setting := ⟨⟨false, Pager.ofSize 2⟩, twoRuns, none, 7⟩
    let i := Plain.chunks (Utf8.encode "\nnope\nls x\n".toList)
    let desk := Desk.openAt "/state".toList "/tmp".toList 2 ⟨[], [], []⟩
    let s := (conduct x Plain.source i twoSteps desk 2).2.1.1
    s.desk.history.entries = [⟨"ls x".toList, some 2, 7⟩] ∧
    History.load? s.desk.tree "/state/history.json".toList = some s.desk.history.log := by
  intro x i desk s
  have hg : ofRecords twoSteps.records = .ok twoSteps := by decide
  obtain ⟨-, hentries, hfile⟩ := conduct_history hg x Plain.source i "/state".toList "/tmp".toList 2
    ⟨[], [], []⟩ 2
  let d := dialogue x
  let asked (runs : Nat) : Session := ⟨twoSteps, 2, 1, .command, { desk with runs := runs }⟩
  let ran : Session :=
    { asked 1 with desk := (execute twoRuns 7 2 "ls x".toList (asked 1).desk).desk }
  have h₁ : (d.exchange Plain.source i (start twoSteps desk 2).2).next = .inl (asked 0) := rfl
  have h₂ : (d.exchange Plain.source i.tail (asked 0)).next = .inl (asked 1) := rfl
  have h₃ : (d.exchange Plain.source i.tail.tail (asked 1)).next = .inl ran :=
    work_staying (asked 1) _
  have h₄ : (d.exchange Plain.source i.tail.tail.tail ran).next = .inr (ran, .inputClosed) := rfl
  have hs : s = ran := by
    show (d.run Plain.source i (start twoSteps desk 2).2).2.1.1 = ran
    rw [d.run_more h₁, d.rest_plain, d.run_more h₂, d.rest_plain, d.run_more h₃, d.rest_plain,
      d.run_last h₄]
  have hes : rounds x Plain.source i twoSteps desk 2 =
      [d.exchange Plain.source i (start twoSteps desk 2).2, d.exchange Plain.source i.tail (asked 0),
        d.exchange Plain.source i.tail.tail (asked 1),
        d.exchange Plain.source i.tail.tail.tail ran] := by
    show d.exchanges Plain.source i (start twoSteps desk 2).2 = _
    rw [d.exchanges_more h₁, d.rest_plain, d.exchanges_more h₂, d.rest_plain, d.exchanges_more h₃,
      d.rest_plain, d.exchanges_last h₄]
  have hsaved : SavedIn x (d.exchange Plain.source i.tail.tail (asked 1)) :=
    ⟨"ls x".toList, (asked 1).desk, 3, rfl, rfl, rfl⟩
  constructor
  · refine (hentries _ [] (List.append_nil _).symm).trans ?_
    rw [hes]
    rfl
  · have hread : (left (d.exchange Plain.source i.tail.tail (asked 1)).next).desk = s.desk := by
      rw [h₃, hs]
      rfl
    refine hfile (by decide) (by decide) [_, _] _ [_] [] hes hsaved ?_ ?_
    · exact List.forall_mem_singleton.mpr rfl
    · rw [hread]
      rfl

end Guidebook.Session
