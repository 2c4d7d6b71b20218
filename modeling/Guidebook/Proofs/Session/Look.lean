import Guidebook.Proofs.Dialogue.Script
import Guidebook.Proofs.Input.Bare
import Guidebook.Proofs.Session.Bare
import Guidebook.Proofs.Session.Pages
import Guidebook.Proofs.Session.Reckoning

namespace Guidebook

namespace Source

variable {ι : Type} {src : Source ι} {P : ι → Prop}

theorem Bare.after (h : src.Bare P) {i : ι} (hi : P i) {es : List Said} (he : ∀ e ∈ es, e.Bare) :
    P (Dialogue.after src i es) := by
  induction es generalizing i with
  | nil => exact hi
  | cons e es ih =>
    rw [List.forall_mem_cons] at he
    cases e with
    | remember l => exact ih (h.remember hi he.1) he.2
    | used n => exact ih (h.skip hi) he.2
    | say m | read p heard shown | run c | edit path before | printed b => exact ih hi he.2

end Source

namespace Session

variable {ι : Type} {src : Source ι} {P : ι → Prop} {x : Setting} {s : Session} {i : ι}

theorem bare_exchange (h : src.Bare P) (hx : x.Bare) (hi : P i) (hs : s.Bare) :
    Turn.Bare (((dialogue x).exchange src i s).events, ((dialogue x).exchange src i s).next) := by
  have hsupplied : Bare (s.supplied (src.behind (src.read s.prompt i).2.2)) :=
    ⟨hs.guide, ⟨hs.desk.tree, hs.desk.stash, hs.desk.scratch, h.behind (h.read hi)⟩, hs.place⟩
  exact hsupplied.hear hx fun l hl => h.line hi hl

theorem bare_record (h : src.Bare P) (hx : x.Bare) (hi : P i) (hs : s.Bare) :
    ∀ e ∈ (dialogue x).record ((dialogue x).exchange src i s), e.Bare :=
  List.forall_mem_cons.mpr ⟨h.shown hi hs.prompt, (bare_exchange h hx hi hs).events⟩

/-- Where no escape character comes in, none is said. -/
theorem bare_run (h : src.Bare P) (hx : x.Bare) (hi : P i) (hs : s.Bare) :
    ∀ e ∈ ((dialogue x).run src i s).1, e.Bare := by
  induction i, s using Dialogue.exchanges.induct (dialogue x) src with
  | case1 i s r hr =>
    rw [(dialogue x).run_last hr]
    exact bare_record h hx hi hs
  | case2 i s t ht ih =>
    have hturn := bare_exchange h hx hi hs
    rw [(dialogue x).run_more ht]
    exact List.forall_mem_append.mpr ⟨bare_record h hx hi hs,
      ih (h.after (h.read hi) hturn.events) (hturn.next ht)⟩

theorem bare_conduct (h : src.Bare P) (hx : x.Bare) (hi : P i) {g : Guide} (hg : g.Bare)
    {desk : Desk} (hd : desk.Bare) (step : Nat) :
    ∀ e ∈ (conduct x src i g desk step).1, e.Bare := by
  have hs : Bare ⟨g, min (max step 1) (max g.stepCount 1), 1, .acknowledge, desk⟩ :=
    ⟨hg, hd, trivial⟩
  have hstart := hs.enter (min (max step 1) (max g.stepCount 1))
  exact List.forall_mem_append.mpr ⟨hstart.events, bare_run h hx hi (hstart.next rfl)⟩

theorem conduct_color (x : Setting) (p : Pager) (c c' : Bool) (src : Source ι) (i : ι) (g : Guide)
    (desk : Desk) (step : Nat) :
    conduct { x with look := ⟨c, p⟩ } src i g desk step =
      conduct { x with look := ⟨c', p⟩ } src i g desk step := by
  have hd : dialogue { x with look := ⟨c, p⟩ } = dialogue { x with look := ⟨c', p⟩ } := rfl
  rw [conduct, conduct, hd]

/-- How a session looks makes no difference to what it does. Under another look, with another size
of pages, it reads, remembers, runs, edits and says the same in the same order, but for the numbers
of pages, leaves the same guide, the same files and the same rest of its input, and ends in the same
way. With and without colours, what it shows is the same up to the sequences that turn styles on and
off, unless an escape character comes in from elsewhere. So is all that is seen if there is none in
what the commands print. -/
theorem conduct_looks (x : Setting) (src : Source ι) (i : ι) (g : Guide) (desk : Desk) (step : Nat) :
    (∀ l,
      let r := conduct x src i g desk step
      let r' := conduct { x with look := l } src i g desk step
      r.1.map (Event.map Message.unpaged) = r'.1.map (Event.map Message.unpaged) ∧
      r.2.1.1.unpaged = r'.2.1.1.unpaged ∧ r.2.1.2 = r'.2.1.2 ∧ r.2.2 = r'.2.2) ∧
    ∀ P : ι → Prop, src.Bare P → P i → x.Bare → g.Bare → desk.Bare → ∀ p,
      let es := (conduct { x with look := ⟨true, p⟩ } src i g desk step).1
      let es' := (conduct { x with look := ⟨false, p⟩ } src i g desk step).1
      unstyled (Invocation.transcript (Message.text ⟨true, p⟩) (es.filter Event.isOwn)) =
        Invocation.transcript (Message.text ⟨false, p⟩) (es'.filter Event.isOwn) ∧
      ((∀ b, .printed b ∈ es → b.Bare) →
        unstyled (Invocation.transcript (Message.text ⟨true, p⟩) es) =
          Invocation.transcript (Message.text ⟨false, p⟩) es') := by
  refine ⟨fun l => conduct_unpaged x l src i g desk step, fun P hsrc hi hx hg hd p => ?_⟩
  have hbare : ∀ e ∈ (conduct { x with look := ⟨true, p⟩ } src i g desk step).1, e.Bare :=
    bare_conduct (x := { x with look := ⟨true, p⟩ }) hsrc ⟨hx.runner, hx.home⟩ hi hg hd step
  dsimp only
  -- The session without colours is the one in colours, told in another way.
  rw [conduct_color x p false true]
  exact ⟨(Invocation.fades_own p hbare).unstyled,
    fun hprinted => (Invocation.fades_transcript p hbare hprinted).unstyled⟩

/-- A command prints itself. The editor changes nothing. -/
def echo : Runner where
  command _ c _ t := ⟨Utf8.encode c, 0, t, .ok 0⟩
  editor _ _ _ t := ⟨[], 0, t, .ok 0⟩

theorem bare_echo : echo.Bare where
  command _ _ ht := ⟨ht, nofun⟩
  editor _ _ ht := ⟨ht, nofun⟩

/-- A session that runs a command, with pages of two in colours, of two and of one without. -/
theorem conduct_looks_echo :
    let desk := Desk.openAt "/state".toList "/tmp".toList 100 ⟨[], [], []⟩
    let i := Plain.chunks (Utf8.encode "\nls\n".toList)
    let r (l : Look) := conduct ⟨l, echo, none, 0⟩ Plain.source i twoSteps desk 0
    let colored : Look := ⟨true, Pager.ofSize 2⟩
    let plain : Look := ⟨false, Pager.ofSize 2⟩
    commands (r colored).1 = ["ls".toList] ∧
    (r colored).2.1.1.unpaged = (r ⟨false, Pager.ofSize 1⟩).2.1.1.unpaged ∧
    unstyled (Invocation.transcript (Message.text colored) (r colored).1) =
      Invocation.transcript (Message.text plain) (r plain).1 := by
  intro desk i r colored plain
  let d := dialogue ⟨colored, echo, none, 0⟩
  let asked : Session := ⟨twoSteps, 1, 1, .command, { desk with runs := 0 }⟩
  let ran : Session := { asked with desk := (Work.execute echo 0 1 "ls".toList asked.desk).desk }
  have h₁ : (d.exchange Plain.source i (start twoSteps desk 0).2).next = .inl asked := rfl
  have h₂ : (d.exchange Plain.source i.tail asked).next = .inl ran := work_staying asked _
  have h₃ : (d.exchange Plain.source i.tail.tail ran).next = .inr (ran, .inputClosed) := rfl
  have hes : (r colored).1 = (start twoSteps desk 0).1 ++
      (d.record (d.exchange Plain.source i (start twoSteps desk 0).2) ++
        (d.record (d.exchange Plain.source i.tail asked) ++
          d.record (d.exchange Plain.source i.tail.tail ran))) := by
    show _ ++ (d.run Plain.source i (start twoSteps desk 0).2).1 = _
    rw [d.run_more h₁, d.rest_plain, d.run_more h₂, d.rest_plain, d.run_last h₃]
  have hprinted : (r colored).1.filter (!·.isOwn) = [.printed (Utf8.encode "ls".toList)] := by
    rw [hes]
    rfl
  obtain ⟨hlooks, hstyles⟩ := conduct_looks ⟨colored, echo, none, 0⟩ Plain.source i twoSteps desk 0
  refine ⟨?_, (hlooks _).2.1, (hstyles _ Plain.bare_source ?_ ?_ ?_ ?_ _).2 fun b hb => ?_⟩
  · rw [hes]
    rfl
  · exact Plain.bare_chunks (by decide)
  · exact ⟨bare_echo, nofun⟩
  · exact ⟨by decide, by decide⟩
  · refine ⟨fun a c h => ?_, by decide, by decide, by decide⟩
    obtain ⟨_, hn⟩ := FileTree.bytes?_eq_some.mp h
    cases a <;> cases hn
  · have hfound : .printed b ∈ (r colored).1.filter (!·.isOwn) := List.mem_filter.mpr ⟨hb, rfl⟩
    rw [hprinted, List.mem_singleton] at hfound
    cases hfound
    decide

end Session

end Guidebook
