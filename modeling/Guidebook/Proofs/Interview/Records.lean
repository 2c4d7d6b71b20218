import Guidebook.Proofs.Dialogue.Script
import Guidebook.Proofs.Guide.Tables
import Guidebook.Proofs.Input.Plain
import Guidebook.Proofs.Interview.Typed
import Guidebook.Proofs.Text.Trim

namespace Guidebook

/-- The step of a stream that a draft becomes. An empty description is none. -/
def StepDraft.toSection (d : StepDraft) : Section :=
  ⟨d.title, d.suggestions, if d.description = [] then none else some d.description⟩

/-- A record as interviews give it: a title is a line with something in it and no blanks around it,
and what may be left out is left out where it is empty. -/
def Record.Tidy : Record → Prop
  | .step t => t ≠ [] ∧ Text.trim t = t ∧ '\n' ∉ t
  | .description t => t ≠ []
  | .suggestion x => x.note ≠ some []
  | .endOfStep => True

theorem StepDraft.records_eq (d : StepDraft) : d.records = d.toSection.records := by
  obtain ⟨title, description, xs⟩ := d
  cases description <;>
    simp [StepDraft.records, toSection, Section.records, Section.toGroup, Section.parts,
      Group.records, Part.record, Document.closing]

namespace Interview

variable {as : List Answer} {ds : List (StepDraft × Bool)}

theorem noteOf_ne_nil (a : Answer) : noteOf a ≠ some [] := by
  intro h
  have hn := (Option.filter_eq_some_iff.mp h).2
  simp at hn

theorem note_ne_nil {xs : List Suggestion} (h : TypedSuggestions as xs) :
    ∀ x ∈ xs, x.note ≠ some [] := by
  induction h with
  | stop ha => simp
  | unknown hl hk h ih => exact ih
  | @suggestion l k note bs as body xs hk hb h ih =>
    rw [List.forall_mem_cons]
    exact ⟨noteOf_ne_nil note, ih⟩

/-- Where no line has a line feed in it, the steps that are typed have tidy records. -/
theorem tidy_of_typed (h : Typed as ds) (hn : ∀ l, some l ∈ as → '\n' ∉ l) :
    ∀ p ∈ ds, ∀ r ∈ p.1.toSection.records, r.Tidy := by
  induction h with
  | done ha => simp
  | @step l bs cs as a body xs ds hl hb hc h ih =>
    rw [List.forall_mem_cons]
    refine ⟨fun r hr => ?_, ih fun m hm => hn m (by simp [hm])⟩
    simp only [StepDraft.toSection, Section.records, Section.toGroup, Section.parts, Group.records,
      List.mem_cons, List.mem_append, List.mem_map] at hr
    rcases hr with rfl | ⟨p, hp | hp, rfl⟩ | rfl | hr
    · exact ⟨hl, Text.trim_trim l, mt Text.mem_of_mem_trim (hn l (by simp))⟩
    · obtain ⟨x, hx, rfl⟩ := hp
      exact note_ne_nil hc x hx
    · obtain ⟨t, ht, rfl⟩ := hp
      by_cases hd : Text.joinLines body = []
      · simp [hd] at ht
      · obtain rfl : t = Text.joinLines body := by simpa [hd] using ht
        exact hd
    · trivial
    · cases hr

/-- An answer is what is heard, unless that is a failure. -/
theorem next_of_made {e : Exchange Interview Result Text} (he : dialogue.Made e)
    (hf : ∀ f, e.heard ≠ .failed f) : (e.before.answer e.heard.line?).2 = e.next := by
  have hm : Interview.hear e.heard e.before = (e.events, e.next) := he
  cases hh : e.heard with
  | line l =>
    rw [hh] at hm
    exact congrArg Prod.snd hm
  | closed =>
    rw [hh] at hm
    exact congrArg Prod.snd hm
  | failed f => exact absurd hh (hf f)

theorem ends_of_course {i : Interview} {es : List (Exchange Interview Result Text)} {r : Result}
    (hc : dialogue.Course i es r) (hf : ∀ f, Heard.failed f ∉ es.map Exchange.heard) :
    Ends r i ((es.map Exchange.heard).map Heard.line?) := by
  induction hc with
  | @last e r he hr =>
    have hn := next_of_made he fun f hh => hf f (by simp [hh])
    exact (ends_last (hn.trans hr)).mpr ⟨rfl, rfl⟩
  | @more e t es r he ht hc ih =>
    have hn := next_of_made he fun f hh => hf f (by simp [hh])
    exact (ends_next (hn.trans ht)).mpr (ih fun f hm => hf f (List.mem_cons_of_mem _ hm))

/-- A read that fails ends the interview. -/
theorem broken_of_course {i : Interview} {es : List (Exchange Interview Result Text)} {r : Result}
    (hc : dialogue.Course i es r) {f : IoFault} (hf : Heard.failed f ∈ es.map Exchange.heard) :
    r = .error (.broken f) := by
  obtain ⟨e, he, hh⟩ := List.mem_map.mp hf
  obtain ⟨fs, gs, rfl⟩ := List.append_of_mem he
  have hn : e.next = .inr (.error (.broken f)) := by
    have hm : Interview.hear e.heard e.before = (e.events, e.next) := hc.made e he
    rw [hh] at hm
    exact (congrArg Prod.snd hm).symm
  exact (hc.suffix.eq_nil hn).2.symm

theorem course_conduct {ι : Type} (src : Source ι) (i : ι) :
    dialogue.Course start (dialogue.exchanges src i start) (conduct src i).2.1 :=
  dialogue.course_exchanges i start

theorem reads_answer (i : Interview) (a : Answer) : reads (i.answer a).1 = [] := by
  obtain ⟨rs, n, q⟩ := i
  cases q <;> cases a <;> simp only [answer] <;> (repeat' split) <;> rfl

theorem reads_conduct {ι : Type} (src : Source ι) (i : ι) :
    reads (conduct src i).1 = (dialogue.exchanges src i start).map Exchange.heard := by
  have hopening : reads opening = [] := rfl
  have hmade := (course_conduct src i).made
  have hquiet : ∀ e ∈ dialogue.exchanges src i start, reads e.events = [] := by
    intro e he
    have hm : (Interview.hear e.heard e.before).1 = e.events := congrArg Prod.fst (hmade e he)
    rw [← hm]
    cases e.heard with
    | line l => exact reads_answer e.before (some l)
    | closed => exact reads_answer e.before none
    | failed f => rfl
  rw [conduct, reads_append, hopening, Dialogue.run_events, Dialogue.reads_records hquiet]
  rfl

theorem result_of_typed {ι : Type} {src : Source ι} {i : ι} {ds : List (StepDraft × Bool)}
    (hf : ∀ f, Heard.failed f ∉ reads (conduct src i).1)
    (h : Typed ((reads (conduct src i).1).map Heard.line?) ds) :
    (conduct src i).2.1 = if keptSteps ds = [] then .error (.build .noSteps)
      else .ok (((keptSteps ds).map StepDraft.toSection).flatMap Section.records) := by
  rw [reads_conduct] at hf h
  have he := ends_of_course (course_conduct src i) hf
  have hr : (conduct src i).2.1 = outcome [] 0 ds := he.unique (ends_title.mpr ⟨ds, h, rfl⟩)
  have hrecords : ((keptSteps ds).map StepDraft.toSection).flatMap Section.records =
      (keptSteps ds).flatMap StepDraft.records := by
    rw [List.flatMap_map]
    exact congrArg (List.flatMap · _) (funext fun d => (d.records_eq).symm)
  rw [hr, hrecords, outcome, finish]
  simp

/-- Whatever is typed, an interview over a script ends, having heard all of the script at most and
five times that it is closed. If no read fails, then steps have been typed; and whatever the steps
that were typed, there are none to be kept and the interview says so, or it gives the records of
those that were kept, one step after the other, all of them tidy, and these are the records of a
guide with as many steps. A read that fails is what the interview ends with. -/
theorem conduct_typed (bs : Bytes) :
    let c := conduct Plain.source (Plain.chunks bs)
    reads c.1 <+: (Plain.chunks bs).map Plain.hear ++ List.replicate 5 .closed ∧
    (∀ f, .failed f ∈ reads c.1 → c.2.1 = .error (.broken f)) ∧
    ((∀ f, .failed f ∉ reads c.1) →
      (∃ ds, Typed ((reads c.1).map Heard.line?) ds) ∧
      ∀ ds, Typed ((reads c.1).map Heard.line?) ds →
        (c.2.1 = .error (.build .noSteps) ↔ keptSteps ds = []) ∧
        (keptSteps ds ≠ [] → ∃ rs g, c.2.1 = .ok rs ∧
          rs = ((keptSteps ds).map StepDraft.toSection).flatMap Section.records ∧
          (∀ r ∈ rs, r.Tidy) ∧
          Guide.ofRecords rs = .ok g ∧ g.stepCount = (keptSteps ds).length)) := by
  intro c
  have hcourse := course_conduct Plain.source (Plain.chunks bs)
  have hreads : reads c.1 = _ := reads_conduct Plain.source (Plain.chunks bs)
  have hscript : reads c.1 <+: (Plain.chunks bs).map Plain.hear ++ List.replicate 5 .closed := by
    rw [hreads]
    refine (Dialogue.heard_script (fun s => (dialogue.length_closed s).trans ?_) _ _).1
    cases hq : s.question <;> simp [dialogue, hq, Question.rank]
  refine ⟨hscript, fun f hf => broken_of_course hcourse (hreads ▸ hf), fun hf => ⟨?_, ?_⟩⟩
  · have he := ends_of_course hcourse (hreads ▸ hf)
    rw [← hreads] at he
    obtain ⟨ds, hds, -⟩ := ends_title.mp he
    exact ⟨ds, hds⟩
  · intro ds hds
    have hresult := result_of_typed hf hds
    refine ⟨?_, fun hne => ?_⟩
    · rw [hresult]
      split <;> simp_all
    · have hsections : (keptSteps ds).map StepDraft.toSection ≠ [] := by simpa using hne
      refine ⟨_, _, hresult.trans (if_neg hne), rfl, ?_, Guide.ofRecords_sections hsections, ?_⟩
      · have hlines (l : Text) (hl : some l ∈ (reads c.1).map Heard.line?) : '\n' ∉ l :=
          Plain.newline_notMem_heard hscript hl
        intro r hr
        obtain ⟨x, hx, hr⟩ := List.mem_flatMap.mp hr
        obtain ⟨d, hd, rfl⟩ := List.mem_map.mp hx
        obtain ⟨p, hp, rfl⟩ := List.mem_map.mp hd
        exact tidy_of_typed hds hlines p (List.mem_filter.mp hp).1 r hr
      · rw [Guide.stepCount_ofGroups, List.length_map, List.length_map]

end Interview

end Guidebook
