import Guidebook.Proofs.Document.Stream
import Guidebook.Proofs.Guide.Tables
import Guidebook.Proofs.Text.Lines

namespace Guidebook

/-- A step as a document can give it: a title of one line, and no text that says nothing. -/
structure Section.Proper (x : Section) : Prop where
  title : '\n' ∉ x.title
  description : x.description ≠ some []
  note : ∀ s ∈ x.suggestions, s.note ≠ some []

namespace Document

theorem newline_notMem_oneLine (t : Text) : '\n' ∉ oneLine t := by
  have h := Text.newline_notMem_lines t
  unfold oneLine
  generalize Text.lines t = ls at h
  induction ls with
  | nil => simp [List.intercalate]
  | cons l ls ih =>
    have hl := h l (by simp)
    have hls := ih fun m hm => h m (by simp [hm])
    cases ls with
    | nil => simpa [List.intercalate] using hl
    | cons m ms => simpa [List.intercalate, hl] using hls

theorem note_suggestion (d : Draft) : d.suggestion.note ≠ some [] := by
  rw [Draft.suggestion]
  cases d.note with
  | none => simp
  | some n => cases n <;> simp [Option.filter]

theorem note_readEntries (key : Nat) (open? : Option Draft) (c : Cursor) :
    ∀ s ∈ (readEntries key open? c).1, s.note ≠ some [] := by
  have hopen (o : Option Draft) : ∀ s ∈ o.toList.map Draft.suggestion, s.note ≠ some [] := by
    intro s hs
    obtain ⟨d, -, rfl⟩ := List.mem_map.mp hs
    exact note_suggestion d
  fun_induction readEntries key open? c with
  | case1 open? | case3 open? => exact hopen open?
  | case2 _ _ _ _ _ _ ih | case4 _ _ _ _ _ _ _ _ ih => exact ih
  | case5 open? _ _ _ _ _ _ _ _ _ _ _ _ ih =>
    intro s hs
    rcases List.mem_append.mp hs with h | h
    · exact hopen open? s h
    · exact ih s h
  | case6 _ _ _ _ _ _ _ _ _ ih | case7 _ _ _ _ _ _ _ _ _ _ _ ih => exact ih

/-- What a line can do: `step` is open before it and `next` behind it. -/
inductive Effect (step : Option Text) : List Record → Option Text → Prop where
  | suggest (ss : List Suggestion) (h : ∀ s ∈ ss, s.note ≠ some []) :
      Effect step (within step ss) step
  | describe (d : Text) : Effect step [] (step.map fun _ => d)
  | close : Effect step (closing step) none
  | enter (title : Text) (h : '\n' ∉ title) : Effect step (closing step ++ [.step title]) (some [])

theorem Effect.nothing (step : Option Text) : Effect step [] step := by
  have h : Effect step (within step []) step := .suggest [] (by simp)
  cases step <;> exact h

theorem lineStep_effect (step : Option Text) (l : Text) (c : Cursor) :
    Effect step (lineStep step l c).1.1 (lineStep step l c).1.2 := by
  unfold lineStep
  split
  · exact .nothing step
  split
  · exact .close
  cases Field.ofText? (Text.trimStart l) with
  | none => exact .nothing step
  | some f =>
    cases hk : Keyword.ofKey? f.key with
    | none =>
      simp only [hk]
      cases Chomp.ofValue? f.value <;> exact .nothing step
    | some k =>
      simp only [hk]
      cases k with
      | step => exact .enter _ (newline_notMem_oneLine _)
      | description => exact .describe _
      | list => exact .suggest _ (note_readEntries _ _ _)
      | single =>
        apply Effect.suggest
        intro s hs
        obtain ⟨d, -, rfl⟩ := List.mem_map.mp hs
        exact note_suggestion d

/-- What can follow where `step` is open, up to the end. -/
def Follows : Option Text → List Record → Prop
  | none, rs => ∃ xs : List Section, (∀ x ∈ xs, x.Proper) ∧ rs = xs.flatMap Section.records
  | some _, rs => ∃ (ss : List Suggestion) (d : Option Text) (xs : List Section),
      (∀ s ∈ ss, s.note ≠ some []) ∧ d ≠ some [] ∧ (∀ x ∈ xs, x.Proper) ∧
        rs = ss.map .suggestion ++ d.toList.map .description ++
          .endOfStep :: xs.flatMap Section.records

theorem follows_closing (step : Option Text) {rs : List Record} (h : Follows none rs) :
    Follows step (closing step ++ rs) := by
  cases step with
  | none => exact h
  | some d =>
    obtain ⟨xs, hx, rfl⟩ := h
    cases d with
    | nil => exact ⟨[], none, xs, by simp, by simp, hx, rfl⟩
    | cons c cs => exact ⟨[], some (c :: cs), xs, by simp, by simp, hx, rfl⟩

theorem follows_title {title d : Text} (ht : '\n' ∉ title) {rs : List Record}
    (h : Follows (some d) rs) : Follows none (.step title :: rs) := by
  obtain ⟨ss, e, xs, hs, he, hx, rfl⟩ := h
  refine ⟨⟨title, ss, e⟩ :: xs, ?_, ?_⟩
  · intro x hm
    rcases List.mem_cons.mp hm with rfl | hm
    · exact ⟨ht, he, hs⟩
    · exact hx x hm
  · cases e <;>
      simp [Section.records, Section.toGroup, Section.parts, Group.records, Part.record,
        Function.comp_def]

theorem follows_effect {step next : Option Text} {rs ts : List Record} (h : Effect step rs next)
    (ht : Follows next ts) : Follows step (rs ++ ts) := by
  cases h with
  | suggest ss hs =>
    cases step with
    | none => exact ht
    | some d =>
      obtain ⟨ss', e, xs, hs', he, hx, rfl⟩ := ht
      refine ⟨ss ++ ss', e, xs, ?_, he, hx, by simp [within]⟩
      intro s hm
      exact (List.mem_append.mp hm).elim (hs s) (hs' s)
  | describe d => cases step <;> exact ht
  | close => exact follows_closing step ht
  | enter title hn =>
    rw [List.append_assoc, List.singleton_append]
    exact follows_closing step (follows_title hn ht)

theorem follows_recordsFrom (step : Option Text) (c : Cursor) :
    Follows step (recordsFrom step c) := by
  induction hn : c.upcoming.length using Nat.strongRecOn generalizing step c with
  | ind n ih =>
    cases ht : c.take? with
    | none =>
      rw [recordsFrom_end step (Cursor.take?_eq_none ht), ← List.append_nil (closing step)]
      exact follows_closing step ⟨[], by simp, rfl⟩
    | some p =>
      obtain ⟨l, d⟩ := p
      have hlt := lineStep_shorter step ht
      rw [recordsFrom_take? step ht]
      exact follows_effect (lineStep_effect step l d) (ih _ (by omega) _ _ rfl)

theorem recordsOf_sections (t : Text) :
    ∃ xs : List Section, (∀ x ∈ xs, x.Proper) ∧ recordsOf t = xs.flatMap Section.records :=
  follows_recordsFrom none (.ofText t)

/-- A document has a step as soon as it has a record. -/
theorem read_eq (t : Text) :
    read t = if recordsOf t = [] then .error .noSteps else .ok (recordsOf t) := by
  obtain ⟨xs, -, hr⟩ := recordsOf_sections t
  cases xs with
  | nil => simp [read, hr]
  | cons x xs =>
    simp [read, hr, Section.records, Section.toGroup, Group.records, Record.isStep]

theorem compile_of_read {t : Text} {rs : List Record} (h : read t = .ok rs) :
    compile t = Guide.ofRecords rs := by
  rw [compile, h]
  rfl

theorem compile_nil {t : Text} (h : recordsOf t = []) : compile t = .error .noSteps := by
  rw [compile, read_eq, if_pos h]
  rfl

/-- The guide of a document that has a record is the guide of its sections. -/
theorem compile_ofGroups {t : Text} {xs : List Section} (h : recordsOf t = xs.flatMap Section.records)
    (hne : xs ≠ []) : compile t = .ok (Guide.ofGroups (xs.map Section.toGroup)) := by
  have hr : recordsOf t ≠ [] := by
    cases xs with
    | nil => exact absurd rfl hne
    | cons x xs => simp [h, Section.records, Section.toGroup, Group.records]
  rw [compile_of_read (by rw [read_eq, if_neg hr]), h, Guide.ofRecords_sections hne]

theorem countP_isStep (xs : List Section) :
    (xs.flatMap Section.records).countP Record.isStep = xs.length := by
  rw [List.countP_eq_length_filter, ← Section.flatMap_toGroup, Group.isStep_records, List.length_map,
    List.length_map]

/-- Whatever a document holds, what is read from it is a stream that makes a guide, or nothing. -/
theorem compile_sections (t : Text) :
    (read t = .error .noSteps ∨
      ∃ xs : List Section, xs ≠ [] ∧ (∀ x ∈ xs, x.Proper) ∧
        read t = .ok (xs.flatMap Section.records)) ∧
    (∀ xs : List Section, xs ≠ [] → (∀ x ∈ xs, x.Proper) →
      ∃ g, Guide.ofRecords (xs.flatMap Section.records) = .ok g) ∧
    (∀ m, compile t ≠ .error (.malformed m)) ∧
    (∀ rs, read t = .ok rs → ∃ g, compile t = .ok g ∧ g.stepCount = rs.countP Record.isStep) ∧
    (compile t = .error .noSteps ↔ recordsOf t = []) := by
  refine ⟨?_, fun xs hne _ => ⟨_, Guide.ofRecords_sections hne⟩, ?_⟩
  · obtain ⟨xs, hx, hr⟩ := recordsOf_sections t
    by_cases hn : recordsOf t = []
    · exact Or.inl (by rw [read_eq, if_pos hn])
    · refine Or.inr ⟨xs, ?_, hx, by rw [read_eq, if_neg hn, hr]⟩
      rintro rfl
      exact hn hr
  · obtain ⟨xs, -, hr⟩ := recordsOf_sections t
    by_cases hn : xs = []
    · subst xs
      replace hr : recordsOf t = [] := hr
      have hc := compile_nil hr
      refine ⟨fun m => by simp [hc], ?_, iff_of_true hc hr⟩
      intro rs h
      rw [read_eq, if_pos hr] at h
      cases h
    · have hc := compile_ofGroups hr hn
      have hne : recordsOf t ≠ [] := by
        intro h
        rw [compile_nil h] at hc
        cases hc
      refine ⟨fun m => by simp [hc], ?_, iff_of_false (by simp [hc]) hne⟩
      intro rs h
      rw [read_eq, if_neg hne, Except.ok.injEq] at h
      refine ⟨_, hc, ?_⟩
      rw [← h, hr, countP_isStep, Guide.stepCount_ofGroups, List.length_map]

end Document

end Guidebook
