import Guidebook.Proofs.Guide.Tiling

namespace Guidebook.Guide

/-- The guide with the step and the suggestions of a group at its end. -/
def extend (g : Guide) (x : Group) : Guide :=
  ⟨g.steps ++ [⟨x.title, x.description, .todo, g.suggestions.length, x.suggestions.length⟩],
    g.suggestions ++ x.suggestions⟩

theorem tiled_extend {g : Guide} (h : g.Tiled) (x : Group) : (g.extend x).Tiled := by
  rw [Tiled, extend, List.length_append]
  exact h.append ⟨rfl, rfl⟩

/-- The slices that are there stay as they are when the table grows. -/
theorem slice_extend {g : Guide} (h : g.Tiled) (x : Group) {s : Step} (hs : s ∈ g.steps) :
    (g.extend x).slice s = g.slice s := by
  have hb := h.bounds hs
  have hd : s.start ≤ g.suggestions.length := by omega
  have hl : s.len ≤ (g.suggestions.drop s.start).length := by
    rw [List.length_drop]
    omega
  rw [slice, extend, List.drop_append_of_le_length hd, List.take_append_of_le_length hl, slice]

theorem sections_extend {g : Guide} (h : g.Tiled) (x : Group) :
    (g.extend x).sections = g.sections ++ [x.toSection] := by
  have hold : g.steps.map (fun s => (⟨s.title, (g.extend x).slice s, s.description⟩ : Section)) =
      g.sections := by
    rw [sections_eq]
    apply List.map_congr_left
    intro s hs
    rw [slice_extend h x hs]
  have hnew : (g.extend x).slice ⟨x.title, x.description, .todo, g.suggestions.length,
      x.suggestions.length⟩ = x.suggestions := by
    simp [slice, extend]
  rw [sections_eq, ← hold, Group.toSection]
  simp only [extend, List.map_append, List.map_cons, List.map_nil] at hnew ⊢
  rw [hnew]

/-- What a guide becomes when groups are added one after the other. -/
structure Grown (g h : Guide) (xs : List Group) : Prop where
  tiled : h.Tiled
  sections : h.sections = g.sections ++ xs.map Group.toSection
  suggestions : h.suggestions = g.suggestions ++ xs.flatMap Group.suggestions
  todo : (∀ s ∈ g.steps, s.status = .todo) → ∀ s ∈ h.steps, s.status = .todo

theorem grown_foldl {g : Guide} (h : g.Tiled) (xs : List Group) : Grown g (xs.foldl extend g) xs := by
  induction xs generalizing g with
  | nil => exact ⟨h, by simp, by simp, id⟩
  | cons x xs ih =>
    obtain ⟨ht, hs, hg, hd⟩ := ih (tiled_extend h x)
    refine ⟨ht, ?_, ?_, ?_⟩
    · rw [List.foldl_cons, hs, sections_extend h, List.map_cons, List.append_assoc,
        List.singleton_append]
    · rw [List.foldl_cons, hg, extend, List.flatMap_cons, List.append_assoc]
    · intro hall s hm
      apply hd _ s hm
      intro t ht
      rcases List.mem_append.mp ht with hold | hnew
      · exact hall t hold
      · rw [List.mem_singleton.mp hnew]

theorem addAll_cons {g h : Guide} {o p : Option Step} {r : Record} (he : g.add o r = .ok (h, p))
    (rs : List Record) : g.addAll o (r :: rs) = h.addAll p rs := by
  rw [addAll, he]

theorem addAll_parts (g : Guide) (s : Step) (ps : List Part) (rs : List Record) :
    g.addAll (some s) (ps.map Part.record ++ rs) =
      addAll { g with suggestions := g.suggestions ++ ps.filterMap Part.suggestion? }
        (some { s with
          description := (ps.filterMap Part.description?).getLast?.or s.description
          len := s.len + (ps.filterMap Part.suggestion?).length }) rs := by
  induction ps generalizing g s with
  | nil => simp
  | cons p ps ih =>
    cases p with
    | description t =>
      rw [List.map_cons, List.cons_append, addAll_cons (o := some s) rfl, ih]
      simp only [List.filterMap_cons, Part.suggestion?, Part.description?, List.getLast?_cons]
      cases (ps.filterMap Part.description?).getLast? <;> rfl
    | suggestion x =>
      rw [List.map_cons, List.cons_append, addAll_cons (o := some s) rfl, ih]
      simp [Part.suggestion?, Part.description?, Nat.add_assoc, Nat.add_comm 1]

theorem addAll_group (g : Guide) (x : Group) (rs : List Record) :
    g.addAll none (x.records ++ rs) = (g.extend x).addAll none rs := by
  rw [Group.records, List.cons_append, List.append_assoc, addAll_cons rfl, addAll_parts,
    List.singleton_append, addAll_cons rfl]
  simp [extend, Group.description, Group.suggestions]

theorem addAll_groups (g : Guide) (xs : List Group) :
    g.addAll none (xs.flatMap Group.records) = .ok (xs.foldl extend g, none) := by
  induction xs generalizing g with
  | nil => rfl
  | cons x xs ih => rw [List.flatMap_cons, addAll_group, ih, List.foldl_cons]

/-- What may follow in a stream, inside of a step or between two of them. -/
def Rest (rs : List Record) : Option Step → Prop
  | none => ∃ xs : List Group, rs = xs.flatMap Group.records
  | some _ => ∃ (ps : List Part) (xs : List Group),
      rs = ps.map Part.record ++ .endOfStep :: xs.flatMap Group.records

theorem rest_of_addAll {g h : Guide} {o : Option Step} {rs : List Record}
    (he : g.addAll o rs = .ok (h, none)) : Rest rs o := by
  induction rs generalizing g o with
  | nil =>
    cases o with
    | none => exact ⟨[], rfl⟩
    | some s => simp [addAll] at he
  | cons r rs ih =>
    cases o with
    | none =>
      cases r with
      | step t =>
        obtain ⟨ps, xs, rfl⟩ := ih (o := some _) he
        exact ⟨⟨t, ps⟩ :: xs, by simp [Group.records]⟩
      | description t | suggestion x | endOfStep => simp [addAll, add] at he
    | some s =>
      cases r with
      | step t => simp [addAll, add] at he
      | description t =>
        obtain ⟨ps, xs, rfl⟩ := ih (o := some _) he
        exact ⟨.description t :: ps, xs, rfl⟩
      | suggestion x =>
        obtain ⟨ps, xs, rfl⟩ := ih (o := some _) he
        exact ⟨.suggestion x :: ps, xs, rfl⟩
      | endOfStep =>
        obtain ⟨xs, rfl⟩ := ih (o := none) he
        exact ⟨[], xs, rfl⟩

theorem malformed_of_add {g : Guide} {o : Option Step} {r : Record} {e : BuildError}
    (h : g.add o r = .error e) : ∃ m, e = .malformed m := by
  cases o <;> cases r <;> simp only [add, Except.error.injEq, reduceCtorEq] at h <;> exact ⟨_, h.symm⟩

theorem malformed_of_addAll {g : Guide} {o : Option Step} {rs : List Record} {e : BuildError}
    (h : g.addAll o rs = .error e) : ∃ m, e = .malformed m := by
  induction rs generalizing g o with
  | nil => simp [addAll] at h
  | cons r rs ih =>
    cases ha : g.add o r with
    | error f =>
      rw [addAll, ha, Except.error.injEq] at h
      exact malformed_of_add (h ▸ ha)
    | ok p =>
      rw [addAll_cons ha] at h
      exact ih h

def empty : Guide := ⟨[], []⟩

/-- The guide of a stream. -/
def ofGroups (xs : List Group) : Guide := xs.foldl extend empty

theorem tiled_empty : empty.Tiled := rfl

theorem grown_ofGroups (xs : List Group) : Grown empty (ofGroups xs) xs := grown_foldl tiled_empty xs

theorem stepCount_ofGroups (xs : List Group) : (ofGroups xs).stepCount = xs.length := by
  have hs := congrArg List.length (grown_ofGroups xs).sections
  simpa [sections_eq, empty, stepCount] using hs

theorem ofRecords_groups {xs : List Group} (hne : xs ≠ []) :
    ofRecords (xs.flatMap Group.records) = .ok (ofGroups xs) := by
  have hsteps : (ofGroups xs).steps.isEmpty = false := by
    rw [List.isEmpty_eq_false_iff, ← List.length_pos_iff, ← stepCount, stepCount_ofGroups]
    exact List.length_pos_iff.mpr hne
  rw [ofRecords, ← empty, addAll_groups, ← ofGroups]
  simp [hsteps]

theorem ofRecords_sections {xs : List Section} (hne : xs ≠ []) :
    ofRecords (xs.flatMap Section.records) = .ok (ofGroups (xs.map Section.toGroup)) := by
  rw [← Section.flatMap_toGroup]
  exact ofRecords_groups (by simpa using hne)

theorem isStream_of_ofRecords {rs : List Record} {g : Guide} (h : ofRecords rs = .ok g) :
    IsStream rs := by
  rw [ofRecords] at h
  split at h
  · simp at h
  · simp at h
  · rename_i k hk
    obtain ⟨xs, rfl⟩ := rest_of_addAll hk
    refine ⟨xs, ?_, rfl⟩
    rintro rfl
    have hk' : k = empty := by simpa [addAll, empty] using hk.symm
    simp [hk', empty] at h

theorem ofRecords_error {rs : List Record} (hne : rs ≠ []) {e : BuildError}
    (h : ofRecords rs = .error e) : ∃ m, e = .malformed m := by
  rw [ofRecords] at h
  split at h
  · rename_i f hf
    obtain ⟨m, rfl⟩ := malformed_of_addAll hf
    exact ⟨m, (Except.error.inj h).symm⟩
  · exact ⟨_, (Except.error.inj h).symm⟩
  · rename_i k hk
    -- Only a stream gets here, and a stream that is not empty has a group.
    obtain ⟨xs, rfl⟩ := rest_of_addAll hk
    have hxs : xs ≠ [] := by
      rintro rfl
      exact hne rfl
    have hg := ofRecords_groups hxs
    rw [ofRecords, hk] at hg
    simp_all

/-- How a guide keeps what a list of records says. -/
structure Keeps (g : Guide) (rs : List Record) : Prop where
  titles : g.steps.map Step.title = rs.filterMap Record.title?
  descriptions (xs : List Group) (h : rs = xs.flatMap Group.records) :
    g.steps.map Step.description = xs.map Group.description
  todo : ∀ s ∈ g.steps, s.status = .todo
  suggestions : g.suggestions = rs.filterMap Record.suggestion?
  owned (xs : List Group) (h : rs = xs.flatMap Group.records) :
    g.numbers.map g.suggestionsOf = xs.map Group.suggestions
  starts (i : Nat) (h : i < g.steps.length) :
    g.steps[i].start = ((g.steps.take i).map Step.len).sum
  total : (g.steps.map Step.len).sum = g.suggestions.length
  inRange : ∀ i ∈ g.numbers, ∃ s, g.step? i = some s ∧ s.start + s.len ≤ g.suggestions.length
  slices : g.numbers.flatMap g.suggestionsOf = g.suggestions
  records (xs : List Section) (h : rs = xs.flatMap Section.records) : g.records = rs

theorem keeps_of_ofRecords {rs : List Record} {g : Guide} (h : ofRecords rs = .ok g) :
    Keeps g rs := by
  have grown (xs : List Group) (hx : rs = xs.flatMap Group.records) : Grown empty g xs := by
    have hne : xs ≠ [] := by
      rintro rfl
      rw [hx] at h
      simp [ofRecords, addAll] at h
    have hk := ofRecords_groups hne
    rw [← hx, h] at hk
    rw [Except.ok.inj hk]
    exact grown_ofGroups xs
  obtain ⟨ys, -, hy⟩ := isStream_of_ofRecords h
  have hg := grown ys hy
  have hs : g.sections = ys.map Group.toSection := hg.sections
  have htitles := congrArg (List.map Section.title) hs
  have hsuggestions : g.suggestions = ys.flatMap Group.suggestions := hg.suggestions
  refine ⟨?_, ?_, hg.todo (by simp [empty]), ?_, ?_, ?_, ?_, ?_, ?_, ?_⟩
  · rw [hy, Group.titles_records]
    simpa [sections_eq, Function.comp_def, Group.toSection] using htitles
  · intro xs hx
    have hd := congrArg (List.map Section.description) (grown xs hx).sections
    simpa [sections_eq, Function.comp_def, Group.toSection, empty] using hd
  · rw [hy, Group.suggestions_records, hsuggestions]
  · intro xs hx
    have hd := congrArg (List.map Section.suggestions) (grown xs hx).sections
    rw [suggestionsOf_numbers]
    simpa [sections_eq, Function.comp_def, Group.toSection, empty] using hd
  · intro i hi
    simpa using hg.tiled.start_eq i hi
  · simpa using hg.tiled.total
  · intro i hi
    obtain ⟨s, hm, he⟩ := g.step?_of_mem_numbers hi
    exact ⟨s, he, hg.tiled.bounds hm⟩
  · rw [List.flatMap_def, suggestionsOf_numbers, ← List.flatMap_def, slices_of_tiled hg.tiled]
  · intro xs hx
    have hc := (grown (xs.map Section.toGroup) (by rw [hx, Section.flatMap_toGroup])).sections
    rw [Guide.records, hc, hx]
    simp [sections_eq, empty, List.map_map, Function.comp_def, Section.toSection_toGroup]

/-- A list of records makes a guide if and only if it is a stream, and the guide loses nothing
of it. -/
theorem ofRecords_grammar (rs : List Record) :
    ((∃ g, ofRecords rs = .ok g) ↔ IsStream rs) ∧
    (ofRecords rs = .error .noSteps ↔ rs = []) ∧
    ((∃ m, ofRecords rs = .error (.malformed m)) ↔ rs ≠ [] ∧ ¬ IsStream rs) ∧
    ∀ g, ofRecords rs = .ok g → Keeps g rs := by
  have hok : (∃ g, ofRecords rs = .ok g) ↔ IsStream rs := by
    constructor
    · rintro ⟨g, h⟩
      exact isStream_of_ofRecords h
    · rintro ⟨xs, hne, rfl⟩
      exact ⟨ofGroups xs, ofRecords_groups hne⟩
  have hnil : ofRecords [] = .error .noSteps := rfl
  refine ⟨hok, ⟨?_, ?_⟩, ⟨?_, ?_⟩, fun g h => keeps_of_ofRecords h⟩
  · intro h
    by_cases hne : rs = []
    · exact hne
    · obtain ⟨m, hm⟩ := ofRecords_error hne h
      cases hm
  · rintro rfl
    exact hnil
  · rintro ⟨m, h⟩
    refine ⟨?_, fun hs => ?_⟩
    · rintro rfl
      rw [hnil] at h
      cases h
    · obtain ⟨g, hg⟩ := hok.mpr hs
      rw [hg] at h
      cases h
  · rintro ⟨hne, hs⟩
    cases he : ofRecords rs with
    | ok g => exact absurd (hok.mp ⟨g, he⟩) hs
    | error e =>
      obtain ⟨m, rfl⟩ := ofRecords_error hne he
      exact ⟨m, rfl⟩

end Guidebook.Guide
