import Guidebook.Proofs.Document.Field
import Guidebook.Proofs.Document.Shape

namespace Guidebook

namespace Guide

/-- The steps and suggestions of two guides, one behind the other. -/
def append (g h : Guide) : Guide :=
  ⟨g.steps ++ h.steps.map fun s => { s with start := g.suggestions.length + s.start },
    g.suggestions ++ h.suggestions⟩

theorem append_empty (g : Guide) : g.append empty = g := by
  simp [append, empty]

theorem extend_append (g h : Guide) (x : Group) :
    (g.append h).extend x = g.append (h.extend x) := by
  simp [append, extend]

theorem ofGroups_append (xs ys : List Group) :
    ofGroups (xs ++ ys) = (ofGroups xs).append (ofGroups ys) := by
  have hfold (g h : Guide) : ys.foldl extend (g.append h) = g.append (ys.foldl extend h) := by
    induction ys generalizing h with
    | nil => rfl
    | cons y ys ih => rw [List.foldl_cons, extend_append, ih, List.foldl_cons]
  have he := hfold (ofGroups xs) empty
  rw [append_empty] at he
  rw [ofGroups, List.foldl_append]
  exact he

end Guide

namespace Document

/-- The cursor before the first of these lines. -/
def Cursor.ofLines (ls : List Text) : Cursor := ⟨none, ls, 0⟩

theorem Cursor.upcoming_ofLines (ls : List Text) : (ofLines ls).upcoming = ls := rfl

/-- Lines leave a step open behind them, whatever else comes there that no construct goes on into. -/
theorem recordsFrom_split (step : Option Text) (c : Cursor) :
    ∃ (rs : List Record) (next : Option Text), recordsFrom step c = rs ++ closing next ∧
      ∀ tail d, Stops 0 tail → d.upcoming = c.upcoming ++ tail →
        ∃ e : Cursor, e.upcoming = tail ∧ recordsFrom step d = rs ++ recordsFrom next e := by
  induction hn : c.upcoming.length using Nat.strongRecOn generalizing step c with
  | ind n ih =>
    cases ht : c.take? with
    | none =>
      have hc := Cursor.take?_eq_none ht
      refine ⟨[], step, recordsFrom_end step hc, fun tail d _ hd => ⟨d, ?_, rfl⟩⟩
      rw [hd, hc, List.nil_append]
    | some p =>
      obtain ⟨l, c'⟩ := p
      have hlt := lineStep_shorter step ht
      obtain ⟨rs, next, h, hrest⟩ := ih _ (by omega) (lineStep step l c').1.2 (lineStep step l c').2 rfl
      refine ⟨(lineStep step l c').1.1 ++ rs, next, ?_, fun tail d hs hd => ?_⟩
      · rw [recordsFrom_take? step ht, h, List.append_assoc]
      · rw [Cursor.upcoming_take? ht, List.cons_append] at hd
        obtain ⟨d', hd', hu⟩ := Cursor.exists_take? hd
        obtain ⟨ha, hr⟩ := (lineStep_within step l).append (hs.mono (Nat.zero_le _)) hu
        obtain ⟨e, he, h'⟩ := hrest tail _ hs hr
        refine ⟨e, he, ?_⟩
        rw [recordsFrom_take? step hd', ha, h', List.append_assoc]

/-- Only the lines still to come count. -/
theorem recordsFrom_congr (step : Option Text) {c d : Cursor} (h : c.upcoming = d.upcoming) :
    recordsFrom step c = recordsFrom step d := by
  have hs : Stops 0 [] := by simp [Stops]
  obtain ⟨rs, next, hc, htail⟩ := recordsFrom_split step c
  obtain ⟨e, he, hd⟩ := htail [] d hs (by rw [h, List.append_nil])
  rw [hc, hd, recordsFrom_end next he]

/-- Lines that leave nothing of the step before them open. -/
def Opens (tail rest : List Text) : Prop :=
  ∀ step e, e.upcoming = tail → recordsFrom step e =
    closing step ++ recordsFrom none (.ofLines rest)

theorem recordsFrom_append {tail rest : List Text} (hs : Stops 0 tail) (ho : Opens tail rest)
    (ls : List Text) : recordsFrom none (.ofLines (ls ++ tail)) =
      recordsFrom none (.ofLines ls) ++ recordsFrom none (.ofLines rest) := by
  obtain ⟨rs, next, hls, htail⟩ := recordsFrom_split none (.ofLines ls)
  obtain ⟨e, he, h⟩ := htail tail (.ofLines (ls ++ tail)) hs rfl
  rw [hls, h, ho next e he, List.append_assoc]

theorem separator_opens (rest : List Text) : Opens (separator :: rest) rest := by
  intro step e he
  obtain ⟨d, hd, hr⟩ := Cursor.exists_take? he
  have hl : lineStep step separator d = ((closing step, none), d) := rfl
  rw [recordsFrom_take? step hd, hl]
  exact congrArg (closing step ++ ·) (recordsFrom_congr none hr)

theorem separator_stops (rest : List Text) : Stops 0 (separator :: rest) := by
  intro l hl
  obtain rfl : separator = l := by simpa using hl
  decide

theorem recordsOf_separator {a : Text} (ha : Text.Ended a) (b : Text) :
    recordsOf (a ++ "---\n".toList ++ b) = recordsOf a ++ recordsOf b := by
  have hlines : Text.lines (a ++ "---\n".toList ++ b) = Text.lines a ++ separator :: Text.lines b := by
    rw [List.append_assoc, Text.lines_append ha]
    exact congrArg (Text.lines a ++ ·) (Text.lines_line separator_clean b)
  have h := recordsFrom_append (separator_stops _) (separator_opens (Text.lines b)) (Text.lines a)
  rw [← hlines] at h
  exact h

/-- The first line is the field of a step, at column 0. -/
def StartsStep (ls : List Text) : Prop :=
  ∃ l ∈ ls.head?, indent l = 0 ∧ ∃ f, Field.ofText? (Text.trimStart l) = some f ∧
    f.key = "step".toList

theorem step_opens {ls : List Text} (h : StartsStep ls) : Opens ls ls := by
  obtain ⟨l, hl, hi, f, hf, hk⟩ := h
  obtain ⟨rest, rfl⟩ := List.head?_eq_some_iff.mp hl
  obtain ⟨hb, hc, hs⟩ := visible_of_field hf
  intro step e he
  obtain ⟨d, hd, hr⟩ := Cursor.exists_take? he
  have hkey : Keyword.ofKey? f.key = some .step := by
    rw [hk]
    rfl
  have hstep (o : Option Text) : lineStep o l d =
      ((closing o ++ [.step (oneLine (readValue (indent l) f.value d).1)], some []),
        (readValue (indent l) f.value d).2) := by
    simp [lineStep, hb, hc, hs, hf, hkey]
  rw [← recordsFrom_congr none (he.trans (Cursor.upcoming_ofLines _).symm),
    recordsFrom_take? step hd, recordsFrom_take? none hd, hstep, hstep, ← List.append_assoc]
  rfl

/-- Nothing goes on into a field at column 0. -/
theorem stops_field {l : Text} {f : Field} (hi : indent l = 0)
    (hf : Field.ofText? (Text.trimStart l) = some f) (ls : List Text) : Stops 0 (l :: ls) := by
  obtain ⟨hb, -, -⟩ := visible_of_field hf
  intro m hm
  obtain rfl : l = m := Option.some.inj hm
  simp [under, hb, hi]

theorem step_stops {ls : List Text} (h : StartsStep ls) : Stops 0 ls := by
  obtain ⟨l, hl, hi, f, hf, -⟩ := h
  obtain ⟨rest, rfl⟩ := List.head?_eq_some_iff.mp hl
  exact stops_field hi hf rest

theorem recordsOf_step {a b : Text} (ha : Text.Ended a) (hb : StartsStep (Text.lines b)) :
    recordsOf (a ++ b) = recordsOf a ++ recordsOf b := by
  have h := recordsFrom_append (step_stops hb) (step_opens hb) (Text.lines a)
  rw [← Text.lines_append ha] at h
  exact h

/-- The records of a document; none if it has no step. -/
def emitted (t : Text) : List Record :=
  match read t with
  | .ok rs => rs
  | .error _ => []

theorem emitted_eq (t : Text) : emitted t = recordsOf t := by
  rw [emitted, read_eq]
  by_cases h : recordsOf t = []
  · rw [if_pos h, h]
  · rw [if_neg h]

/-- A document says what one document says and then what another one says. -/
structure Joins (t a b : Text) : Prop where
  records : emitted t = emitted a ++ emitted b
  both (g h : Guide) (ha : compile a = .ok g) (hb : compile b = .ok h) :
    compile t = .ok (g.append h)
  left (e : BuildError) (ha : compile a = .error e) : compile t = compile b
  right (e : BuildError) (hb : compile b = .error e) : compile t = compile a

theorem joins_of_records {t a b : Text} (h : recordsOf t = recordsOf a ++ recordsOf b) :
    Joins t a b := by
  obtain ⟨xs, -, hx⟩ := recordsOf_sections a
  obtain ⟨ys, -, hy⟩ := recordsOf_sections b
  have ht : recordsOf t = (xs ++ ys).flatMap Section.records := by
    rw [h, hx, hy, List.flatMap_append]
  have hc {s : Text} {zs : List Section} (hs : recordsOf s = zs.flatMap Section.records) :
      compile s =
        if zs = [] then .error .noSteps else .ok (Guide.ofGroups (zs.map Section.toGroup)) := by
    by_cases hz : zs = []
    · rw [if_pos hz]
      exact compile_nil (by rw [hs, hz]; rfl)
    · rw [if_neg hz]
      exact compile_ofGroups hs hz
  refine ⟨by rw [emitted_eq, emitted_eq, emitted_eq, h], ?_, ?_, ?_⟩
  · intro g k hg hk
    have hxn : xs ≠ [] := by
      rintro rfl
      simp [hc hx] at hg
    have hyn : ys ≠ [] := by
      rintro rfl
      simp [hc hy] at hk
    rw [hc hx, if_neg hxn, Except.ok.injEq] at hg
    rw [hc hy, if_neg hyn, Except.ok.injEq] at hk
    rw [hc ht, if_neg (by simp [hxn]), List.map_append, Guide.ofGroups_append, hg, hk]
  · intro e he
    have hxn : xs = [] := by
      by_cases hxn : xs = []
      · exact hxn
      · rw [hc hx, if_neg hxn] at he
        cases he
    rw [hc ht, hc hy, hxn, List.nil_append]
  · intro e he
    have hyn : ys = [] := by
      by_cases hyn : ys = []
      · exact hyn
      · rw [hc hy, if_neg hyn] at he
        cases he
    rw [hc ht, hc hx, hyn, List.append_nil]

/-- A list whose last entry is open, in the middle of a block. -/
def openList : Text := "step: A\nsuggestions:\n  - cmd: |\n     ls\n".toList

def nextStep : Text := "step: B\n".toList

/-- Nothing leaks across a separator, or into a new step: the first document may end in whatever
it likes. -/
theorem joins_documents (a b : Text) (ha : Text.Ended a) :
    Joins (a ++ "---\n".toList ++ b) a b ∧ (StartsStep (Text.lines b) → Joins (a ++ b) a b) :=
  ⟨joins_of_records (recordsOf_separator ha b), fun hb => joins_of_records (recordsOf_step ha hb)⟩

theorem joins_openList : Text.Ended openList ∧ StartsStep (Text.lines nextStep) ∧
    Joins (openList ++ "---\n".toList ++ nextStep) openList nextStep ∧
    Joins (openList ++ nextStep) openList nextStep := by
  have ha : Text.Ended openList := Or.inr (by decide +kernel)
  have hb : StartsStep (Text.lines nextStep) := by
    refine ⟨"step: B".toList, ?_, ?_, ⟨"step".toList, "B".toList⟩, ?_, rfl⟩ <;> decide +kernel
  obtain ⟨hseparator, hstep⟩ := joins_documents openList nextStep ha
  exact ⟨ha, hb, hseparator, hstep hb⟩

end Document

end Guidebook
