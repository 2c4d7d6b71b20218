import Guidebook.Proofs.Document.Join
import Guidebook.Proofs.Document.Items

namespace Guidebook.Document

namespace Written

theorem lineStep_step (step : Option Text) (c : Cursor) :
    lineStep step "step: |+".toList c =
      ((closing step ++ [.step (oneLine (readValue 0 "|+".toList c).1)], some []),
        (readValue 0 "|+".toList c).2) := rfl

theorem lineStep_description (step : Option Text) (c : Cursor) :
    lineStep step "desc: |+".toList c =
      (([], step.map fun _ => (readValue 0 "|+".toList c).1), (readValue 0 "|+".toList c).2) := rfl

theorem lineStep_suggestions (step : Option Text) (c : Cursor) :
    lineStep step "suggestions:".toList c =
      ((within step (readEntries 0 none c).1, step), (readEntries 0 none c).2) := rfl

theorem stops_descriptionRows (w : Written) {tail : List Text} (hs : Stops 0 tail) :
    Stops 0 (w.descriptionRows ++ tail) := by
  cases hd : w.description with
  | none => simpa [descriptionRows, hd] using hs
  | some d =>
    intro l hl
    obtain rfl : "desc: |+".toList = l := by simpa [descriptionRows, hd] using hl
    rfl

theorem stops_itemRows (w : Written) {tail : List Text} (hs : Stops 0 tail) :
    Stops 0 (w.itemRows ++ tail) := by
  rw [itemRows]
  split
  · exact hs
  · intro l hl
    obtain rfl : "suggestions:".toList = l := Option.some.inj hl
    rfl

theorem recordsFrom_descriptionRows {w : Written} (hp : w.Plain) (d : Text) {tail : List Text}
    (hs : Stops 0 tail) {c : Cursor} (hc : c.upcoming = w.descriptionRows ++ tail) :
    ∃ e : Cursor, e.upcoming = tail ∧
      recordsFrom (some d) c = recordsFrom (some (w.description.getD d)) e := by
  rw [descriptionRows] at hc
  cases hd : w.description with
  | none =>
    rw [hd] at hc
    exact ⟨c, hc, rfl⟩
  | some t =>
    rw [hd] at hc
    obtain ⟨c', ht, hu⟩ := Cursor.exists_take? hc
    obtain ⟨hv, hr⟩ := readValue_shows (shows_block (hp.description t hd).2) hs hu
    refine ⟨_, hr, ?_⟩
    rw [recordsFrom_take? _ ht, lineStep_description, hv]
    rfl

theorem recordsFrom_itemRows {w : Written} (hp : w.Plain) (d : Text) {tail : List Text}
    (hs : Stops 0 tail) {c : Cursor} (hc : c.upcoming = w.itemRows ++ tail) :
    ∃ e : Cursor, e.upcoming = tail ∧
      recordsFrom (some d) c =
        (w.items.map Item.suggestion).map .suggestion ++ recordsFrom (some d) e := by
  rw [itemRows] at hc
  split at hc
  · rename_i hn
    rw [hn.2]
    exact ⟨c, hc, rfl⟩
  · obtain ⟨c', ht, hu⟩ := Cursor.exists_take? hc
    obtain ⟨ha, hr⟩ := Item.readEntries_items hp.items none hs hu
    refine ⟨_, hr, ?_⟩
    rw [recordsFrom_take? _ ht, lineStep_suggestions, ha]
    rfl

theorem oneLine_single {t : Text} (h : '\n' ∉ t) : oneLine t = t := by
  cases t with
  | nil => rfl
  | cons c cs => simp [oneLine, Text.lines_single (by simp) h, List.intercalate]

/-- The rows of a step read back as its section. -/
theorem recordsFrom_rows {w : Written} (hp : w.Plain) {c : Cursor} (hc : c.upcoming = w.rows) :
    recordsFrom none c = w.toSection.records := by
  have hnil : Stops 0 [] := by simp [Stops]
  have hblock : Shows 0 [' ' :: w.title] w.title := by
    have h := shows_block hp.title
    rwa [block, Text.rows_single hp.oneLine] at h
  have hbody (rows : List Text) (hr : Stops 0 rows)
      (hc : c.upcoming = "step: |+".toList :: ([' ' :: w.title] ++ rows)) :
      ∃ e : Cursor, e.upcoming = rows ∧
        recordsFrom none c = .step w.title :: recordsFrom (some []) e := by
    obtain ⟨c', ht, hu⟩ := Cursor.exists_take? hc
    obtain ⟨hv, hr⟩ := readValue_shows hblock hr hu
    refine ⟨_, hr, ?_⟩
    rw [recordsFrom_take? _ ht, lineStep_step, hv, oneLine_single hp.oneLine]
    rfl
  have hend : closing (some (w.description.getD [])) =
      w.description.toList.map .description ++ [.endOfStep] := by
    cases hd : w.description with
    | none => rfl
    | some d =>
      cases d with
      | nil => exact absurd rfl (hp.description [] hd).1
      | cons x xs => rfl
  have hrecords : w.toSection.records = .step w.title ::
      ((w.items.map Item.suggestion).map .suggestion ++
        (w.description.toList.map .description ++ [.endOfStep])) := by
    cases hd : w.description <;>
      simp [Section.records, Section.toGroup, Section.parts, toSection, Group.records, Part.record,
        Function.comp_def, hd]
  rw [hrecords, ← hend]
  rw [rows] at hc
  split at hc
  · rw [← List.append_nil w.itemRows] at hc
    obtain ⟨c₁, h₁, e₁⟩ := hbody _ (w.stops_descriptionRows (w.stops_itemRows hnil)) hc
    obtain ⟨c₂, h₂, e₂⟩ := recordsFrom_descriptionRows hp [] (w.stops_itemRows hnil) h₁
    obtain ⟨c₃, h₃, e₃⟩ := recordsFrom_itemRows hp (w.description.getD []) hnil h₂
    rw [e₁, e₂, e₃, recordsFrom_end _ h₃]
  · rw [← List.append_nil w.descriptionRows] at hc
    obtain ⟨c₁, h₁, e₁⟩ := hbody _ (w.stops_itemRows (w.stops_descriptionRows hnil)) hc
    obtain ⟨c₂, h₂, e₂⟩ := recordsFrom_itemRows hp [] (w.stops_descriptionRows hnil) h₁
    obtain ⟨c₃, h₃, e₃⟩ := recordsFrom_descriptionRows hp [] hnil h₂
    rw [e₁, e₂, e₃, recordsFrom_end _ h₃]

end Written

theorem recordsFrom_documentRows {ws : List Written} (hne : ws ≠ []) (hp : ∀ w ∈ ws, w.Plain) :
    recordsFrom none (.ofLines (documentRows ws)) = ws.flatMap fun w => w.toSection.records := by
  induction ws with
  | nil => exact absurd rfl hne
  | cons w ws ih =>
    have hw := fun c => Written.recordsFrom_rows (c := c) (hp w (by simp))
    cases ws with
    | nil =>
      have hrows : documentRows [w] = w.rows := by simp [documentRows, List.intercalate]
      have h := hw (.ofLines (documentRows [w])) hrows
      simpa using h
    | cons v vs =>
      rw [documentRows_cons, recordsFrom_append (separator_stops _) (separator_opens _),
        hw _ (Cursor.upcoming_ofLines _), ih (by simp) fun u hu => hp u (by simp [hu])]
      rfl

/-- A step whose texts look like the signs of a document. -/
def tricky : Written where
  title := "---".toList
  description := some "step: x\n\n# y".toList
  items := [⟨⟨.snippet, some "- cmd: y".toList, "\t'z\n---\n".toList⟩,
    [.body, .kind, .note], by decide⟩]
  descriptionFirst := true
  terse := false

/-- Reading undoes printing: no character of any text is lost, added or taken for something else. -/
theorem read_print (ws : List Written) (hne : ws ≠ []) (hp : ∀ w ∈ ws, w.Plain) :
    read (print ws) = .ok (ws.flatMap fun w => w.toSection.records) := by
  have hr : recordsOf (print ws) = ws.flatMap fun w => w.toSection.records := by
    rw [← recordsFrom_documentRows hne hp, ← lines_print hp]
    rfl
  have hn : recordsOf (print ws) ≠ [] := by
    rw [hr]
    cases ws with
    | nil => exact absurd rfl hne
    | cons w ws => simp [Section.records, Section.toGroup, Group.records]
  rw [read_eq, if_neg hn, hr]

theorem read_print_tricky : tricky.Plain ∧ read (print [tricky, tricky]) =
    .ok (tricky.toSection.records ++ tricky.toSection.records) := by
  have hitems : ∀ x ∈ tricky.items, x.Plain := by
    intro x hx
    obtain rfl := List.mem_singleton.mp hx
    refine ⟨?_, by decide +kernel⟩
    rintro n ⟨⟩
    decide +kernel
  have hp : tricky.Plain := by
    refine ⟨by decide +kernel, by decide +kernel, ?_, hitems⟩
    rintro d ⟨⟩
    decide +kernel
  refine ⟨hp, read_print [tricky, tricky] (by simp) ?_⟩
  simp [hp]

end Guidebook.Document
