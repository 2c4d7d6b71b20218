import Guidebook.Proofs.Document.Printer
import Guidebook.Proofs.Document.Readers

namespace Guidebook.Document

theorem stripColumns_replicate (n : Nat) (l : Text) :
    stripColumns n (List.replicate n ' ' ++ l) = l := by
  induction n with
  | zero =>
    rw [List.replicate_zero, List.nil_append, stripColumns]
    simp
  | succ n ih => simpa [List.replicate_succ, stripColumns, Text.isBlank] using ih

theorem indent_replicate (n : Nat) (l : Text) : n ≤ indent (List.replicate n ' ' ++ l) := by
  induction n with
  | zero => exact Nat.zero_le _
  | succ n ih =>
    rw [List.replicate_succ, List.cons_append, indent]
    simpa [Text.isBlank, indent] using ih

/-- A line behind the margin of a block comes back as it was. -/
theorem bodyLine_replicate {l : Text} (h : Visible l) (key : Nat) :
    bodyLine key (List.replicate (key + 1) ' ' ++ l) = l := by
  rcases h with rfl | ⟨c, hc, hb⟩
  · simp [bodyLine, Text.allBlank, Text.isBlank]
  · have ha : ¬ Text.allBlank (List.replicate (key + 1) ' ' ++ l) = true := by
      simp only [Text.allBlank, List.all_eq_true]
      intro hall
      have ht := hall c (by simp [hc])
      rw [hb] at ht
      cases ht
    rw [bodyLine, if_neg ha, stripColumns_replicate]

theorem under_replicate (key : Nat) (l : Text) :
    under key (List.replicate (key + 1) ' ' ++ l) = true :=
  under_of_lt (indent_replicate (key + 1) l)

/-- Rows that show the lines of a text under a key at column `key`. -/
def Shows (key : Nat) (rows : List Text) (t : Text) : Prop :=
  (∀ l ∈ rows, under key l = true) ∧ rows.map (bodyLine key) = Text.rows t

theorem readValue_shows {key : Nat} {rows tail : List Text} {t : Text} (h : Shows key rows t)
    (hs : Stops key tail) {c : Cursor} (hc : c.upcoming = rows ++ tail) :
    (readValue key "|+".toList c).1 = t ∧ (readValue key "|+".toList c).2.upcoming = tail := by
  have hv : readValue key "|+".toList c = readBlock .keep key c := rfl
  obtain ⟨hin, hout⟩ := Cursor.inside_of_append h.1 hs hc
  rw [hv, readBlock_eq, (readBlock_local .keep key).rest, hin, hout, Chomp.trim, h.2,
    Text.joinLines_rows]
  exact ⟨rfl, rfl⟩

theorem shows_map {key : Nat} {row : Text → Text} (hu : ∀ l, under key (row l) = true)
    (hb : ∀ l, Visible l → bodyLine key (row l) = l) {t : Text} (h : Plain t) :
    Shows key ((Text.rows t).map row) t := by
  refine ⟨?_, ?_⟩
  · intro l hl
    obtain ⟨m, -, rfl⟩ := List.mem_map.mp hl
    exact hu m
  · rw [List.map_map, List.map_congr_left (g := id), List.map_id]
    intro l hl
    exact hb l (h l hl).1

theorem shows_block {t : Text} (h : Plain t) : Shows 0 (Written.block t) t :=
  shows_map (under_replicate 0) (fun _ hl => bodyLine_replicate hl 0) h

namespace Slot

theorem shows_blockRow {t : Text} (h : Plain t) : Shows 4 ((Text.rows t).map blockRow) t := by
  refine shows_map ?_ ?_ h
  · intro l
    rw [blockRow]
    split
    · rfl
    · exact under_replicate 4 l
  · intro l hl
    rw [blockRow]
    split
    · subst l
      rfl
    · exact bodyLine_replicate hl 4

theorem ofText?_heading (k : Kind) (f : Slot) :
    Field.ofText? (heading k f) = some ⟨key k f, value k f⟩ := by
  cases k <;> cases f <;> decide +kernel

/-- What reading a field does to the fields that have been read. -/
def fill (s : Suggestion) (d : Draft) (f : Slot) : Draft := d.set (key s.kind f) (f.text s)

theorem readValue_label (k : Kind) (c : Cursor) : readValue 4 k.label c = (k.label, c) := by
  have hv : Chomp.ofValue? k.label = none := by cases k <;> decide
  have hu : unquote k.label = k.label := by cases k <;> decide
  rw [readValue, hv, hu]

theorem readField_heading {s : Suggestion} {f : Slot} (hp : f ≠ .kind → Plain (f.text s))
    (d : Draft) {tail : List Text} (hs : Stops 4 tail) {c : Cursor}
    (hc : c.upcoming = f.block s ++ tail) :
    (readField d 4 (heading s.kind f) c).1 = fill s d f ∧
      (readField d 4 (heading s.kind f) c).2.upcoming = tail := by
  rw [readField, ofText?_heading]
  by_cases hf : f = .kind
  · subst f
    dsimp only [value]
    rw [if_pos rfl, readValue_label]
    exact ⟨rfl, hc⟩
  · rw [block, if_neg hf] at hc
    obtain ⟨hv, hu⟩ := readValue_shows (shows_blockRow (hp hf)) hs hc
    dsimp only [value]
    rw [if_neg hf, hv]
    exact ⟨rfl, hu⟩

/-- What has been read of a field. -/
def get (s : Suggestion) (d : Draft) : Slot → Option Text
  | .kind => d.kind
  | .note => d.note
  | .body =>
    match s.kind with
    | .cmd => d.cmd
    | .snippet => d.content

theorem get_fill (s : Suggestion) (d : Draft) (f g : Slot) :
    get s (fill s d g) f = if f = g then some (f.text s) else get s d f := by
  cases hk : s.kind <;> cases f <;> cases g <;>
    simp only [get, fill, key, text, hk] <;> rfl

theorem get_foldl (s : Suggestion) (fs : List Slot) (d : Draft) (f : Slot) :
    get s (fs.foldl (fill s) d) f = if f ∈ fs then some (f.text s) else get s d f := by
  induction fs generalizing d with
  | nil => simp
  | cons g fs ih =>
    rw [List.foldl_cons, ih, get_fill]
    by_cases hm : f ∈ fs
    · simp [hm]
    · by_cases hg : f = g <;> simp [hm, hg]

end Slot

namespace Item

/-- The fields of an entry, in whatever order, make its suggestion. -/
theorem suggestion_foldl (x : Item) (hn : x.suggestion.note ≠ some []) :
    (x.slots.foldl (Slot.fill x.suggestion) .empty).suggestion = x.suggestion := by
  have hget := Slot.get_foldl x.suggestion x.slots .empty
  simp only [mem_slots] at hget
  generalize x.slots.foldl (Slot.fill x.suggestion) .empty = d at hget
  obtain ⟨⟨k, n, b⟩, _, _⟩ := x
  have hkind : d.kind = some k.label := hget .kind
  have hbody := hget .body
  have hnote : d.note = n := by
    have hd := hget .note
    cases n with
    | none => simpa [Slot.get, Draft.empty] using hd
    | some m => simpa [Slot.get, Slot.text] using hd
  have hof : Kind.ofName k.label = k := by cases k <;> decide
  have hfilter : n.filter (!·.isEmpty) = n := by
    cases n with
    | none => rfl
    | some m =>
      have hm : m ≠ [] := by simpa using hn
      simp [Option.filter, hm]
  rw [Draft.suggestion, hkind, hnote]
  simp only [Option.map_some, Option.getD_some, hof, hfilter]
  cases k with
  | cmd =>
    have hb : d.cmd = some b := hbody
    rw [hb, Option.getD_some]
  | snippet =>
    have hb : d.content = some b := hbody
    rw [hb, Option.getD_some]

/-- How a list takes the line of a first field. -/
theorem first_row (k : Kind) (f : Slot) :
    Text.allBlank ("  - ".toList ++ f.heading k) = false ∧
    isComment ("  - ".toList ++ f.heading k) = false ∧
    indent ("  - ".toList ++ f.heading k) = 2 ∧
    afterDash? (Text.trimStart ("  - ".toList ++ f.heading k)) = some (' ' :: f.heading k) ∧
    Text.trimStart (' ' :: f.heading k) = f.heading k ∧ (f.heading k).isEmpty = false ∧
    keyColumn 2 (Text.trimStart ("  - ".toList ++ f.heading k)) (f.heading k) = 4 := by
  cases k <;> cases f <;> decide +kernel

/-- How a list takes the line of any other field. -/
theorem next_row (k : Kind) (f : Slot) :
    Text.allBlank ("    ".toList ++ f.heading k) = false ∧
    isComment ("    ".toList ++ f.heading k) = false ∧
    indent ("    ".toList ++ f.heading k) = 4 ∧
    Text.trimStart ("    ".toList ++ f.heading k) = f.heading k ∧
    afterDash? (f.heading k) = none := by
  cases k <;> cases f <;> decide +kernel

theorem entryStep_first (open? : Option Draft) (k : Kind) (f : Slot) (c : Cursor) :
    entryStep open? ("  - ".toList ++ f.heading k) c =
      (((open?.toList.map Draft.suggestion ++ ·), some (readField .empty 4 (f.heading k) c).1),
        (readField .empty 4 (f.heading k) c).2) := by
  obtain ⟨hb, hc, hi, hd, ht, he, hk⟩ := first_row k f
  have hs : startEntry 2 (Text.trimStart ("  - ".toList ++ f.heading k)) (' ' :: f.heading k) c =
      readField .empty 4 (f.heading k) c := by
    simp only [startEntry, ht, he, hk, Bool.false_eq_true, ↓reduceIte]
  simp only [entryStep, hb, hc, hi, hd, hs, Bool.or_self, Bool.false_eq_true, ↓reduceIte]

theorem entryStep_next (d : Draft) (k : Kind) (f : Slot) (c : Cursor) :
    entryStep (some d) ("    ".toList ++ f.heading k) c =
      ((id, some (readField d 4 (f.heading k) c).1), (readField d 4 (f.heading k) c).2) := by
  obtain ⟨hb, hc, hi, ht, hd⟩ := next_row k f
  simp only [entryStep, hb, hc, hi, ht, hd, Bool.or_self, Bool.false_eq_true, ↓reduceIte]

theorem stops_fieldRows (s : Suggestion) (fs : List Slot) {tail : List Text} (hs : Stops 4 tail) :
    Stops 4 (fs.flatMap (fieldRows s) ++ tail) := by
  cases fs with
  | nil => exact hs
  | cons f fs =>
    intro l hl
    obtain rfl : "    ".toList ++ f.heading s.kind = l := Option.some.inj hl
    obtain ⟨hb, -, hi, -⟩ := next_row s.kind f
    exact under_eq_false.mpr ⟨hb, Nat.le_of_eq hi⟩

/-- Reading goes on behind the fields of an entry as if they had been read at once. -/
theorem readEntries_fieldRows (s : Suggestion) (fs : List Slot)
    (hp : ∀ f ∈ fs, f ≠ .kind → Document.Plain (f.text s)) (d : Draft) {tail : List Text}
    (hs : Stops 4 tail) {c : Cursor} (hc : c.upcoming = fs.flatMap (fieldRows s) ++ tail) :
    ∃ e : Cursor, e.upcoming = tail ∧
      readEntries 0 (some d) c = readEntries 0 (some (fs.foldl (Slot.fill s) d)) e := by
  induction fs generalizing d c with
  | nil => exact ⟨c, hc, rfl⟩
  | cons f fs ih =>
    rw [List.flatMap_cons, fieldRows, List.cons_append, List.cons_append, List.append_assoc] at hc
    obtain ⟨c', ht, hu⟩ := Cursor.exists_take? hc
    have hl : under 0 ("    ".toList ++ f.heading s.kind) = true := by
      obtain ⟨-, -, hi, -⟩ := next_row s.kind f
      exact under_of_lt (by omega)
    obtain ⟨hf, hr⟩ := Slot.readField_heading (hp f (by simp)) d (stops_fieldRows s fs hs) hu
    obtain ⟨e, he, hrun⟩ := ih (fun g hg => hp g (by simp [hg])) (Slot.fill s d f) hr
    refine ⟨e, he, ?_⟩
    rw [readEntries_take? _ ht hl, entryStep_next, hf, hrun]
    rfl

theorem stops_rows (x : Item) {tail : List Text} : Stops 4 (x.rows ++ tail) := by
  intro l hl
  rw [rows] at hl
  split at hl
  · exact absurd ‹_› x.slots_ne_nil
  · rename_i f fs _
    obtain rfl : "  - ".toList ++ f.heading x.suggestion.kind = l := Option.some.inj hl
    obtain ⟨hb, -, hi, -⟩ := first_row x.suggestion.kind f
    exact under_eq_false.mpr ⟨hb, by omega⟩

theorem readEntries_rows {x : Item} (hp : x.Plain) (open? : Option Draft) {tail : List Text}
    (hs : Stops 4 tail) {c : Cursor} (hc : c.upcoming = x.rows ++ tail) :
    ∃ (e : Cursor) (d : Draft), e.upcoming = tail ∧ d.suggestion = x.suggestion ∧
      readEntries 0 open? c = (open?.toList.map Draft.suggestion ++ (readEntries 0 (some d) e).1,
        (readEntries 0 (some d) e).2) := by
  have hn : x.suggestion.note ≠ some [] := fun h => (hp.note [] h).1 rfl
  have hd := x.suggestion_foldl hn
  have hslot := fun f (hf : f ∈ x.slots) => hp.slot hf
  rw [rows] at hc
  cases hx : x.slots with
  | nil => exact absurd hx x.slots_ne_nil
  | cons f fs =>
    rw [hx] at hc hd hslot
    simp only [List.cons_append, List.append_assoc] at hc
    obtain ⟨c', ht, hu⟩ := Cursor.exists_take? hc
    have hl : under 0 ("  - ".toList ++ f.heading x.suggestion.kind) = true := by
      obtain ⟨-, -, hi, -⟩ := first_row x.suggestion.kind f
      exact under_of_lt (by omega)
    obtain ⟨hf, hr⟩ := Slot.readField_heading (hslot f (by simp)) .empty
      (stops_fieldRows x.suggestion fs hs) hu
    obtain ⟨e, he, hrun⟩ := readEntries_fieldRows x.suggestion fs
      (fun g hg => hslot g (by simp [hg])) (Slot.fill x.suggestion .empty f) hs hr
    refine ⟨e, _, he, hd, ?_⟩
    rw [readEntries_take? _ ht hl, entryStep_first, hf, hrun]
    rfl

/-- A list of entries, up to something at column 0, gives the suggestions of its entries. -/
theorem readEntries_items {xs : List Item} (hp : ∀ x ∈ xs, x.Plain) (open? : Option Draft)
    {tail : List Text} (hs : Stops 0 tail) {c : Cursor}
    (hc : c.upcoming = xs.flatMap rows ++ tail) :
    (readEntries 0 open? c).1 = open?.toList.map Draft.suggestion ++ xs.map suggestion ∧
      (readEntries 0 open? c).2.upcoming = tail := by
  induction xs generalizing open? c with
  | nil =>
    have hc' : c.upcoming = [] ++ tail := hc
    have hin := (Cursor.inside_of_append (by simp) hs hc').1
    obtain ⟨ha, hr⟩ := readEntries_stop open? hin
    exact ⟨by rw [ha, List.map_nil, List.append_nil], hr.trans hc⟩
  | cons x xs ih =>
    have hs4 : Stops 4 (xs.flatMap rows ++ tail) := by
      cases xs with
      | nil => exact hs.mono (by omega)
      | cons y ys =>
        rw [List.flatMap_cons, List.append_assoc]
        exact stops_rows y
    rw [List.flatMap_cons, List.append_assoc] at hc
    obtain ⟨e, d, he, hd, hrun⟩ := readEntries_rows (hp x (by simp)) open? hs4 hc
    obtain ⟨ha, hr⟩ := ih (fun y hy => hp y (by simp [hy])) (some d) he
    rw [hrun, ha]
    refine ⟨?_, hr⟩
    rw [List.map_cons, ← hd]
    rfl

end Item

end Guidebook.Document
