import Guidebook.Document.Cursor
import Guidebook.Document.Line
import Mathlib.Data.List.TakeWhile

namespace Guidebook.Document

variable {α β σ : Type}

/-- A line that may belong to what stands under a key at column `key`. -/
def under (key : Nat) (l : Text) : Bool := Text.allBlank l || decide (key < indent l)

theorem under_of_blank {key : Nat} {l : Text} (h : Text.allBlank l = true) : under key l = true := by
  rw [under, h, Bool.true_or]

theorem under_of_lt {key : Nat} {l : Text} (h : key < indent l) : under key l = true := by
  rw [under, decide_eq_true h, Bool.or_true]

theorem under_eq_false {key : Nat} {l : Text} :
    under key l = false ↔ Text.allBlank l = false ∧ indent l ≤ key := by
  simp [under]

theorem lt_of_under {key : Nat} {l : Text} (h : under key l = true) (hb : Text.allBlank l = false) :
    key < indent l := by
  simpa [under, hb] using h

theorem under_mono {j k : Nat} (h : j ≤ k) {l : Text} (hl : under k l = true) :
    under j l = true := by
  simp only [under, Bool.or_eq_true, decide_eq_true_eq] at hl ⊢
  exact hl.imp id (Nat.lt_of_le_of_lt h)

/-- A reader first asks whether a line is blank, and then how deep it stands. -/
theorem ite_blank_indent {key : Nat} {l : Text} (blank shallow deep : β) :
    (if Text.allBlank l then blank else if indent l ≤ key then shallow else deep) =
      if under key l then if Text.allBlank l then blank else deep else shallow := by
  by_cases hb : Text.allBlank l = true
  · simp [under, hb]
  · by_cases hi : indent l ≤ key
    · simp [under, hb, hi, Nat.not_lt_of_le hi]
    · simp [under, hb, hi]

namespace Cursor

/-- The lines still to come that stand under a key at column `key`. -/
def inside (key : Nat) (c : Cursor) : List Text := c.upcoming.takeWhile (under key)

/-- The lines from the first one on that stands no deeper than a key at column `key`. -/
def outside (key : Nat) (c : Cursor) : List Text := c.upcoming.dropWhile (under key)

theorem inside_append_outside (key : Nat) (c : Cursor) :
    c.inside key ++ c.outside key = c.upcoming := List.takeWhile_append_dropWhile

theorem exists_take? {c : Cursor} {l : Text} {ls : List Text} (h : c.upcoming = l :: ls) :
    ∃ d, c.take? = some (l, d) ∧ d.upcoming = ls := by
  cases ht : c.take? with
  | none =>
    rw [take?_eq_none ht] at h
    cases h
  | some p =>
    rw [upcoming_take? ht, List.cons.injEq] at h
    exact ⟨p.2, by rw [← h.1], h.2⟩

theorem inside_take? {key : Nat} {c d : Cursor} {l : Text} (h : c.take? = some (l, d))
    (hl : under key l = true) : c.inside key = l :: d.inside key := by
  rw [inside, upcoming_take? h, List.takeWhile_cons_of_pos hl, inside]

theorem outside_take? {key : Nat} {c d : Cursor} {l : Text} (h : c.take? = some (l, d))
    (hl : under key l = true) : c.outside key = d.outside key := by
  rw [outside, upcoming_take? h, List.dropWhile_cons_of_pos hl, outside]

/-- The first line of a cursor that has nothing to give under a key. -/
theorem first_of_inside {key : Nat} {c d : Cursor} {l : Text} (h : c.inside key = [])
    (ht : c.take? = some (l, d)) : Text.allBlank l = false ∧ indent l ≤ key := by
  rw [← under_eq_false, ← Bool.not_eq_true]
  intro hl
  rw [inside_take? ht hl] at h
  cases h

theorem take?_of_inside {key : Nat} {c : Cursor} {l : Text} {ls : List Text}
    (h : c.inside key = l :: ls) :
    ∃ d, c.take? = some (l, d) ∧ under key l = true ∧ d.inside key = ls := by
  cases hu : c.upcoming with
  | nil => simp [inside, hu] at h
  | cons m ms =>
    rw [inside, hu, List.takeWhile_cons] at h
    split at h
    · obtain ⟨rfl, rfl⟩ := List.cons.inj h
      obtain ⟨d, hd, rfl⟩ := exists_take? hu
      exact ⟨d, hd, ‹_›, rfl⟩
    · cases h

end Cursor

/-- What stands under a key at column `key` does not go on into these lines: there are none, or the
first one has something at that column or before it. -/
def Stops (key : Nat) (ls : List Text) : Prop := ∀ l ∈ ls.head?, under key l = false

theorem Stops.mono {j k : Nat} {ls : List Text} (h : Stops j ls) (hjk : j ≤ k) : Stops k ls := by
  intro l hl
  rw [← Bool.not_eq_true]
  intro hu
  have hj := h l hl
  rw [under_mono hjk hu] at hj
  cases hj

theorem Stops.takeWhile {key : Nat} {ls : List Text} (h : Stops key ls) :
    ls.takeWhile (under key) = [] := by
  cases ls with
  | nil => rfl
  | cons l ls => simp [h l rfl]

namespace Cursor

variable {c d : Cursor} {tail : List Text}

theorem inside_append {key : Nat} (hs : Stops key tail) (h : d.upcoming = c.upcoming ++ tail) :
    d.inside key = c.inside key := by
  rw [inside, h, List.takeWhile_append, hs.takeWhile, inside, List.append_nil]
  split
  · rename_i hl
    exact ((List.takeWhile_prefix _).eq_of_length hl).symm
  · rfl

theorem outside_append {key : Nat} (hs : Stops key tail) (h : d.upcoming = c.upcoming ++ tail) :
    d.outside key = c.outside key ++ tail := by
  have hd := d.inside_append_outside key
  rw [h, ← c.inside_append_outside key, inside_append hs h, List.append_assoc] at hd
  exact List.append_cancel_left hd

/-- A cursor before lines that stand under a key, and then before lines that do not. -/
theorem inside_of_append {key : Nat} {ls : List Text} (hl : ∀ l ∈ ls, under key l = true)
    (hs : Stops key tail) (h : c.upcoming = ls ++ tail) :
    c.inside key = ls ∧ c.outside key = tail := by
  have hin : c.inside key = ls := by
    rw [inside, h, List.takeWhile_append_of_pos hl, hs.takeWhile, List.append_nil]
  have happ := c.inside_append_outside key
  rw [hin, h] at happ
  exact ⟨hin, List.append_cancel_left happ⟩

end Cursor

section Prefix

variable {p q : α → Bool} (h : ∀ x, q x = true → p x = true)

include h

theorem dropWhile_dropWhile_of_imp (xs : List α) : (xs.dropWhile q).dropWhile p = xs.dropWhile p := by
  induction xs with
  | nil => rfl
  | cons x xs ih =>
    by_cases hx : q x = true
    · simp [hx, h x hx, ih]
    · simp [hx]

theorem takeWhile_takeWhile_of_imp (xs : List α) : (xs.takeWhile p).takeWhile q = xs.takeWhile q := by
  induction xs with
  | nil => rfl
  | cons x xs ih =>
    by_cases hx : q x = true
    · simp [hx, h x hx, ih]
    · by_cases hp : p x = true <;> simp [hx, hp]

theorem dropWhile_takeWhile_of_imp (xs : List α) :
    (xs.takeWhile p).dropWhile q = (xs.dropWhile q).takeWhile p := by
  induction xs with
  | nil => rfl
  | cons x xs ih =>
    by_cases hx : q x = true
    · simp [hx, h x hx, ih]
    · by_cases hp : p x = true <;> simp [hx, hp]

theorem takeWhile_append_of_imp (xs : List α) :
    xs.takeWhile q ++ (xs.dropWhile q).takeWhile p = xs.takeWhile p := by
  rw [← dropWhile_takeWhile_of_imp h, ← takeWhile_takeWhile_of_imp h, List.takeWhile_append_dropWhile]

end Prefix

/-- A reader that takes lines under a column only, and whose answer depends on those alone. -/
structure Within (key : Nat) (f : Cursor → α × Cursor) : Prop where
  shorter (c : Cursor) : (f c).2.upcoming.length ≤ c.upcoming.length
  outside (c : Cursor) : (f c).2.outside key = c.outside key
  inside (c d : Cursor) (h : c.inside key = d.inside key) :
    (f c).2.inside key = (f d).2.inside key
  answer (c d : Cursor) (h : c.inside key = d.inside key) : (f c).1 = (f d).1

/-- A reader that takes all the lines under a column, and whose answer depends on those alone. -/
structure Local (key : Nat) (f : Cursor → α × Cursor) : Prop where
  rest (c : Cursor) : (f c).2.upcoming = c.outside key
  answer (c d : Cursor) (h : c.inside key = d.inside key) : (f c).1 = (f d).1

namespace Within

theorem pure (key : Nat) (a : α) : Within key fun c => (a, c) :=
  ⟨fun _ => Nat.le_refl _, fun _ => rfl, fun _ _ h => h, fun _ _ _ => rfl⟩

theorem map {key : Nat} {f : Cursor → α × Cursor} (h : Within key f) (g : α → β) :
    Within key fun c => (g (f c).1, (f c).2) :=
  ⟨h.shorter, h.outside, h.inside, fun c d hc => congrArg g (h.answer c d hc)⟩

theorem mono {j k : Nat} {f : Cursor → α × Cursor} (hjk : j ≤ k) (h : Within k f) :
    Within j f := by
  have hu : ∀ l, under k l = true → under j l = true := fun _ => under_mono hjk
  have hin {c d : Cursor} (hc : c.inside j = d.inside j) : c.inside k = d.inside k := by
    rw [Cursor.inside, ← takeWhile_takeWhile_of_imp hu, ← Cursor.inside, hc, Cursor.inside,
      takeWhile_takeWhile_of_imp hu, Cursor.inside]
  refine ⟨h.shorter, ?_, ?_, fun c d hc => h.answer c d (hin hc)⟩
  · intro c
    rw [Cursor.outside, ← dropWhile_dropWhile_of_imp hu, ← Cursor.outside, h.outside, Cursor.outside,
      dropWhile_dropWhile_of_imp hu, Cursor.outside]
  · intro c d hc
    -- What is left under `j` is what is left under `k` and the rest, which stays as it was.
    have hsplit (e : Cursor) : (f e).2.inside j =
        (f e).2.inside k ++ (e.inside j).dropWhile (under k) := by
      rw [Cursor.inside, ← takeWhile_append_of_imp hu, ← Cursor.inside, ← Cursor.outside,
        h.outside, Cursor.outside, ← dropWhile_takeWhile_of_imp hu, Cursor.inside, Cursor.inside]
    rw [hsplit, hsplit, h.inside c d (hin hc), hc]

/-- Lines that no construct goes on into make no difference, and stay. -/
theorem append {key : Nat} {f : Cursor → α × Cursor} (h : Within key f) {c d : Cursor}
    {tail : List Text} (hs : Stops key tail) (hd : d.upcoming = c.upcoming ++ tail) :
    (f d).1 = (f c).1 ∧ (f d).2.upcoming = (f c).2.upcoming ++ tail := by
  have hin := Cursor.inside_append hs hd
  refine ⟨h.answer d c hin, ?_⟩
  rw [← (f d).2.inside_append_outside key, ← (f c).2.inside_append_outside key, h.outside,
    h.outside, h.inside d c hin, Cursor.outside_append hs hd, List.append_assoc]

end Within

namespace Local

variable {key : Nat} {f : Cursor → α × Cursor}

theorem within (h : Local key f) : Within key f := by
  have hin (c : Cursor) : (f c).2.inside key = [] := by
    rw [Cursor.inside, h.rest, Cursor.outside, ← dropWhile_takeWhile_of_imp fun _ => id,
      List.dropWhile_eq_nil_iff]
    exact fun l hl => List.mem_takeWhile_imp hl
  refine ⟨fun c => ?_, fun c => ?_, fun c d _ => ?_, h.answer⟩
  · rw [h.rest]
    exact (List.dropWhile_sublist _).length_le
  · rw [Cursor.outside, h.rest, Cursor.outside, dropWhile_dropWhile_of_imp fun _ => id]
  · rw [hin, hin]

theorem congr (h : Local key f) {c d : Cursor} (hc : c.upcoming = d.upcoming) :
    (f c).1 = (f d).1 ∧ (f c).2.upcoming = (f d).2.upcoming := by
  refine ⟨h.answer c d (by rw [Cursor.inside, hc, Cursor.inside]), ?_⟩
  rw [h.rest, h.rest, Cursor.outside, hc, Cursor.outside]

end Local

/-- A reader that goes from line to line under a column. It leaves the first line that stands no
deeper; `step` says what any other line adds to the answer and to the state. -/
structure Loops (key : Nat) (last : σ → α) (step : σ → Text → Cursor → ((α → α) × σ) × Cursor)
    (f : σ → Cursor → α × Cursor) : Prop where
  stop (s : σ) (c : Cursor) (h : c.inside key = []) :
    (f s c).1 = last s ∧ (f s c).2.upcoming = c.upcoming
  next (s : σ) (c d : Cursor) (l : Text) (h : c.take? = some (l, d)) (hl : under key l = true) :
    f s c = ((step s l d).1.1 (f (step s l d).1.2 (step s l d).2).1,
      (f (step s l d).1.2 (step s l d).2).2)
  within (s : σ) (l : Text) (hl : under key l = true) : Within key (step s l)

/-- The same as an equation: `f` takes a line, and hands it back or goes on behind it. -/
def Turns (key : Nat) (last : σ → α) (step : σ → Text → Cursor → ((α → α) × σ) × Cursor)
    (f : σ → Cursor → α × Cursor) : Prop :=
  ∀ s c, f s c = match c.take? with
    | none => (last s, c)
    | some (l, d) =>
      if under key l then
        let e := step s l d
        let r := f e.1.2 e.2
        (e.1.1 r.1, r.2)
      else (last s, d.putBack l)

theorem Turns.loops {key : Nat} {last : σ → α}
    {step : σ → Text → Cursor → ((α → α) × σ) × Cursor} {f : σ → Cursor → α × Cursor}
    (h : Turns key last step f) (hw : ∀ s l, under key l = true → Within key (step s l)) :
    Loops key last step f where
  stop s c hc := by
    rw [h s c]
    cases ht : c.take? with
    | none => exact ⟨rfl, rfl⟩
    | some p =>
      obtain ⟨l, d⟩ := p
      have hl : under key l = false := under_eq_false.mpr (Cursor.first_of_inside hc ht)
      simp only [hl, Bool.false_eq_true, if_false]
      exact ⟨trivial, Cursor.putBack_take? ht⟩
  next s c d l ht hl := by
    rw [h s c, ht]
    simp only [hl, if_true]
  within := hw

theorem Loops.local {key : Nat} {last : σ → α}
    {step : σ → Text → Cursor → ((α → α) × σ) × Cursor} {f : σ → Cursor → α × Cursor}
    (h : Loops key last step f) (s : σ) : Local key (f s) := by
  have hmain : ∀ (n : Nat) (s : σ) (c : Cursor), c.upcoming.length = n →
      (f s c).2.upcoming = c.outside key ∧
        ∀ d, c.inside key = d.inside key → (f s c).1 = (f s d).1 := by
    intro n
    induction n using Nat.strongRecOn with
    | ind n ih =>
      intro s c hn
      cases hc : c.inside key with
      | nil =>
        obtain ⟨ha, hr⟩ := h.stop s c hc
        refine ⟨?_, fun d hd => ?_⟩
        · rw [hr, ← c.inside_append_outside key, hc, List.nil_append]
        · rw [ha, (h.stop s d hd.symm).1]
      | cons l ls =>
        obtain ⟨c', hc', hl, rfl⟩ := Cursor.take?_of_inside hc
        have hw := h.within s l hl
        have hlt : (step s l c').2.upcoming.length < n := by
          have h1 := hw.shorter c'
          have h2 := Cursor.length_take? hc'
          omega
        obtain ⟨hrest, hanswer⟩ := ih _ hlt (step s l c').1.2 (step s l c').2 rfl
        rw [h.next s c c' l hc' hl]
        refine ⟨?_, fun d hd => ?_⟩
        · rw [hrest, hw.outside, Cursor.outside_take? hc' hl]
        · obtain ⟨d', hd', -, hin⟩ := Cursor.take?_of_inside hd.symm
          rw [h.next s d d' l hd' hl, hw.answer c' d' hin.symm]
          have he := hanswer (step s l d').2 (hw.inside c' d' hin.symm)
          rw [hw.answer c' d' hin.symm] at he
          rw [he]
  exact ⟨fun c => (hmain _ s c rfl).1, fun c => (hmain _ s c rfl).2⟩

end Guidebook.Document
