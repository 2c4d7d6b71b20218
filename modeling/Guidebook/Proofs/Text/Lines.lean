import Guidebook.Text.Basic

namespace Guidebook.Text

/-- What follows can only start a new line. -/
def Ended (t : Text) : Prop := t = [] ∨ t.getLast? = some '\n'

/-- The parts of a text between its line feeds. -/
def rows (t : Text) : List Text := pieces (· == '\n') t

/-- Each line with a line feed behind it. -/
def unlines (ls : List Text) : Text := ls.flatMap (· ++ ['\n'])

/-- A line that a line feed ends, and leaves as it is. -/
def Clean (l : Text) : Prop := '\n' ∉ l ∧ l.getLast? ≠ some '\r'

theorem lines_return {cs : Text} (h : cs.head? = some '\n') : lines ('\r' :: cs) = lines cs := by
  cases cs with
  | nil => simp at h
  | cons d ds =>
    obtain rfl : d = '\n' := by simpa using h
    rw [lines, lines]

theorem lines_cons {c : Char} {cs : Text} (hc : c ≠ '\n') (h : c = '\r' → cs.head? ≠ some '\n') :
    lines (c :: cs) = (c :: (lines cs).headD []) :: (lines cs).tail := by
  rw [lines]
  · cases lines cs <;> rfl
  · exact hc
  · rintro ds rfl rfl
    exact h rfl rfl

theorem lines_ne_nil {t : Text} (h : t ≠ []) : lines t ≠ [] := by
  cases t with
  | nil => exact absurd rfl h
  | cons c cs =>
    by_cases hc : c = '\n'
    · subst c
      simp [lines]
    · by_cases hr : c = '\r' ∧ cs.head? = some '\n'
      · obtain ⟨rfl, hn⟩ := hr
        obtain ⟨ds, rfl⟩ := List.head?_eq_some_iff.mp hn
        simp [lines]
      · rw [lines_cons hc fun h he => hr ⟨h, he⟩]
        simp

theorem lines_append_newline (a b : Text) :
    lines (a ++ '\n' :: b) = lines (a ++ ['\n']) ++ lines b := by
  induction a with
  | nil => simp [lines]
  | cons c cs ih =>
    by_cases hc : c = '\n'
    · subst c
      simp [lines, ih]
    · have hhead : (cs ++ '\n' :: b).head? = (cs ++ ['\n']).head? := by cases cs <;> rfl
      by_cases hr : c = '\r' ∧ (cs ++ ['\n']).head? = some '\n'
      · obtain ⟨rfl, hn⟩ := hr
        rw [List.cons_append, List.cons_append, lines_return (hhead.trans hn), lines_return hn, ih]
      · have hn : c = '\r' → (cs ++ ['\n']).head? ≠ some '\n' := fun h he => hr ⟨h, he⟩
        rw [List.cons_append, List.cons_append, lines_cons hc (hhead ▸ hn), lines_cons hc hn, ih]
        have hne : lines (cs ++ ['\n']) ≠ [] := lines_ne_nil (by simp)
        cases hl : lines (cs ++ ['\n']) with
        | nil => exact absurd hl hne
        | cons l ls => simp

theorem lines_append {a : Text} (h : Ended a) (b : Text) : lines (a ++ b) = lines a ++ lines b := by
  obtain rfl | h := h
  · rfl
  · obtain ⟨c, rfl⟩ := List.getLast?_eq_some_iff.mp h
    rw [List.append_assoc, List.singleton_append, lines_append_newline]

theorem newline_notMem_lines (t : Text) : ∀ l ∈ lines t, '\n' ∉ l := by
  induction t with
  | nil => simp [lines]
  | cons c cs ih =>
    by_cases hc : c = '\n'
    · subst c
      simpa [lines] using ih
    · by_cases hr : c = '\r' ∧ cs.head? = some '\n'
      · obtain ⟨rfl, hn⟩ := hr
        rwa [lines_return hn]
      · rw [lines_cons hc fun h he => hr ⟨h, he⟩]
        cases hl : lines cs with
        | nil => simp [Ne.symm hc]
        | cons l ls =>
          rw [hl] at ih
          simpa [Ne.symm hc] using ih

/-- A line that is the only one of a text. -/
theorem lines_single {t : Text} (hne : t ≠ []) (h : '\n' ∉ t) : lines t = [t] := by
  induction t with
  | nil => exact absurd rfl hne
  | cons c cs ih =>
    obtain ⟨hc, hcs⟩ : '\n' ≠ c ∧ '\n' ∉ cs := by simpa using h
    have hr : c = '\r' → cs.head? ≠ some '\n' := fun _ he => hcs (List.mem_of_mem_head? he)
    rw [lines_cons (Ne.symm hc) hr]
    by_cases hn : cs = []
    · subst cs
      rfl
    · simp [ih hn hcs]

theorem lines_line {l : Text} (h : Clean l) (b : Text) : lines (l ++ '\n' :: b) = l :: lines b := by
  obtain ⟨h, hr⟩ := h
  induction l with
  | nil => rw [List.nil_append, lines]
  | cons c cs ih =>
    obtain ⟨hc, hcs⟩ : '\n' ≠ c ∧ '\n' ∉ cs := by simpa using h
    have hhead : c = '\r' → (cs ++ '\n' :: b).head? ≠ some '\n' := by
      rintro rfl he
      cases cs with
      | nil => exact hr rfl
      | cons d ds => exact hcs (by simp_all)
    have hlast : cs.getLast? ≠ some '\r' := by
      intro he
      apply hr
      rw [List.getLast?_cons, he, Option.getD_some]
    rw [List.cons_append, lines_cons (Ne.symm hc) hhead, ih hcs hlast]
    rfl

theorem lines_return_newline {l : Text} (h : '\n' ∉ l) : lines (l ++ ['\r', '\n']) = [l] := by
  induction l with
  | nil => rfl
  | cons c cs ih =>
    obtain ⟨hc, hcs⟩ : '\n' ≠ c ∧ '\n' ∉ cs := by simpa using h
    have hhead : (cs ++ ['\r', '\n']).head? ≠ some '\n' := by
      cases cs with
      | nil => decide
      | cons d ds => exact fun he => hcs (List.mem_of_mem_head? he)
    rw [List.cons_append, lines_cons (Ne.symm hc) fun _ => hhead, ih hcs]
    rfl

theorem lines_unlines {ls : List Text} (h : ∀ l ∈ ls, Clean l) : lines (unlines ls) = ls := by
  induction ls with
  | nil => rfl
  | cons l ls ih =>
    have hls := ih fun m hm => h m (by simp [hm])
    rw [unlines, List.flatMap_cons, List.append_assoc, List.singleton_append,
      lines_line (h l (by simp))]
    exact congrArg (l :: ·) hls

theorem clean_append {a l : Text} (ha : Clean a) (hl : Clean l) : Clean (a ++ l) := by
  refine ⟨by simp [ha.1, hl.1], ?_⟩
  rw [List.getLast?_append]
  cases h : l.getLast? with
  | none => simpa using ha.2
  | some c =>
    have hc := hl.2
    rw [h] at hc
    simpa using hc

theorem clean_replicate (n : Nat) : Clean (List.replicate n ' ') := by
  refine ⟨by simp, ?_⟩
  rw [List.getLast?_replicate]
  split <;> simp

theorem rows_cons_newline (cs : Text) : rows ('\n' :: cs) = [] :: rows cs := by
  simp [rows, pieces]

theorem rows_cons {c : Char} (h : c ≠ '\n') (cs : Text) :
    rows (c :: cs) = (c :: (rows cs).headD []) :: (rows cs).tail := by
  have hp : (c == '\n') = false := by simpa using h
  simp only [rows, pieces, hp, Bool.false_eq_true, ↓reduceIte]
  cases pieces (· == '\n') cs <;> rfl

theorem rows_ne_nil (t : Text) : rows t ≠ [] := pieces_ne_nil _ t

theorem newline_notMem_rows (t : Text) : ∀ l ∈ rows t, '\n' ∉ l := by
  induction t with
  | nil => simp [rows, pieces]
  | cons c cs ih =>
    by_cases hc : c = '\n'
    · subst c
      simpa [rows_cons_newline] using ih
    · rw [rows_cons hc]
      cases hl : rows cs with
      | nil => exact absurd hl (rows_ne_nil cs)
      | cons l ls =>
        rw [hl] at ih
        simpa [Ne.symm hc] using ih

theorem rows_single {t : Text} (h : '\n' ∉ t) : rows t = [t] := by
  induction t with
  | nil => rfl
  | cons c cs ih =>
    obtain ⟨hc, hcs⟩ : '\n' ≠ c ∧ '\n' ∉ cs := by simpa using h
    rw [rows_cons (Ne.symm hc), ih hcs]
    rfl

theorem joinLines_cons (l : Text) {ls : List Text} (h : ls ≠ []) :
    joinLines (l :: ls) = l ++ '\n' :: joinLines ls := by
  cases ls with
  | nil => exact absurd rfl h
  | cons m ms => simp [joinLines, List.intercalate]

theorem joinLines_rows (t : Text) : joinLines (rows t) = t := by
  induction t with
  | nil => rfl
  | cons c cs ih =>
    by_cases hc : c = '\n'
    · subst c
      rw [rows_cons_newline, joinLines_cons _ (rows_ne_nil cs), ih, List.nil_append]
    · rw [rows_cons hc]
      cases hl : rows cs with
      | nil => exact absurd hl (rows_ne_nil cs)
      | cons l ls =>
        rw [hl] at ih
        cases ls with
        | nil => simpa [joinLines, List.intercalate] using ih
        | cons m ms =>
          rw [joinLines_cons _ (by simp)] at ih
          rw [List.tail_cons, List.headD_cons, joinLines_cons _ (by simp), List.cons_append, ih]

end Guidebook.Text
