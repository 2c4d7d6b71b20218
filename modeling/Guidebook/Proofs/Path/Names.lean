import Guidebook.Path
import Mathlib.Data.List.DropRight

namespace Guidebook

namespace Text

variable {p : Char → Bool} {c : Char}

theorem pieces_append (hc : p c = true) (a b : Text) :
    pieces p (a ++ c :: b) = pieces p a ++ pieces p b := by
  induction a with
  | nil => simp [pieces, hc]
  | cons d a ih =>
    obtain ⟨w, ws, hw⟩ := List.exists_cons_of_ne_nil (pieces_ne_nil p a)
    rw [hw] at ih
    by_cases hd : p d = true <;> simp [pieces, hd, ih, hw]

theorem pieces_eq_singleton {a : Text} (h : ∀ d ∈ a, p d = false) : pieces p a = [a] := by
  induction a with
  | nil => rfl
  | cons d a ih => simp [pieces, h d (by simp), ih fun e he => h e (by simp [he])]

theorem pieces_intercalate (hc : p c = true) {ns : List Text} (hne : ns ≠ [])
    (h : ∀ n ∈ ns, ∀ d ∈ n, p d = false) : pieces p ([c].intercalate ns) = ns := by
  induction ns with
  | nil => exact absurd rfl hne
  | cons n ns ih =>
    have hn : pieces p n = [n] := pieces_eq_singleton (h n (by simp))
    cases ns with
    | nil => simpa [List.intercalate] using hn
    | cons m ms =>
      have hms := ih (by simp) fun k hk => h k (List.mem_cons_of_mem _ hk)
      rw [List.intercalate_cons_cons, List.append_assoc, List.singleton_append, pieces_append hc,
        hn, hms, List.singleton_append]

theorem of_mem_pieces {t w : Text} (hw : w ∈ pieces p t) : ∀ d ∈ w, d ∈ t ∧ p d = false := by
  induction t generalizing w with
  | nil => simp_all [pieces]
  | cons e t ih =>
    obtain ⟨v, vs, hv⟩ := List.exists_cons_of_ne_nil (pieces_ne_nil p t)
    rw [hv] at ih
    by_cases he : p e = true
    · simp only [pieces, he, if_true, hv, List.mem_cons] at hw
      rcases hw with rfl | hw
      · simp
      · exact fun d hd => (ih (List.mem_cons.mpr hw) d hd).imp_left (List.mem_cons_of_mem e)
    · simp only [pieces, he, hv] at hw
      rcases List.mem_cons.mp hw with rfl | hw
      · rintro d (_ | ⟨_, hd⟩)
        · exact ⟨List.mem_cons_self, by simpa using he⟩
        · exact (ih List.mem_cons_self d hd).imp_left (List.mem_cons_of_mem e)
      · exact fun d hd =>
          (ih (List.mem_cons_of_mem v hw) d hd).imp_left (List.mem_cons_of_mem e)

end Text

namespace Path

open Text

variable {p n : Text}

/-- What stands between two slashes. -/
def Single (n : Text) : Prop := ∀ c ∈ n, (c == '/') = false

instance : DecidablePred Single := List.decidableBAll fun c => (c == '/') = false

theorem single_of_mem_names (h : n ∈ names p) : Single n :=
  fun c hc => (of_mem_pieces (List.mem_of_mem_filter h) c hc).2

theorem mem_of_mem_names {c : Char} (h : n ∈ names p) (hc : c ∈ n) : c ∈ p :=
  (of_mem_pieces (List.mem_of_mem_filter h) c hc).1

theorem names_single (h : Single n) (hn : n ≠ []) : names n = [n] := by
  simp [names, pieces_eq_singleton h, hn]

theorem isAbsolute_single (h : Single n) : isAbsolute n = false := by
  cases n with
  | nil => rfl
  | cons c cs => simpa [isAbsolute] using h c List.mem_cons_self

/-- A name that is joined to a path comes after the names of the path. -/
theorem names_join (q : Text) (h : Single n) (hn : n ≠ []) : names (join q n) = names q ++ [n] := by
  have hs : names ('/' :: n) = [n] := by
    simp [names, pieces, pieces_eq_singleton h, hn]
  rw [join, isAbsolute_single h, if_neg Bool.false_ne_true]
  split
  · next hq =>
    rw [List.isEmpty_iff.mp hq, names_single h hn]
    rfl
  · split
    · next hl =>
      obtain ⟨r, rfl⟩ := List.getLast?_eq_some_iff.mp hl
      rw [List.append_assoc, List.singleton_append, names, names,
        pieces_append (p := (· == '/')) (c := '/') rfl, pieces_append (p := (· == '/')) (c := '/') rfl,
        pieces_eq_singleton h]
      simp [pieces, hn]
    · rw [names, names, pieces_append (p := (· == '/')) (c := '/') rfl, pieces_eq_singleton h]
      simp [hn]

theorem isAbsolute_join (q : Text) (h : Single n) : isAbsolute (join q n) = isAbsolute q := by
  rw [join, isAbsolute_single h, if_neg Bool.false_ne_true]
  cases q with
  | nil => exact isAbsolute_single h
  | cons c q => split <;> [contradiction; (split <;> rfl)]

theorem getLast?_join (q : Text) (h : Single n) (hn : n ≠ []) :
    (join q n).getLast? ≠ some '/' := by
  have hl : n.getLast? ≠ some '/' := fun he => by
    simpa using h _ (List.mem_of_getLast? he)
  rw [join, isAbsolute_single h, if_neg Bool.false_ne_true]
  split
  · exact hl
  · split
    · rwa [List.getLast?_append_of_ne_nil _ hn]
    · rw [List.getLast?_append_of_ne_nil _ (List.cons_ne_nil _ _), List.getLast?_cons_of_ne_nil hn]
      exact hl

theorem mem_join {q : Text} {c : Char} (h : c ∈ join q n) : c ∈ q ∨ c = '/' ∨ c ∈ n := by
  rw [join] at h
  split at h
  · exact .inr (.inr h)
  · split at h
    · exact .inr (.inr h)
    · split at h <;> simp at h <;> tauto

theorem fileName?_eq {before : List Text} (h : names p = before ++ [n]) (h₁ : n ≠ ['.'])
    (h₂ : n ≠ ['.', '.']) : fileName? p = some n := by
  simp [fileName?, h, List.filter_append, h₁, h₂]

/-- The part names nothing. -/
def idle (m : Text) : Bool := m.isEmpty || m = ['.']

theorem settle_cons (m : Text) (ms : List Text) : settle (m :: ms) = m :: ms.rdropWhile idle := rfl

theorem front_concat (ms : List Text) (m : Text) : front (ms ++ [m]) = ms := by
  simp [front]

section Assemble

variable {m : Text} {ms : List Text}

theorem names_assemble (h : ∀ k ∈ m :: ms, Single k) :
    names (assemble (m :: ms)) = (m :: ms).filter (!·.isEmpty) := by
  unfold assemble
  split
  · next he =>
    rw [he]
    rfl
  · rw [names, pieces_intercalate rfl (List.cons_ne_nil _ _) h]

theorem isAbsolute_assemble (h : ∀ k ∈ m :: ms, Single k) :
    isAbsolute (assemble (m :: ms)) = m.isEmpty := by
  unfold assemble
  split
  · next he =>
    cases he
    rfl
  · next hne =>
    cases m with
    | nil =>
      cases ms with
      | nil => exact absurd rfl hne
      | cons k ks => rfl
    | cons c cs =>
      have hc : (c == '/') = false := h _ List.mem_cons_self c List.mem_cons_self
      cases ms <;> simpa [isAbsolute, List.intercalate] using hc

theorem mem_assemble {ns : List Text} {c : Char} (h : c ∈ assemble ns) :
    c = '/' ∨ ∃ k ∈ ns, c ∈ k := by
  unfold assemble at h
  split at h
  · exact .inl (List.mem_singleton.mp h)
  · clear * - h
    induction ns with
    | nil => cases h
    | cons k ks ih =>
      cases ks with
      | nil => exact .inr ⟨k, List.mem_cons_self, by simpa using h⟩
      | cons l ls =>
        rw [List.intercalate_cons_cons, List.mem_append, List.mem_append, List.mem_singleton] at h
        rcases h with (h | h) | h
        · exact .inr ⟨k, List.mem_cons_self, h⟩
        · exact .inl h
        · exact (ih h).imp_right fun ⟨m, hm, hc⟩ => ⟨m, List.mem_cons_of_mem k hm, hc⟩

end Assemble

theorem isAbsolute_eq {m : Text} {ms : List Text} (h : pieces (· == '/') p = m :: ms) (hp : p ≠ []) :
    isAbsolute p = m.isEmpty := by
  cases p with
  | nil => exact absurd rfl hp
  | cons c cs =>
    obtain ⟨w, ws, hw⟩ := List.exists_cons_of_ne_nil (pieces_ne_nil (· == '/') cs)
    by_cases hc : (c == '/') = true
    · rw [pieces, if_pos hc] at h
      cases h
      simpa [isAbsolute] using hc
    · rw [pieces, if_neg hc, hw] at h
      cases h
      simpa [isAbsolute] using hc

theorem eq_dot {ns : List Text} {k : Text} (h : k ∈ (ns.rtakeWhile idle).filter (!·.isEmpty)) :
    k = ['.'] := by
  obtain ⟨hk, he⟩ := List.mem_filter.mp h
  have hi : idle k = true := List.mem_rtakeWhile_imp hk
  simp_all [idle]

/-- Of the parts that name something, only a `.` is left out at the end. -/
theorem exists_filter_settle (ns : List Text) :
    ∃ k, ns.filter (!·.isEmpty) =
      (settle ns).filter (!·.isEmpty) ++ List.replicate k ['.'] := by
  cases ns with
  | nil => exact ⟨0, rfl⟩
  | cons m ms =>
    have hdots : (ms.rtakeWhile idle).filter (!·.isEmpty) = List.replicate _ ['.'] :=
      List.eq_replicate_iff.mpr ⟨rfl, fun _ hk => eq_dot hk⟩
    refine ⟨((ms.rtakeWhile idle).filter (!·.isEmpty)).length, ?_⟩
    rw [← hdots, ← List.filter_append, settle_cons, List.cons_append,
      List.rdropWhile_append_rtakeWhile]

theorem parent?_eq_nil {m : Text} (h : settle (pieces (· == '/') p) = [m]) (hm : m ≠ [])
    (hp : p ≠ []) : parent? p = some [] := by
  simp [parent?, h, hm, hp]

theorem parent?_eq_assemble {m l : Text} {ms : List Text}
    (h : settle (pieces (· == '/') p) = m :: ms ++ [l]) (hp : p ≠ []) :
    parent? p = some (assemble (settle (m :: ms))) := by
  rw [parent?, List.isEmpty_eq_false_iff.mpr hp, if_neg Bool.false_ne_true, h]
  cases ms with
  | nil => rfl
  | cons k ks =>
    exact congrArg (fun ns => some (assemble (settle ns))) (front_concat (m :: k :: ks) l)

/-- A path is one part, or has a last part that names something. -/
theorem settle_cases (hp : p ≠ []) :
    ∃ m, isAbsolute p = m.isEmpty ∧ (settle (pieces (· == '/') p) = [m] ∨
      ∃ core l, l ≠ [] ∧ settle (pieces (· == '/') p) = m :: core ++ [l] ∧
        m :: core.rdropWhile idle ⊆ pieces (· == '/') p) := by
  obtain ⟨m, ms, hm⟩ := List.exists_cons_of_ne_nil (pieces_ne_nil (· == '/') p)
  refine ⟨m, isAbsolute_eq hm hp, ?_⟩
  rw [hm, settle_cons]
  rcases List.eq_nil_or_concat' (ms.rdropWhile idle) with hc | ⟨core, l, hc⟩
  · exact .inl (by rw [hc])
  · refine .inr ⟨core, l, ?_, by rw [hc, List.cons_append], ?_⟩
    · have hlast := List.rdropWhile_last_not idle ms (by simp [hc])
      simp only [hc, List.getLast_concat, idle, Bool.or_eq_true, not_or] at hlast
      simpa using hlast.1
    · have hcore := (core.rdropWhile_prefix idle).sublist.trans
        ((List.sublist_append_left core [l]).trans (hc ▸ (ms.rdropWhile_prefix idle).sublist))
      exact (hcore.cons_cons m).subset

/-- The parent of a path has the names before the last one, though it may leave out parts that name
nothing, and it starts where the path starts. -/
theorem exists_parent {before : List Text} (h : names p = before ++ [n]) (hn : n ≠ ['.']) :
    ∃ q k, parent? p = some q ∧ before = names q ++ List.replicate k ['.'] ∧
      isAbsolute q = isAbsolute p ∧ ∀ c ∈ q, c = '/' ∨ c ∈ p := by
  have hp : p ≠ [] := by
    rintro rfl
    simp [names, pieces] at h
  -- The last name is a part of its own, so nothing but empty parts can follow it.
  have hnames : (settle (pieces (· == '/') p)).filter (!·.isEmpty) = before ++ [n] := by
    obtain ⟨k, hk⟩ := exists_filter_settle (pieces (· == '/') p)
    rw [names, hk] at h
    cases k with
    | zero => simpa using h
    | succ k =>
      rw [List.replicate_succ', ← List.append_assoc] at h
      exact absurd (List.append_inj_right' h rfl) (by simpa using Ne.symm hn)
  obtain ⟨m, habs, hs | ⟨core, l, hl, hs, hsub⟩⟩ := settle_cases hp
  · rw [hs] at hnames
    have hm₀ : m ≠ [] := by
      rintro rfl
      simp at hnames
    have hb : before = [] := by
      have hlength := congrArg List.length hnames
      simpa [hm₀] using hlength
    refine ⟨[], 0, parent?_eq_nil hs hm₀ hp, hb, ?_, by simp⟩
    rw [habs, List.isEmpty_eq_false_iff.mpr hm₀]
    rfl
  · have hsingle : ∀ j ∈ m :: core.rdropWhile idle, Single j :=
      fun j hj c hc => (of_mem_pieces (hsub hj) c hc).2
    have hkeep : [l].filter (!·.isEmpty) = [l] := by simp [hl]
    rw [hs, List.filter_append, hkeep] at hnames
    obtain ⟨k, hk⟩ := exists_filter_settle (m :: core)
    refine ⟨_, k, parent?_eq_assemble hs hp, ?_, ?_, fun c hc => ?_⟩
    · rw [settle_cons] at hk ⊢
      rw [names_assemble hsingle, ← hk]
      exact (List.append_inj_left' hnames rfl).symm
    · rw [settle_cons, habs]
      exact isAbsolute_assemble hsingle
    · refine (mem_assemble hc).imp_right ?_
      rintro ⟨j, hj, hjc⟩
      exact (of_mem_pieces (hsub hj) c hjc).1

/-- A path with another last name leads through the same names, though it may leave out parts that
name nothing. -/
theorem exists_withFileName {before : List Text} {m : Text} (h : names p = before ++ [n])
    (h₁ : n ≠ ['.']) (h₂ : n ≠ ['.', '.']) (hm : Single m) (hm₀ : m ≠ []) :
    ∃ ns k, names (withFileName p m) = ns ++ [m] ∧ before = ns ++ List.replicate k ['.'] ∧
      isAbsolute (withFileName p m) = isAbsolute p ∧
      (withFileName p m).getLast? ≠ some '/' ∧
      ∀ c ∈ withFileName p m, c = '/' ∨ c ∈ p ∨ c ∈ m := by
  obtain ⟨q, k, hq, hb, ha, hc⟩ := exists_parent h h₁
  have hw : withFileName p m = join q m := by
    simp only [withFileName, fileName?_eq h h₁ h₂, hq, Option.getD_some]
  rw [hw]
  refine ⟨names q, k, names_join q hm hm₀, hb, (isAbsolute_join q hm).trans ha,
    getLast?_join q hm hm₀, fun c hj => ?_⟩
  rcases mem_join hj with h | h | h
  · exact (hc c h).imp_right .inl
  · exact .inl h
  · exact .inr (.inr h)

section Above

variable {q : Text}

/-- The names of a parent are the first of the names of a path, but not all of them. -/
structure Above (q p : Text) : Prop where
  absolute : isAbsolute q = isAbsolute p
  names : ∃ back, back ≠ [] ∧ names p = names q ++ back

theorem Above.trans {r : Text} (hqp : Above q p) (hrq : Above r q) : Above r p := by
  obtain ⟨front, hfront, hp⟩ := hqp.names
  obtain ⟨back, -, hq⟩ := hrq.names
  refine ⟨hrq.absolute.trans hqp.absolute, back ++ front, by simp [hfront], ?_⟩
  rw [hp, hq, List.append_assoc]

theorem above_parent (h : parent? p = some q) : Above q p := by
  have hp : p ≠ [] := by
    rintro rfl
    cases h
  obtain ⟨k, hk⟩ := exists_filter_settle (pieces (· == '/') p)
  obtain ⟨m, habs, hs | ⟨core, l, hl, hs, hsub⟩⟩ := settle_cases hp
  · by_cases hm₀ : m = []
    · rw [parent?, List.isEmpty_eq_false_iff.mpr hp, hs, hm₀] at h
      cases h
    · rw [parent?_eq_nil hs hm₀ hp] at h
      cases h
      refine ⟨?_, names p, ?_, rfl⟩
      · rw [habs, List.isEmpty_eq_false_iff.mpr hm₀]
        rfl
      · rw [names, hk, hs]
        simp [hm₀]
  · rw [parent?_eq_assemble hs hp, settle_cons] at h
    cases h
    have hsingle : ∀ j ∈ m :: core.rdropWhile idle, Single j :=
      fun j hj c hc => (of_mem_pieces (hsub hj) c hc).2
    obtain ⟨j, hj⟩ := exists_filter_settle (m :: core)
    rw [settle_cons] at hj
    refine ⟨by rw [isAbsolute_assemble hsingle, habs], ?_⟩
    refine ⟨List.replicate j ['.'] ++ l :: List.replicate k ['.'], by simp, ?_⟩
    rw [names_assemble hsingle, names, hk, hs, List.filter_append, hj]
    simp [hl]

/-- A path and its parents: the path itself, and what is above it. -/
theorem mem_upwards (h : q ∈ upwards p) : q = p ∨ Above q p := by
  rw [upwards] at h
  generalize p.length = n at h
  induction n generalizing p with
  | zero => exact .inl (List.mem_singleton.mp h)
  | succ n ih =>
    rw [upwards.go] at h
    split at h
    · exact .inl (List.mem_singleton.mp h)
    next r hr =>
    rcases List.mem_cons.mp h with rfl | h
    · exact .inl rfl
    · rcases ih h with rfl | hq
      · exact .inr (above_parent hr)
      · exact .inr ((above_parent hr).trans hq)

end Above

end Path

end Guidebook
