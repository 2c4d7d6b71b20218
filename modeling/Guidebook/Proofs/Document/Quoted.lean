import Guidebook.Document.Line
import Guidebook.Proofs.Text.Utf8
import Mathlib.Algebra.Ring.Parity
import Mathlib.Data.List.DropRight

namespace Guidebook

namespace Utf8

/-- What is before and after a place in the bytes of a text, unless a character lies across it. -/
def cutAt? : Nat → Text → Option (Text × Text)
  | 0, t => some ([], t)
  | _ + 1, [] => none
  | n + 1, c :: cs =>
    if (encodeChar c).length ≤ n + 1 then
      (cutAt? (n + 1 - (encodeChar c).length) cs).map fun (a, b) => (c :: a, b)
    else none

/-- The text between two places in the bytes of a text, unless a character lies across one. -/
def slice? (t : Text) (i j : Nat) : Option Text := do
  let (front, _) ← cutAt? j t
  let (_, part) ← cutAt? i front
  return part

theorem cutAt?_append (a b : Text) : cutAt? (size a) (a ++ b) = some (a, b) := by
  induction a with
  | nil => rw [show size [] = 0 from rfl, cutAt?, List.nil_append]
  | cons c a ih =>
    obtain ⟨n, hn⟩ := Nat.exists_eq_add_one.mpr (length_encodeChar_pos c)
    have hsize : size (c :: a) = n + size a + 1 := by
      rw [size_cons, hn]
      omega
    have hrest : n + size a + 1 - (encodeChar c).length = size a := by omega
    rw [hsize, List.cons_append, cutAt?, if_pos (by omega), hrest, ih]
    rfl

theorem slice?_append (a b c : Text) : slice? (a ++ b ++ c) (size a) (size (a ++ b)) = some b := by
  rw [slice?, cutAt?_append]
  simp only [Option.bind_eq_bind, Option.bind_some, cutAt?_append]
  rfl

end Utf8

namespace Document

variable {q : Char} {inner t v : Text}

/-- The number of backslashes that a text ends in. -/
def slashes (t : Text) : Nat := (t.rtakeWhile (· = '\\')).length

/-- Every `q` in a text stands directly behind an odd number of backslashes. -/
def Guarded (q : Char) (t : Text) : Prop := ∀ a b, t = a ++ q :: b → Odd (slashes a)

theorem slashes_concat (t : Text) (c : Char) :
    slashes (t ++ [c]) = if c = '\\' then slashes t + 1 else 0 := by
  by_cases hc : c = '\\'
  · rw [slashes, List.rtakeWhile_concat_pos _ _ _ (by simpa using hc), if_pos hc,
      List.length_append]
    rfl
  · rw [slashes, List.rtakeWhile_concat_neg _ _ _ (by simpa using hc), if_neg hc]
    rfl

theorem slashes_eq_zero (h : '\\' ∉ t) : slashes t = 0 := by
  rw [slashes, List.length_eq_zero_iff, List.eq_nil_iff_forall_not_mem]
  intro c hc
  have hslash : c = '\\' := by simpa using List.mem_rtakeWhile_imp hc
  exact h (hslash ▸ (List.rtakeWhile_suffix _ _).subset hc)

theorem exists_cons_eq_append {P : Text → Prop} {c : Char} :
    (∃ a b, c :: t = a ++ q :: b ∧ P a) ↔
      (c = q ∧ P []) ∨ ∃ a b, t = a ++ q :: b ∧ P (c :: a) := by
  constructor
  · rintro ⟨_ | ⟨d, a⟩, b, h, hp⟩
    · obtain ⟨rfl, rfl⟩ := List.cons.inj h
      exact .inl ⟨rfl, hp⟩
    · obtain ⟨rfl, rfl⟩ := List.cons.inj h
      exact .inr ⟨a, b, rfl, hp⟩
  · rintro (⟨rfl, hp⟩ | ⟨a, b, rfl, hp⟩)
    · exact ⟨[], t, rfl, hp⟩
    · exact ⟨c :: a, b, rfl, hp⟩

/-- What the search for a bare `q` keeps in mind is whether what it has read ends in an odd number
of backslashes. -/
theorem hasBare_iff (hq : q ≠ '\\') (read t : Text) :
    hasBare q (decide (Odd (slashes read))) t = true ↔
      ∃ a b, t = a ++ q :: b ∧ ¬Odd (slashes (read ++ a)) := by
  induction t generalizing read with
  | nil => simp [hasBare]
  | cons c t ih =>
    have ih := ih (read ++ [c])
    simp only [List.append_assoc, List.singleton_append] at ih
    rw [exists_cons_eq_append, ← ih, List.append_nil, slashes_concat]
    by_cases ho : Odd (slashes read)
    · -- One backslash more than an odd number of them makes an even one.
      have hnext : ¬Odd (if c = '\\' then slashes read + 1 else 0) := by
        split
        · rwa [Nat.odd_add_one, not_not]
        · simp
      simp [ho, hnext, hasBare]
    · by_cases hc : c = '\\'
      · have hnext : Odd (slashes read + 1) := by rwa [Nat.odd_add_one]
        simp [ho, hc, hnext, hasBare, hq.symm]
      · simp [ho, hc, hasBare]

theorem not_hasBare_iff (hq : q ≠ '\\') (t : Text) : hasBare q false t = false ↔ Guarded q t := by
  have h := hasBare_iff hq [] t
  have hfalse : decide (Odd (slashes [])) = false := rfl
  rw [hfalse] at h
  rw [← Bool.not_eq_true, h]
  simp [Guarded]

theorem slash_of_isQuote (h : isQuote q = true) : q ≠ '\\' := by
  rintro rfl
  cases h

theorem unquote_quoted (hq : isQuote q = true) (inner : Text) :
    unquote (q :: inner ++ [q]) = if hasBare q false inner then q :: inner ++ [q] else inner := by
  rw [List.cons_append, unquote, List.dropLast_concat, List.getLast?_concat, hq]
  cases hasBare q false inner <;> simp

/-- Only what stands between two quotes is changed. -/
theorem quoted_of_unquote_ne (h : unquote v ≠ v) :
    ∃ q inner, isQuote q = true ∧ v = q :: inner ++ [q] := by
  cases v with
  | nil => exact absurd rfl h
  | cons q r =>
    rw [unquote] at h
    split at h
    · next hc =>
      simp only [Bool.and_eq_true, beq_iff_eq] at hc
      obtain ⟨inner, rfl⟩ := List.getLast?_eq_some_iff.mp hc.1.2
      exact ⟨q, inner, hc.1.1, rfl⟩
    · exact absurd rfl h

theorem ne_quoted (q : Char) (inner : Text) : inner ≠ q :: inner ++ [q] := by
  intro h
  have hlength := congrArg List.length h
  simp only [List.length_append, List.length_cons, List.length_nil] at hlength
  omega

theorem unquote_eq_inner (hq : isQuote q = true) :
    unquote (q :: inner ++ [q]) = inner ↔ Guarded q inner := by
  rw [unquote_quoted hq, ← not_hasBare_iff (slash_of_isQuote hq)]
  cases hasBare q false inner with
  | true => simpa using (ne_quoted q inner).symm
  | false => simp

theorem unquote_ne_iff :
    unquote v ≠ v ↔ ∃ q inner, isQuote q = true ∧ v = q :: inner ++ [q] ∧ Guarded q inner := by
  constructor
  · intro h
    obtain ⟨q, inner, hq, rfl⟩ := quoted_of_unquote_ne h
    refine ⟨q, inner, hq, rfl, (not_hasBare_iff (slash_of_isQuote hq) inner).mp ?_⟩
    by_contra hb
    rw [unquote_quoted hq, if_pos (by simpa using hb)] at h
    exact h rfl
  · rintro ⟨q, inner, hq, rfl, hg⟩
    rw [(unquote_eq_inner hq).mpr hg]
    exact ne_quoted q inner

theorem guarded_iff_notMem (h : '\\' ∉ t) : Guarded q t ↔ q ∉ t := by
  constructor
  · intro hg hm
    obtain ⟨a, b, rfl⟩ := List.append_of_mem hm
    have ha : slashes a = 0 := slashes_eq_zero fun hs => h (List.mem_append_left _ hs)
    simpa [ha] using hg a b rfl
  · rintro hm a b rfl
    exact absurd List.mem_append_cons_self hm

section Slices

/-- `unquote` with quote after quote tried, with places counted in bytes, and with nothing for a
slice that cuts a character. -/
def unquoteBy? (v : Text) : List Char → Option Text
  | [] => some v
  | q :: qs =>
    if Utf8.size v < 2 ∨ v.head? ≠ some q ∨ v.getLast? ≠ some q then unquoteBy? v qs
    else do
      let inner ← Utf8.slice? v 1 (Utf8.size v - 1)
      return if hasBare q false inner then v else inner

theorem size_quote (h : isQuote q = true) : Utf8.size [q] = 1 := by
  simp only [isQuote, Bool.or_eq_true, decide_eq_true_eq] at h
  rcases h with rfl | rfl <;> rfl

/-- The quotes take one byte each, so what stands between them starts and ends with a character. -/
theorem slice?_quoted (hq : isQuote q = true) (inner : Text) :
    2 ≤ Utf8.size (q :: inner ++ [q]) ∧
      Utf8.slice? (q :: inner ++ [q]) 1 (Utf8.size (q :: inner ++ [q]) - 1) = some inner := by
  have hsize : Utf8.size (q :: inner ++ [q]) = Utf8.size ([q] ++ inner) + 1 := by
    rw [Utf8.size_append, size_quote hq]
    rfl
  have hone : 1 ≤ Utf8.size ([q] ++ inner) := by
    rw [Utf8.size_append, size_quote hq]
    exact Nat.le_add_right ..
  have hslice := Utf8.slice?_append [q] inner [q]
  rw [size_quote hq] at hslice
  refine ⟨by omega, ?_⟩
  rw [hsize, Nat.add_sub_cancel]
  exact hslice

theorem unquoteBy?_quoted (hq : isQuote q = true) (inner : Text) (qs : List Char) :
    unquoteBy? (q :: inner ++ [q]) (q :: qs) = some (unquote (q :: inner ++ [q])) := by
  obtain ⟨hsize, hslice⟩ := slice?_quoted hq inner
  have hends : ¬(Utf8.size (q :: inner ++ [q]) < 2 ∨ (q :: inner ++ [q]).head? ≠ some q ∨
      (q :: inner ++ [q]).getLast? ≠ some q) := by
    rintro (h | h | h)
    · exact absurd hsize (Nat.not_le.mpr h)
    · exact h rfl
    · exact h List.getLast?_concat
  rw [unquoteBy?, if_neg hends, hslice, unquote_quoted hq]
  rfl

theorem unquoteBy?_other (hq : isQuote q = true) (hv : ∀ inner, v ≠ q :: inner ++ [q])
    (qs : List Char) : unquoteBy? v (q :: qs) = unquoteBy? v qs := by
  rw [unquoteBy?, if_pos]
  by_contra! h
  obtain ⟨hsize, hhead, hlast⟩ := h
  obtain ⟨r, rfl⟩ := List.head?_eq_some_iff.mp hhead
  rcases List.eq_nil_or_concat' r with rfl | ⟨inner, d, rfl⟩
  · rw [size_quote hq] at hsize
    omega
  · rw [← List.cons_append, List.getLast?_concat] at hlast
    cases hlast
    exact hv inner rfl

theorem unquoteBy?_eq (v : Text) : unquoteBy? v ['"', '\''] = some (unquote v) := by
  by_cases hdouble : ∃ inner, v = '"' :: inner ++ ['"']
  · obtain ⟨inner, rfl⟩ := hdouble
    exact unquoteBy?_quoted rfl inner _
  rw [unquoteBy?_other rfl (not_exists.mp hdouble)]
  by_cases hsingle : ∃ inner, v = '\'' :: inner ++ ['\'']
  · obtain ⟨inner, rfl⟩ := hsingle
    exact unquoteBy?_quoted rfl inner _
  rw [unquoteBy?_other rfl (not_exists.mp hsingle), unquoteBy?, Option.some.injEq, eq_comm]
  by_contra hne
  obtain ⟨q, inner, hq, rfl⟩ := quoted_of_unquote_ne hne
  simp only [isQuote, Bool.or_eq_true, decide_eq_true_eq] at hq
  rcases hq with rfl | rfl
  · exact hdouble ⟨inner, rfl⟩
  · exact hsingle ⟨inner, rfl⟩

end Slices

/-- Two quotes of one kind are taken off if and only if every such quote between them stands
directly behind an odd number of backslashes. What is between them stays as it is then, and no
character is cut. Without backslashes, what was put between two quotes comes back if and only if it
has no such quote in it. -/
theorem unquote_removes (v : Text) :
    (unquote v ≠ v ↔
      ∃ q inner, isQuote q = true ∧ v = q :: inner ++ [q] ∧ Guarded q inner) ∧
    (∀ q inner, isQuote q = true → v = q :: inner ++ [q] → Guarded q inner → unquote v = inner) ∧
    (∀ q x, isQuote q = true → '\\' ∉ x → (unquote (q :: x ++ [q]) = x ↔ q ∉ x)) ∧
    unquoteBy? v ['"', '\''] = some (unquote v) := by
  refine ⟨unquote_ne_iff, ?_, ?_, unquoteBy?_eq v⟩
  · rintro q inner hq rfl hg
    exact (unquote_eq_inner hq).mpr hg
  · intro q x hq hx
    rw [unquote_eq_inner hq, guarded_iff_notMem hx]

/-- Backslashes keep the quotes in a text, and stay there themselves. A quote behind two of them is
bare, and so is one between quoted words. -/
theorem unquote_removes_tricky :
    let inner := "say \\\"é\\\", 'no'".toList
    Guarded '"' inner ∧ unquote ('"' :: inner ++ ['"']) = inner ∧
    '\\' ∉ "it's".toList ∧ unquote "'it's'".toList ≠ "it's".toList ∧
    unquote "\"a\\\\\" b\"".toList = "\"a\\\\\" b\"".toList ∧
    unquote "\"a\" b \"c\"".toList = "\"a\" b \"c\"".toList := by
  intro inner
  have hg : Guarded '"' inner := (not_hasBare_iff (by decide) inner).mp (by decide)
  obtain ⟨-, hremoves, -, -⟩ := unquote_removes ('"' :: inner ++ ['"'])
  obtain ⟨-, -, hplain, -⟩ := unquote_removes []
  have hx : '\\' ∉ "it's".toList := by decide
  have hback := (hplain '\'' "it's".toList rfl hx).not.mpr (by decide)
  exact ⟨hg, hremoves '"' inner rfl rfl hg, hx, hback, by decide, by decide⟩

end Document

end Guidebook
