import Guidebook.Json.Shape
import Guidebook.Proofs.Json.Written
import Guidebook.Proofs.Text.Number
import Mathlib.Data.List.TakeWhile

namespace Guidebook

namespace Json

theorem isWordChar_of_isDigit {c : Char} (h : c.isDigit) : isWordChar c := by
  simp [isWordChar, Char.isAlphanum, h]

theorem isDigit_ne {c d : Char} (h : c.isDigit) (hd : d.isDigit = false) : c ≠ d := by
  rintro rfl
  simp [hd] at h

theorem isNumber_ofNat (n : Nat) : isNumber (Text.ofNat n) = true := by
  have hdigits := Text.isDigits_ofNat n
  have hall : ∀ c ∈ Text.ofNat n, c.isDigit := fun c => Text.isDigit_of_mem_ofNat
  have hzero : ∀ t, Text.ofNat n = '0' :: t → t = [] := fun t => Text.eq_nil_of_ofNat
  cases hl : Text.ofNat n with
  | nil => simp [hl, Text.isDigits] at hdigits
  | cons c t =>
    rw [hl] at hdigits hall hzero
    have hsign : c ≠ '-' := isDigit_ne (hall c (by simp)) rfl
    have htake : (c :: t).takeWhile Char.isDigit = c :: t := List.takeWhile_eq_self_iff.mpr hall
    have hdrop : (c :: t).dropWhile Char.isDigit = [] := List.dropWhile_eq_nil_iff.mpr hall
    by_cases hc : c = '0'
    · subst hc
      obtain rfl := hzero t rfl
      rfl
    · rw [isNumber, htake, hdrop, hdigits]
      · rfl
      · exact fun _ h => hsign (List.cons.inj h).1
      · exact fun _ h => hc (List.cons.inj h).1

/-- A number is none of the words. -/
theorem word?_of_isNumber {t : Text} (h : isNumber t = true) : word? t = some (.num t) := by
  have hne (w : Text) (hw : isNumber w = false) : t ≠ w := by
    rintro rfl
    rw [h] at hw
    cases hw
  rw [word?, if_neg (hne _ (by decide)), if_neg (hne _ (by decide)), if_neg (hne _ (by decide)),
    if_pos h]

theorem int?_nat (n : Nat) : (nat n).int? = some (n : Int) := by
  have hdigits := Text.isDigits_ofNat n
  have hvalue := Text.digitsValue_ofNat n
  have hl : (nat n).int? = lexemeInt? (Text.ofNat n) := rfl
  rw [hl, lexemeInt?.eq_def]
  split
  · next ds hm =>
    exact absurd rfl (isDigit_ne (Text.isDigit_of_mem_ofNat (n := n) (c := '-') (by simp [hm])) rfl)
  · rw [if_pos hdigits, hvalue]

theorem natBelow?_nat {bound n : Nat} (h : n < bound) : natBelow? bound (nat n) = some n := by
  simp [natBelow?, int?_nat, h]

/-- A minus sign may stand before any number that has none. -/
theorem isNumber_minus {t : Text} (h : t.head? ≠ some '-') : isNumber ('-' :: t) = isNumber t := by
  rw [isNumber.eq_def t]
  split
  · simp at h
  · rfl

theorem head?_ofNat_ne {n : Nat} {c : Char} (hc : c.isDigit = false) :
    (Text.ofNat n).head? ≠ some c := by
  intro h
  have hd := Text.isDigit_of_mem_ofNat (List.mem_of_head? h)
  rw [hc] at hd
  cases hd

theorem word?_int (i : Int) : word? (Text.ofInt i) = some (int i) := by
  cases i with
  | ofNat n => exact word?_of_isNumber (isNumber_ofNat n)
  | negSucc n =>
    have hn := isNumber_minus (head?_ofNat_ne (n := n + 1) rfl)
    exact word?_of_isNumber (hn.trans (isNumber_ofNat _))

theorem int?_int (i : Int) : (int i).int? = some i := by
  cases i with
  | ofNat n => exact int?_nat n
  | negSucc n =>
    have hdigits := Text.isDigits_ofNat (n + 1)
    have hvalue := Text.digitsValue_ofNat (n + 1)
    have hl : (int (.negSucc n)).int? = lexemeInt? ('-' :: Text.ofNat (n + 1)) := rfl
    rw [hl, lexemeInt?, hdigits, hvalue]
    rfl

theorem int64?_int {i : Int} (h : Text.isInt64 i) : int64? (int i) = some i := by
  simp [int64?, int?_int, h]

/-- The values that can be written down so that they can be read. -/
inductive Sound : Json → Prop where
  | null : Sound .null
  | bool (b : Bool) : Sound (.bool b)
  | num (l : Text) (hl : ∀ c ∈ l, isWordChar c) (hw : word? l = some (.num l)) : Sound (.num l)
  | str (t : Text) : Sound (.str t)
  | arr (vs : List Json) (hv : ∀ v ∈ vs, Sound v) : Sound (.arr vs)
  | obj (ms : List (Text × Json)) (hm : ∀ m ∈ ms, Sound m.2) : Sound (.obj ms)

theorem isWordChar_of_mem_ofInt {i : Int} {c : Char} (h : c ∈ Text.ofInt i) : isWordChar c := by
  cases i with
  | ofNat n => exact isWordChar_of_isDigit (Text.isDigit_of_mem_ofNat h)
  | negSucc n =>
    rcases List.mem_cons.mp h with rfl | h
    · rfl
    · exact isWordChar_of_isDigit (Text.isDigit_of_mem_ofNat h)

theorem sound_int (i : Int) : Sound (int i) :=
  .num _ (fun _ hc => isWordChar_of_mem_ofInt hc) (word?_int i)

theorem sound_nat (n : Nat) : Sound (nat n) := sound_int n

theorem sound_opt (t : Option Text) : Sound (opt t) := by
  cases t with
  | none => exact .null
  | some t => exact .str t

theorem render_arr (vs : List Json) : render (.arr vs) = '[' :: renderItems vs ++ [']'] := rfl

theorem render_obj (ms : List (Text × Json)) :
    render (.obj ms) = '\x7b' :: renderMembers ms ++ ['\x7d'] := rfl

/-- Whatever is printed one after the other with commas between is an intercalation. -/
theorem eq_intercalate {α : Type} {f : List α → Text} {g : α → Text} (hnil : f [] = [])
    (hone : ∀ a, f [a] = g a) (hcons : ∀ a b l, f (a :: b :: l) = g a ++ ',' :: f (b :: l))
    (l : List α) : f l = [','].intercalate (l.map g) := by
  induction l with
  | nil => exact hnil
  | cons a l ih =>
    cases l with
    | nil => rw [hone, List.map_singleton, List.intercalate_singleton]
    | cons b l =>
      rw [hcons, ih]
      simp

theorem renderItems_eq (vs : List Json) : renderItems vs = [','].intercalate (vs.map render) :=
  eq_intercalate rfl (fun _ => rfl) (fun _ _ _ => rfl) vs

theorem renderMembers_eq (ms : List (Text × Json)) :
    renderMembers ms = [','].intercalate (ms.map fun m => quote m.1 ++ ':' :: render m.2) :=
  eq_intercalate rfl (fun _ => rfl) (fun _ _ _ => by simp [renderMembers]) ms

/-- A value on one line is written down. -/
theorem written_render {v : Json} (h : Sound v) : Written v (render v) := by
  induction h with
  | null => exact .word _ _ (List.all_eq_true.mp rfl) rfl
  | bool b => cases b <;> exact .word _ _ (List.all_eq_true.mp rfl) rfl
  | num l hl hw => exact .word _ _ hl hw
  | str t => exact Written.str t
  | arr vs hv ih =>
    have h := Written.arr (vs.map fun v => (v, render v)) (by simpa using ih)
    simpa [render_arr, renderItems_eq, Function.comp_def] using h
  | obj ms hm ih =>
    have h := Written.obj (ms.map fun m => ⟨[], m.1, m.2, render m.2⟩)
      (List.forall_mem_map.mpr fun _ _ _ hc => nomatch hc) (List.forall_mem_map.mpr ih)
    simpa [render_obj, renderMembers_eq, Function.comp_def, Member.pair, Member.shown] using h

section Layout

theorem layout_arr {vs : List Json} (hne : vs ≠ []) (depth : Nat) :
    layout depth (.arr vs) = '[' :: layoutItems (depth + 1) vs ++ newline depth ++ [']'] := by
  cases vs with
  | nil => exact absurd rfl hne
  | cons v vs => rfl

theorem layout_obj {ms : List (Text × Json)} (hne : ms ≠ []) (depth : Nat) :
    layout depth (.obj ms) = '\x7b' :: layoutMembers (depth + 1) ms ++ newline depth ++ ['\x7d'] := by
  cases ms with
  | nil => exact absurd rfl hne
  | cons m ms => rfl

theorem layoutItems_eq (depth : Nat) (vs : List Json) :
    layoutItems depth vs = [','].intercalate (vs.map fun v => newline depth ++ layout depth v) :=
  eq_intercalate rfl (fun _ => rfl) (fun _ _ _ => rfl) vs

/-- A member as it is laid out: on a line of its own, and with a blank behind the colon. -/
def laidOut (depth : Nat) (m : Text × Json) : Member :=
  ⟨newline depth, m.1, m.2, ' ' :: layout depth m.2⟩

theorem layoutMembers_eq (depth : Nat) (ms : List (Text × Json)) :
    layoutMembers depth ms = [','].intercalate (ms.map fun m => (laidOut depth m).shown) :=
  eq_intercalate rfl (fun _ => by simp [layoutMembers, laidOut, Member.shown])
    (fun _ _ _ => by simp [layoutMembers, laidOut, Member.shown]) ms

theorem isSpace_of_mem_newline {depth : Nat} {c : Char} (h : c ∈ newline depth) : isSpace c := by
  rcases List.mem_cons.mp h with rfl | h
  · rfl
  · obtain rfl := List.eq_of_mem_replicate h
    rfl

theorem Written.prepend {v : Json} {t b : Text} (h : Written v t) (hb : ∀ c ∈ b, isSpace c) :
    Written v (b ++ t) := by
  induction b with
  | nil => exact h
  | cons c b ih =>
    rw [List.forall_mem_cons] at hb
    exact .before c v _ hb.1 (ih hb.2)

theorem Written.extend {v : Json} {t b : Text} (h : Written v t) (hb : ∀ c ∈ b, isSpace c) :
    Written v (t ++ b) := by
  induction b generalizing t with
  | nil => rwa [List.append_nil]
  | cons c b ih =>
    rw [List.forall_mem_cons] at hb
    rw [List.append_cons]
    exact ih (.after c v t hb.1 h) hb.2

/-- What follows the last part of an intercalation belongs to that part. -/
theorem intercalate_concat_append (s : Text) (ts : List Text) (t b : Text) :
    s.intercalate (ts ++ [t]) ++ b = s.intercalate (ts ++ [t ++ b]) := by
  induction ts with
  | nil => simp [List.intercalate_singleton]
  | cons u ts ih =>
    rw [List.cons_append, List.cons_append, List.intercalate_cons_of_ne_nil (by simp),
      List.intercalate_cons_of_ne_nil (by simp), List.append_assoc, List.append_assoc, ih,
      List.append_assoc]

/-- Blanks before the bracket that closes a list belong to its last item. -/
theorem written_items {vs : List Json} {f : Json → Text} (hv : ∀ v ∈ vs, Written v (f v))
    (hne : vs ≠ []) {b : Text} (hb : ∀ c ∈ b, isSpace c) :
    Written (.arr vs) ('[' :: [','].intercalate (vs.map f) ++ b ++ [']']) := by
  obtain ⟨us, w, rfl⟩ := (List.eq_nil_or_concat vs).resolve_left hne
  rw [List.concat_eq_append] at hv ⊢
  have h := Written.arr (us.map (fun v => (v, f v)) ++ [(w, f w ++ b)]) (by
    simp only [List.forall_mem_append, List.forall_mem_map, List.forall_mem_singleton]
    exact ⟨fun v hm => hv v (by simp [hm]), (hv w (by simp)).extend hb⟩)
  rw [List.cons_append, List.map_append, List.map_singleton, intercalate_concat_append]
  simpa [Function.comp_def] using h

/-- Blanks before the brace that closes an object belong to its last value. -/
theorem written_members {ms : List (Text × Json)} {f : Text × Json → Member}
    (hpair : ∀ m, (f m).pair = m) (hblanks : ∀ m, ∀ c ∈ (f m).blanks, isSpace c)
    (hm : ∀ m ∈ ms, Written (f m).value (f m).text) (hne : ms ≠ []) {b : Text}
    (hb : ∀ c ∈ b, isSpace c) :
    Written (.obj ms) ('\x7b' :: [','].intercalate (ms.map fun m => (f m).shown) ++ b ++ ['\x7d']) := by
  obtain ⟨ls, l, rfl⟩ := (List.eq_nil_or_concat ms).resolve_left hne
  rw [List.concat_eq_append] at hm ⊢
  let last : Member := { f l with text := (f l).text ++ b }
  have hlast : last.shown = (f l).shown ++ b := by simp [last, Member.shown]
  have hpairs : (ls.map f ++ [last]).map Member.pair = ls ++ [l] := by
    have hl : last.pair = l := hpair l
    simp [Function.comp_def, hpair, hl]
  have h := Written.obj (ls.map f ++ [last])
    (by
      simp only [List.forall_mem_append, List.forall_mem_map, List.forall_mem_singleton]
      exact ⟨fun m _ => hblanks m, hblanks l⟩)
    (by
      simp only [List.forall_mem_append, List.forall_mem_map, List.forall_mem_singleton]
      exact ⟨fun m hl => hm m (by simp [hl]), (hm l (by simp)).extend hb⟩)
  rw [hpairs] at h
  rw [List.cons_append, List.map_append, List.map_singleton, intercalate_concat_append, ← hlast]
  simpa [Function.comp_def] using h

/-- A value over several lines is written down, too. -/
theorem written_layout {v : Json} (h : Sound v) (depth : Nat) : Written v (layout depth v) := by
  induction h generalizing depth with
  | null => exact .word _ _ (List.all_eq_true.mp rfl) rfl
  | bool b => cases b <;> exact .word _ _ (List.all_eq_true.mp rfl) rfl
  | num l hl hw => exact .word _ _ hl hw
  | str t => exact Written.str t
  | arr vs hv ih =>
    by_cases hne : vs = []
    · subst hne
      exact Written.arr [] (by simp)
    · rw [layout_arr hne, layoutItems_eq]
      exact written_items (fun v hv => (ih v hv _).prepend fun _ => isSpace_of_mem_newline) hne
        fun _ => isSpace_of_mem_newline
  | obj ms hm ih =>
    by_cases hne : ms = []
    · subst hne
      exact Written.obj [] (by simp) (by simp)
    · rw [layout_obj hne, layoutMembers_eq]
      exact written_members (fun _ => rfl) (fun _ _ => isSpace_of_mem_newline)
        (fun m hm => .before ' ' _ _ rfl (ih m hm _)) hne fun _ => isSpace_of_mem_newline

theorem read_pretty {v : Json} (h : Sound v) : read v.pretty = some v :=
  read_written (written_layout h 0)

end Layout

theorem readBytes_render {v : Json} (h : Sound v) : readBytes (Utf8.encode v.render) = some v :=
  readBytes_written (written_render h)

section Fields

variable {α β : Type} {ms : List (Text × Json)} {m : Text × Json}

theorem mapM_eq_some {f : α → Option β} {g : α → β} {l : List α} (h : ∀ a ∈ l, f a = some (g a)) :
    l.mapM f = some (l.map g) := by
  induction l with
  | nil => rfl
  | cons a l ih =>
    rw [List.forall_mem_cons] at h
    rw [List.mapM_cons, h.1, ih h.2]
    rfl

/-- What has been made from values is made from them again if each of them is. -/
theorem mapM_map_eq_some {f : β → Option α} {g : α → β} {l : List α}
    (h : ∀ a ∈ l, f (g a) = some a) : (l.map g).mapM f = some l := by
  have hm : l.mapM (f ∘ g) = some (l.map id) := mapM_eq_some h
  rw [List.mapM_map, hm, List.map_id]

/-- Each of the values that were made was made from one. -/
theorem exists_of_mem_mapM {f : α → Option β} {l : List α} {bs : List β} {b : β}
    (h : l.mapM f = some bs) (hb : b ∈ bs) : ∃ a ∈ l, f a = some b := by
  induction l generalizing bs with
  | nil =>
    cases h
    cases hb
  | cons a l ih =>
    simp only [List.mapM_cons, Option.bind_eq_bind, Option.bind_eq_some_iff] at h
    obtain ⟨c, hc, cs, hcs, h⟩ := h
    cases h
    rcases List.mem_cons.mp hb with rfl | hb
    · exact ⟨a, List.mem_cons_self, hc⟩
    · obtain ⟨a', ha', h'⟩ := ih hcs hb
      exact ⟨a', List.mem_cons_of_mem a ha', h'⟩

theorem lt_of_natBelow? {bound n : Nat} {v : Json} (h : natBelow? bound v = some n) : n < bound := by
  obtain ⟨i, -, h⟩ := Option.bind_eq_some_iff.mp h
  split at h
  · next hi =>
    cases h
    omega
  · cases h

theorem isInt64_of_int64? {i : Int} {v : Json} (h : int64? v = some i) : Text.isInt64 i := by
  obtain ⟨j, -, h⟩ := Option.bind_eq_some_iff.mp h
  split at h
  · next hj =>
    cases h
    exact hj
  · cases h

theorem filter_key (hn : (ms.map Prod.fst).Nodup) (hm : m ∈ ms) :
    ms.filter (·.1 = m.1) = [m] := by
  induction ms with
  | nil => cases hm
  | cons k ks ih =>
    rw [List.map_cons, List.nodup_cons] at hn
    have hne (l : Text × Json) (hl : l ∈ ks) : k.1 ≠ l.1 := fun he =>
      hn.1 (he ▸ List.mem_map_of_mem hl)
    rcases List.mem_cons.mp hm with rfl | hm
    · rw [List.filter_cons_of_pos (by simp), List.filter_eq_nil_iff.mpr]
      intro l hl
      simpa using (hne l hl).symm
    · rw [List.filter_cons_of_neg (by simpa using hne m hm), ih hn.2 hm]

theorem member_eq (hn : (ms.map Prod.fst).Nodup) (hm : m ∈ ms) :
    member ms m.1 = some (.given m.2) := by
  rw [member, filter_key hn hm]

/-- An object gives each of its fields its value. -/
theorem slots_obj {names : List Text} (hn : names.Nodup) (hk : ms.map Prod.fst = names) :
    slots names (.obj ms) = some (ms.map fun m => .given m.2) := by
  subst hk
  rw [slots, List.mapM_map]
  exact mapM_eq_some fun m hm => member_eq hn hm

theorem optStr?_opt (t : Option Text) : optStr? (opt t) = some t := by
  cases t <;> rfl

end Fields

end Json

end Guidebook
