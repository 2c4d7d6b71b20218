import Guidebook.Path
import Guidebook.Proofs.Text.Number
import Guidebook.Proofs.Text.Trim
import Guidebook.Proofs.Text.Utf8

namespace Guidebook

/-- There is no escape character in the text. -/
def Text.Bare (t : Text) : Prop := '\x1b' ∉ t

/-- There is no escape character among the bytes. -/
def Bytes.Bare (bs : Bytes) : Prop := 0x1b ∉ bs

instance : DecidablePred Text.Bare := fun t => inferInstanceAs (Decidable ('\x1b' ∉ t))

instance : DecidablePred Bytes.Bare := fun bs => inferInstanceAs (Decidable (0x1b ∉ bs))

namespace Bytes

variable {a b : Bytes}

theorem Bare.append (ha : Bare a) (hb : Bare b) : Bare (a ++ b) :=
  fun h => (List.mem_append.mp h).elim ha hb

theorem Bare.of_subset (hb : Bare b) (h : a ⊆ b) : Bare a := fun ha => hb (h ha)

end Bytes

namespace Text

variable {t u : Text} {c : Char}

theorem Bare.append (ht : Bare t) (hu : Bare u) : Bare (t ++ u) :=
  fun h => (List.mem_append.mp h).elim ht hu

theorem Bare.cons (ht : Bare t) (hc : c ≠ '\x1b') : Bare (c :: t) :=
  fun h => (List.mem_cons.mp h).elim (fun he => hc he.symm) ht

theorem Bare.of_subset (hu : Bare u) (h : t ⊆ u) : Bare t := fun ht => hu (h ht)

theorem Bare.flatten {ts : List Text} (h : ∀ t ∈ ts, Bare t) : Bare ts.flatten := by
  intro hm
  obtain ⟨t, ht, he⟩ := List.mem_flatten.mp hm
  exact h t ht he

theorem Bare.intercalate (ht : Bare t) {ts : List Text} (h : ∀ u ∈ ts, Bare u) :
    Bare (t.intercalate ts) := by
  induction ts with
  | nil => exact List.not_mem_nil
  | cons u us ih =>
    rw [List.forall_mem_cons] at h
    cases us with
    | nil => simpa using h.1
    | cons v vs =>
      rw [List.intercalate_cons_of_ne_nil (by simp), List.append_assoc]
      exact h.1.append (ht.append (ih h.2))

/-- What a literal stands for need not be spelled out to be searched. -/
theorem bare_ofList {cs : List Char} (h : '\x1b' ∉ cs) : Bare (String.ofList cs).toList := by
  rw [String.toList_ofList]
  exact h

theorem bare_ofNat (n : Nat) : Bare (ofNat n) := fun h => absurd (isDigit_of_mem_ofNat h) (by decide)

theorem bare_ofInt (i : Int) : Bare (ofInt i) := by
  cases i with
  | ofNat n => exact bare_ofNat n
  | negSucc n => exact (bare_ofNat (n + 1)).cons (by decide)

theorem Bare.trim (h : Bare t) : Bare (trim t) := h.of_subset fun _ => mem_of_mem_trim

theorem Bare.joinLines {ts : List Text} (h : ∀ t ∈ ts, Bare t) : Bare (joinLines ts) :=
  Bare.intercalate (by decide) h

theorem subset_of_mem_lines (t : Text) : ∀ l ∈ lines t, l ⊆ t := by
  fun_induction lines t with
  | case1 => simp
  | case2 cs ih =>
    simp only [List.mem_cons, forall_eq_or_imp, List.nil_subset, true_and]
    exact fun l hl => List.subset_cons_of_subset _ (ih l hl)
  | case3 cs ih =>
    simp only [List.mem_cons, forall_eq_or_imp, List.nil_subset, true_and]
    exact fun l hl => List.subset_cons_of_subset _ (List.subset_cons_of_subset _ (ih l hl))
  | case4 c cs h₁ h₂ hn ih =>
    intro l hl
    obtain rfl := List.mem_singleton.mp hl
    simp
  | case5 c cs h₁ h₂ m ms hm ih =>
    intro l hl
    rcases List.mem_cons.mp hl with rfl | hl
    · exact List.cons_subset_cons _ (ih m (by simp [hm]))
    · exact List.subset_cons_of_subset _ (ih l (by simp [hm, hl]))

theorem Bare.of_mem_lines (h : Bare t) {l : Text} (hl : l ∈ lines t) : Bare l :=
  h.of_subset (subset_of_mem_lines t l hl)

theorem subset_of_mem_pieces (p : Char → Bool) (t : Text) : ∀ w ∈ pieces p t, w ⊆ t := by
  induction t with
  | nil => simp [pieces]
  | cons c cs ih =>
    intro w hw
    rw [pieces] at hw
    split at hw
    · rcases List.mem_cons.mp hw with rfl | hw
      · simp
      · exact List.subset_cons_of_subset _ (ih w hw)
    · split at hw
      · obtain rfl := List.mem_singleton.mp hw
        simp
      · next v vs hv =>
        rcases List.mem_cons.mp hw with rfl | hw
        · exact List.cons_subset_cons _ (ih v (by simp [hv]))
        · exact List.subset_cons_of_subset _ (ih w (by simp [hv, hw]))

theorem Bare.of_mem_words (h : Bare t) {w : Text} (hw : w ∈ words t) : Bare w :=
  h.of_subset (subset_of_mem_pieces _ t w (List.mem_filter.mp hw).1)

end Text

namespace Path

theorem bare_join {p q : Text} (hp : p.Bare) (hq : q.Bare) : (join p q).Bare := by
  rw [join]
  split
  · exact hq
  · split
    · exact hq
    · split
      · exact hp.append hq
      · exact hp.append (hq.cons (by decide))

theorem bare_expand {home : Option Text} {p : Text} (hh : ∀ h ∈ home, h.Bare) (hp : p.Bare) :
    (expand home p).Bare := by
  unfold expand
  split
  · exact hh _ rfl
  · next h r =>
    have hr : Text.Bare r := hp.of_subset fun c hc => by simp [hc]
    exact (hh _ rfl).append (hr.cons (by decide))
  · exact hp

end Path

namespace Utf8

theorem bare_encode {t : Text} (h : t.Bare) : (encode t).Bare := by
  intro hm
  obtain ⟨c, hc, hb⟩ := List.mem_flatMap.mp hm
  have hn : c.toNat = 0x1b := toNat_of_mem_encodeChar hb (by decide)
  have he : c = '\x1b' := by rw [← Char.ofNat_toNat c, hn]
  exact h (he ▸ hc)

theorem bare_decode {bs : Bytes} {t : Text} (hb : bs.Bare) (h : decode bs = some t) : t.Bare :=
  fun hm => hb (byte_of_mem_decode h (by decide) hm)

end Utf8

end Guidebook
