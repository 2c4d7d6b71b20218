import Guidebook.Proofs.Path.Names
import Guidebook.Proofs.Text.Trim

namespace Guidebook.Text

/-- Blanks, at least one. -/
structure Gap (t : Text) : Prop where
  nonempty : t ≠ []
  blank : ∀ c ∈ t, isBlank c = true

/-- A text without blanks. -/
structure Word (t : Text) : Prop where
  nonempty : t ≠ []
  notBlank : ∀ c ∈ t, isBlank c = false

/-- Words, each of them behind a gap. -/
inductive Spaced : List Text → Text → Prop
  | nil : Spaced [] []
  | cons {gap w t : Text} {ws : List Text} (hg : Gap gap) (hw : Word w) (h : Spaced ws t) :
      Spaced (w :: ws) (gap ++ (w ++ t))

/-- The word begins the text, and nothing but a blank stands right behind it. -/
def Begins (w t : Text) : Prop := ∃ u, t = w ++ u ∧ ∀ c ∈ u.head?, isBlank c = true

variable {w t u gap : Text} {ws : List Text}

theorem word_of_all (hne : w ≠ []) (h : w.all (!isBlank ·) = true) : Word w :=
  ⟨hne, fun c hc => by simpa using List.all_eq_true.mp h c hc⟩

theorem Gap.head? (h : Gap gap) (t : Text) : ∀ c ∈ (gap ++ t).head?, isBlank c = true := by
  obtain ⟨b, bs, rfl⟩ := List.exists_cons_of_ne_nil h.nonempty
  intro c hc
  obtain rfl : b = c := by simpa using hc
  exact h.blank b List.mem_cons_self

theorem Spaced.head? (h : Spaced ws t) : ∀ c ∈ t.head?, isBlank c = true := by
  cases h with
  | nil => simp
  | cons hg _ _ => exact hg.head? _

theorem words_append {c : Char} (hc : isBlank c = true) (t u : Text) :
    words (t ++ c :: u) = words t ++ words u := by
  rw [words, pieces_append hc, List.filter_append, words, words]

theorem words_blanks (hb : ∀ c ∈ gap, isBlank c = true) (t : Text) :
    words (gap ++ t) = words t := by
  induction gap with
  | nil => rfl
  | cons b bs ih =>
    rw [List.forall_mem_cons] at hb
    calc words (b :: (bs ++ t)) = words [] ++ words (bs ++ t) := words_append hb.1 [] (bs ++ t)
      _ = words t := ih hb.2

theorem words_trimStart (t : Text) : words (trimStart t) = words t := by
  have hb : ∀ c ∈ t.takeWhile isBlank, isBlank c = true := fun c hc => List.mem_takeWhile_imp hc
  calc words (trimStart t) = words (t.takeWhile isBlank ++ trimStart t) := (words_blanks hb _).symm
    _ = words t := by rw [trimStart, List.takeWhile_append_dropWhile]

theorem Word.words_append (hw : Word w) (hu : ∀ c ∈ u.head?, isBlank c = true) :
    words (w ++ u) = w :: words u := by
  have hword : words w = [w] := by
    rw [words, pieces_eq_singleton hw.notBlank]
    simp [hw.nonempty]
  cases u with
  | nil => rw [List.append_nil, hword]; rfl
  | cons c u =>
    have hc : isBlank c = true := hu c rfl
    have hgap : ∀ b ∈ [c], isBlank b = true := by simp [hc]
    calc words (w ++ c :: u) = words w ++ words u := Text.words_append hc w u
      _ = w :: words u := by rw [hword]; rfl
      _ = w :: words (c :: u) := congrArg (w :: ·) (words_blanks hgap u).symm

theorem Spaced.words_eq (h : Spaced ws t) : words t = ws := by
  induction h with
  | nil => rfl
  | cons hg hw h ih => rw [words_blanks hg.blank, hw.words_append h.head?, ih]

theorem head?_dropWhile (p : Char → Bool) (t : Text) : ∀ c ∈ (t.dropWhile p).head?, p c = false := by
  intro c hc
  have h := List.head?_dropWhile_not p t
  rwa [Option.mem_def.mp hc] at h

theorem takeWhile_append (hw : ∀ c ∈ w, isBlank c = false) (hu : ∀ c ∈ u.head?, isBlank c = true) :
    (w ++ u).takeWhile (!isBlank ·) = w ∧ (w ++ u).dropWhile (!isBlank ·) = u := by
  have hall : ∀ c ∈ w, (!isBlank c) = true := fun c hc => by simp [hw c hc]
  rw [List.takeWhile_append_of_pos hall, List.dropWhile_append_of_pos hall]
  cases u with
  | nil => simp
  | cons c u =>
    have hc : isBlank c = true := hu c rfl
    simp [hc]

theorem begins_takeWhile (t : Text) : Begins (t.takeWhile (!isBlank ·)) t := by
  refine ⟨t.dropWhile (!isBlank ·), List.takeWhile_append_dropWhile.symm, fun c hc => ?_⟩
  simpa using head?_dropWhile (!isBlank ·) t c hc

theorem begins_iff (hw : ∀ c ∈ w, isBlank c = false) :
    Begins w t ↔ t.takeWhile (!isBlank ·) = w := by
  constructor
  · rintro ⟨u, rfl, hu⟩
    exact (takeWhile_append hw hu).1
  · rintro rfl
    exact begins_takeWhile t

theorem trimEnd_of_append (h : trimEnd (t ++ u) = t ++ u) : trimEnd u = u := by
  rcases eq_or_ne u [] with rfl | hne
  · rfl
  · have hlast := List.rdropWhile_eq_self_iff.mp h (List.append_ne_nil_of_right_ne_nil t hne)
    rw [List.getLast_append_of_ne_nil _ hne] at hlast
    exact List.rdropWhile_eq_self_iff.mpr fun _ => hlast

theorem exists_gap (hne : t ≠ []) (hb : ∀ c ∈ t.head?, isBlank c = true) (ht : trimEnd t = t) :
    ∃ gap u, Gap gap ∧ u ≠ [] ∧ trim u = u ∧ t = gap ++ u := by
  have hsplit : t = t.takeWhile isBlank ++ trimStart t := List.takeWhile_append_dropWhile.symm
  have hg : Gap (t.takeWhile isBlank) := by
    obtain ⟨c, cs, rfl⟩ := List.exists_cons_of_ne_nil hne
    have hc : isBlank c = true := hb c rfl
    exact ⟨by simp [hc], fun d hd => List.mem_takeWhile_imp hd⟩
  have hu : trimStart t ≠ [] := fun hnil =>
    List.rdropWhile_eq_self_iff.mp ht hne (List.dropWhile_eq_nil_iff.mp hnil _ (List.getLast_mem hne))
  have hend : trimEnd (trimStart t) = trimStart t := trimEnd_of_append (hsplit ▸ ht)
  exact ⟨_, _, hg, hu, (trim_trimStart t).trans hend, hsplit⟩

theorem spaced_words (hb : ∀ c ∈ t.head?, isBlank c = true) (ht : trimEnd t = t) :
    Spaced (words t) t := by
  -- On the length and not on the text: a word takes any number of characters.
  induction hlen : t.length using Nat.strongRecOn generalizing t with
  | ind n ih =>
    rcases eq_or_ne t [] with rfl | hne
    · exact .nil
    obtain ⟨gap, u, hg, hu, htrim, rfl⟩ := exists_gap hne hb ht
    obtain ⟨v, hv, hbv⟩ := begins_takeWhile u
    have hw : Word (u.takeWhile (!isBlank ·)) := by
      refine ⟨?_, fun d hd => by simpa using List.mem_takeWhile_imp hd⟩
      obtain ⟨d, ds, rfl⟩ := List.exists_cons_of_ne_nil hu
      have hd : isBlank d = false :=
        head?_dropWhile isBlank _ d (congrArg List.head? (trimStart_of_trim htrim))
      simp [hd]
    have hlt : v.length < n := by
      have hgap := List.length_pos_iff.mpr hg.nonempty
      have hsum := congrArg List.length hv
      simp only [List.length_append] at hlen hsum
      omega
    have hend : trimEnd v = v := trimEnd_of_append (hv ▸ trimEnd_of_append ht)
    rw [words_blanks hg.blank]
    generalize u.takeWhile (!isBlank ·) = w at hv hw
    rw [hv, hw.words_append hbv]
    exact .cons hg hw (ih _ hlt hbv hend rfl)

end Guidebook.Text
