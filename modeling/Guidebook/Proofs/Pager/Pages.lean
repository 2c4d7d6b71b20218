import Guidebook.Message
import Guidebook.Pager
import Mathlib.Data.List.Basic

namespace Guidebook

namespace Pager

section Bounds

variable (p : Pager) (page total : Nat)

theorem lastPage_pos : 1 ≤ p.lastPage total := Nat.le_max_right ..

theorem clamp_pos : 1 ≤ p.clamp page total :=
  Nat.le_min.mpr ⟨Nat.le_max_right .., p.lastPage_pos total⟩

theorem clamp_le : p.clamp page total ≤ p.lastPage total := Nat.min_le_right ..

theorem clamp_one : p.clamp 1 total = 1 := Nat.min_eq_left (p.lastPage_pos total)

/-- There are no more pages than items, the page of an empty list apart. -/
theorem lastPage_le : p.lastPage total ≤ max total 1 := by
  have hs := p.pos
  refine Nat.max_le.mpr ⟨?_, Nat.le_max_right ..⟩
  cases total with
  | zero =>
    rw [Nat.div_eq_of_lt (by omega)]
    exact Nat.zero_le _
  | succ n =>
    refine Nat.le_trans (Nat.div_le_of_le_mul ?_) (Nat.le_max_left ..)
    have hm : n ≤ p.size * n := Nat.le_mul_of_pos_left n hs
    rw [Nat.mul_succ]
    omega

/-- A page that is not the first one begins within the list. -/
theorem first_lt (h : 1 < p.clamp page total) : (p.clamp page total - 1) * p.size < total := by
  have hs := p.pos
  have hl : p.clamp page total ≤ (total + p.size - 1) / p.size := by
    have := p.clamp_le page total
    rw [lastPage] at this
    omega
  have hm := Nat.mul_le_of_le_div p.size _ _ hl
  have h2 : 2 * p.size ≤ p.clamp page total * p.size := Nat.mul_le_mul_right p.size h
  rw [Nat.sub_mul, Nat.one_mul]
  omega

/-- Neither the place where a page begins nor the one behind it is beyond what a number can be. -/
theorem ends_lt {bound : Nat} (hs : p.size < bound) (ht : 2 * total ≤ bound) :
    (p.clamp page total - 1) * p.size < bound ∧
      min ((p.clamp page total - 1) * p.size) total + p.size < bound := by
  have hc := p.clamp_pos page total
  rcases Nat.lt_or_ge 1 (p.clamp page total) with h | h
  · have hf := p.first_lt page total h
    have hk : p.size ≤ (p.clamp page total - 1) * p.size :=
      Nat.le_mul_of_pos_left p.size (by omega)
    omega
  · have h1 : p.clamp page total = 1 := by omega
    simp [h1]
    omega

end Bounds

variable {α : Type} (p : Pager) (xs : List α) {page : Nat}

/-- The items on a page, each under its number in the list. -/
def items (page : Nat) : List (α × Nat) :=
  Message.slice (p.visible page xs.length).1 (p.visible page xs.length).2 xs

/-- The numbers of the pages. -/
def pages (total : Nat) : List Nat := List.range' 1 (p.lastPage total)

theorem mem_pages {total : Nat} : page ∈ p.pages total ↔ 1 ≤ page ∧ page ≤ p.lastPage total := by
  rw [pages, List.mem_range'_1]
  omega

theorem clamp_of_mem {total : Nat} (h : page ∈ p.pages total) : p.clamp page total = page := by
  obtain ⟨h1, hl⟩ := p.mem_pages.mp h
  rw [clamp, Nat.max_eq_left h1, Nat.min_eq_left hl]

/-- A page ends a page's size behind its beginning. -/
theorem mul_size_of_mem {total : Nat} (h : page ∈ p.pages total) :
    page * p.size = (page - 1) * p.size + p.size := by
  obtain ⟨h1, -⟩ := p.mem_pages.mp h
  rw [← Nat.succ_mul, Nat.succ_eq_add_one, Nat.sub_add_cancel h1]

/-- The last page reaches the end of the list. -/
theorem le_lastPage_mul (total : Nat) : total ≤ p.lastPage total * p.size := by
  have hs := p.pos
  have hd := Nat.div_add_mod' (total + p.size - 1) p.size
  have hr := Nat.mod_lt (total + p.size - 1) hs
  have hm : (total + p.size - 1) / p.size * p.size ≤ p.lastPage total * p.size :=
    Nat.mul_le_mul_right p.size (Nat.le_max_left ..)
  omega

section Items

variable (hs : p.size < Text.numberBound) (hx : 2 * xs.length ≤ Text.numberBound)

include hs hx

theorem items_eq (page : Nat) : p.items xs page =
    ((xs.zipIdx 1).drop ((p.clamp page xs.length - 1) * p.size)).take p.size := by
  obtain ⟨-, hb⟩ := p.ends_lt page xs.length hs hx
  have hl : (xs.zipIdx 1).length = xs.length := List.length_zipIdx
  simp only [items, Message.slice, visible, Nat.mod_eq_of_lt hb]
  generalize (p.clamp page xs.length - 1) * p.size = first
  have hd : (xs.zipIdx 1).drop (min first xs.length) = (xs.zipIdx 1).drop first := by
    rw [List.drop_eq_drop_iff, hl]
    omega
  rw [hd, List.take_eq_take_iff, List.length_drop, hl]
  omega

theorem flatMap_items {n : Nat} (hn : n ≤ p.lastPage xs.length) :
    (List.range' 1 n).flatMap (p.items xs) = (xs.zipIdx 1).take (n * p.size) := by
  induction n with
  | zero => simp
  | succ n ih =>
    have hp : p.clamp (1 + n) xs.length = 1 + n := p.clamp_of_mem (p.mem_pages.mpr (by omega))
    rw [List.range'_1_concat, List.flatMap_append, ih (by omega), List.flatMap_singleton,
      p.items_eq xs hs hx, hp, Nat.add_sub_cancel_left, Nat.succ_mul, List.take_add]

/-- The pages, one after the other, hold every item once and in order. -/
theorem flatMap_pages : (p.pages xs.length).flatMap (p.items xs) = xs.zipIdx 1 := by
  rw [pages, p.flatMap_items xs hs hx (Nat.le_refl _)]
  refine List.take_of_length_le ?_
  rw [List.length_zipIdx]
  exact p.le_lastPage_mul xs.length

theorem mem_items {x : α} {k : Nat} (hp : page ∈ p.pages xs.length) :
    (x, k) ∈ p.items xs page ↔
      (page - 1) * p.size < k ∧ k ≤ page * p.size ∧ xs[k - 1]? = some x := by
  rw [p.items_eq xs hs hx, p.clamp_of_mem hp, p.mul_size_of_mem hp]
  generalize (page - 1) * p.size = first
  rw [List.mem_iff_getElem?]
  simp only [List.getElem?_take, List.getElem?_drop, List.getElem?_zipIdx]
  constructor
  · rintro ⟨j, hj⟩
    split at hj
    · obtain ⟨y, hy, he⟩ := Option.map_eq_some_iff.mp hj
      obtain ⟨rfl, rfl⟩ := Prod.mk.inj he
      exact ⟨by omega, by omega, by rwa [Nat.add_sub_cancel_left]⟩
    · cases hj
  · rintro ⟨hlo, hhi, hx⟩
    refine ⟨k - 1 - first, ?_⟩
    rw [if_pos (by omega), show first + (k - 1 - first) = k - 1 by omega, hx, Option.map_some,
      show 1 + (k - 1) = k by omega]

/-- The numbers on the pages are those of the items, and each is on one page only. -/
theorem existsUnique_page (k : Nat) :
    (∃! page, page ∈ p.pages xs.length ∧ ∃ x, (x, k) ∈ p.items xs page) ↔
      1 ≤ k ∧ k ≤ xs.length := by
  constructor
  · rintro ⟨page, ⟨hp, x, hx'⟩, -⟩
    obtain ⟨hlo, -, hk⟩ := (p.mem_items xs hs hx hp).mp hx'
    obtain ⟨hlt, -⟩ := List.getElem?_eq_some_iff.mp hk
    omega
  · rintro ⟨h1, hk⟩
    have hin : (xs[k - 1], k) ∈ (p.pages xs.length).flatMap (p.items xs) := by
      rw [p.flatMap_pages xs hs hx, List.mk_mem_zipIdx_iff_le_and_getElem?_sub]
      exact ⟨h1, List.getElem?_eq_getElem (by omega)⟩
    obtain ⟨page, hp, hm⟩ := List.mem_flatMap.mp hin
    refine ⟨page, ⟨hp, _, hm⟩, ?_⟩
    rintro q ⟨hq, y, hy⟩
    obtain ⟨hlo, hhi, -⟩ := (p.mem_items xs hs hx hp).mp hm
    obtain ⟨hlo', hhi', -⟩ := (p.mem_items xs hs hx hq).mp hy
    -- Two pages with the number would begin less than a page apart.
    have hqp : q - 1 < page := Nat.lt_of_mul_lt_mul_right (Nat.lt_of_lt_of_le hlo' hhi)
    have hpq : page - 1 < q := Nat.lt_of_mul_lt_mul_right (Nat.lt_of_lt_of_le hlo hhi')
    have := (p.mem_pages.mp hp).1
    have := (p.mem_pages.mp hq).1
    omega

end Items

end Pager

namespace Message

/-- What stands above the suggestions on a page. -/
def heading (l : Look) (xs : List Suggestion) (page : Nat) : Text :=
  if xs.isEmpty then "Suggestions: (none defined)\n".toList
  else Look.line (l.bold "Suggestions".toList ++ " (page ".toList ++
    Text.ofNat (l.pager.clamp page xs.length) ++ '/' :: Text.ofNat (l.pager.lastPage xs.length) ++
    "):".toList)

/-- The page of a list of suggestions shows what is on it and nothing else. -/
theorem text_suggestions (l : Look) (xs : List Suggestion) (page : Nat) :
    text l (.suggestions xs page) =
      heading l xs page ++ (l.pager.items xs page).flatMap fun e => suggestionText l e.2 e.1 := by
  rw [text, suggestionsText, heading]
  split
  · next h =>
    obtain rfl := List.isEmpty_iff.mp h
    simp [Pager.items, slice]
  · rfl

end Message

end Guidebook
