import Guidebook.Proofs.Checked
import Guidebook.Proofs.Pager.Pages

namespace Guidebook.Pager

variable (p : Pager) {page total : Nat}

theorem clamp_mem (page total : Nat) : p.clamp page total ∈ p.pages total :=
  p.mem_pages.mpr ⟨p.clamp_pos page total, p.clamp_le page total⟩

theorem clamp_clamp (page total : Nat) : p.clamp (p.clamp page total) total = p.clamp page total :=
  p.clamp_of_mem (p.clamp_mem page total)

theorem clamp_mono {m n : Nat} (h : m ≤ n) (total : Nat) : p.clamp m total ≤ p.clamp n total := by
  rw [clamp, clamp]
  omega

theorem visible_clamp (page total : Nat) :
    p.visible (p.clamp page total) total = p.visible page total := by
  rw [visible, visible, p.clamp_clamp]

/-- A page begins within the list, that of an empty list where the list ends. -/
theorem first_lt_of_mem (h : page ∈ p.pages total) : (page - 1) * p.size < max total 1 := by
  have hc := p.clamp_of_mem h
  rcases Nat.lt_or_ge 1 page with hp | hp
  · have hf := p.first_lt page total (hc.symm ▸ hp)
    rw [hc] at hf
    exact Nat.lt_of_lt_of_le hf (Nat.le_max_left ..)
  · rw [Nat.sub_eq_zero_of_le hp, Nat.zero_mul]
    exact Nat.lt_of_lt_of_le Nat.one_pos (Nat.le_max_right ..)

theorem mul_lt_of_lt_lastPage (h1 : 1 ≤ page) (h : page < p.lastPage total) :
    page * p.size < total := by
  have hf := p.first_lt_of_mem (p.mem_pages.mpr (show 1 ≤ page + 1 ∧ _ from ⟨by omega, h⟩))
  have hs : 1 ≤ page * p.size := Nat.mul_pos h1 p.pos
  rw [Nat.add_sub_cancel] at hf
  omega

/-- The numbers, from zero, of the items on a page. -/
def range (page total : Nat) : List Nat :=
  List.range' (p.visible page total).1 ((p.visible page total).2 - (p.visible page total).1)

/-- Of a list that holds its own numbers, a page holds the numbers on it. -/
theorem map_items_range (page total : Nat) :
    (p.items (List.range total) page).map Prod.fst = p.range page total := by
  have hb : (p.visible page total).2 ≤ total := Nat.min_le_right ..
  rw [items, range, Message.slice, List.length_range, List.map_take, List.map_drop,
    List.zipIdx_map_fst, List.range_eq_range', List.drop_range', Nat.zero_add, Nat.mul_one]
  generalize (p.visible page total).1 = first at *
  generalize (p.visible page total).2 = last at *
  have hsplit : List.range' first (total - first) =
      List.range' first (last - first) ++ List.range' (first + (last - first))
        (total - first - (last - first)) := by
    rw [List.range'_append_1, Nat.add_sub_cancel' (by omega)]
  rw [hsplit]
  exact List.take_left' List.length_range'

/-- The pages cut a list: one after the other they are the list, each is full but the last one, and
none is empty but that of an empty list. -/
structure Cuts (p : Pager) (total : Nat) : Prop where
  joined : (p.pages total).flatMap (p.range · total) = List.range total
  full : ∀ page, 1 ≤ page → page < p.lastPage total → (p.range page total).length = p.size
  last : (p.range (p.lastPage total) total).length ≤ p.size
  inhabited : 0 < total → ∀ page ∈ p.pages total, p.range page total ≠ []
  empty : total = 0 → p.pages total = [1] ∧ p.visible 1 total = (0, 0)

/-- Every number is taken for that of a page: the nearest one, so that its own is kept. -/
structure Clamps (p : Pager) (total : Nat) : Prop where
  mem : ∀ page, 1 ≤ p.clamp page total ∧ p.clamp page total ≤ p.lastPage total
  kept : ∀ page, 1 ≤ page → page ≤ p.lastPage total → p.clamp page total = page
  twice : ∀ page, p.clamp (p.clamp page total) total = p.clamp page total
  mono : ∀ m n, m ≤ n → p.clamp m total ≤ p.clamp n total
  visible : ∀ page, p.visible (p.clamp page total) total = p.visible page total

theorem clamps (total : Nat) : p.Clamps total where
  mem page := ⟨p.clamp_pos page total, p.clamp_le page total⟩
  kept _ h1 hl := p.clamp_of_mem (p.mem_pages.mpr ⟨h1, hl⟩)
  twice page := p.clamp_clamp page total
  mono _ _ h := p.clamp_mono h total
  visible page := p.visible_clamp page total

section Cuts

variable (hs : p.size < Text.numberBound) (ht : 2 * total ≤ Text.numberBound)

include hs ht

theorem visible_of_mem (h : page ∈ p.pages total) :
    p.visible page total = ((page - 1) * p.size, min (page * p.size) total) := by
  obtain ⟨-, hb⟩ := p.ends_lt page total hs ht
  have hf : (page - 1) * p.size ≤ total := by
    have := p.first_lt_of_mem h
    omega
  rw [p.clamp_of_mem h, Nat.min_eq_left hf] at hb
  simp only [visible, p.clamp_of_mem h, Nat.min_eq_left hf, Nat.mod_eq_of_lt hb,
    p.mul_size_of_mem h]

theorem length_range_of_mem (h : page ∈ p.pages total) :
    (p.range page total).length = min p.size (total - (page - 1) * p.size) := by
  rw [range, List.length_range', p.visible_of_mem hs ht h, p.mul_size_of_mem h]
  omega

theorem cuts : p.Cuts total where
  joined := by
    have hx : 2 * (List.range total).length ≤ Text.numberBound := by rwa [List.length_range]
    have hj := congrArg (List.map Prod.fst) (p.flatMap_pages (List.range total) hs hx)
    rw [List.map_flatMap, List.zipIdx_map_fst, List.length_range] at hj
    simpa only [map_items_range] using hj
  full page h1 h := by
    have hp := p.mem_pages.mpr ⟨h1, Nat.le_of_lt h⟩
    have hend := p.mul_lt_of_lt_lastPage h1 h
    rw [p.mul_size_of_mem hp] at hend
    rw [p.length_range_of_mem hs ht hp]
    omega
  last := by
    have hl := p.mem_pages.mpr ⟨p.lastPage_pos total, Nat.le_refl _⟩
    rw [p.length_range_of_mem hs ht hl]
    exact Nat.min_le_left ..
  inhabited _ page h := by
    have hf := p.first_lt_of_mem h
    have hsize := p.pos
    rw [← List.length_pos_iff, p.length_range_of_mem hs ht h]
    omega
  empty h := by
    subst h
    have hl : p.lastPage 0 = 1 := Nat.le_antisymm (p.lastPage_le 0) (p.lastPage_pos 0)
    exact ⟨by rw [pages, hl]; rfl, by simp [visible]⟩

end Cuts

/-- Whatever size is asked for, the pages of a list that is no longer than one can be cut it, every
number is taken for that of a page, and no sum and no product on the way is too large. -/
theorem ofSize_pages {n total : Nat} (hn : n < Text.numberBound)
    (ht : 2 * total < Text.numberBound) :
    (ofSize n).size = max n 1 ∧ (ofSize n).Cuts total ∧ (ofSize n).Clamps total ∧
    (ofSize n).lastPage? total = some ((ofSize n).lastPage total) ∧
    ∀ page, (ofSize n).clamp? page total = some ((ofSize n).clamp page total) ∧
      (ofSize n).visible? page total = some ((ofSize n).visible page total) := by
  have hb : 1 < Text.numberBound := by decide
  have hs : (ofSize n).size < Text.numberBound := Nat.max_lt.mpr ⟨hn, hb⟩
  refine ⟨rfl, cuts _ hs (Nat.le_of_lt ht), clamps _ total, ?_, fun page => ⟨?_, ?_⟩⟩
  · exact lastPage?_eq _ (by omega)
  · exact clamp?_eq _ page (by omega)
  · exact visible?_eq _ page hs (Nat.le_of_lt ht)

example : ((ofSize 5).pages 12).map ((ofSize 5).visible · 12) = [(0, 5), (5, 10), (10, 12)] := by
  decide

/-- The longest list, with a page size that takes it to the bound of the numbers. -/
theorem ofSize_pages_longest :
    let p := ofSize 0x4000000000000000
    let total := 0x7FFFFFFFFFFFFFFF
    (p.pages total).map (p.visible · total) =
      [(0, 0x4000000000000000), (0x4000000000000000, 0x7FFFFFFFFFFFFFFF)] ∧
    p.Cuts total ∧ p.Clamps total ∧ p.visible? 2 total = some (p.visible 2 total) := by
  intro p total
  obtain ⟨-, hcuts, hclamps, -, hnumbers⟩ :=
    ofSize_pages (n := 0x4000000000000000) (show _ < Text.numberBound by decide)
      (show 2 * total < Text.numberBound by decide)
  exact ⟨by decide, hcuts, hclamps, (hnumbers 2).2⟩

end Guidebook.Pager
