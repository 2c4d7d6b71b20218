import Guidebook.Program.Basic
import Guidebook.Proofs.Checked

namespace Guidebook.Program

open Checked

variable {bs base content : Bytes} {k n : Nat}

theorem length_littleEndian (k n : Nat) : (littleEndian k n).length = k := by
  induction k generalizing n with
  | zero => rfl
  | succ k ih => rw [littleEndian, List.length_cons, ih]

theorem ofLittleEndian_lt (bs : Bytes) : ofLittleEndian bs < 256 ^ bs.length := by
  induction bs with
  | nil => exact Nat.one_pos
  | cons b bs ih =>
    have hb := b.toNat_lt
    rw [ofLittleEndian, List.length_cons, pow_succ]
    omega

theorem ofLittleEndian_littleEndian (h : n < 256 ^ k) : ofLittleEndian (littleEndian k n) = n := by
  induction k generalizing n with
  | zero => exact (Nat.lt_one_iff.mp h).symm
  | succ k ih =>
    have hq : n / 256 < 256 ^ k := Nat.div_lt_of_lt_mul (by rwa [pow_succ, Nat.mul_comm] at h)
    have hr : n.toUInt8.toNat = n % 256 := UInt8.toNat_ofNat
    rw [littleEndian, ofLittleEndian, ih hq, hr, Nat.mod_add_div]

theorem littleEndian_ofLittleEndian (bs : Bytes) :
    littleEndian bs.length (ofLittleEndian bs) = bs := by
  induction bs with
  | nil => rfl
  | cons b bs ih =>
    have hb := b.toNat_lt
    have hr : (b.toNat + 256 * ofLittleEndian bs).toUInt8 = b := by
      apply UInt8.toNat_inj.mp
      rw [Nat.toUInt8, UInt8.toNat_ofNat']
      omega
    have hq : (b.toNat + 256 * ofLittleEndian bs) / 256 = ofLittleEndian bs := by omega
    rw [List.length_cons, ofLittleEndian, littleEndian, hr, hq, ih]

theorem ofLittleEndian_length (hn : n < Text.numberBound) :
    ofLittleEndian (littleEndian lengthSize n) = n :=
  ofLittleEndian_littleEndian hn

theorem length_trailer (n : Nat) : (trailer n).length = trailerSize := by
  rw [trailer, List.length_append, length_littleEndian]
  rfl

theorem length_append_trailer (base : Bytes) (n : Nat) :
    (base ++ trailer n).length = base.length + trailerSize := by
  rw [List.length_append, length_trailer]

theorem take_trailer (n : Nat) : (trailer n).take lengthSize = littleEndian lengthSize n :=
  List.take_left' (length_littleEndian ..)

theorem drop_trailer (n : Nat) : (trailer n).drop lengthSize = mark :=
  List.drop_left' (length_littleEndian ..)

theorem mark_isSuffixOf_trailer (base : Bytes) (n : Nat) :
    mark.isSuffixOf (base ++ trailer n) = true := by
  rw [List.isSuffixOf_iff_suffix]
  exact ⟨base ++ littleEndian lengthSize n, by rw [trailer, List.append_assoc]⟩

/-- A trailer is believed if there are as many bytes before it as it says. -/
theorem locate_append_trailer (base : Bytes) (hn : n < Text.numberBound) :
    locate (base ++ trailer n) =
      if n ≤ base.length then some (base.length - n, base.length) else none := by
  have hlast : (base ++ trailer n).length - trailerSize = base.length := by
    rw [length_append_trailer, Nat.add_sub_cancel]
  have hfield : ((base ++ trailer n).drop base.length).take lengthSize = littleEndian lengthSize n := by
    rw [List.drop_left, take_trailer]
  have hguard : ¬((base ++ trailer n).length < trailerSize ∨
      ¬mark.isSuffixOf (base ++ trailer n) = true) := by
    rw [length_append_trailer, mark_isSuffixOf_trailer]
    simp
  simp only [locate, if_neg hguard, hlast, hfield, ofLittleEndian_length hn]

/-- Bytes that end in the mark end in a trailer, whatever stands before the mark. -/
theorem exists_append_trailer (hl : trailerSize ≤ bs.length) (hm : mark.isSuffixOf bs = true) :
    ∃ base n, n < Text.numberBound ∧ bs = base ++ trailer n := by
  obtain ⟨front, rfl⟩ := List.isSuffixOf_iff_suffix.mp hm
  have hmark : lengthSize + mark.length = trailerSize := rfl
  have hfront : lengthSize ≤ front.length := by
    rw [List.length_append] at hl
    omega
  have hfield : (front.drop (front.length - lengthSize)).length = lengthSize := by
    rw [List.length_drop]
    omega
  refine ⟨front.take (front.length - lengthSize),
    ofLittleEndian (front.drop (front.length - lengthSize)), ?_, ?_⟩
  · have hlt := ofLittleEndian_lt (front.drop (front.length - lengthSize))
    rwa [hfield] at hlt
  · have hb := littleEndian_ofLittleEndian (front.drop (front.length - lengthSize))
    rw [hfield] at hb
    rw [trailer, hb, ← List.append_assoc, List.take_append_drop]

/-- A program with a payload: the program, the payload, and a trailer for as many bytes. -/
structure Carries (bs base content : Bytes) : Prop where
  eq : bs = base ++ content ++ trailer content.length
  size : content.length < Text.numberBound

theorem Carries.locate_eq (h : Carries bs base content) :
    locate bs = some (base.length, base.length + content.length) := by
  rw [h.eq, locate_append_trailer _ h.size, List.length_append, if_pos (Nat.le_add_left ..),
    Nat.add_sub_cancel]

theorem exists_carries {r : Nat × Nat} (h : locate bs = some r) :
    ∃ base content, Carries bs base content := by
  have hg : ¬(bs.length < trailerSize ∨ ¬mark.isSuffixOf bs = true) := fun hg => by
    rw [locate, if_pos hg] at h
    cases h
  rw [not_or, Nat.not_lt, not_not] at hg
  obtain ⟨front, n, hn, rfl⟩ := exists_append_trailer hg.1 hg.2
  rw [locate_append_trailer front hn] at h
  have hle : n ≤ front.length := by
    by_contra hlt
    rw [if_neg hlt] at h
    cases h
  have hlen : (front.drop (front.length - n)).length = n := by
    rw [List.length_drop]
    omega
  exact ⟨front.take (front.length - n), front.drop (front.length - n),
    by rw [List.take_append_drop, hlen], by rwa [hlen]⟩

/-- The place of a payload lies within the bytes. -/
theorem bounds_of_locate {first last : Nat} (h : locate bs = some (first, last)) :
    first ≤ last ∧ last ≤ bs.length := by
  obtain ⟨base, content, hc⟩ := exists_carries h
  rw [hc.locate_eq, Option.some.injEq, Prod.mk.injEq] at h
  obtain ⟨rfl, rfl⟩ := h
  refine ⟨Nat.le_add_right .., ?_⟩
  rw [hc.eq, List.length_append, List.length_append]
  exact Nat.le_add_right ..

theorem Carries.strip_eq (h : Carries bs base content) : strip bs = base := by
  rw [strip, h.locate_eq, h.eq, List.append_assoc]
  exact List.take_left

theorem Carries.extract_eq (h : Carries bs base content) :
    extract bs = (Payload.decode content).map some := by
  have hs : (bs.take (base.length + content.length)).drop base.length = content := by
    rw [h.eq, ← List.length_append, List.take_left, List.drop_left]
  rw [extract, h.locate_eq]
  simp only [hs]

theorem strip_eq_self (h : locate bs = none) : strip bs = bs := by
  rw [strip, h]

theorem strip_cases (bs : Bytes) : strip bs = bs ∨ ∃ content, Carries bs (strip bs) content := by
  cases h : locate bs with
  | none => exact .inl (strip_eq_self h)
  | some r =>
    obtain ⟨base, content, hc⟩ := exists_carries h
    exact .inr ⟨content, hc.strip_eq ▸ hc⟩

/-- However large a number stands in a trailer, no more is taken away than there is. -/
theorem strip_append_trailer (base : Bytes) (hn : n < Text.numberBound) :
    strip (base ++ trailer n) =
      if n ≤ base.length then base.take (base.length - n) else base ++ trailer n := by
  rw [strip, locate_append_trailer base hn]
  by_cases hle : n ≤ base.length
  · rw [if_pos hle, if_pos hle]
    exact List.take_append_of_le_length (Nat.sub_le ..)
  · rw [if_neg hle, if_neg hle]

/-- The number in eight bytes. -/
def word? (field : Bytes) : Option Nat :=
  if field.length = lengthSize then some (ofLittleEndian field) else none

/-- `locate` with every number kept below the bound and every part kept within the bytes. -/
def locate? (bs : Bytes) : Option (Option (Nat × Nat)) :=
  if bs.length < trailerSize ∨ ¬mark.isSuffixOf bs then some none
  else do
    let last ← difference? bs.length trailerSize
    let n ← word? (← part? bs last (← sum? last lengthSize))
    if n ≤ last then return some (← difference? last n, last) else return none

def strip? (bs : Bytes) : Option Bytes := do
  match ← locate? bs with
  | some (first, _) => part? bs 0 first
  | none => some bs

def extract? (bs : Bytes) : Option (Except Payload.Defect (Option Payload)) := do
  match ← locate? bs with
  | none => some (.ok none)
  | some (first, last) => return (Payload.decode (← part? bs first last)).map some

theorem word?_littleEndian (hn : n < Text.numberBound) :
    word? (littleEndian lengthSize n) = some n := by
  rw [word?, if_pos (length_littleEndian ..), ofLittleEndian_length hn]

theorem locate?_eq (hb : bs.length < Text.numberBound) : locate? bs = some (locate bs) := by
  by_cases hg : bs.length < trailerSize ∨ ¬mark.isSuffixOf bs = true
  · rw [locate?, locate, if_pos hg, if_pos hg]
  · have hg' := hg
    rw [not_or, Nat.not_lt, not_not] at hg'
    obtain ⟨base, n, hn, rfl⟩ := exists_append_trailer hg'.1 hg'.2
    have hlen := length_append_trailer base n
    have hsize : lengthSize ≤ trailerSize := by decide
    have hfield : part? (base ++ trailer n) base.length (base.length + lengthSize) =
        some (littleEndian lengthSize n) := by
      rw [part?, if_pos ⟨Nat.le_add_right .., by omega⟩, List.drop_left, Nat.add_sub_cancel_left,
        take_trailer]
    rw [locate_append_trailer base hn, locate?, if_neg hg, difference?_eq hg'.1, hlen,
      Nat.add_sub_cancel]
    simp only [Option.bind_eq_bind, Option.bind_some, sum?_eq (by omega : base.length + lengthSize < _),
      hfield, word?_littleEndian hn]
    by_cases hle : n ≤ base.length
    · rw [if_pos hle, if_pos hle, difference?_eq hle]
      rfl
    · rw [if_neg hle, if_neg hle]
      rfl

theorem strip?_eq (hb : bs.length < Text.numberBound) : strip? bs = some (strip bs) := by
  rw [strip?, locate?_eq hb, Option.bind_eq_bind, Option.bind_some]
  cases h : locate bs with
  | none => rw [strip_eq_self h]
  | some r =>
    obtain ⟨hfirst, hlast⟩ := bounds_of_locate h
    rw [strip, h]
    exact if_pos ⟨Nat.zero_le _, Nat.le_trans hfirst hlast⟩

theorem extract?_eq (hb : bs.length < Text.numberBound) : extract? bs = some (extract bs) := by
  rw [extract?, locate?_eq hb, Option.bind_eq_bind, Option.bind_some]
  cases h : locate bs with
  | none => rw [extract, h]
  | some r =>
    rw [extract, h]
    simp only [part?, if_pos (bounds_of_locate h), List.drop_take]
    rfl

end Guidebook.Program
