import Guidebook.Proofs.Program.Embedding

namespace Guidebook.Program

open Checked

variable {bs : Bytes} {n : Nat}

/-- Bytes that end in a trailer for more bytes than stand before it. -/
def Overstated (bs : Bytes) : Prop :=
  ∃ base n, n < Text.numberBound ∧ base.length < n ∧ bs = base ++ (littleEndian lengthSize n ++ mark)

/-- Some bytes of a file from a place in it, unless the file ends before. -/
def readAt? (file : Bytes) (place count : Nat) : Option Bytes := do
  part? file place (← sum? place count)

/-- `load` with every number kept below the bound and every read kept within the file. -/
def load? (file : Bytes) : Option (Except Payload.Defect (Option Payload)) :=
  if file.length < trailerSize then some (.ok none)
  else do
    let last ← difference? file.length trailerSize
    let tail ← readAt? file last trailerSize
    if tail.drop lengthSize ≠ mark then return .ok none
    else
      let n ← word? (tail.take lengthSize)
      if last < n then return .error .truncated
      else return (Payload.decode (← readAt? file (← difference? last n) n)).map some

theorem readAt?_eq {file : Bytes} {place count : Nat} (hb : file.length < Text.numberBound)
    (hr : place + count ≤ file.length) : readAt? file place count = some (readAt file place count) := by
  rw [readAt?, sum?_eq (Nat.lt_of_le_of_lt hr hb), Option.bind_eq_bind, Option.bind_some, part?,
    if_pos ⟨Nat.le_add_right .., hr⟩, Nat.add_sub_cancel_left, readAt]

/-- The last sixteen bytes hold the mark if and only if the bytes end in it. -/
theorem drop_tail_eq_mark (hl : trailerSize ≤ bs.length) :
    (readAt bs (bs.length - trailerSize) trailerSize).drop lengthSize = mark ↔
      mark.isSuffixOf bs = true := by
  have hmark : lengthSize + mark.length = trailerSize := rfl
  have htake : readAt bs (bs.length - trailerSize) trailerSize = bs.drop (bs.length - trailerSize) :=
    List.take_of_length_le (by rw [List.length_drop]; omega)
  have hplace : bs.length - trailerSize + lengthSize = bs.length - mark.length := by omega
  rw [List.isSuffixOf_iff_suffix, List.suffix_iff_eq_drop, htake, List.drop_drop, hplace, eq_comm]

/-- Where there is no trailer, there is nothing for either reader. -/
theorem load_eq_none (hg : bs.length < trailerSize ∨ ¬mark.isSuffixOf bs = true) :
    load bs = .ok none := by
  rw [load]
  by_cases hl : bs.length < trailerSize
  · rw [if_pos hl]
  · have hm := hg.resolve_left hl
    rw [← drop_tail_eq_mark (Nat.not_lt.mp hl)] at hm
    rw [if_neg hl]
    exact if_pos hm

theorem extract_eq_none (hg : bs.length < trailerSize ∨ ¬mark.isSuffixOf bs = true) :
    extract bs = .ok none := by
  rw [extract, locate, if_pos hg]

theorem readAt_trailer (base : Bytes) (n : Nat) :
    readAt (base ++ trailer n) base.length trailerSize = trailer n := by
  rw [readAt, List.drop_left, ← length_trailer n, List.take_length]

theorem readAt_content (base : Bytes) (n : Nat) (hle : n ≤ base.length) :
    readAt (base ++ trailer n) (base.length - n) n = base.drop (base.length - n) := by
  rw [readAt, List.drop_append_of_le_length (Nat.sub_le ..)]
  exact List.take_left' (by rw [List.length_drop]; omega)

/-- At start-up a trailer is refused if it tells of more bytes than there are. -/
theorem load_append_trailer (base : Bytes) (hn : n < Text.numberBound) :
    load (base ++ trailer n) =
      if n ≤ base.length then (Payload.decode (base.drop (base.length - n))).map some
      else .error .truncated := by
  have hlen := length_append_trailer base n
  rw [load, if_neg (by omega)]
  simp only [hlen, Nat.add_sub_cancel, readAt_trailer, drop_trailer, take_trailer,
    ofLittleEndian_length hn]
  rw [if_neg (not_not.mpr rfl)]
  by_cases hle : n ≤ base.length
  · rw [if_pos hle, if_neg (Nat.not_lt.mpr hle), readAt_content base n hle]
  · rw [if_neg hle, if_pos (Nat.lt_of_not_le hle)]

theorem extract_append_trailer (base : Bytes) (hn : n < Text.numberBound) :
    extract (base ++ trailer n) =
      if n ≤ base.length then (Payload.decode (base.drop (base.length - n))).map some
      else .ok none := by
  rw [extract, locate_append_trailer base hn]
  by_cases hle : n ≤ base.length
  · simp only [if_pos hle, List.take_left]
  · simp only [if_neg hle]

theorem load?_eq (hb : bs.length < Text.numberBound) : load? bs = some (load bs) := by
  by_cases hl : bs.length < trailerSize
  · rw [load?, load, if_pos hl, if_pos hl]
  · have hge := Nat.not_lt.mp hl
    rw [load?, if_neg hl, difference?_eq hge]
    simp only [Option.bind_eq_bind, Option.bind_some, readAt?_eq hb (Nat.sub_add_cancel hge).le]
    -- With the mark at the end there is a number before it, and the bytes before that are the rest.
    by_cases hm : (readAt bs (bs.length - trailerSize) trailerSize).drop lengthSize = mark
    · obtain ⟨base, n, hn, rfl⟩ := exists_append_trailer hge ((drop_tail_eq_mark hge).mp hm)
      have hlen := length_append_trailer base n
      rw [if_neg (not_not.mpr hm), load_append_trailer base hn]
      simp only [hlen, Nat.add_sub_cancel, readAt_trailer, take_trailer, word?_littleEndian hn,
        Option.bind_some]
      by_cases hle : n ≤ base.length
      · have hr : base.length - n + n ≤ (base ++ trailer n).length := by omega
        rw [if_neg (Nat.not_lt.mpr hle), if_pos hle, difference?_eq hle]
        simp only [Option.bind_some, readAt?_eq hb hr, readAt_content base n hle]
        rfl
      · rw [if_pos (Nat.lt_of_not_le hle), if_neg hle]
        rfl
    · rw [if_pos hm, load_eq_none (.inr fun h => hm ((drop_tail_eq_mark hge).mpr h))]
      rfl

/-- A program finds in its own file when it starts what is found in the bytes of that file, be it a
payload, none, or the same defect, unless the trailer tells of more bytes than there are: to start
is refused then, while in the bytes it is no trailer. No read goes past the end of the file, and
what is put into a program is what that program starts with. -/
theorem load_agrees (bs : Bytes) :
    (Overstated bs → load bs = .error .truncated ∧ extract bs = .ok none ∧ strip bs = bs) ∧
    (¬Overstated bs → load bs = extract bs) ∧
    (bs.length < Text.numberBound → load? bs = some (load bs)) ∧
    ∀ p : Payload, p.Fits → p.format = Payload.formatRead → load (embed bs p) = .ok (some p) := by
  refine ⟨?_, fun ho => ?_, load?_eq, fun p hp hf => ?_⟩
  · rintro ⟨base, n, hn, hlt, rfl⟩
    have hle := Nat.not_le.mpr hlt
    refine ⟨(load_append_trailer base hn).trans (if_neg hle),
      (extract_append_trailer base hn).trans (if_neg hle),
      (strip_append_trailer base hn).trans (if_neg hle)⟩
  · by_cases hg : bs.length < trailerSize ∨ ¬mark.isSuffixOf bs = true
    · rw [load_eq_none hg, extract_eq_none hg]
    · rw [not_or, Nat.not_lt, not_not] at hg
      obtain ⟨base, n, hn, rfl⟩ := exists_append_trailer hg.1 hg.2
      have hle : n ≤ base.length := by
        by_contra hlt
        exact ho ⟨base, n, hn, Nat.lt_of_not_le hlt, rfl⟩
      rw [load_append_trailer base hn, extract_append_trailer base hn, if_pos hle, if_pos hle]
  · have hc := carries_embed bs hp.size
    have hle : p.encode.length ≤ (strip bs ++ p.encode).length := by simp
    have hd : (strip bs ++ p.encode).drop ((strip bs ++ p.encode).length - p.encode.length) =
        p.encode := by
      rw [List.length_append, Nat.add_sub_cancel, List.drop_left]
    rw [hc.eq, load_append_trailer _ hp.size, if_pos hle, hd,
      Payload.decode_encode hp.format hp.numbered, if_pos hf]
    rfl

/-- A program that ends in a trailer for more bytes than it has is not started, but it takes a
payload like any other. -/
theorem load_agrees_tricky :
    let bs : Bytes := mark ++ trailer 9
    Overstated bs ∧ load bs = .error .truncated ∧ extract bs = .ok none ∧
    Payload.tricky.Fits ∧ load (embed bs Payload.tricky) = .ok (some Payload.tricky) := by
  intro bs
  have ho : Overstated bs := ⟨mark, 9, by decide, by decide, rfl⟩
  obtain ⟨hover, -, -, hload⟩ := load_agrees bs
  obtain ⟨hl, he, -⟩ := hover ho
  exact ⟨ho, hl, he, Payload.tricky_fits, hload Payload.tricky Payload.tricky_fits rfl⟩

end Guidebook.Program
