import Guidebook.Text.Utf8
import Mathlib.Algebra.Group.Nat.Defs
import Mathlib.Tactic.SplitIfs

namespace Guidebook.Utf8

theorem toNat_toUInt8 {n : Nat} (h : n < 256) : n.toUInt8.toNat = n := by
  simp [Nat.toUInt8, Nat.mod_eq_of_lt h]

theorem toNat_lt (c : Char) : c.toNat < 0x110000 := by
  rcases c.valid with h | h
  · exact Nat.lt_trans h (by decide)
  · exact h.2

theorem scalar?_toNat {c : Char} {least : Nat} (h : least ≤ c.toNat) :
    scalar? least c.toNat = some c := by
  have hv : c.toNat.isValidChar := c.valid
  rw [scalar?, if_pos ⟨h, hv⟩, Char.ofNat_toNat]

theorem tail?_byte {n : Nat} (h : n < 64) : tail? (0x80 + n).toUInt8 = some n := by
  have hn : (0x80 + n).toUInt8.toNat = 0x80 + n := toNat_toUInt8 (by omega)
  rw [tail?, hn, if_pos (by omega), Nat.add_sub_cancel_left]

/-- A continuation byte adds its six bits. -/
theorem signsFrom_tail {n : Nat} (h : n < 64) (left least value : Nat) (bs : Bytes) :
    signsFrom (.tail (left + 1) least value) ((0x80 + n).toUInt8 :: bs) =
      signsFrom (.tail left least (value * 64 + n)) bs := by
  simp only [signsFrom, advance, tail?_byte h, List.nil_append]

theorem signsFrom_tail_zero {n : Nat} (h : n < 64) {c : Char} {least value : Nat} (bs : Bytes)
    (hc : value * 64 + n = c.toNat) (hl : least ≤ c.toNat) :
    signsFrom (.tail 0 least value) ((0x80 + n).toUInt8 :: bs) = some c :: signsFrom .lead bs := by
  simp only [signsFrom, advance, tail?_byte h, hc, scalar?_toNat hl, List.singleton_append]

theorem signsFrom_lead {n : Nat} {e : Expect} (h : lead n.toUInt8 = some (.inr e)) (bs : Bytes) :
    signsFrom .lead (n.toUInt8 :: bs) = signsFrom e bs := by
  simp [signsFrom, advance, begun, h]

theorem lead_ascii {c : Char} (h : c.toNat < 0x80) : lead c.toNat.toUInt8 = some (.inl c) := by
  have hn : c.toNat.toUInt8.toNat = c.toNat := toNat_toUInt8 (by omega)
  simp only [lead, hn, if_pos h, Char.ofNat_toNat]

theorem lead_two {n : Nat} (h₁ : 2 ≤ n) (h₂ : n < 32) :
    lead (0xC0 + n).toUInt8 = some (.inr (.tail 0 0x80 n)) := by
  have hn : (0xC0 + n).toUInt8.toNat = 0xC0 + n := toNat_toUInt8 (by omega)
  simp only [lead, hn]
  rw [if_neg (by omega), if_neg (by omega), if_pos (by omega), Nat.add_sub_cancel_left]

theorem lead_three {n : Nat} (h : n < 16) :
    lead (0xE0 + n).toUInt8 = some (.inr (.tail 1 0x800 n)) := by
  have hn : (0xE0 + n).toUInt8.toNat = 0xE0 + n := toNat_toUInt8 (by omega)
  simp only [lead, hn]
  rw [if_neg (by omega), if_neg (by omega), if_neg (by omega), if_pos (by omega),
    Nat.add_sub_cancel_left]

theorem lead_four {n : Nat} (h : n < 5) :
    lead (0xF0 + n).toUInt8 = some (.inr (.tail 2 0x10000 n)) := by
  have hn : (0xF0 + n).toUInt8.toNat = 0xF0 + n := toNat_toUInt8 (by omega)
  simp only [lead, hn]
  rw [if_neg (by omega), if_neg (by omega), if_neg (by omega), if_neg (by omega),
    if_pos (by omega), Nat.add_sub_cancel_left]

/-- The bytes of a character stand for that character, whatever follows them. -/
theorem signsFrom_encodeChar (c : Char) (bs : Bytes) :
    signsFrom .lead (encodeChar c ++ bs) = some c :: signsFrom .lead bs := by
  have hc := toNat_lt c
  rw [encodeChar]
  split
  · next h => simp [signsFrom, advance, begun, lead_ascii h]
  · split
    · next h₁ h₂ =>
      rw [List.cons_append, List.singleton_append, signsFrom_lead (lead_two (by omega) (by omega)),
        signsFrom_tail_zero (c := c) (by omega) bs (by omega) (by omega)]
    · split
      · next h₁ h₂ h₃ =>
        simp only [List.cons_append, List.nil_append]
        rw [signsFrom_lead (lead_three (by omega)), signsFrom_tail (by omega),
          signsFrom_tail_zero (c := c) (by omega) bs (by omega) (by omega)]
      · next h₁ h₂ h₃ =>
        simp only [List.cons_append, List.nil_append]
        rw [signsFrom_lead (lead_four (by omega)), signsFrom_tail (by omega),
          signsFrom_tail (by omega), signsFrom_tail_zero (c := c) (by omega) bs (by omega) (by omega)]

/-- The bytes of a text stand for its characters. -/
theorem signs_encode (t : Text) : signs (encode t) = t.map some := by
  rw [signs]
  induction t with
  | nil => rfl
  | cons c t ih =>
    have he : encode (c :: t) = encodeChar c ++ encode t := rfl
    rw [he, signsFrom_encodeChar, ih, List.map_cons]

theorem decode_encode (t : Text) : decode (encode t) = some t := by
  rw [decode, signs_encode]
  induction t with
  | nil => rfl
  | cons c t ih => simp [ih]

theorem size_append (s t : Text) : size (s ++ t) = size s + size t := by
  rw [size, encode_append, List.length_append, size, size]

theorem size_cons (c : Char) (t : Text) : size (c :: t) = (encodeChar c).length + size t := by
  rw [size, size, ← List.length_append]
  rfl

theorem length_encodeChar_pos (c : Char) : 1 ≤ (encodeChar c).length := by
  simp only [encodeChar]
  repeat' split
  all_goals simp

theorem length_encodeChar_eq_one {c : Char} : (encodeChar c).length = 1 ↔ c.toNat < 0x80 := by
  simp only [encodeChar]
  by_cases h : c.toNat < 0x80
  · simp [h]
  · simp only [h, if_false, iff_false]
    repeat' split
    all_goals simp

theorem length_le_size (t : Text) : t.length ≤ size t := by
  induction t with
  | nil => exact Nat.le_refl _
  | cons c t ih =>
    have hc := length_encodeChar_pos c
    rw [size_cons, List.length_cons]
    omega

/-- A text has as many bytes as characters if each of them takes one. -/
theorem size_eq_length {t : Text} : size t = t.length ↔ ∀ c ∈ t, c.toNat < 0x80 := by
  induction t with
  | nil => simp [size, encode]
  | cons c t ih =>
    have hc := length_encodeChar_pos c
    have ht := length_le_size t
    rw [List.forall_mem_cons, ← ih, ← length_encodeChar_eq_one, size_cons, List.length_cons]
    omega

/-- A byte below 128 stands for a character of its own. -/
theorem toNat_of_mem_encodeChar {c : Char} {b : UInt8} (h : b ∈ encodeChar c)
    (hb : b.toNat < 0x80) : c.toNat = b.toNat := by
  have hlong {n : Nat} (hn : 0x80 ≤ n) (hlt : n < 256) : b ≠ n.toUInt8 := by
    rintro rfl
    rw [toNat_toUInt8 hlt] at hb
    omega
  have hc := toNat_lt c
  rw [encodeChar] at h
  split at h
  · rw [List.mem_singleton.mp h, toNat_toUInt8 (by omega)]
  all_goals exfalso
  split at h
  · simp only [List.mem_cons, List.not_mem_nil, or_false] at h
    rcases h with h | h <;> exact hlong (by omega) (by omega) h
  split at h
  · simp only [List.mem_cons, List.not_mem_nil, or_false] at h
    rcases h with h | h | h <;> exact hlong (by omega) (by omega) h
  · simp only [List.mem_cons, List.not_mem_nil, or_false] at h
    rcases h with h | h | h | h <;> exact hlong (by omega) (by omega) h

section Ascii

variable {b : UInt8} {e : Expect} {c : Char} {bs : Bytes}

theorem toNat_ofNat {n : Nat} (h : n.isValidChar) : (Char.ofNat n).toNat = n := by
  rw [Char.ofNat, dif_pos h]
  rfl

theorem begun_ascii (h : b.toNat < 0x80) : begun b = ([some (Char.ofNat b.toNat)], .lead) := by
  have hl : lead b = some (.inl (Char.ofNat b.toNat)) := by simp only [lead, if_pos h]
  rw [begun, hl]

/-- A byte below 128 is a character of its own, wherever it stands. -/
theorem signsFrom_ascii (h : b.toNat < 0x80) (e : Expect) (bs rest : Bytes) :
    signsFrom e (bs ++ b :: rest) =
      signsFrom e bs ++ some (Char.ofNat b.toNat) :: signsFrom .lead rest := by
  induction bs generalizing e with
  | nil =>
    cases e with
    | lead => simp [signsFrom, advance, begun_ascii h]
    | tail left least value =>
      have ht : tail? b = none := if_neg fun hb => absurd hb.1 (by omega)
      simp [signsFrom, advance, ht, begun_ascii h]
  | cons d bs ih => cases e <;> simp [signsFrom, ih]

/-- What is expected next is no character below 128. -/
def Expect.Long : Expect → Prop
  | .lead => True
  | .tail _ least _ => 0x80 ≤ least

theorem long_of_lead (h : lead b = some (.inr e)) : e.Long := by
  simp only [lead] at h
  split_ifs at h <;> cases h <;> simp [Expect.Long]

theorem toNat_of_lead (h : lead b = some (.inl c)) : b.toNat = c.toNat := by
  simp only [lead] at h
  split_ifs at h with hb <;> cases h
  exact (toNat_ofNat (.inl (by omega))).symm

theorem long_advance (he : e.Long) (b : UInt8) : (advance e b).2.Long := by
  have hbegun : (begun b).2.Long := by
    rw [begun]
    split
    · trivial
    · trivial
    · next e h => exact long_of_lead h
  cases e with
  | lead => exact hbegun
  | tail left least value =>
    simp only [advance]
    split
    · exact hbegun
    · exact he
    · trivial

/-- A character below 128 comes from a byte of its own. -/
theorem toNat_of_mem_advance (hc : c.toNat < 0x80) (he : e.Long) (h : some c ∈ (advance e b).1) :
    b.toNat = c.toNat := by
  have hbegun (h : some c ∈ (begun b).1) : b.toNat = c.toNat := by
    rw [begun] at h
    split at h
    · simp at h
    · next d hd =>
      obtain rfl : c = d := by simpa using h
      exact toNat_of_lead hd
    · cases h
  cases e with
  | lead => exact hbegun h
  | tail left least value =>
    simp only [advance] at h
    split at h
    · exact hbegun (by simpa using h)
    · cases h
    · next t ht =>
      have hs : scalar? least (value * 64 + t) = some c := by simpa [eq_comm] using h
      rw [scalar?] at hs
      split at hs
      · next hv =>
        cases hs
        rw [toNat_ofNat hv.2] at hc
        have hleast : 0x80 ≤ least := he
        omega
      · cases hs

theorem byte_of_mem_signsFrom (hc : c.toNat < 0x80) (he : e.Long) (h : some c ∈ signsFrom e bs) :
    c.toNat.toUInt8 ∈ bs := by
  induction bs generalizing e with
  | nil => cases e <;> simp [signsFrom] at h
  | cons b bs ih =>
    have hsplit : signsFrom e (b :: bs) = (advance e b).1 ++ signsFrom (advance e b).2 bs := by
      cases e <;> rfl
    rw [hsplit, List.mem_append] at h
    rcases h with h | h
    · rw [← toNat_of_mem_advance hc he h]
      simp
    · exact .tail _ (ih (long_advance he b) h)

/-- Bytes stand for a text if each of its characters stands in them. -/
theorem decode_eq_some {t : Text} : decode bs = some t ↔ signs bs = t.map some := by
  rw [decode]
  generalize signs bs = cs
  induction cs generalizing t with
  | nil => cases t <;> simp
  | cons o cs ih =>
    cases o with
    | none => cases t <;> simp
    | some d =>
      cases t with
      | nil => simp [Option.bind_eq_some_iff]
      | cons e t => simp [Option.bind_eq_some_iff, ih, and_comm (a := cs = t.map some)]

theorem byte_of_mem_decode {t : Text} (h : decode bs = some t) (hc : c.toNat < 0x80) (hm : c ∈ t) :
    c.toNat.toUInt8 ∈ bs := by
  have hs : some c ∈ signs bs := by
    rw [decode_eq_some.mp h]
    exact List.mem_map_of_mem hm
  exact byte_of_mem_signsFrom (e := .lead) hc trivial hs

end Ascii

section Decoded

variable {b : UInt8} {bs : Bytes} {t : Text} {c : Char} {left least value : Nat}

/-- The last bytes of a character, as many as `k`. -/
def tails : Nat → Nat → Bytes
  | 0, _ => []
  | k + 1, n => (0x80 + n / 64 ^ k % 64).toUInt8 :: tails k n

theorem eq_toUInt8 {n : Nat} (h : b.toNat = n) : b = n.toUInt8 := by
  have hn := toNat_toUInt8 (h ▸ b.toNat_lt)
  exact UInt8.toNat_inj.mp (h.trans hn.symm)

theorem tail?_eq_some {x : Nat} (h : tail? b = some x) : x < 64 ∧ b = (0x80 + x).toUInt8 := by
  rw [tail?] at h
  split at h
  · next hb =>
    obtain rfl := Option.some.inj h
    exact ⟨by omega, eq_toUInt8 (by omega)⟩
  · cases h

theorem scalar?_eq_some {n : Nat} (h : scalar? least n = some c) : least ≤ n ∧ c.toNat = n := by
  rw [scalar?] at h
  split at h
  · next hn =>
    obtain rfl := Option.some.inj h
    exact ⟨hn.1, toNat_ofNat hn.2⟩
  · cases h

theorem exists_continuation (h : signsFrom (.tail left least value) bs = t.map some) :
    ∃ x rest, x < 64 ∧ bs = (0x80 + x).toUInt8 :: rest := by
  cases bs with
  | nil => cases t <;> simp [signsFrom] at h
  | cons b rest =>
    cases hx : tail? b with
    | none => cases t <;> simp [signsFrom, advance, hx] at h
    | some x =>
      obtain ⟨hlt, rfl⟩ := tail?_eq_some hx
      exact ⟨x, rest, hlt, rfl⟩

/-- Where a character has begun, what makes a text is the rest of that character, and what makes
the rest of the text. -/
theorem exists_tails (h : signsFrom (.tail left least value) bs = t.map some) :
    ∃ c u rest, t = c :: u ∧ bs = tails (left + 1) c.toNat ++ rest ∧
      c.toNat / 64 ^ (left + 1) = value ∧ least ≤ c.toNat ∧ signs rest = u.map some := by
  induction left generalizing value bs with
  | zero =>
    obtain ⟨x, rest, hx, rfl⟩ := exists_continuation h
    simp only [signsFrom, advance, tail?_byte hx, List.singleton_append] at h
    cases t with
    | nil => cases h
    | cons c u =>
      obtain ⟨hc, hu⟩ := List.cons.inj h
      obtain ⟨hl, hn⟩ := scalar?_eq_some hc
      have hlast : c.toNat / 64 ^ 0 % 64 = x := by
        rw [Nat.pow_zero, Nat.div_one]
        omega
      exact ⟨c, u, rest, rfl, by rw [tails, tails, hlast]; rfl, by omega, by omega, hu⟩
  | succ left ih =>
    obtain ⟨x, rest, hx, rfl⟩ := exists_continuation h
    rw [signsFrom_tail hx] at h
    obtain ⟨c, u, rest, rfl, rfl, hv, hl, hu⟩ := ih h
    have hnext : tails (left + 2) c.toNat = (0x80 + x).toUInt8 :: tails (left + 1) c.toNat := by
      rw [tails, hv, show (value * 64 + x) % 64 = x by omega]
    have hdiv : c.toNat / 64 ^ (left + 2) = value := by
      rw [Nat.pow_succ, ← Nat.div_div_eq_div_mul, hv]
      omega
    exact ⟨c, u, rest, rfl, by rw [hnext, List.cons_append], hdiv, hl, hu⟩

theorem encodeChar_of_lead (h : lead b = some (.inr (.tail left least value)))
    (hv : c.toNat / 64 ^ (left + 1) = value) (hl : least ≤ c.toNat) :
    encodeChar c = b :: tails (left + 1) c.toNat := by
  simp only [lead] at h
  split_ifs at h with h1 h2 h3 h4 h5 <;> cases h
  · have hb : b = (0xC0 + c.toNat / 64).toUInt8 := eq_toUInt8 (by omega)
    rw [encodeChar, if_neg (by omega), if_pos (by omega), ← hb]
    simp [tails]
  · have hb : b = (0xE0 + c.toNat / 4096).toUInt8 := eq_toUInt8 (by omega)
    rw [encodeChar, if_neg (by omega), if_neg (by omega), if_pos (by omega), ← hb]
    simp [tails]
  · have hb : b = (0xF0 + c.toNat / 262144).toUInt8 := eq_toUInt8 (by omega)
    rw [encodeChar, if_neg (by omega), if_neg (by omega), if_neg (by omega), ← hb]
    simp [tails]

theorem encodeChar_of_ascii (h : lead b = some (.inl c)) : encodeChar c = [b] := by
  have hn := toNat_of_lead h
  have hc : c.toNat < 0x80 := by
    simp only [lead] at h
    split at h
    · omega
    · split_ifs at h <;> cases h
  rw [encodeChar, if_pos hc, eq_toUInt8 hn]

/-- What makes a text is its first character, and what makes the rest of it. -/
theorem exists_character (h : signs (b :: bs) = t.map some) :
    ∃ c u rest, t = c :: u ∧ b :: bs = encodeChar c ++ rest ∧ signs rest = u.map some := by
  rw [signs, signsFrom, advance, begun] at h
  split at h
  · cases t <;> simp at h
  · next c hc =>
    cases t with
    | nil => cases h
    | cons d u =>
      obtain ⟨hd, hu⟩ := List.cons.inj h
      obtain rfl := Option.some.inj hd
      exact ⟨c, u, bs, rfl, by rw [encodeChar_of_ascii hc, List.singleton_append], hu⟩
  · next e he =>
    cases e with
    | lead =>
      simp only [lead] at he
      split_ifs at he <;> cases he
    | tail left least value =>
      obtain ⟨c, u, rest, rfl, rfl, hv, hl, hu⟩ := exists_tails h
      exact ⟨c, u, rest, rfl, by rw [encodeChar_of_lead he hv hl, List.cons_append], hu⟩

/-- Only the bytes of a text stand for it. -/
theorem encode_of_signs (h : signs bs = t.map some) : encode t = bs := by
  induction t generalizing bs with
  | nil =>
    cases bs with
    | nil => rfl
    | cons b bs =>
      obtain ⟨c, u, rest, hu, -⟩ := exists_character h
      cases hu
  | cons c t ih =>
    cases bs with
    | nil => cases h
    | cons b bs =>
      obtain ⟨d, u, rest, hu, hb, hr⟩ := exists_character h
      obtain ⟨rfl, rfl⟩ := List.cons.inj hu
      have he : encode (c :: t) = encodeChar c ++ encode t := rfl
      rw [he, ih hr, hb]

theorem decode_iff_encode : decode bs = some t ↔ bs = encode t :=
  ⟨fun h => (encode_of_signs (decode_eq_some.mp h)).symm, fun h => h ▸ decode_encode t⟩

end Decoded

end Guidebook.Utf8
