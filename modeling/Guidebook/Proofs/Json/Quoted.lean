import Guidebook.Json.Printer
import Guidebook.Json.Reader

namespace Guidebook.Json

open Reader

/-- The reader after a text. -/
def Reader.feed (r : Reader) (t : Text) : Option Reader := t.foldlM Reader.step r

namespace Reader

variable {r r' : Reader} {c : Char} {t u : Text}

theorem feed_cons (h : r.step c = some r') : r.feed (c :: t) = r'.feed t := by
  rw [feed, List.foldlM_cons, h]
  rfl

theorem feed_append (h : r.feed t = some r') : r.feed (t ++ u) = r'.feed u := by
  rw [feed] at h
  rw [feed, List.foldlM_append, h]
  rfl

theorem feed_singleton (r : Reader) (c : Char) : r.feed [c] = r.step c := by
  rw [feed, List.foldlM_cons]
  cases r.step c <;> rfl

end Reader

variable {key : Bool} {seen : List Glyph} {stack : List Frame}

theorem hexValue?_digitChar {d : Nat} (h : d < 16) : hexValue? (Nat.digitChar d) = some d := by
  have hall : ∀ d < 16, hexValue? (Nat.digitChar d) = some d := by decide
  exact hall d h

/-- Two digits make the number of a control character. -/
theorem feed_control {c : Char} (h : c.toNat < 32) :
    (Reader.mk (.string key seen) stack).feed ("\\u00".toList ++
      [Nat.digitChar (c.toNat / 16), Nat.digitChar (c.toNat % 16)]) =
      some ⟨.string key (.char c :: seen), stack⟩ := by
  have hstart : (Reader.mk (.string key seen) stack).feed "\\u00".toList =
      some ⟨.hex key seen 1 0, stack⟩ := rfl
  have hhigh : (Reader.mk (.hex key seen 1 0) stack).step (Nat.digitChar (c.toNat / 16)) =
      some ⟨.hex key seen 0 (c.toNat / 16), stack⟩ := by
    simp [step, hexValue?_digitChar (show c.toNat / 16 < 16 by omega)]
  have hn : 16 * (c.toNat / 16) + c.toNat % 16 = c.toNat := Nat.div_add_mod _ _
  have hglyph : glyph c.toNat = .char c := by
    have hhalf : (isHighHalf c.toNat || isLowHalf c.toNat) = false := by
      simp [isHighHalf, isLowHalf]
      omega
    rw [glyph, hhalf, Char.ofNat_toNat]
    rfl
  have hlow : (Reader.mk (.hex key seen 0 (c.toNat / 16)) stack).step
      (Nat.digitChar (c.toNat % 16)) = some ⟨.string key (.char c :: seen), stack⟩ := by
    simp [step, hexValue?_digitChar (show c.toNat % 16 < 16 by omega), hn, hglyph]
  rw [feed_append hstart, feed_cons hhigh, feed_singleton, hlow]

/-- What stands for a character in a string is read as that character. -/
theorem feed_escape (c : Char) :
    (Reader.mk (.string key seen) stack).feed (escape c) =
      some ⟨.string key (.char c :: seen), stack⟩ := by
  rw [escape]
  split
  · next h => subst h; rfl
  split
  · next h => subst h; rfl
  split
  · next h => subst h; rfl
  split
  · next h => subst h; rfl
  split
  · next h => subst h; rfl
  split
  · next h => subst h; rfl
  split
  · next h => subst h; rfl
  split
  · next h => exact feed_control h
  · next hq hb _ _ _ _ _ hc =>
    rw [feed_singleton, step]
    simp only [if_neg hq, if_neg hb, if_neg hc]

theorem feed_escapes (t : Text) (seen : List Glyph) :
    (Reader.mk (.string key seen) stack).feed (t.flatMap escape) =
      some ⟨.string key ((t.map Glyph.char).reverse ++ seen), stack⟩ := by
  induction t generalizing seen with
  | nil => rfl
  | cons c t ih =>
    rw [List.flatMap_cons, feed_append (feed_escape c), ih]
    simp

theorem spell_chars (t : Text) : spell (t.map Glyph.char) = some t := by
  induction t with
  | nil => rfl
  | cons c t ih => simp [spell, ih]

/-- Behind the quotation mark that opens it, a quoted text is read up to the one that closes it. -/
theorem feed_quoted (t : Text) :
    (Reader.mk (.string key []) stack).feed (t.flatMap escape ++ ['"']) =
      putString key (t.map Glyph.char).reverse stack := by
  rw [feed_append (feed_escapes t []), feed_singleton, List.append_nil]
  rfl

theorem putString_value (t : Text) (stack : List Frame) :
    putString false (t.map Glyph.char).reverse stack = put (.str t) stack := by
  simp [putString, spell_chars]

theorem putString_key (t : Text) (done : List (Option Text × Json)) (stack : List Frame) :
    putString true (t.map Glyph.char).reverse (.members done :: stack) =
      some ⟨.colon, .member done (some t) :: stack⟩ := by
  simp [putString, spell_chars]

end Guidebook.Json
