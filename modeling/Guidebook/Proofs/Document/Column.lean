import Guidebook.Document.Basic
import Guidebook.Proofs.Document.Field
import Guidebook.Proofs.Document.Readers
import Guidebook.Proofs.Text.Utf8

namespace Guidebook.Document

theorem stripColumns_eq_drop {n : Nat} {l : Text} (h : n ≤ indent l) :
    stripColumns n l = l.drop n := by
  induction n generalizing l with
  | zero =>
    rw [List.drop_zero, stripColumns]
    simp
  | succ n ih =>
    cases l with
    | nil => simp [indent] at h
    | cons c cs =>
      have hc : Text.isBlank c = true := by
        by_contra hc
        simp [indent, hc] at h
      have hn : n ≤ indent cs := by simpa [indent, hc] using h
      rw [stripColumns, if_pos hc, List.drop_succ_cons, ih hn]

/-- The text of a block under a key at column `key`: its lines without the columns up to the one
behind the key, and blank lines empty. -/
def blockText (m : Chomp) (key : Nat) (ls : List Text) : Text :=
  Text.joinLines (m.trim (ls.map fun l => if Text.allBlank l then [] else l.drop (key + 1)))

theorem readBlock_eq_blockText (m : Chomp) (key : Nat) (c : Cursor) :
    (readBlock m key c).1 = blockText m key (c.inside key) := by
  have hlines : (c.inside key).map (bodyLine key) =
      (c.inside key).map fun l => if Text.allBlank l then [] else l.drop (key + 1) := by
    refine List.map_congr_left fun l hl => ?_
    have hu : under key l = true := List.mem_takeWhile_imp hl
    rw [bodyLine]
    split
    · rfl
    · next hb => exact stripColumns_eq_drop (lt_of_under hu (by simpa using hb))
  rw [readBlock_eq, hlines, blockText]

/-- A line of a list with a dash: the blanks before the dash, those behind it, and a field. -/
def marked (before behind field : Text) : Text := before ++ '-' :: (behind ++ field)

/-- The column of the key behind a dash. The blanks behind the dash count by their bytes. -/
def markedColumn (before behind : Text) : Nat := before.length + 1 + Utf8.size behind

theorem keyColumn_marked (before behind field : Text) :
    keyColumn before.length ('-' :: (behind ++ field)) field = markedColumn before behind := by
  have hdash : (Utf8.encodeChar '-').length = 1 := by decide
  rw [keyColumn, Utf8.size_cons, Utf8.size_append, hdash, markedColumn]
  omega

section Marked

variable {before behind field : Text} {f : Field} {m : Chomp}
  (hbefore : ∀ c ∈ before, Text.isBlank c = true)

section Dash

include hbefore

theorem indent_marked : indent (marked before behind field) = before.length := by
  rw [indent, marked, List.takeWhile_append_of_pos hbefore, List.takeWhile_cons_of_neg (by decide),
    List.append_nil]

theorem trimStart_marked :
    Text.trimStart (marked before behind field) = '-' :: (behind ++ field) := by
  rw [marked, Text.trimStart_append_of_blank hbefore]
  rfl

theorem isComment_marked : isComment (marked before behind field) = false := by
  rw [isComment, trimStart_marked hbefore]
  rfl

end Dash

theorem allBlank_marked : Text.allBlank (marked before behind field) = false := by
  have hdash : Text.isBlank '-' = false := by decide
  simp [Text.allBlank, marked, hdash]

variable (hbehind : ∀ c ∈ behind, Text.isBlank c = true) (hne : behind ≠ [])

include hbehind hne in
theorem afterDash?_marked : afterDash? ('-' :: (behind ++ field)) = some (behind ++ field) := by
  obtain ⟨c, cs, rfl⟩ := List.exists_cons_of_ne_nil hne
  have hc : startsBlank (c :: cs ++ field) = true := hbehind c List.mem_cons_self
  rw [afterDash?, if_pos hc]

variable (hf : Field.ofText? field = some f)

include hf

theorem readField_scalar (hv : Chomp.ofValue? f.value = none) (d : Draft) (key : Nat) (c : Cursor) :
    readField d key field c = (d.set f.key (unquote f.value), c) := by
  rw [readField, hf]
  simp only [readValue, hv]

theorem readField_block (hm : Chomp.ofValue? f.value = some m) (d : Draft) (key : Nat) (c : Cursor) :
    readField d key field c =
      (d.set f.key (blockText m key (c.inside key)), (readBlock m key c).2) := by
  rw [readField, hf, ← readBlock_eq_blockText]
  simp only [readValue, hm]

include hbehind

theorem trimStart_behind : Text.trimStart (behind ++ field) = field := by
  obtain ⟨c, cs, rfl, hc⟩ := Field.exists_cons hf
  rw [Text.trimStart_append_of_blank hbehind]
  exact List.dropWhile_cons_of_neg (by simp [not_isBlank_of_isKeyChar hc])

include hbefore hne

theorem entryStep_marked (open? : Option Draft) (c : Cursor) :
    entryStep open? (marked before behind field) c =
      (((open?.toList.map Draft.suggestion ++ ·),
        some (readField .empty (markedColumn before behind) field c).1),
        (readField .empty (markedColumn before behind) field c).2) := by
  have hnil : field.isEmpty = false := by
    obtain ⟨x, xs, rfl, -⟩ := Field.exists_cons hf
    rfl
  have hstart : startEntry before.length ('-' :: (behind ++ field)) (behind ++ field) c =
      readField .empty (markedColumn before behind) field c := by
    simp only [startEntry, trimStart_behind hbehind hf, hnil, keyColumn_marked, Bool.false_eq_true,
      if_false]
  simp only [entryStep, allBlank_marked, isComment_marked hbefore, indent_marked hbefore,
    trimStart_marked hbefore, afterDash?_marked hbehind hne, hstart, Bool.or_self,
    Bool.false_eq_true, if_false]

theorem onlyStep_marked (s : Draft × Bool) (c : Cursor) :
    onlyStep s (marked before behind field) c =
      ((id, (readField s.1 (markedColumn before behind) field c).1, true),
        (readField s.1 (markedColumn before behind) field c).2) := by
  simp only [onlyStep, allBlank_marked, isComment_marked hbefore, indent_marked hbefore,
    trimStart_marked hbefore, afterDash?_marked hbehind hne, trimStart_behind hbehind hf,
    keyColumn_marked, Bool.or_self, Bool.false_eq_true, if_false]

/-- Behind a dash, a block under a key is read up to the first line that is no deeper than the key,
without the columns up to the one behind the key. The column of the key is the one that its
characters give if the blanks behind the dash are of one byte each, and a later one if not. -/
theorem marked_block (hm : Chomp.ofValue? f.value = some m) {key : Nat}
    (hkey : key < before.length) {c : Cursor} {ls : List Text}
    (hc : c.upcoming = marked before behind field :: ls) :
    let column := markedColumn before behind
    let body := blockText m column (ls.takeWhile (under column))
    (∃ e : Cursor, e.upcoming = ls.dropWhile (under column) ∧
      (∀ open?, readEntries key open? c =
        (open?.toList.map Draft.suggestion ++
            (readEntries key (some (Draft.empty.set f.key body)) e).1,
          (readEntries key (some (Draft.empty.set f.key body)) e).2)) ∧
      ∀ draft seen, readOnly key draft seen c = readOnly key (draft.set f.key body) true e) ∧
    before.length + 1 + behind.length ≤ column ∧
    (column = before.length + 1 + behind.length ↔ ∀ x ∈ behind, x.toNat < 0x80) := by
  intro column body
  obtain ⟨d, ht, hd⟩ := Cursor.exists_take? hc
  have hl : under key (marked before behind field) = true :=
    under_of_lt (by rwa [indent_marked hbefore])
  have hbody : blockText m column (d.inside column) = body := by rw [Cursor.inside, hd]
  refine ⟨⟨(readBlock m column d).2, ?_, fun open? => ?_, fun draft seen => ?_⟩, ?_, ?_⟩
  · rw [(readBlock_local m column).rest, Cursor.outside, hd]
  · rw [readEntries_take? open? ht hl, entryStep_marked hbefore hbehind hne hf,
      readField_block hf hm, hbody]
  · rw [readOnly_take? (draft, seen) ht hl, onlyStep_marked hbefore hbehind hne hf,
      readField_block hf hm, hbody]
    rfl
  · exact Nat.add_le_add_left (Utf8.length_le_size behind) _
  · rw [← Utf8.size_eq_length]
    exact Nat.add_left_cancel_iff

end Marked

/-- A block behind a dash and a blank of one byte, and behind that a field. -/
theorem marked_block_tab :
    let c : Cursor := ⟨none, [marked "\u3000".toList "\t".toList "content: |+".toList,
      "     x".toList, [], "  kind: snippet".toList], 0⟩
    ∃ e : Cursor, e.upcoming = ["  kind: snippet".toList] ∧ ∀ open?, readEntries 0 open? c =
      (open?.toList.map Draft.suggestion ++
          (readEntries 0 (some (Draft.empty.set "content".toList " x\n".toList)) e).1,
        (readEntries 0 (some (Draft.empty.set "content".toList " x\n".toList)) e).2) := by
  intro c
  have hbefore : ∀ x ∈ "\u3000".toList, Text.isBlank x = true := List.all_eq_true.mp (by decide)
  have hbehind : ∀ x ∈ "\t".toList, Text.isBlank x = true := List.all_eq_true.mp (by decide)
  have hf : Field.ofText? "content: |+".toList = some ⟨"content".toList, "|+".toList⟩ := by decide
  have hkey : 0 < "\u3000".toList.length := by decide
  obtain ⟨⟨e, he, hentries, -⟩, -, -⟩ :=
    marked_block hbefore hbehind (by decide) hf (m := .keep) (by decide) hkey (c := c) rfl
  exact ⟨e, he, hentries⟩

/-- A document whose entry has a blank of two bytes behind its dash. -/
def wide : Text := "step: A\nsuggestions:\n  -\u00a0cmd: |\n     ls\n".toList

/-- The block is deeper than the column that the characters before its key give, and yet it is
lost. -/
theorem marked_block_wide :
    Text.lines wide = ["step: A".toList, "suggestions:".toList,
      marked "  ".toList "\u00a0".toList "cmd: |".toList, "     ls".toList] ∧
    blockText .drop (2 + 1 + 1) (["     ls".toList].takeWhile (under (2 + 1 + 1))) = "ls".toList ∧
    read wide = .ok [.step "A".toList, .suggestion ⟨.cmd, none, []⟩, .endOfStep] := by
  refine ⟨?_, ?_, ?_⟩ <;> decide +kernel

end Guidebook.Document
