import Guidebook.Document.Entry
import Guidebook.Proofs.Document.Reach

namespace Guidebook.Document

/-- What a block keeps of a line. -/
def bodyLine (key : Nat) (l : Text) : Text :=
  if Text.allBlank l then [] else stripColumns (key + 1) l

theorem blockLines_eq (key : Nat) (c : Cursor) :
    (blockLines key c).1 = (c.inside key).map (bodyLine key) ∧
      (blockLines key c).2.upcoming = c.outside key := by
  fun_induction blockLines key c with
  | case1 c h => simp [Cursor.inside, Cursor.outside, Cursor.take?_eq_none h]
  | case2 c l d h hb r ih =>
    have hl : under key l = true := under_of_blank hb
    rw [Cursor.inside_take? h hl, Cursor.outside_take? h hl, List.map_cons, bodyLine, if_pos hb]
    exact ⟨congrArg _ ih.1, ih.2⟩
  | case3 c l d h hb hi =>
    have hl : ¬ under key l = true := by simpa [under, hb] using hi
    have hu : (d.putBack l).upcoming = l :: d.upcoming := by
      rw [Cursor.putBack_take? h, Cursor.upcoming_take? h]
    rw [Cursor.inside, Cursor.outside, Cursor.upcoming_take? h, List.takeWhile_cons_of_neg hl,
      List.dropWhile_cons_of_neg hl]
    exact ⟨rfl, hu⟩
  | case4 c l d h hb hi r ih =>
    have hl : under key l = true := under_of_lt (Nat.lt_of_not_le hi)
    rw [Cursor.inside_take? h hl, Cursor.outside_take? h hl, List.map_cons, bodyLine, if_neg hb]
    exact ⟨congrArg _ ih.1, ih.2⟩

theorem readBlock_eq (m : Chomp) (key : Nat) (c : Cursor) :
    (readBlock m key c).1 = Text.joinLines (m.trim ((c.inside key).map (bodyLine key))) := by
  rw [readBlock, (blockLines_eq key c).1]

theorem readBlock_local (m : Chomp) (key : Nat) : Local key (readBlock m key) := by
  refine ⟨fun c => (blockLines_eq key c).2, fun c d h => ?_⟩
  rw [readBlock_eq, readBlock_eq, h]

theorem readValue_within (key : Nat) (value : Text) : Within key (readValue key value) := by
  cases h : Chomp.ofValue? value with
  | none =>
    have he : readValue key value = fun c => (unquote value, c) := by
      funext c
      rw [readValue, h]
    exact he ▸ Within.pure key _
  | some m =>
    have he : readValue key value = readBlock m key := by
      funext c
      rw [readValue, h]
    exact he ▸ (readBlock_local m key).within

theorem readField_within (d : Draft) (key : Nat) (t : Text) : Within key (readField d key t) := by
  cases h : Field.ofText? t with
  | none =>
    have he : readField d key t = fun c => (d, c) := by
      funext c
      rw [readField, h]
    exact he ▸ Within.pure key _
  | some f =>
    have he : readField d key t =
        fun c => (d.set f.key (readValue key f.value c).1, (readValue key f.value c).2) := by
      funext c
      rw [readField, h]
    exact he ▸ (readValue_within key f.value).map (d.set f.key)

theorem readValue_suffix (key : Nat) (value : Text) (c : Cursor) :
    (readValue key value c).2.upcoming <:+ c.upcoming := by
  rw [readValue]
  split
  · rw [(readBlock_local _ key).rest]
    exact List.dropWhile_suffix _
  · exact List.suffix_rfl

theorem readField_suffix (d : Draft) (key : Nat) (t : Text) (c : Cursor) :
    (readField d key t c).2.upcoming <:+ c.upcoming := by
  rw [readField]
  split
  · exact List.suffix_rfl
  · exact readValue_suffix ..

theorem indent_le_keyColumn (indent : Nat) (marked field : Text) :
    indent ≤ keyColumn indent marked field := Nat.le_add_right ..

theorem startEntry_within (indent : Nat) (marked rest : Text) :
    Within indent (startEntry indent marked rest) := by
  unfold startEntry
  by_cases h : (Text.trimStart rest).isEmpty = true
  · simp only [h, ↓reduceIte]
    exact Within.pure indent _
  · simp only [h]
    exact (readField_within ..).mono (indent_le_keyColumn ..)

/-- What one line under the key of a list does: it may end the open entry, and it leaves another
one open. -/
def entryStep (open? : Option Draft) (l : Text) (c : Cursor) :
    ((List Suggestion → List Suggestion) × Option Draft) × Cursor :=
  if Text.allBlank l || isComment l then ((id, open?), c)
  else match afterDash? (Text.trimStart l), open? with
    | some rest, _ =>
      let e := startEntry (indent l) (Text.trimStart l) rest c
      (((open?.toList.map Draft.suggestion ++ ·), some e.1), e.2)
    | none, none => ((id, none), c)
    | none, some draft =>
      let e := readField draft (indent l) (Text.trimStart l) c
      ((id, some e.1), e.2)

theorem entryStep_within {key : Nat} (open? : Option Draft) {l : Text} (hl : under key l = true) :
    Within key (entryStep open? l) := by
  unfold entryStep
  by_cases hb : (Text.allBlank l || isComment l) = true
  · simp only [hb, ↓reduceIte]
    exact Within.pure key _
  · have hb' : Text.allBlank l = false := by simp_all
    have hi := Nat.le_of_lt (lt_of_under hl hb')
    simp only [hb]
    cases ha : afterDash? (Text.trimStart l) with
    | some rest => exact ((startEntry_within ..).mono hi).map fun e => ((_ ++ ·), some e)
    | none =>
      cases open? with
      | none => exact Within.pure key _
      | some draft => exact ((readField_within ..).mono hi).map fun e => (id, some e)

theorem readEntries_turns (key : Nat) :
    Turns key (fun o => o.toList.map Draft.suggestion) entryStep (readEntries key) := by
  intro open? c
  rw [readEntries]
  split
  · next h => simp only [h]
  · next l d h =>
    simp only [h, ite_blank_indent]
    by_cases hb : Text.allBlank l = true
    · simp [entryStep, hb]
    by_cases hc : isComment l = true
    · simp [entryStep, hb, hc]
    cases ha : afterDash? (Text.trimStart l) <;> cases open? <;> simp [entryStep, hb, hc, ha]

theorem readEntries_loops (key : Nat) :
    Loops key (fun o => o.toList.map Draft.suggestion) entryStep (readEntries key) :=
  (readEntries_turns key).loops fun o _ hl => entryStep_within o hl

theorem readEntries_take? {key : Nat} (open? : Option Draft) {c d : Cursor} {l : Text}
    (h : c.take? = some (l, d)) (hl : under key l = true) :
    readEntries key open? c =
      ((entryStep open? l d).1.1 (readEntries key (entryStep open? l d).1.2 (entryStep open? l d).2).1,
        (readEntries key (entryStep open? l d).1.2 (entryStep open? l d).2).2) :=
  (readEntries_loops key).next open? c d l h hl

theorem readEntries_stop {key : Nat} (open? : Option Draft) {c : Cursor} (h : c.inside key = []) :
    (readEntries key open? c).1 = open?.toList.map Draft.suggestion ∧
      (readEntries key open? c).2.upcoming = c.upcoming :=
  (readEntries_loops key).stop open? c h

theorem readEntries_local (key : Nat) (open? : Option Draft) : Local key (readEntries key open?) :=
  (readEntries_loops key).local open?

/-- What one line under the key of a single suggestion does to what has been read of it. -/
def onlyStep (s : Draft × Bool) (l : Text) (c : Cursor) :
    ((Option Draft → Option Draft) × (Draft × Bool)) × Cursor :=
  if Text.allBlank l || isComment l then ((id, s), c)
  else
    let e := match afterDash? (Text.trimStart l) with
      | some rest =>
        readField s.1 (keyColumn (indent l) (Text.trimStart l) (Text.trimStart rest))
          (Text.trimStart rest) c
      | none => readField s.1 (indent l) (Text.trimStart l) c
    ((id, e.1, true), e.2)

theorem onlyStep_within {key : Nat} (s : Draft × Bool) {l : Text} (hl : under key l = true) :
    Within key (onlyStep s l) := by
  unfold onlyStep
  by_cases hb : (Text.allBlank l || isComment l) = true
  · simp only [hb, ↓reduceIte]
    exact Within.pure key _
  · have hb' : Text.allBlank l = false := by simp_all
    have hi := Nat.le_of_lt (lt_of_under hl hb')
    simp only [hb]
    cases ha : afterDash? (Text.trimStart l) with
    | some rest =>
      exact ((readField_within ..).mono (Nat.le_trans hi (indent_le_keyColumn ..))).map
        fun e => (id, e, true)
    | none => exact ((readField_within ..).mono hi).map fun e => (id, e, true)

theorem readOnly_turns (key : Nat) :
    Turns key (fun s : Draft × Bool => if s.2 then some s.1 else none) onlyStep
      (fun s => readOnly key s.1 s.2) := by
  intro s c
  change readOnly key s.1 s.2 c = _
  rw [readOnly]
  split
  · next h => simp only [h]
  · next l d h =>
    simp only [h, ite_blank_indent]
    by_cases hb : Text.allBlank l = true
    · simp [onlyStep, hb]
    by_cases hc : isComment l = true
    · simp [onlyStep, hb, hc]
    cases ha : afterDash? (Text.trimStart l) <;> simp [onlyStep, hb, hc, ha]

theorem readOnly_loops (key : Nat) :
    Loops key (fun s : Draft × Bool => if s.2 then some s.1 else none) onlyStep
      (fun s => readOnly key s.1 s.2) :=
  (readOnly_turns key).loops fun s _ hl => onlyStep_within s hl

theorem readOnly_take? {key : Nat} (s : Draft × Bool) {c d : Cursor} {l : Text}
    (h : c.take? = some (l, d)) (hl : under key l = true) :
    readOnly key s.1 s.2 c =
      ((onlyStep s l d).1.1
        (readOnly key (onlyStep s l d).1.2.1 (onlyStep s l d).1.2.2 (onlyStep s l d).2).1,
        (readOnly key (onlyStep s l d).1.2.1 (onlyStep s l d).1.2.2 (onlyStep s l d).2).2) :=
  (readOnly_loops key).next s c d l h hl

theorem readOnly_local (key : Nat) (draft : Draft) (seen : Bool) :
    Local key (readOnly key draft seen) :=
  (readOnly_loops key).local (draft, seen)

end Guidebook.Document
