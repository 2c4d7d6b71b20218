import Guidebook.Input.Keyboard
import Guidebook.Proofs.Checked
import Mathlib.Data.List.Induction

namespace Guidebook

namespace Editing

variable {history : List Text} {e f : Editing} {k : Key} {ks : List Key}

/-- The editing after some keys, if none of them ends the line. -/
def typed (history : List Text) : Editing → List Key → Option Editing
  | e, [] => some e
  | e, k :: ks =>
    match e.press history k with
    | .goOn f => typed history f ks
    | _ => none

theorem control_cases {c : Char} (h : e.control c = .goOn f) :
    f.entry = e.entry ∧ f.draft = e.draft := by
  rw [control] at h
  split_ifs at h <;> cases h <;> exact ⟨rfl, rfl⟩

/-- A key leaves the place in the history as it is, or it is an arrow and goes to the entry before or
to the one behind. -/
theorem press_cases (h : e.press history k = .goOn f) :
    f.entry = e.entry ∧ f.draft = e.draft ∨
      k.code = .up ∧ 0 < e.entry ∧ f = e.older history ∨
      k.code = .down ∧ e.entry < history.length ∧ f = e.newer history := by
  obtain ⟨code, ctrl⟩ := k
  cases code with
  | enter => cases h
  | char c =>
    simp only [press] at h
    split at h
    · exact .inl (control_cases h)
    · cases h
      exact .inl ⟨rfl, rfl⟩
  | backspace | delete =>
    simp only [press] at h
    split at h <;> cases h <;> exact .inl ⟨rfl, rfl⟩
  | up =>
    simp only [press] at h
    split at h
    · next h0 => exact .inr (.inl ⟨rfl, h0, (KeyEffect.goOn.inj h).symm⟩)
    · cases h
      exact .inl ⟨rfl, rfl⟩
  | down =>
    simp only [press] at h
    split at h
    · next hl => exact .inr (.inr ⟨rfl, hl, (KeyEffect.goOn.inj h).symm⟩)
    · cases h
      exact .inl ⟨rfl, rfl⟩
  | left | right | home | last | other =>
    cases h
    exact .inl ⟨rfl, rfl⟩

theorem entry_press_le (he : e.entry ≤ history.length) (h : e.press history k = .goOn f) :
    f.entry ≤ history.length := by
  obtain ⟨hn, -⟩ | ⟨-, -, rfl⟩ | ⟨-, hl, rfl⟩ := press_cases h
  · exact hn ▸ he
  · exact Nat.le_trans (Nat.sub_le ..) he
  · exact hl

theorem typed_append (e : Editing) (ks ls : List Key) :
    e.typed history (ks ++ ls) = (e.typed history ks).bind (typed history · ls) := by
  induction ks generalizing e with
  | nil => rfl
  | cons k ks ih =>
    rw [List.cons_append, typed, typed]
    cases e.press history k with
    | goOn f => exact ih f
    | submit | cancel | endOfInput => rfl

theorem typed_cons (h : e.press history k = .goOn f) :
    e.typed history (k :: ks) = f.typed history ks := by rw [typed, h]

theorem typed_concat (h : e.typed history (ks ++ [k]) = some f) :
    ∃ d, e.typed history ks = some d ∧ d.press history k = .goOn f := by
  rw [typed_append] at h
  obtain ⟨d, hd, hf⟩ := Option.bind_eq_some_iff.mp h
  refine ⟨d, hd, ?_⟩
  rw [typed] at hf
  split at hf
  · next g hg => rw [hg, Option.some.inj hf]
  · cases hf

theorem entry_le_of_typed (he : e.entry ≤ history.length) (h : e.typed history ks = some f) :
    f.entry ≤ history.length := by
  induction ks using List.reverseRecOn generalizing f with
  | nil => exact Option.some.inj h ▸ he
  | append_singleton ks k ih =>
    obtain ⟨d, hd, hf⟩ := typed_concat h
    exact entry_press_le (ih hd) hf

end Editing

namespace EditLine

/-- A line with one more character, if its cursor is a place of the line. -/
def insert? (l : EditLine) (c : Char) : Option EditLine :=
  if l.cursor ≤ l.chars.length then some (l.insert c) else none

def removeAt? (l : EditLine) (i : Nat) : Option Text :=
  if i < l.chars.length then some (l.removeAt i) else none

def clearStart? (l : EditLine) : Option EditLine :=
  if l.cursor ≤ l.chars.length then some l.clearStart else none

end EditLine

namespace Editing

open Checked

variable {history : List Text} {e : Editing}

/-- The entry before, if there is one. -/
def older? (history : List Text) (e : Editing) : Option Editing := do
  let n ← difference? e.entry 1
  let t ← history[n]?
  return ⟨.ofText t, n, if e.entry = history.length then e.line.chars else e.draft⟩

/-- What a key does if every place that it uses is looked for first. -/
def press? (history : List Text) (e : Editing) (k : Key) : Option KeyEffect :=
  let l := e.line
  match k.code with
  | .char c =>
    if k.ctrl = false then (l.insert? c).map fun l => .goOn { e with line := l }
    else if c = 'u' then l.clearStart?.map fun l => .goOn { e with line := l }
    else some (e.control c)
  | .backspace =>
    if 0 < l.cursor then do
      let i ← difference? l.cursor 1
      return .goOn { e with line := ⟨← l.removeAt? i, i⟩ }
    else some (.goOn e)
  | .delete =>
    if l.cursor < l.chars.length then do
      return .goOn { e with line := ⟨← l.removeAt? l.cursor, l.cursor⟩ }
    else some (.goOn e)
  | .up => if 0 < e.entry then (e.older? history).map .goOn else some (.goOn e)
  | _ => some (e.press history k)

theorem control_clear (e : Editing) : e.control 'u' = .goOn { e with line := e.line.clearStart } := by
  simp [control]

theorem older?_eq (h0 : 0 < e.entry) (hn : e.entry ≤ history.length) :
    e.older? history = some (e.older history) := by
  have hd : difference? e.entry 1 = some (e.entry - 1) := difference?_eq h0
  have hlt : e.entry - 1 < history.length := by omega
  simp only [older?, hd, Option.bind_eq_bind, Option.bind_some, older,
    List.getElem?_eq_getElem hlt]
  rfl

/-- As long as the cursor stands in the line and the entry is one of the history or the draft, a key
finds every place that it uses. -/
theorem press?_eq (hc : e.line.cursor ≤ e.line.chars.length)
    (hn : e.entry ≤ history.length) (k : Key) : e.press? history k = some (e.press history k) := by
  obtain ⟨code, ctrl⟩ := k
  cases code with
  | char c =>
    cases ctrl with
    | true =>
      simp only [press?, press, Bool.true_eq_false, if_false, if_true]
      split
      · next hu =>
        rw [hu, control_clear, EditLine.clearStart?, if_pos hc]
        rfl
      · rfl
    | false => exact congrArg (Option.map _) (if_pos hc)
  | backspace =>
    simp only [press?, press]
    split
    · next h0 =>
      have hlt : e.line.cursor - 1 < e.line.chars.length := by omega
      rw [difference?_eq h0]
      simp [EditLine.removeAt?, hlt]
    · rfl
  | delete =>
    simp only [press?, press]
    split
    · next hlt => simp [EditLine.removeAt?, hlt]
    · rfl
  | up =>
    simp only [press?, press]
    split
    · next h0 =>
      rw [older?_eq h0 hn]
      rfl
    · rfl
  | _ => rfl

end Editing

/-- A line in two halves, what stands before the cursor and what stands behind it, and where it
stands in the history. -/
structure Halves where
  before : Text
  behind : Text
  entry : Nat
  draft : Text
  deriving DecidableEq, Repr

namespace Halves

def text (h : Halves) : Text := h.before ++ h.behind

def editing (h : Halves) : Editing := ⟨⟨h.text, h.before.length⟩, h.entry, h.draft⟩

def start (history : List Text) : Halves := ⟨[], [], history.length, []⟩

/-- The entry of the history that has a number, all of it before the cursor. Behind the entries
there is the draft. -/
def recalled (history : List Text) (n : Nat) (draft : Text) : Halves :=
  ⟨((history ++ [draft])[n]?).getD [], [], n, draft⟩

/-- What a key does to the halves, unless it ends the line. -/
def press (history : List Text) (h : Halves) (k : Key) : Halves :=
  match k.code with
  | .char c =>
    if k.ctrl = false then { h with before := h.before ++ [c] }
    else if c = 'u' then { h with before := [] }
    else if c = 'a' then { h with before := [], behind := h.text }
    else if c = 'e' then { h with before := h.text, behind := [] }
    else h
  | .backspace => { h with before := h.before.dropLast }
  | .delete => { h with behind := h.behind.tail }
  | .left =>
    { h with before := h.before.dropLast, behind := h.before.getLast?.toList ++ h.behind }
  | .right => { h with before := h.before ++ h.behind.head?.toList, behind := h.behind.tail }
  | .home => { h with before := [], behind := h.text }
  | .last => { h with before := h.text, behind := [] }
  | .up =>
    if h.entry = 0 then h
    else recalled history (h.entry - 1) (if h.entry = history.length then h.text else h.draft)
  | .down => if h.entry = history.length then h else recalled history (h.entry + 1) h.draft
  | .enter | .other => h

/-- The keys that end a line, and how. -/
def ending? (h : Halves) (k : Key) : Option KeyEffect :=
  if k.code = .enter then some .submit
  else if k = ⟨.char 'c', true⟩ then some .cancel
  else if k = ⟨.char 'd', true⟩ ∧ h.text = [] then some .endOfInput
  else none

variable {history : List Text} (h : Halves)

theorem insert_editing (c : Char) :
    h.editing.line.insert c = { h with before := h.before ++ [c] }.editing.line := by
  simp [EditLine.insert, editing, text]

theorem clearStart_editing : h.editing.line.clearStart = { h with before := [] }.editing.line := by
  simp [EditLine.clearStart, editing, text]

theorem toStart_editing :
    h.editing.line.toStart = { h with before := [], behind := h.text }.editing.line := by
  simp [EditLine.toStart, editing, text]

theorem toEnd_editing :
    h.editing.line.toEnd = { h with before := h.text, behind := [] }.editing.line := by
  simp [EditLine.toEnd, editing, text]

theorem backspace_editing (hb : 0 < h.before.length) :
    EditLine.mk (h.editing.line.removeAt (h.before.length - 1)) (h.before.length - 1) =
      { h with before := h.before.dropLast }.editing.line := by
  have hlt : h.before.length - 1 < h.before.length := by omega
  simp [EditLine.removeAt, editing, text, List.eraseIdx_append_of_lt_length hlt,
    List.eraseIdx_length_sub_one]

theorem delete_editing :
    EditLine.mk (h.editing.line.removeAt h.before.length) h.before.length =
      { h with behind := h.behind.tail }.editing.line := by
  simp [EditLine.removeAt, editing, text, List.eraseIdx_append_of_length_le (Nat.le_refl _)]

theorem left_editing :
    EditLine.mk h.text (h.before.length - 1) = { h with
      before := h.before.dropLast
      behind := h.before.getLast?.toList ++ h.behind }.editing.line := by
  rcases List.eq_nil_or_concat h.before with hb | ⟨t, c, hb⟩ <;> simp [editing, text, hb]

theorem right_editing :
    EditLine.mk h.text (min (h.before.length + 1) h.text.length) = { h with
      before := h.before ++ h.behind.head?.toList
      behind := h.behind.tail }.editing.line := by
  cases hb : h.behind with
  | nil => simp [editing, text, hb]
  | cons c t => simp [editing, text, hb]

theorem editing_recalled (n : Nat) (draft : Text) : (recalled history n draft).editing =
    ⟨.ofText (((history ++ [draft])[n]?).getD []), n, draft⟩ := by
  simp [recalled, editing, text, EditLine.ofText]

theorem older_editing (h0 : h.entry ≠ 0) (hn : h.entry ≤ history.length) :
    h.editing.older history = (recalled history (h.entry - 1)
      (if h.entry = history.length then h.text else h.draft)).editing := by
  rw [editing_recalled, List.getElem?_append_left (by omega)]
  rfl

theorem newer_editing (hn : h.entry < history.length) :
    h.editing.newer history = (recalled history (h.entry + 1) h.draft).editing := by
  have ht : ((history ++ [h.draft])[h.entry + 1]?).getD [] =
      (history[h.entry + 1]?).getD h.draft := by
    rcases Nat.lt_or_ge (h.entry + 1) history.length with hlt | hge
    · rw [List.getElem?_append_left hlt, List.getElem?_eq_getElem hlt]
      rfl
    · have heq : h.entry + 1 = history.length := by omega
      rw [heq, List.getElem?_concat_length, List.getElem?_eq_none (Nat.le_refl _)]
      rfl
  rw [editing_recalled, ht]
  rfl

theorem ending?_control (c : Char) : h.ending? ⟨.char c, true⟩ =
    if c = 'c' then some .cancel else if c = 'd' ∧ h.text = [] then some .endOfInput else none := by
  simp [ending?]

theorem control_editing (c : Char) :
    h.editing.control c = (h.ending? ⟨.char c, true⟩).getD
      (.goOn (h.press history ⟨.char c, true⟩).editing) := by
  rw [Editing.control, ending?_control]
  by_cases hc : c = 'c'
  · rw [if_pos hc, if_pos hc]
    rfl
  by_cases hd : c = 'd'
  · subst hd
    by_cases ht : h.text = [] <;> simp [ht, editing, press]
  rw [if_neg hc, if_neg hd, if_neg hc, if_neg (mt And.left hd), clearStart_editing,
    toStart_editing, toEnd_editing]
  simp only [press, Bool.true_eq_false, if_false]
  split_ifs <;> rfl

/-- A key does to a line what it does to the halves of it. -/
theorem press_editing (hn : h.entry ≤ history.length) (k : Key) :
    h.editing.press history k = (h.ending? k).getD (.goOn (h.press history k).editing) := by
  obtain ⟨code, ctrl⟩ := k
  cases code with
  | enter => rfl
  | char c =>
    cases ctrl with
    | true => exact h.control_editing c
    | false =>
      have hnone : h.ending? ⟨.char c, false⟩ = none := by simp [ending?]
      rw [hnone]
      show KeyEffect.goOn ⟨h.editing.line.insert c, h.entry, h.draft⟩ = _
      rw [insert_editing]
      rfl
  | backspace =>
    show (if 0 < h.before.length then KeyEffect.goOn ⟨⟨h.editing.line.removeAt (h.before.length - 1),
      h.before.length - 1⟩, h.entry, h.draft⟩ else .goOn h.editing) =
      .goOn { h with before := h.before.dropLast }.editing
    split
    · next hb =>
      rw [backspace_editing h hb]
      rfl
    · next hb =>
      obtain hb : h.before = [] := List.length_eq_zero_iff.mp (by omega)
      simp [editing, text, hb]
  | delete =>
    show (if h.before.length < h.text.length then KeyEffect.goOn ⟨⟨h.editing.line.removeAt
      h.before.length, h.before.length⟩, h.entry, h.draft⟩ else .goOn h.editing) =
      .goOn { h with behind := h.behind.tail }.editing
    split
    · rw [delete_editing]
      rfl
    · next hb =>
      obtain hb : h.behind = [] := by simpa [text] using hb
      simp [editing, text, hb]
  | left =>
    show KeyEffect.goOn ⟨⟨h.text, h.before.length - 1⟩, h.entry, h.draft⟩ = _
    rw [left_editing]
    rfl
  | right =>
    show KeyEffect.goOn ⟨⟨h.text, min (h.before.length + 1) h.text.length⟩, h.entry, h.draft⟩ = _
    rw [right_editing]
    rfl
  | home =>
    show KeyEffect.goOn ⟨h.editing.line.toStart, h.entry, h.draft⟩ = _
    rw [toStart_editing]
    rfl
  | last =>
    show KeyEffect.goOn ⟨h.editing.line.toEnd, h.entry, h.draft⟩ = _
    rw [toEnd_editing]
    rfl
  | up =>
    show (if 0 < h.entry then KeyEffect.goOn (h.editing.older history) else .goOn h.editing) =
      .goOn (if h.entry = 0 then h else recalled history (h.entry - 1)
        (if h.entry = history.length then h.text else h.draft)).editing
    by_cases h0 : h.entry = 0
    · rw [if_pos h0, if_neg (by omega)]
    · rw [if_neg h0, if_pos (Nat.pos_of_ne_zero h0), older_editing h h0 hn]
  | down =>
    show (if h.entry < history.length then KeyEffect.goOn (h.editing.newer history)
      else .goOn h.editing) =
      .goOn (if h.entry = history.length then h else recalled history (h.entry + 1) h.draft).editing
    by_cases hl : h.entry = history.length
    · rw [if_pos hl, if_neg (by omega)]
    · rw [if_neg hl, if_pos (by omega), newer_editing h (by omega)]
  | other => rfl

variable {h}

/-- A key that does not end the line leads from halves to halves of an entry that is there. -/
theorem press_eq_goOn (hn : h.entry ≤ history.length) {k : Key}
    (hk : h.ending? k = none) :
    h.editing.press history k = .goOn (h.press history k).editing ∧
      (h.press history k).entry ≤ history.length := by
  have hp : h.editing.press history k = .goOn (h.press history k).editing := by
    rw [press_editing h hn, hk]
    rfl
  exact ⟨hp, Editing.entry_press_le (e := h.editing) hn hp⟩

theorem ending?_eq_some {k : Key} {f : KeyEffect} (hf : h.ending? k = some f) :
    k.code = .enter ∧ f = .submit ∨ k = ⟨.char 'c', true⟩ ∧ f = .cancel ∨
      k = ⟨.char 'd', true⟩ ∧ h.text = [] ∧ f = .endOfInput := by
  rw [ending?] at hf
  split at hf
  · next hk => exact .inl ⟨hk, (Option.some.inj hf).symm⟩
  split at hf
  · next hk => exact .inr (.inl ⟨hk, (Option.some.inj hf).symm⟩)
  split at hf
  · next hk => exact .inr (.inr ⟨hk.1, hk.2, (Option.some.inj hf).symm⟩)
  · cases hf

/-- The halves after some keys, if none of them ends the line. -/
def typed (history : List Text) : Halves → List Key → Option Halves
  | h, [] => some h
  | h, k :: ks => if h.ending? k = none then typed history (h.press history k) ks else none

/-- What comes of keys that are pressed: what is heard, and the keys that are left. -/
inductive Reading (history : List Text) (h : Halves) : List Key → Heard → List Key → Prop
  | entered {ks rest : List Key} {k : Key} {l : Halves} (ht : h.typed history ks = some l)
    (hk : k.code = .enter) : Reading history h (ks ++ k :: rest) (.line l.text) rest
  | abandoned {ks rest : List Key} {l : Halves} (ht : h.typed history ks = some l) :
    Reading history h (ks ++ ⟨.char 'c', true⟩ :: rest) (.line []) rest
  | closed {ks rest : List Key} {l : Halves} (ht : h.typed history ks = some l)
    (hl : l.text = []) : Reading history h (ks ++ ⟨.char 'd', true⟩ :: rest) .closed rest
  | unfinished {ks : List Key} {l : Halves} (ht : h.typed history ks = some l) :
    Reading history h ks .closed []

theorem typed_editing (hn : h.entry ≤ history.length) (ks : List Key) :
    h.editing.typed history ks = (h.typed history ks).map editing := by
  induction ks generalizing h with
  | nil => rfl
  | cons k ks ih =>
    cases hf : h.ending? k with
    | none =>
      obtain ⟨hp, hn'⟩ := press_eq_goOn hn hf
      rw [Editing.typed_cons hp, typed, if_pos hf]
      exact ih hn'
    | some f =>
      rw [Editing.typed, typed, press_editing h hn, hf]
      obtain ⟨-, rfl⟩ | ⟨-, rfl⟩ | ⟨-, -, rfl⟩ := ending?_eq_some hf <;> rfl

theorem Reading.cons {k : Key} (hk : h.ending? k = none) {ks rest : List Key} {heard : Heard}
    (hr : Reading history (h.press history k) ks heard rest) :
    Reading history h (k :: ks) heard rest := by
  have hcons {ls : List Key} {l : Halves} (ht : (h.press history k).typed history ls = some l) :
      h.typed history (k :: ls) = some l := by rw [typed, if_pos hk, ht]
  cases hr with
  | entered ht hk => exact .entered (hcons ht) hk
  | abandoned ht => exact .abandoned (hcons ht)
  | closed ht hl => exact .closed (hcons ht) hl
  | unfinished ht => exact .unfinished (hcons ht)

theorem reading_typeKeys (hn : h.entry ≤ history.length) (prompt : Text) (ks : List Key) :
    Reading history h ks (Keyboard.typeKeys history prompt h.editing ks).1
      (Keyboard.typeKeys history prompt h.editing ks).2.2 := by
  induction ks generalizing h with
  | nil => exact .unfinished rfl
  | cons k ks ih =>
    cases hf : h.ending? k with
    | none =>
      obtain ⟨hp, hn'⟩ := press_eq_goOn hn hf
      rw [Keyboard.typeKeys, hp]
      exact .cons hf (ih hn')
    | some f =>
      rw [Keyboard.typeKeys, press_editing h hn, hf]
      have ht : h.typed history [] = some h := rfl
      obtain ⟨hk, rfl⟩ | ⟨rfl, rfl⟩ | ⟨rfl, hl, rfl⟩ := ending?_eq_some hf
      · exact .entered ht hk
      · exact .abandoned ht
      · exact .closed ht hl

/-- Typed at a keyboard, a line is at any time what stands before the cursor and what stands behind it,
and each key does to it what it does to these halves. Cursor and entry are places of the line and of
the history, and no key looks for one that is not there. A line that is entered is heard as it
stands, and that the input is closed is heard only of the key for that, if nothing has been typed,
or if nobody presses a key any more. -/
theorem typed_halves (history : List Text) :
    (∀ ks, (Editing.start history).typed history ks =
      ((start history).typed history ks).map editing) ∧
    (∀ ks h, (start history).typed history ks = some h →
      h.editing.line.cursor ≤ h.editing.line.chars.length ∧ h.editing.entry ≤ history.length ∧
      ∀ k, h.editing.press? history k = some (h.editing.press history k)) ∧
    ∀ prompt ks, let r := Keyboard.read prompt ⟨history, ks⟩
      Reading history (start history) ks r.1 r.2.2.keys := by
  have hstart : (start history).entry ≤ history.length := Nat.le_refl _
  refine ⟨typed_editing hstart, fun ks h ht => ?_, fun prompt ks => reading_typeKeys hstart prompt ks⟩
  have hrun : (Editing.start history).typed history ks = some h.editing := by
    show (start history).editing.typed history ks = _
    rw [typed_editing hstart, ht]
    rfl
  have hn := Editing.entry_le_of_typed hstart hrun
  have hc : h.editing.line.cursor ≤ h.editing.line.chars.length := by simp [editing, text]
  exact ⟨hc, hn, Editing.press?_eq hc hn⟩

/-- Somebody types over an entry of the history, comes back to the draft and clears its beginning. -/
theorem typed_halves_cleared :
    let history := ["ls".toList, "df".toList]
    let ks : List Key := [.plain (.char 'a'), .plain (.char 'b'), .plain .left, .plain (.char 'c'),
      .plain .up, .plain .backspace, .plain .down, .plain .left, .control 'u', .control 'd']
    let h : Halves := ⟨[], ['b'], 2, "acb".toList⟩
    (start history).typed history ks = some h ∧
    (Editing.start history).typed history ks = some h.editing ∧
    h.editing.press? history (.plain .up) = some (h.editing.press history (.plain .up)) ∧
    Reading history (start history) (ks ++ [.plain .enter]) (.line ['b']) [] := by
  intro history ks h
  have ht : (start history).typed history ks = some h := by decide
  obtain ⟨hrun, hplaces, hread⟩ := typed_halves history
  refine ⟨ht, by rw [hrun, ht]; rfl, (hplaces ks h ht).2.2 _, ?_⟩
  exact hread "> ".toList (ks ++ [.plain .enter])

end Halves

end Guidebook
