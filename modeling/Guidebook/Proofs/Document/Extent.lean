import Guidebook.Proofs.Document.Stream

namespace Guidebook.Document

namespace Cursor

variable {c d : Cursor} {l : Text}

/-- Hands back a line, unless one is still pending. -/
def putBack? (l : Text) (c : Cursor) : Option Cursor :=
  if c.ahead = none then some (c.putBack l) else none

theorem putBack?_take? (h : c.take? = some (l, d)) : d.putBack? l = some (d.putBack l) :=
  if_pos (ahead_take? h)

/-- The lines that have been taken, and those still to come. -/
def total (c : Cursor) : Nat := c.number + c.upcoming.length

theorem number_take? (h : c.take? = some (l, d)) : d.number = c.number + 1 := by
  obtain ⟨_ | a, _ | ⟨b, r⟩, n⟩ := c <;>
    simp only [take?, Option.some.injEq, Prod.mk.injEq, reduceCtorEq] at h <;>
    obtain ⟨rfl, rfl⟩ := h <;> rfl

theorem total_take? (h : c.take? = some (l, d)) : d.total = c.total := by
  rw [total, total, number_take? h, upcoming_take? h, List.length_cons]
  omega

theorem total_putBack (h : c.take? = some (l, d)) : (d.putBack l).total = c.total := by
  have hn : (d.putBack l).number = c.number := by
    rw [putBack, number_take? h, Nat.add_sub_cancel]
  rw [total, total, hn, putBack_take? h]

end Cursor

variable {α σ : Type} {c d : Cursor} {l : Text} {key : Nat}

/-- A reader goes from line to line under a column; `f?` does the same, and breaks off where it
would hand back a line while one is pending. No line is lost in a step. -/
structure Returns (key : Nat) (last : σ → α)
    (step : σ → Text → Cursor → ((α → α) × σ) × Cursor) (f : σ → Cursor → α × Cursor)
    (f? : σ → Cursor → Option (α × Cursor)) : Prop where
  turns : Turns key last step f
  turns? (s : σ) (c : Cursor) : f? s c = match c.take? with
    | none => some (last s, c)
    | some (l, d) =>
      if under key l then
        let e := step s l d
        (f? e.1.2 e.2).map fun r => (e.1.1 r.1, r.2)
      else (d.putBack? l).map fun e => (last s, e)
  shorter (s : σ) (l : Text) (c : Cursor) (hl : under key l = true) :
    (step s l c).2.upcoming.length ≤ c.upcoming.length
  total (s : σ) (l : Text) (c : Cursor) : (step s l c).2.total = c.total

theorem Returns.run {last : σ → α} {step : σ → Text → Cursor → ((α → α) × σ) × Cursor}
    {f : σ → Cursor → α × Cursor} {f? : σ → Cursor → Option (α × Cursor)}
    (h : Returns key last step f f?) (s : σ) (c : Cursor) :
    f? s c = some (f s c) ∧ (f s c).2.total = c.total := by
  -- On the lines to come and not on a list: a step may take any number of them.
  induction hn : c.upcoming.length using Nat.strongRecOn generalizing s c with
  | ind n ih =>
    rw [h.turns s c, h.turns? s c]
    cases ht : c.take? with
    | none => exact ⟨rfl, rfl⟩
    | some p =>
      obtain ⟨l, d⟩ := p
      cases hl : under key l with
      | false =>
        simp only [hl, Bool.false_eq_true, if_false, Cursor.putBack?_take? ht, Option.map_some]
        exact ⟨trivial, Cursor.total_putBack ht⟩
      | true =>
        have hlt : (step s l d).2.upcoming.length < n := by
          have h1 := h.shorter s l d hl
          have h2 := Cursor.length_take? ht
          omega
        obtain ⟨hr, htotal⟩ := ih _ hlt (step s l d).1.2 (step s l d).2 rfl
        simp only [hl, if_true, hr, Option.map_some]
        exact ⟨trivial, htotal.trans ((h.total s l d).trans (Cursor.total_take? ht))⟩

-- The readers once more, each failing where it would hand back a line while one is pending.

section Block

def blockLines? (key : Nat) (c : Cursor) : Option (List Text × Cursor) :=
  match _ : c.take? with
  | none => some ([], c)
  | some (l, d) =>
    if Text.allBlank l then (blockLines? key d).map fun r => ([] :: r.1, r.2)
    else if indent l ≤ key then (d.putBack? l).map fun e => ([], e)
    else (blockLines? key d).map fun r => (stripColumns (key + 1) l :: r.1, r.2)
termination_by c.upcoming.length
decreasing_by all_goals exact Cursor.length_take? ‹_›

def blockStep (key : Nat) (_ : Unit) (l : Text) (c : Cursor) :
    ((List Text → List Text) × Unit) × Cursor := (((bodyLine key l :: ·), ()), c)

theorem blockLines_returns (key : Nat) :
    Returns key (fun _ => []) (blockStep key) (fun _ => blockLines key)
      (fun _ => blockLines? key) where
  turns _ c := by
    change blockLines key c = _
    rw [blockLines]
    split
    · next h => simp only [h]
    · next l d h =>
      simp only [h, ite_blank_indent, blockStep, bodyLine]
      by_cases hb : Text.allBlank l = true <;> simp only [hb, if_true, if_false, Bool.false_eq_true]
  turns? _ c := by
    rw [blockLines?]
    split
    · next h => simp only [h]
    · next l d h =>
      simp only [h, ite_blank_indent, blockStep, bodyLine]
      by_cases hb : Text.allBlank l = true <;> simp only [hb, if_true, if_false, Bool.false_eq_true]
  shorter _ _ _ _ := Nat.le_refl _
  total _ _ _ := rfl

def readBlock? (m : Chomp) (key : Nat) (c : Cursor) : Option (Text × Cursor) :=
  (blockLines? key c).map fun r => (Text.joinLines (m.trim r.1), r.2)

theorem readBlock?_eq (m : Chomp) (key : Nat) (c : Cursor) :
    readBlock? m key c = some (readBlock m key c) := by
  rw [readBlock?, ((blockLines_returns key).run () c).1]
  rfl

theorem total_readBlock (m : Chomp) (key : Nat) (c : Cursor) :
    (readBlock m key c).2.total = c.total := ((blockLines_returns key).run () c).2

end Block

section Value

def readValue? (key : Nat) (value : Text) (c : Cursor) : Option (Text × Cursor) :=
  match Chomp.ofValue? value with
  | some m => readBlock? m key c
  | none => some (unquote value, c)

theorem readValue?_eq (key : Nat) (value : Text) (c : Cursor) :
    readValue? key value c = some (readValue key value c) := by
  cases h : Chomp.ofValue? value <;> simp only [readValue?, readValue, h, readBlock?_eq]

theorem total_readValue (key : Nat) (value : Text) (c : Cursor) :
    (readValue key value c).2.total = c.total := by
  rw [readValue]
  split
  · exact total_readBlock ..
  · rfl

def readField? (d : Draft) (key : Nat) (t : Text) (c : Cursor) : Option (Draft × Cursor) :=
  match Field.ofText? t with
  | none => some (d, c)
  | some f => (readValue? key f.value c).map fun r => (d.set f.key r.1, r.2)

theorem readField?_eq (d : Draft) (key : Nat) (t : Text) (c : Cursor) :
    readField? d key t c = some (readField d key t c) := by
  cases h : Field.ofText? t <;>
    simp only [readField?, readField, h, readValue?_eq, Option.map_some]

theorem total_readField (d : Draft) (key : Nat) (t : Text) (c : Cursor) :
    (readField d key t c).2.total = c.total := by
  rw [readField]
  split
  · rfl
  · exact total_readValue ..

def entryStart? (indent : Nat) (marked rest : Text) (c : Cursor) : Option (Draft × Cursor) :=
  let field := Text.trimStart rest
  if field.isEmpty then some (.empty, c)
  else readField? .empty (keyColumn indent marked field) field c

theorem entryStart?_eq (indent : Nat) (marked rest : Text) (c : Cursor) :
    entryStart? indent marked rest c = some (startEntry indent marked rest c) := by
  simp only [entryStart?, startEntry, readField?_eq]
  split <;> rfl

theorem total_startEntry (indent : Nat) (marked rest : Text) (c : Cursor) :
    (startEntry indent marked rest c).2.total = c.total := by
  rw [startEntry]
  split
  · rfl
  · exact total_readField ..

end Value

section Entries

def readEntries? (key : Nat) (open? : Option Draft) (c : Cursor) :
    Option (List Suggestion × Cursor) :=
  match _ : c.take? with
  | none => some (open?.toList.map Draft.suggestion, c)
  | some (l, d) =>
    if Text.allBlank l then readEntries? key open? d
    else if indent l ≤ key then
      (d.putBack? l).map fun e => (open?.toList.map Draft.suggestion, e)
    else if isComment l then readEntries? key open? d
    else
      let t := Text.trimStart l
      match afterDash? t with
      | some rest =>
        (entryStart? (indent l) t rest d).pbind fun e _ =>
          (readEntries? key (some e.1) e.2).map fun r =>
            (open?.toList.map Draft.suggestion ++ r.1, r.2)
      | none =>
        match open? with
        | none => readEntries? key none d
        | some draft =>
          (readField? draft (indent l) t d).pbind fun e _ => readEntries? key (some e.1) e.2
termination_by c.upcoming.length
decreasing_by
  all_goals have := Cursor.length_take? ‹_›
  · exact this
  · exact this
  · next he =>
    rw [entryStart?_eq, Option.some.injEq] at he
    exact he ▸ Nat.lt_of_le_of_lt (length_startEntry ..) this
  · exact this
  · next he =>
    rw [readField?_eq, Option.some.injEq] at he
    exact he ▸ Nat.lt_of_le_of_lt (length_readField ..) this

theorem total_entryStep (open? : Option Draft) (l : Text) (c : Cursor) :
    (entryStep open? l c).2.total = c.total := by
  unfold entryStep
  split
  · rfl
  cases afterDash? (Text.trimStart l) with
  | some rest => exact total_startEntry ..
  | none =>
    cases open? with
    | none => rfl
    | some draft => exact total_readField ..

theorem readEntries_returns (key : Nat) :
    Returns key (fun o => o.toList.map Draft.suggestion) entryStep (readEntries key)
      (readEntries? key) where
  turns := readEntries_turns key
  turns? open? c := by
    rw [readEntries?]
    split
    · next h => simp only [h]
    · next l d h =>
      simp only [h, ite_blank_indent]
      by_cases hb : Text.allBlank l = true
      · simp [entryStep, hb]
      by_cases hc : isComment l = true
      · simp [entryStep, hb, hc]
      cases ha : afterDash? (Text.trimStart l) <;> cases open? <;>
        simp [entryStep, hb, hc, ha, entryStart?_eq, readField?_eq]
  shorter open? _ c hl := (entryStep_within open? hl).shorter c
  total := total_entryStep

end Entries

section Only

def readOnly? (key : Nat) (draft : Draft) (seen : Bool) (c : Cursor) :
    Option (Option Draft × Cursor) :=
  match _ : c.take? with
  | none => some (if seen then some draft else none, c)
  | some (l, d) =>
    if Text.allBlank l then readOnly? key draft seen d
    else if indent l ≤ key then
      (d.putBack? l).map fun e => (if seen then some draft else none, e)
    else if isComment l then readOnly? key draft seen d
    else
      let t := Text.trimStart l
      let field? := match afterDash? t with
        | some rest =>
          let field := Text.trimStart rest
          readField? draft (keyColumn (indent l) t field) field d
        | none => readField? draft (indent l) t d
      field?.pbind fun e _ => readOnly? key e.1 true e.2
termination_by c.upcoming.length
decreasing_by
  all_goals have := Cursor.length_take? ‹_›
  · exact this
  · exact this
  · next he =>
    refine Nat.lt_of_le_of_lt ?_ this
    simp only [field?, readField?_eq] at he
    split at he <;> exact Option.some.inj he ▸ length_readField ..

theorem total_onlyStep (s : Draft × Bool) (l : Text) (c : Cursor) :
    (onlyStep s l c).2.total = c.total := by
  unfold onlyStep
  split
  · rfl
  cases afterDash? (Text.trimStart l) <;> exact total_readField ..

theorem readOnly_returns (key : Nat) :
    Returns key (fun s : Draft × Bool => if s.2 then some s.1 else none) onlyStep
      (fun s => readOnly key s.1 s.2) (fun s => readOnly? key s.1 s.2) where
  turns := readOnly_turns key
  turns? s c := by
    rw [readOnly?]
    split
    · next h => simp only [h]
    · next l d h =>
      simp only [h, ite_blank_indent]
      by_cases hb : Text.allBlank l = true
      · simp [onlyStep, hb]
      by_cases hc : isComment l = true
      · simp [onlyStep, hb, hc]
      cases ha : afterDash? (Text.trimStart l) <;> simp [onlyStep, hb, hc, ha, readField?_eq]
  shorter s _ c hl := (onlyStep_within s hl).shorter c
  total := total_onlyStep

end Only

section Lines

/-- What one line of a document does, if no line is handed back while another one is pending. -/
def lineStep? (step : Option Text) (l : Text) (c : Cursor) :
    Option ((List Record × Option Text) × Cursor) :=
  if Text.allBlank l || isComment l then some (([], step), c)
  else if isSeparator l then some ((closing step, none), c)
  else match Field.ofText? (Text.trimStart l) with
    | none => some (([], step), c)
    | some f =>
      match Keyword.ofKey? f.key with
      | some .step =>
        (readValue? (indent l) f.value c).map fun v =>
          ((closing step ++ [.step (oneLine v.1)], some []), v.2)
      | some .description =>
        (readValue? (indent l) f.value c).map fun v => (([], step.map fun _ => v.1), v.2)
      | some .list =>
        (readEntries? (indent l) none c).map fun r => ((within step r.1, step), r.2)
      | some .single =>
        (readOnly? (indent l) .empty false c).map fun r =>
          ((within step (r.1.toList.map Draft.suggestion), step), r.2)
      | none =>
        match Chomp.ofValue? f.value with
        | some m => (readBlock? m (indent l) c).map fun r => (([], step), r.2)
        | none => some (([], step), c)

theorem readEntries?_eq (key : Nat) (open? : Option Draft) (c : Cursor) :
    readEntries? key open? c = some (readEntries key open? c) :=
  ((readEntries_returns key).run open? c).1

theorem readOnly?_eq (key : Nat) (draft : Draft) (seen : Bool) (c : Cursor) :
    readOnly? key draft seen c = some (readOnly key draft seen c) :=
  ((readOnly_returns key).run (draft, seen) c).1

theorem lineStep?_eq (step : Option Text) (l : Text) (c : Cursor) :
    lineStep? step l c = some (lineStep step l c) := by
  unfold lineStep? lineStep
  split
  · rfl
  split
  · rfl
  cases Field.ofText? (Text.trimStart l) with
  | none => rfl
  | some f =>
    cases hk : Keyword.ofKey? f.key with
    | none =>
      cases hm : Chomp.ofValue? f.value <;> simp only [hk, hm, readBlock?_eq, Option.map_some]
    | some k =>
      cases k <;>
        simp only [hk, readValue?_eq, readEntries?_eq, readOnly?_eq, Option.map_some]

/-- The records of a document come line by line, in so many rounds. Each round leaves fewer lines
than it found. -/
inductive Rounds : Option Text → Cursor → Nat → List Record → Prop where
  | done (step : Option Text) (c : Cursor) (h : c.take? = none) : Rounds step c 0 (closing step)
  | round (step : Option Text) (c d : Cursor) (l : Text)
      (s : (List Record × Option Text) × Cursor) (n : Nat) (rs : List Record)
      (h : c.take? = some (l, d)) (hs : lineStep? step l d = some s)
      (hlt : s.2.upcoming.length < c.upcoming.length) (hr : Rounds s.1.2 s.2 n rs) :
      Rounds step c (n + 1) (s.1.1 ++ rs)

theorem exists_rounds (step : Option Text) (c : Cursor) :
    ∃ n ≤ c.upcoming.length, Rounds step c n (recordsFrom step c) := by
  induction hn : c.upcoming.length using Nat.strongRecOn generalizing step c with
  | ind n ih =>
    cases ht : c.take? with
    | none =>
      rw [recordsFrom_end step (Cursor.take?_eq_none ht)]
      exact ⟨0, Nat.zero_le n, .done step c ht⟩
    | some p =>
      obtain ⟨l, d⟩ := p
      have hlt := lineStep_shorter step ht
      obtain ⟨k, hk, hr⟩ := ih _ (hn ▸ hlt) _ _ rfl
      rw [recordsFrom_take? step ht]
      exact ⟨k + 1, by omega, .round step c d l _ k _ ht (lineStep?_eq step l d) hlt hr⟩

end Lines

/-- A reader has taken the lines that stand under a key, and the first line that does not is next.
It has never handed back a line while another one was pending. -/
structure Reach (key : Nat) (c : Cursor) (r? : Option (α × Cursor)) (r : α × Cursor) : Prop where
  rest : r.2.upcoming = c.outside key
  next : r.2.take?.map Prod.fst = (c.outside key).head?
  number : r.2.number = c.number + (c.inside key).length
  checked : r? = some r

theorem Cursor.head?_upcoming (c : Cursor) : c.take?.map Prod.fst = c.upcoming.head? := by
  cases h : c.take? with
  | none => rw [take?_eq_none h]; rfl
  | some p => rw [upcoming_take? h]; rfl

theorem Local.reach {f : Cursor → α × Cursor} {f? : Cursor → Option (α × Cursor)}
    (h : Local key f) (hrun : f? c = some (f c) ∧ (f c).2.total = c.total) :
    Reach key c (f? c) (f c) where
  rest := h.rest c
  next := by rw [Cursor.head?_upcoming, h.rest]
  number := by
    have htotal := hrun.2
    have hlength := congrArg List.length (c.inside_append_outside key)
    rw [Cursor.total, Cursor.total, h.rest] at htotal
    rw [List.length_append] at hlength
    omega
  checked := hrun.1

/-- How far a reader reads depends on how deep the lines stand and on nothing else in them. Every
line of a document, with all that it takes along, leaves fewer lines than there were. -/
theorem readers_reach :
    (∀ key c, (∀ m, Reach key c (readBlock? m key c) (readBlock m key c)) ∧
      (∀ open?, Reach key c (readEntries? key open? c) (readEntries key open? c)) ∧
      ∀ draft seen, Reach key c (readOnly? key draft seen c) (readOnly key draft seen c)) ∧
    ∀ t, ∃ n ≤ (Text.lines t).length, Rounds none (.ofText t) n (recordsOf t) := by
  refine ⟨fun key c => ⟨fun m => ?_, fun open? => ?_, fun draft seen => ?_⟩, fun t => ?_⟩
  · exact (readBlock_local m key).reach ⟨readBlock?_eq m key c, total_readBlock m key c⟩
  · exact (readEntries_local key open?).reach ((readEntries_returns key).run open? c)
  · exact (readOnly_local key draft seen).reach ((readOnly_returns key).run (draft, seen) c)
  · exact exists_rounds none (.ofText t)

end Guidebook.Document
