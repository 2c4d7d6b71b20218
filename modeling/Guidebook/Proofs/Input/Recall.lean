import Guidebook.Proofs.Input.Editing

namespace Guidebook.Editing

variable {history : List Text} {d e f : Editing} {k : Key} {ks : List Key} {t : Text}

theorem press_up (hk : k.code = .up) (h0 : 0 < e.entry) :
    e.press history k = .goOn (e.older history) := by
  rw [press, hk]
  exact if_pos h0

theorem press_down (hk : k.code = .down) (hl : e.entry < history.length) :
    e.press history k = .goOn (e.newer history) := by
  rw [press, hk]
  exact if_pos hl

theorem press_up_first (hk : k.code = .up) (h0 : e.entry = 0) : e.press history k = .goOn e := by
  rw [press, hk]
  exact if_neg (by omega)

theorem press_down_draft (hk : k.code = .down) (hl : e.entry = history.length) :
    e.press history k = .goOn e := by
  rw [press, hk]
  exact if_neg (by omega)

theorem line_older (ht : history[e.entry - 1]? = some t) : (e.older history).line = .ofText t := by
  show EditLine.ofText ((history[e.entry - 1]?).getD []) = _
  rw [ht]
  rfl

theorem line_newer (ht : history[e.entry + 1]? = some t) : (e.newer history).line = .ofText t := by
  show EditLine.ofText ((history[e.entry + 1]?).getD e.draft) = _
  rw [ht]
  rfl

theorem line_newer_draft (hl : e.entry + 1 = history.length) :
    (e.newer history).line = .ofText e.draft := by
  show EditLine.ofText ((history[e.entry + 1]?).getD e.draft) = _
  rw [List.getElem?_eq_none (Nat.le_of_eq hl.symm)]
  rfl

/-- The keys lead away from the draft, the first by going to the newest entry, and not back. -/
inductive Away (history : List Text) (d : Editing) : List Key → Editing → Prop
  | leave {k : Key} {e : Editing} (hd : d.entry = history.length) (hk : k.code = .up)
    (h : d.press history k = .goOn e) (he : e.entry < history.length) : Away history d [k] e
  | stay {ks : List Key} {k : Key} {e f : Editing} (ha : Away history d ks e)
    (h : e.press history k = .goOn f) (hf : f.entry < history.length) :
    Away history d (ks ++ [k]) f

/-- As long as they lead away from it, what was typed there is the draft. -/
theorem Away.draft (ha : Away history d ks e) :
    e.entry < history.length ∧ e.draft = d.line.chars := by
  induction ha with
  | leave hd hk h he =>
    refine ⟨he, ?_⟩
    obtain ⟨hn, -⟩ | ⟨-, -, rfl⟩ | ⟨hk', -, -⟩ := press_cases h
    · omega
    · exact if_pos hd
    · rw [hk] at hk'
      cases hk'
  | stay ha h hf ih =>
    obtain ⟨hl, hdraft⟩ := ih
    refine ⟨hf, ?_⟩
    obtain ⟨-, hs⟩ | ⟨-, -, rfl⟩ | ⟨-, -, rfl⟩ := press_cases h
    · exact hs.trans hdraft
    · exact (if_neg (Nat.ne_of_lt hl)).trans hdraft
    · exact hdraft

/-- Who is at an entry of the history has left the draft and not come back since. -/
theorem exists_away (hd : d.entry = history.length) (h : d.typed history ks = some e)
    (he : e.entry < history.length) :
    ∃ ks₁ ks₂ c, ks = ks₁ ++ ks₂ ∧ d.typed history ks₁ = some c ∧ Away history c ks₂ e := by
  induction ks using List.reverseRecOn generalizing e with
  | nil =>
    obtain rfl : d = e := Option.some.inj h
    omega
  | append_singleton ks k ih =>
    obtain ⟨b, hb, hk⟩ := typed_concat h
    rcases Nat.lt_or_eq_of_le (entry_le_of_typed (Nat.le_of_eq hd) hb) with hlt | heq
    · obtain ⟨ks₁, ks₂, c, rfl, hc, ha⟩ := ih hb hlt
      exact ⟨ks₁, ks₂ ++ [k], c, List.append_assoc .., hc, ha.stay hk he⟩
    · obtain ⟨hn, -⟩ | ⟨hu, -, -⟩ | ⟨-, hl, -⟩ := press_cases hk
      · omega
      · exact ⟨ks, [k], b, rfl, hb, .leave heq hu hk he⟩
      · omega

/-- What is typed behind the entries of the history: the line, or the draft while an entry is
recalled. -/
def kept (history : List Text) (e : Editing) : Text :=
  if e.entry = history.length then e.line.chars else e.draft

theorem kept_older (h0 : 0 < e.entry) (hn : e.entry ≤ history.length) :
    (e.older history).kept history = e.kept history := by
  have hne : (e.older history).entry ≠ history.length := by
    show e.entry - 1 ≠ history.length
    omega
  rw [kept, if_neg hne]
  rfl

theorem kept_newer (hl : e.entry < history.length) :
    (e.newer history).kept history = e.kept history := by
  rw [kept, kept, if_neg (Nat.ne_of_lt hl)]
  split
  · next heq => exact congrArg EditLine.chars (line_newer_draft heq)
  · rfl

theorem typed_ups (hk : ∀ k ∈ ks, k.code = .up) (hn : e.entry ≤ history.length) :
    ∃ f, e.typed history ks = some f ∧ f.entry = e.entry - ks.length ∧
      f.kept history = e.kept history := by
  induction ks generalizing e with
  | nil => exact ⟨e, rfl, rfl, rfl⟩
  | cons k ks ih =>
    obtain ⟨hu, hks⟩ := List.forall_mem_cons.mp hk
    rcases Nat.eq_zero_or_pos e.entry with h0 | h0
    · obtain ⟨f, hf, hfe, hfk⟩ := ih hks hn
      refine ⟨f, by rw [typed_cons (press_up_first hu h0), hf], ?_, hfk⟩
      rw [hfe, h0, Nat.zero_sub, Nat.zero_sub]
    · have hn' : (e.older history).entry ≤ history.length := Nat.le_trans (Nat.sub_le ..) hn
      obtain ⟨f, hf, hfe, hfk⟩ := ih hks hn'
      refine ⟨f, by rw [typed_cons (press_up hu h0), hf], ?_, hfk.trans (kept_older h0 hn)⟩
      rw [hfe, List.length_cons]
      show e.entry - 1 - ks.length = e.entry - (ks.length + 1)
      omega

theorem typed_downs (hk : ∀ k ∈ ks, k.code = .down) (hn : e.entry ≤ history.length) :
    ∃ f, e.typed history ks = some f ∧ f.entry = min (e.entry + ks.length) history.length ∧
      f.kept history = e.kept history := by
  induction ks generalizing e with
  | nil => exact ⟨e, rfl, (Nat.min_eq_left hn).symm, rfl⟩
  | cons k ks ih =>
    obtain ⟨hd, hks⟩ := List.forall_mem_cons.mp hk
    rcases Nat.lt_or_eq_of_le hn with hl | hl
    · have hn' : (e.newer history).entry ≤ history.length := hl
      obtain ⟨f, hf, hfe, hfk⟩ := ih hks hn'
      refine ⟨f, by rw [typed_cons (press_down hd hl), hf], ?_, hfk.trans (kept_newer hl)⟩
      rw [hfe, List.length_cons]
      show min (e.entry + 1 + ks.length) _ = _
      omega
    · obtain ⟨f, hf, hfe, hfk⟩ := ih hks hn
      refine ⟨f, by rw [typed_cons (press_down_draft hd hl), hf], ?_, hfk⟩
      rw [hfe, List.length_cons]
      omega

theorem typed_round (hl : e.entry = history.length) {us ds : List Key}
    (hus : ∀ k ∈ us, k.code = .up) (hds : ∀ k ∈ ds, k.code = .down)
    (heq : us.length = ds.length) : ∃ f, e.typed history (us ++ ds) = some f ∧
      f.entry = history.length ∧ f.line.chars = e.line.chars := by
  obtain ⟨d, hd, hde, hdk⟩ := typed_ups hus (Nat.le_of_eq hl)
  have hdn : d.entry ≤ history.length := by omega
  obtain ⟨f, hf, hfe, hfk⟩ := typed_downs hds hdn
  have hfl : f.entry = history.length := by omega
  refine ⟨f, by rw [typed_append, hd]; exact hf, hfl, ?_⟩
  calc f.line.chars = f.kept history := (if_pos hfl).symm
    _ = e.kept history := hfk.trans hdk
    _ = e.line.chars := if_pos hl

/-- What the arrows bring back where some keys have led: an entry of the history as it is there, or
behind them what was typed there before the history was looked at. -/
structure Recalls (history : List Text) (ks : List Key) (e : Editing) : Prop where
  older : ∀ k : Key, k.code = .up → 0 < e.entry → ∃ f t, e.press history k = .goOn f ∧
    f.entry = e.entry - 1 ∧ history[f.entry]? = some t ∧ f.line = .ofText t
  newer : ∀ k : Key, k.code = .down → e.entry + 1 < history.length → ∃ f t,
    e.press history k = .goOn f ∧ f.entry = e.entry + 1 ∧ history[f.entry]? = some t ∧
    f.line = .ofText t
  back : ∀ k : Key, k.code = .down → e.entry + 1 = history.length → ∃ ks₁ ks₂ d f,
    ks = ks₁ ++ ks₂ ∧ (start history).typed history ks₁ = some d ∧ Away history d ks₂ e ∧
    e.press history k = .goOn f ∧ f.entry = history.length ∧ f.line = .ofText d.line.chars
  idle : ∀ k : Key, k.code = .up ∧ e.entry = 0 ∨ k.code = .down ∧ e.entry = history.length →
    e.press history k = .goOn e
  round : e.entry = history.length → ∀ us ds : List Key, (∀ k ∈ us, k.code = .up) →
    (∀ k ∈ ds, k.code = .down) → us.length = ds.length → ∃ f,
    e.typed history (us ++ ds) = some f ∧ f.entry = history.length ∧ f.line.chars = e.line.chars

theorem recalls (he : (start history).typed history ks = some e) : Recalls history ks e where
  older k hk h0 := by
    have hn := entry_le_of_typed (Nat.le_refl history.length) he
    have hlt : e.entry - 1 < history.length := by omega
    have ht := List.getElem?_eq_getElem hlt
    exact ⟨_, _, press_up hk h0, rfl, ht, line_older ht⟩
  newer k hk hl := by
    have ht := List.getElem?_eq_getElem hl
    exact ⟨_, _, press_down hk (Nat.lt_of_succ_lt hl), rfl, ht, line_newer ht⟩
  back k hk hl := by
    have hlt : e.entry < history.length := by omega
    obtain ⟨ks₁, ks₂, d, hks, hd, ha⟩ := exists_away rfl he hlt
    refine ⟨ks₁, ks₂, d, _, hks, hd, ha, press_down hk hlt, hl, ?_⟩
    rw [line_newer_draft hl, ha.draft.2]
  idle k hk := by
    rcases hk with ⟨hk, h0⟩ | ⟨hk, hl⟩
    · exact press_up_first hk h0
    · exact press_down_draft hk hl
  round hl _ _ hus hds heq := typed_round hl hus hds heq

/-- The arrows lose neither the history nor what is typed, whatever is typed over what they bring. -/
theorem typed_recalls (history : List Text) :
    (∀ prompt ks, (Keyboard.read prompt ⟨history, ks⟩).2.2.history = history) ∧
    ∀ ks e, (start history).typed history ks = some e → Recalls history ks e :=
  ⟨fun _ _ => rfl, fun _ _ he => recalls he⟩

/-- Somebody types over both entries of a history and comes back to what was typed before. -/
theorem typed_recalls_overtyped :
    let history := ["ls".toList, "df".toList]
    let ks : List Key := [.plain (.char 'x'), .plain .up, .plain (.char 'y'), .plain .up,
      .plain .backspace, .plain .down]
    let e : Editing := ⟨.ofText "df".toList, 1, ['x']⟩
    (start history).typed history ks = some e ∧ Recalls history ks e ∧
    e.press history (.plain .down) = .goOn ⟨.ofText ['x'], 2, ['x']⟩ := by
  intro history ks e
  have he : (start history).typed history ks = some e := by decide
  exact ⟨he, (typed_recalls history).2 ks e he, rfl⟩

end Guidebook.Editing
