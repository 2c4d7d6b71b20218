import Guidebook.Input.Keyboard
import Guidebook.Input.Pipe
import Guidebook.Proofs.Input.Plain
import Guidebook.Proofs.Message.Styled

namespace Guidebook

section Lacks

variable {c : Char} {history : List Text}

/-- The character is neither in the line nor in the draft. -/
structure Editing.Lacks (c : Char) (e : Editing) : Prop where
  line : c ∉ e.line.chars
  draft : c ∉ e.draft

namespace Editing

variable {e f : Editing}

theorem lacks_start (c : Char) (history : List Text) : (start history).Lacks c :=
  ⟨List.not_mem_nil, List.not_mem_nil⟩

theorem notMem_entry (hh : ∀ l ∈ history, c ∉ l) {d : Text} (hd : c ∉ d) (n : Nat) :
    c ∉ (history[n]?).getD d := by
  cases hn : history[n]? with
  | none => exact hd
  | some l => exact hh l (List.mem_of_getElem? hn)

theorem Lacks.older (he : e.Lacks c) (hh : ∀ l ∈ history, c ∉ l) : (e.older history).Lacks c := by
  refine ⟨notMem_entry hh List.not_mem_nil _, ?_⟩
  show c ∉ (if e.entry = history.length then e.line.chars else e.draft)
  split
  · exact he.line
  · exact he.draft

theorem Lacks.newer (he : e.Lacks c) (hh : ∀ l ∈ history, c ∉ l) : (e.newer history).Lacks c :=
  ⟨notMem_entry hh he.draft _, he.draft⟩

theorem Lacks.control (he : e.Lacks c) {d : Char} (h : e.control d = .goOn f) : f.Lacks c := by
  rw [Editing.control] at h
  split at h
  · cases h
  split at h
  · split at h
    · cases h
    · cases h
      exact he
  split at h
  · cases h
    exact ⟨fun hc => he.line (List.mem_of_mem_drop hc), he.draft⟩
  split at h
  · cases h
    exact ⟨he.line, he.draft⟩
  split at h
  · cases h
    exact ⟨he.line, he.draft⟩
  · cases h
    exact he

theorem Lacks.insert (he : e.Lacks c) {d : Char} (hd : d ≠ c) :
    Lacks c { e with line := e.line.insert d } := by
  refine ⟨fun hc => ?_, he.draft⟩
  rcases List.mem_append.mp hc with hc | hc
  · exact he.line (List.mem_of_mem_take hc)
  · rcases List.mem_cons.mp hc with hc | hc
    · exact hd hc.symm
    · exact he.line (List.mem_of_mem_drop hc)

/-- No key that is pressed brings a character in, unless it is that. -/
theorem Lacks.press (he : e.Lacks c) (hh : ∀ l ∈ history, c ∉ l) {k : Key}
    (hk : k.code ≠ .char c) (h : e.press history k = .goOn f) : f.Lacks c := by
  have hremoved (i n : Nat) : Lacks c { e with line := ⟨e.line.removeAt i, n⟩ } :=
    ⟨fun hc => he.line (List.mem_of_mem_eraseIdx hc), he.draft⟩
  obtain ⟨code, ctrl⟩ := k
  cases code with
  | enter => cases h
  | char d =>
    simp only [Editing.press] at h
    split at h
    · exact he.control h
    · cases h
      exact he.insert fun hd => hk (by rw [hd])
  | backspace =>
    simp only [Editing.press] at h
    split at h
    · cases h
      exact hremoved _ _
    · cases h
      exact he
  | delete =>
    simp only [Editing.press] at h
    split at h
    · cases h
      exact hremoved _ _
    · cases h
      exact he
  | up =>
    simp only [Editing.press] at h
    split at h
    · cases h
      exact he.older hh
    · cases h
      exact he
  | down =>
    simp only [Editing.press] at h
    split at h
    · cases h
      exact he.newer hh
    · cases h
      exact he
  | left | right | home | last | other =>
    cases h
    exact ⟨he.line, he.draft⟩

end Editing

namespace Keyboard

variable {ks : List Key} {e : Editing}

theorem lacks_typeKeys (hh : ∀ l ∈ history, c ∉ l) (he : e.Lacks c)
    (hk : ∀ k ∈ ks, k.code ≠ .char c) (prompt : Text) :
    (∀ l, (typeKeys history prompt e ks).1 = .line l → c ∉ l) ∧
    (typeKeys history prompt e ks).2.2 ⊆ ks := by
  induction ks generalizing e with
  | nil => exact ⟨fun _ hl => (by cases hl), List.Subset.refl _⟩
  | cons k ks ih =>
    rw [List.forall_mem_cons] at hk
    rw [typeKeys]
    have hrest : ks ⊆ k :: ks := List.subset_cons_self k ks
    split
    · exact ⟨fun l hl => Heard.line.inj hl ▸ he.line, hrest⟩
    · exact ⟨fun l hl => Heard.line.inj hl ▸ List.not_mem_nil, hrest⟩
    · exact ⟨fun _ hl => (by cases hl), hrest⟩
    · next f hf =>
      obtain ⟨hline, hleft⟩ := ih (he.press hh hk.1 hf) hk.2
      exact ⟨hline, List.Subset.trans hleft hrest⟩

end Keyboard

/-- As long as `P` holds of it, no line that a source reads has a line feed in it. -/
structure Source.Linewise {ι : Type} (src : Source ι) (P : ι → Prop) : Prop where
  line {p l : Text} {i : ι} (hi : P i) (h : (src.read p i).1 = .line l) : '\n' ∉ l
  read {p : Text} {i : ι} (hi : P i) : P (src.read p i).2.2

theorem Plain.linewise (bs : Bytes) : source.Linewise (· ⊆ chunks bs) where
  line {p l cs} hcs h := by
    cases cs with
    | nil => cases h
    | cons c cs => exact newline_notMem_hear (hcs List.mem_cons_self) h
  read {p cs} hcs := by
    cases cs with
    | nil => exact hcs
    | cons c cs => exact List.subset_of_cons_subset hcs

/-- No character is typed as a line feed. -/
theorem Key.code_ofChar (c : Char) : (ofChar c).code ≠ .char '\n' := by
  have hletter : ∀ n < 27, Char.ofNat (n + 96) ≠ '\n' := by decide
  intro h
  rw [ofChar] at h
  split at h
  · cases h
  split at h
  · cases h
  split at h
  · next hc =>
    rw [control] at h
    split at h
    · cases h
    split at h
    · cases h
    · exact hletter _ hc (KeyCode.char.inj h)
  · next hc =>
    obtain rfl : c = '\n' := KeyCode.char.inj h
    exact hc (by decide)

theorem Keyboard.linewise : source.Linewise fun b =>
    (∀ l ∈ b.history, '\n' ∉ l) ∧ ∀ k ∈ b.keys, k.code ≠ .char '\n' where
  line hb h := (lacks_typeKeys hb.1 (Editing.lacks_start _ _) hb.2 _).1 _ h
  read hb :=
    ⟨hb.1, fun k hk => hb.2 k ((lacks_typeKeys hb.1 (Editing.lacks_start _ _) hb.2 _).2 hk)⟩

end Lacks

/-- As long as `P` holds of it, a source brings no escape character in but with what appears while a
line is read, and that does not fade. -/
structure Source.Bare {ι : Type} (src : Source ι) (P : ι → Prop) : Prop where
  line {p l : Text} {i : ι} (hi : P i) (h : (src.read p i).1 = .line l) : l.Bare
  shown {p : Text} {i : ι} (hi : P i) (hp : p.Bare) : (src.read p i).2.1.Fades (src.read p i).2.1
  read {p : Text} {i : ι} (hi : P i) : P (src.read p i).2.2
  remember {l : Text} {i : ι} (hi : P i) (hl : l.Bare) : P (src.remember l i)
  skip {n : Nat} {i : ι} (hi : P i) : P (src.skip n i)
  behind {i : ι} (hi : P i) : (src.behind i).Bare

namespace Plain

theorem bare_hear {c : Bytes} {l : Text} (hc : c.Bare) (h : hear c = .line l) : l.Bare := by
  rw [hear] at h
  split at h
  · cases h
  · next t ht =>
    cases h
    exact (Utf8.bare_decode hc ht).of_subset fun _ => mem_of_mem_stripEnd

theorem bare_source : source.Bare fun cs => ∀ c ∈ cs, c.Bare where
  line {p l i} hi h := by
    cases i with
    | nil => cases h
    | cons c cs => exact bare_hear (hi c List.mem_cons_self) h
  shown {p i} hi hp := by
    cases i with
    | nil => exact hp.fades
    | cons c cs => exact hp.fades
  read {p i} hi := by
    cases i with
    | nil => exact hi
    | cons c cs => exact fun d hd => hi d (List.mem_cons_of_mem _ hd)
  remember hi _ := hi
  skip hi := hi
  behind _ := List.not_mem_nil

theorem bare_chunks {bs : Bytes} (h : bs.Bare) : ∀ c ∈ chunks bs, c.Bare := by
  intro c hc
  refine h.of_subset fun b hb => ?_
  rw [← flatten_chunks bs]
  exact List.mem_flatten_of_mem hc hb

end Plain

namespace Pipe

theorem line_subset (p : Pipe) : p.line.1 ⊆ p.bytes ∧ p.line.2.bytes ⊆ p.bytes := by
  rw [← line_append_bytes p]
  exact ⟨List.subset_append_left _ _, List.subset_append_right _ _⟩

theorem bare_source : source.Bare fun p => p.bytes.Bare where
  line {t l p} hp h := by
    change (read t p).1 = _ at h
    rw [read] at h
    split at h
    · cases h
    · exact Plain.bare_hear (hp.of_subset (line_subset p).1) h
  shown {t p} _ ht := by
    have hshown : (read t p).2.1 = t := by
      rw [read]
      split <;> rfl
    change Text.Fades (read t p).2.1 (read t p).2.1
    rw [hshown]
    exact ht.fades
  read {t p} hp := by
    change Bytes.Bare (read t p).2.2.bytes
    rw [read]
    split
    · exact hp
    · exact hp.of_subset (line_subset p).2
  remember hp _ := hp
  skip {n p} hp :=
    (hp.of_subset (List.subset_append_left p.held p.behind)).append
      (hp.of_subset fun _ hb => List.mem_append_right _ (List.mem_of_mem_drop hb))
  behind {p} hp := hp.of_subset (List.subset_append_right p.held p.behind)

end Pipe

/-- There is no escape character in the line and in the draft. -/
structure Editing.Bare (e : Editing) : Prop where
  line : e.line.chars.Bare
  draft : e.draft.Bare

namespace Editing

variable {history : List Text} {e f : Editing}

theorem bare_start (history : List Text) : (start history).Bare :=
  ⟨List.not_mem_nil, List.not_mem_nil⟩

theorem bare_iff_lacks : e.Bare ↔ e.Lacks '\x1b' :=
  ⟨fun h => ⟨h.line, h.draft⟩, fun h => ⟨h.line, h.draft⟩⟩

/-- No key that is pressed brings an escape character in, unless it is one. -/
theorem Bare.press (he : e.Bare) (hh : ∀ l ∈ history, l.Bare) {k : Key}
    (hk : k.code ≠ .char '\x1b') (h : e.press history k = .goOn f) : f.Bare :=
  bare_iff_lacks.mpr ((bare_iff_lacks.mp he).press hh hk h)

end Editing

namespace Keyboard

variable {history : List Text} {prompt : Text} {e : Editing} {ks : List Key}

theorem fades_column (n : Nat) : (column n).Fades (column n) :=
  Text.fades_letter (fun _ hc => .inl (Text.isDigit_of_mem_ofNat hc)) (.inl rfl)

theorem fades_redraw (hp : prompt.Bare) {l : EditLine} (hl : l.chars.Bare) :
    (redraw prompt l).Fades (redraw prompt l) := by
  have hclear : Text.Fades (esc ++ "2K".toList) (esc ++ "2K".toList) :=
    Text.fades_letter (t := ['2']) (by decide) (.inr rfl)
  have hwritten : Text.Fades (prompt ++ l.chars) (prompt ++ l.chars) := (hp.append hl).fades
  have hcursor (n : Nat) : (columnAfter n).Fades (columnAfter n) := fades_column _
  simpa [redraw] using (((fades_column 1).append hclear).append hwritten).append (hcursor _)

theorem bare_typeKeys (hh : ∀ l ∈ history, l.Bare) (he : e.Bare)
    (hk : ∀ k ∈ ks, k.code ≠ .char '\x1b') (prompt : Text) :
    (∀ l, (typeKeys history prompt e ks).1 = .line l → l.Bare) ∧
    (typeKeys history prompt e ks).2.2 ⊆ ks :=
  lacks_typeKeys hh (Editing.bare_iff_lacks.mp he) hk prompt

theorem fades_typeKeys (hh : ∀ l ∈ history, l.Bare) (hp : prompt.Bare) (he : e.Bare)
    (hk : ∀ k ∈ ks, k.code ≠ .char '\x1b') :
    (typeKeys history prompt e ks).2.1.Fades (typeKeys history prompt e ks).2.1 := by
  induction ks generalizing e with
  | nil => exact Text.Bare.fades List.not_mem_nil
  | cons k ks ih =>
    rw [List.forall_mem_cons] at hk
    rw [typeKeys]
    split
    · exact Text.Bare.fades (t := "\r\n".toList) (by decide)
    · exact Text.Bare.fades (t := "^C\r\n".toList) (by decide)
    · exact Text.Bare.fades (t := "\r\n".toList) (by decide)
    · next f hf =>
      have hf := he.press hh hk.1 hf
      exact (fades_redraw hp hf.line).append (ih hf hk.2)

theorem bare_source : source.Bare fun b =>
    (∀ l ∈ b.history, l.Bare) ∧ ∀ k ∈ b.keys, k.code ≠ .char '\x1b' where
  line {p l b} hb h := (bare_typeKeys hb.1 (Editing.bare_start _) hb.2 p).1 l h
  shown hb hp := hp.fades.append (fades_typeKeys hb.1 hp (Editing.bare_start _) hb.2)
  read {p b} hb :=
    ⟨hb.1, fun k hk => hb.2 k ((bare_typeKeys hb.1 (Editing.bare_start _) hb.2 p).2 hk)⟩
  remember {l b} hb hl := by
    show (∀ m ∈ (remember l b).history, m.Bare) ∧ ∀ k ∈ (remember l b).keys, k.code ≠ .char '\x1b'
    rw [remember]
    split
    · exact hb
    · refine ⟨fun m hm => ?_, hb.2⟩
      rcases List.mem_append.mp hm with hm | hm
      · exact hb.1 m hm
      · exact List.mem_singleton.mp hm ▸ hl
  skip hb := hb
  behind _ := List.not_mem_nil

end Keyboard

end Guidebook
