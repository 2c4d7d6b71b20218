import Guidebook.Proofs.FileTree.Bare
import Guidebook.Proofs.History.Stored
import Guidebook.Proofs.Message.Styled
import Guidebook.Proofs.Stash.Contents

namespace Guidebook

/-- There is no escape character in what is told of the failure. -/
def Fault.Bare (f : Fault) : Prop := f.what.Bare ∧ ∀ c ∈ f.causes, c.Bare

def Trouble.Bare : Trouble → Prop
  | .mistake m => m.message.Bare
  | .fault f => f.Bare

/-- There is no escape character in what is told of a failure, nor does any come into the files.
Anything may be printed. -/
structure Reply.Bare (r : Reply) : Prop where
  tree : r.tree.Bare
  fault {f : Fault} (h : r.result = .error f) : f.Bare

/-- Where no escape character comes in, none comes out but with what is printed. -/
structure Runner.Bare (r : Runner) : Prop where
  command {k : Nat} {c : Text} {input : Bytes} {t : FileTree} (hc : c.Bare) (hi : input.Bare)
    (ht : t.Bare) : (r.command k c input t).Bare
  editor {k : Nat} {path : Text} {input : Bytes} {t : FileTree} (hp : path.Bare) (hi : input.Bare)
    (ht : t.Bare) : (r.editor k path input t).Bare

/-- There is no escape character on the desk. -/
structure Desk.Bare (d : Desk) : Prop where
  tree : d.tree.Bare
  stash : d.stash.path.Bare
  scratch : d.scratch.Bare
  input : d.input.Bare

theorem Desk.Bare.withTree {d : Desk} (h : d.Bare) {t : FileTree} (ht : t.Bare) :
    Desk.Bare { d with tree := t } := ⟨ht, h.stash, h.scratch, h.input⟩

theorem IoFault.bare_message (e : IoFault) : e.message.Bare := by
  cases e <;> exact Text.bare_ofList (by decide)

theorem Fault.bare_ofIo (e : IoFault) : (ofIo e).Bare := ⟨e.bare_message, by simp [ofIo]⟩

namespace Json

variable {v : Json} {t : Text}

theorem bare_escape (c : Char) : (escape c).Bare := by
  have hdigit : ∀ d < 16, Nat.digitChar d ≠ '\x1b' := by decide
  unfold escape
  iterate 7 split; decide
  split
  · have hpair : Text.Bare [Nat.digitChar (c.toNat / 16), Nat.digitChar (c.toNat % 16)] :=
      (Text.Bare.cons List.not_mem_nil (hdigit _ (by omega))).cons (hdigit _ (by omega))
    exact Text.Bare.append (by decide) hpair
  · next hc =>
    refine Text.Bare.cons List.not_mem_nil ?_
    rintro rfl
    exact hc (by decide)

theorem bare_quote (t : Text) : (quote t).Bare := by
  have hescapes : Text.Bare (t.flatMap escape) := by
    refine Text.Bare.flatten fun u hu => ?_
    obtain ⟨c, -, rfl⟩ := List.mem_map.mp hu
    exact bare_escape c
  exact (hescapes.cons (by decide)).append (by decide)

/-- What writes a value down has no escape character in it, whatever the value. -/
theorem bare_written (h : Written v t) : t.Bare := by
  induction h with
  | word v t ht hv => exact fun hm => absurd (ht _ hm) (by decide)
  | str t => exact bare_quote t
  | arr ps hp ih =>
    have hitems : ∀ u ∈ ps.map (·.2), u.Bare := List.forall_mem_map.mpr ih
    exact ((Text.Bare.intercalate (by decide) hitems).cons (by decide)).append (by decide)
  | obj ms hb hm ih =>
    have hmembers : ∀ u ∈ ms.map Member.shown, u.Bare := by
      intro u hu
      obtain ⟨m, hm, rfl⟩ := List.mem_map.mp hu
      have hblanks : Text.Bare m.blanks := fun he => absurd (hb m hm _ he) (by decide)
      exact (hblanks.append (bare_quote m.key)).append ((ih m hm).cons (by decide))
    exact ((Text.Bare.intercalate (by decide) hmembers).cons (by decide)).append (by decide)
  | before c v t hc ht ih => exact ih.cons fun he => absurd (he ▸ hc) (by decide)
  | after c v t hc ht ih =>
    exact ih.append fun he => absurd (List.mem_singleton.mp he ▸ hc) (by decide)

end Json

namespace Stash

variable {s : Stash} {t u : FileTree}

theorem bare_inParent {f : FileTree → Except IoFault FileTree} (ht : t.Bare)
    (hf : ∀ t u, t.Bare → f t = .ok u → u.Bare) : (s.inParent t f).1.Bare := by
  have hparent : (s.makeParent t).1.Bare := ht.of_eq (bytes?_makeParent s t)
  rw [inParent]
  rcases hm : s.makeParent t with ⟨v, e | ⟨⟨⟩⟩⟩
  · rwa [hm] at hparent
  · rw [hm] at hparent
    dsimp only
    split
    · exact hparent
    · next u hu => exact hf v u hparent hu

theorem bare_read (ht : t.Bare) {c : Text} (h : s.read t = .ok c) : c.Bare := by
  rw [read] at h
  split at h
  · cases h
    exact List.not_mem_nil
  · exact ht.readText h

theorem bare_pasteInto (ht : t.Bare) {target : Text} {mode : PasteMode}
    (h : s.pasteInto target mode t = .ok u) : u.Bare := by
  rw [pasteInto] at h
  split at h
  · cases h
  · cases h
  next c hne hc =>
  have hbytes := Utf8.bare_encode (bare_read ht hc)
  cases mode with
  | overwrite => exact ht.write (Work.mapError_eq_ok.mp h) hbytes
  | append => exact ht.append (Work.mapError_eq_ok.mp h) hbytes

theorem bare_of_pasteInto {target : Text} {mode : PasteMode} {e : Trouble}
    (h : s.pasteInto target mode t = .error e) : e.Bare := by
  rw [pasteInto] at h
  split at h
  · cases h
    exact Fault.bare_ofIo _
  · cases h
    exact Text.bare_ofList (by decide)
  · cases mode with
    | overwrite | append =>
      obtain ⟨f, -, rfl⟩ := Work.mapError_eq_error.mp h
      exact Fault.bare_ofIo f

end Stash

namespace History

theorem bare_save (h : History) {t : FileTree} (ht : t.Bare) : (h.save t).1.Bare := by
  have hcontent : Bytes.Bare (Utf8.encode h.log.toJson.pretty) :=
    Utf8.bare_encode (Json.bare_written (Json.written_layout h.log.sound_toJson 0))
  rw [save]
  cases Path.parent? h.path with
  | none =>
    dsimp only
    split
    · exact ht
    · next u hu => exact ht.write hu hcontent
  | some p =>
    have hmade := ht.makePath p
    dsimp only
    rcases hm : t.makePath p with ⟨v, e | ⟨⟨⟩⟩⟩
    · rwa [hm] at hmade
    · rw [hm] at hmade
      dsimp only
      split
      · exact hmade
      · next u hu => exact FileTree.Bare.write hmade hu hcontent

end History

/-- There is no escape character in what happened, on the desk afterwards, and in what is told of a
failure. What came of it is so. -/
structure Worked.Bare {α : Type} (Q : α → Prop) (r : Worked α) : Prop where
  events : ∀ e ∈ r.events, e.Bare
  desk : r.desk.Bare
  ok {a : α} (h : r.result = .ok a) : Q a
  error {t : Trouble} (h : r.result = .error t) : t.Bare

namespace Worked

variable {α : Type} {Q : α → Prop} {es : List Said} {d : Desk}

theorem bare_ok (he : ∀ e ∈ es, e.Bare) (hd : d.Bare) {a : α} (ha : Q a) :
    Bare Q ⟨es, d, .ok a⟩ :=
  ⟨he, hd, fun h => Except.ok.inj h ▸ ha, nofun⟩

theorem bare_error (he : ∀ e ∈ es, e.Bare) (hd : d.Bare) {t : Trouble} (ht : t.Bare) :
    Bare Q (⟨es, d, .error t⟩ : Worked α) :=
  ⟨he, hd, nofun, fun h => Except.error.inj h ▸ ht⟩

end Worked

namespace Work

variable {α β : Type} {Q : α → Prop} {R : β → Prop} {w : Work α} {f : α → Work β}

/-- Done at a desk without escape characters, the work brings none in. -/
def Bare (Q : α → Prop) (w : Work α) : Prop := ∀ d, d.Bare → (w d).Bare Q

theorem bare_done {a : α} (h : Q a) : Bare Q (done a) :=
  fun _ hd => Worked.bare_ok (List.forall_mem_nil _) hd h

theorem bare_breakOff {t : Trouble} (h : t.Bare) : Bare Q (breakOff t : Work α) :=
  fun _ hd => Worked.bare_error (List.forall_mem_nil _) hd h

theorem bare_bind (hw : Bare Q w) (hf : ∀ a, Q a → Bare R (f a)) : Bare R (w >>= f) := by
  intro d hd
  have h := hw d hd
  cases hr : (w d).result with
  | error t =>
    refine ⟨?_, ?_, ?_, ?_⟩
    · simpa [events_bind, hr] using h.events
    · simpa [desk_bind, hr] using h.desk
    · simp [result_bind, hr]
    · intro t' ht'
      rw [result_bind, hr] at ht'
      exact Except.error.inj ht' ▸ h.error hr
  | ok a =>
    have h' := hf a (h.ok hr) _ h.desk
    refine ⟨?_, ?_, ?_, ?_⟩
    · rw [events_bind, hr]
      exact fun e he => (List.mem_append.mp he).elim (h.events e) (h'.events e)
    · rw [desk_bind, hr]
      exact h'.desk
    · intro b hb
      rw [result_bind, hr] at hb
      exact h'.ok hb
    · intro t ht
      rw [result_bind, hr] at ht
      exact h'.error ht

theorem bare_say {m : Message} (h : m.Bare) : Bare (fun _ => True) (say m) := by
  have hsaid : Event.Bare (.say m) := h
  exact fun _ hd => Worked.bare_ok (List.forall_mem_singleton.mpr hsaid) hd trivial

theorem bare_asFault {context : Option Text} (hc : ∀ c ∈ context, c.Bare) (e : IoFault) :
    (asFault context e).Bare := by
  cases context with
  | none => exact Fault.bare_ofIo e
  | some c => exact ⟨hc c rfl, by simpa [Fault.ofIo, Fault.within] using e.bare_message⟩

theorem bare_look {g : FileTree → Except IoFault α} (hg : ∀ t a, t.Bare → g t = .ok a → Q a) :
    Bare Q (look g) := by
  intro d hd
  refine ⟨by simp [look], hd, fun h => hg _ _ hd.tree (look_eq_ok.mp h), fun h => ?_⟩
  obtain ⟨e, -, rfl⟩ := mapError_eq_error.mp h
  exact bare_asFault (by simp) e

theorem bare_change {context : Option Text} {g : FileTree → FileTree × Except IoFault α}
    (hc : ∀ c ∈ context, c.Bare) (hg : ∀ t, t.Bare → (g t).1.Bare) :
    Bare (fun _ => True) (change context g) := by
  intro d hd
  refine ⟨by simp [change], hd.withTree (hg _ hd.tree), fun _ => trivial, ?_⟩
  intro t ht
  obtain ⟨e, -, rfl⟩ := mapError_eq_error.mp ht
  exact bare_asFault hc e

theorem bare_whole {g : FileTree → Except Trouble (FileTree × α)}
    (hok : ∀ t u a, t.Bare → g t = .ok (u, a) → u.Bare ∧ Q a)
    (herror : ∀ t e, t.Bare → g t = .error e → e.Bare) : Bare Q (whole g) := by
  intro d hd
  rw [whole]
  split
  · next t ht => exact Worked.bare_error (List.forall_mem_nil _) hd (herror _ _ hd.tree ht)
  · next u a hu =>
    obtain ⟨htree, ha⟩ := hok _ _ _ hd.tree hu
    exact Worked.bare_ok (List.forall_mem_nil _) (hd.withTree htree) ha

theorem bare_ofReply {e : Said} {d : Desk} {r : Reply} (he : e.Bare) (hd : d.Bare) (hr : r.Bare) :
    (ofReply e d r).Bare fun _ => True := by
  refine ⟨?_, ⟨hr.tree, hd.stash, hd.scratch, ?_⟩, fun _ => trivial, fun h => ?_⟩
  · have hprinted : ∀ a ∈ (if r.output.isEmpty then [] else [.printed r.output] : List Said),
        a.Bare := by
      split
      · simp
      · exact List.forall_mem_singleton.mpr trivial
    have hused : ∀ a ∈ (if r.used = 0 then [] else [.used r.used] : List Said), a.Bare := by
      split
      · simp
      · exact List.forall_mem_singleton.mpr trivial
    exact List.forall_mem_append.mpr ⟨List.forall_mem_cons.mpr ⟨he, hprinted⟩, hused⟩
  · exact hd.input.of_subset (List.drop_subset _ _)
  · obtain ⟨f, hf, rfl⟩ := mapError_eq_error.mp h
    exact hr.fault hf

theorem bare_thenRemove (path : Text) (hw : Bare Q w) : Bare Q (thenRemove path w) := by
  intro d hd
  have h := hw d hd
  exact ⟨h.events, h.desk.withTree (h.desk.tree.removeFile path), h.ok, h.error⟩

theorem bare_scratchFile {suffix content : Text} (hs : suffix.Bare) (hc : content.Bare) :
    Bare Text.Bare (scratchFile suffix content) := by
  have hdir : Bare Text.Bare scratchFile.scratchDir :=
    fun d hd => Worked.bare_ok (List.forall_mem_nil _) hd hd.scratch
  refine bare_bind hdir fun dir hdir => ?_
  have hcontext (what : String) (hw : Text.Bare what.toList) :
      ∀ c ∈ some (what.toList ++ dir), Text.Bare c := fun c hc =>
    Option.some.inj hc ▸ hw.append hdir
  refine bare_bind (bare_change (hcontext "Failed to create scratch directory " (Text.bare_ofList (by decide)))
    fun t ht => ht.makePath dir) fun _ _ => ?_
  have hplace : Text.Bare (if dir.isEmpty then ['.'] else dir) := by
    split
    · decide
    · exact hdir
  refine bare_whole (fun t u path ht h => ?_) fun t e ht h => ?_
  · exact ht.makeTemp hplace (by decide) hs (Utf8.bare_encode hc) (mapError_eq_ok.mp h)
  · obtain ⟨f, -, rfl⟩ := mapError_eq_error.mp h
    exact bare_asFault (hcontext "Failed to create scratch file in " (Text.bare_ofList (by decide))) f

theorem bare_record (e : HistoryEntry) : Bare (fun _ => True) (record e) := by
  intro d hd
  have hdesk := hd.withTree (History.bare_save (d.history.record e) hd.tree)
  have hafter : Desk.Bare { d with history := d.history.record e, tree := _ } :=
    ⟨hdesk.tree, hdesk.stash, hdesk.scratch, hdesk.input⟩
  rw [record]
  split
  · exact Worked.bare_ok (List.forall_mem_nil _) hafter trivial
  · next f hf =>
    have hwarning : Event.Bare (.say (.warning ("Could not save history: ".toList ++ f.message))) :=
      Text.Bare.append (by decide) f.bare_message
    exact Worked.bare_ok (List.forall_mem_singleton.mpr hwarning) hafter trivial

theorem bare_onStash {g : Stash → FileTree → FileTree × Except IoFault Unit}
    (hg : ∀ s t, t.Bare → (g s t).1.Bare) : Bare (fun _ => True) (onStash g) :=
  fun d hd => bare_change (by simp) (hg d.stash) d hd

theorem bare_readStash : Bare Text.Bare readStash :=
  fun d hd => bare_look (fun _ _ ht h => Stash.bare_read ht h) d hd

theorem bare_paste {file : Text} (hf : file.Bare) (mode : PasteMode) :
    Bare (fun _ => True) (paste file mode) := by
  refine bare_bind (Q := fun _ => True) (fun d hd => bare_whole ?_ ?_ d hd) fun _ _ => bare_say ?_
  · intro t u a ht h
    obtain ⟨v, hv, hu⟩ : ∃ v, d.stash.pasteInto file mode t = .ok v ∧ v = u := by
      cases hp : d.stash.pasteInto file mode t with
      | error e => simp [hp, Except.map] at h
      | ok v => exact ⟨v, rfl, by simpa [hp, Except.map] using h⟩
    exact ⟨Stash.bare_pasteInto ht (hu ▸ hv), trivial⟩
  · intro t e ht h
    have hp : d.stash.pasteInto file mode t = .error e := by
      cases hp : d.stash.pasteInto file mode t with
      | error f => simpa [hp, Except.map] using h
      | ok v => simp [hp, Except.map] at h
    exact Stash.bare_of_pasteInto hp
  · have hmode : mode.label.Bare := by cases mode <;> decide
    have hstart : Text.Bare "Snippet pasted into ".toList := by decide
    exact ((((hstart.append hf).append (by decide)).append hmode).append (by decide))

theorem bare_viewStash : Bare (fun _ => True) viewStash := by
  refine bare_bind bare_readStash fun t ht => ?_
  split
  · exact bare_say (m := .notice _) (Text.bare_ofList (by decide))
  · refine bare_say (m := .notice _) (ht.of_subset ?_)
    exact (List.rdropWhile_prefix (· = '\n') t).subset

theorem bare_clearStash : Bare (fun _ => True) clearStash :=
  bare_bind (bare_onStash fun _ _ ht => Stash.bare_inParent ht fun _ _ hv hw =>
    hv.write hw (Utf8.bare_encode List.not_mem_nil)) fun _ _ =>
      bare_say (m := .notice _) (Text.bare_ofList (by decide))

section Runner

variable {r : Runner} (hr : r.Bare)

include hr

theorem bare_command {c : Text} (hc : c.Bare) : Bare (fun _ => True) (command r c) :=
  fun _ hd => bare_ofReply trivial ⟨hd.tree, hd.stash, hd.scratch, hd.input⟩
    (hr.command hc hd.input hd.tree)

theorem bare_editor {path : Text} (hp : path.Bare) : Bare (fun _ => True) (editor r path) :=
  fun _ hd => bare_ofReply trivial ⟨hd.tree, hd.stash, hd.scratch, hd.input⟩
    (hr.editor hp hd.input hd.tree)

theorem bare_edit {path : Text} (hp : path.Bare) : Bare (fun _ => True) (edit r path) := by
  refine bare_bind (bare_editor hr hp) fun code _ => ?_
  split
  · exact bare_done trivial
  · refine bare_bind (bare_say (m := .warning _) ?_) fun _ _ => bare_done trivial
    have hstart : Text.Bare "Editor exited with ".toList := by decide
    have hlabel : Text.Bare (Outcome.ofCode code).label := by
      cases Outcome.ofCode code <;> decide
    exact (((hstart.append (Text.bare_ofInt code)).append (by decide)).append hlabel).append
      (by decide)

theorem bare_editText {suffix content : Text} (hs : suffix.Bare) (hc : content.Bare) :
    Bare (fun o => ∀ t ∈ o, t.Bare) (editText r suffix content) := by
  refine bare_bind (bare_scratchFile hs hc) fun path hp => bare_thenRemove path ?_
  refine bare_bind (bare_edit hr hp) fun b _ => ?_
  split
  · refine bare_bind (bare_look fun _ _ ht h => ht.readText h) fun t ht => bare_done ?_
    exact fun u hu => Option.some.inj hu ▸ ht
  · exact bare_done (by simp)

theorem bare_execute (now : Int) (step : Nat) {c : Text} (hc : c.Bare) :
    Bare (fun _ => True) (execute r now step c) :=
  bare_bind (bare_command hr hc) fun _ _ => bare_bind (bare_record _) fun _ _ => bare_say trivial

theorem bare_touchStash : Bare (fun _ => True) (touchStash r) := by
  refine bare_bind (bare_onStash fun _ _ ht => Stash.bare_inParent ht fun _ _ hv hw =>
    hv.append hw List.not_mem_nil) fun _ _ => ?_
  have hpath : Bare Text.Bare touchStash.stashPath :=
    fun d hd => Worked.bare_ok (List.forall_mem_nil _) hd hd.stash
  exact bare_bind hpath fun path hp => bare_bind (bare_edit hr hp) fun _ _ => bare_done trivial

end Runner

end Work

end Guidebook
