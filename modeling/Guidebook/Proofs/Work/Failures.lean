import Guidebook.Proofs.Work.Events

namespace Guidebook

/-- The error or the warning that is said, if the event is that. -/
def Event.complaint? : Said → Option Message
  | .say (.error t) => some (.error t)
  | .say (.warning t) => some (.warning t)
  | _ => none

/-- The errors and warnings that are said, in order. -/
def complaintsOf (es : List Said) : List Message := es.filterMap Event.complaint?

theorem complaintsOf_append (es fs : List Said) :
    complaintsOf (es ++ fs) = complaintsOf es ++ complaintsOf fs := List.filterMap_append

/-- The warnings about something beside what was asked for, which is done for all that: an editor that
ended badly, or a history that was not saved. -/
inductive Message.Aside : Message → Prop where
  | editor (code : Int) : Aside (.warning ("Editor exited with ".toList ++ Text.ofInt code ++
      " (".toList ++ (Outcome.ofCode code).label ++ ")".toList))
  | history (e : IoFault) : Aside (.warning ("Could not save history: ".toList ++ e.message))

/-- Nothing is complained of but such things. -/
def Mild (es : List Said) : Prop := ∀ m ∈ complaintsOf es, m.Aside

theorem mild_of_silent {es : List Said} (h : complaintsOf es = []) : Mild es := by
  intro m hm
  rw [h] at hm
  cases hm

theorem mild_aside {m : Message} (h : m.Aside) : Mild [.say m] := by
  intro n hn
  obtain ⟨e, he, hc⟩ := List.mem_filterMap.mp hn
  obtain rfl := List.mem_singleton.mp he
  cases h with
  | editor code =>
    cases hc
    exact .editor code
  | history e =>
    cases hc
    exact .history e

theorem Mild.append {es fs : List Said} (he : Mild es) (hf : Mild fs) : Mild (es ++ fs) := by
  intro m hm
  rw [complaintsOf_append, List.mem_append] at hm
  exact hm.elim (he m) (hf m)

namespace Work

variable {α β : Type} {w : Work α} {f : α → Work β} {Q : α → Prop} {R : β → Prop}

/-- The work complains of nothing and leaves the history as it is. -/
structure Quiet (w : Work α) (d : Desk) : Prop where
  silent : complaintsOf (w d).events = []
  history : (w d).desk.history = d.history

/-- The work is quiet unless it results in something that is so, and mild in any case. In particular
it is quiet whenever it breaks off. -/
structure QuietUnless (Q : α → Prop) (w : Work α) : Prop where
  mild (d : Desk) : Mild (w d).events
  quiet (d : Desk) (h : ∀ a, (w d).result = .ok a → ¬ Q a) : Quiet w d

/-- The work does not break off, and what it results in is so. -/
def Succeeds (Q : α → Prop) (w : Work α) : Prop := ∀ d, ∃ a, (w d).result = .ok a ∧ Q a

theorem quietUnless_of_quiet (h : ∀ d, Quiet w d) : QuietUnless Q w :=
  ⟨fun d => mild_of_silent (h d).silent, fun d _ => h d⟩

theorem quietUnless_of_succeeds (h : Succeeds Q w) (hm : ∀ d, Mild (w d).events) :
    QuietUnless Q w := by
  refine ⟨hm, fun d hn => ?_⟩
  obtain ⟨a, ha, hq⟩ := h d
  exact absurd hq (hn a ha)

theorem mild_bind (hw : ∀ d, Mild (w d).events) (hf : ∀ a d, Mild (f a d).events) (d : Desk) :
    Mild ((w >>= f) d).events := by
  rw [events_bind]
  refine (hw d).append ?_
  split
  · exact hf _ _
  · exact mild_of_silent rfl

/-- Where work goes on after it may have complained, it must be certain to end well. -/
theorem quietUnless_bind (hw : QuietUnless Q w) (hf : ∀ a, QuietUnless R (f a))
    (hs : ∀ a, Q a → Succeeds R (f a)) : QuietUnless R (w >>= f) := by
  refine ⟨mild_bind hw.mild fun a => (hf a).mild, fun d hn => ?_⟩
  cases hr : (w d).result with
  | error t =>
    have hq : Quiet w d := hw.quiet d (by simp [hr])
    constructor
    · simp [events_bind, hr, hq.silent]
    · simp [desk_bind, hr, hq.history]
  | ok a =>
    have hb : ((w >>= f) d).result = (f a (w d).desk).result := by simp [result_bind, hr]
    rw [hb] at hn
    have hq : Quiet w d := hw.quiet d fun a' ha' hqa => by
      obtain rfl : a = a' := by simpa [hr] using ha'
      obtain ⟨b, hb, hrb⟩ := hs a hqa (w d).desk
      exact hn b hb hrb
    have hqf : Quiet (f a) (w d).desk := (hf a).quiet _ hn
    constructor
    · simp [events_bind, hr, complaintsOf_append, hq.silent, hqf.silent]
    · simp [desk_bind, hr, hq.history, hqf.history]

/-- Quiet work makes no difference to what follows it. -/
theorem quietUnless_after (hw : ∀ d, Quiet w d) (hf : ∀ a, QuietUnless R (f a)) :
    QuietUnless R (w >>= f) :=
  quietUnless_bind (Q := fun _ => False) (quietUnless_of_quiet hw) hf fun _ h => h.elim

theorem succeeds_pure {a : α} (h : Q a) : Succeeds Q (pure a : Work α) := fun _ => ⟨a, rfl, h⟩

theorem succeeds_bind (hw : Succeeds Q w) (hf : ∀ a, Q a → Succeeds R (f a)) :
    Succeeds R (w >>= f) := by
  intro d
  obtain ⟨a, ha, hq⟩ := hw d
  obtain ⟨b, hb, hr⟩ := hf a hq (w d).desk
  exact ⟨b, by rw [result_bind, ha]; exact hb, hr⟩

theorem succeeds_say (m : Message) : Succeeds (fun _ => True) (say m) := fun _ => ⟨(), rfl, trivial⟩

theorem succeeds_record (e : HistoryEntry) : Succeeds (fun _ => True) (record e) := by
  intro d
  refine ⟨(), ?_, trivial⟩
  rw [record]
  split <;> rfl

theorem quiet_pure (a : α) (d : Desk) : Quiet (pure a : Work α) d := ⟨rfl, rfl⟩

theorem quiet_breakOff (t : Trouble) (d : Desk) : Quiet (breakOff t : Work α) d := ⟨rfl, rfl⟩

theorem quiet_notice (t : Text) (d : Desk) : Quiet (say (.notice t)) d := ⟨rfl, rfl⟩

theorem quiet_look (g : FileTree → Except IoFault α) (d : Desk) : Quiet (look g) d := ⟨rfl, rfl⟩

theorem quiet_change (context : Option Text) (g : FileTree → FileTree × Except IoFault α)
    (d : Desk) : Quiet (change context g) d := ⟨rfl, rfl⟩

theorem quiet_whole (g : FileTree → Except Trouble (FileTree × α)) (d : Desk) :
    Quiet (whole g) d := by
  constructor
  · rw [whole]
    split <;> rfl
  · rw [whole]
    split <;> rfl

/-- A program that was started says nothing on the walkthrough's behalf. -/
theorem complaintsOf_ofReply {e : Said} (he : e.complaint? = none) (d : Desk) (r : Reply) :
    complaintsOf (ofReply e d r).events = [] := by
  simp only [ofReply, complaintsOf, List.cons_append, List.filterMap_cons, he,
    List.filterMap_append]
  split <;> split <;> rfl

theorem quiet_command (r : Runner) (c : Text) (d : Desk) : Quiet (command r c) d :=
  ⟨complaintsOf_ofReply rfl _ _, rfl⟩

theorem quiet_editor (r : Runner) (path : Text) (d : Desk) : Quiet (editor r path) d :=
  ⟨complaintsOf_ofReply rfl _ _, rfl⟩

theorem quiet_bind (hw : ∀ d, Quiet w d) (hf : ∀ a d, Quiet (f a) d) (d : Desk) :
    Quiet (w >>= f) d :=
  (quietUnless_after (R := fun _ => False) hw fun a => quietUnless_of_quiet (hf a)).quiet d
    fun _ _ h => h

theorem quiet_scratchFile (suffix content : Text) (d : Desk) :
    Quiet (scratchFile suffix content) d :=
  quiet_bind (fun _ => ⟨rfl, rfl⟩)
    (fun _ => quiet_bind (quiet_change _ _) fun _ => quiet_whole _) d

/-- A warning that the editor failed means that the file is not used. -/
theorem quietUnless_edit (r : Runner) (path : Text) :
    QuietUnless (fun saved => saved = false) (edit r path) := by
  refine quietUnless_bind (Q := fun code => code ≠ 0) (quietUnless_of_quiet (quiet_editor r path))
    (fun code => ?_) fun code hc => ?_
  · split
    · exact quietUnless_of_quiet (quiet_pure true)
    · exact quietUnless_of_succeeds (succeeds_bind (succeeds_say _) fun _ _ => succeeds_pure rfl)
        (mild_bind (fun _ => mild_aside (.editor code)) fun _ _ => mild_of_silent rfl)
  · rw [if_neg hc]
    exact succeeds_bind (succeeds_say _) fun _ _ => succeeds_pure rfl

theorem quietUnless_editText (r : Runner) (suffix content : Text) :
    QuietUnless (fun t => t = none) (editText r suffix content) := by
  refine quietUnless_after (quiet_scratchFile _ _) fun path => ?_
  have hused : QuietUnless (fun t => t = none) (edit r path >>= fun saved =>
      if saved then look (·.readText path) >>= fun t => done (some t) else done none) := by
    refine quietUnless_bind (quietUnless_edit r path) (fun saved => ?_) fun saved hs => ?_
    · split
      · exact quietUnless_of_quiet (quiet_bind (quiet_look _) fun t => quiet_pure (some t))
      · exact quietUnless_of_quiet (quiet_pure none)
    · rw [if_neg (by simp [hs])]
      exact succeeds_pure rfl
  exact ⟨hused.mild, fun d hn => ⟨(hused.quiet d hn).silent, (hused.quiet d hn).history⟩⟩

theorem mild_record (e : HistoryEntry) (d : Desk) : Mild (record e d).events := by
  rw [record]
  split
  · exact mild_of_silent rfl
  · exact mild_aside (.history _)

/-- Once a command has been run, nothing can fail any more that is the command's fault. -/
theorem succeeds_recorded (e : HistoryEntry) (code : Int) :
    Succeeds (fun _ => True) (record e >>= fun _ => say (.outcome code)) :=
  succeeds_bind (succeeds_record e) fun _ _ => succeeds_say _

theorem quietUnless_execute (r : Runner) (now : Int) (step : Nat) (c : Text) :
    QuietUnless (fun _ => True) (execute r now step c) :=
  quietUnless_bind (Q := fun _ => True) (quietUnless_of_quiet (quiet_command r c))
    (fun _ => quietUnless_of_succeeds (succeeds_recorded _ _)
      (mild_bind (mild_record _) fun _ _ => mild_of_silent rfl)) fun _ _ => succeeds_recorded _ _

theorem quiet_onStash (g : Stash → FileTree → FileTree × Except IoFault Unit) (d : Desk) :
    Quiet (onStash g) d := ⟨rfl, rfl⟩

theorem quiet_readStash (d : Desk) : Quiet readStash d := ⟨rfl, rfl⟩

theorem quiet_paste (file : Text) (mode : PasteMode) (d : Desk) : Quiet (paste file mode) d :=
  quiet_bind (fun d => ⟨(quiet_whole _ d).silent, (quiet_whole _ d).history⟩)
    (fun _ => quiet_notice _) d

theorem quiet_viewStash (d : Desk) : Quiet viewStash d := by
  refine quiet_bind quiet_readStash (fun t => ?_) d
  split
  · exact quiet_notice _
  · exact quiet_notice _

theorem quiet_clearStash (d : Desk) : Quiet clearStash d :=
  quiet_bind (quiet_onStash _) (fun _ => quiet_notice _) d

/-- Work that only has a file edited and goes on to its end. -/
theorem quietUnless_edited {a : α} (r : Runner) (path : Text) :
    QuietUnless (fun _ => True) (edit r path >>= fun _ => (pure a : Work α)) :=
  quietUnless_bind (Q := fun saved => saved = false) (quietUnless_edit r path)
    (fun _ => quietUnless_of_quiet (quiet_pure a)) fun _ _ => succeeds_pure trivial

theorem quietUnless_touchStash (r : Runner) : QuietUnless (fun _ => True) (touchStash r) :=
  quietUnless_after (quiet_onStash _) fun _ => quietUnless_after (fun _ => ⟨rfl, rfl⟩) fun path =>
    quietUnless_edited r path

end Work

end Guidebook
