import Guidebook.Session

namespace Guidebook

/-- It holds of what is said, and of what a program that was started prints and reads. -/
structure Spoken (P : Said → Prop) : Prop where
  say (m : Message) : P (.say m)
  printed (b : Bytes) : P (.printed b)
  used (n : Nat) : P (.used n)

/-- It holds of all that happens when work is done without running a command. -/
structure Incidental (P : Said → Prop) : Prop extends Spoken P where
  edit (path : Text) (before : Option Bytes) : P (.edit path before)

namespace Work

variable {α β : Type} {w : Work α} {f : α → Work β} {P : Said → Prop}

theorem result_bind (w : Work α) (f : α → Work β) (d : Desk) :
    ((w >>= f) d).result =
      match (w d).result with
      | .ok a => (f a (w d).desk).result
      | .error t => .error t := by
  show (next w f d).result = _
  rw [next]
  rcases w d with ⟨es, e, t | a⟩ <;> rfl

theorem result_bind_eq_ok {d : Desk} {b : β} :
    ((w >>= f) d).result = .ok b ↔
      ∃ a, (w d).result = .ok a ∧ (f a (w d).desk).result = .ok b := by
  rw [result_bind]
  cases (w d).result <;> simp

theorem mapError_ok {ε ζ : Type} (g : ε → ζ) (a : α) :
    (Except.ok a : Except ε α).mapError g = .ok a := rfl

theorem mapError_eq_ok {ε ζ : Type} {r : Except ε α} {g : ε → ζ} {a : α} :
    r.mapError g = .ok a ↔ r = .ok a := by
  constructor
  · intro h
    cases r with
    | error e => cases h
    | ok b => exact congrArg Except.ok (Except.ok.inj h)
  · rintro rfl
    rfl

theorem mapError_eq_error {ε ζ : Type} {r : Except ε α} {g : ε → ζ} {z : ζ} :
    r.mapError g = .error z ↔ ∃ e, r = .error e ∧ g e = z := by
  cases r with
  | error e =>
    constructor
    · exact fun h => ⟨e, rfl, Except.error.inj h⟩
    · rintro ⟨_, he, rfl⟩
      exact congrArg (Except.error ∘ g) (Except.error.inj he)
  | ok a =>
    constructor
    · intro h
      cases h
    · rintro ⟨_, he, -⟩
      cases he

theorem desk_bind (w : Work α) (f : α → Work β) (d : Desk) :
    ((w >>= f) d).desk =
      match (w d).result with
      | .ok a => (f a (w d).desk).desk
      | .error _ => (w d).desk := by
  show (next w f d).desk = _
  rw [next]
  rcases w d with ⟨es, e, t | a⟩ <;> rfl

theorem events_bind (w : Work α) (f : α → Work β) (d : Desk) :
    ((w >>= f) d).events =
      (w d).events ++ match (w d).result with
        | .ok a => (f a (w d).desk).events
        | .error _ => [] := by
  show (next w f d).events = _
  rw [next]
  rcases w d with ⟨es, e, t | a⟩
  · exact (List.append_nil es).symm
  · rfl

/-- Whatever the work results in is so. -/
def Yields (Q : α → Prop) (w : Work α) : Prop := ∀ d a, (w d).result = .ok a → Q a

theorem yields_pure {Q : α → Prop} {a : α} (h : Q a) : Yields Q (pure a : Work α) := by
  intro d b hb
  cases hb
  exact h

theorem yields_bind {Q : β → Prop} (hf : ∀ a, Yields Q (f a)) : Yields Q (w >>= f) := by
  intro d b hb
  rw [result_bind] at hb
  split at hb
  · exact hf _ _ b hb
  · cases hb

/-- Whatever happens when the work is done is so. -/
def Emits (P : Said → Prop) (w : Work α) : Prop := ∀ d, ∀ e ∈ (w d).events, P e

theorem emits_nothing (h : ∀ d, (w d).events = []) : Emits P w := by
  intro d e he
  rw [h] at he
  cases he

theorem emits_bind (hw : Emits P w) (hf : ∀ a, Emits P (f a)) : Emits P (w >>= f) := by
  intro d e he
  rw [events_bind] at he
  rcases List.mem_append.mp he with he | he
  · exact hw d e he
  · split at he
    · exact hf _ _ e he
    · cases he

theorem emits_pure (a : α) : Emits P (pure a : Work α) := emits_nothing fun _ => rfl

theorem emits_breakOff (t : Trouble) : Emits P (breakOff t : Work α) := emits_nothing fun _ => rfl

theorem emits_whole (g : FileTree → Except Trouble (FileTree × α)) : Emits P (whole g) := by
  refine emits_nothing fun d => ?_
  rw [whole]
  split <;> rfl

theorem emits_thenRemove (path : Text) (hw : Emits P w) : Emits P (thenRemove path w) := hw

theorem emits_scratchFile (suffix content : Text) : Emits P (scratchFile suffix content) :=
  emits_bind (emits_nothing fun _ => rfl) fun _ =>
    emits_bind (emits_nothing fun _ => rfl) fun _ => emits_whole _

theorem emits_onStash (g : Stash → FileTree → FileTree × Except IoFault Unit) :
    Emits P (onStash g) := emits_nothing fun _ => rfl

section Spoken

variable (hP : Spoken P)

include hP

theorem emits_say (m : Message) : Emits P (say m) := fun _ => by simpa [say] using hP.say m

/-- What a program that was started prints and reads follows its start. -/
theorem ofReply_events (e : Said) (d : Desk) (r : Reply) :
    ∃ es, (ofReply e d r).events = e :: es ∧ ∀ a ∈ es, P a := by
  have hprinted :
      ∀ a ∈ (if r.output.isEmpty then [] else [.printed r.output] : List Said), P a := by
    split
    · simp
    · simpa using hP.printed r.output
  have hused : ∀ a ∈ (if r.used = 0 then [] else [.used r.used] : List Said), P a := by
    split
    · simp
    · simpa using hP.used r.used
  refine ⟨_, rfl, fun a ha => ?_⟩
  rcases List.mem_append.mp ha with ha | ha
  · exact hprinted a ha
  · exact hused a ha

theorem emits_record (e : HistoryEntry) : Emits P (record e) := by
  intro d
  rw [record]
  split
  · simp
  · simpa using hP.say _

theorem emits_paste (file : Text) (mode : PasteMode) : Emits P (paste file mode) :=
  emits_bind (fun d => emits_whole _ d) fun _ => emits_say hP _

theorem emits_viewStash : Emits P viewStash := by
  refine emits_bind (emits_nothing fun _ => rfl) fun t => ?_
  split <;> exact emits_say hP _

theorem emits_clearStash : Emits P clearStash :=
  emits_bind (emits_onStash _) fun _ => emits_say hP _

/-- A command is run once, even if it cannot be started, and all else is incidental. -/
theorem execute_events (r : Runner) (now : Int) (step : Nat) (c : Text) (d : Desk) :
    ∃ es, (execute r now step c d).events = .run c :: es ∧ ∀ e ∈ es, P e := by
  obtain ⟨es, he, hes⟩ := ofReply_events hP (.run c) { d with runs := d.runs + 1 }
    (r.command d.runs c d.input d.tree)
  have hrest (code : Int) : Emits P (record ⟨c, some step, now⟩ >>= fun _ => say (.outcome code)) :=
    emits_bind (emits_record hP _) fun _ => emits_say hP _
  refine ⟨_, by rw [execute, events_bind, command, he, List.cons_append], fun e hm => ?_⟩
  rcases List.mem_append.mp hm with hm | hm
  · exact hes e hm
  · split at hm
    · exact hrest _ _ e hm
    · cases hm

theorem emits_execute (hrun : ∀ c, P (.run c)) (r : Runner) (now : Int) (step : Nat) (c : Text) :
    Emits P (execute r now step c) := by
  intro d
  obtain ⟨es, he, hes⟩ := execute_events hP r now step c d
  rw [he]
  simpa using ⟨hrun c, hes⟩

/-- To have a file edited is to have only this file edited. -/
theorem edit_events (r : Runner) (path : Text) (d : Desk) :
    ∃ es, (edit r path d).events = .edit path (d.tree.read path).toOption :: es ∧
      ∀ e ∈ es, P e := by
  obtain ⟨es, he, hes⟩ := ofReply_events hP (.edit path (d.tree.read path).toOption)
    { d with edits := d.edits + 1 } (r.editor d.edits path d.input d.tree)
  refine ⟨_, by rw [edit, events_bind, editor, he, List.cons_append], fun e hm => ?_⟩
  rcases List.mem_append.mp hm with hm | hm
  · exact hes e hm
  · split at hm
    · split at hm
      · cases hm
      · obtain rfl := List.mem_singleton.mp hm
        exact hP.say _
    · cases hm

end Spoken

section Incidental

variable (hP : Incidental P)

include hP

theorem emits_edit (r : Runner) (path : Text) : Emits P (edit r path) := by
  intro d
  obtain ⟨es, he, hes⟩ := edit_events hP.toSpoken r path d
  rw [he]
  simpa using ⟨hP.edit .., hes⟩

theorem emits_editText (r : Runner) (suffix content : Text) :
    Emits P (editText r suffix content) := by
  refine emits_bind (emits_scratchFile _ _) fun path => emits_thenRemove path ?_
  refine emits_bind (emits_edit hP _ _) fun b => ?_
  split
  · exact emits_bind (emits_nothing fun _ => rfl) fun _ => emits_pure _
  · exact emits_pure _

theorem emits_touchStash (r : Runner) : Emits P (touchStash r) :=
  emits_bind (emits_onStash _) fun _ => emits_bind (emits_nothing fun _ => rfl) fun _ =>
    emits_bind (emits_edit hP _ _) fun _ => emits_pure _

end Incidental

/-- The reply of the editor to a file at a desk. -/
abbrev editorReply (r : Runner) (path : Text) (d : Desk) : Reply :=
  r.editor d.edits path d.input d.tree

theorem edit_eq_ok (r : Runner) (path : Text) (d : Desk) (b : Bool) :
    (edit r path d).result = .ok b ↔
      ∃ code, (editorReply r path d).result = .ok code ∧ decide (code = 0) = b := by
  rw [edit, result_bind_eq_ok]
  refine exists_congr fun code => and_congr mapError_eq_ok ?_
  split
  · next hc => simp [hc, done]
  · next hc => simp [hc, done, say, result_bind]

theorem tree_edit (r : Runner) (path : Text) (d : Desk) :
    (edit r path d).desk.tree = (editorReply r path d).tree := by
  have he : (editor r path d).desk.tree = (editorReply r path d).tree := rfl
  rw [edit, desk_bind]
  split
  · split
    · exact he
    · exact he
  · exact he

/-- Somebody leaves the text in a new file that held `content` before, and the editor ends well. -/
def Saved (r : Runner) (suffix content : Text) (d : Desk) (t : Text) : Prop :=
  ∃ path, (scratchFile suffix content d).result = .ok path ∧
    let reply := editorReply r path (scratchFile suffix content d).desk
    reply.result = .ok 0 ∧ reply.tree.readText path = .ok t

theorem look_eq_ok {g : FileTree → Except IoFault α} {d : Desk} {a : α} :
    (look g d).result = .ok a ↔ g d.tree = .ok a := mapError_eq_ok

/-- What comes of having a text edited is what somebody saved. -/
theorem editText_eq_some (r : Runner) (suffix content : Text) (d : Desk) (t : Text) :
    (editText r suffix content d).result = .ok (some t) ↔ Saved r suffix content d t := by
  rw [editText, result_bind_eq_ok]
  refine exists_congr fun path => and_congr_right fun _ => ?_
  generalize (scratchFile suffix content d).desk = d'
  have hread : ((look (·.readText path) >>= fun t => done (some t)) (edit r path d').desk).result =
      .ok (some t) ↔ (editorReply r path d').tree.readText path = .ok t := by
    simp [result_bind_eq_ok, look_eq_ok, tree_edit, done]
  rw [thenRemove, result_bind_eq_ok]
  constructor
  · rintro ⟨b, hb, hr⟩
    cases b with
    | false => cases hr
    | true =>
      obtain ⟨code, hc, h0⟩ := (edit_eq_ok ..).mp hb
      rw [of_decide_eq_true h0] at hc
      exact ⟨hc, hread.mp hr⟩
  · rintro ⟨h0, ht⟩
    exact ⟨true, (edit_eq_ok ..).mpr ⟨0, h0, rfl⟩, hread.mpr ht⟩

end Work

end Guidebook
