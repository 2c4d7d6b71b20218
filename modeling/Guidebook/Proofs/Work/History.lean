import Guidebook.Proofs.History.Deeds
import Guidebook.Proofs.Work.Failures

namespace Guidebook.Work

variable {α β : Type} {w : Work α} {f : α → Work β}

/-- The work leaves the history as it is. -/
def Spares (w : Work α) : Prop := ∀ d, (w d).desk.history = d.history

theorem spares_of_quiet (h : ∀ d, Quiet w d) : Spares w := fun d => (h d).history

theorem spares_pure (a : α) : Spares (pure a : Work α) := fun _ => rfl

theorem spares_say (m : Message) : Spares (say m) := fun _ => rfl

theorem spares_bind (hw : Spares w) (hf : ∀ a, Spares (f a)) : Spares (w >>= f) := by
  intro d
  rw [desk_bind]
  split
  · rw [hf, hw]
  · exact hw d

theorem spares_thenRemove (path : Text) (hw : Spares w) : Spares (thenRemove path w) := hw

theorem spares_edit (r : Runner) (path : Text) : Spares (edit r path) := by
  refine spares_bind (spares_of_quiet (quiet_editor r path)) fun code => ?_
  split
  · exact spares_pure true
  · exact spares_bind (spares_say _) fun _ => spares_pure false

theorem spares_editText (r : Runner) (suffix content : Text) : Spares (editText r suffix content) := by
  refine spares_bind (spares_of_quiet (quiet_scratchFile _ _)) fun path => spares_thenRemove path ?_
  refine spares_bind (spares_edit r path) fun saved => ?_
  split
  · exact spares_bind (spares_of_quiet (quiet_look _)) fun t => spares_pure (some t)
  · exact spares_pure none

theorem spares_touchStash (r : Runner) : Spares (touchStash r) :=
  spares_bind (spares_of_quiet (quiet_onStash _)) fun _ => spares_bind (fun _ => rfl) fun path =>
    spares_bind (spares_edit r path) fun _ => spares_pure ()

/-- The reply to a command that is run at a desk. -/
abbrev commandReply (r : Runner) (c : Text) (d : Desk) : Reply := r.command d.runs c d.input d.tree

/-- What a command that is run adds to the history: an entry, whatever its exit code, but none if it
could not be started. -/
def entered (r : Runner) (now : Int) (step : Nat) (c : Text) (d : Desk) : List HistoryEntry :=
  match (commandReply r c d).result with
  | .ok _ => [⟨c, some step, now⟩]
  | .error _ => []

theorem desk_record (e : HistoryEntry) (d : Desk) :
    (record e d).desk =
      { d with history := d.history.record e, tree := ((d.history.record e).save d.tree).1 } := by
  rw [record]
  split <;> rfl

/-- What is recorded is what was run, and it is saved among the files that the command left. -/
theorem desk_execute {r : Runner} {c : Text} {d : Desk} {code : Int}
    (h : (commandReply r c d).result = .ok code) (now : Int) (step : Nat) :
    (execute r now step c d).desk.history = d.history.record ⟨c, some step, now⟩ ∧
      (execute r now step c d).desk.tree =
        ((d.history.record ⟨c, some step, now⟩).save (commandReply r c d).tree).1 := by
  have hr : (command r c d).result = .ok code := mapError_eq_ok.mpr h
  have he : (execute r now step c d).desk =
      (record ⟨c, some step, now⟩ (command r c d).desk).desk := by
    obtain ⟨_, ho, -⟩ := succeeds_record ⟨c, some step, now⟩ (command r c d).desk
    simp only [execute, desk_bind, hr, ho]
    rfl
  rw [he, desk_record]
  exact ⟨rfl, rfl⟩

theorem history_execute (r : Runner) (now : Int) (step : Nat) (c : Text) (d : Desk) :
    (execute r now step c d).desk.history =
      (entered r now step c d).foldl History.record d.history := by
  rw [entered]
  cases h : (commandReply r c d).result with
  | ok code => exact (desk_execute h now step).1
  | error e =>
    have hr : (command r c d).result = .error (.fault e) := by
      show (commandReply r c d).result.mapError _ = _
      rw [h]
      rfl
    simp only [execute, desk_bind, hr]
    rfl

end Guidebook.Work
