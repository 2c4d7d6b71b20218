import Guidebook.Proofs.Session.Commands
import Guidebook.Proofs.Session.Failures
import Guidebook.Proofs.Text.Number
import Guidebook.Proofs.Work.Scratch

namespace Guidebook

namespace Command

theorem lookup_aliases {t : Text} (h : Text.isDigits t = true) : aliases.lookup t = none := by
  have hnone : ∀ p ∈ aliases, Text.isDigits p.1 = false := by decide
  cases hl : aliases.lookup t with
  | none => rfl
  | some c =>
    rw [hnone _ (mem_of_lookup hl)] at h
    cases h

/-- Digits are the command to pick what they number. -/
theorem ofInput_digits {home : Option Text} {l : Text} (h : Text.isDigits (Text.trim l) = true)
    (hn : Text.digitsValue (Text.trim l) < Text.numberBound) :
    ofInput home l = .ok (.pick (Text.digitsValue (Text.trim l))) := by
  have hne : (Text.trim l).isEmpty = false := by
    rw [Text.isDigits, Bool.and_eq_true] at h
    simpa using h.1
  have hall : (Text.trim l).all Text.isDecimal = true :=
    List.all_eq_true.mpr fun c hc => Text.isDecimal_of_isDigit (Text.isDigit_of_mem h hc)
  rw [ofInput]
  simp only [hne, lookup_aliases h, ofLine, hall, number, Text.natural?_digits h hn, if_true]
  rfl

end Command

namespace Session

variable {x : Setting} {s : Session} {number : Nat} {step : Step} {y : Suggestion} {d : Desk}

/-- The text in which a suggestion is edited, according to its kind. -/
def buffer (number : Nat) (step : Step) (y : Suggestion) : Text :=
  match y.kind with
  | .cmd => Buffer.ofCommand number step y
  | .snippet => Buffer.ofSnippet number step y

/-- How the name of the file ends that it is edited in. -/
def suffix (y : Suggestion) : Text :=
  match y.kind with
  | .cmd => ".sh".toList
  | .snippet => ".txt".toList

theorem single_suffix (y : Suggestion) : Path.Single (suffix y) := by
  rw [suffix]
  split <;> decide

/-- What is done with what a suggestion has become. -/
def use (x : Setting) (number : Nat) (y : Suggestion) : Option Text → Work Unit :=
  match y.kind with
  | .cmd => fun
    | none => Work.notice "Nothing was run."
    | some t =>
      if (Buffer.stripComments t).isEmpty then Work.notice "Nothing to run."
      else Work.execute x.runner x.now number (Buffer.stripComments t)
  | .snippet => fun
    | none => Work.notice "The snippet stash was left unchanged."
    | some t =>
      match Buffer.snippet? t with
      | none => Work.breakOff (.mistake .noMarkers)
      | some c => do
        Work.onStash (·.replace c)
        Work.notice
          "Snippet stashed. Use ':snippet paste <file>' or ':snippet open <file>' to use it."

theorem pick_eq (x : Setting) (number : Nat) (step : Step) (y : Suggestion) :
    pick x number step y =
      Work.editText x.runner (suffix y) (buffer number step y) >>= use x number y := by
  rw [pick, suffix, buffer]
  unfold use
  cases y.kind <;> rfl

theorem emits_use {P : Said → Prop} (hP : Spoken P) (hrun : ∀ c, P (.run c)) (o : Option Text) :
    Work.Emits P (use x number y o) := by
  unfold use
  cases y.kind with
  | cmd =>
    cases o with
    | none => exact Work.emits_say hP _
    | some t =>
      dsimp only
      split
      · exact Work.emits_say hP _
      · exact Work.emits_execute hP hrun _ _ _ _
  | snippet =>
    cases o with
    | none => exact Work.emits_say hP _
    | some t =>
      dsimp only
      split
      · exact Work.emits_breakOff _
      · exact Work.emits_bind (Work.emits_onStash _) fun _ => Work.emits_say hP _

/-- To pick a suggestion opens the editor once, on a file that holds the text to be edited. -/
theorem pick_events {path : Text}
    (h : (Work.scratchFile (suffix y) (buffer number step y) d).result = .ok path) :
    ∃ es, (pick x number step y d).events =
        .edit path (some (Utf8.encode (buffer number step y))) :: es ∧ ∀ e ∈ es, e.edit? = none := by
  obtain ⟨es, he, hes⟩ := Work.editText_events spoken_edit? x.runner (single_suffix y) h
  rw [pick_eq, Work.events_bind, he]
  refine ⟨_, rfl, fun e hm => ?_⟩
  rcases List.mem_append.mp hm with hm | hm
  · exact hes e hm
  · split at hm
    · exact emits_use spoken_edit? (fun _ => rfl) _ _ e hm
    · cases hm

theorem pick_of_error {t : Trouble}
    (h : (Work.scratchFile (suffix y) (buffer number step y) d).result = .error t) :
    pick x number step y d =
      ⟨[], (Work.scratchFile (suffix y) (buffer number step y) d).desk, .error t⟩ := by
  rw [pick_eq]
  show Work.next _ _ d = _
  simp only [Work.next, Work.editText_of_error h]

theorem obey_pick {i : Nat} (hs : s.guide.step? s.step = some step) (hy : s.here[i]? = some y) :
    s.obey x (.pick (i + 1)) = s.work (staying (pick x s.step step y)) := by
  simp only [obey, hs, hy]

end Session

end Guidebook
