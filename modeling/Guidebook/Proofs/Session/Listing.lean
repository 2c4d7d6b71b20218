import Guidebook.Proofs.Pager.Pages
import Guidebook.Proofs.Session.Picking
import Guidebook.Proofs.Session.Course
import Guidebook.Proofs.Session.Reckoning

namespace Guidebook

/-- The pages of a list show its suggestions: each page what is on it, all of them together every
suggestion once, in order and under its number. -/
structure Message.Lists (l : Look) (xs : List Suggestion) : Prop where
  page (page : Nat) : text l (.suggestions xs page) =
    heading l xs page ++ (l.pager.items xs page).flatMap fun e => suggestionText l e.2 e.1
  pages : (l.pager.pages xs.length).flatMap (l.pager.items xs) = xs.zipIdx 1
  once (k : Nat) : (∃! page, page ∈ l.pager.pages xs.length ∧ ∃ y, (y, k) ∈ l.pager.items xs page) ↔
    1 ≤ k ∧ k ≤ xs.length

namespace Session

open Guide

variable {x : Setting} {g : Guide} {s : Session} {k : Nat}

theorem buffer_plan {st st' : Step} (h : st.plan = st'.plan) (number : Nat) (y : Suggestion) :
    buffer number st y = buffer number st' y := by
  have ht : st.title = st'.title := (congrArg Step.title h :)
  have hd : st.description = st'.description := (congrArg Step.description h :)
  rw [buffer, buffer, Buffer.ofCommand, Buffer.ofCommand, Buffer.ofSnippet, Buffer.ofSnippet,
    Buffer.header, Buffer.header, ht, hd]

/-- In a round a text is edited: the editor is opened once, on a new file that holds just this text,
or there can be no such file, and this is told. -/
inductive Edits (e : Round) (ending content : Text) : Prop where
  | opened (l path : Text) (es : List Said) (hl : e.heard = .line l)
    (hp : (Work.scratchFile ending content (e.before.supplied e.behind).desk).result = .ok path)
    (he : e.events = .remember l :: .edit path (some (Utf8.encode content)) :: es)
    (hes : ∀ f ∈ es, f.edit? = none)
  | refused (l : Text) (t : Trouble) (hl : e.heard = .line l)
    (hp : (Work.scratchFile ending content (e.before.supplied e.behind).desk).result = .error t)
    (he : e.events = [.remember l, .say (report t)])

/-- What comes of the number that is picked in a round: the suggestion is edited that is listed under
it, and where none is, the mistake is told with the greatest number that there is. -/
structure Picked (g : Guide) (e : Round) (k : Nat) : Prop where
  step : e.before.step ∈ g.numbers
  listed (y : Suggestion) (hy : (y, k) ∈ (g.suggestionsOf e.before.step).zipIdx 1) :
    ∃ st, g.step? e.before.step = some st ∧ Edits e (suffix y) (buffer e.before.step st y)
  unlisted (hk : ¬ (1 ≤ k ∧ k ≤ (g.suggestionsOf e.before.step).length)) :
    ∃ l, e.heard = .line l ∧ e.events = [.remember l,
      .say (report (.mistake (.noSuggestion k (g.suggestionsOf e.before.step).length)))]

theorem edits_of_made {e : Round} {i : Nat} {st : Step} {y : Suggestion}
    (he : (dialogue x).Made e) (hc : e.before.command? x e.heard = some (.pick (i + 1)))
    (hs : e.before.guide.step? e.before.step = some st) (hy : e.before.here[i]? = some y) :
    Edits e (suffix y) (buffer e.before.step st y) := by
  obtain ⟨hp, l, hl, ho⟩ := command?_eq_some hc
  set d := (e.before.supplied e.behind).desk with hd
  have hevents : e.events =
      .remember l :: ((pick x e.before.step st y d).events ++
        complaints (pick x e.before.step st y d).result) := by
    rw [← events_made he, hl, hear_command (by exact hp) ho, obey_pick (by exact hs) (by exact hy),
      work_staying_events]
    rfl
  cases hr : (Work.scratchFile (suffix y) (buffer e.before.step st y) d).result with
  | ok path =>
    obtain ⟨es, hes, hnone⟩ := pick_events (x := x) hr
    refine .opened l path (es ++ complaints (pick x e.before.step st y d).result) hl hr
      (by rw [hevents, hes, List.cons_append]) fun f hf => ?_
    rcases List.mem_append.mp hf with hf | hf
    · exact hnone f hf
    · unfold complaints at hf
      split at hf
      · rw [List.mem_singleton.mp hf]
        rfl
      · cases hf
  | error t => exact .refused l t hl hr (by rw [hevents, pick_of_error hr]; rfl)

theorem picked_of_made {e : Round} (he : (dialogue x).Made e) (hp : Placed x g e.before)
    (hc : e.before.command? x e.heard = some (.pick k)) : Picked g e k := by
  have hhere : e.before.here = g.suggestionsOf e.before.step := hp.guide.suggestionsOf _
  have hnumber : e.before.step ∈ e.before.guide.numbers := mem_numbers.mpr ⟨hp.step_pos, hp.step_le⟩
  refine ⟨?_, fun y hy => ?_, fun hk => ?_⟩
  · rw [mem_numbers, ← hp.guide.stepCount]
    exact ⟨hp.step_pos, hp.step_le⟩
  · rw [← hhere, List.mk_mem_zipIdx_iff_le_and_getElem?_sub] at hy
    obtain ⟨i, rfl⟩ : ∃ i, k = i + 1 := ⟨k - 1, by omega⟩
    obtain ⟨now, -, hnow⟩ := e.before.guide.step?_of_mem_numbers hnumber
    have hplan := hp.guide.plan_step? e.before.step
    rw [hnow] at hplan
    obtain ⟨st, hst, hsame⟩ := Option.map_eq_some_iff.mp hplan.symm
    refine ⟨st, hst, ?_⟩
    rw [buffer_plan hsame]
    exact edits_of_made he hc hnow (by simpa using hy.2)
  · obtain ⟨hplace, l, hl, ho⟩ := command?_eq_some hc
    have hnone : k = 0 ∨ (e.before.supplied e.behind).here.length < k := by
      show k = 0 ∨ e.before.here.length < k
      rw [hhere]
      omega
    refine ⟨l, hl, ?_⟩
    rw [← events_made he, hl, hear_command (by exact hplace) ho, obey_noSuggestion hnone]
    show [_, Event.say (report (.mistake (.noSuggestion k e.before.here.length)))] = _
    rw [hhere]

/-- A setting with two suggestions on a page. -/
def pairs : Setting := ⟨⟨false, Pager.ofSize 2⟩, Runner.ofScripts [] [], none, 0⟩

/-- The rounds of a session in which a page is turned and the third suggestion picked. -/
def turned : List Round :=
  rounds pairs Plain.source (Plain.chunks (Utf8.encode "\nnp\n3\n".toList)) twoSteps
    (Desk.openAt "/state".toList "/tmp".toList 100 ⟨[], [], []⟩) 0

end Session

end Guidebook
