import Guidebook.Input.Plain
import Guidebook.Proofs.Checked
import Guidebook.Proofs.Session.Course

namespace Guidebook.Session

open Guide Checked

variable {x : Setting} {g : Guide} {s : Session}

/-- The suggestions that a page shows, when every sum, product, difference and place is checked. -/
def shown? (x : Setting) (s : Session) : Option (List (Suggestion × Nat)) := do
  let xs ← s.guide.suggestionsOf? s.step
  let (first, last) ← x.look.pager.visible? s.page xs.length
  items? xs first last

/-- The page that is turned to, when everything is checked. -/
def turn? (x : Setting) (s : Session) (page : Nat) : Option (Nat × Nat) := do
  let xs ← s.guide.suggestionsOf? s.step
  return (s.step, ← x.look.pager.clamp? page xs.length)

/-- Step and page after a command, when everything is checked. -/
def reckon? (x : Setting) (s : Session) : Command → Option (Nat × Nat)
  | .home => some (s.step, 1)
  | .pick n => do
    let xs ← s.guide.suggestionsOf? s.step
    if n = 0 ∨ xs.length < n then return (s.step, s.page)
    else
      let i ← difference? n 1
      let _ ← xs[i]?
      return (s.step, s.page)
  | .nextStep =>
    if s.guide.stepCount ≤ s.step then some (s.step, s.page) else return (← sum? s.step 1, 1)
  | .goto n => if n = 0 ∨ s.guide.stepCount < n then some (s.step, s.page) else some (n, 1)
  | .nextPage => do s.turn? x (← sum? s.page 1)
  | .prevPage => s.turn? x (s.page - 1)
  | .page n => s.turn? x n
  | .leave =>
    if !s.isDone then some (s.step, 1)
    else if s.step < s.guide.stepCount then return (← sum? s.step 1, 1)
    else some (s.step, s.page)
  | _ => some (s.step, s.page)

/-- Nothing that a session computes is too large, below zero or outside of a list. -/
structure Reckons (x : Setting) (s : Session) : Prop where
  shown : s.shown? x =
    let (first, last) := x.look.pager.visible s.page s.here.length
    some (Message.slice first last s.here)
  obeyed (c : Command) : s.reckon? x c = some (left (s.obey x c).2).position

theorem position_finish (s : Session) : (left s.finish.2).position = s.position := by
  rw [finish]
  split <;> rfl

theorem position_work {w : Work Way} (hw : Work.Yields Way.Keeps w) :
    (left (s.work w).2).position = s.position := by
  rw [work]
  dsimp only
  split
  · rfl
  · next way hr => cases hw _ _ hr <;> rfl

theorem position_pick (s : Session) (n : Nat) :
    (left (s.obey x (.pick n)).2).position = s.position := by
  simp only [obey]
  split
  · split
    · exact position_work (yields_staying _)
    · rfl
  · rfl

section Reckoning

variable (hb : s.guide.Bounded)

include hb

theorem turn?_eq (n : Nat) : s.turn? x n = some (s.step, x.look.pager.clamp n s.here.length) := by
  have hl := hb.length_suggestionsOf s.step
  have hc := x.look.pager.clamp?_eq n (show s.here.length < Text.numberBound by rw [here]; omega)
  rw [here] at hc ⊢
  simp [turn?, suggestionsOf?_eq hb, hc]

theorem reckon?_pick (n : Nat) : s.reckon? x (.pick n) = some s.position := by
  simp only [reckon?, suggestionsOf?_eq hb, Option.bind_eq_bind, Option.bind_some]
  split
  · rfl
  · next hn =>
    have hi : n - 1 < (s.guide.suggestionsOf s.step).length := by omega
    simp [difference?_eq (show 1 ≤ n by omega), List.getElem?_eq_getElem hi, position]

theorem reckon?_nextStep : s.reckon? x .nextStep = some (left (s.obey x .nextStep).2).position := by
  have hc := hb.steps
  simp only [reckon?, obey, stepCount_markDone]
  split
  · exact congrArg some (position_finish { s with guide := s.guide.markDone s.step }).symm
  · rw [sum?_eq (by omega)]
    rfl

theorem reckon?_leave : s.reckon? x .leave = some (left (s.obey x .leave).2).position := by
  have hc := hb.steps
  simp only [reckon?, obey, leave]
  split
  · rfl
  · split
    · rw [sum?_eq (by omega)]
      rfl
    · exact congrArg some (position_finish s).symm

theorem reckon?_nextPage (hs : Placed x g s) :
    s.reckon? x .nextPage = some (left (s.obey x .nextPage).2).position := by
  have ht := hb.length_suggestionsOf s.step
  have hn : 4 ≤ Text.numberBound := by decide
  have hl := Nat.le_trans hs.page_le (x.look.pager.lastPage_le s.here.length)
  rw [here] at hl
  rw [reckon?, sum?_eq (by omega)]
  exact turn?_eq hb _

/-- With every check, a command leads to the same step and page as without them. -/
theorem reckon?_eq (hs : Placed x g s) (c : Command) :
    s.reckon? x c = some (left (s.obey x c).2).position := by
  cases c with
  | home | suggestions | flow | help | nothing | quit => rfl
  | pick n => rw [reckon?_pick hb, position_pick]
  | nextStep => exact reckon?_nextStep hb
  | goto n =>
    simp only [reckon?, obey]
    split <;> rfl
  | nextPage => exact reckon?_nextPage hb hs
  | prevPage | page n => exact turn?_eq hb _
  | finish => exact congrArg some (position_finish s).symm
  | leave => exact reckon?_leave hb
  | stash c => exact congrArg some (position_work (yields_stashWork x c)).symm
  | shell t => exact congrArg some (position_work (yields_staying _)).symm

theorem shown?_eq (hp : x.look.pager.size < Text.numberBound) :
    s.shown? x = some (Message.slice (x.look.pager.visible s.page s.here.length).1
      (x.look.pager.visible s.page s.here.length).2 s.here) := by
  have ht := hb.length_suggestionsOf s.step
  rw [here]
  simp only [shown?, suggestionsOf?_eq hb, Option.bind_eq_bind, Option.bind_some,
    x.look.pager.visible?_eq s.page hp (Nat.le_of_lt ht)]
  exact items?_eq (by omega) (Nat.min_le_right ..)

end Reckoning

/-- Wherever a session asks, and where it ends, it stands at a step of the guide and on a page of
that step. It comes to another step on its first page. What was done stays done, the rest of the
guide stays as it was built, and nothing that a command computes from the position is too large,
below zero or outside of a list: a page size is a number, and of the records that fit into memory
there are fewer than half as many as there are numbers. -/
theorem conduct_placed {rs : List Record} {g : Guide} (hg : ofRecords rs = .ok g) (x : Setting)
    {ι : Type} (src : Source ι) (i : ι) (desk : Desk) (step : Nat) :
    (∀ e ∈ rounds x src i g desk step,
      Placed x g e.before ∧ Placed x g (left e.next) ∧ Later e.before.guide (left e.next).guide ∧
      ((left e.next).step ≠ e.before.step → (left e.next).place = .acknowledge)) ∧
    Placed x g (conduct x src i g desk step).2.1.1 ∧
    (x.look.pager.size < Text.numberBound → 2 * rs.length < Text.numberBound →
      ∀ e ∈ rounds x src i g desk step, Reckons x e.before) := by
  have hc := course_conduct x src i g desk step
  have hs : Placed x g (start g desk step).2 :=
    placed_start (stepCount_pos_of_ofRecords hg) desk step
  have hall := hc.invariant (P := Placed x g) (fun e t he hb ht => by
    have hp := (placed_made he hb).1
    rwa [ht] at hp) hs
  refine ⟨fun e he => ?_, ?_, ?_⟩
  · obtain ⟨hp, hl⟩ := placed_made (hc.made e he) (hall e he)
    exact ⟨hall e he, hp, hl, entering_made (hc.made e he)⟩
  · obtain ⟨e, he, hr⟩ := hc.ends
    have hp := (placed_made (hc.made e he) (hall e he)).1
    rwa [hr] at hp
  · intro hp hr e he
    have hb := (bounded_of_ofRecords hg hr).later (hall e he).guide
    exact ⟨shown?_eq hb hp, reckon?_eq hb (hall e he)⟩

/-- Two steps, the first with more suggestions than a page of two shows. -/
def twoSteps : Guide where
  steps := [⟨"Collect".toList, none, .todo, 0, 3⟩, ⟨"Report".toList, none, .todo, 3, 0⟩]
  suggestions := ["ls", "df", "ps"].map fun c => ⟨.cmd, none, c.toList⟩

/-- A session that turns the page of its first step and goes on to the second one. -/
theorem conduct_placed_twoSteps :
    let x : Setting := ⟨⟨false, Pager.ofSize 2⟩, Runner.ofScripts [] [], none, 0⟩
    let i := Plain.chunks (Utf8.encode "\nnp\nns\n".toList)
    let desk := Desk.openAt "/state".toList "/tmp".toList 100 ⟨[], [], []⟩
    let es := rounds x Plain.source i twoSteps desk 0
    es.map (·.before.position) = [(1, 1), (1, 1), (1, 2), (2, 1)] ∧
    (∀ e ∈ es, Placed x twoSteps e.before ∧ Reckons x e.before) ∧
    Placed x twoSteps (conduct x Plain.source i twoSteps desk 0).2.1.1 := by
  have hg : ofRecords twoSteps.records = .ok twoSteps := by decide
  refine ⟨?_, fun e he => ?_, (conduct_placed hg ..).2.1⟩
  · rw [rounds, Dialogue.exchanges_more _ (t := ⟨twoSteps, 1, 1, .command, _⟩) rfl,
      Dialogue.exchanges_more _ (t := ⟨twoSteps, 1, 2, .command, _⟩) rfl,
      Dialogue.exchanges_more _ (t := ⟨twoSteps.markDone 1, 2, 1, .acknowledge, _⟩) rfl,
      Dialogue.exchanges_last _
        (r := (⟨twoSteps.markDone 1, 2, 1, .acknowledge, _⟩, .inputClosed)) rfl]
    rfl
  · obtain ⟨hp, -, hk⟩ := conduct_placed hg
      ⟨⟨false, Pager.ofSize 2⟩, Runner.ofScripts [] [], none, 0⟩ Plain.source _ _ 0
    exact ⟨(hp e he).1, hk (by decide) (by decide) e he⟩

end Guidebook.Session
