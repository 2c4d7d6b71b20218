import Guidebook.Proofs.Session.Course

namespace Guidebook.Session

open Guide

variable {x : Setting} {s : Session} {h : Heard} {n : Session ⊕ (Session × Ending)} {i : Nat}

theorem numbers_marked (s : Session) : (s.marked x h).guide.numbers = s.guide.numbers := by
  rw [marked]
  split
  · simp [numbers]
  · rfl

theorem command?_marked (s : Session) (k : Heard) :
    (s.marked x h).command? x k = s.command? x k := by
  rw [marked]
  split <;> cases k <;> rfl

/-- Only the command that says so marks a step before the session moves on. -/
theorem isDoneAt_marked (hi : i ∈ s.guide.numbers) : (s.marked x h).guide.isDoneAt i ↔
    s.guide.isDoneAt i ∨ s.command? x h = some .nextStep ∧ s.step = i := by
  rw [marked]
  split
  · next hc => simp [isDoneAt_markDone, hc, hi]
  · next hc => simp [hc]

/-- But for that mark, only the end of a finished walkthrough marks a step. -/
theorem isDoneAt_move (hm : Move x h s n) (hi : i ∈ s.guide.numbers) :
    (left n).guide.isDoneAt i ↔
      s.guide.isDoneAt i ∨ (∃ t, n = .inr (t, .completed)) ∧ s.step = i := by
  cases hm with
  | complete hc => simp [left, Session.complete, isDoneAt_markDone, hi]
  | _ => simp [left, enter]

theorem numbers_move (hm : Move x h s n) : (left n).guide.numbers = s.guide.numbers := by
  cases hm with
  | complete hc => simp [left, Session.complete, numbers]
  | _ => rfl

theorem step_of_end {t : Session} {en : Ending} (hm : Move x h s (.inr (t, en))) :
    t.step = s.step := by
  cases hm <;> rfl

theorem isDoneAt_made {e : Round} (he : (dialogue x).Made e) (hi : i ∈ e.before.guide.numbers) :
    (left e.next).guide.isDoneAt i ↔
      e.before.guide.isDoneAt i ∨ e.before.command? x e.heard = some .nextStep ∧ e.before.step = i ∨
        (∃ t, e.next = .inr (t, .completed)) ∧ e.before.step = i := by
  rw [isDoneAt_move (move_made he) (by rwa [numbers_marked]), isDoneAt_marked (by exact hi),
    step_marked, or_assoc]
  rfl

/-- What is done at the end of a session was done before, or one of its rounds says so, or the
session is finished from it. -/
theorem isDoneAt_course {es : List Round} {r : Session × Ending} (hc : (dialogue x).Course s es r)
    (hi : i ∈ s.guide.numbers) :
    r.1.guide.isDoneAt i ↔
      s.guide.isDoneAt i ∨
        (∃ e ∈ es, e.before.command? x e.heard = some .nextStep ∧ e.before.step = i) ∨
        r.2 = .completed ∧ r.1.step = i := by
  induction hc with
  | @last e r he hr =>
    have hd := isDoneAt_made he hi
    have hs : r.1.step = e.before.step := by
      have hm := move_made he
      rw [hr] at hm
      rw [step_of_end hm, step_marked]
      rfl
    have hcompleted : (∃ t, e.next = .inr (t, .completed)) ↔ r.2 = .completed := by
      simp [hr, Prod.ext_iff]
    rw [hcompleted, hr] at hd
    simpa [hs, left] using hd
  | @more e t es r he ht hc ih =>
    have hd := isDoneAt_made he hi
    have hn : t.guide.numbers = e.before.guide.numbers := by
      have hm := numbers_move (move_made he)
      rwa [ht, numbers_marked] at hm
    rw [ht] at hd
    have hd' : t.guide.isDoneAt i ↔ e.before.guide.isDoneAt i ∨
        e.before.command? x e.heard = some .nextStep ∧ e.before.step = i := by
      simpa [left] using hd
    simp only [ih (hn ▸ hi), hd', List.exists_mem_cons_iff, or_assoc]

/-- How a round finishes a walkthrough: a command leads to the end of it and every other step is
done, or it is to be finished anyway. -/
inductive Finishes (x : Setting) (e : Round) : Prop where
  | allDone (c : Command) (hc : e.before.command? x e.heard = some c)
    (hf : c = .finish ∨ c = .nextStep ∨ c = .leave)
    (hd : ∀ j ∈ e.before.guide.numbers, j ≠ e.before.step → e.before.guide.isDoneAt j)
  | anyway (l : Text) (hp : e.before.place = .confirm) (hl : e.heard = .line l)
    (hy : Text.isYes (Text.trim l))

theorem completes_of_move {t : Session} (hm : Move x h s (.inr (t, .completed))) :
    s.Completes x h := by
  cases hm with
  | complete hc => exact hc

theorem finishes_of_made {e : Round} {t : Session} (he : (dialogue x).Made e)
    (ht : e.next = .inr (t, .completed)) : Finishes x e := by
  have hm := move_made he
  rw [ht] at hm
  cases completes_of_move hm with
  | nothingLeft c hc hf hu =>
    refine .allDone c (by rwa [command?_marked] at hc) hf fun j hj hne => ?_
    by_contra hd
    have hp : j ∈ ((e.before.supplied e.behind).marked x e.heard).unfinished := by
      rw [unfinished, List.mem_filter, mem_pending, numbers_marked, isDoneAt_marked (by exact hj),
        step_marked]
      exact ⟨⟨hj, fun h => hd (h.resolve_right fun hs => hne hs.2.symm)⟩, decide_eq_true hne⟩
    rw [hu] at hp
    cases hp
  | confirmed l hp hl hy =>
    refine .anyway l ?_ hl hy
    rw [marked] at hp
    split at hp <;> exact hp

/-- What comes of the answers to the questions at the end of a walkthrough. Only the number of a
step leads away from the step, and nothing is marked. -/
structure Answers (e : Round) : Prop where
  declined (l : Text) (hp : e.before.place = .confirm) (hl : e.heard = .line l)
    (hy : ¬ Text.isYes (Text.trim l)) :
    ∃ t, e.next = .inl t ∧ t.place = .jump ∧ t.guide = e.before.guide ∧
      t.position = e.before.position
  cancelled (l : Text) (hp : e.before.place = .jump) (hl : e.heard = .line l)
    (hn : ∀ n ∈ e.before.guide.numbers, Text.natural? (Text.trim l) ≠ some n) :
    ∃ t, e.next = .inl t ∧ t.place = .command ∧ t.guide = e.before.guide ∧
      t.position = e.before.position
  jumped (l : Text) (n : Nat) (hp : e.before.place = .jump) (hl : e.heard = .line l)
    (hn : n ∈ e.before.guide.numbers) (ha : Text.natural? (Text.trim l) = some n) :
    ∃ t, e.next = .inl t ∧ t.place = .acknowledge ∧ t.guide = e.before.guide ∧ t.position = (n, 1)

theorem jumpTo_of_ne {l : Text} (hn : ∀ n ∈ s.guide.numbers, Text.natural? (Text.trim l) ≠ some n) :
    (s.jumpTo l).2 = .inl { s with place := .command } := by
  rw [jumpTo]
  split
  · rfl
  · split
    · rfl
    · next n hk =>
      rw [if_neg fun hc => hn n (mem_numbers.mpr hc) hk]
      rfl

theorem jumpTo_of_mem {l : Text} {n : Nat} (hn : n ∈ s.guide.numbers)
    (ha : Text.natural? (Text.trim l) = some n) : (s.jumpTo l).2 = .inl (s.enter n).2 := by
  rw [jumpTo]
  split
  · next he =>
    rw [List.isEmpty_iff.mp he] at ha
    cases ha
  · rw [ha]
    simp only [if_pos (mem_numbers.mp hn)]
    rfl

theorem answers_of_made {e : Round} (he : (dialogue x).Made e) : Answers e := by
  have hh := next_made he
  refine ⟨fun l hp hl hy => ?_, fun l hp hl hn => ?_, fun l n hp hl hn ha => ?_⟩
  · rw [hl, hear_confirm (by exact hp), if_neg hy] at hh
    exact ⟨_, hh.symm, rfl, rfl, rfl⟩
  · rw [hl, hear_jump (by exact hp), jumpTo_of_ne (by exact hn)] at hh
    exact ⟨_, hh.symm, rfl, rfl, rfl⟩
  · rw [hl, hear_jump (by exact hp), jumpTo_of_mem (by exact hn) ha] at hh
    exact ⟨_, hh.symm, rfl, rfl, rfl⟩

/-- A step is done at the end of a session if and only if it was done before, or somebody said so at
the step, or the walkthrough was finished from it. It is finished only when nothing else is left to
do or somebody wants it anyway, and to decide against it changes nothing. -/
theorem conduct_done {ι : Type} (x : Setting) (src : Source ι) (i : ι) (g : Guide) (desk : Desk)
    (step : Nat) :
    let r := (conduct x src i g desk step).2.1
    (∀ k ∈ g.numbers, r.1.guide.isDoneAt k ↔
      g.isDoneAt k ∨
        (∃ e ∈ rounds x src i g desk step,
          e.before.command? x e.heard = some .nextStep ∧ e.before.step = k) ∨
        r.2 = .completed ∧ r.1.step = k) ∧
    (r.2 = .completed → ∃ e ∈ rounds x src i g desk step, e.next = .inr r ∧ Finishes x e) ∧
    ∀ e ∈ rounds x src i g desk step, Answers e := by
  have hc := course_conduct x src i g desk step
  refine ⟨fun k hk => isDoneAt_course hc hk, fun hr => ?_,
    fun e he => answers_of_made (hc.made e he)⟩
  obtain ⟨e, he, ht⟩ := hc.ends
  exact ⟨e, he, ht, finishes_of_made (hc.made e he) (ht.trans (by rw [← hr]))⟩

end Guidebook.Session
