import Guidebook.Proofs.Dialogue.Script
import Guidebook.Proofs.Session.Events

namespace Guidebook

/-- An exchange of a session. -/
abbrev Round := Exchange Session (Session × Ending) Message

namespace Session

/-- Where something that follows leaves a session. -/
def left : Session ⊕ (Session × Ending) → Session := Sum.elim id Prod.fst

/-- The step and the page that a session is at. -/
def position (s : Session) : Nat × Nat := (s.step, s.page)

section Rounds

variable {ι : Type} (x : Setting) (src : Source ι) (i : ι) (g : Guide) (desk : Desk) (step : Nat)

/-- The rounds of a session, from its first step to its end. -/
def rounds : List Round := (dialogue x).exchanges src i (start g desk step).2

theorem conduct_events :
    (conduct x src i g desk step).1 =
      (start g desk step).1 ++ (rounds x src i g desk step).flatMap (dialogue x).record := by
  rw [rounds, ← Dialogue.run_events]
  rfl

theorem course_conduct :
    (dialogue x).Course (start g desk step).2 (rounds x src i g desk step)
      (conduct x src i g desk step).2.1 :=
  (dialogue x).course_exchanges i (start g desk step).2

variable {x}

theorem events_made {e : Round} (he : (dialogue x).Made e) :
    (hear x e.heard (e.before.supplied e.behind)).1 = e.events := congrArg Prod.fst he

theorem next_made {e : Round} (he : (dialogue x).Made e) :
    (hear x e.heard (e.before.supplied e.behind)).2 = e.next := congrArg Prod.snd he

theorem move_made {e : Round} (he : (dialogue x).Made e) :
    Move x e.heard ((e.before.supplied e.behind).marked x e.heard) e.next := by
  rw [← next_made he]
  exact move_hear x e.heard (e.before.supplied e.behind)

section Desk

theorem desk_finish (s : Session) : (left s.finish.2).desk = s.desk := by
  rw [finish]
  split <;> rfl

theorem desk_leave (s : Session) : (left s.leave.2).desk = s.desk := by
  rw [leave]
  split
  · rfl
  · split
    · rfl
    · exact desk_finish s

theorem desk_follow (s : Session) (way : Way) : (left (s.follow way).2).desk = s.desk := by
  cases way with
  | stay | enter n | quit | ask file => rfl
  | leave => exact desk_leave s
  | finish => exact desk_finish s

/-- Wherever work leads, the desk is as the work has left it. -/
theorem desk_work (s : Session) (w : Work Way) : (left (s.work w).2).desk = (w s.desk).desk := by
  rw [work]
  dsimp only
  split
  · rfl
  · exact desk_follow _ _

theorem desk_staying (w : Work Unit) (d : Desk) : (staying w d).desk = (w d).desk := by
  rw [staying, Work.desk_bind]
  split <;> rfl

/-- Work that has no way of its own to go leads back to the prompt. -/
theorem work_staying (s : Session) (w : Work Unit) : (s.work (staying w)).2 =
    .inl { s with place := .command, desk := (w s.desk).desk } := by
  have hr : (staying w s.desk).result = (w s.desk).result.map fun _ => .stay := by
    rw [staying, Work.result_bind]
    cases (w s.desk).result <;> rfl
  rw [work]
  dsimp only
  rw [desk_staying, hr]
  cases (w s.desk).result <;> rfl

theorem desk_fail (s : Session) (m : Mistake) : (left (s.fail m).2).desk = s.desk := desk_work s _

end Desk

end Rounds

section Placed

open Guide

variable {x : Setting} {g : Guide} {s : Session} {h : Heard} {n : Session ⊕ (Session × Ending)}

/-- A session stands at a step of its guide and on a page of that step, on the first one as long as
it enters the step, and the guide is the one that it began with but for steps done since. -/
structure Placed (x : Setting) (g : Guide) (s : Session) : Prop where
  step_pos : 1 ≤ s.step
  step_le : s.step ≤ s.guide.stepCount
  page_pos : 1 ≤ s.page
  page_le : s.page ≤ x.look.pager.lastPage s.here.length
  entering : s.place = .acknowledge → s.page = 1
  guide : Later g s.guide

theorem Placed.supplied (hs : Placed x g s) (input : Bytes) : Placed x g (s.supplied input) :=
  ⟨hs.step_pos, hs.step_le, hs.page_pos, hs.page_le, hs.entering, hs.guide⟩

theorem Placed.markDone (hs : Placed x g s) :
    Placed x g { s with guide := s.guide.markDone s.step } := by
  have hl : Later s.guide (s.guide.markDone s.step) := .markDone s.guide s.step
  refine ⟨hs.step_pos, ?_, hs.page_pos, ?_, hs.entering, hs.guide.trans hl⟩
  · simpa using hs.step_le
  · simpa [here, hl.suggestionsOf] using hs.page_le

theorem Placed.marked (hs : Placed x g s) (h : Heard) : Placed x g (s.marked x h) := by
  rw [Session.marked]
  split
  · exact hs.markDone
  · exact hs

theorem placed_move (hs : Placed x g s) (hm : Move x h s n) : Placed x g (left n) := by
  cases hm with
  | rest d p hp =>
    exact ⟨hs.step_pos, hs.step_le, hs.page_pos, hs.page_le, fun ha => absurd ha hp, hs.guide⟩
  | turn n hp =>
    refine ⟨hs.step_pos, hs.step_le, x.look.pager.clamp_pos _ _, x.look.pager.clamp_le _ _, ?_,
      hs.guide⟩
    intro ha
    simp [left, hp] at ha
  | enter n hn =>
    obtain ⟨h1, hle⟩ := Guide.mem_numbers.mp hn
    exact ⟨h1, hle, Nat.le_refl 1, x.look.pager.lastPage_pos _, fun _ => rfl, hs.guide⟩
  | complete hc => exact hs.markDone
  | quit hc | close hc | fail e hc => exact hs

theorem later_marked (x : Setting) (h : Heard) (s : Session) :
    Later s.guide (s.marked x h).guide := by
  rw [marked]
  split
  · exact .markDone s.guide s.step
  · exact .refl s.guide

theorem later_move (hm : Move x h s n) : Later s.guide (left n).guide := by
  cases hm with
  | complete hc => exact .markDone s.guide s.step
  | _ => exact .refl s.guide

/-- No session comes to another step but by entering it. -/
theorem entering_move (hm : Move x h s n) (hn : (left n).step ≠ s.step) :
    (left n).place = .acknowledge := by
  cases hm with
  | enter n hn => rfl
  | _ => exact absurd rfl hn

/-- What a round hands on is placed, and nothing that was done is undone. -/
theorem placed_made {e : Round} (he : (dialogue x).Made e) (hs : Placed x g e.before) :
    Placed x g (left e.next) ∧ Later e.before.guide (left e.next).guide :=
  ⟨placed_move ((hs.supplied e.behind).marked e.heard) (move_made he),
    (later_marked x e.heard (e.before.supplied e.behind)).trans (later_move (move_made he))⟩

theorem entering_made {e : Round} (he : (dialogue x).Made e)
    (hn : (left e.next).step ≠ e.before.step) : (left e.next).place = .acknowledge := by
  refine entering_move (move_made he) ?_
  rwa [step_marked]

theorem placed_start (hg : 1 ≤ g.stepCount) (desk : Desk) (step : Nat) :
    Placed x g (start g desk step).2 := by
  refine ⟨?_, ?_, Nat.le_refl 1, x.look.pager.lastPage_pos _, fun _ => rfl, .refl g⟩
  · simp only [start, enter]
    omega
  · simp only [start, enter]
    omega

/-- Whenever a session asks, it is placed. -/
theorem placed_course {es : List Round} {r : Session × Ending} {desk : Desk} {step : Nat}
    (hg : 1 ≤ g.stepCount) (hc : (dialogue x).Course (start g desk step).2 es r) :
    ∀ e ∈ es, Placed x g e.before := by
  refine hc.invariant (P := Placed x g) (fun e t he hb ht => ?_) (placed_start hg desk step)
  have hp := (placed_made he hb).1
  rwa [ht] at hp

end Placed

end Session

theorem incidental_heard? : Incidental fun e => e.heard? = none :=
  ⟨⟨fun _ => rfl, fun _ => rfl, fun _ => rfl⟩, fun _ _ => rfl⟩

namespace Session

variable {x : Setting} {ι : Type}

theorem reads_start (g : Guide) (desk : Desk) (step : Nat) : reads (start g desk step).1 = [] :=
  reads_eq_nil (of_mem_enter incidental_heard? _ _)

theorem reads_made {e : Round} (he : (dialogue x).Made e) : reads e.events = [] := by
  rw [← events_made he]
  exact reads_eq_nil (of_mem_hear incidental_heard? (fun _ => rfl) (fun _ => rfl) x _ _)

/-- A session reads once in each of its rounds and nowhere else. -/
theorem reads_conduct (x : Setting) (src : Source ι) (i : ι) (g : Guide) (desk : Desk)
    (step : Nat) :
    reads (conduct x src i g desk step).1 = (rounds x src i g desk step).map Exchange.heard := by
  rw [conduct_events, reads_append, reads_start, List.nil_append]
  exact Dialogue.reads_records fun e he =>
    reads_made ((course_conduct x src i g desk step).made e he)

/-- A session ends for its input if and only if that is closed. -/
theorem made_closed {e : Round} (he : (dialogue x).Made e) :
    e.heard = .closed ↔ ∃ t, e.next = .inr (t, .inputClosed) := by
  constructor
  · intro hc
    have hh := next_made he
    rw [hc, hear_closed] at hh
    exact ⟨_, hh.symm⟩
  · rintro ⟨t, ht⟩
    have hm := move_made he
    rw [ht] at hm
    cases hm with
    | close hc => exact hc

/-- The end of the input is the last that a session hears, and the session ends for it. -/
theorem closed_course {s : Session} {es : List Round} {r : Session × Ending}
    (hc : (dialogue x).Course s es r) :
    (r.2 = .inputClosed ↔ .closed ∈ es.map Exchange.heard) ∧
    .closed ∉ (es.map Exchange.heard).dropLast := by
  obtain ⟨fs, e, rfl, hr, hfs⟩ := hc.concat
  have hbefore : Heard.closed ∉ fs.map Exchange.heard := by
    rw [List.mem_map]
    rintro ⟨f, hf, hh⟩
    obtain ⟨t, ht⟩ := hfs f hf
    obtain ⟨u, hu⟩ := (made_closed (hc.made f (by simp [hf]))).mp hh
    rw [ht] at hu
    cases hu
  have hlast : e.heard = .closed ↔ r.2 = .inputClosed := by
    rw [made_closed (hc.made e (by simp)), hr]
    simp [Prod.ext_iff]
  refine ⟨?_, by simpa using hbefore⟩
  rw [List.map_append, List.mem_append, or_iff_right hbefore, ← hlast]
  simp [eq_comm]

/-- A session over a script hears its lines one after the other, and once at most that the script is
closed, so it reads at most once more than there are lines. Whatever it reads from, it ends for its
input if and only if that is closed, at whatever place it asks, and then this is the last that it
hears. -/
theorem conduct_reads (x : Setting) (g : Guide) (desk : Desk) (step : Nat) :
    (∀ bs, let r := conduct x Plain.source (Plain.chunks bs) g desk step
      reads r.1 <+: (Plain.chunks bs).map Plain.hear ++ [.closed] ∧
      (reads r.1).length ≤ (Plain.chunks bs).length + 1 ∧
      r.2.2 = (Plain.chunks bs).drop (reads r.1).length) ∧
    ∀ {ι : Type} (src : Source ι) (i : ι), let r := conduct x src i g desk step
      reads r.1 = (rounds x src i g desk step).map Exchange.heard ∧
      (∀ e ∈ rounds x src i g desk step,
        e.heard = .closed ↔ ∃ t, e.next = .inr (t, .inputClosed)) ∧
      (r.2.1.2 = .inputClosed ↔ .closed ∈ reads r.1) ∧
      .closed ∉ (reads r.1).dropLast := by
  refine ⟨fun bs => ?_, fun src i => ?_⟩
  · have hclosed (b : Bytes) (s : Session) : ∃ r, ((dialogue x).hear .closed b s).2 = .inr r :=
      ⟨_, congrArg Prod.snd (hear_closed (x := x) (s := s.supplied b))⟩
    obtain ⟨hp, hl⟩ := Dialogue.heard_plain hclosed (Plain.chunks bs) (start g desk step).2
    dsimp only
    rw [reads_conduct]
    exact ⟨hp, by simpa [rounds] using hp.length_le, by rw [List.length_map]; exact hl⟩
  · dsimp only
    rw [reads_conduct]
    have hc := course_conduct x src i g desk step
    exact ⟨rfl, fun e he => made_closed (hc.made e he), closed_course hc⟩

end Session

end Guidebook
