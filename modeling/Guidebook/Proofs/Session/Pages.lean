import Guidebook.Proofs.Dialogue.Exchange
import Guidebook.Session

namespace Guidebook

/-- The message without the number of a page. -/
def Message.unpaged : Message → Message
  | .suggestions xs _ => .suggestions xs 1
  | m => m

namespace Session

/-- The session as it is on its first page. -/
def unpaged (s : Session) : Session := { s with page := 1 }

/-- What follows a line, without the numbers of pages. -/
def Turn.unpaged (r : Turn) : Turn :=
  (r.1.map (Event.map Message.unpaged), r.2.map Session.unpaged (Prod.map Session.unpaged id))

theorem unpaged_append (es : List Said) {r r' : Turn} (h : r.unpaged = r'.unpaged) :
    Turn.unpaged (es ++ r.1, r.2) = Turn.unpaged (es ++ r'.1, r'.2) := by
  simp only [Turn.unpaged, List.map_append, Prod.mk.injEq] at h ⊢
  exact ⟨congrArg _ h.1, h.2⟩

variable {x : Setting} (l : Look) (s : Session) (p : Nat)

theorem finish_unpaged : Turn.unpaged s.finish = Turn.unpaged { s with page := p }.finish := by
  have hu : { s with page := p }.unfinished = s.unfinished := rfl
  rw [finish, finish, hu]
  split <;> rfl

theorem leave_unpaged : Turn.unpaged s.leave = Turn.unpaged { s with page := p }.leave := by
  have hd : { s with page := p }.isDone = s.isDone := rfl
  rw [leave, leave, hd]
  split
  · rfl
  · split
    · rfl
    · exact finish_unpaged s p

theorem follow_unpaged (w : Way) :
    Turn.unpaged (s.follow w) = Turn.unpaged ({ s with page := p }.follow w) := by
  cases w with
  | leave => exact leave_unpaged s p
  | finish => exact finish_unpaged s p
  | stay | enter n | quit | ask file => rfl

theorem work_unpaged (w : Work Way) :
    Turn.unpaged (s.work w) = Turn.unpaged ({ s with page := p }.work w) := by
  simp only [work]
  cases (w s.desk).result with
  | error t => rfl
  | ok way =>
    exact unpaged_append (w s.desk).events
      (follow_unpaged { s with desk := (w s.desk).desk } p way)

theorem obey_unpaged (c : Command) :
    Turn.unpaged (s.obey x c) =
      Turn.unpaged ({ s with page := p }.obey { x with look := l } c) := by
  cases c with
  | pick n =>
    have hh : { s with page := p }.here = s.here := rfl
    simp only [obey, hh]
    split
    · split
      · exact work_unpaged s p _
      · exact work_unpaged s p _
    · exact work_unpaged s p _
  | nextStep =>
    simp only [obey]
    split
    · exact finish_unpaged { s with guide := s.guide.markDone s.step } p
    · rfl
  | goto n =>
    simp only [obey]
    split
    · exact work_unpaged s p _
    · rfl
  | finish => exact finish_unpaged s p
  | leave => exact leave_unpaged s p
  | stash c => exact work_unpaged s p _
  | shell t => exact work_unpaged s p _
  | home | suggestions | flow | help | nextPage | prevPage | page n | quit | nothing => rfl

theorem jumpTo_unpaged (t : Text) :
    Turn.unpaged (s.jumpTo t) = Turn.unpaged ({ s with page := p }.jumpTo t) := by
  simp only [jumpTo]
  split
  · rfl
  · split
    · exact work_unpaged s p _
    · split
      · rfl
      · exact work_unpaged s p _

theorem hearLine_unpaged (t : Text) :
    Turn.unpaged (s.hearLine x t) =
      Turn.unpaged ({ s with page := p }.hearLine { x with look := l } t) := by
  obtain ⟨g, n, q, place, desk⟩ := s
  cases place with
  | acknowledge => rfl
  | command =>
    simp only [hearLine]
    cases Command.ofInput x.home t with
    | error m => exact unpaged_append [.remember t] (work_unpaged ⟨g, n, q, .command, desk⟩ p _)
    | ok c => exact unpaged_append [.remember t] (obey_unpaged l ⟨g, n, q, .command, desk⟩ p c)
  | confirm =>
    simp only [hearLine]
    split <;> rfl
  | jump => exact jumpTo_unpaged ⟨g, n, q, .jump, desk⟩ p t
  | placing file => exact work_unpaged ⟨g, n, q, .placing file, desk⟩ p _

/-- The page that a session is on and the look of what it says make a difference to pages alone. -/
theorem hear_unpaged (h : Heard) :
    Turn.unpaged (hear x h s) = Turn.unpaged (hear { x with look := l } h { s with page := p }) := by
  cases h with
  | line t => exact hearLine_unpaged l s p t
  | closed => rfl
  | failed e =>
    obtain ⟨g, n, q, place, desk⟩ := s
    cases place with
    | placing file => exact work_unpaged ⟨g, n, q, .placing file, desk⟩ p _
    | acknowledge | command | confirm | jump => rfl

/-- Nobody can tell two looks apart who does not see the numbers of pages. -/
theorem alike_looks (x : Setting) (l : Look) :
    Dialogue.Alike (dialogue x) (dialogue { x with look := l }) unpaged (Prod.map unpaged id)
      Message.unpaged := by
  -- Two sessions that agree but for their pages are one session with two pages.
  have hpage {s t : Session} (h : s.unpaged = t.unpaged) : t = { s with page := t.page } := by
    obtain ⟨g, n, q, place, desk⟩ := s
    obtain ⟨g', n', q', place', desk'⟩ := t
    cases h
    rfl
  refine ⟨fun {s t} h => ?_, fun {s t} h heard b => ?_, fun {s t} h heard b => ?_⟩
  · rw [hpage h]
    rfl
  · rw [hpage h]
    exact congrArg Prod.fst (hear_unpaged l (s.supplied b) t.page heard)
  · rw [hpage h]
    exact congrArg Prod.snd (hear_unpaged l (s.supplied b) t.page heard)

/-- The look of a session makes no difference to what happens in it, the numbers of pages apart. -/
theorem conduct_unpaged {ι : Type} (x : Setting) (l : Look) (src : Source ι) (i : ι) (g : Guide)
    (desk : Desk) (step : Nat) :
    let r := conduct x src i g desk step
    let r' := conduct { x with look := l } src i g desk step
    r.1.map (Event.map Message.unpaged) = r'.1.map (Event.map Message.unpaged) ∧
    r.2.1.1.unpaged = r'.2.1.1.unpaged ∧ r.2.1.2 = r'.2.1.2 ∧ r.2.2 = r'.2.2 := by
  obtain ⟨hevents, hend, hleft⟩ := (alike_looks x l).run src i (s := (start g desk step).2) rfl
  simp only [Prod.ext_iff, Prod.map_fst, Prod.map_snd, id] at hend
  refine ⟨?_, hend.1, hend.2, hleft⟩
  simp only [conduct, List.map_append, hevents]

end Session

end Guidebook
