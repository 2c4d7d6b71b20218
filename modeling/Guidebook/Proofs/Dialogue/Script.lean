import Guidebook.Input.Plain
import Guidebook.Proofs.Dialogue.Exchange

namespace Guidebook

/-- What is heard, if the event is that. -/
def Event.heard? {μ : Type} : Event μ → Option Heard
  | .read _ h _ => some h
  | _ => none

/-- What is heard, in order. -/
def reads {μ : Type} (es : List (Event μ)) : List Heard := es.filterMap Event.heard?

theorem reads_append {μ : Type} (es fs : List (Event μ)) :
    reads (es ++ fs) = reads es ++ reads fs := List.filterMap_append

theorem reads_eq_nil {μ : Type} {es : List (Event μ)} (h : ∀ e ∈ es, e.heard? = none) :
    reads es = [] := List.filterMap_eq_nil_iff.mpr h

namespace Dialogue

variable {σ ρ μ ι : Type} {d : Dialogue σ ρ μ}

/-- Where nothing is read between the questions, each exchange reads once. -/
theorem reads_records {es : List (Exchange σ ρ μ)} (h : ∀ e ∈ es, reads e.events = []) :
    reads (es.flatMap d.record) = es.map Exchange.heard := by
  induction es with
  | nil => rfl
  | cons e es ih =>
    rw [List.forall_mem_cons] at h
    have hr : reads (d.record e) = e.heard :: reads e.events := rfl
    rw [List.flatMap_cons, reads_append, hr, h.1, ih h.2]
    rfl

theorem after_plain (cs : List Bytes) (es : List (Event μ)) : after Plain.source cs es = cs := by
  induction es with
  | nil => rfl
  | cons e es ih => cases e <;> exact ih

theorem rest_plain (cs : List Bytes) (s : σ) : d.rest Plain.source cs s = cs.tail := by
  rw [rest, after_plain]
  cases cs <;> rfl

/-- A script that is closed stays closed. -/
theorem heard_closed (s : σ) :
    (d.exchanges Plain.source [] s).map Exchange.heard =
      List.replicate (d.exchanges Plain.source [] s).length .closed := by
  generalize hcs : ([] : List Bytes) = cs
  induction cs, s using exchanges.induct d Plain.source with
  | case1 cs s r h =>
    subst hcs
    rw [d.exchanges_last h]
    rfl
  | case2 cs s t h ih =>
    subst hcs
    rw [rest_plain] at ih
    rw [d.exchanges_more h, rest_plain, List.map_cons, List.length_cons, List.replicate_succ]
    exact congrArg (_ :: ·) (ih rfl)

theorem run_closed (s : σ) : (d.run Plain.source [] s).2.2 = [] := by
  generalize hcs : ([] : List Bytes) = cs
  induction cs, s using exchanges.induct d Plain.source with
  | case1 cs s r h =>
    subst hcs
    rw [d.run_last h, rest_plain, List.tail_nil]
  | case2 cs s t h ih =>
    subst hcs
    rw [rest_plain] at ih
    rw [d.run_more h, rest_plain]
    exact ih rfl

/-- As long as it is closed, a conversation comes nearer to its end each time. -/
theorem length_closed (s : σ) : (d.exchanges Plain.source [] s).length ≤ d.rank s + 1 := by
  generalize hcs : ([] : List Bytes) = cs
  induction cs, s using exchanges.induct d Plain.source with
  | case1 cs s r h =>
    rw [d.exchanges_last h, List.length_singleton]
    exact Nat.le_add_left ..
  | case2 cs s t h ih =>
    subst hcs
    have hr : d.rank t < d.rank s := d.rank_closed _ s t h
    rw [rest_plain] at ih
    rw [d.exchanges_more h, rest_plain, List.length_cons]
    have := ih rfl
    omega

/-- The lines of a script are heard one after the other, and after the last one that it is closed.
What has not been heard is left. -/
theorem heard_script {k : Nat} (hk : ∀ s, (d.exchanges Plain.source [] s).length ≤ k)
    (cs : List Bytes) (s : σ) :
    (d.exchanges Plain.source cs s).map Exchange.heard <+:
      cs.map Plain.hear ++ List.replicate k .closed ∧
    (d.run Plain.source cs s).2.2 = cs.drop (d.exchanges Plain.source cs s).length := by
  induction cs generalizing s with
  | nil =>
    obtain ⟨n, hn⟩ := Nat.exists_eq_add_of_le (hk s)
    rw [heard_closed, run_closed, List.drop_nil, hn, ← List.replicate_append_replicate]
    exact ⟨List.prefix_append .., rfl⟩
  | cons c cs ih =>
    have hh : (d.exchange Plain.source (c :: cs) s).heard = Plain.hear c := rfl
    cases hn : (d.exchange Plain.source (c :: cs) s).next with
    | inr r =>
      rw [d.exchanges_last hn, d.run_last hn, rest_plain]
      simp [hh]
    | inl t =>
      obtain ⟨hp, hl⟩ := ih t
      rw [d.exchanges_more hn, d.run_more hn, rest_plain]
      simpa [hh] using ⟨hp, hl⟩

/-- Where a conversation ends as soon as its input is closed, it hears that once. -/
theorem heard_plain (hclosed : ∀ b s, ∃ r, (d.hear .closed b s).2 = .inr r) (cs : List Bytes)
    (s : σ) :
    (d.exchanges Plain.source cs s).map Exchange.heard <+: cs.map Plain.hear ++ [.closed] ∧
    (d.run Plain.source cs s).2.2 = cs.drop (d.exchanges Plain.source cs s).length := by
  refine heard_script (k := 1) (fun s => ?_) cs s
  obtain ⟨r, hr⟩ := hclosed (Plain.source.behind []) s
  have hn : (d.exchange Plain.source [] s).next = .inr r := hr
  exact Nat.le_of_eq (congrArg List.length (d.exchanges_last hn))

end Dialogue

end Guidebook
