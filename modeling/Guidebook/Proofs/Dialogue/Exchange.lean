import Guidebook.Dialogue

namespace Guidebook

/-- One exchange of a conversation: the state that asks, what is heard and shown, what is behind
that in the input, and what follows. -/
structure Exchange (σ ρ μ : Type) where
  before : σ
  heard : Heard
  shown : Text
  behind : Bytes
  events : List (Event μ)
  next : σ ⊕ ρ

namespace Dialogue

variable {σ ρ μ ι : Type} (d : Dialogue σ ρ μ) (src : Source ι)

/-- The exchange in which a state reads its line from an input. -/
def exchange (i : ι) (s : σ) : Exchange σ ρ μ :=
  let r := src.read (d.prompt s) i
  let a := d.hear r.1 (src.behind r.2.2) s
  ⟨s, r.1, r.2.1, src.behind r.2.2, a.1, a.2⟩

/-- What an exchange leaves of the input. -/
def rest (i : ι) (s : σ) : ι :=
  after src (src.read (d.prompt s) i).2.2 (d.exchange src i s).events

/-- Everything that happens in an exchange. -/
def record (e : Exchange σ ρ μ) : List (Event μ) :=
  .read (d.prompt e.before) e.heard e.shown :: e.events

/-- An exchange that goes on brings the conversation nearer to its end. -/
theorem nearer {i : ι} {s t : σ} (h : (d.exchange src i s).next = .inl t) :
    Prod.Lex (· < ·) (· < ·) (src.left (d.rest src i s), d.rank t) (src.left i, d.rank s) := by
  have ha : src.left (d.rest src i s) ≤ src.left (src.read (d.prompt s) i).2.2 :=
    left_after src _ (d.exchange src i s).events
  rcases src.left_read (d.prompt s) i with hl | ⟨hl, hc⟩
  · exact .left _ _ (Nat.lt_of_le_of_lt ha hl)
  · have hr : d.rank t < d.rank s := by
      have hh : (d.hear (src.read (d.prompt s) i).1 (d.exchange src i s).behind s).2 = .inl t := h
      rw [hc] at hh
      exact d.rank_closed _ s t hh
    rcases Nat.lt_or_eq_of_le (hl ▸ ha) with hlt | heq
    · exact .left _ _ hlt
    · rw [heq]
      exact .right _ hr

/-- All exchanges from a state to the end. -/
def exchanges (i : ι) (s : σ) : List (Exchange σ ρ μ) :=
  match _ : (d.exchange src i s).next with
  | .inr _ => [d.exchange src i s]
  | .inl t => d.exchange src i s :: exchanges (d.rest src i s) t
termination_by (src.left i, d.rank s)
decreasing_by exact d.nearer src ‹_›

variable {src} {i : ι} {s t : σ} {r : ρ}

theorem exchanges_last (h : (d.exchange src i s).next = .inr r) :
    d.exchanges src i s = [d.exchange src i s] := by
  rw [exchanges]
  split
  · rfl
  · simp_all

theorem exchanges_more (h : (d.exchange src i s).next = .inl t) :
    d.exchanges src i s = d.exchange src i s :: d.exchanges src (d.rest src i s) t := by
  rw [exchanges]
  split
  · simp_all
  · simp_all

theorem exchange_mem (i : ι) (s : σ) : d.exchange src i s ∈ d.exchanges src i s := by
  rw [exchanges]
  split <;> exact List.mem_cons_self

theorem run_last (h : (d.exchange src i s).next = .inr r) :
    d.run src i s = (d.record (d.exchange src i s), r, d.rest src i s) := by
  rw [run]
  split
  · next es q hq =>
    have he : (d.exchange src i s).events = es := congrArg Prod.fst hq
    have hr : (d.exchange src i s).next = .inr q := congrArg Prod.snd hq
    rw [h, Sum.inr.injEq] at hr
    rw [rest, record, he, hr]
    rfl
  · next es t ht =>
    have hr : (d.exchange src i s).next = .inl t := congrArg Prod.snd ht
    rw [h] at hr
    cases hr

theorem run_more (h : (d.exchange src i s).next = .inl t) :
    d.run src i s =
      (d.record (d.exchange src i s) ++ (d.run src (d.rest src i s) t).1,
        (d.run src (d.rest src i s) t).2) := by
  rw [run]
  split
  · next es q hq =>
    have hr : (d.exchange src i s).next = .inr q := congrArg Prod.snd hq
    rw [h] at hr
    cases hr
  · next es u hu =>
    have he : (d.exchange src i s).events = es := congrArg Prod.fst hu
    have hr : (d.exchange src i s).next = .inl u := congrArg Prod.snd hu
    rw [h, Sum.inl.injEq] at hr
    rw [rest, record, he, hr]
    rfl

/-- Everything that happens in a conversation happens in one of its exchanges. -/
theorem run_events (i : ι) (s : σ) :
    (d.run src i s).1 = (d.exchanges src i s).flatMap d.record := by
  induction i, s using exchanges.induct d src with
  | case1 i s r h => simp [d.run_last h, d.exchanges_last h]
  | case2 i s t h ih => simp [d.run_more h, d.exchanges_more h, ih]

/-- The exchange is one that the conversation makes. -/
def Made (e : Exchange σ ρ μ) : Prop := d.hear e.heard e.behind e.before = (e.events, e.next)

/-- The exchanges of a conversation from a state to an end, whatever is heard. -/
inductive Course : σ → List (Exchange σ ρ μ) → ρ → Prop where
  | last {e : Exchange σ ρ μ} {r : ρ} (he : d.Made e) (hr : e.next = .inr r) :
    Course e.before [e] r
  | more {e : Exchange σ ρ μ} {t : σ} {es : List (Exchange σ ρ μ)} {r : ρ} (he : d.Made e)
    (ht : e.next = .inl t) (hc : Course t es r) : Course e.before (e :: es) r

theorem course_exchanges (i : ι) (s : σ) :
    d.Course s (d.exchanges src i s) (d.run src i s).2.1 := by
  induction i, s using exchanges.induct d src with
  | case1 i s r h =>
    rw [d.exchanges_last h, d.run_last h]
    exact .last (e := d.exchange src i s) rfl h
  | case2 i s t h ih =>
    rw [d.exchanges_more h, d.run_more h]
    exact .more (e := d.exchange src i s) rfl h ih

namespace Course

variable {d} {es : List (Exchange σ ρ μ)}

theorem made (hc : d.Course s es r) : ∀ e ∈ es, d.Made e := by
  induction hc with
  | last he hr => simpa using he
  | more he ht hc ih => simpa using ⟨he, ih⟩

/-- The last exchange leads to the end, and all before it go on. -/
theorem concat (hc : d.Course s es r) :
    ∃ fs e, es = fs ++ [e] ∧ e.next = .inr r ∧ ∀ f ∈ fs, ∃ t, f.next = .inl t := by
  induction hc with
  | @last e r he hr => exact ⟨[], e, rfl, hr, by simp⟩
  | @more e t es r he ht hc ih =>
    obtain ⟨fs, f, rfl, hr, hfs⟩ := ih
    exact ⟨e :: fs, f, rfl, hr, by simpa using ⟨⟨t, ht⟩, hfs⟩⟩

theorem ends (hc : d.Course s es r) : ∃ e ∈ es, e.next = .inr r := by
  obtain ⟨fs, e, rfl, hr, -⟩ := hc.concat
  exact ⟨e, by simp, hr⟩

theorem first (hc : d.Course s es r) : ∃ e fs, es = e :: fs ∧ e.before = s := by
  cases hc with
  | last he hr => exact ⟨_, _, rfl, rfl⟩
  | more he ht hc => exact ⟨_, _, rfl, rfl⟩

/-- What is left of a conversation at one of its exchanges. -/
theorem suffix {fs gs : List (Exchange σ ρ μ)} {e : Exchange σ ρ μ}
    (hc : d.Course s (fs ++ e :: gs) r) : d.Course e.before (e :: gs) r := by
  induction fs generalizing s with
  | nil =>
    obtain ⟨e', fs, h, rfl⟩ := hc.first
    obtain ⟨rfl, -⟩ := List.cons.inj h
    exact hc
  | cons f fs ih =>
    rw [List.cons_append] at hc
    generalize hl : fs ++ e :: gs = ls at hc
    cases hc with
    | last he hr => simp at hl
    | more he ht hc => exact ih (hl ▸ hc)

/-- Where an exchange leads to the end, nothing follows it. -/
theorem eq_nil {gs : List (Exchange σ ρ μ)} {e : Exchange σ ρ μ} {q : ρ}
    (hc : d.Course s (e :: gs) r) (hq : e.next = .inr q) : gs = [] ∧ q = r := by
  cases hc with
  | last he hr =>
    rw [hq, Sum.inr.injEq] at hr
    exact ⟨rfl, hr⟩
  | more he ht hc =>
    rw [hq] at ht
    cases ht

/-- Where an exchange leads on, the next one asks from there. -/
theorem exists_next {gs : List (Exchange σ ρ μ)} {e : Exchange σ ρ μ}
    (hc : d.Course s (e :: gs) r) (ht : e.next = .inl t) :
    ∃ f hs, gs = f :: hs ∧ f.before = t := by
  cases hc with
  | last he hr =>
    rw [ht] at hr
    cases hr
  | more he ht' hc =>
    rw [ht, Sum.inl.injEq] at ht'
    exact ht' ▸ hc.first

/-- What an exchange asks from is where the conversation starts or where the one before it leads. -/
theorem exists_previous {fs gs : List (Exchange σ ρ μ)} {e : Exchange σ ρ μ}
    (hc : d.Course s (fs ++ e :: gs) r) :
    fs = [] ∧ e.before = s ∨ ∃ ds f, fs = ds ++ [f] ∧ f.next = .inl e.before := by
  rcases List.eq_nil_or_concat fs with rfl | ⟨ds, f, rfl⟩
  · obtain ⟨e', hs, h, rfl⟩ := hc.first
    obtain ⟨rfl, -⟩ := List.cons.inj h
    exact .inl ⟨rfl, rfl⟩
  · refine .inr ⟨ds, f, by simp, ?_⟩
    rw [List.concat_append] at hc
    have hf := hc.suffix
    cases hn : f.next with
    | inr q => simpa using (hf.eq_nil hn).1
    | inl t =>
      obtain ⟨e', hs, h, rfl⟩ := hf.exists_next hn
      obtain ⟨rfl, -⟩ := List.cons.inj h
      rfl

/-- What every exchange hands on holds whenever a conversation asks. -/
theorem invariant {P : σ → Prop} (hP : ∀ e t, d.Made e → P e.before → e.next = .inl t → P t)
    (hc : d.Course s es r) (hs : P s) : ∀ e ∈ es, P e.before := by
  induction hc with
  | last he hr => simpa using hs
  | more he ht hc ih => simpa using ⟨hs, ih (hP _ _ he hs ht)⟩

end Course

end Dialogue

/-- The event, with what is said in other words. -/
def Event.map {μ ν : Type} (f : μ → ν) : Event μ → Event ν
  | .say m => .say (f m)
  | .read prompt heard shown => .read prompt heard shown
  | .remember line => .remember line
  | .run command => .run command
  | .edit path before => .edit path before
  | .printed output => .printed output
  | .used n => .used n

namespace Dialogue

variable {σ ρ μ ν τ κ ι : Type} {d d' : Dialogue σ ρ μ} {u : σ → τ} {v : ρ → κ} {f : μ → ν}

theorem after_map (src : Source ι) (i : ι) (es : List (Event μ)) :
    after src i (es.map (Event.map f)) = after src i es := by
  induction es generalizing i with
  | nil => rfl
  | cons e es ih => cases e <;> exact ih _

/-- Two conversations are alike if nobody can tell them apart who sees of their states, their ends
and what they say no more than `u`, `v` and `f` tell. -/
structure Alike (d d' : Dialogue σ ρ μ) (u : σ → τ) (v : ρ → κ) (f : μ → ν) : Prop where
  prompt {s t : σ} (h : u s = u t) : d.prompt s = d'.prompt t
  events {s t : σ} (h : u s = u t) (heard : Heard) (b : Bytes) :
    (d.hear heard b s).1.map (Event.map f) = (d'.hear heard b t).1.map (Event.map f)
  next {s t : σ} (h : u s = u t) (heard : Heard) (b : Bytes) :
    (d.hear heard b s).2.map u v = (d'.hear heard b t).2.map u v

namespace Alike

variable {src : Source ι} {i : ι} {s t : σ}

theorem record (ha : Alike d d' u v f) (h : u s = u t) :
    (d.record (d.exchange src i s)).map (Event.map f) =
      (d'.record (d'.exchange src i t)).map (Event.map f) := by
  simp only [Dialogue.record, exchange, List.map_cons, ha.prompt h, ha.events h, Event.map]

theorem exchange_next (ha : Alike d d' u v f) (src : Source ι) (i : ι) (h : u s = u t) :
    (d.exchange src i s).next.map u v = (d'.exchange src i t).next.map u v := by
  simp only [exchange, ha.prompt h, ha.next h]

theorem rest (ha : Alike d d' u v f) (h : u s = u t) : d.rest src i s = d'.rest src i t := by
  have he : (d.exchange src i s).events.map (Event.map f) =
      (d'.exchange src i t).events.map (Event.map f) := (List.cons.inj (ha.record h)).2
  rw [Dialogue.rest, Dialogue.rest, ha.prompt h, ← after_map (f := f), he, after_map]

/-- Conversations that are alike go the same way, whatever they hear. -/
theorem run (ha : Alike d d' u v f) (src : Source ι) (i : ι) (h : u s = u t) :
    (d.run src i s).1.map (Event.map f) = (d'.run src i t).1.map (Event.map f) ∧
    v (d.run src i s).2.1 = v (d'.run src i t).2.1 ∧
    (d.run src i s).2.2 = (d'.run src i t).2.2 := by
  induction i, s using exchanges.induct d src generalizing t with
  | case1 i s r hr =>
    have hn := ha.exchange_next src i h
    rw [hr] at hn
    cases hr' : (d'.exchange src i t).next with
    | inl t' => simp [hr'] at hn
    | inr r' =>
      rw [hr'] at hn
      rw [d.run_last hr, d'.run_last hr']
      exact ⟨ha.record h, Sum.inr.inj hn, ha.rest h⟩
  | case2 i s s' hs ih =>
    have hn := ha.exchange_next src i h
    rw [hs] at hn
    cases ht : (d'.exchange src i t).next with
    | inr r' => simp [ht] at hn
    | inl t' =>
      rw [ht] at hn
      obtain ⟨hevents, hend, hleft⟩ := ih (Sum.inl.inj hn)
      rw [d.run_more hs, d'.run_more ht, List.map_append, List.map_append, hevents, ha.record h,
        hend, hleft, ha.rest h]
      exact ⟨rfl, rfl, rfl⟩

end Alike

end Dialogue

end Guidebook
