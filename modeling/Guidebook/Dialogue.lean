import Guidebook.Input.Basic

namespace Guidebook

/-- What happens in a conversation, in order. A `μ` is something that is said; `shown` is what
appears while a line is read; `used` is how much others have read of the input. -/
inductive Event (μ : Type) where
  | say (m : μ)
  | read (prompt : Text) (heard : Heard) (shown : Text)
  | remember (line : Text)
  | run (command : Text)
  | edit (path : Text) (before : Option Bytes)
  | printed (output : Bytes)
  | used (n : Nat)
  deriving DecidableEq, Repr

/-- A conversation. It asks, goes on with what it hears, and ends with a `ρ`. What is behind in the
input is there for it, too. Whoever hears nothing any more comes nearer to the end. -/
structure Dialogue (σ ρ μ : Type) where
  prompt : σ → Text
  hear : Heard → Bytes → σ → List (Event μ) × (σ ⊕ ρ)
  rank : σ → Nat
  rank_closed : ∀ b s t, (hear .closed b s).2 = .inl t → rank t < rank s

namespace Dialogue

variable {σ ρ μ ι : Type}

/-- An input after what has happened. -/
def after (src : Source ι) (i : ι) : List (Event μ) → ι
  | [] => i
  | .remember l :: es => after src (src.remember l i) es
  | .used n :: es => after src (src.skip n i) es
  | _ :: es => after src i es

theorem left_after (src : Source ι) (i : ι) (es : List (Event μ)) :
    src.left (after src i es) ≤ src.left i := by
  induction es generalizing i with
  | nil => exact Nat.le_refl _
  | cons e es ih =>
    cases e with
    | remember l => simpa [after, src.left_remember] using ih (src.remember l i)
    | used n => exact Nat.le_trans (ih _) (src.left_skip n i)
    | _ => exact ih i

/-- Everything that happens from a state to the end, the end, and what is left of the input. -/
def run (d : Dialogue σ ρ μ) (src : Source ι) (i : ι) (s : σ) : List (Event μ) × ρ × ι :=
  let r := src.read (d.prompt s) i
  let asked := Event.read (d.prompt s) r.1 r.2.1
  match _ : d.hear r.1 (src.behind r.2.2) s with
  | (es, .inr e) => (asked :: es, e, after src r.2.2 es)
  | (es, .inl t) =>
    let rest := run d src (after src r.2.2 es) t
    (asked :: es ++ rest.1, rest.2)
termination_by (src.left i, d.rank s)
decreasing_by
  have ha := left_after src (src.read (d.prompt s) i).2.2 es
  rcases src.left_read (d.prompt s) i with h | ⟨h, hc⟩
  · exact Prod.Lex.left _ _ (Nat.lt_of_le_of_lt ha h)
  · have hh : d.hear (src.read (d.prompt s) i).1 _ s = (es, .inl t) := ‹_›
    rw [hc] at hh
    rw [h] at ha
    have hr := d.rank_closed _ s t (by rw [hh])
    rcases Nat.lt_or_eq_of_le ha with ha | ha
    · exact Prod.Lex.left _ _ ha
    · rw [ha]
      exact Prod.Lex.right _ hr

end Dialogue

end Guidebook
