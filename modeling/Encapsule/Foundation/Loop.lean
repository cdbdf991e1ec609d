import Mathlib.Data.Nat.Notation
import Mathlib.Logic.Relation

/-!
# Loops

A loop has a state, and `step` is a round: the next state, or none where the loop ends.  `Loop.run`
gives it so many rounds, and has no answer if that is not enough.  `Loop.Reaches` are the states
that it comes to.

`Loop.run_of_variant` is the rule for total correctness: an invariant that every round keeps, and a
natural number that every round makes smaller.
-/

namespace Loop

variable {σ : Type*}

/-- The state at the end of the loop, if it ends within so many rounds. -/
def run (step : σ → Option σ) : ℕ → σ → Option σ
  | 0, _ => none
  | rounds + 1, s =>
    match step s with
    | none => some s
    | some next => run step rounds next

/-- The loop comes to a state. -/
def Reaches (step : σ → Option σ) : σ → σ → Prop :=
  Relation.ReflTransGen fun s next => step s = some next

variable {step : σ → Option σ} {s t next : σ} {rounds : ℕ}

lemma run_of_end (h : step s = none) (rounds : ℕ) : run step (rounds + 1) s = some s := by
  rw [run, h]

/-- A loop that goes on. -/
lemma run_of_step (h : step s = some next) (rounds : ℕ) :
    run step (rounds + 1) s = run step rounds next := by
  rw [run, h]

/-- What every round keeps holds wherever the loop comes to. -/
lemma Reaches.invariant {I : σ → Prop} (hstep : ∀ s next, step s = some next → I s → I next)
    (h : Reaches step s t) (hs : I s) : I t := by
  induction h with
  | refl => exact hs
  | tail _ hlast ih => exact hstep _ _ hlast ih

/-- A loop whose rounds keep an invariant and make a number smaller ends within as many rounds, in a
state in which the invariant holds. -/
theorem run_of_variant {I : σ → Prop} (variant : σ → ℕ)
    (hstep : ∀ s next, step s = some next → I s → I next ∧ variant next < variant s) (hs : I s)
    (hrounds : variant s < rounds) :
    ∃ t, run step rounds s = some t ∧ step t = none ∧ I t := by
  induction rounds generalizing s with
  | zero => exact absurd hrounds (Nat.not_lt_zero _)
  | succ rounds ih =>
    cases h : step s with
    | none => exact ⟨s, run_of_end h rounds, h, hs⟩
    | some next =>
      obtain ⟨hnext, hlt⟩ := hstep s next h hs
      obtain ⟨t, hrun, hend, ht⟩ := ih hnext (by omega)
      exact ⟨t, (run_of_step h rounds).trans hrun, hend, ht⟩

end Loop
