import Encapsule.Foundation.Mealy

/-!
# Things that end once

The life of a thing inside a machine: it is `live`, and at some point it ends, which hands back a
record `w` of it; from then on it is `dead`, and nothing is handed back any more.  `Ages` says this
of one transition together with the list of records handed back for the thing in it.  The relation
composes (`Ages.trans`), so it passes from the steps of a machine to its runs (`Ages.run`).
-/

namespace Lifecycle

variable {σ ν : Type*} (live dead : σ → Prop) (w : ν)

/-- In the transition the thing stays live, or ends and hands back `w`, or stays dead. -/
def Ages (s s' : σ) (ended : List ν) : Prop :=
  (live s → live s' ∧ ended = [] ∨ dead s' ∧ ended = [w]) ∧ (dead s → dead s' ∧ ended = [])

variable {live dead w} {s s' s'' : σ} {ended ended' : List ν}

/-- A transition that keeps both conditions, and hands nothing back. -/
lemma Ages.of_kept (hlive : live s → live s') (hdead : dead s → dead s') :
    Ages live dead w s s' [] :=
  ⟨fun h => Or.inl ⟨hlive h, rfl⟩, fun h => ⟨hdead h, rfl⟩⟩

/-- Two transitions in a row. -/
lemma Ages.trans (h : Ages live dead w s s' ended) (h' : Ages live dead w s' s'' ended') :
    Ages live dead w s s'' (ended ++ ended') := by
  refine ⟨fun hs => ?_, fun hs => ?_⟩
  · rcases h.1 hs with ⟨hlive, rfl⟩ | ⟨hdead, rfl⟩
    · exact h'.1 hlive
    · obtain ⟨hdead', rfl⟩ := h'.2 hdead
      exact Or.inr ⟨hdead', rfl⟩
  · obtain ⟨hdead, rfl⟩ := h.2 hs
    exact h'.2 hdead

/-- If every step of a machine is such a transition, so is every run. -/
theorem Ages.run {ι ο : Type*} {step : σ → ι → σ × ο} {g : σ → ι → List ν}
    (hstep : ∀ s i, Ages live dead w s (step s i).1 (g s i)) (s : σ) (is : List ι) :
    Ages live dead w s (Mealy.run step s is) (Mealy.collect step g s is) := by
  induction is generalizing s with
  | nil => exact Ages.of_kept id id
  | cons i is ih => exact (hstep s i).trans (ih (step s i).1)

end Lifecycle
