import Mathlib.Data.List.Basic
import Encapsule.Foundation.Mealy

/-!
# Queues that may lose what they hold

A queue between two ends is described by what goes in, what comes out and what stays:
`Passes q ins outs q'` says that the queue holding `q`, given `ins`, has handed out `outs` and holds
`q'` afterwards.  Some of what it held or was given may be gone, but nothing is invented, repeated
or reordered.  The relation composes (`Passes.trans`), so it passes from the steps of a machine to
its runs (`Passes.run`), and over a period that starts with an empty queue it says that what came
out is a subsequence of what went in (`Passes.outs_sublist`).
-/

namespace LossyFifo

variable {M : Type*}

/-- A queue holding `q` and given `ins` may hand out `outs` and hold `q'`. -/
def Passes (q ins outs q' : List M) : Prop := (outs ++ q').Sublist (q ++ ins)

variable {q q' q'' ins ins' outs outs' : List M}

lemma Passes.refl (q : List M) : Passes q [] [] q := by simp [Passes]

/-- A queue may lose any part of what it holds. -/
lemma Passes.of_sublist (h : q'.Sublist q) : Passes q [] [] q' := by simpa [Passes] using h

lemma Passes.clear (q : List M) : Passes q [] [] [] := Passes.of_sublist q.nil_sublist

lemma Passes.push (q : List M) (m : M) : Passes q [m] [] (q ++ [m]) := by simp [Passes]

lemma Passes.pop (m : M) (q : List M) : Passes (m :: q) [] [m] q := by simp [Passes]

/-- Traffic of two periods adds up. -/
lemma Passes.trans (h : Passes q ins outs q') (h' : Passes q' ins' outs' q'') :
    Passes q (ins ++ ins') (outs ++ outs') q'' := by
  have hkeep : (outs ++ (outs' ++ q'')).Sublist (outs ++ (q' ++ ins')) := h'.append_left outs
  have hfeed : ((outs ++ q') ++ ins').Sublist ((q ++ ins) ++ ins') := h.append_right ins'
  unfold Passes
  rw [List.append_assoc, ← List.append_assoc q]
  rw [← List.append_assoc outs q'] at hkeep
  exact hkeep.trans hfeed

/-- A machine whose steps pass on what they are given passes it on in its runs. -/
lemma Passes.run {σ ι ο : Type*} {step : σ → ι → σ × ο} {held : σ → List M}
    {ins outs : σ → ι → List M}
    (hstep : ∀ s i, Passes (held s) (ins s i) (outs s i) (held (step s i).1)) (s : σ)
    (is : List ι) : Passes (held s) (Mealy.collect step ins s is) (Mealy.collect step outs s is)
      (held (Mealy.run step s is)) := by
  induction is generalizing s with
  | nil => exact Passes.refl _
  | cons i is ih => exact (hstep s i).trans (ih _)

/-- What comes out of a queue that was empty went in, in the same order. -/
lemma Passes.outs_sublist (h : Passes [] ins outs q') : outs.Sublist ins :=
  (List.sublist_append_left outs q').trans (by simpa [Passes] using h)

end LossyFifo
