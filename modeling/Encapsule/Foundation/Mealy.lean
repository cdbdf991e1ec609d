import Mathlib.Data.List.Induction
import Mathlib.Data.Nat.Notation

/-!
# Deterministic machines with outputs

A machine is a function `step : σ → ι → σ × ο`: from a state and an input it computes the next
state and an output.  `Mealy.run` iterates it along a list of inputs and `Mealy.log` records the
inputs together with the outputs they were answered with.

`Mealy.collect` gathers what an observer sees of the states and inputs of a run, and `Mealy.Along`
says that a condition is met at each of its steps.

The induction rules are the place where a whole run is traversed:

* `Mealy.run_invariant` for facts about the reached state alone, `Mealy.run_invariant_of` for those
  that hold when every step meets a condition, and `Mealy.run_of_not_along` for those that hold from
  the first step on that does not;
* `Mealy.log_invariant` for facts that tie the reached state to the history that led there, and
  `Mealy.log_invariant_of` when every step meets a condition;
* `Mealy.balance` for quantities that change by as much as is observed to go in and out.
-/

namespace Mealy

variable {σ ι ο : Type*} (step : σ → ι → σ × ο)

/-- The state reached from `s` after the inputs `is`. -/
def run (s : σ) : List ι → σ
  | [] => s
  | i :: is => run (step s i).1 is

/-- The inputs of a run from `s`, each paired with the output it was answered with. -/
def log (s : σ) : List ι → List (ι × ο)
  | [] => []
  | i :: is => (i, (step s i).2) :: log (step s i).1 is

/-- What `g` observes along a run from `s`, in order. -/
def collect {ν : Type*} (g : σ → ι → List ν) (s : σ) : List ι → List ν
  | [] => []
  | i :: is => g s i ++ collect g (step s i).1 is

/-- Every step of the run from `s` meets the condition `C`. -/
def Along (C : σ → ι → Prop) (s : σ) : List ι → Prop
  | [] => True
  | i :: is => C s i ∧ Along C (step s i).1 is

instance instDecidableAlong (C : σ → ι → Prop) [∀ s i, Decidable (C s i)] :
    (s : σ) → (is : List ι) → Decidable (Along step C s is)
  | _, [] => instDecidableTrue
  | s, i :: is =>
    letI : Decidable (Along step C (step s i).1 is) := instDecidableAlong C (step s i).1 is
    inferInstanceAs (Decidable (C s i ∧ Along step C (step s i).1 is))

@[simp] lemma run_nil (s : σ) : run step s [] = s := rfl

@[simp] lemma run_cons (s : σ) (i : ι) (is : List ι) :
    run step s (i :: is) = run step (step s i).1 is := rfl

@[simp] lemma log_nil (s : σ) : log step s [] = [] := rfl

@[simp] lemma log_cons (s : σ) (i : ι) (is : List ι) :
    log step s (i :: is) = (i, (step s i).2) :: log step (step s i).1 is := rfl

/-- A run splits wherever its list of inputs does. -/
lemma run_append (s : σ) (is js : List ι) :
    run step s (is ++ js) = run step (run step s is) js := by
  induction is generalizing s with
  | nil => rfl
  | cons i is ih => exact ih _

/-- A log splits wherever its list of inputs does. -/
lemma log_append (s : σ) (is js : List ι) :
    log step s (is ++ js) = log step s is ++ log step (run step s is) js := by
  induction is generalizing s with
  | nil => rfl
  | cons i is ih => simp [ih]

/-- The last input of a run acts on the state reached before it. -/
lemma run_concat (s : σ) (is : List ι) (i : ι) :
    run step s (is ++ [i]) = (step (run step s is) i).1 := by
  rw [run_append, run_cons, run_nil]

/-- The last entry of a log is the output of the last input. -/
lemma log_concat (s : σ) (is : List ι) (i : ι) :
    log step s (is ++ [i]) = log step s is ++ [(i, (step (run step s is) i).2)] := by
  rw [log_append, log_cons, log_nil]

variable {step}

/-- What every step preserves, every run preserves. -/
theorem run_invariant {P : σ → Prop} (hstep : ∀ s i, P s → P (step s i).1) {s : σ} (hs : P s)
    (is : List ι) : P (run step s is) := by
  induction is generalizing s with
  | nil => exact hs
  | cons i is ih => exact ih (hstep s i hs)

/-- What is preserved by every step that meets a condition is preserved by every run whose steps all
meet it. -/
theorem run_invariant_of {P : σ → Prop} {C : σ → ι → Prop}
    (hstep : ∀ s i, C s i → P s → P (step s i).1) {s : σ} (hs : P s) {is : List ι}
    (h : Along step C s is) : P (run step s is) := by
  induction is generalizing s with
  | nil => exact hs
  | cons i is ih => exact ih (hstep s i h.1 hs) h.2

/-- A condition is met along a run in two parts where it is met along both. -/
lemma along_append {C : σ → ι → Prop} {s : σ} {is₁ is₂ : List ι} :
    Along step C s (is₁ ++ is₂) ↔ Along step C s is₁ ∧ Along step C (run step s is₁) is₂ := by
  induction is₁ generalizing s with
  | nil => exact (and_iff_right trivial).symm
  | cons i is ih =>
    rw [List.cons_append, run_cons, Along, Along, ih, and_assoc]

/-- A condition is met along a run where it is met at each of its steps. -/
lemma along_iff_forall {C : σ → ι → Prop} {s : σ} {is : List ι} :
    Along step C s is ↔ ∀ pre i post, is = pre ++ i :: post → C (run step s pre) i := by
  constructor
  · rintro h pre i post rfl
    exact (along_append.mp h).2.1
  · intro h
    induction is generalizing s with
    | nil => trivial
    | cons i is ih =>
      refine ⟨h [] i is rfl, ih fun pre j post heq => ?_⟩
      exact h (i :: pre) j post (congrArg (i :: ·) heq)

/-- A part of the state that each step keeps or writes is what was written to it last. -/
lemma run_last_written {ν : Type*} {part : σ → ν} {written : ι → Option ν}
    (h : ∀ s i, part (step s i).1 = (written i).getD (part s)) (s : σ) (is : List ι) :
    part (run step s is) = ((is.filterMap written).getLast?).getD (part s) := by
  induction is using List.reverseRecOn with
  | nil => rfl
  | append_singleton is i ih =>
    rw [run_concat, h, ih, List.filterMap_append]
    cases hwritten : written i with
    | none => simp [hwritten]
    | some v => simp [hwritten]

/-- Conditions that are the same at each step are the same along a run. -/
lemma along_congr {C D : σ → ι → Prop} (h : ∀ s i, C s i ↔ D s i) (s : σ) (is : List ι) :
    Along step C s is ↔ Along step D s is := by
  induction is generalizing s with
  | nil => exact Iff.rfl
  | cons i is ih => exact and_congr (h s i) (ih (step s i).1)

/-- If not every step of a run meets a condition, the run is in `Q` at its end, where `P` is kept by
the steps that meet the condition, the first one that does not leads from `P` to `Q`, and every step
stays in `Q`. -/
theorem run_of_not_along {P Q : σ → Prop} {C : σ → ι → Prop}
    (hkeep : ∀ s i, C s i → P s → P (step s i).1)
    (hbreak : ∀ s i, ¬ C s i → P s → Q (step s i).1)
    (hstay : ∀ s i, Q s → Q (step s i).1) {s : σ} (hs : P s) {is : List ι}
    (h : ¬ Along step C s is) : Q (run step s is) := by
  induction is generalizing s with
  | nil => exact absurd trivial h
  | cons i is ih =>
    by_cases hhead : C s i
    · have htail : ¬ Along step C (step s i).1 is := fun htail => h ⟨hhead, htail⟩
      exact ih (hkeep s i hhead hs) htail
    · have hbroken : Q (step s i).1 := hbreak s i hhead hs
      exact run_invariant hstay hbroken is

/-- What holds of the empty history and is preserved when a step extends history and state
together holds of every run and its log. -/
theorem log_invariant {P : List (ι × ο) → σ → Prop} {s : σ} (hs : P [] s)
    (hstep : ∀ l s i, P l s → P (l ++ [(i, (step s i).2)]) (step s i).1) (is : List ι) :
    P (log step s is) (run step s is) := by
  induction is using List.reverseRecOn with
  | nil => exact hs
  | append_singleton is i ih =>
    rw [log_concat, run_concat]
    exact hstep _ _ i ih

/-- What is preserved when a step that meets a condition extends history and state together is
preserved by every run whose steps all meet it. -/
theorem log_invariant_of {P : List (ι × ο) → σ → Prop} {C : σ → ι → Prop}
    (hstep : ∀ l s i, C s i → P l s → P (l ++ [(i, (step s i).2)]) (step s i).1)
    {l : List (ι × ο)} {s : σ} (hs : P l s) {is : List ι} (h : Along step C s is) :
    P (l ++ log step s is) (run step s is) := by
  induction is generalizing l s with
  | nil => simpa using hs
  | cons i is ih =>
    have hnext := ih (hstep l s i h.1 hs) h.2
    rw [List.append_assoc] at hnext
    exact hnext

/-- Where nothing is observed, nothing is collected. -/
lemma collect_eq_nil {ν : Type*} {g : σ → ι → List ν} (h : ∀ s i, g s i = []) (s : σ)
    (is : List ι) : collect step g s is = [] := by
  induction is generalizing s with
  | nil => rfl
  | cons i is ih => rw [collect, h, ih, List.append_nil]

/-- Observations may be translated before or after they are collected. -/
lemma filterMap_collect {ν μ : Type*} (f : ν → Option μ) (g : σ → ι → List ν) (s : σ)
    (is : List ι) :
    (collect step g s is).filterMap f = collect step (fun s i => (g s i).filterMap f) s is := by
  induction is generalizing s with
  | nil => rfl
  | cons i is ih => simp [collect, ih]

/-- What is picked from a log is collected from the run. -/
lemma filterMap_log {ν : Type*} (f : ι × ο → Option ν) (s : σ) (is : List ι) :
    (log step s is).filterMap f = collect step (fun s i => (f (i, (step s i).2)).toList) s is := by
  induction is generalizing s with
  | nil => rfl
  | cons i is ih =>
    rw [log_cons, collect, ← ih, List.filterMap_cons]
    cases f (i, (step s i).2) <;> rfl

/-- What each step keeps in balance, each run keeps in balance. -/
theorem balance {μ ν : Type*} {P : σ → Prop} {weight : σ → ℕ} {ins : σ → ι → List μ}
    {outs : σ → ι → List ν} (hP : ∀ s i, P s → P (step s i).1)
    (hstep : ∀ s i, P s →
      weight (step s i).1 + (outs s i).length = weight s + (ins s i).length)
    {s : σ} (hs : P s) (is : List ι) :
    weight (run step s is) + (collect step outs s is).length =
      weight s + (collect step ins s is).length := by
  induction is generalizing s with
  | nil => rfl
  | cons i is ih =>
    have hhead := hstep s i hs
    have htail := ih (hP s i hs)
    rw [run_cons, collect, collect, List.length_append, List.length_append]
    omega

end Mealy
