import Mathlib.Data.List.Induction
import Mathlib.Data.Nat.Notation

/-!
# Journals of keyed values

A journal is a list of values sent to keys, oldest first.  `Journal.latest` is the last value sent
to a key.  Appending to a journal overrides the keys that are appended and leaves the others alone
(`Journal.latest_append`).
-/

namespace Journal

variable {K V : Type*} [DecidableEq K]

/-- The last value that was sent to a key. -/
def latest (k : K) (l : List (K × V)) : Option V := l.reverse.lookup k

variable {k : K} {l l' : List (K × V)}

@[simp] lemma latest_nil : latest k ([] : List (K × V)) = none := rfl

/-- What is appended overrides what was there. -/
lemma latest_append : latest k (l ++ l') = (latest k l').or (latest k l) := by
  unfold latest
  rw [List.reverse_append, List.lookup_append]

/-- One more value. -/
lemma latest_singleton (k' : K) (v : V) : latest k [(k', v)] = if k = k' then some v else none := by
  unfold latest
  rw [List.reverse_singleton, List.lookup_cons, List.lookup_nil]
  by_cases h : k = k'
  · simp [h]
  · simp [h, beq_eq_false_iff_ne.mpr h]

lemma latest_eq_none_iff : latest k l = none ↔ ∀ e ∈ l, e.1 ≠ k := by
  simp [latest, ne_comm]

/-- A value that is sent to many keys is the last of each of them. -/
lemma latest_map (ks : List K) (v : V) :
    latest k (ks.map (·, v)) = if k ∈ ks then some v else none := by
  unfold latest
  rw [← List.map_reverse]
  induction ks using List.reverseRecOn with
  | nil => rfl
  | append_singleton ks k' ih =>
    rw [List.reverse_append, List.reverse_singleton, List.singleton_append, List.map_cons,
      List.lookup_cons, ih]
    by_cases h : k = k'
    · simp [h]
    · simp [h, beq_eq_false_iff_ne.mpr h]

end Journal
