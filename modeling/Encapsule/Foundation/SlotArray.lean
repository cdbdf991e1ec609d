import Mathlib.Algebra.BigOperators.Fin
import Mathlib.Data.List.MinMax
import Mathlib.Data.List.Sort

/-!
# Sums, counts and least values over arrays of slots

A quantity of an array of slots is the sum of what its slots contribute.  Rewriting one slot changes
the sum by the difference of the two contributions, which is stated without subtraction.

Slots of one kind are counted along the list of all slots, and a scan for the least value among them
finds the first slot that has it (`LeftmostMin`).
-/

namespace SlotArray

variable {ι α : Type*} [Fintype ι] [DecidableEq ι]

/-- Rewriting one slot of an array changes the sum over the slots by the difference of the two. -/
lemma sum_update (f : α → ℕ) (slots : ι → α) (i : ι) (a : α) :
    ∑ j, f (Function.update slots i a j) + f (slots i) = ∑ j, f (slots j) + f a := by
  have hcomp : (fun j => f (Function.update slots i a j)) =
      Function.update (fun j => f (slots j)) i (f a) := by
    funext j
    by_cases hj : j = i
    · subst hj
      simp
    · simp [hj]
  have hrest : f (slots i) + ∑ j ∈ Finset.univ \ {i}, f (slots j) = ∑ j, f (slots j) := by
    rw [← Finset.erase_eq]
    exact Finset.add_sum_erase Finset.univ (fun j => f (slots j)) (Finset.mem_univ i)
  rw [hcomp, Finset.sum_update_of_mem (Finset.mem_univ i)]
  omega

/-! ## Counts -/

section Counts

variable {κ : Type*}

/-- Marking one more slot adds one to the number of marks. -/
lemma countP_update_true [DecidableEq κ] {l : List κ} (hnodup : l.Nodup) {i : κ} (hi : i ∈ l)
    {p : κ → Bool} (hp : p i = false) : l.countP (Function.update p i true) = l.countP p + 1 := by
  induction l with
  | nil => cases hi
  | cons j l ih =>
    obtain ⟨hj, hnodup⟩ := List.nodup_cons.mp hnodup
    by_cases hij : i = j
    · subst hij
      have hrest : l.countP (Function.update p i true) = l.countP p := by
        apply List.countP_congr
        intro k hk
        have hne : k ≠ i := fun hki => hj (hki ▸ hk)
        rw [Function.update_of_ne hne]
      rw [List.countP_cons, List.countP_cons, hrest, Function.update_self, hp]
      rfl
    · have hmem : i ∈ l := (List.mem_cons.mp hi).resolve_left hij
      have hne : j ≠ i := fun hji => hij hji.symm
      rw [List.countP_cons, List.countP_cons, ih hnodup hmem, Function.update_of_ne hne]
      omega

/-- Two kinds of slots that exclude each other are together no more than the slots. -/
lemma countP_add_countP_le {p r : κ → Bool} (l : List κ) (h : ∀ i ∈ l, p i = true → r i = false) :
    l.countP p + l.countP r ≤ l.length := by
  have hle : l.countP r ≤ l.countP fun i => !p i := by
    apply List.countP_mono_left
    intro i hi hr
    cases hp : p i with
    | false => rfl
    | true =>
      rw [h i hi hp] at hr
      cases hr
  have hsum := l.length_eq_countP_add_countP p
  simp only [Bool.not_eq_true, Bool.decide_eq_false] at hsum
  omega

/-- Three kinds of slots that leave out none are together no fewer than the slots. -/
lemma length_le_countP_add {p r q : κ → Bool} (l : List κ)
    (h : ∀ i ∈ l, p i = true ∨ r i = true ∨ q i = true) :
    l.length ≤ l.countP p + l.countP r + l.countP q := by
  induction l with
  | nil => exact Nat.zero_le _
  | cons i l ih =>
    have hrest := ih fun j hj => h j (List.mem_cons_of_mem i hj)
    have hhead : 1 ≤ (if p i then 1 else 0) + (if r i then 1 else 0) + if q i then 1 else 0 := by
      rcases h i List.mem_cons_self with hp | hr | hq
      · rw [hp, if_pos rfl]
        omega
      · rw [hr, if_pos rfl]
        omega
      · rw [hq, if_pos rfl]
        omega
    simp only [List.length_cons, List.countP_cons]
    omega

/-- Slots of one kind whose values are different and lie among `n` numbers are no more than `n`. -/
lemma countP_le_of_injOn {l : List κ} (hnodup : l.Nodup) {p : κ → Bool} {f : κ → ℕ} {a n : ℕ}
    (hinj : ∀ i j, p i = true → p j = true → f i = f j → i = j)
    (hrange : ∀ i, p i = true → a < f i ∧ f i ≤ a + n) : l.countP p ≤ n := by
  have hvalues : ((l.filter p).map f).Nodup := by
    apply (hnodup.filter p).map_on
    intro i hi j hj heq
    exact hinj i j (List.mem_filter.mp hi).2 (List.mem_filter.mp hj).2 heq
  have hsubset : (l.filter p).map f ⊆ List.range' (a + 1) n := by
    intro value hmem
    obtain ⟨i, hi, rfl⟩ := List.mem_map.mp hmem
    have hbounds := hrange i (List.mem_filter.mp hi).2
    rw [List.mem_range'_1]
    omega
  have hlength := (hvalues.subperm hsubset).length_le
  rwa [List.length_map, List.length_range', ← List.countP_eq_length_filter] at hlength

end Counts

/-! ## Least values -/

section Least

variable {n : ℕ} {p : Fin n → Bool} {f : Fin n → ℕ} {i j : Fin n}

/-- The first slot of a kind with the least value of its kind. -/
structure LeftmostMin (p : Fin n → Bool) (f : Fin n → ℕ) (i : Fin n) : Prop where
  kind : p i = true
  le : ∀ j, p j = true → f i ≤ f j
  first : ∀ j, p j = true → f j = f i → i ≤ j

/-- In an ascending list what is found earlier is smaller. -/
lemma le_of_idxOf_le {l : List (Fin n)} (hsorted : l.Pairwise (· < ·)) (hi : i ∈ l) (hj : j ∈ l)
    (h : l.idxOf i ≤ l.idxOf j) : i ≤ j := by
  have hilt := List.idxOf_lt_length_of_mem hi
  have hjlt := List.idxOf_lt_length_of_mem hj
  rcases h.eq_or_lt with heq | hlt
  · exact ((List.idxOf_inj hi).mp heq).le
  · have hless := List.pairwise_iff_getElem.mp hsorted _ _ hilt hjlt hlt
    rw [List.getElem_idxOf, List.getElem_idxOf] at hless
    exact hless.le

/-- A scan for the least value of a kind. -/
lemma leftmostMin_of_argmin (h : ((List.finRange n).filter p).argmin f = some i) :
    LeftmostMin p f i := by
  have hsorted : ((List.finRange n).filter p).Pairwise (· < ·) :=
    (List.sortedLT_finRange n).pairwise.filter p
  have hmem : i ∈ (List.finRange n).filter p := List.argmin_mem h
  have hall (j : Fin n) (hj : p j = true) : j ∈ (List.finRange n).filter p :=
    List.mem_filter.mpr ⟨List.mem_finRange j, hj⟩
  refine ⟨(List.mem_filter.mp hmem).2, fun j hj => ?_, fun j hj heq => ?_⟩
  · exact List.le_of_mem_argmin (hall j hj) h
  · exact le_of_idxOf_le hsorted hmem (hall j hj) (List.index_of_argmin h (hall j hj) heq.le)

/-- There is only one first slot with the least value. -/
lemma LeftmostMin.unique (hi : LeftmostMin p f i) (hj : LeftmostMin p f j) : i = j := by
  have heq : f i = f j := le_antisymm (hi.le j hj.kind) (hj.le i hi.kind)
  exact le_antisymm (hi.first j hj.kind heq.symm) (hj.first i hi.kind heq)

end Least

end SlotArray
