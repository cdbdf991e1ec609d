import Mathlib.Data.Nat.Basic
import Mathlib.Order.Basic
import Mathlib.Logic.Relation
import Mathlib.Logic.Function.Basic

/-!
# Lease books with a quarantine

A lease book assigns tenants to slots.  A slot whose tenant left stays vacant until the clock of the
book has reached the time written down when it was vacated, `q` ticks after that moment.

The point of the quarantine is `clock_add_le_of_reassigned`: whoever knows that a slot belonged to
`n`, and finds it with another tenant later, has seen the clock advance by at least `q`.
-/

namespace LeaseBook

/-- A slot is held by a tenant, or vacant and to be let again from some time on. -/
inductive Tenancy (N : Type*) where
  | held (n : N)
  | vacant (readyAt : ℕ)

variable {K N : Type*}

/-- A lease book over the slots `K` and the tenants `N`. -/
structure Book (K N : Type*) where
  clock : ℕ
  tenancy : K → Tenancy N

variable [DecidableEq K]

/-- What can happen to a lease book of quarantine `q`. -/
inductive Step (q : ℕ) : Book K N → Book K N → Prop
  /-- Time passes. -/
  | advance (b : Book K N) (d : ℕ) : Step q b { b with clock := b.clock + d }
  /-- A tenant leaves. -/
  | release (b : Book K N) {k : K} {n : N} (hk : b.tenancy k = .held n) :
      Step q b { b with tenancy := Function.update b.tenancy k (.vacant (b.clock + q)) }
  /-- A tenant moves into a slot whose quarantine is over. -/
  | lease (b : Book K N) {k : K} (n : N) {r : ℕ} (hk : b.tenancy k = .vacant r)
      (hr : r ≤ b.clock) :
      Step q b { b with tenancy := Function.update b.tenancy k (.held n) }

/-- What can have become of the slot `k` since `n` held it at the time `c`: it is held by `n`
still, or in a quarantine that began at `c` or later, or the time `c + q` has come. -/
def Since (q c : ℕ) (n : N) (k : K) (b : Book K N) : Prop :=
  c ≤ b.clock ∧
    (b.tenancy k = .held n ∨ (∃ r, b.tenancy k = .vacant r ∧ c + q ≤ r) ∨ c + q ≤ b.clock)

variable {q c : ℕ} {n m : N} {k : K} {b b' : Book K N}

/-- One step keeps the account of what has become of a slot. -/
lemma Since.step (h : Since q c n k b) (hs : Step q b b') : Since q c n k b' := by
  obtain ⟨hc, hslot⟩ := h
  cases hs with
  | advance d =>
    refine ⟨hc.trans (Nat.le_add_right _ _), ?_⟩
    rcases hslot with hheld | hvacant | hlate
    · exact Or.inl hheld
    · exact Or.inr (Or.inl hvacant)
    · exact Or.inr (Or.inr (hlate.trans (Nat.le_add_right _ _)))
  | @release k' n' hk' =>
    refine ⟨hc, ?_⟩
    by_cases hkk : k = k'
    · subst hkk
      refine Or.inr (Or.inl ⟨b.clock + q, by simp, ?_⟩)
      exact Nat.add_le_add_right hc q
    · simpa [Function.update_of_ne hkk] using hslot
  | @lease k' n' r hk' hr =>
    refine ⟨hc, ?_⟩
    by_cases hkk : k = k'
    · subst hkk
      rcases hslot with hheld | ⟨r', hvacant, hr'⟩ | hlate
      · rw [hheld] at hk'
        cases hk'
      · rw [hvacant] at hk'
        cases hk'
        exact Or.inr (Or.inr (hr'.trans hr))
      · exact Or.inr (Or.inr hlate)
    · simpa [Function.update_of_ne hkk] using hslot

/-- Every run keeps the account of what has become of a slot. -/
lemma Since.run (h : Since q c n k b) (hr : Relation.ReflTransGen (Step q) b b') :
    Since q c n k b' := by
  induction hr with
  | refl => exact h
  | tail _ hs ih => exact ih.step hs

/-- A slot found with another tenant has sat out the whole quarantine in between. -/
theorem clock_add_le_of_reassigned (hr : Relation.ReflTransGen (Step q) b b')
    (hn : b.tenancy k = .held n) (hm : b'.tenancy k = .held m) (hne : n ≠ m) :
    b.clock + q ≤ b'.clock := by
  have hstart : Since q b.clock n k b := ⟨le_rfl, Or.inl hn⟩
  obtain ⟨-, hheld | ⟨r, hvacant, -⟩ | hlate⟩ := hstart.run hr
  · rw [hm] at hheld
    cases hheld
    exact absurd rfl hne
  · rw [hm] at hvacant
    cases hvacant
  · exact hlate

end LeaseBook
