import Encapsule.Foundation.Recency
import Encapsule.Injectee.FakeIpInvariant

/-!
# Eviction from the fake-IP table

The stamps of the table stand for the history of its uses (`stamped_run`): a row is used when an
`alloc` answers with its address and when its address is touched, and by nothing else.  So the row
that is retired for a new name is the unpinned one whose last use lies furthest back in the run.
-/

namespace Encapsule

open Recency

namespace FakeIpTable

variable {t : FakeIpTable} {i j : Fin fakeipCapacity} {name : Bytes} {fake : Octets}

/-! ## The history of uses -/

/-- The row that an operation uses. -/
def used : FakeIpOp × FakeIpAnswer → Option (Fin fakeipCapacity)
  | (.alloc _, .address (some fake)) => fakeIpSlotOf fake
  | (.noteTouched fake, .flag true) => fakeIpSlotOf fake
  | _ => none

/-- The rows that are used in a run, in order. -/
def uses (t : FakeIpTable) (ops : List FakeIpOp) : List (Fin fakeipCapacity) :=
  (Mealy.log step t ops).filterMap used

/-- The stamps of the rows that hold a name stand for the history of their uses. -/
def StampedBy (history : List (FakeIpOp × FakeIpAnswer)) (t : FakeIpTable) : Prop :=
  Stamped (history.filterMap used) (fun i => (t.slots i).name ≠ []) (fun i => (t.slots i).lastUse)
    t.touch

/-- An `alloc` that answers with an address uses its row. -/
lemma used_alloc (name : Bytes) (i : Fin fakeipCapacity) :
    used (.alloc name, .address (some (fakeIpAt i))) = some i :=
  fakeIpSlotOf_fakeIpAt i

/-- A touch of an address uses its row. -/
lemma used_noteTouched (hheld : t.ownedSlot fake = some i) :
    used (.noteTouched fake, .flag true) = some i :=
  (ownedSlot_eq_some.mp hheld).1

variable {history : List (FakeIpOp × FakeIpAnswer)} {entry : FakeIpOp × FakeIpAnswer}

/-- An operation that uses no row may retire rows, but stamps none. -/
lemma StampedBy.idle (h : StampedBy history t) (hused : used entry = none) {t' : FakeIpTable}
    (hrow : ∀ i, (t'.slots i).name ≠ [] →
      (t.slots i).name ≠ [] ∧ (t'.slots i).lastUse = (t.slots i).lastUse)
    (htouch : t.touch ≤ t'.touch) : StampedBy (history ++ [entry]) t' := by
  unfold StampedBy at h ⊢
  rw [List.filterMap_append, List.filterMap_cons_none hused, List.filterMap_nil, List.append_nil]
  exact h.mono (fun i hheld => (hrow i hheld).1) (fun i hheld => (hrow i hheld).2) htouch

/-- An operation that uses a row stamps it with a new tick, and rewrites no other. -/
lemma StampedBy.use (h : StampedBy history t) (hused : used entry = some i) {row : FakeIpSlot}
    (hfits : t.touch + 1 < 2 ^ 64) (hrow : row.lastUse = wrap64 (t.touch + 1))
    (allocations : ℕ) :
    StampedBy (history ++ [entry])
      (setSlot { t with touch := wrap64 (t.touch + 1), allocations } i row) := by
  have hwrap : wrap64 (t.touch + 1) = t.touch + 1 := Nat.mod_eq_of_lt hfits
  unfold StampedBy at h ⊢
  rw [List.filterMap_append, List.filterMap_cons_some hused, List.filterMap_nil]
  refine h.use ?_ (fun j hj hheld => ?_) (fun j hj _ => ?_) ?_
  · change t.touch < wrap64 (t.touch + 1)
    omega
  · rwa [slots_setSlot_of_ne _ hj] at hheld
  · rw [slots_setSlot_of_ne _ hj]
  · rw [slots_setSlot_self]
    exact hrow

/-- Retiring a row stamps none. -/
lemma retire_stamps (t : FakeIpTable) (v i : Fin fakeipCapacity)
    (hheld : ((t.retire v).slots i).name ≠ []) :
    (t.slots i).name ≠ [] ∧ ((t.retire v).slots i).lastUse = (t.slots i).lastUse := by
  unfold retire at hheld ⊢
  by_cases hiv : i = v
  · subst hiv
    rw [slots_setSlot_self] at hheld
    exact absurd rfl hheld
  · rw [slots_setSlot_of_ne _ hiv] at hheld ⊢
    exact ⟨hheld, rfl⟩

/-- Counting pins stamps no row. -/
lemma setPins_stamps (t : FakeIpTable) (k i : Fin fakeipCapacity) (inflight : ℕ)
    (hheld : ((t.setPins k inflight).slots i).name ≠ []) :
    (t.slots i).name ≠ [] ∧ ((t.setPins k inflight).slots i).lastUse = (t.slots i).lastUse := by
  unfold setPins at hheld ⊢
  by_cases hik : i = k
  · subst hik
    rw [slots_setSlot_self] at hheld ⊢
    exact ⟨hheld, rfl⟩
  · rw [slots_setSlot_of_ne _ hik] at hheld ⊢
    exact ⟨hheld, rfl⟩

/-- An operation in which the touch clock does not wrap keeps the stamps in line with the
history. -/
lemma StampedBy.step {op : FakeIpOp} (hfits : t.TouchFits op) (h : StampedBy history t) :
    StampedBy (history ++ [(op, (t.step op).2)]) (t.step op).1 := by
  have hchange := t.change_step op
  unfold TouchFits at hfits
  generalize (t.step op).2 = answer at hchange ⊢
  generalize (t.step op).1 = t' at hchange ⊢
  have htick (hfits : t.touch + 1 < 2 ^ 64) : t.touch ≤ t.attempted.touch := by
    have hwrap : wrap64 (t.touch + 1) = t.touch + 1 := Nat.mod_eq_of_lt hfits
    change t.touch ≤ wrap64 (t.touch + 1)
    omega
  cases hchange with
  | repeated hname hheld =>
    rw [touches_alloc hname] at hfits
    exact h.use (used_alloc _ _) hfits rfl _
  | placed hname hnew hfree =>
    rw [touches_alloc hname] at hfits
    exact h.use (used_alloc _ _) hfits rfl _
  | replaced hname hnew hfull hlru hready =>
    rw [touches_alloc hname] at hfits
    exact h.use (used_alloc _ _) hfits rfl _
  | @evicted name v hname hnew hfull hlru hparked =>
    rw [touches_alloc hname] at hfits
    exact h.idle rfl (t.attempted.retire_stamps v) (htick hfits)
  | crowded hname hnew hfull hlru =>
    rw [touches_alloc hname] at hfits
    exact h.idle rfl (fun i hheld => ⟨hheld, rfl⟩) (htick hfits)
  | pinned hheld => exact h.idle rfl (fun i => t.setPins_stamps _ i _) le_rfl
  | unpinned hheld hpins => exact h.idle rfl (fun i => t.setPins_stamps _ i _) le_rfl
  | touched hheld =>
    rw [touches_noteTouched hheld] at hfits
    exact h.use (used_noteTouched hheld) hfits rfl _
  | @withdrawn addr k haddr hmark hheld => exact h.idle rfl ((t.marked k).retire_stamps k) le_rfl
  | _ => exact h.idle rfl (fun i hheld => ⟨hheld, rfl⟩) le_rfl

/-- In every state that is reached from a constructor without the touch clock wrapping, the stamps
of the rows that hold a name stand for the history of their uses. -/
lemma stamped_run (excluded : Octets) (quarantine : ℕ) {ops : List FakeIpOp}
    (hfits : Mealy.Along step TouchFits (create excluded quarantine) ops) :
    StampedBy (Mealy.log step (create excluded quarantine) ops)
      (Mealy.run step (create excluded quarantine) ops) := by
  have hempty : StampedBy [] { quarantine } := Stamped.empty fun i hheld => hheld rfl
  have hfits₀ : TouchFits { quarantine } (.exclude excluded) := Nat.two_pow_pos 64
  have hcreate : StampedBy [] (create excluded quarantine) := hempty.step hfits₀
  exact Mealy.log_invariant_of (P := StampedBy) (fun _ _ _ hfits h => h.step hfits) hcreate hfits

/-! ## Eviction -/

/-- Among the rows that are held, the victim was used before every other that is not pinned. -/
lemma usedBefore_of_findLru (h : t.Inv) (hstamped : StampedBy history t) {v : Fin fakeipCapacity}
    (hlru : t.findLru = some v) (hj : j ≠ v) (hheld : (t.slots j).name ≠ [])
    (hpins : (t.slots j).inflight = 0) : UsedBefore (history.filterMap used) v j := by
  have hle := lastUse_le_of_findLru hlru hheld hpins
  have hvictim := (of_findLru hlru).1
  have hne : (t.slots v).lastUse ≠ (t.slots j).lastUse :=
    fun heq => hj (h.lastUse_inj v j hvictim hheld heq).symm
  exact (hstamped.lt_iff v j hvictim hheld).mp (lt_of_le_of_ne hle hne)

/-- The outcomes for a new name: a free row is claimed, or the victim is retired and perhaps
claimed, or nothing happens. -/
lemma alloc_cases (hname : name ≠ []) (hnew : t.findName name = none) :
    (∃ i, t.attempted.findFree = some i ∧
        t.alloc name = (t.attempted.claim i name, some (fakeIpAt i))) ∨
      (∃ v, t.attempted.findFree = none ∧ t.attempted.findLru = some v ∧
        (t.alloc name = (t.attempted.retire v, none) ∨
          t.alloc name = ((t.attempted.retire v).claim v name, some (fakeIpAt v)))) ∨
      t.attempted.findFree = none ∧ t.attempted.findLru = none ∧
        t.alloc name = (t.attempted, none) := by
  have hchange := change_alloc_of_new hname hnew
  generalize t.alloc name = result at hchange ⊢
  obtain ⟨t', answer⟩ := result
  cases hchange with
  | noName => exact absurd rfl hname
  | repeated _ hheld =>
    rw [hnew] at hheld
    cases hheld
  | placed _ _ hfree => exact Or.inl ⟨_, hfree, rfl⟩
  | replaced _ _ hfull hlru hready =>
    refine Or.inr (Or.inl ⟨_, hfull, hlru, Or.inr ?_⟩)
    rw [claim_retire]
    rfl
  | evicted _ _ hfull hlru hparked => exact Or.inr (Or.inl ⟨_, hfull, hlru, Or.inl rfl⟩)
  | crowded _ _ hfull hlru => exact Or.inr (Or.inr ⟨hfull, hlru, rfl⟩)

/-- A victim loses its name, and every other row is as it was. -/
lemma alloc_of_victim (hnew : t.findName name = none) {v : Fin fakeipCapacity}
    (hheld : (t.slots v).name ≠ [])
    (halloc : t.alloc name = (t.attempted.retire v, none) ∨
      t.alloc name = ((t.attempted.retire v).claim v name, some (fakeIpAt v))) :
    ((t.alloc name).1.slots v).name ≠ (t.slots v).name ∧
      ∀ j, j ≠ v → (t.alloc name).1.slots j = t.slots j := by
  rcases halloc with halloc | halloc
  · rw [halloc, retire]
    exact ⟨by rw [slots_setSlot_self]; exact hheld.symm, fun j hj => slots_setSlot_of_ne _ hj⟩
  · rw [halloc, claim_retire, claim]
    refine ⟨?_, fun j hj => slots_setSlot_of_ne _ hj⟩
    rw [slots_setSlot_self]
    exact (findName_eq_none.mp hnew v).symm

/-- **Eviction is LRU.** An `alloc` of a new name retires no row while a slot without a name may be
issued.  Otherwise it retires the unpinned row whose last use lies furthest back in the run, leaves
every other row as it is, and issues the address of that row or none; where every row that holds a
name is pinned, only the clocks tick. -/
theorem alloc_evicts_lru (excluded : Octets) (quarantine : ℕ) (ops : List FakeIpOp)
    (hfits : Mealy.Along step TouchFits (create excluded quarantine) ops) (name : Bytes)
    (hname : name ≠ [])
    (hnew : (Mealy.run step (create excluded quarantine) ops).findName name = none) :
    let t := Mealy.run step (create excluded quarantine) ops
    let t' := (t.alloc name).1
    ((∃ i, (t.slots i).name = [] ∧ t.attempted.claimable i = true) →
        ∀ j, (t.slots j).name ≠ [] → t'.slots j = t.slots j) ∧
      ((∀ i, (t.slots i).name = [] → t.attempted.claimable i = false) →
        (∃ i, (t.slots i).name ≠ [] ∧ (t.slots i).inflight = 0) →
        ∃ v, (t.slots v).name ≠ [] ∧ (t.slots v).inflight = 0 ∧
          (∀ j, j ≠ v → (t.slots j).name ≠ [] → (t.slots j).inflight = 0 →
            UsedBefore (uses (create excluded quarantine) ops) v j) ∧
          (t.alloc name = (t.attempted.retire v, none) ∨
            t.alloc name = ((t.attempted.retire v).claim v name, some (fakeIpAt v))) ∧
          (t'.slots v).name ≠ (t.slots v).name ∧ ∀ j, j ≠ v → t'.slots j = t.slots j) ∧
      ((∀ i, (t.slots i).name = [] → t.attempted.claimable i = false) →
        (∀ i, (t.slots i).name ≠ [] → (t.slots i).inflight ≠ 0) →
        t.alloc name = (t.attempted, none)) := by
  intro t t'
  have hinv : t.Inv := inv_run excluded quarantine hfits
  have hstamped : StampedBy _ t := stamped_run excluded quarantine hfits
  change t.findName name = none at hnew
  have hfull : (∀ i, (t.slots i).name = [] → t.attempted.claimable i = false) ↔
      t.attempted.findFree = none := (findFree_eq_none (t := t.attempted)).symm
  rcases alloc_cases hname hnew with ⟨i, hfree, halloc⟩ | ⟨v, hnone, hlru, halloc⟩ |
    ⟨hnone, hlru, halloc⟩
  · have hplenty : ¬∀ i, (t.slots i).name = [] → t.attempted.claimable i = false := by
      rw [hfull, hfree]
      exact fun hnone => by cases hnone
    refine ⟨fun _ j hheld => ?_, fun hwait => absurd hwait hplenty,
      fun hwait => absurd hwait hplenty⟩
    have hj : j ≠ i := fun hji => hheld (hji ▸ (of_findFree hfree).1)
    change (t.alloc name).1.slots j = t.slots j
    rw [halloc]
    exact slots_setSlot_of_ne _ hj
  · have hwait := hfull.mpr hnone
    obtain ⟨hheld, hpins⟩ := of_findLru hlru
    refine ⟨fun ⟨i, hfree, hready⟩ => ?_, fun _ _ => ?_, fun _ hpinned => ?_⟩
    · exact absurd ((hwait i hfree).symm.trans hready) Bool.false_ne_true
    · obtain ⟨hlost, hothers⟩ := alloc_of_victim hnew hheld halloc
      refine ⟨v, hheld, hpins, fun j hj hother hidle => ?_, halloc, hlost, hothers⟩
      exact usedBefore_of_findLru (t := t) hinv hstamped hlru hj hother hidle
    · exact absurd hpins (hpinned v hheld)
  · have hwait := hfull.mpr hnone
    have hpinned := findLru_eq_none.mp hlru
    refine ⟨fun ⟨i, hfree, hready⟩ => ?_, fun _ ⟨i, hheld, hpins⟩ => ?_, fun _ _ => halloc⟩
    · exact absurd ((hwait i hfree).symm.trans hready) Bool.false_ne_true
    · exact absurd hpins (hpinned i hheld)

/-- In a table of two slots, with `a` in the first and `b` in the second, `a` is touched: it is `b`
that is used before the other and retired for `c`. -/
theorem alloc_evicts_lru_c :
    let t := Mealy.run step (create ⟨0, 0, 0, 0⟩ 3)
      (excludeFrom 2 ++ [.alloc [97], .alloc [98], .noteTouched (fakeIpAt 0)])
    (t.slots 0).name = [97] ∧ (t.slots 1).name = [98] ∧
      UsedBefore (uses (create ⟨0, 0, 0, 0⟩ 3)
        (excludeFrom 2 ++ [.alloc [97], .alloc [98], .noteTouched (fakeIpAt 0)])) 1 0 ∧
      (t.alloc [99] = (t.attempted.retire 1, none) ∨
        t.alloc [99] = ((t.attempted.retire 1).claim 1 [99], some (fakeIpAt 1))) ∧
      ∀ j, j ≠ 1 → (t.alloc [99]).1.slots j = t.slots j := by
  have hfits : Mealy.Along step TouchFits (create ⟨0, 0, 0, 0⟩ 3)
      (excludeFrom 2 ++ [.alloc [97], .alloc [98], .noteTouched (fakeIpAt 0)]) := by
    refine Mealy.along_append.mpr ⟨along_excludeFrom 2 (by decide), ?_⟩
    rw [run_excludeFrom]
    decide
  have hlru := alloc_evicts_lru ⟨0, 0, 0, 0⟩ 3 _ hfits [99] (by decide)
  rw [Mealy.run_append, run_excludeFrom] at hlru ⊢
  obtain ⟨v, -, -, hused, halloc, -, hothers⟩ :=
    (hlru (by decide)).2.1 (by decide +kernel) ⟨0, by decide, by decide⟩
  obtain rfl : v = 1 := by
    by_contra hne
    exact absurd (hothers 1 (Ne.symm hne)) (by decide)
  exact ⟨by decide, by decide, hused 0 (by decide) (by decide) (by decide), halloc, hothers⟩

end FakeIpTable

end Encapsule
