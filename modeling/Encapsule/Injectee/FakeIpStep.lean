import Encapsule.Foundation.SlotArray
import Encapsule.Injectee.FakeIp

/-!
# What an operation of the fake-IP table does

`FakeIpTable.Change` lists the outcomes of the operations of the table, each with the conditions
under which it comes about, its answer and the table it leaves behind; `change_step` shows that
there are no others.  The invariants of the table are proved from this list.

A new name is placed in a free slot, or else the least recently used unpinned name is retired.  The
slot that is freed then is the only one that can be issued in the same attempt, and a claim rewrites
every field of its row; so such a replacement is a claim of the slot of the victim.

An exclusion takes a slot out of circulation for good: the slots that are out hold no name
(`nameless_run`) and are counted (`counted_run`), in every run and whether or not a clock wraps.
-/

namespace Encapsule

namespace FakeIpTable

variable {t : FakeIpTable} {i j k v : Fin fakeipCapacity} {name : Bytes} {fake : Octets}

/-! ## The scans -/

lemma findName_eq_none : t.findName name = none ↔ ∀ i, (t.slots i).name ≠ name := by
  simp [findName, List.find?_eq_none]

/-- No slot is free where every slot without a name has to wait. -/
lemma findFree_eq_none :
    t.findFree = none ↔ ∀ i, (t.slots i).name = [] → t.claimable i = false := by
  simp [findFree, List.find?_eq_none]

/-- There is no victim where every name is pinned. -/
lemma findLru_eq_none :
    t.findLru = none ↔ ∀ i, (t.slots i).name ≠ [] → (t.slots i).inflight ≠ 0 := by
  simp [findLru, List.argmin_eq_none, List.filter_eq_nil_iff]

/-- No unpinned name was used before the victim. -/
lemma lastUse_le_of_findLru (h : t.findLru = some v) (hheld : (t.slots j).name ≠ [])
    (hpins : (t.slots j).inflight = 0) : (t.slots v).lastUse ≤ (t.slots j).lastUse := by
  refine List.le_of_mem_argmin (f := fun i => (t.slots i).lastUse) ?_ h
  simp [hheld, hpins]

/-! ## The outcomes -/

/-- A use of a name that is held: the touch clock ticks, and the slot is as warm as can be. -/
def warmed (t : FakeIpTable) (i : Fin fakeipCapacity) : FakeIpTable :=
  { t with touch := wrap64 (t.touch + 1) }.setSlot i
    { t.slots i with lastUse := wrap64 (t.touch + 1) }

/-- A slot is taken out of circulation. -/
def marked (t : FakeIpTable) (i : Fin fakeipCapacity) : FakeIpTable :=
  { t with excluded := Function.update t.excluded i true, exclusions := t.exclusions + 1 }

/-- The number of pins of a slot is rewritten. -/
def setPins (t : FakeIpTable) (i : Fin fakeipCapacity) (inflight : ℕ) : FakeIpTable :=
  t.setSlot i { t.slots i with inflight }

/-- The outcomes of the operations: what is asked, what is answered, and the table left behind. -/
inductive Change (t : FakeIpTable) : FakeIpOp → FakeIpAnswer → FakeIpTable → Prop where
  | noName : Change t (.alloc []) (.address none) t
  | repeated {name : Bytes} {i : Fin fakeipCapacity} (hname : name ≠ [])
    (hheld : t.findName name = some i) :
    Change t (.alloc name) (.address (some (fakeIpAt i))) (t.warmed i)
  | placed {name : Bytes} {i : Fin fakeipCapacity} (hname : name ≠ [])
    (hnew : t.findName name = none) (hfree : t.attempted.findFree = some i) :
    Change t (.alloc name) (.address (some (fakeIpAt i))) (t.attempted.claim i name)
  /-- The victim may be issued at once. -/
  | replaced {name : Bytes} {v : Fin fakeipCapacity} (hname : name ≠ [])
    (hnew : t.findName name = none) (hfull : t.attempted.findFree = none)
    (hlru : t.attempted.findLru = some v) (hready : (t.attempted.retire v).claimable v = true) :
    Change t (.alloc name) (.address (some (fakeIpAt v))) (t.attempted.claim v name)
  /-- The victim goes into quarantine. -/
  | evicted {name : Bytes} {v : Fin fakeipCapacity} (hname : name ≠ [])
    (hnew : t.findName name = none) (hfull : t.attempted.findFree = none)
    (hlru : t.attempted.findLru = some v) (hparked : (t.attempted.retire v).claimable v = false) :
    Change t (.alloc name) (.address none) (t.attempted.retire v)
  /-- There is no victim. -/
  | crowded {name : Bytes} (hname : name ≠ []) (hnew : t.findName name = none)
    (hfull : t.attempted.findFree = none) (hlru : t.attempted.findLru = none) :
    Change t (.alloc name) (.address none) t.attempted
  | lookup (fake : Octets) : Change t (.lookup fake) (.name (t.lookup fake)) t
  | pinned {fake : Octets} {i : Fin fakeipCapacity} (hheld : t.ownedSlot fake = some i) :
    Change t (.pin fake) (.flag true) (t.setPins i (wrap64 ((t.slots i).inflight + 1)))
  | notPinned {fake : Octets} (hnone : t.ownedSlot fake = none) :
    Change t (.pin fake) (.flag false) t
  | unpinned {fake : Octets} {i : Fin fakeipCapacity} (hheld : t.ownedSlot fake = some i)
    (hpins : (t.slots i).inflight ≠ 0) :
    Change t (.unpin fake) (.flag true) (t.setPins i ((t.slots i).inflight - 1))
  | notUnpinned {fake : Octets}
    (hnone : ∀ i, t.ownedSlot fake = some i → (t.slots i).inflight = 0) :
    Change t (.unpin fake) (.flag false) t
  | touched {fake : Octets} {i : Fin fakeipCapacity} (hheld : t.ownedSlot fake = some i) :
    Change t (.noteTouched fake) (.flag true) (t.warmed i)
  | notTouched {fake : Octets} (hnone : t.ownedSlot fake = none) :
    Change t (.noteTouched fake) (.flag false) t
  | notExcluded {addr : Octets} (hmark : ∀ i, fakeIpSlotOf addr = some i → t.excluded i = true) :
    Change t (.exclude addr) .done t
  | excluded {addr : Octets} {i : Fin fakeipCapacity} (haddr : fakeIpSlotOf addr = some i)
    (hmark : t.excluded i = false) (hfree : (t.slots i).name = []) :
    Change t (.exclude addr) .done (t.marked i)
  | withdrawn {addr : Octets} {i : Fin fakeipCapacity} (haddr : fakeIpSlotOf addr = some i)
    (hmark : t.excluded i = false) (hheld : (t.slots i).name ≠ []) :
    Change t (.exclude addr) .done ((t.marked i).retire i)
  | progressed (n : ℕ) :
    Change t (.noteProgress n) (.clock (wrap64 (t.allocations + n)))
      { t with allocations := wrap64 (t.allocations + n) }

/-! ## There are no others -/

/-- Claiming a slot that was just retired is claiming it. -/
lemma claim_retire (t : FakeIpTable) (v : Fin fakeipCapacity) (name : Bytes) :
    (t.retire v).claim v name = t.claim v name := by
  unfold retire claim setSlot
  simp only [Function.update_idem]

/-- Retiring a slot makes no other slot issuable. -/
lemma findFree_retire (hfull : t.findFree = none) (h : (t.retire v).findFree = some i) : i = v := by
  by_contra hne
  obtain ⟨hfree, hready⟩ := of_findFree h
  unfold retire at hfree hready
  rw [slots_setSlot_of_ne _ hne] at hfree
  unfold claimable at hready
  rw [slots_setSlot_of_ne _ hne] at hready
  have hwait : t.claimable i = false := findFree_eq_none.mp hfull i hfree
  unfold claimable at hwait
  exact absurd (hwait.symm.trans hready) Bool.false_ne_true

/-- A retired slot is free when it may be issued. -/
lemma findFree_retire_isSome (hready : (t.retire v).claimable v = true) :
    (t.retire v).findFree ≠ none := by
  intro hnone
  have hwait := findFree_eq_none.mp hnone v (by simp [retire])
  exact absurd (hwait.symm.trans hready) Bool.false_ne_true

lemma evict_of_findLru (hlru : t.findLru = some v) : t.evict = t.retire v := by
  simp only [evict, hlru]

lemma evict_of_findLru_eq_none (hlru : t.findLru = none) : t.evict = t := by
  simp only [evict, hlru]

/-- The outcomes of an attempt to place a new name. -/
lemma change_alloc_of_new (hname : name ≠ []) (hnew : t.findName name = none) :
    Change t (.alloc name) (.address (t.alloc name).2) (t.alloc name).1 := by
  rcases alloc_of_new hname hnew with ⟨i, hfree, halloc⟩ | ⟨i, hfull, haged, halloc⟩ |
    ⟨hfull, haged, halloc⟩
  · rw [halloc]
    exact .placed hname hnew hfree
  · rw [halloc]
    cases hlru : t.attempted.findLru with
    | none =>
      rw [evict_of_findLru_eq_none hlru, hfull] at haged
      cases haged
    | some v =>
      rw [evict_of_findLru hlru] at haged ⊢
      obtain rfl := findFree_retire hfull haged
      rw [claim_retire]
      exact .replaced hname hnew hfull hlru (of_findFree haged).2
  · rw [halloc]
    cases hlru : t.attempted.findLru with
    | none =>
      rw [evict_of_findLru_eq_none hlru]
      exact .crowded hname hnew hfull hlru
    | some v =>
      rw [evict_of_findLru hlru] at haged ⊢
      refine .evicted hname hnew hfull hlru ?_
      by_contra hready
      rw [Bool.not_eq_false] at hready
      exact findFree_retire_isSome hready haged

/-- The outcomes of an exclusion. -/
lemma change_exclude (t : FakeIpTable) (addr : Octets) :
    Change t (.exclude addr) .done (t.exclude addr) := by
  cases haddr : fakeIpSlotOf addr with
  | none =>
    have hexclude : t.exclude addr = t := by simp only [exclude, haddr]
    rw [hexclude]
    apply Change.notExcluded
    intro i hi
    rw [haddr] at hi
    cases hi
  | some slot =>
    have hexclude : t.exclude addr =
        if t.excluded slot then t
        else if (t.slots slot).name ≠ [] then (t.marked slot).retire slot else t.marked slot := by
      simp only [exclude, haddr, marked]
    rw [hexclude]
    split_ifs with hmark hheld
    · apply Change.notExcluded
      intro i hi
      rw [haddr] at hi
      cases hi
      exact hmark
    · exact .withdrawn haddr (Bool.eq_false_of_not_eq_true hmark) hheld
    · exact .excluded haddr (Bool.eq_false_of_not_eq_true hmark) (not_not.mp hheld)

/-- The outcomes of a pin. -/
lemma change_pin (t : FakeIpTable) (fake : Octets) :
    Change t (.pin fake) (.flag (t.pin fake).2) (t.pin fake).1 := by
  cases hheld : t.ownedSlot fake with
  | none =>
    have hpin : t.pin fake = (t, false) := by simp only [pin, hheld]
    rw [hpin]
    exact .notPinned hheld
  | some i =>
    have hpin : t.pin fake = (t.setPins i (wrap64 ((t.slots i).inflight + 1)), true) := by
      simp only [pin, hheld, setPins]
    rw [hpin]
    exact .pinned hheld

/-- The outcomes of an unpin. -/
lemma change_unpin (t : FakeIpTable) (fake : Octets) :
    Change t (.unpin fake) (.flag (t.unpin fake).2) (t.unpin fake).1 := by
  cases hheld : t.ownedSlot fake with
  | none =>
    have hunpin : t.unpin fake = (t, false) := by simp only [unpin, hheld]
    rw [hunpin]
    apply Change.notUnpinned
    intro i hi
    rw [hheld] at hi
    cases hi
  | some i =>
    have hunpin : t.unpin fake =
        if (t.slots i).inflight = 0 then (t, false)
        else (t.setPins i ((t.slots i).inflight - 1), true) := by
      simp only [unpin, hheld, setPins]
    rw [hunpin]
    split_ifs with hpins
    · apply Change.notUnpinned
      intro j hj
      rw [hheld] at hj
      cases hj
      exact hpins
    · exact .unpinned hheld hpins

/-- The outcomes of a touch. -/
lemma change_noteTouched (t : FakeIpTable) (fake : Octets) :
    Change t (.noteTouched fake) (.flag (t.noteTouched fake).2) (t.noteTouched fake).1 := by
  cases hheld : t.ownedSlot fake with
  | none =>
    have htouched : t.noteTouched fake = (t, false) := by simp only [noteTouched, hheld]
    rw [htouched]
    exact .notTouched hheld
  | some i =>
    have htouched : t.noteTouched fake = (t.warmed i, true) := by
      simp only [noteTouched, hheld, warmed]
    rw [htouched]
    exact .touched hheld

/-- The outcomes of an allocation. -/
lemma change_alloc (t : FakeIpTable) (name : Bytes) :
    Change t (.alloc name) (.address (t.alloc name).2) (t.alloc name).1 := by
  by_cases hname : name = []
  · subst hname
    exact .noName
  · cases hfind : t.findName name with
    | none => exact change_alloc_of_new hname hfind
    | some i =>
      rw [alloc_of_findName hname hfind]
      exact .repeated hname hfind

/-- Every operation has one of the outcomes. -/
theorem change_step (t : FakeIpTable) (op : FakeIpOp) :
    Change t op (t.step op).2 (t.step op).1 := by
  cases op with
  | alloc name => exact change_alloc t name
  | lookup fake => exact .lookup fake
  | pin fake => exact change_pin t fake
  | unpin fake => exact change_unpin t fake
  | exclude addr => exact change_exclude t addr
  | noteTouched fake => exact change_noteTouched t fake
  | noteProgress n => exact .progressed n

/-! ## Exclusion -/

/-- A slot is out of circulation. -/
def Withdrawn (k : Fin fakeipCapacity) (t : FakeIpTable) : Prop :=
  t.excluded k = true ∧ (t.slots k).name = []

/-- A slot out of circulation stays so. -/
lemma Withdrawn.step (h : t.Withdrawn k) (op : FakeIpOp) : (t.step op).1.Withdrawn k := by
  obtain ⟨hmark, hfree⟩ := h
  have hchange := t.change_step op
  have hother {i : Fin fakeipCapacity} (hheld : (t.slots i).name ≠ []) : k ≠ i :=
    fun hki => hheld (hki ▸ hfree)
  generalize (t.step op).2 = answer at hchange
  generalize (t.step op).1 = t' at hchange ⊢
  cases hchange with
  | repeated hname hheld =>
    have hne := hother (by rwa [name_of_findName hheld])
    exact ⟨hmark, by rw [warmed, slots_setSlot_of_ne _ hne]; exact hfree⟩
  | @placed name i hname hnew hfreed =>
    have hne : k ≠ i := by
      rintro rfl
      have hready := (of_findFree hfreed).2
      have hblocked : t.attempted.claimable k = false := if_pos hmark
      exact absurd (hblocked.symm.trans hready) Bool.false_ne_true
    exact ⟨hmark, by rw [claim, slots_setSlot_of_ne _ hne]; exact hfree⟩
  | replaced hname hnew hfull hlru hready =>
    have hne := hother (of_findLru hlru).1
    exact ⟨hmark, by rw [claim, slots_setSlot_of_ne _ hne]; exact hfree⟩
  | evicted hname hnew hfull hlru hparked =>
    have hne := hother (of_findLru hlru).1
    exact ⟨hmark, by rw [retire, slots_setSlot_of_ne _ hne]; exact hfree⟩
  | pinned hheld =>
    have hne := hother (ownedSlot_eq_some.mp hheld).2
    exact ⟨hmark, by rw [setPins, slots_setSlot_of_ne _ hne]; exact hfree⟩
  | unpinned hheld hpos =>
    have hne := hother (ownedSlot_eq_some.mp hheld).2
    exact ⟨hmark, by rw [setPins, slots_setSlot_of_ne _ hne]; exact hfree⟩
  | touched hheld =>
    have hne := hother (ownedSlot_eq_some.mp hheld).2
    exact ⟨hmark, by rw [warmed, slots_setSlot_of_ne _ hne]; exact hfree⟩
  | @excluded addr i haddr hmark' hfree' =>
    have hne : k ≠ i := fun hki => Bool.false_ne_true (hmark'.symm.trans (hki ▸ hmark))
    exact ⟨by rw [marked]; exact (Function.update_of_ne hne ..).trans hmark, hfree⟩
  | @withdrawn addr i haddr hmark' hheld =>
    have hne := hother hheld
    refine ⟨(Function.update_of_ne hne ..).trans hmark, ?_⟩
    rw [retire, slots_setSlot_of_ne _ hne]
    exact hfree
  | _ => exact ⟨hmark, hfree⟩

/-- The slots out of circulation are nameless. -/
def Nameless (t : FakeIpTable) : Prop := ∀ k, t.excluded k = true → (t.slots k).name = []

/-- A slot that is taken out of circulation loses its name. -/
lemma Nameless.step (h : t.Nameless) (op : FakeIpOp) : (t.step op).1.Nameless := by
  intro k hmark
  by_cases hold : t.excluded k = true
  · exact (Withdrawn.step ⟨hold, h k hold⟩ op).2
  · have hchange := t.change_step op
    generalize (t.step op).2 = answer at hchange
    generalize (t.step op).1 = t' at hchange hmark ⊢
    cases hchange with
    | @excluded addr i haddr hmark' hfree =>
      by_cases hki : k = i
      · subst hki
        exact hfree
      · exact absurd ((Function.update_of_ne hki ..).symm.trans hmark) hold
    | @withdrawn addr i haddr hmark' hheld =>
      by_cases hki : k = i
      · subst hki
        rw [retire, slots_setSlot_self]
      · exact absurd ((Function.update_of_ne hki ..).symm.trans hmark) hold
    | _ => exact absurd hmark hold

lemma nameless_empty (quarantine : ℕ) : Nameless { quarantine } := fun _ _ => rfl

/-- The slots out of circulation are nameless in every run. -/
lemma nameless_run (excluded : Octets) (quarantine : ℕ) (ops : List FakeIpOp) :
    (Mealy.run step (create excluded quarantine) ops).Nameless := by
  have hcreate : (create excluded quarantine).Nameless :=
    (nameless_empty quarantine).step (.exclude excluded)
  exact Mealy.run_invariant (P := Nameless) (fun _ op h => h.step op) hcreate ops

/-- The excluded slots are counted. -/
def Counted (t : FakeIpTable) : Prop :=
  t.exclusions = (List.finRange fakeipCapacity).countP t.excluded

/-- Every exclusion is counted once. -/
lemma Counted.step (h : t.Counted) (op : FakeIpOp) : (t.step op).1.Counted := by
  have hchange := t.change_step op
  have hmarked {i : Fin fakeipCapacity} (hmark : t.excluded i = false) :
      t.exclusions + 1 =
        (List.finRange fakeipCapacity).countP (Function.update t.excluded i true) := by
    rw [SlotArray.countP_update_true (List.nodup_finRange fakeipCapacity) (List.mem_finRange i)
      hmark, ← h]
  generalize (t.step op).2 = answer at hchange
  generalize (t.step op).1 = t' at hchange ⊢
  cases hchange with
  | excluded haddr hmark hfree => exact hmarked hmark
  | withdrawn haddr hmark hheld => exact hmarked hmark
  | _ => exact h

/-- The excluded slots are counted in every run. -/
lemma counted_run (excluded : Octets) (quarantine : ℕ) (ops : List FakeIpOp) :
    (Mealy.run step (create excluded quarantine) ops).Counted := by
  have hempty : Counted { quarantine } := by
    unfold Counted
    rw [eq_comm, List.countP_eq_zero]
    exact fun _ _ => Bool.false_ne_true
  have hcreate : (create excluded quarantine).Counted := hempty.step (.exclude excluded)
  exact Mealy.run_invariant (P := Counted) (fun _ op h => h.step op) hcreate ops

end FakeIpTable

end Encapsule
