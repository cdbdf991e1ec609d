import Encapsule.Foundation.SlotArray
import Encapsule.Injectee.FakeIpPins
import Encapsule.Injectee.FakeIpQuarantine

/-!
# The quarantine ring of the fake-IP table

A slot that was retired waits until the allocation clock has advanced by the length of the
quarantine.  Only an attempt for a new name retires a slot that stays in circulation, and it retires
no more than one after the clock ticked; so the slots in the ring were retired at different ticks of
the last `quarantine` (`FakeIpTable.Ring`), and there are no more of them than that
(`waiting_le_quarantine`).  A refused attempt is the tick that those behind it wait for: among
`quarantine + 1` attempts in a row one is answered (`answered_of_unpinned`).
-/

namespace Encapsule

namespace FakeIpTable

variable {t t' : FakeIpTable} {i j v : Fin fakeipCapacity} {name : Bytes} {names : List Bytes}

/-! ## The ring -/

/-- A slot in circulation that was retired and not claimed again. -/
def Parked (t : FakeIpTable) (i : Fin fakeipCapacity) : Prop :=
  (t.slots i).name = [] ∧ t.excluded i = false ∧ (t.slots i).usedOnce = true

/-- The slots in the ring were retired at different ticks, not more than a quarantine ago. -/
structure Ring (t : FakeIpTable) : Prop where
  reusableAt_le : ∀ i, t.Parked i → (t.slots i).reusableAt ≤ t.allocations + t.quarantine
  reusableAt_inj : ∀ i j, t.Parked i → t.Parked j →
    (t.slots i).reusableAt = (t.slots j).reusableAt → i = j
  /-- Without a quarantine a slot is claimed in the attempt that retires it. -/
  quarantine_pos : ∀ i, t.Parked i → 0 < t.quarantine

/-- Slots may leave the ring and the clock may go on. -/
lemma Ring.mono (h : t.Ring)
    (hparked : ∀ i, t'.Parked i →
      t.Parked i ∧ (t'.slots i).reusableAt = (t.slots i).reusableAt)
    (hclock : t.allocations ≤ t'.allocations) (hq : t'.quarantine = t.quarantine) : t'.Ring where
  reusableAt_le i hi := by
    obtain ⟨hold, heq⟩ := hparked i hi
    have hle := h.reusableAt_le i hold
    rw [heq, hq]
    omega
  reusableAt_inj i j hi hj heq := by
    obtain ⟨hoki, heqi⟩ := hparked i hi
    obtain ⟨hokj, heqj⟩ := hparked j hj
    rw [heqi, heqj] at heq
    exact h.reusableAt_inj i j hoki hokj heq
  quarantine_pos i hi := by
    rw [hq]
    exact h.quarantine_pos i (hparked i hi).1

/-- A slot that is rewritten with a name, or is out of circulation, is not in the ring. -/
lemma parked_of_setSlot {row : FakeIpSlot} (hrow : row.name ≠ [] ∨ t.excluded i = true)
    (h : (t.setSlot i row).Parked j) :
    t.Parked j ∧ ((t.setSlot i row).slots j).reusableAt = (t.slots j).reusableAt := by
  obtain ⟨hfree, hmark, honce⟩ := h
  have hji : j ≠ i := by
    rintro rfl
    rw [slots_setSlot_self] at hfree
    rcases hrow with hname | hout
    · exact hname hfree
    · exact Bool.false_ne_true (hmark.symm.trans hout)
  rw [slots_setSlot_of_ne row hji] at hfree honce ⊢
  exact ⟨⟨hfree, hmark, honce⟩, rfl⟩

/-- A slot that is in circulation after another was taken out was so before. -/
lemma excluded_of_marked (h : (t.marked i).excluded j = false) : t.excluded j = false := by
  have hji : j ≠ i := by
    rintro rfl
    have hmark : (t.marked j).excluded j = true := Function.update_self ..
    exact Bool.false_ne_true (h.symm.trans hmark)
  exact (Function.update_of_ne hji ..).symm.trans h

/-- The ring takes in the victim of an attempt whose slot cannot be claimed at once. -/
lemma Ring.evicted (h : t.Ring) (hclock : t.allocations + 1 + t.quarantine < 2 ^ 64)
    (hwait : (t.attempted.retire v).claimable v = false) : (t.attempted.retire v).Ring := by
  have htick : wrap64 (t.allocations + 1) = t.allocations + 1 := Nat.mod_eq_of_lt (by omega)
  have hnow : (t.attempted.retire v).allocations = t.allocations + 1 := htick
  have hv : ((t.attempted.retire v).slots v).reusableAt = t.allocations + 1 + t.quarantine := by
    rw [retire, slots_setSlot_self]
    change wrap64 (wrap64 (t.allocations + 1) + t.quarantine) = _
    rw [htick]
    exact Nat.mod_eq_of_lt hclock
  have hother {i : Fin fakeipCapacity} (hi : (t.attempted.retire v).Parked i) (hiv : i ≠ v) :
      t.Parked i ∧ ((t.attempted.retire v).slots i).reusableAt = (t.slots i).reusableAt := by
    obtain ⟨hfree, hmark, honce⟩ := hi
    unfold retire at hfree honce ⊢
    rw [slots_setSlot_of_ne _ hiv] at hfree honce ⊢
    exact ⟨⟨hfree, hmark, honce⟩, rfl⟩
  refine ⟨fun i hi => ?_, fun i j hi hj heq => ?_, fun i hi => ?_⟩
  · rw [hnow]
    change _ ≤ t.allocations + 1 + t.quarantine
    by_cases hiv : i = v
    · rw [hiv, hv]
    · obtain ⟨hold, hsame⟩ := hother hi hiv
      have hle := h.reusableAt_le i hold
      rw [hsame]
      omega
  · -- The victim waits longer than all others.
    have hlater {k : Fin fakeipCapacity} (hk : (t.attempted.retire v).Parked k) (hkv : k ≠ v) :
        ((t.attempted.retire v).slots k).reusableAt ≠
          ((t.attempted.retire v).slots v).reusableAt := by
      obtain ⟨hold, hsame⟩ := hother hk hkv
      have hle := h.reusableAt_le k hold
      rw [hsame, hv]
      omega
    by_cases hiv : i = v
    · by_contra hne
      subst hiv
      exact hlater hj (Ne.symm hne) heq.symm
    · by_cases hjv : j = v
      · subst hjv
        exact absurd heq (hlater hi hiv)
      · obtain ⟨holdi, hsamei⟩ := hother hi hiv
        obtain ⟨holdj, hsamej⟩ := hother hj hjv
        rw [hsamei, hsamej] at heq
        exact h.reusableAt_inj i j holdi holdj heq
  · change 0 < t.quarantine
    by_cases hiv : i = v
    · subst hiv
      obtain ⟨-, hmark, honce⟩ := hi
      unfold claimable at hwait
      rw [hmark, honce, hv, hnow] at hwait
      simp only [Bool.false_eq_true, if_false, Bool.not_true, decide_eq_false_iff_not,
        Nat.not_le] at hwait
      omega
    · exact h.quarantine_pos i (hother hi hiv).1

/-- An attempt to place a new name is a tick. -/
lemma ticks_alloc (hname : name ≠ []) (hnew : t.findName name = none) :
    t.ticks (.alloc name) = 1 := by
  simp only [ticks, hname, hnew, Option.isSome_none, Bool.false_eq_true, or_self, if_false]

/-- The allocation clock and the quarantine fit into the width of the clock in this operation. -/
def RingFits (t : FakeIpTable) (op : FakeIpOp) : Prop :=
  t.allocations + t.ticks op + t.quarantine < 2 ^ 64

/-- An operation in which the allocation clock does not wrap keeps the ring in order. -/
lemma Ring.step {op : FakeIpOp} (hfits : t.RingFits op) (h : t.Ring) : (t.step op).1.Ring := by
  unfold RingFits at hfits
  have hclock : t.allocations ≤ (t.step op).1.allocations := by
    rw [(step_book t op hfits).2]
    omega
  have hq := t.quarantine_step op
  have hchange := t.change_step op
  generalize (t.step op).2 = answer at hchange
  generalize (t.step op).1 = t' at hchange hclock hq ⊢
  cases hchange with
  | repeated hname hheld =>
    refine h.mono (fun j hj => parked_of_setSlot (Or.inl ?_) hj) hclock hq
    rwa [name_of_findName hheld]
  | placed hname hnew hfree =>
    exact h.mono (fun j hj => parked_of_setSlot (Or.inl hname) hj) hclock hq
  | replaced hname hnew hfull hlru hready =>
    exact h.mono (fun j hj => parked_of_setSlot (Or.inl hname) hj) hclock hq
  | evicted hname hnew hfull hlru hparked =>
    rw [ticks_alloc hname hnew] at hfits
    exact h.evicted hfits hparked
  | pinned hheld =>
    refine h.mono (fun j hj => parked_of_setSlot (Or.inl ?_) hj) hclock hq
    exact (ownedSlot_eq_some.mp hheld).2
  | unpinned hheld hpins =>
    refine h.mono (fun j hj => parked_of_setSlot (Or.inl ?_) hj) hclock hq
    exact (ownedSlot_eq_some.mp hheld).2
  | touched hheld =>
    refine h.mono (fun j hj => parked_of_setSlot (Or.inl ?_) hj) hclock hq
    exact (ownedSlot_eq_some.mp hheld).2
  | @excluded addr k haddr hmark hfree =>
    refine h.mono (fun j hj => ⟨⟨hj.1, ?_, hj.2.2⟩, rfl⟩) hclock hq
    exact excluded_of_marked hj.2.1
  | @withdrawn addr k haddr hmark hheld =>
    have hout : (t.marked k).excluded k = true := Function.update_self ..
    have hretired {j : Fin fakeipCapacity} (hj : ((t.marked k).retire k).Parked j) :=
      parked_of_setSlot (Or.inr hout) hj
    refine h.mono (fun j hj => ⟨⟨(hretired hj).1.1, ?_, (hretired hj).1.2.2⟩, (hretired hj).2⟩)
      hclock hq
    exact excluded_of_marked hj.2.1
  | _ => exact h.mono (fun j hj => ⟨hj, rfl⟩) hclock hq

/-- The ring of a new table is empty. -/
lemma ring_create (excluded : Octets) {quarantine : ℕ} (hq : quarantine < 2 ^ 64) :
    (create excluded quarantine).Ring := by
  have hnone (i : Fin fakeipCapacity) : ¬Parked { quarantine } i := by
    rintro ⟨-, -, honce⟩
    exact Bool.false_ne_true honce
  have hempty : Ring { quarantine } :=
    ⟨fun i hi => absurd hi (hnone i), fun i j hi => absurd hi (hnone i),
      fun i hi => absurd hi (hnone i)⟩
  have hfits : RingFits { quarantine } (.exclude excluded) := by
    change 0 + 0 + quarantine < 2 ^ 64
    omega
  exact hempty.step hfits

/-- The ring stays in order in a run in which the allocation clock does not wrap. -/
lemma Ring.run {ops : List FakeIpOp} (h : t.Ring)
    (hclock : t.allocations + t.totalTicks ops + t.quarantine < 2 ^ 64) :
    (Mealy.run FakeIpTable.step t ops).Ring := by
  induction ops generalizing t with
  | nil => exact h
  | cons op ops ih =>
    simp only [totalTicks] at hclock
    have hfits : t.RingFits op := by
      unfold RingFits
      omega
    refine ih (h.step hfits) ?_
    rw [(step_book t op hfits).2, quarantine_step]
    omega

/-- The ring, the clock and the quarantine of a table that is reached from a constructor without the
allocation clock wrapping. -/
lemma ring_run (excluded : Octets) (q : ℕ) {ops : List FakeIpOp}
    (hclock : (create excluded q).totalTicks ops + q < 2 ^ 64) :
    (Mealy.run step (create excluded q) ops).Ring ∧
      (Mealy.run step (create excluded q) ops).quarantine = q ∧
      (Mealy.run step (create excluded q) ops).allocations + q < 2 ^ 64 := by
  obtain ⟨hq, hzero⟩ : (create excluded q).quarantine = q ∧ (create excluded q).allocations = 0 :=
    exclude_fields { quarantine := q } excluded
  have hfits : (create excluded q).allocations + (create excluded q).totalTicks ops +
      (create excluded q).quarantine < 2 ^ 64 := by
    rw [hq, hzero]
    omega
  refine ⟨(ring_create excluded (by omega)).run hfits, ?_, ?_⟩
  · rw [quarantine_run, hq]
  · rw [(run_book ops _ hfits).2, hzero]
    omega

/-! ## How many slots wait -/

/-- A slot in circulation that has no name and may not be issued yet. -/
def waiting (t : FakeIpTable) (i : Fin fakeipCapacity) : Bool :=
  !t.excluded i && (t.slots i).name = [] && !t.claimable i

/-- A slot waits where it was retired and its time has not come. -/
lemma waiting_iff :
    t.waiting i = true ↔ t.Parked i ∧ t.allocations < (t.slots i).reusableAt := by
  unfold waiting claimable Parked
  cases t.excluded i <;> cases (t.slots i).usedOnce <;> simp

/-- A slot in circulation without a name waits or may be issued. -/
lemma waiting_of_claimable (hfree : (t.slots i).name = []) (hmark : t.excluded i = false)
    (hwait : t.claimable i = false) : t.waiting i = true := by
  simp [waiting, hfree, hmark, hwait]

/-- The slots that wait are no more than the quarantine is long. -/
lemma Ring.waiting_le (h : t.Ring) :
    (List.finRange fakeipCapacity).countP t.waiting ≤ t.quarantine := by
  refine SlotArray.countP_le_of_injOn (f := fun i => (t.slots i).reusableAt) (a := t.allocations)
    (List.nodup_finRange _) (fun i j hi hj heq => ?_) fun i hi => ?_
  · exact h.reusableAt_inj i j (waiting_iff.mp hi).1 (waiting_iff.mp hj).1 heq
  · obtain ⟨hparked, hlt⟩ := waiting_iff.mp hi
    exact ⟨hlt, h.reusableAt_le i hparked⟩

/-- Where no slot in circulation may be issued, each holds a name or waits. -/
lemma capacity_le (hcounted : t.Counted)
    (hnone : ∀ i, t.excluded i = false → (t.slots i).name = [] → t.claimable i = false) :
    t.capacity ≤ t.liveNames + (List.finRange fakeipCapacity).countP t.waiting := by
  have hle := SlotArray.length_le_countP_add (p := fun i => decide ((t.slots i).name ≠ []))
    (r := t.excluded) (q := t.waiting) (List.finRange fakeipCapacity) fun i _ => ?_
  · rw [List.length_finRange, ← hcounted] at hle
    unfold capacity liveNames
    omega
  · by_cases hfree : (t.slots i).name = []
    · cases hmark : t.excluded i with
      | true => exact Or.inr (Or.inl rfl)
      | false => exact Or.inr (Or.inr (waiting_of_claimable hfree hmark (hnone i hmark hfree)))
    · exact Or.inl (decide_eq_true hfree)

/-- **The ring never holds more than its length.** In every state that is reached from a constructor
without the clock wrapping, at most `q` slots in circulation wait in quarantine; so where none may
be issued, the names that are held are at most `q` short of the capacity. -/
theorem waiting_le_quarantine (excluded : Octets) (q : ℕ) (ops : List FakeIpOp)
    (hclock : (create excluded q).totalTicks ops + q < 2 ^ 64) :
    let t := Mealy.run step (create excluded q) ops
    (List.finRange fakeipCapacity).countP t.waiting ≤ q ∧
      ((∀ i, t.excluded i = false → (t.slots i).name = [] → t.claimable i = false) →
        t.capacity ≤ t.liveNames + q) := by
  intro t
  obtain ⟨hring, hq, -⟩ := ring_run excluded q hclock
  have hwaiting : (List.finRange fakeipCapacity).countP t.waiting ≤ q := hq ▸ hring.waiting_le
  refine ⟨hwaiting, fun hnone => ?_⟩
  have hcapacity := capacity_le (counted_run excluded q ops) hnone
  exact hcapacity.trans (Nat.add_le_add_left hwaiting _)

/-- In a table of one slot and with a quarantine of one tick, `b` has just evicted `a`: the slot
waits, and no more slots may. -/
theorem waiting_le_quarantine_b :
    let t := Mealy.run step (create ⟨0, 0, 0, 0⟩ 1) (excludeFrom 1 ++ [.alloc [97], .alloc [98]])
    t.waiting 0 = true ∧ (List.finRange fakeipCapacity).countP t.waiting ≤ 1 ∧
      t.capacity ≤ t.liveNames + 1 := by
  have hclock : (create ⟨0, 0, 0, 0⟩ 1).totalTicks
      (excludeFrom 1 ++ [.alloc [97], .alloc [98]]) + 1 < 2 ^ 64 := by
    rw [totalTicks_append, totalTicks_excludeFrom, run_excludeFrom]
    decide
  have hring := waiting_le_quarantine ⟨0, 0, 0, 0⟩ 1 _ hclock
  rw [Mealy.run_append, run_excludeFrom] at hring ⊢
  exact ⟨by decide, hring.1, hring.2 (by decide +kernel)⟩

/-! ## How long names are refused -/

/-- One of the calls in a row answers with an address. -/
def Answered (t : FakeIpTable) (names : List Bytes) : Prop :=
  ∃ pre name post, names = pre ++ name :: post ∧
    ((Mealy.run step t (pre.map .alloc)).alloc name).2 ≠ none

/-- The first call may be the one. -/
lemma answered_head (h : (t.alloc name).2 ≠ none) : t.Answered (name :: names) :=
  ⟨[], name, names, rfl, h⟩

/-- Otherwise it is one of the calls behind it. -/
lemma answered_tail (h : (t.alloc name).1.Answered names) : t.Answered (name :: names) := by
  obtain ⟨pre, last, post, rfl, hlast⟩ := h
  exact ⟨name :: pre, last, post, rfl, hlast⟩

/-- A refused call finds no free slot, and retires a victim whose slot has to wait, if there is a
victim. -/
lemma alloc_refused (hname : name ≠ []) (h : (t.alloc name).2 = none) :
    t.attempted.findFree = none ∧
      ((∃ v, t.attempted.findLru = some v ∧ (t.attempted.retire v).claimable v = false ∧
          (t.alloc name).1 = t.attempted.retire v) ∨
        t.attempted.findLru = none ∧ (t.alloc name).1 = t.attempted) := by
  have hchange := change_alloc t name
  generalize t.alloc name = result at hchange h ⊢
  obtain ⟨t', answer⟩ := result
  cases h
  cases hchange with
  | noName => exact absurd rfl hname
  | evicted _ _ hfull hlru hparked => exact ⟨hfull, Or.inl ⟨_, hlru, hparked, rfl⟩⟩
  | crowded _ _ hfull hlru => exact ⟨hfull, Or.inr ⟨hlru, rfl⟩⟩

/-- A refused call leaves the slots without a name as they are, and is a tick. -/
lemma alloc_refused_slots (hname : name ≠ []) (h : (t.alloc name).2 = none)
    (hfree : (t.slots i).name = []) :
    (t.alloc name).1.slots i = t.slots i ∧ (t.alloc name).1.excluded = t.excluded ∧
      (t.alloc name).1.allocations = wrap64 (t.allocations + 1) := by
  obtain ⟨-, ⟨v, hlru, -, hstate⟩ | ⟨-, hstate⟩⟩ := alloc_refused hname h
  · have hiv : i ≠ v := fun heq => (of_findLru hlru).1 (heq ▸ hfree)
    rw [hstate]
    exact ⟨slots_setSlot_of_ne _ hiv, rfl, rfl⟩
  · rw [hstate]
    exact ⟨rfl, rfl, rfl⟩

/-- While a slot waits for `n` ticks more, one of `n` calls is answered. -/
lemma answered_of_free {n : ℕ} (hfree : (t.slots i).name = []) (hmark : t.excluded i = false)
    (hready : (t.slots i).usedOnce = true →
      (t.slots i).reusableAt ≤ t.allocations + n ∧ t.allocations + n < 2 ^ 64)
    (hn : 0 < n) (hlen : n ≤ names.length) (hnames : ∀ name ∈ names, name ≠ []) :
    t.Answered names := by
  induction names generalizing t n with
  | nil =>
    rw [List.length_nil] at hlen
    omega
  | cons name names ih =>
    by_cases hrefused : (t.alloc name).2 = none
    · have hname : name ≠ [] := hnames name List.mem_cons_self
      have hwait : t.attempted.claimable i = false :=
        findFree_eq_none.mp (alloc_refused hname hrefused).1 i hfree
      obtain ⟨honce, hlt⟩ : (t.slots i).usedOnce = true ∧
          wrap64 (t.allocations + 1) < (t.slots i).reusableAt := by
        have hparked := waiting_iff.mp (waiting_of_claimable (t := t.attempted) hfree hmark hwait)
        exact ⟨hparked.1.2.2, hparked.2⟩
      obtain ⟨hle, hfits⟩ := hready honce
      have htick : wrap64 (t.allocations + 1) = t.allocations + 1 :=
        Nat.mod_eq_of_lt (by omega)
      obtain ⟨hslot, hexcluded, hclock⟩ := alloc_refused_slots hname hrefused hfree
      rw [htick] at hlt hclock
      rw [List.length_cons] at hlen
      refine answered_tail (ih (n := n - 1) ?_ ?_ ?_ ?_ ?_ ?_)
      · rwa [hslot]
      · rwa [hexcluded]
      · intro _
        rw [hslot, hclock]
        omega
      · omega
      · omega
      · exact fun other hother => hnames other (List.mem_cons_of_mem name hother)
    · exact answered_head hrefused

/-- While a slot waits, fewer calls than the quarantine is long are refused. -/
lemma answered_of_nameless (h : t.Ring) (hclock : t.allocations + t.quarantine < 2 ^ 64)
    (hfree : (t.slots i).name = []) (hmark : t.excluded i = false)
    (hlen : names.length = t.quarantine + 1) (hnames : ∀ name ∈ names, name ≠ []) :
    t.Answered names := by
  by_cases honce : (t.slots i).usedOnce = true
  · have hparked : t.Parked i := ⟨hfree, hmark, honce⟩
    exact answered_of_free hfree hmark (fun _ => ⟨h.reusableAt_le i hparked, hclock⟩)
      (h.quarantine_pos i hparked) (by omega) hnames
  · exact answered_of_free (n := 1) hfree hmark (fun hused => absurd hused honce) Nat.one_pos
      (by omega) hnames

/-- A call that is refused retires a name that is not pinned, and those behind it may have its
slot. -/
lemma answered_of_held (hclock : t.allocations + t.quarantine < 2 ^ 64) (hnameless : t.Nameless)
    (hheld : (t.slots i).name ≠ []) (hpins : (t.slots i).inflight = 0)
    (hlen : names.length = t.quarantine + 1) (hnames : ∀ name ∈ names, name ≠ []) :
    t.Answered names := by
  obtain ⟨name, names, rfl⟩ := List.exists_cons_of_length_eq_add_one hlen
  by_cases hrefused : (t.alloc name).2 = none
  · obtain ⟨-, ⟨v, hlru, hparked, hstate⟩ | ⟨hlru, -⟩⟩ :=
      alloc_refused (hnames name List.mem_cons_self) hrefused
    · have hvictim : t.excluded v = false :=
        Bool.eq_false_of_not_eq_true fun hout => (of_findLru hlru).1 (hnameless v hout)
      -- Where its time came round to zero, or is now, the slot would not have to wait.
      have hlt : wrap64 (t.allocations + 1) <
          wrap64 (wrap64 (t.allocations + 1) + t.quarantine) := by
        have hfree : ((t.attempted.retire v).slots v).name = [] := by
          rw [retire, slots_setSlot_self]
        have hlater := (waiting_iff.mp (waiting_of_claimable hfree hvictim hparked)).2
        rwa [retire, slots_setSlot_self] at hlater
      obtain ⟨htick, hfits⟩ : wrap64 (t.allocations + 1) = t.allocations + 1 ∧
          t.allocations + 1 + t.quarantine < 2 ^ 64 := by
        unfold wrap64 at hlt ⊢
        omega
      rw [htick] at hlt
      have hwrap : wrap64 (t.allocations + 1 + t.quarantine) = t.allocations + 1 + t.quarantine :=
        Nat.mod_eq_of_lt hfits
      refine answered_tail ?_
      rw [hstate]
      refine answered_of_free (i := v) (n := t.quarantine) ?_ hvictim (fun _ => ?_) ?_ ?_ ?_
      · rw [retire, slots_setSlot_self]
      · rw [retire, slots_setSlot_self]
        change wrap64 (wrap64 (t.allocations + 1) + t.quarantine) ≤
          wrap64 (t.allocations + 1) + t.quarantine ∧
          wrap64 (t.allocations + 1) + t.quarantine < 2 ^ 64
        rw [htick, hwrap]
        exact ⟨le_rfl, hfits⟩
      · omega
      · rw [List.length_cons] at hlen
        omega
      · exact fun other hother => hnames other (List.mem_cons_of_mem name hother)
    · exact absurd hpins (findLru_eq_none.mp hlru i hheld)
  · exact answered_head hrefused

/-- **Refusals are bounded by the ring.** In every state that is reached from a constructor without
the clock wrapping, and in which some slot in circulation has no pin, one of `q + 1` calls in a row
is answered. -/
theorem answered_of_unpinned (excluded : Octets) (q : ℕ) (ops : List FakeIpOp)
    (hclock : (create excluded q).totalTicks ops + q < 2 ^ 64) (i : Fin fakeipCapacity)
    (hmark : (Mealy.run step (create excluded q) ops).isExcluded (fakeIpAt i) = false)
    (hpins : (Mealy.run step (create excluded q) ops).pins (fakeIpAt i) = 0)
    (names : List Bytes) (hlen : names.length = q + 1) (hnames : ∀ name ∈ names, name ≠ []) :
    ∃ pre name post, names = pre ++ name :: post ∧
      ((Mealy.run step (Mealy.run step (create excluded q) ops) (pre.map .alloc)).alloc name).2 ≠
        none := by
  obtain ⟨hring, hq, hfits⟩ := ring_run excluded q hclock
  have hnameless := nameless_run excluded q ops
  generalize Mealy.run step (create excluded q) ops = t at *
  change t.Answered names
  rw [isExcluded, fakeIpSlotOf_fakeIpAt, Option.any_some] at hmark
  rw [← hq] at hlen hfits
  by_cases hfree : (t.slots i).name = []
  · exact answered_of_nameless hring hfits hfree hmark hlen hnames
  · rw [pins_fakeIpAt, if_neg hfree] at hpins
    exact answered_of_held hfits hnameless hfree hpins hlen hnames

/-- In a table of one slot, which `a` has, and with a quarantine of three: `b` evicts `a` and is
refused, and one of its four calls is answered. -/
theorem answered_of_unpinned_b :
    let t := Mealy.run step (create ⟨0, 0, 0, 0⟩ 3) (excludeFrom 1 ++ [.alloc [97]])
    (t.alloc [98]).2 = none ∧
      ∃ pre name post, [[98], [98], [98], [98]] = pre ++ name :: post ∧
        ((Mealy.run step t (pre.map .alloc)).alloc name).2 ≠ none := by
  intro t
  have hclock : (create ⟨0, 0, 0, 0⟩ 3).totalTicks (excludeFrom 1 ++ [.alloc [97]]) + 3 <
      2 ^ 64 := by
    rw [totalTicks_append, totalTicks_excludeFrom, run_excludeFrom]
    decide
  have hrefused : t.isExcluded (fakeIpAt 0) = false ∧ t.pins (fakeIpAt 0) = 0 ∧
      (t.alloc [98]).2 = none := by
    change (Mealy.run step _ _).isExcluded (fakeIpAt 0) = false ∧
      (Mealy.run step _ _).pins (fakeIpAt 0) = 0 ∧ ((Mealy.run step _ _).alloc [98]).2 = none
    rw [Mealy.run_append, run_excludeFrom]
    decide
  exact ⟨hrefused.2.2, answered_of_unpinned _ 3 _ hclock 0 hrefused.1 hrefused.2.1
    [[98], [98], [98], [98]] rfl (by decide)⟩

end FakeIpTable

end Encapsule
