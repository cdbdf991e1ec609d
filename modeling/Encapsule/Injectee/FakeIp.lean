import Mathlib.Data.List.FinRange
import Mathlib.Data.List.MinMax
import Mathlib.Data.List.Nodup
import Encapsule.Common.Schema
import Encapsule.Foundation.Mealy

/-!
# The fake-IP name table

The table of `fakeip.hpp`: 254 slots, one for each address `198.51.100.1` to `198.51.100.254`, each
free or held by a name.  A scan over the slots is a scan over `List.finRange`, so it meets them in
the order of the source; the two clocks are `uint64_t` counters and wrap as such.

* `FakeIpTable.alloc`: the address of a name, claimed or evicted for when the name is new.
* `FakeIpTable.step`: one operation of the table, with its answer.
* `FakeIpTable.totalTicks`: by how much a run advances the allocation clock, were it never to wrap.
-/

namespace Encapsule

/-! ## The range -/

/-- Four octets in wire order. -/
structure Octets where
  a : UInt8 := 0
  b : UInt8 := 0
  c : UInt8 := 0
  d : UInt8 := 0
  deriving DecidableEq

/-- `FAKEIP_RANGE`. -/
def fakeipRange : Octets := ⟨198, 51, 100, 0⟩

/-- `FAKEIP_FIRST_HOST`. -/
def fakeipFirstHost : ℕ := 1

/-- `FAKEIP_CAPACITY`. -/
abbrev fakeipCapacity : ℕ := 254

/-- `FAKEIP_DEFAULT_QUARANTINE`. -/
def fakeipDefaultQuarantine : ℕ := fakeipCapacity / 2

/-- Membership in the /24, `.0` and `.255` included. -/
def inFakeRange (v4 : Octets) : Bool :=
  v4.a == fakeipRange.a && v4.b == fakeipRange.b && v4.c == fakeipRange.c

/-- The address of a slot. -/
def fakeIpAt (slot : Fin fakeipCapacity) : Octets :=
  { fakeipRange with d := UInt8.ofNat (slot + fakeipFirstHost) }

/-- The slot of an address, when it is one of the 254. -/
def fakeIpSlotOf (v4 : Octets) : Option (Fin fakeipCapacity) :=
  if !inFakeRange v4 then none
  else
    let host := v4.d.toNat
    if h : host < fakeipFirstHost ∨ fakeipFirstHost + fakeipCapacity ≤ host then none
    else some ⟨host - fakeipFirstHost, by unfold fakeipFirstHost at h ⊢; omega⟩

/-! ## The table -/

/-- One candidate address; the empty name means that the slot is free. -/
structure FakeIpSlot where
  name : Bytes := []
  inflight : ℕ := 0
  lastUse : ℕ := 0
  reusableAt : ℕ := 0
  usedOnce : Bool := false
  deriving DecidableEq

/-- `fake_ip_table`. -/
structure FakeIpTable where
  slots : Fin fakeipCapacity → FakeIpSlot := fun _ => {}
  quarantine : ℕ := fakeipDefaultQuarantine
  excluded : Fin fakeipCapacity → Bool := fun _ => false
  exclusions : ℕ := 0
  touch : ℕ := 0
  allocations : ℕ := 0

namespace FakeIpTable

/-- The table with one slot rewritten. -/
def setSlot (t : FakeIpTable) (i : Fin fakeipCapacity) (row : FakeIpSlot) : FakeIpTable :=
  { t with slots := Function.update t.slots i row }

/-- `owned_slot`. -/
def ownedSlot (t : FakeIpTable) (fake : Octets) : Option (Fin fakeipCapacity) :=
  (fakeIpSlotOf fake).filter fun slot => (t.slots slot).name ≠ []

/-- `find_name`. -/
def findName (t : FakeIpTable) (name : Bytes) : Option (Fin fakeipCapacity) :=
  (List.finRange fakeipCapacity).find? fun i => (t.slots i).name = name

/-- `claimable`. -/
def claimable (t : FakeIpTable) (i : Fin fakeipCapacity) : Bool :=
  if t.excluded i then false
  else if !(t.slots i).usedOnce then true
  else (t.slots i).reusableAt ≤ t.allocations

/-- `find_free`. -/
def findFree (t : FakeIpTable) : Option (Fin fakeipCapacity) :=
  (List.finRange fakeipCapacity).find? fun i => (t.slots i).name = [] ∧ t.claimable i

/-- `find_lru`: the first of the least recently used slots that hold a name and no connection. -/
def findLru (t : FakeIpTable) : Option (Fin fakeipCapacity) :=
  ((List.finRange fakeipCapacity).filter fun i =>
    (t.slots i).name ≠ [] ∧ (t.slots i).inflight = 0).argmin fun i => (t.slots i).lastUse

/-- `claim`. -/
def claim (t : FakeIpTable) (i : Fin fakeipCapacity) (name : Bytes) : FakeIpTable :=
  t.setSlot i { name, inflight := 0, lastUse := t.touch, reusableAt := 0, usedOnce := true }

/-- `retire`. -/
def retire (t : FakeIpTable) (i : Fin fakeipCapacity) : FakeIpTable :=
  t.setSlot i { t.slots i with
    name := [], inflight := 0, usedOnce := true
    reusableAt := wrap64 (t.allocations + t.quarantine) }

/-- `exclude`. -/
def exclude (t : FakeIpTable) (addr : Octets) : FakeIpTable :=
  match fakeIpSlotOf addr with
  | none => t
  | some slot =>
    if t.excluded slot then t
    else
      let t' := { t with
        excluded := Function.update t.excluded slot true, exclusions := t.exclusions + 1 }
      if (t'.slots slot).name ≠ [] then t'.retire slot else t'

/-- The constructor. -/
def create (excluded : Octets) (quarantine : ℕ) : FakeIpTable :=
  exclude { quarantine } excluded

/-- Retires the least recently used name with nothing in flight, into quarantine. -/
def evict (t : FakeIpTable) : FakeIpTable :=
  match t.findLru with
  | some victim => t.retire victim
  | none => t

/-- `alloc`. -/
def alloc (t : FakeIpTable) (name : Bytes) : FakeIpTable × Option Octets :=
  if name = [] then (t, none)
  else
    let t := { t with touch := wrap64 (t.touch + 1) }
    match t.findName name with
    | some seen =>
      (t.setSlot seen { t.slots seen with lastUse := t.touch }, some (fakeIpAt seen))
    | none =>
      -- Every attempt for a new name advances the ring clock, refused ones included.
      let t := { t with allocations := wrap64 (t.allocations + 1) }
      match t.findFree with
      | some free => (t.claim free name, some (fakeIpAt free))
      | none =>
        let t := t.evict
        match t.findFree with
        | some aged => (t.claim aged name, some (fakeIpAt aged))
        | none => (t, none)

/-- `lookup`. -/
def lookup (t : FakeIpTable) (fake : Octets) : Option Bytes :=
  (t.ownedSlot fake).map fun slot => (t.slots slot).name

/-- `pin`. -/
def pin (t : FakeIpTable) (fake : Octets) : FakeIpTable × Bool :=
  match t.ownedSlot fake with
  | none => (t, false)
  | some slot =>
    (t.setSlot slot { t.slots slot with inflight := wrap64 ((t.slots slot).inflight + 1) }, true)

/-- `unpin`. -/
def unpin (t : FakeIpTable) (fake : Octets) : FakeIpTable × Bool :=
  match t.ownedSlot fake with
  | none => (t, false)
  | some slot =>
    if (t.slots slot).inflight = 0 then (t, false)
    else (t.setSlot slot { t.slots slot with inflight := (t.slots slot).inflight - 1 }, true)

/-- `note_touched`. -/
def noteTouched (t : FakeIpTable) (fake : Octets) : FakeIpTable × Bool :=
  match t.ownedSlot fake with
  | none => (t, false)
  | some slot =>
    let t := { t with touch := wrap64 (t.touch + 1) }
    (t.setSlot slot { t.slots slot with lastUse := t.touch }, true)

/-- `note_progress`. -/
def noteProgress (t : FakeIpTable) (ticks : ℕ) : FakeIpTable × ℕ :=
  let t := { t with allocations := wrap64 (t.allocations + ticks) }
  (t, t.allocations)

/-- `excluded`. -/
def isExcluded (t : FakeIpTable) (addr : Octets) : Bool :=
  (fakeIpSlotOf addr).any t.excluded

/-- `pins`. -/
def pins (t : FakeIpTable) (fake : Octets) : ℕ :=
  ((t.ownedSlot fake).map fun slot => (t.slots slot).inflight).getD 0

/-- `live_names`. -/
def liveNames (t : FakeIpTable) : ℕ :=
  (List.finRange fakeipCapacity).countP fun i => (t.slots i).name ≠ []

/-- `quarantined`. -/
def quarantined (t : FakeIpTable) : ℕ :=
  (List.finRange fakeipCapacity).countP fun i => (t.slots i).name = [] ∧ !t.claimable i

/-- `capacity`. -/
def capacity (t : FakeIpTable) : ℕ := fakeipCapacity - t.exclusions

end FakeIpTable

/-! ## Operations and runs -/

/-- The operations of the table. -/
inductive FakeIpOp where
  | alloc (name : Bytes)
  | lookup (fake : Octets)
  | pin (fake : Octets)
  | unpin (fake : Octets)
  | exclude (addr : Octets)
  | noteTouched (fake : Octets)
  | noteProgress (ticks : ℕ)
  deriving DecidableEq

/-- What an operation answers. -/
inductive FakeIpAnswer where
  | address (addr : Option Octets)
  | name (name : Option Bytes)
  | flag (ok : Bool)
  | clock (now : ℕ)
  | done
  deriving DecidableEq

namespace FakeIpTable

/-- One operation and its answer. -/
def step (t : FakeIpTable) : FakeIpOp → FakeIpTable × FakeIpAnswer
  | .alloc name => ((t.alloc name).1, .address (t.alloc name).2)
  | .lookup fake => (t, .name (t.lookup fake))
  | .pin fake => ((t.pin fake).1, .flag (t.pin fake).2)
  | .unpin fake => ((t.unpin fake).1, .flag (t.unpin fake).2)
  | .exclude addr => (t.exclude addr, .done)
  | .noteTouched fake => ((t.noteTouched fake).1, .flag (t.noteTouched fake).2)
  | .noteProgress ticks => ((t.noteProgress ticks).1, .clock (t.noteProgress ticks).2)

/-- The ticks an operation gives to the allocation clock: one for an attempt to place a new name,
and the ticks of a `note_progress`. -/
def ticks (t : FakeIpTable) : FakeIpOp → ℕ
  | .alloc name => if name = [] ∨ (t.findName name).isSome then 0 else 1
  | .noteProgress n => n
  | _ => 0

/-- The ticks of a run. -/
def totalTicks (t : FakeIpTable) : List FakeIpOp → ℕ
  | [] => 0
  | op :: ops => t.ticks op + totalTicks (t.step op).1 ops

end FakeIpTable

/-! ## What the parts of the table do -/

/-- The address of a slot leads back to the slot. -/
@[simp] lemma fakeIpSlotOf_fakeIpAt (i : Fin fakeipCapacity) :
    fakeIpSlotOf (fakeIpAt i) = some i := by
  have hi : (i : ℕ) < 254 := i.isLt
  have hrange : inFakeRange (fakeIpAt i) = true := by simp [inFakeRange, fakeIpAt]
  have hhost : (fakeIpAt i).d.toNat = i + 1 :=
    UInt8.toNat_ofNat_of_lt (by simp only [UInt8.size, fakeipFirstHost]; omega)
  have hservice : ¬((fakeIpAt i).d.toNat < fakeipFirstHost ∨
      fakeipFirstHost + fakeipCapacity ≤ (fakeIpAt i).d.toNat) := by
    simp only [hhost, fakeipFirstHost]
    omega
  simp only [fakeIpSlotOf, hrange, Bool.not_true, Bool.false_eq_true, if_false]
  rw [dif_neg hservice]
  simp [hhost, fakeipFirstHost]

/-- The slot of an address is the one that has it. -/
lemma fakeIpSlotOf_eq_some {v4 : Octets} {i : Fin fakeipCapacity} :
    fakeIpSlotOf v4 = some i ↔ fakeIpAt i = v4 := by
  constructor
  · intro h
    unfold fakeIpSlotOf at h
    dsimp only at h
    split_ifs at h with hrange hhost
    obtain ⟨a, b, c, d⟩ := v4
    simp only [inFakeRange, fakeipRange, Bool.not_eq_true', Bool.not_eq_false, Bool.and_eq_true,
      beq_iff_eq] at hrange
    obtain ⟨⟨rfl, rfl⟩, rfl⟩ := hrange
    simp only [fakeipFirstHost, not_or, Nat.not_lt] at hhost
    have hi : (i : ℕ) = d.toNat - 1 := congrArg Fin.val (Option.some.inj h).symm
    have hd : UInt8.ofNat ((i : ℕ) + fakeipFirstHost) = d := by
      rw [hi, fakeipFirstHost, Nat.sub_add_cancel hhost.1, UInt8.ofNat_toNat]
    simp only [fakeIpAt, fakeipRange, hd]
  · rintro rfl
    exact fakeIpSlotOf_fakeIpAt i

/-- Different slots have different addresses. -/
lemma fakeIpAt_injective : Function.Injective fakeIpAt := by
  intro i j h
  have hslot : fakeIpSlotOf (fakeIpAt i) = fakeIpSlotOf (fakeIpAt j) := congrArg fakeIpSlotOf h
  simpa using hslot

namespace FakeIpTable

variable {t : FakeIpTable} {i j : Fin fakeipCapacity} {name : Bytes} {fake : Octets}

@[simp] lemma slots_setSlot_self (row : FakeIpSlot) : (t.setSlot i row).slots i = row :=
  Function.update_self ..

lemma slots_setSlot_of_ne (row : FakeIpSlot) (h : j ≠ i) :
    (t.setSlot i row).slots j = t.slots j :=
  Function.update_of_ne h ..

/-- A slot that is owned has the address asked for and a name. -/
lemma ownedSlot_eq_some :
    t.ownedSlot fake = some i ↔ fakeIpSlotOf fake = some i ∧ (t.slots i).name ≠ [] := by
  simp [ownedSlot, Option.filter_eq_some_iff]

lemma name_of_findName (h : t.findName name = some i) : (t.slots i).name = name := by
  simpa using List.find?_some h

/-- A free slot has no name and may be issued. -/
lemma of_findFree (h : t.findFree = some i) :
    (t.slots i).name = [] ∧ t.claimable i = true := by
  simpa using List.find?_some h

/-- The victim has a name and nothing in flight. -/
lemma of_findLru (h : t.findLru = some i) :
    (t.slots i).name ≠ [] ∧ (t.slots i).inflight = 0 := by
  have hmem := List.argmin_mem h
  simpa using (List.mem_filter.mp hmem).2

/-- The table as an attempt to place a new name finds it: both clocks have ticked. -/
def attempted (t : FakeIpTable) : FakeIpTable :=
  { t with touch := wrap64 (t.touch + 1), allocations := wrap64 (t.allocations + 1) }

/-- Asking for a name that is held keeps it warm. -/
lemma alloc_of_findName (hname : name ≠ []) (h : t.findName name = some i) :
    t.alloc name =
      ({ t with touch := wrap64 (t.touch + 1) }.setSlot i
        { t.slots i with lastUse := wrap64 (t.touch + 1) }, some (fakeIpAt i)) := by
  have h' : { t with touch := wrap64 (t.touch + 1) }.findName name = some i := h
  simp only [alloc, if_neg hname, h']

/-- Asking for a new name claims a free slot, before or after an eviction, or is refused. -/
lemma alloc_of_new (hname : name ≠ []) (h : t.findName name = none) :
    (∃ i, t.attempted.findFree = some i ∧
        t.alloc name = (t.attempted.claim i name, some (fakeIpAt i))) ∨
      (∃ i, t.attempted.findFree = none ∧ t.attempted.evict.findFree = some i ∧
        t.alloc name = (t.attempted.evict.claim i name, some (fakeIpAt i))) ∨
      t.attempted.findFree = none ∧ t.attempted.evict.findFree = none ∧
        t.alloc name = (t.attempted.evict, none) := by
  have h' : { t with touch := wrap64 (t.touch + 1) }.findName name = none := h
  simp only [alloc, if_neg hname, h']
  cases hfree : t.attempted.findFree with
  | some free =>
    refine Or.inl ⟨free, rfl, ?_⟩
    unfold attempted at hfree
    simp only [hfree, attempted]
  | none =>
    cases haged : t.attempted.evict.findFree with
    | some aged =>
      refine Or.inr (Or.inl ⟨aged, rfl, rfl, ?_⟩)
      unfold attempted at hfree haged
      simp only [hfree, haged, attempted]
    | none =>
      refine Or.inr (Or.inr ⟨rfl, rfl, ?_⟩)
      unfold attempted at hfree haged
      simp only [hfree, haged, attempted]

/-- An exclusion leaves the quarantine and the clocks alone. -/
lemma exclude_fields (t : FakeIpTable) (addr : Octets) :
    (t.exclude addr).quarantine = t.quarantine ∧ (t.exclude addr).allocations = t.allocations := by
  unfold exclude
  split
  · exact ⟨rfl, rfl⟩
  · split
    · exact ⟨rfl, rfl⟩
    · dsimp only
      split <;> exact ⟨rfl, rfl⟩

/-- Nothing is excluded by an address that the table cannot issue. -/
lemma create_of_fakeIpSlotOf_eq_none {excluded : Octets} (h : fakeIpSlotOf excluded = none)
    (quarantine : ℕ) : create excluded quarantine = { quarantine } := by
  simp only [create, exclude, h]

/-- No operation changes the length of the quarantine. -/
lemma quarantine_step (t : FakeIpTable) (op : FakeIpOp) :
    (t.step op).1.quarantine = t.quarantine := by
  have hevict : t.attempted.evict.quarantine = t.quarantine := by
    unfold evict
    split <;> rfl
  cases op with
  | alloc name =>
    change (t.alloc name).1.quarantine = t.quarantine
    by_cases hname : name = []
    · simp [alloc, hname]
    cases h : t.findName name with
    | some seen =>
      rw [alloc_of_findName hname h]
      rfl
    | none =>
      rcases alloc_of_new hname h with ⟨i, -, h⟩ | ⟨i, -, -, h⟩ | ⟨-, -, h⟩
      · rw [h]
        rfl
      · rw [h]
        exact hevict
      · rw [h]
        exact hevict
  | lookup fake => rfl
  | pin fake =>
    change (t.pin fake).1.quarantine = t.quarantine
    unfold pin
    split <;> rfl
  | unpin fake =>
    change (t.unpin fake).1.quarantine = t.quarantine
    unfold unpin
    split
    · rfl
    · split <;> rfl
  | exclude addr => exact (t.exclude_fields addr).1
  | noteTouched fake =>
    change (t.noteTouched fake).1.quarantine = t.quarantine
    unfold noteTouched
    split <;> rfl
  | noteProgress ticks => rfl

/-- No run changes the length of the quarantine. -/
lemma quarantine_run (t : FakeIpTable) (ops : List FakeIpOp) :
    (Mealy.run step t ops).quarantine = t.quarantine := by
  have hstep (t' : FakeIpTable) (op : FakeIpOp) (h : t'.quarantine = t.quarantine) :
      (t'.step op).1.quarantine = t.quarantine := by
    rw [quarantine_step, h]
  exact Mealy.run_invariant hstep rfl ops

/-- The ticks of a run in two parts are the ticks of the parts. -/
lemma totalTicks_append (t : FakeIpTable) (ops₁ ops₂ : List FakeIpOp) :
    t.totalTicks (ops₁ ++ ops₂) =
      t.totalTicks ops₁ + (Mealy.run step t ops₁).totalTicks ops₂ := by
  induction ops₁ generalizing t with
  | nil => simp [totalTicks]
  | cons op ops₁ ih => simp [totalTicks, ih, Nat.add_assoc]

/-- Excluding slots that have no name and no mark yet only sets their marks. -/
lemma run_exclude {is : List (Fin fakeipCapacity)} (hnodup : is.Nodup) (t : FakeIpTable)
    (hfree : ∀ i, (t.slots i).name = []) (hmark : ∀ i ∈ is, t.excluded i = false) :
    Mealy.run step t (is.map fun i => .exclude (fakeIpAt i)) =
      { t with
        excluded := fun i => t.excluded i || decide (i ∈ is)
        exclusions := t.exclusions + is.length } := by
  induction is generalizing t with
  | nil => simp
  | cons i is ih =>
    obtain ⟨hi, hnodup⟩ := List.nodup_cons.mp hnodup
    have hstep : (t.step (.exclude (fakeIpAt i))).1 = { t with
        excluded := Function.update t.excluded i true, exclusions := t.exclusions + 1 } := by
      simp [step, exclude, hfree i, hmark i]
    have hmark' : ∀ j ∈ is, Function.update t.excluded i true j = false := by
      intro j hj
      have hne : j ≠ i := fun h => hi (h ▸ hj)
      rw [Function.update_of_ne hne]
      exact hmark j (List.mem_cons_of_mem i hj)
    have hrest := ih hnodup { t with
      excluded := Function.update t.excluded i true, exclusions := t.exclusions + 1 } hfree hmark'
    rw [List.map_cons, Mealy.run_cons, hstep, hrest]
    congr 1
    · funext j
      by_cases hj : j = i
      · simp [hj]
      · simp [hj]
    · simp only [List.length_cons]
      omega

/-- The exclusions that leave the first `k` slots in circulation. -/
def excludeFrom (k : ℕ) : List FakeIpOp :=
  ((List.finRange fakeipCapacity).filter fun i => k ≤ i.val).map fun i => .exclude (fakeIpAt i)

/-- A new table of which the first `k` slots are left in circulation. -/
lemma run_excludeFrom (k quarantine : ℕ) :
    Mealy.run step (create ⟨0, 0, 0, 0⟩ quarantine) (excludeFrom k) =
      { quarantine, excluded := fun i => decide (k ≤ i.val),
        exclusions := ((List.finRange fakeipCapacity).filter fun i => k ≤ i.val).length } := by
  have hnodup := (List.nodup_finRange fakeipCapacity).filter fun i => decide (k ≤ i.val)
  rw [create_of_fakeIpSlotOf_eq_none (by decide) quarantine, excludeFrom,
    run_exclude hnodup { quarantine } (fun _ => rfl) fun _ _ => rfl]
  simp

/-- Exclusions give the clock no ticks. -/
lemma totalTicks_excludeFrom (k : ℕ) (t : FakeIpTable) : t.totalTicks (excludeFrom k) = 0 := by
  unfold excludeFrom
  induction (List.finRange fakeipCapacity).filter fun i => k ≤ i.val generalizing t with
  | nil => rfl
  | cons i is ih => simp [totalTicks, ticks, ih]

/-- A lookup answers with the name of the slot at the address. -/
lemma lookup_eq_some :
    t.lookup fake = some name ↔
      ∃ i, fakeIpAt i = fake ∧ (t.slots i).name = name ∧ name ≠ [] := by
  simp only [lookup, Option.map_eq_some_iff, ownedSlot_eq_some, fakeIpSlotOf_eq_some]
  constructor
  · rintro ⟨i, ⟨hi, hne⟩, rfl⟩
    exact ⟨i, hi, rfl, hne⟩
  · rintro ⟨i, hi, rfl, hne⟩
    exact ⟨i, ⟨hi, hne⟩, rfl⟩

/-! ## Where names come from and go to -/

/-- A slot keeps its name in a step, or loses it. -/
def NameKept (t t' : FakeIpTable) (i : Fin fakeipCapacity) : Prop :=
  (t'.slots i).name = [] ∨ (t'.slots i).name = (t.slots i).name

@[simp] lemma NameKept.refl (t : FakeIpTable) (i : Fin fakeipCapacity) : NameKept t t i :=
  Or.inr rfl

/-- Rewriting a slot without touching its name keeps all names. -/
lemma nameKept_setSlot {row : FakeIpSlot} (hrow : row.name = [] ∨ row.name = (t.slots j).name)
    (i : Fin fakeipCapacity) : NameKept t (t.setSlot j row) i := by
  by_cases hij : i = j
  · subst hij
    simpa [NameKept] using hrow
  · exact Or.inr (by rw [slots_setSlot_of_ne row hij])

/-- An eviction takes a name away, or nothing. -/
lemma nameKept_evict (t : FakeIpTable) (i : Fin fakeipCapacity) : NameKept t t.evict i := by
  unfold evict
  split
  · exact nameKept_setSlot (Or.inl rfl) i
  · exact NameKept.refl t i

/-- A successful `alloc` answers with the address of the one slot that holds the name then. -/
lemma alloc_eq_some (h : (t.alloc name).2 = some fake) :
    ∃ i, fake = fakeIpAt i ∧ name ≠ [] ∧ ((t.alloc name).1.slots i).name = name ∧
      ∀ j, j ≠ i → NameKept t (t.alloc name).1 j := by
  have hname : name ≠ [] := by
    rintro rfl
    simp [alloc] at h
  cases hfind : t.findName name with
  | some seen =>
    rw [alloc_of_findName hname hfind] at h ⊢
    refine ⟨seen, (Option.some.inj h).symm, hname, ?_, fun j hj => ?_⟩
    · rw [slots_setSlot_self]
      exact name_of_findName hfind
    · exact Or.inr (by rw [slots_setSlot_of_ne _ hj])
  | none =>
    rcases alloc_of_new hname hfind with ⟨i, -, halloc⟩ | ⟨i, -, -, halloc⟩ | ⟨-, -, halloc⟩
    · rw [halloc] at h ⊢
      refine ⟨i, (Option.some.inj h).symm, hname, ?_, fun j hj => ?_⟩
      · simp [claim]
      · exact Or.inr (by rw [claim, slots_setSlot_of_ne _ hj]; rfl)
    · rw [halloc] at h ⊢
      refine ⟨i, (Option.some.inj h).symm, hname, ?_, fun j hj => ?_⟩
      · simp [claim]
      · have hkept := nameKept_evict t.attempted j
        unfold NameKept at hkept ⊢
        rw [claim, slots_setSlot_of_ne _ hj]
        exact hkept
    · rw [halloc] at h
      cases h

/-- A refused `alloc` gives no slot a name. -/
lemma alloc_eq_none (h : (t.alloc name).2 = none) (i : Fin fakeipCapacity) :
    NameKept t (t.alloc name).1 i := by
  by_cases hname : name = []
  · simp [alloc, hname]
  cases hfind : t.findName name with
  | some seen =>
    rw [alloc_of_findName hname hfind] at h
    cases h
  | none =>
    rcases alloc_of_new hname hfind with ⟨i, -, halloc⟩ | ⟨i, -, -, halloc⟩ | ⟨-, -, halloc⟩
    · rw [halloc] at h
      cases h
    · rw [halloc] at h
      cases h
    · rw [halloc]
      exact nameKept_evict t.attempted i

/-- Only `alloc` gives a slot a name. -/
lemma nameKept_step (t : FakeIpTable) {op : FakeIpOp} (hop : ∀ name, op ≠ .alloc name)
    (i : Fin fakeipCapacity) : NameKept t (t.step op).1 i := by
  cases op with
  | alloc name => exact absurd rfl (hop name)
  | lookup fake => exact NameKept.refl t i
  | pin fake =>
    change NameKept t (t.pin fake).1 i
    unfold pin
    split
    · exact NameKept.refl t i
    · exact nameKept_setSlot (Or.inr (by rfl)) i
  | unpin fake =>
    change NameKept t (t.unpin fake).1 i
    unfold unpin
    split
    · exact NameKept.refl t i
    · split
      · exact NameKept.refl t i
      · exact nameKept_setSlot (Or.inr (by rfl)) i
  | exclude addr =>
    change NameKept t (t.exclude addr) i
    unfold exclude
    split
    · exact NameKept.refl t i
    · split
      · exact NameKept.refl t i
      · dsimp only
        split
        · exact @nameKept_setSlot { t with excluded := _, exclusions := _ } _ _ (Or.inl rfl) i
        · exact Or.inr rfl
  | noteTouched fake =>
    change NameKept t (t.noteTouched fake).1 i
    unfold noteTouched
    split
    · exact NameKept.refl t i
    · exact @nameKept_setSlot { t with touch := wrap64 (t.touch + 1) } _ _ (Or.inr (by rfl)) i
  | noteProgress ticks => exact Or.inr rfl

end FakeIpTable

end Encapsule
