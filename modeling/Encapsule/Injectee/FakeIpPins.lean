import Mathlib.Algebra.Order.Ring.Int
import Mathlib.Algebra.BigOperators.Group.List.Basic
import Encapsule.Injectee.FakeIpStep

/-!
# What a pin protects

The pins of an address of the fake-IP table against the history of its row.  `FakeIpTable.netPins`
counts the successful pins of an address less the successful unpins since a name claimed its row.
While the counter of the row does not wrap it is that number, and as long as it is positive no
operation takes the name away, except the exclusion of the address (`pin_protects`).
-/

namespace Encapsule

namespace FakeIpTable

variable {t : FakeIpTable} {i k : Fin fakeipCapacity} {name : Bytes} {fake : Octets}
  {op : FakeIpOp} {answer : FakeIpAnswer}

/-! ## Pins in the history -/

/-- What an answered operation does to the pins of an address. -/
def pinChange (fake : Octets) : FakeIpOp × FakeIpAnswer → ℤ
  | (.pin addr, .flag true) => if addr = fake then 1 else 0
  | (.unpin addr, .flag true) => if addr = fake then -1 else 0
  | _ => 0

/-- The operation places a name at the address that the address did not have. -/
def claims (t : FakeIpTable) (fake : Octets) : FakeIpOp × FakeIpAnswer → Bool
  | (.alloc name, .address addr) => decide (addr = some fake ∧ t.lookup fake ≠ some name)
  | _ => false

/-- The successful pins of an address less the successful unpins since its row was claimed last, `n`
before the operations. -/
def netPins (fake : Octets) (t : FakeIpTable) (n : ℤ) : List FakeIpOp → ℤ
  | [] => n
  | op :: ops =>
    netPins fake (t.step op).1
      (if t.claims fake (op, (t.step op).2) then 0 else n + pinChange fake (op, (t.step op).2)) ops

/-- The operation does not wrap the counter of a row. -/
def PinFits (t : FakeIpTable) : FakeIpOp → Prop
  | .pin fake => t.pins fake + 1 < 2 ^ 64
  | _ => True

instance (t : FakeIpTable) (op : FakeIpOp) : Decidable (t.PinFits op) := by
  cases op <;> unfold PinFits <;> infer_instance

/-! ## What an operation does to one row -/

lemma lookup_of_fakeIpSlotOf_eq_none (h : fakeIpSlotOf fake = none) : t.lookup fake = none := by
  simp [lookup, ownedSlot, h]

/-- The name at the address of a slot. -/
lemma lookup_fakeIpAt :
    t.lookup (fakeIpAt k) = if (t.slots k).name = [] then none else some (t.slots k).name := by
  by_cases hname : (t.slots k).name = [] <;> simp [lookup, ownedSlot, hname]

/-- The pins at the address of a slot. -/
lemma pins_fakeIpAt :
    t.pins (fakeIpAt k) = if (t.slots k).name = [] then 0 else (t.slots k).inflight := by
  by_cases hname : (t.slots k).name = [] <;>
    simp [pins, ownedSlot, Option.filter, hname]

/-- What becomes of the row of the slot `k` in an operation with its answer. -/
inductive RowStep (t : FakeIpTable) (k : Fin fakeipCapacity) :
    FakeIpOp × FakeIpAnswer → FakeIpSlot → Prop where
  | kept {e : FakeIpOp × FakeIpAnswer} {row : FakeIpSlot} (hname : row.name = (t.slots k).name)
    (hpins : row.inflight = (t.slots k).inflight) (hclaims : t.claims (fakeIpAt k) e = false)
    (hchange : pinChange (fakeIpAt k) e = 0) : RowStep t k e row
  | claimed {e : FakeIpOp × FakeIpAnswer} {row : FakeIpSlot}
    (hfree : (t.slots k).name = [] ∨ (t.slots k).inflight = 0) (hpins : row.inflight = 0)
    (hclaims : t.claims (fakeIpAt k) e = true) : RowStep t k e row
  | evicted {e : FakeIpOp × FakeIpAnswer} {row : FakeIpSlot} (hunpinned : (t.slots k).inflight = 0)
    (hname : row.name = []) : RowStep t k e row
  | withdrawn {row : FakeIpSlot} (hname : row.name = []) :
    RowStep t k (.exclude (fakeIpAt k), .done) row
  | pinned {row : FakeIpSlot} (hname : row.name = (t.slots k).name)
    (hheld : (t.slots k).name ≠ []) (hpins : row.inflight = wrap64 ((t.slots k).inflight + 1)) :
    RowStep t k (.pin (fakeIpAt k), .flag true) row
  | unpinned {row : FakeIpSlot} (hname : row.name = (t.slots k).name)
    (hpos : (t.slots k).inflight ≠ 0) (hpins : row.inflight = (t.slots k).inflight - 1) :
    RowStep t k (.unpin (fakeIpAt k), .flag true) row

/-- A row that was rewritten, and the others. -/
lemma rowStep_setSlot {t' : FakeIpTable} {e : FakeIpOp × FakeIpAnswer} {row : FakeIpSlot}
    (hslots : t'.slots = t.slots) (hself : k = i → RowStep t k e row)
    (hother : fakeIpAt i ≠ fakeIpAt k →
      t.claims (fakeIpAt k) e = false ∧ pinChange (fakeIpAt k) e = 0) :
    RowStep t k e ((t'.setSlot i row).slots k) := by
  by_cases hki : k = i
  · subst hki
    rw [slots_setSlot_self]
    exact hself rfl
  · obtain ⟨hclaims, hchange⟩ := hother fun heq => hki (fakeIpAt_injective heq).symm
    rw [slots_setSlot_of_ne _ hki, hslots]
    exact .kept rfl rfl hclaims hchange

/-- A slot that was claimed for a new name, and the others. -/
lemma rowStep_claim (hnew : t.findName name = none)
    (hfree : (t.slots i).name = [] ∨ (t.slots i).inflight = 0) (k : Fin fakeipCapacity) :
    RowStep t k (.alloc name, .address (some (fakeIpAt i)))
      ((t.attempted.claim i name).slots k) := by
  apply rowStep_setSlot rfl
  · rintro rfl
    have hother : t.lookup (fakeIpAt k) ≠ some name := by
      rw [lookup_fakeIpAt]
      split_ifs
      · exact fun hsome => by cases hsome
      · exact fun hsome => findName_eq_none.mp hnew k (Option.some.inj hsome)
    exact .claimed hfree rfl (decide_eq_true ⟨rfl, hother⟩)
  · intro hne
    exact ⟨by simp [claims, hne], rfl⟩

/-- A slot that was warmed, and the others. -/
lemma rowStep_warmed {e : FakeIpOp × FakeIpAnswer} (hclaims : t.claims (fakeIpAt k) e = false)
    (hchange : pinChange (fakeIpAt k) e = 0) : RowStep t k e ((t.warmed i).slots k) := by
  apply rowStep_setSlot rfl
  · rintro rfl
    exact .kept rfl rfl hclaims hchange
  · intro hne
    exact ⟨hclaims, hchange⟩

/-- Every operation takes a row through one of these steps. -/
lemma rowStep_step (t : FakeIpTable) (op : FakeIpOp) (k : Fin fakeipCapacity) :
    RowStep t k (op, (t.step op).2) ((t.step op).1.slots k) := by
  have hchange := t.change_step op
  generalize (t.step op).2 = answer at hchange ⊢
  generalize (t.step op).1 = t' at hchange ⊢
  cases hchange with
  | noName => exact .kept rfl rfl rfl rfl
  | repeated hname hheld =>
    refine rowStep_warmed ?_ rfl
    by_contra hclaims
    rw [Bool.not_eq_false] at hclaims
    obtain ⟨haddr, hother⟩ := of_decide_eq_true hclaims
    obtain rfl := fakeIpAt_injective (Option.some.inj haddr)
    have hfound := name_of_findName hheld
    rw [lookup_fakeIpAt, hfound, if_neg hname] at hother
    exact hother rfl
  | placed hname hnew hfree =>
    exact rowStep_claim hnew (Or.inl (of_findFree hfree).1) k
  | replaced hname hnew hfull hlru hready =>
    exact rowStep_claim hnew (Or.inr (of_findLru hlru).2) k
  | @evicted name v hname hnew hfull hlru hparked =>
    apply rowStep_setSlot rfl
    · rintro rfl
      exact .evicted (of_findLru hlru).2 rfl
    · intro hne
      exact ⟨rfl, rfl⟩
  | crowded hname hnew hfull hlru => exact .kept rfl rfl rfl rfl
  | lookup fake => exact .kept rfl rfl rfl rfl
  | @pinned fake i hheld =>
    obtain ⟨haddr, hname⟩ := ownedSlot_eq_some.mp hheld
    obtain rfl := fakeIpSlotOf_eq_some.mp haddr
    apply rowStep_setSlot rfl
    · rintro rfl
      exact .pinned rfl hname rfl
    · intro hne
      exact ⟨rfl, if_neg hne⟩
  | notPinned hnone => exact .kept rfl rfl rfl rfl
  | @unpinned fake i hheld hpos =>
    obtain ⟨haddr, hname⟩ := ownedSlot_eq_some.mp hheld
    obtain rfl := fakeIpSlotOf_eq_some.mp haddr
    apply rowStep_setSlot rfl
    · rintro rfl
      exact .unpinned rfl hpos rfl
    · intro hne
      exact ⟨rfl, if_neg hne⟩
  | notUnpinned hnone => exact .kept rfl rfl rfl rfl
  | touched hheld => exact rowStep_warmed rfl rfl
  | notTouched hnone => exact .kept rfl rfl rfl rfl
  | notExcluded hmark => exact .kept rfl rfl rfl rfl
  | excluded haddr hmark hfree => exact .kept rfl rfl rfl rfl
  | @withdrawn addr i haddr hmark hheld =>
    obtain rfl := fakeIpSlotOf_eq_some.mp haddr
    apply rowStep_setSlot rfl
    · rintro rfl
      exact .withdrawn rfl
    · intro hne
      exact ⟨rfl, rfl⟩
  | progressed n => exact .kept rfl rfl rfl rfl

/-! ## Pins and the history -/

/-- The counter of a row that holds a name follows the history of its pins. -/
lemma pins_step {n : ℤ} (hfits : t.PinFits op)
    (hpins : t.lookup fake ≠ none → (t.pins fake : ℤ) = n)
    (hheld : (t.step op).1.lookup fake ≠ none) :
    ((t.step op).1.pins fake : ℤ) =
      if t.claims fake (op, (t.step op).2) then 0 else n + pinChange fake (op, (t.step op).2) := by
  cases haddr : fakeIpSlotOf fake with
  | none => exact absurd (lookup_of_fakeIpSlotOf_eq_none haddr) hheld
  | some k =>
    obtain rfl := fakeIpSlotOf_eq_some.mp haddr
    have hrow := t.rowStep_step op k
    rw [lookup_fakeIpAt] at hpins hheld
    rw [pins_fakeIpAt] at hpins ⊢
    generalize (t.step op).2 = answer at hrow ⊢
    generalize (t.step op).1.slots k = row at hrow hheld ⊢
    have hname' : row.name ≠ [] := fun hnone => hheld (if_pos hnone)
    rw [if_neg hname']
    cases hrow with
    | kept hname hcount hclaims hchange =>
      rw [hname] at hname'
      rw [if_neg hname', if_neg hname'] at hpins
      rw [hclaims, hchange, hcount, hpins (fun hnone => by cases hnone)]
      simp
    | claimed hfree hcount hclaims =>
      rw [hclaims, hcount]
      rfl
    | evicted hunpinned hname => exact absurd hname hname'
    | withdrawn hname => exact absurd hname hname'
    | pinned hname hold hcount =>
      rw [if_neg hold, if_neg hold] at hpins
      have hfits : t.pins (fakeIpAt k) + 1 < 2 ^ 64 := hfits
      rw [pins_fakeIpAt, if_neg hold] at hfits
      have hwrap : wrap64 ((t.slots k).inflight + 1) = (t.slots k).inflight + 1 :=
        Nat.mod_eq_of_lt hfits
      rw [hcount, hwrap, ← hpins fun hnone => by cases hnone]
      simp [claims, pinChange]
    | unpinned hname hpos hcount =>
      rw [hname] at hname'
      rw [if_neg hname', if_neg hname'] at hpins
      rw [hcount, ← hpins fun hnone => by cases hnone]
      simp only [claims, pinChange, if_true, Bool.false_eq_true, if_false]
      omega

/-- In a run in which no counter wraps, the counter of a row that holds a name is the number of pins
that the history leaves. -/
lemma pins_run {n : ℤ} (hpins : t.lookup fake ≠ none → (t.pins fake : ℤ) = n)
    {ops : List FakeIpOp} (hfits : Mealy.Along step PinFits t ops)
    (hheld : (Mealy.run step t ops).lookup fake ≠ none) :
    ((Mealy.run step t ops).pins fake : ℤ) = netPins fake t n ops := by
  induction ops generalizing t n with
  | nil => exact hpins hheld
  | cons op ops ih => exact ih (fun hheld => pins_step hfits.1 hpins hheld) hfits.2 hheld

/-- A pinned name stays at its address in every operation but the exclusion of the address. -/
lemma lookup_step_of_pins_pos (hheld : t.lookup fake = some name) (hpins : 0 < t.pins fake)
    (hop : op ≠ .exclude fake) :
    (t.step op).1.lookup fake = some name ∧ t.claims fake (op, (t.step op).2) = false := by
  cases haddr : fakeIpSlotOf fake with
  | none =>
    rw [lookup_of_fakeIpSlotOf_eq_none haddr] at hheld
    cases hheld
  | some k =>
    obtain rfl := fakeIpSlotOf_eq_some.mp haddr
    have hrow := t.rowStep_step op k
    rw [lookup_fakeIpAt] at hheld ⊢
    rw [pins_fakeIpAt] at hpins
    have hold : (t.slots k).name ≠ [] := by
      intro hnone
      rw [if_pos hnone] at hheld
      cases hheld
    rw [if_neg hold] at hheld hpins
    generalize (t.step op).2 = answer at hrow ⊢
    generalize (t.step op).1.slots k = row at hrow ⊢
    cases hrow with
    | kept hname hcount hclaims hchange => exact ⟨by rw [hname, if_neg hold, hheld], hclaims⟩
    | claimed hfree hcount hclaims =>
      rcases hfree with hnone | hzero
      · exact absurd hnone hold
      · omega
    | evicted hunpinned hname => omega
    | withdrawn hname => exact absurd rfl hop
    | pinned hname hold' hcount => exact ⟨by rw [hname, if_neg hold, hheld], rfl⟩
    | unpinned hname hpos hcount => exact ⟨by rw [hname, if_neg hold, hheld], rfl⟩

/-- What the answers of a run do to the pins of an address. -/
def pinChanges (fake : Octets) (t : FakeIpTable) (ops : List FakeIpOp) : ℤ :=
  ((Mealy.log step t ops).map (pinChange fake)).sum

/-- A name stays at its address as long as there are more pins than unpins. -/
lemma lookup_run_of_pins_pos (hheld : t.lookup fake = some name) {ops : List FakeIpOp}
    (hfits : Mealy.Along step PinFits t ops) (hops : .exclude fake ∉ ops)
    (hpos : ∀ pre op post, ops = pre ++ op :: post → 0 < t.pins fake + pinChanges fake t pre) :
    (Mealy.run step t ops).lookup fake = some name := by
  induction ops generalizing t with
  | nil => exact hheld
  | cons op ops ih =>
    have hpins : 0 < t.pins fake := by
      have hnow := hpos [] op ops rfl
      simp only [pinChanges, Mealy.log_nil, List.map_nil, List.sum_nil, add_zero] at hnow
      exact_mod_cast hnow
    have hop : op ≠ .exclude fake := fun heq => hops (heq ▸ List.mem_cons_self)
    obtain ⟨hheld', hclaims⟩ := lookup_step_of_pins_pos hheld hpins hop
    have hnow : t.lookup fake ≠ none → (t.pins fake : ℤ) = t.pins fake := fun _ => rfl
    have hnet := pins_step hfits.1 hnow (by rw [hheld']; exact fun hnone => by cases hnone)
    rw [hclaims, if_neg Bool.false_ne_true] at hnet
    refine ih hheld' hfits.2 (fun hmem => hops (List.mem_cons_of_mem op hmem)) ?_
    rintro pre op' post rfl
    have hlater := hpos (op :: pre) op' post rfl
    rw [hnet]
    simp only [pinChanges, Mealy.log_cons, List.map_cons, List.sum_cons] at hlater ⊢
    omega

/-! ## Exclusion -/

/-- The constructor makes a table without names. -/
lemma lookup_create (excluded : Octets) (quarantine : ℕ) (fake : Octets) :
    (create excluded quarantine).lookup fake = none := by
  cases haddr : fakeIpSlotOf fake with
  | none => exact lookup_of_fakeIpSlotOf_eq_none haddr
  | some k =>
    obtain rfl := fakeIpSlotOf_eq_some.mp haddr
    have hchange := change_step { quarantine } (.exclude excluded)
    change Change _ _ _ (create excluded quarantine) at hchange
    generalize (step { quarantine } (.exclude excluded)).2 = answer at hchange
    generalize create excluded quarantine = t at hchange ⊢
    rw [lookup_fakeIpAt]
    cases hchange with
    | notExcluded hmark => rfl
    | excluded haddr hmark hfree => rfl
    | withdrawn haddr hmark hheld => exact absurd rfl hheld

/-- An exclusion takes the slot of its address out of circulation. -/
lemma excluded_exclude (haddr : fakeIpSlotOf fake = some k) :
    (t.step (.exclude fake)).1.excluded k = true := by
  have hchange := t.change_step (.exclude fake)
  generalize (t.step (.exclude fake)).2 = answer at hchange
  generalize (t.step (.exclude fake)).1 = t' at hchange ⊢
  cases hchange with
  | notExcluded hmark => exact hmark k haddr
  | excluded haddr' hmark hfree =>
    obtain rfl := Option.some.inj (haddr.symm.trans haddr')
    exact Function.update_self ..
  | withdrawn haddr' hmark hheld =>
    obtain rfl := Option.some.inj (haddr.symm.trans haddr')
    exact Function.update_self ..

/-- After an exclusion the address never has a name again. -/
lemma lookup_run_of_exclude_mem (h : t.Nameless) {ops : List FakeIpOp}
    (hmem : .exclude fake ∈ ops) : (Mealy.run step t ops).lookup fake = none := by
  cases haddr : fakeIpSlotOf fake with
  | none => exact lookup_of_fakeIpSlotOf_eq_none haddr
  | some k =>
    obtain ⟨pre, post, rfl⟩ := List.append_of_mem hmem
    have hpre : (Mealy.run step t pre).Nameless :=
      Mealy.run_invariant (P := Nameless) (fun _ op h => h.step op) h pre
    rw [Mealy.run_append, Mealy.run_cons]
    generalize Mealy.run step t pre = s at hpre ⊢
    have hmark : (s.step (.exclude fake)).1.excluded k = true := excluded_exclude haddr
    have hpost : (Mealy.run step (s.step (.exclude fake)).1 post).Withdrawn k :=
      Mealy.run_invariant (P := Withdrawn k) (fun _ op h => h.step op)
        ⟨hmark, hpre.step (.exclude fake) k hmark⟩ post
    obtain rfl := fakeIpSlotOf_eq_some.mp haddr
    rw [lookup_fakeIpAt, if_pos hpost.2]

/-- An address without a name cannot be pinned or unpinned. -/
lemma pin_of_lookup_eq_none (h : t.lookup fake = none) :
    (t.pin fake).2 = false ∧ (t.unpin fake).2 = false := by
  have hnone : t.ownedSlot fake = none := Option.map_eq_none_iff.mp h
  simp only [pin, unpin, hnone, and_self]

/-- An address without pins cannot be unpinned. -/
lemma unpin_of_pins_eq_zero (h : t.pins fake = 0) : (t.unpin fake).2 = false := by
  unfold unpin
  cases hheld : t.ownedSlot fake with
  | none => rfl
  | some i =>
    have hzero : (t.slots i).inflight = 0 := by simpa [pins, hheld] using h
    simp only [hzero, if_true]

/-! ## The promise -/

/-- In every run in which no counter of pins wraps: an address with a name has as many pins as the
history leaves it, and without pins it is not unpinned; its name stays, whatever operations follow,
as long as the successful pins exceed the successful unpins and the address is not excluded; and
after its exclusion every pin and unpin fails. -/
theorem pin_protects (excluded : Octets) (quarantine : ℕ) (ops : List FakeIpOp) (fake : Octets)
    (hfits : Mealy.Along step PinFits (create excluded quarantine) ops) :
    let t := Mealy.run step (create excluded quarantine) ops
    let net := netPins fake (create excluded quarantine) 0 ops
    (t.lookup fake ≠ none → (t.pins fake : ℤ) = net) ∧
      (t.lookup fake = none → t.pins fake = 0) ∧
      (t.lookup fake = none ∨ net = 0 → (t.unpin fake).2 = false) ∧
      (∀ later name, t.lookup fake = some name → Mealy.Along step PinFits t later →
        .exclude fake ∉ later →
        (∀ pre op post, later = pre ++ op :: post → 0 < net + pinChanges fake t pre) →
        (Mealy.run step t later).lookup fake = some name) ∧
      (.exclude fake ∈ ops → (t.pin fake).2 = false ∧ (t.unpin fake).2 = false) := by
  intro t net
  have hnet : t.lookup fake ≠ none → (t.pins fake : ℤ) = net :=
    pins_run (fun hheld => absurd (lookup_create excluded quarantine fake) hheld) hfits
  refine ⟨hnet, fun hfree => ?_, ?_, fun later name hheld hfits' hlater hpos => ?_, fun hmem => ?_⟩
  · have hfree : t.ownedSlot fake = none := Option.map_eq_none_iff.mp hfree
    simp only [pins, hfree, Option.map_none, Option.getD_none]
  · rintro (hfree | hzero)
    · exact (pin_of_lookup_eq_none hfree).2
    · by_cases hfree : t.lookup fake = none
      · exact (pin_of_lookup_eq_none hfree).2
      · refine unpin_of_pins_eq_zero ?_
        have hcount := hnet hfree
        omega
  · apply lookup_run_of_pins_pos hheld hfits' hlater
    intro pre op post heq
    rw [hnet (by rw [hheld]; exact fun hnone => by cases hnone)]
    exact hpos pre op post heq
  · exact pin_of_lookup_eq_none
      (lookup_run_of_exclude_mem (nameless_run excluded quarantine []) hmem)

/-- A name that is pinned once has one pin, and survives the next name. -/
theorem pin_protects_a :
    let t := Mealy.run step (create ⟨0, 0, 0, 0⟩ 3) [.alloc [97], .pin (fakeIpAt 0)]
    (t.pins (fakeIpAt 0) : ℤ) = 1 ∧
      (Mealy.run step t [.alloc [98]]).lookup (fakeIpAt 0) = some [97] := by
  intro t
  obtain ⟨hnet, -, -, hlater, -⟩ := pin_protects ⟨0, 0, 0, 0⟩ 3 [.alloc [97], .pin (fakeIpAt 0)]
    (fakeIpAt 0) (by decide)
  have hheld : t.lookup (fakeIpAt 0) = some [97] := by decide
  refine ⟨hnet (by rw [hheld]; exact fun hnone => by cases hnone), ?_⟩
  refine hlater [.alloc [98]] [97] hheld (by decide) (by decide) ?_
  rintro (_ | ⟨op, pre⟩) op' post heq
  · decide
  · simp at heq

/-! ## The width of the counter -/

/-- A pin of an address that holds a name. -/
lemma step_pin_of_ownedSlot (hheld : t.ownedSlot fake = some k) :
    t.step (.pin fake) = (t.setPins k (wrap64 ((t.slots k).inflight + 1)), .flag true) := by
  simp only [step, pin, hheld, setPins]

/-- Counting pins does not take the name. -/
lemma ownedSlot_setPins (hheld : t.ownedSlot fake = some k) (c : ℕ) :
    (t.setPins k c).ownedSlot fake = some k := by
  rw [ownedSlot_eq_some] at hheld ⊢
  exact ⟨hheld.1, by rw [setPins, slots_setSlot_self]; exact hheld.2⟩

/-- Only the last count is kept. -/
lemma setPins_setPins (k : Fin fakeipCapacity) (c c' : ℕ) :
    (t.setPins k c).setPins k c' = t.setPins k c' := by
  simp only [setPins, setSlot, Function.update_self, Function.update_idem]

/-- Many pins of a name. -/
lemma run_replicate_pin (hheld : t.ownedSlot fake = some k) (n : ℕ) :
    ∃ c, Mealy.run step t (List.replicate n (.pin fake)) = t.setPins k c ∧
      c % 2 ^ 64 = ((t.slots k).inflight + n) % 2 ^ 64 ∧ (0 < n → c < 2 ^ 64) := by
  induction n with
  | zero =>
    exact ⟨(t.slots k).inflight, by simp [setPins, setSlot], rfl, fun h => absurd h (by simp)⟩
  | succ n ih =>
    obtain ⟨c, hrun, hcount, -⟩ := ih
    have hpins : ((t.setPins k c).slots k).inflight = c := by rw [setPins, slots_setSlot_self]
    refine ⟨wrap64 (c + 1), ?_, ?_, fun _ => Nat.mod_lt _ (Nat.two_pow_pos 64)⟩
    · rw [List.replicate_succ', Mealy.run_concat, hrun,
        step_pin_of_ownedSlot (ownedSlot_setPins hheld c), hpins]
      exact setPins_setPins k c _
    · unfold wrap64
      omega

/-- The history counts each of them. -/
lemma netPins_replicate_pin (hheld : t.ownedSlot fake = some k) (m : ℤ) (n : ℕ) :
    netPins fake t m (List.replicate n (.pin fake)) = m + n := by
  induction n generalizing t m with
  | zero => simp [netPins]
  | succ n ih =>
    have hpin := step_pin_of_ownedSlot hheld
    have hheld' : (t.step (.pin fake)).1.ownedSlot fake = some k := by
      rw [hpin]
      exact ownedSlot_setPins hheld _
    rw [List.replicate_succ, netPins, ih hheld', hpin]
    simp only [claims, pinChange, if_true, Bool.false_eq_true, if_false, Nat.cast_succ]
    omega

/-- The first name of a table, pinned as often as the counter has values or a multiple of it. -/
lemma pins_of_wrap {n : ℕ} (hpos : 0 < n) (hwrap : n % 2 ^ 64 = 0) {ops : List FakeIpOp}
    (hops : ops = .alloc [97] :: List.replicate n (.pin (fakeIpAt 0))) :
    (Mealy.run step (create ⟨0, 0, 0, 0⟩ 3) ops).lookup (fakeIpAt 0) = some [97] ∧
      (Mealy.run step (create ⟨0, 0, 0, 0⟩ 3) ops).pins (fakeIpAt 0) = 0 ∧
      netPins (fakeIpAt 0) (create ⟨0, 0, 0, 0⟩ 3) 0 ops = n := by
  subst hops
  have hheld : ((create ⟨0, 0, 0, 0⟩ 3).step (.alloc [97])).1.ownedSlot (fakeIpAt 0) =
      some 0 := by decide
  have hzero : (((create ⟨0, 0, 0, 0⟩ 3).step (.alloc [97])).1.slots 0).inflight = 0 := by decide
  have hname : (((create ⟨0, 0, 0, 0⟩ 3).step (.alloc [97])).1.slots 0).name = [97] := by decide
  have hclaims : (create ⟨0, 0, 0, 0⟩ 3).claims (fakeIpAt 0)
      (.alloc [97], ((create ⟨0, 0, 0, 0⟩ 3).step (.alloc [97])).2) = true := by decide
  rw [Mealy.run_cons, netPins, hclaims, if_pos rfl]
  generalize ((create ⟨0, 0, 0, 0⟩ 3).step (.alloc [97])).1 = t at hheld hzero hname ⊢
  obtain ⟨c, hrun, hcount, hlt⟩ := run_replicate_pin hheld n
  have hc : c = 0 := by
    have hsmall : c < 2 ^ 64 := hlt hpos
    rw [hzero, Nat.zero_add, hwrap, Nat.mod_eq_of_lt hsmall] at hcount
    exact hcount
  refine ⟨?_, ?_, ?_⟩
  · rw [hrun, lookup_fakeIpAt, setPins, slots_setSlot_self, hname]
    rfl
  · rw [hrun, pins_fakeIpAt, setPins, slots_setSlot_self, hname, hc]
    rfl
  · rw [netPins_replicate_pin hheld, zero_add]

/-- The pins of an address are not as many as the history leaves: a name that is pinned as often as
the counter has values has none and may be evicted, and a name that is excluded loses its pin. -/
theorem not_pins_eq_netPins :
    (∃ ops : List FakeIpOp,
      ops = .alloc [97] :: List.replicate (2 ^ 64) (.pin (fakeIpAt 0)) ∧
      (Mealy.run step (create ⟨0, 0, 0, 0⟩ 3) ops).lookup (fakeIpAt 0) = some [97] ∧
      (Mealy.run step (create ⟨0, 0, 0, 0⟩ 3) ops).pins (fakeIpAt 0) = 0 ∧
      netPins (fakeIpAt 0) (create ⟨0, 0, 0, 0⟩ 3) 0 ops = (2 ^ 64 : ℕ)) ∧
      let ops := [.alloc [97], .pin (fakeIpAt 0), .exclude (fakeIpAt 0)]
      (Mealy.run step (create ⟨0, 0, 0, 0⟩ 3) ops).pins (fakeIpAt 0) = 0 ∧
        netPins (fakeIpAt 0) (create ⟨0, 0, 0, 0⟩ 3) 0 ops = 1 :=
  ⟨⟨_, rfl, pins_of_wrap (Nat.two_pow_pos 64) (Nat.mod_self _) rfl⟩, by decide⟩

end FakeIpTable

end Encapsule
