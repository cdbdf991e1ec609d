import Encapsule.Injectee.FakeIpStep

/-!
# The invariant of the fake-IP table

What holds of the table after any operations, as long as the touch clock does not wrap
(`FakeIpTable.Inv`): a name is held by one slot, the slots that are out of circulation hold none,
and the ticks of the last uses are all different and in the past.  So a name that is held is
answered with its address, and a new name gets an address that nobody has (`inv_of_touchFits`).
-/

namespace Encapsule

namespace FakeIpTable

variable {t : FakeIpTable} {i j : Fin fakeipCapacity} {name : Bytes} {fake : Octets}

/-! ## The invariant -/

/-- The ticks an operation gives to the touch clock. -/
def touches (t : FakeIpTable) : FakeIpOp → ℕ
  | .alloc name => if name = [] then 0 else 1
  | .noteTouched fake => if (t.ownedSlot fake).isSome then 1 else 0
  | _ => 0

/-- The touch clock does not wrap in this operation. -/
def TouchFits (t : FakeIpTable) (op : FakeIpOp) : Prop := t.touch + t.touches op < 2 ^ 64

instance (t : FakeIpTable) (op : FakeIpOp) : Decidable (t.TouchFits op) :=
  inferInstanceAs (Decidable (_ < _))

/-- Asking for a name is a use. -/
lemma touches_alloc (hname : name ≠ []) : t.touches (.alloc name) = 1 := if_neg hname

/-- Touching a name that is held is a use. -/
lemma touches_noteTouched (hheld : t.ownedSlot fake = some i) :
    t.touches (.noteTouched fake) = 1 := by
  simp [touches, hheld]

/-- What the rows of the table keep. -/
structure Rows (t : FakeIpTable) : Prop where
  /-- No name is held by two slots. -/
  unique : ∀ i j, (t.slots i).name ≠ [] → (t.slots i).name = (t.slots j).name → i = j
  /-- A slot without a name has no pins. -/
  unpinned : ∀ i, (t.slots i).name = [] → (t.slots i).inflight = 0
  /-- A name was used in the past. -/
  lastUse_le : ∀ i, (t.slots i).name ≠ [] → (t.slots i).lastUse ≤ t.touch
  /-- No two names were used last in the same tick. -/
  lastUse_inj : ∀ i j, (t.slots i).name ≠ [] → (t.slots j).name ≠ [] →
    (t.slots i).lastUse = (t.slots j).lastUse → i = j

/-- Exclusions do not let the touch clock wrap. -/
lemma along_excludeFrom (k : ℕ) {t : FakeIpTable} (htouch : t.touch < 2 ^ 64) :
    Mealy.Along step TouchFits t (excludeFrom k) := by
  unfold excludeFrom
  induction (List.finRange fakeipCapacity).filter fun i => k ≤ i.val generalizing t with
  | nil => trivial
  | cons i is ih =>
    refine ⟨htouch, ih ?_⟩
    have hchange := t.change_step (.exclude (fakeIpAt i))
    generalize (t.step (.exclude (fakeIpAt i))).2 = answer at hchange
    generalize (t.step (.exclude (fakeIpAt i))).1 = t' at hchange ⊢
    cases hchange with
    | notExcluded => exact htouch
    | excluded => exact htouch
    | withdrawn => exact htouch

/-- The invariant of the table. -/
structure Inv (t : FakeIpTable) : Prop extends Rows t where
  /-- An excluded slot holds no name. -/
  nameless : t.Nameless
  /-- The excluded slots are counted. -/
  exclusions_eq : t.Counted

/-- A slot that holds a name is in circulation. -/
lemma Inv.excluded_eq_false (h : t.Inv) (hheld : (t.slots i).name ≠ []) : t.excluded i = false :=
  Bool.eq_false_of_not_eq_true fun hmark => hheld (h.nameless i hmark)

/-- A name is found in the slot that holds it. -/
lemma Inv.findName_eq_some (h : t.Inv) (hheld : (t.slots i).name ≠ []) :
    t.findName (t.slots i).name = some i := by
  cases hfind : t.findName (t.slots i).name with
  | none => exact absurd rfl (findName_eq_none.mp hfind i)
  | some j =>
    have hname := name_of_findName hfind
    rw [h.unique i j hheld hname.symm]

/-- The names that are held fit into the slots in circulation. -/
lemma Inv.liveNames_le (h : t.Inv) : t.liveNames ≤ t.capacity := by
  have hle := SlotArray.countP_add_countP_le (p := fun i => decide ((t.slots i).name ≠ []))
    (r := t.excluded) (List.finRange fakeipCapacity)
    fun i _ hheld => h.excluded_eq_false (of_decide_eq_true hheld)
  rw [List.length_finRange, ← h.exclusions_eq] at hle
  unfold liveNames capacity
  omega

/-! ## Rewriting a table -/

/-- The clocks may go on. -/
lemma Rows.tick (h : t.Rows) {touch : ℕ} (hle : t.touch ≤ touch) (allocations : ℕ) :
    ({ t with touch, allocations } : FakeIpTable).Rows where
  unique := h.unique
  unpinned := h.unpinned
  lastUse_le i hheld := (h.lastUse_le i hheld).trans hle
  lastUse_inj := h.lastUse_inj

/-- An attempt to place a new name lets both clocks go on. -/
lemma Rows.attempted (h : t.Rows) (hfits : t.touch + 1 < 2 ^ 64) : t.attempted.Rows := by
  have hwrap : wrap64 (t.touch + 1) = t.touch + 1 := Nat.mod_eq_of_lt hfits
  unfold FakeIpTable.attempted
  rw [hwrap]
  exact h.tick (Nat.le_succ t.touch) _

/-- A slot may be rewritten with a row that has no name and no pins, or a name of its own that is
used in a tick of its own. -/
lemma Rows.setSlot (h : t.Rows) {row : FakeIpSlot} (hpins : row.name = [] → row.inflight = 0)
    (hname : row.name ≠ [] → row.lastUse ≤ t.touch ∧
      ∀ j, j ≠ i → (t.slots j).name ≠ [] →
        (t.slots j).name ≠ row.name ∧ (t.slots j).lastUse ≠ row.lastUse) :
    (t.setSlot i row).Rows where
  unique j k hj hjk := by
    by_cases hji : j = i
    · subst hji
      by_contra hne
      rw [slots_setSlot_self] at hj hjk
      rw [slots_setSlot_of_ne row (Ne.symm hne)] at hjk
      exact ((hname hj).2 k (Ne.symm hne) (hjk ▸ hj)).1 hjk.symm
    · rw [slots_setSlot_of_ne row hji] at hj hjk
      by_cases hki : k = i
      · subst hki
        rw [slots_setSlot_self] at hjk
        exact absurd hjk ((hname (hjk ▸ hj)).2 j hji hj).1
      · rw [slots_setSlot_of_ne row hki] at hjk
        exact h.unique j k hj hjk
  unpinned j hj := by
    by_cases hji : j = i
    · subst hji
      rw [slots_setSlot_self] at hj ⊢
      exact hpins hj
    · rw [slots_setSlot_of_ne row hji] at hj ⊢
      exact h.unpinned j hj
  lastUse_le j hj := by
    by_cases hji : j = i
    · subst hji
      rw [slots_setSlot_self] at hj ⊢
      exact (hname hj).1
    · rw [slots_setSlot_of_ne row hji] at hj ⊢
      exact h.lastUse_le j hj
  lastUse_inj j k hj hk hjk := by
    by_cases hji : j = i
    · subst hji
      by_contra hne
      rw [slots_setSlot_self] at hj hjk
      rw [slots_setSlot_of_ne row (Ne.symm hne)] at hk hjk
      exact ((hname hj).2 k (Ne.symm hne) hk).2 hjk.symm
    · rw [slots_setSlot_of_ne row hji] at hj hjk
      by_cases hki : k = i
      · subst hki
        rw [slots_setSlot_self] at hk hjk
        exact absurd hjk ((hname hk).2 j hji hj).2
      · rw [slots_setSlot_of_ne row hki] at hk hjk
        exact h.lastUse_inj j k hj hk hjk

/-- A name that is held may be used. -/
lemma Rows.warmed (h : t.Rows) (hfits : t.touch + 1 < 2 ^ 64) (hheld : (t.slots i).name ≠ []) :
    (t.warmed i).Rows := by
  have hwrap : wrap64 (t.touch + 1) = t.touch + 1 := Nat.mod_eq_of_lt hfits
  unfold FakeIpTable.warmed
  rw [hwrap]
  refine (h.tick (Nat.le_succ t.touch) t.allocations).setSlot (fun hfree => absurd hfree hheld)
    fun _ => ⟨le_rfl, fun j hj hother => ⟨fun hname => ?_, ?_⟩⟩
  · exact hj (h.unique j i hother hname)
  · have hle := h.lastUse_le j hother
    exact Nat.ne_of_lt (Nat.lt_succ_of_le hle)

/-- A slot may be claimed for a name that is not held. -/
lemma Rows.claim (h : t.Rows) (hfits : t.touch + 1 < 2 ^ 64)
    (hnew : ∀ j, (t.slots j).name ≠ name) : (t.attempted.claim i name).Rows := by
  have hwrap : wrap64 (t.touch + 1) = t.touch + 1 := Nat.mod_eq_of_lt hfits
  refine (h.attempted hfits).setSlot (fun _ => rfl) fun _ =>
    ⟨le_rfl, fun j _ hother => ⟨hnew j, ?_⟩⟩
  have hle := h.lastUse_le j hother
  change (t.slots j).lastUse ≠ wrap64 (t.touch + 1)
  rw [hwrap]
  exact Nat.ne_of_lt (Nat.lt_succ_of_le hle)

lemma Rows.retire (h : t.Rows) (i : Fin fakeipCapacity) : (t.retire i).Rows :=
  h.setSlot (fun _ => rfl) fun hname => absurd rfl hname

/-- The pins of a name may be rewritten. -/
lemma Rows.setPins (h : t.Rows) (hheld : (t.slots i).name ≠ []) (inflight : ℕ) :
    (t.setPins i inflight).Rows := by
  refine h.setSlot (fun hfree => absurd hfree hheld) fun _ =>
    ⟨h.lastUse_le i hheld, fun j hj hother => ⟨fun hname => ?_, fun huse => ?_⟩⟩
  · exact hj (h.unique j i hother hname)
  · exact hj (h.lastUse_inj j i hother hheld huse)

/-- The marks of the slots are not looked at. -/
lemma Rows.marked (h : t.Rows) (i : Fin fakeipCapacity) : (t.marked i).Rows where
  unique := h.unique
  unpinned := h.unpinned
  lastUse_le := h.lastUse_le
  lastUse_inj := h.lastUse_inj

/-! ## Runs -/

/-- An operation in which the touch clock does not wrap keeps the rows in order. -/
lemma Rows.step {op : FakeIpOp} (hfits : t.TouchFits op) (h : t.Rows) : (t.step op).1.Rows := by
  have hchange := t.change_step op
  unfold TouchFits at hfits
  generalize (t.step op).2 = answer at hchange
  generalize (t.step op).1 = t' at hchange ⊢
  cases hchange with
  | noName => exact h
  | repeated hname hheld =>
    rw [touches_alloc hname] at hfits
    exact h.warmed hfits (by rwa [name_of_findName hheld])
  | placed hname hnew hfree =>
    rw [touches_alloc hname] at hfits
    exact h.claim hfits (findName_eq_none.mp hnew)
  | replaced hname hnew hfull hlru hready =>
    rw [touches_alloc hname] at hfits
    exact h.claim hfits (findName_eq_none.mp hnew)
  | evicted hname hnew hfull hlru hparked =>
    rw [touches_alloc hname] at hfits
    exact (h.attempted hfits).retire _
  | crowded hname hnew hfull hlru =>
    rw [touches_alloc hname] at hfits
    exact h.attempted hfits
  | lookup fake => exact h
  | pinned hheld => exact h.setPins (ownedSlot_eq_some.mp hheld).2 _
  | notPinned hnone => exact h
  | unpinned hheld hpins => exact h.setPins (ownedSlot_eq_some.mp hheld).2 _
  | notUnpinned hnone => exact h
  | touched hheld =>
    rw [touches_noteTouched hheld] at hfits
    exact h.warmed hfits (ownedSlot_eq_some.mp hheld).2
  | notTouched hnone => exact h
  | notExcluded hmark => exact h
  | excluded haddr hmark hfree => exact h.marked _
  | withdrawn haddr hmark hheld => exact (h.marked _).retire _
  | progressed n => exact h.tick le_rfl _

/-- The table without names has its rows in order. -/
lemma rows_empty (quarantine : ℕ) : Rows { quarantine } where
  unique _ _ hheld := absurd rfl hheld
  unpinned _ _ := rfl
  lastUse_le _ hheld := absurd rfl hheld
  lastUse_inj _ _ hheld := absurd rfl hheld

/-- Every table that is reached from a constructor by operations in which the touch clock does not
wrap has the invariant. -/
lemma inv_run (excluded : Octets) (quarantine : ℕ) {ops : List FakeIpOp}
    (hfits : Mealy.Along step TouchFits (create excluded quarantine) ops) :
    (Mealy.run step (create excluded quarantine) ops).Inv where
  toRows := by
    have hfits₀ : TouchFits { quarantine } (.exclude excluded) := Nat.two_pow_pos 64
    have hcreate : (create excluded quarantine).Rows := Rows.step hfits₀ (rows_empty quarantine)
    exact Mealy.run_invariant_of (fun _ _ => Rows.step) hcreate hfits
  nameless := nameless_run excluded quarantine ops
  exclusions_eq := counted_run excluded quarantine ops

/-! ## What is answered -/

/-- A new name that is placed gets a slot that has no name when it is claimed: a free one, or that
of the victim. -/
lemma claim_of_alloc_eq_some (hnew : ∀ i, (t.slots i).name ≠ name)
    (h : (t.alloc name).2 = some fake) :
    ∃ i before, fake = fakeIpAt i ∧ (before = t.attempted ∨ before = t.attempted.evict) ∧
      before.lookup fake = none ∧ (t.alloc name).1 = before.claim i name ∧
      (t.alloc name).1.lookup fake = some name := by
  have hname : name ≠ [] := by
    rintro rfl
    simp [alloc] at h
  have hlookup {before : FakeIpTable} {i : Fin fakeipCapacity}
      (hfree : (before.slots i).name = []) : before.lookup (fakeIpAt i) = none := by
    simp [lookup, ownedSlot, hfree]
  have hclaim (before : FakeIpTable) (i : Fin fakeipCapacity) :
      (before.claim i name).lookup (fakeIpAt i) = some name :=
    lookup_eq_some.mpr ⟨i, rfl, by simp [claim], hname⟩
  rcases alloc_of_new hname (findName_eq_none.mpr hnew) with ⟨i, hfree, halloc⟩ |
    ⟨i, -, haged, halloc⟩ | ⟨-, -, halloc⟩
  · rw [halloc] at h ⊢
    cases h
    exact ⟨i, _, rfl, Or.inl rfl, hlookup (of_findFree hfree).1, rfl, hclaim _ i⟩
  · rw [halloc] at h ⊢
    cases h
    exact ⟨i, _, rfl, Or.inr rfl, hlookup (of_findFree haged).1, rfl, hclaim _ i⟩
  · rw [halloc] at h
    cases h

/-- In every state that is reached from a constructor without the touch clock wrapping, the table
has the invariant and holds no more names than its capacity.  So asking for a name that is held
answers with its address and only makes it warm, and a new name that is placed gets an address that
has no name just before the claim, and leads back to the name. -/
theorem inv_of_touchFits (excluded : Octets) (quarantine : ℕ) (ops : List FakeIpOp)
    (hfits : Mealy.Along step TouchFits (create excluded quarantine) ops) :
    let t := Mealy.run step (create excluded quarantine) ops
    t.Inv ∧ t.liveNames ≤ t.capacity ∧
      (∀ i, (t.slots i).name ≠ [] →
        t.alloc (t.slots i).name =
          ({ t with touch := wrap64 (t.touch + 1) }.setSlot i
            { t.slots i with lastUse := wrap64 (t.touch + 1) }, some (fakeIpAt i))) ∧
      ∀ name fake, (∀ i, (t.slots i).name ≠ name) → (t.alloc name).2 = some fake →
        ∃ i before, fake = fakeIpAt i ∧ (before = t.attempted ∨ before = t.attempted.evict) ∧
          before.lookup fake = none ∧ (t.alloc name).1 = before.claim i name ∧
          (t.alloc name).1.lookup fake = some name := by
  intro t
  have hinv : t.Inv := inv_run excluded quarantine hfits
  refine ⟨hinv, hinv.liveNames_le, fun i hheld => ?_, fun name fake => claim_of_alloc_eq_some⟩
  exact alloc_of_findName hheld (hinv.findName_eq_some hheld)

/-- Two names, one of them asked for again. -/
theorem inv_of_touchFits_a_b_a :
    (Mealy.run step (create ⟨0, 0, 0, 0⟩ 3) [.alloc [97], .alloc [98], .alloc [97]]).Inv :=
  (inv_of_touchFits ⟨0, 0, 0, 0⟩ 3 [.alloc [97], .alloc [98], .alloc [97]] (by decide)).1

end FakeIpTable

end Encapsule
