import Encapsule.Injectee.FakeIpRing

/-!
# Exclusion from the fake-IP table

An excluded address is out of circulation for the rest of the run.  The slots out of circulation are
those whose address was named in an exclusion, the one of the constructor included
(`FakeIpTable.excluded_run`); each of them is counted once, however often and in whatever order it
was named, and none of them ever holds a name again (`exclusion_is_permanent`).
-/

namespace Encapsule

namespace FakeIpTable

variable {t : FakeIpTable} {k : Fin fakeipCapacity} {name : Bytes} {fake : Octets}

/-! ## Which slots are out of circulation -/

/-- An operation takes the slot out of circulation whose address it excludes, and no other. -/
lemma excluded_step (t : FakeIpTable) (op : FakeIpOp) (k : Fin fakeipCapacity) :
    (t.step op).1.excluded k = true ↔ op = .exclude (fakeIpAt k) ∨ t.excluded k = true := by
  have hchange := t.change_step op
  have hmarked {i : Fin fakeipCapacity} {addr : Octets} (haddr : fakeIpSlotOf addr = some i) :
      (t.marked i).excluded k = true ↔
        FakeIpOp.exclude addr = .exclude (fakeIpAt k) ∨ t.excluded k = true := by
    rw [fakeIpSlotOf_eq_some] at haddr
    subst haddr
    by_cases hki : k = i
    · subst hki
      simp [marked]
    · have hne : fakeIpAt i ≠ fakeIpAt k := fun h => hki (fakeIpAt_injective h).symm
      simp [marked, hki, hne]
  generalize (t.step op).2 = answer at hchange
  generalize (t.step op).1 = t' at hchange ⊢
  cases hchange with
  | @notExcluded addr hmark =>
    constructor
    · exact Or.inr
    · rintro (hop | hmark')
      · obtain rfl : addr = fakeIpAt k := FakeIpOp.exclude.inj hop
        exact hmark k (fakeIpSlotOf_fakeIpAt k)
      · exact hmark'
  | excluded haddr hmark hfree => exact hmarked haddr
  | withdrawn haddr hmark hheld => exact hmarked haddr
  | _ =>
    constructor
    · exact Or.inr
    · rintro (hop | hmark)
      · cases hop
      · exact hmark

/-- The slots out of circulation after a run are those whose address was excluded in it, and those
that were out before. -/
lemma excluded_run (t : FakeIpTable) (ops : List FakeIpOp) (k : Fin fakeipCapacity) :
    (Mealy.run step t ops).excluded k = true ↔
      .exclude (fakeIpAt k) ∈ ops ∨ t.excluded k = true := by
  induction ops generalizing t with
  | nil => simp
  | cons op ops ih =>
    have hhead : op = .exclude (fakeIpAt k) ↔ .exclude (fakeIpAt k) = op := eq_comm
    rw [Mealy.run_cons, ih, excluded_step, List.mem_cons, hhead, or_assoc]
    exact or_left_comm

/-- The constructor is an exclusion from the empty table. -/
lemma run_create (excluded : Octets) (quarantine : ℕ) (ops : List FakeIpOp) :
    Mealy.run step (create excluded quarantine) ops =
      Mealy.run step { quarantine } (.exclude excluded :: ops) := rfl

/-- The slots out of circulation in a run from the constructor. -/
lemma excluded_run_create (excluded : Octets) (quarantine : ℕ) (ops : List FakeIpOp)
    (k : Fin fakeipCapacity) :
    (Mealy.run step (create excluded quarantine) ops).excluded k = true ↔
      .exclude (fakeIpAt k) ∈ FakeIpOp.exclude excluded :: ops := by
  rw [run_create, excluded_run]
  exact or_iff_left Bool.false_ne_true

/-- An address counts as excluded when it is one of the 254 and was named. -/
lemma isExcluded_run (excluded : Octets) (quarantine : ℕ) (ops : List FakeIpOp) (addr : Octets) :
    (Mealy.run step (create excluded quarantine) ops).isExcluded addr = true ↔
      fakeIpSlotOf addr ≠ none ∧ .exclude addr ∈ FakeIpOp.exclude excluded :: ops := by
  unfold isExcluded
  cases haddr : fakeIpSlotOf addr with
  | none => simp
  | some k =>
    obtain rfl := fakeIpSlotOf_eq_some.mp haddr
    rw [Option.any_some, excluded_run_create]
    exact (and_iff_right (Option.some_ne_none k)).symm

/-- The slots out of circulation are as many as issuable addresses were named. -/
lemma exclusions_run (excluded : Octets) (quarantine : ℕ) (ops : List FakeIpOp) :
    (Mealy.run step (create excluded quarantine) ops).exclusions =
      (List.finRange fakeipCapacity).countP fun k =>
        .exclude (fakeIpAt k) ∈ FakeIpOp.exclude excluded :: ops := by
  rw [counted_run excluded quarantine ops]
  apply List.countP_congr
  intro k _
  rw [excluded_run_create, decide_eq_true_iff]

/-! ## What an exclusion does -/

lemma exclude_of_fakeIpSlotOf_eq_none (h : fakeIpSlotOf fake = none) : t.exclude fake = t := by
  simp only [exclude, h]

/-- An address is excluded once. -/
lemma exclude_of_isExcluded (h : t.isExcluded fake = true) : t.exclude fake = t := by
  unfold isExcluded at h
  cases haddr : fakeIpSlotOf fake with
  | none => exact exclude_of_fakeIpSlotOf_eq_none haddr
  | some k =>
    rw [haddr, Option.any_some] at h
    simp only [exclude, haddr, h, if_true]

/-- The excluded address does not have a name in any later state. -/
lemma lookup_run_create {excluded : Octets} (quarantine : ℕ) (ops : List FakeIpOp)
    (hmem : .exclude fake ∈ FakeIpOp.exclude excluded :: ops) :
    (Mealy.run step (create excluded quarantine) ops).lookup fake = none :=
  lookup_run_of_exclude_mem (nameless_empty quarantine) hmem

/-- An address without a name cannot be touched. -/
lemma noteTouched_of_lookup_eq_none (h : t.lookup fake = none) :
    (t.noteTouched fake).2 = false := by
  have hnone : t.ownedSlot fake = none := Option.map_eq_none_iff.mp h
  simp only [noteTouched, hnone]

/-- The address that an allocation answers with has the name then. -/
lemma lookup_of_alloc (h : (t.alloc name).2 = some fake) :
    (t.alloc name).1.lookup fake = some name := by
  obtain ⟨i, rfl, hname, hheld, -⟩ := alloc_eq_some h
  exact lookup_eq_some.mpr ⟨i, rfl, hheld, hname⟩

/-- The excluded address is not issued in any later state. -/
lemma alloc_run_ne {excluded : Octets} {ops : List FakeIpOp} (quarantine : ℕ)
    (hmem : .exclude fake ∈ FakeIpOp.exclude excluded :: ops) (name : Bytes) :
    ((Mealy.run step (create excluded quarantine) ops).alloc name).2 ≠ some fake := by
  intro h
  have hheld := lookup_of_alloc h
  have hnone := lookup_run_create quarantine (ops ++ [.alloc name])
    (List.mem_append_left [.alloc name] hmem)
  rw [Mealy.run_concat] at hnone
  exact absurd (hheld.symm.trans hnone) (Option.some_ne_none name)

/-- A name is given an address when a slot can be issued, at once or after an eviction. -/
lemma alloc_ne_none (hname : name ≠ [])
    (hfree : t.attempted.findFree ≠ none ∨ t.attempted.evict.findFree ≠ none) :
    (t.alloc name).2 ≠ none := by
  cases hfind : t.findName name with
  | some i =>
    rw [alloc_of_findName hname hfind]
    exact Option.some_ne_none _
  | none =>
    rcases alloc_of_new hname hfind with ⟨i, -, halloc⟩ | ⟨i, -, -, halloc⟩ |
      ⟨hfull, haged, -⟩
    · rw [halloc]
      exact Option.some_ne_none _
    · rw [halloc]
      exact Option.some_ne_none _
    · exact absurd haged (hfree.resolve_left (not_not.mpr hfull))

/-! ## The promise -/

/-- **An exclusion is permanent and exact.** In every state that a run reaches: an address that was
named in an exclusion is not issued, and has no name to look up, pin, unpin or touch; every issuable
address that was named costs one slot, and to exclude it again, or an address that is none of the
254, changes nothing; a name whose address is excluded gets another one in any later state in which
a slot can be issued; and an exclusion that comes first is an argument of the constructor. -/
theorem exclusion_is_permanent (excluded : Octets) (q : ℕ) (ops : List FakeIpOp) (a : Octets) :
    let t := Mealy.run step (create excluded q) ops
    let history := FakeIpOp.exclude excluded :: ops
    let cost := (List.finRange fakeipCapacity).countP fun k => .exclude (fakeIpAt k) ∈ history
    (.exclude a ∈ history →
        (∀ name, (t.alloc name).2 ≠ some a) ∧ t.lookup a = none ∧ (t.pin a).2 = false ∧
          (t.unpin a).2 = false ∧ (t.noteTouched a).2 = false) ∧
      (t.isExcluded a = true ↔ fakeIpSlotOf a ≠ none ∧ .exclude a ∈ history) ∧
      (t.exclusions = cost ∧ t.capacity + cost = fakeipCapacity) ∧
      (fakeIpSlotOf a = none ∨ .exclude a ∈ history → t.exclude a = t) ∧
      (∀ name, t.lookup a = some name → ∀ later,
        let t' := Mealy.run step (t.exclude a) later
        (t'.attempted.findFree ≠ none ∨ t'.attempted.evict.findFree ≠ none →
            ∃ b, (t'.alloc name).2 = some b) ∧
          ∀ b, (t'.alloc name).2 = some b → b ≠ a ∧ (t'.alloc name).1.lookup b = some name) ∧
      ∀ b, fakeIpSlotOf b = none →
        (create b q).exclude a = create a q ∧
          ∀ later, Mealy.log step (create b q) (.exclude a :: later) =
            (.exclude a, .done) :: Mealy.log step (create a q) later := by
  intro t history cost
  refine ⟨?_, isExcluded_run excluded q ops a, ?_, ?_, ?_, ?_⟩
  · intro hmem
    have hnone : t.lookup a = none := lookup_run_create q ops hmem
    obtain ⟨hpin, hunpin⟩ := pin_of_lookup_eq_none hnone
    exact ⟨alloc_run_ne q hmem, hnone, hpin, hunpin, noteTouched_of_lookup_eq_none hnone⟩
  · have hcost : t.exclusions = cost := exclusions_run excluded q ops
    have hle : cost ≤ (List.finRange fakeipCapacity).length := List.countP_le_length
    rw [List.length_finRange] at hle
    refine ⟨hcost, ?_⟩
    rw [capacity, hcost]
    exact Nat.sub_add_cancel hle
  · rintro (hnone | hmem)
    · exact exclude_of_fakeIpSlotOf_eq_none hnone
    · by_cases hnone : fakeIpSlotOf a = none
      · exact exclude_of_fakeIpSlotOf_eq_none hnone
      · exact exclude_of_isExcluded ((isExcluded_run excluded q ops a).mpr ⟨hnone, hmem⟩)
  · intro name hheld later t'
    have hname : name ≠ [] := by
      obtain ⟨i, -, -, hname⟩ := lookup_eq_some.mp hheld
      exact hname
    have ht' : t' = Mealy.run step (create excluded q) (ops ++ .exclude a :: later) := by
      rw [Mealy.run_append]
      rfl
    refine ⟨?_, fun b hb => ⟨?_, lookup_of_alloc hb⟩⟩
    · intro hfree
      exact Option.ne_none_iff_exists'.mp (alloc_ne_none hname hfree)
    · rintro rfl
      have hmem : .exclude b ∈ FakeIpOp.exclude excluded :: (ops ++ .exclude b :: later) := by simp
      rw [ht'] at hb
      exact alloc_run_ne q hmem name hb
  · intro b hb
    have hcreate : (create b q).exclude a = create a q := by
      rw [create_of_fakeIpSlotOf_eq_none hb]
      rfl
    refine ⟨hcreate, ?_⟩
    intro later
    rw [Mealy.log_cons]
    change _ :: Mealy.log step ((create b q).exclude a) later = _
    rw [hcreate]
    rfl

end FakeIpTable

end Encapsule
