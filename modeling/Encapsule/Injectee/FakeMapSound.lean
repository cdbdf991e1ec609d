import Encapsule.Injectee.FakeMap

/-!
# Soundness of the connect-site decision

`lastAllocated` reads off a history which name an address was last issued for.  `issued_run` shows
that in every run each row of the table holds exactly that name, whatever was evicted, excluded or
issued again in between, and `decide_sound` that the decision at a connect site follows.
-/

namespace Encapsule

namespace FakeIpOwner

/-- A history of critical sections, each with its answer. -/
abbrev History := List (FakeIpOwnerOp × FakeIpOwnerAnswer)

/-- The name of the most recent successful `alloc_for` that returned the address. -/
def lastAllocated (h : History) (v4 : Octets) : Option Bytes :=
  h.foldl (fun last entry =>
    match entry with
    | (.allocFor name, .read (some addr)) => if addr.v4 = v4 then some name else last
    | _ => last) none

/-- Every row holds the name its address was last issued for. -/
def Issued (h : History) (o : FakeIpOwner) : Prop :=
  ∀ i, (o.table.slots i).name ≠ [] →
    lastAllocated h (fakeIpAt i) = some (o.table.slots i).name

variable {h : History} {o : FakeIpOwner} {name : Bytes} {v4 : Octets}

/-! ## Histories -/

/-- A successful `alloc_for` is the last one for the address it returned. -/
lemma lastAllocated_allocFor (addr : FakeAddrRead) :
    lastAllocated (h ++ [(.allocFor name, .read (some addr))]) v4 =
      if addr.v4 = v4 then some name else lastAllocated h v4 := by
  simp [lastAllocated, List.foldl_append]

/-- Anything but a successful `alloc_for` leaves the account of the issued names alone. -/
lemma lastAllocated_of_not_allocFor {op : FakeIpOwnerOp} {answer : FakeIpOwnerAnswer}
    (hop : ∀ name addr, (op, answer) ≠ (.allocFor name, .read (some addr))) :
    lastAllocated (h ++ [(op, answer)]) v4 = lastAllocated h v4 := by
  rw [lastAllocated, List.foldl_append, List.foldl_cons, List.foldl_nil]
  split
  · rename_i name addr hentry
    exact absurd hentry (hop name addr)
  · rfl

/-! ## The invariant -/

/-- No critical section but `alloc_for` gives a row a name. -/
lemma nameKept_step {op : FakeIpOwnerOp} (hop : ∀ name, op ≠ .allocFor name)
    (i : Fin fakeipCapacity) : FakeIpTable.NameKept o.table (o.step op).1.table i := by
  have htable (op' : FakeIpOp) (hop' : ∀ name, op' ≠ .alloc name) :
      FakeIpTable.NameKept o.table (o.table.step op').1 i := FakeIpTable.nameKept_step _ hop' i
  cases op with
  | allocFor name => exact absurd rfl (hop name)
  | pin fake => exact htable (.pin fake) (by simp)
  | unpin fake => exact htable (.unpin fake) (by simp)
  | noteTouched fake => exact htable (.noteTouched fake) (by simp)
  | noteTouchedAddr name len =>
    change FakeIpTable.NameKept o.table (o.noteTouchedAddr name len).1.table i
    unfold noteTouchedAddr
    dsimp only
    split
    · exact FakeIpTable.NameKept.refl _ i
    · exact htable (.noteTouched (readFakeAddr name len).v4) (by simp)
  | forwardProgress ticks => exact htable (.noteProgress ticks) (by simp)
  | excludeProxy fake => exact htable (.exclude fake) (by simp)
  | excludeProxyValue v4Value => exact htable (.exclude (fakeIpFromU32 v4Value)) (by simp)
  | _ => exact FakeIpTable.NameKept.refl _ i

/-- A kept name is a name that was issued. -/
lemma Issued.of_nameKept {h' : History} {t' : FakeIpTable} (hissued : Issued h o)
    (i : Fin fakeipCapacity) (hkept : FakeIpTable.NameKept o.table t' i)
    (hsame : lastAllocated h' (fakeIpAt i) = lastAllocated h (fakeIpAt i))
    (hne : (t'.slots i).name ≠ []) : lastAllocated h' (fakeIpAt i) = some (t'.slots i).name := by
  have heq : (t'.slots i).name = (o.table.slots i).name := hkept.resolve_left hne
  rw [hsame, heq]
  exact hissued i (heq ▸ hne)

/-- One critical section keeps the account of the issued names. -/
lemma Issued.step (hissued : Issued h o) (op : FakeIpOwnerOp) :
    Issued (h ++ [(op, (o.step op).2)]) (o.step op).1 := by
  intro i hne
  by_cases hop : ∀ name, op ≠ .allocFor name
  · refine hissued.of_nameKept i (nameKept_step hop i) (lastAllocated_of_not_allocFor ?_) hne
    intro name addr hentry
    exact hop name (Prod.mk.inj hentry).1
  · obtain ⟨name, rfl⟩ : ∃ name, op = .allocFor name := by simpa using hop
    have hanswer : (o.step (.allocFor name)).2 =
      .read ((o.table.alloc name).2.map fun v4 => fakeAddrReadOf v4 0) := rfl
    have htable : (o.step (.allocFor name)).1.table = (o.table.alloc name).1 := rfl
    rw [htable] at hne ⊢
    rw [hanswer]
    cases halloc : (o.table.alloc name).2 with
    | none =>
      have hkept := FakeIpTable.alloc_eq_none halloc i
      exact hissued.of_nameKept i hkept (lastAllocated_of_not_allocFor (by simp)) hne
    | some fake =>
      obtain ⟨j, rfl, -, hname, hothers⟩ := FakeIpTable.alloc_eq_some halloc
      have hv4 : (fakeAddrReadOf (fakeIpAt j) 0).v4 = fakeIpAt j := fakeMapClassify_v4 _
      rw [Option.map_some, lastAllocated_allocFor, hv4]
      by_cases hij : i = j
      · subst hij
        rw [if_pos rfl, hname]
      · have hne' : fakeIpAt j ≠ fakeIpAt i := fun h => hij (fakeIpAt_injective h).symm
        rw [if_neg hne']
        exact hissued.of_nameKept i (hothers i hij) rfl hne

/-- In every run each row holds the name its address was last issued for. -/
lemma issued_run (quarantine : ℕ) (ops : List FakeIpOwnerOp) :
    Issued (Mealy.log step (create quarantine) ops) (Mealy.run step (create quarantine) ops) := by
  refine Mealy.log_invariant ?_ (fun _ o op hissued => hissued.step op) ops
  intro i hne
  have hout : fakeIpSlotOf {} = none := by rfl
  have hempty : (create quarantine).table = { quarantine } :=
    FakeIpTable.create_of_fakeIpSlotOf_eq_none hout quarantine
  rw [hempty] at hne
  exact absurd rfl hne

/-! ## The decision -/

/-- The buffer spells an address of `198.51.100.0/24`. -/
def InRange (addr : FakeAddrRead) : Prop := addr.readable = true ∧ inFakeRange addr.v4 = true

/-- The table holds a row for the address. -/
def HoldsRow (o : FakeIpOwner) (v4 : Octets) : Prop :=
  ∃ i, fakeIpAt i = v4 ∧ (o.table.slots i).name ≠ []

/-- A row is what a lookup finds. -/
lemma holdsRow_iff : HoldsRow o v4 ↔ ∃ name, o.lookup v4 = some name := by
  simp only [HoldsRow, lookup, FakeIpTable.lookup_eq_some]
  constructor
  · rintro ⟨i, hi, hne⟩
    exact ⟨_, i, hi, rfl, hne⟩
  · rintro ⟨name, i, hi, rfl, hne⟩
    exact ⟨i, hi, hne⟩

/-- A lookup never answers with the empty name. -/
lemma ne_nil_of_lookup (hname : o.lookup v4 = some name) : name ≠ [] := by
  obtain ⟨i, -, -, hne⟩ := FakeIpTable.lookup_eq_some.mp hname
  exact hne

/-- A lookup answers with the name the address was last issued for. -/
lemma Issued.lookup (hissued : Issued h o) (hname : o.lookup v4 = some name) :
    lastAllocated h v4 = some name := by
  obtain ⟨i, rfl, rfl, hne⟩ := FakeIpTable.lookup_eq_some.mp hname
  exact hissued i hne

/-- The early exit and the locked path are the pure policy applied to one lookup. -/
lemma decideRead_eq (o : FakeIpOwner) (addr : FakeAddrRead) (proxyConfigured : Bool) :
    o.decideRead addr proxyConfigured =
      fakeConnectVerdict addr (FakeTableAnswer.fromLookup (o.lookup addr.v4)) proxyConfigured := by
  unfold decideRead
  by_cases hrange : addr.inRange = true
  · have hnot : ¬(!addr.inRange) = true := by simp [hrange]
    rw [if_neg hnot]
    cases hrow : o.lookup addr.v4 with
    | none =>
      have hrow' : o.table.lookup addr.v4 = none := hrow
      simp [fakeConnectVerdict, FakeTableAnswer.fromLookup, hrange, hrow']
    | some name =>
      have hrow' : o.table.lookup addr.v4 = some name := hrow
      simp [fakeConnectVerdict, FakeTableAnswer.fromLookup, hrange, hrow', ne_nil_of_lookup hrow]
  · simp [fakeConnectVerdict, hrange]

/-- The three courses of the decision. -/
lemma decide_cases (o : FakeIpOwner) (name : Option Sockaddr) (len : ℤ) (proxyConfigured : Bool) :
    let addr := readFakeAddr name len
    ¬InRange addr ∧ o.decide name len proxyConfigured = { verdict := .passthrough, addr } ∨
      (InRange addr ∧ ∃ row, o.lookup addr.v4 = some row ∧
        o.decide name len proxyConfigured = { verdict := .routeByName, name := row, addr }) ∨
      InRange addr ∧ o.lookup addr.v4 = none ∧ o.decide name len proxyConfigured =
        { verdict := if proxyConfigured then .refuse else .passthrough, addr } := by
  intro addr
  have hrange : addr.inRange = true ↔ InRange addr := by
    rw [InRange, readFakeAddr_inRange, Bool.and_eq_true]
  have heq := decideRead_eq o addr proxyConfigured
  rw [FakeIpOwner.decide, heq]
  by_cases hin : InRange addr
  case neg =>
    left
    simp [fakeConnectVerdict, mt hrange.mp hin, hin]
  right
  cases hrow : o.lookup addr.v4 with
  | none =>
    right
    simp [fakeConnectVerdict, FakeTableAnswer.fromLookup, hrange.mpr hin, hin]
  | some row =>
    left
    refine ⟨hin, row, rfl, ?_⟩
    simp [fakeConnectVerdict, FakeTableAnswer.fromLookup, hrange.mpr hin, ne_nil_of_lookup hrow]

/-- **Soundness of the decision.** At any point of any run, for any buffer: when the verdict is to
route by name, what the name is, and what the verdict is otherwise. -/
theorem decide_sound (quarantine : ℕ) (ops : List FakeIpOwnerOp) (name : Option Sockaddr)
    (len : ℤ) (proxyConfigured : Bool) :
    let o := Mealy.run step (create quarantine) ops
    let addr := readFakeAddr name len
    let d := o.decide name len proxyConfigured
    (d.verdict = .routeByName ↔ InRange addr ∧ HoldsRow o addr.v4) ∧
      (d.verdict = .routeByName → d.name ≠ [] ∧
        lastAllocated (Mealy.log step (create quarantine) ops) addr.v4 = some d.name) ∧
      (InRange addr → ¬HoldsRow o addr.v4 →
        d.verdict = if proxyConfigured then .refuse else .passthrough) ∧
      (¬InRange addr → d.verdict = .passthrough) ∧
      (d.verdict ≠ .routeByName → d.name = []) ∧
      d = fakeConnectVerdict addr (FakeTableAnswer.fromLookup (o.lookup addr.v4))
        proxyConfigured := by
  intro o addr d
  have hissued := issued_run quarantine ops
  refine and_assoc.mp (and_assoc.mp (and_assoc.mp (and_assoc.mp
    ⟨?_, decideRead_eq o addr proxyConfigured⟩)))
  rw [holdsRow_iff]
  rcases decide_cases o name len proxyConfigured with
    ⟨(hin : ¬InRange addr), (hd : d = _)⟩ |
    ⟨(hin : InRange addr), row, (hrow : o.lookup addr.v4 = some row), (hd : d = _)⟩ |
    ⟨(hin : InRange addr), (hrow : o.lookup addr.v4 = none), (hd : d = _)⟩
  · simp [hd, hin]
  · have hlast : lastAllocated _ addr.v4 = some row := hissued.lookup hrow
    simp [hd, hin, hrow, ne_nil_of_lookup hrow, hlast]
  · cases proxyConfigured <;> simp [hd, hin, hrow]

/-- The first fake of a run leads back to its name, in the v4-mapped spelling as well. -/
theorem decide_sound_v4_mapped :
    let name : Sockaddr := sockaddrIn6 (List.replicate 10 0 ++ [0xff, 0xff, 198, 51, 100, 1]) 443
    let d := (Mealy.run step (create 127) [.allocFor [104]]).decide (some name) 28 true
    d.name ≠ [] ∧ lastAllocated (Mealy.log step (create 127) [.allocFor [104]])
      (readFakeAddr (some name) 28).v4 = some d.name := by
  intro name d
  have hverdict : d.verdict = .routeByName := by decide
  exact (decide_sound 127 [.allocFor [104]] (some name) 28 true).2.1 hverdict

end FakeIpOwner

end Encapsule
