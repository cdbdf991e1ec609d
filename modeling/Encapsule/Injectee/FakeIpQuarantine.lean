import Encapsule.Foundation.LeaseBook
import Encapsule.Injectee.FakeIp

/-!
# No misroute through the fake-IP table

The table is a lease book: its slots are let to names, and its allocation clock is the clock of the
book.  `step_book` shows that one operation is a run of the book, as long as the allocation clock
does not wrap, and `run_book` that a whole run is.  What the quarantine of a lease book promises
then holds of the table: an address that changes its name has waited for `quarantine` ticks.
-/

namespace Encapsule

open LeaseBook Relation

/-- What a slot means for a lease book. -/
def FakeIpSlot.tenancy (row : FakeIpSlot) : Tenancy Bytes :=
  if row.name = [] then .vacant (if row.usedOnce then row.reusableAt else 0) else .held row.name

namespace FakeIpTable

/-- The table as a lease book. -/
def book (t : FakeIpTable) : Book (Fin fakeipCapacity) Bytes :=
  { clock := t.allocations, tenancy := fun i => (t.slots i).tenancy }

variable {t : FakeIpTable} {i : Fin fakeipCapacity} {name : Bytes}

/-- A slot with a name is held by it. -/
lemma book_tenancy_of_name (h : (t.slots i).name = name) (hne : name ≠ []) :
    t.book.tenancy i = .held name := by
  simp [book, FakeIpSlot.tenancy, h, hne]

/-! ## The parts of an operation -/

/-- Rewriting a slot rewrites its tenancy. -/
lemma book_setSlot (row : FakeIpSlot) :
    (t.setSlot i row).book =
      { t.book with tenancy := Function.update t.book.tenancy i row.tenancy } := by
  unfold book
  congr 1
  funext j
  by_cases hj : j = i
  · subst hj
    simp
  · simp [slots_setSlot_of_ne row hj, hj]

/-- Counters of a slot that holds a name are not part of the book. -/
lemma book_setSlot_of_name_eq {row : FakeIpSlot} (hname : row.name = (t.slots i).name)
    (hne : (t.slots i).name ≠ []) : (t.setSlot i row).book = t.book := by
  have hrow : row.tenancy = t.book.tenancy i := by
    simp [FakeIpSlot.tenancy, book, hname, hne]
  rw [book_setSlot, hrow, Function.update_eq_self]

/-- A claim is a lease. -/
lemma step_claim (hfree : (t.slots i).name = [] ∧ t.claimable i = true) (hname : name ≠ []) :
    Step t.quarantine t.book (t.claim i name).book := by
  obtain ⟨hempty, hclaim⟩ := hfree
  have hvacant : t.book.tenancy i =
      .vacant (if (t.slots i).usedOnce then (t.slots i).reusableAt else 0) := by
    simp [book, FakeIpSlot.tenancy, hempty]
  have hready : (if (t.slots i).usedOnce then (t.slots i).reusableAt else 0) ≤ t.book.clock := by
    unfold claimable at hclaim
    split_ifs at hclaim ⊢ with hexcl honce <;> simp_all [book]
  have hheld : ({ name, inflight := 0, lastUse := t.touch, reusableAt := 0, usedOnce := true } :
      FakeIpSlot).tenancy = .held name := by
    simp [FakeIpSlot.tenancy, hname]
  rw [claim, book_setSlot, hheld]
  exact Step.lease t.book name hvacant hready

/-- A retirement is a release. -/
lemma step_retire (hname : (t.slots i).name ≠ [])
    (hclock : t.allocations + t.quarantine < 2 ^ 64) :
    Step t.quarantine t.book (t.retire i).book := by
  have hheld : t.book.tenancy i = .held (t.slots i).name := book_tenancy_of_name rfl hname
  have hwrap : wrap64 (t.allocations + t.quarantine) = t.book.clock + t.quarantine :=
    Nat.mod_eq_of_lt hclock
  rw [retire, book_setSlot, hwrap]
  exact Step.release t.book hheld

/-- An eviction is a release, if there is anything to evict. -/
lemma steps_evict (hclock : t.allocations + t.quarantine < 2 ^ 64) :
    ReflTransGen (Step t.quarantine) t.book t.evict.book := by
  unfold evict
  split
  case h_1 victim hlru => exact ReflTransGen.single (step_retire (of_findLru hlru).1 hclock)
  case h_2 => exact ReflTransGen.refl

/-- An attempt to place a name advances the book by one tick. -/
lemma step_attempted (hclock : t.allocations + 1 < 2 ^ 64) :
    Step t.quarantine t.book t.attempted.book := by
  have hwrap : wrap64 (t.allocations + 1) = t.allocations + 1 := Nat.mod_eq_of_lt hclock
  have hbook : t.attempted.book = { t.book with clock := t.book.clock + 1 } := by
    simp only [attempted, book, hwrap]
  rw [hbook]
  exact Step.advance t.book 1

/-! ## Operations and runs -/

/-- Placing a new name: one tick, then a lease, or a release with or without a lease behind it. -/
lemma alloc_book (hname : name ≠ []) (hnew : t.findName name = none)
    (hclock : t.allocations + 1 + t.quarantine < 2 ^ 64) :
    ReflTransGen (Step t.quarantine) t.book (t.alloc name).1.book ∧
      (t.alloc name).1.allocations = t.allocations + 1 := by
  have htick : ReflTransGen (Step t.quarantine) t.book t.attempted.book :=
    ReflTransGen.single (step_attempted (by omega))
  have hattempted : t.attempted.allocations = t.allocations + 1 :=
    Nat.mod_eq_of_lt (by omega)
  have hevict : ReflTransGen (Step t.quarantine) t.attempted.book t.attempted.evict.book :=
    @steps_evict t.attempted (by rw [hattempted]; exact hclock)
  have hkeep : t.attempted.evict.allocations = t.allocations + 1 ∧
      t.attempted.evict.quarantine = t.quarantine := by
    rw [← hattempted]
    unfold evict
    split <;> exact ⟨rfl, rfl⟩
  rcases alloc_of_new hname hnew with ⟨i, hfree, halloc⟩ | ⟨i, -, hfree, halloc⟩ | ⟨-, -, halloc⟩
  · rw [halloc]
    exact ⟨htick.tail (step_claim (of_findFree hfree) hname), hattempted⟩
  · rw [halloc]
    have hclaim := step_claim (of_findFree hfree) hname
    rw [hkeep.2] at hclaim
    exact ⟨(htick.trans hevict).tail hclaim, hkeep.1⟩
  · rw [halloc]
    exact ⟨htick.trans hevict, hkeep.1⟩

/-- An operation on the counters of a slot is none of the book. -/
lemma book_of_ownedSlot {fake : Octets} (h : t.ownedSlot fake = some i) {row : FakeIpSlot}
    (hrow : row.name = (t.slots i).name) : (t.setSlot i row).book = t.book :=
  book_setSlot_of_name_eq hrow (ownedSlot_eq_some.mp h).2

/-- What leaves the book alone is an empty run of it. -/
lemma steps_of_book_eq {t' : FakeIpTable} (h : t'.book = t.book) :
    ReflTransGen (Step t.quarantine) t.book t'.book := by
  rw [h]

/-- Answering for a name that is in the table leaves the book alone. -/
lemma book_alloc_of_findName (hname : name ≠ []) {seen : Fin fakeipCapacity}
    (h : t.findName name = some seen) :
    (t.alloc name).1.book = t.book ∧ (t.alloc name).1.allocations = t.allocations := by
  rw [alloc_of_findName hname h]
  have hne : (t.slots seen).name ≠ [] := by rwa [name_of_findName h]
  exact ⟨@book_setSlot_of_name_eq { t with touch := wrap64 (t.touch + 1) } _ _ rfl hne, rfl⟩

/-- Pinning leaves the book alone. -/
lemma book_pin (fake : Octets) :
    (t.pin fake).1.book = t.book ∧ (t.pin fake).1.allocations = t.allocations := by
  unfold pin
  split
  case h_1 => exact ⟨rfl, rfl⟩
  case h_2 slot hslot => exact ⟨book_of_ownedSlot hslot rfl, rfl⟩

/-- Unpinning leaves the book alone. -/
lemma book_unpin (fake : Octets) :
    (t.unpin fake).1.book = t.book ∧ (t.unpin fake).1.allocations = t.allocations := by
  unfold unpin
  split
  case h_1 => exact ⟨rfl, rfl⟩
  case h_2 slot hslot =>
    split
    · exact ⟨rfl, rfl⟩
    · exact ⟨book_of_ownedSlot hslot rfl, rfl⟩

/-- Noting a touch leaves the book alone. -/
lemma book_noteTouched (fake : Octets) :
    (t.noteTouched fake).1.book = t.book ∧
      (t.noteTouched fake).1.allocations = t.allocations := by
  unfold noteTouched
  split
  case h_1 => exact ⟨rfl, rfl⟩
  case h_2 slot hslot =>
    have hsame := @book_of_ownedSlot { t with touch := wrap64 (t.touch + 1) } slot fake hslot
      { t.slots slot with lastUse := wrap64 (t.touch + 1) } rfl
    exact ⟨hsame, rfl⟩

/-- Excluding an address releases the name that holds it, if any. -/
lemma exclude_book (addr : Octets) (hclock : t.allocations + t.quarantine < 2 ^ 64) :
    ReflTransGen (Step t.quarantine) t.book (t.exclude addr).book ∧
      (t.exclude addr).allocations = t.allocations := by
  unfold exclude
  split
  case h_1 => exact ⟨ReflTransGen.refl, rfl⟩
  case h_2 slot hslot =>
    split
    · exact ⟨ReflTransGen.refl, rfl⟩
    · dsimp only
      split
      case isTrue hname =>
        have hrelease := @step_retire { t with excluded := _, exclusions := _ } slot hname hclock
        exact ⟨ReflTransGen.single hrelease, rfl⟩
      case isFalse => exact ⟨ReflTransGen.refl, rfl⟩

/-- Noting progress advances the clock of the book. -/
lemma noteProgress_book (n : ℕ) (hclock : t.allocations + n + t.quarantine < 2 ^ 64) :
    ReflTransGen (Step t.quarantine) t.book (t.step (.noteProgress n)).1.book ∧
      (t.step (.noteProgress n)).1.allocations = t.allocations + n := by
  have hwrap : wrap64 (t.allocations + n) = t.allocations + n := Nat.mod_eq_of_lt (by omega)
  change ReflTransGen _ _ { t with allocations := wrap64 (t.allocations + n) }.book ∧
    wrap64 (t.allocations + n) = t.allocations + n
  rw [hwrap]
  exact ⟨ReflTransGen.single (Step.advance t.book n), rfl⟩

/-- One operation is a run of the book, and advances its clock by the ticks of the operation. -/
theorem step_book (t : FakeIpTable) (op : FakeIpOp)
    (hclock : t.allocations + t.ticks op + t.quarantine < 2 ^ 64) :
    ReflTransGen (Step t.quarantine) t.book (t.step op).1.book ∧
      (t.step op).1.allocations = t.allocations + t.ticks op := by
  cases op with
  | alloc name =>
    by_cases hname : name = []
    · simp [step, alloc, ticks, hname, ReflTransGen.refl]
    cases h : t.findName name with
    | some seen =>
      obtain ⟨hbook, hallocations⟩ := book_alloc_of_findName hname h
      have hticks : t.ticks (.alloc name) = 0 := by simp [ticks, hname, h]
      rw [hticks]
      exact ⟨steps_of_book_eq hbook, hallocations⟩
    | none =>
      have hticks : t.ticks (.alloc name) = 1 := by simp [ticks, hname, h]
      rw [hticks] at hclock ⊢
      exact alloc_book hname h hclock
  | lookup fake => exact ⟨ReflTransGen.refl, rfl⟩
  | pin fake => exact (book_pin fake).imp steps_of_book_eq id
  | unpin fake => exact (book_unpin fake).imp steps_of_book_eq id
  | exclude addr => exact exclude_book addr hclock
  | noteTouched fake => exact (book_noteTouched fake).imp steps_of_book_eq id
  | noteProgress n => exact noteProgress_book n hclock

/-- A run of the table is a run of the book, and advances its clock by the ticks of the run. -/
theorem run_book (ops : List FakeIpOp) (t : FakeIpTable)
    (hclock : t.allocations + t.totalTicks ops + t.quarantine < 2 ^ 64) :
    ReflTransGen (Step t.quarantine) t.book (Mealy.run step t ops).book ∧
      (Mealy.run step t ops).allocations = t.allocations + t.totalTicks ops := by
  induction ops generalizing t with
  | nil => exact ⟨ReflTransGen.refl, rfl⟩
  | cons op ops ih =>
    simp only [totalTicks] at hclock ⊢
    obtain ⟨hstep, hclock₁⟩ := step_book t op (by omega)
    have hrest := ih (t.step op).1 (by rw [hclock₁, quarantine_step]; omega)
    rw [quarantine_step, hclock₁] at hrest
    exact ⟨hstep.trans hrest.1, by rw [Mealy.run_cons, hrest.2]; omega⟩

/-- **No misroute.** An address that answered one name and answers another later has waited in
between: the run gave the allocation clock at least the ticks of the quarantine. -/
theorem quarantine_le_ticks_of_lookup_changed (excluded : Octets) (q : ℕ)
    (ops₁ ops₂ : List FakeIpOp) (a : Octets) (n m : Bytes)
    (hclock : (create excluded q).totalTicks (ops₁ ++ ops₂) + q < 2 ^ 64)
    (hn : (Mealy.run step (create excluded q) ops₁).lookup a = some n)
    (hm : (Mealy.run step (create excluded q) (ops₁ ++ ops₂)).lookup a = some m) (hne : n ≠ m) :
    q ≤ (Mealy.run step (create excluded q) ops₁).totalTicks ops₂ ∧
      (Mealy.run step (create excluded q) ops₁).allocations + q ≤
        (Mealy.run step (create excluded q) (ops₁ ++ ops₂)).allocations := by
  have hstart : (create excluded q).quarantine = q ∧ (create excluded q).allocations = 0 :=
    exclude_fields { quarantine := q } excluded
  rw [totalTicks_append] at hclock
  obtain ⟨-, hclock₁⟩ := run_book ops₁ (create excluded q) (by rw [hstart.2, hstart.1]; omega)
  have hq := quarantine_run (create excluded q) ops₁
  rw [Mealy.run_append] at hm ⊢
  generalize Mealy.run step (create excluded q) ops₁ = t₁ at *
  rw [hstart.1] at hq
  obtain ⟨hrun, hclock₂⟩ := run_book ops₂ t₁ (by rw [hclock₁, hq, hstart.2]; omega)
  rw [hq] at hrun
  obtain ⟨i, hi, hname, hn0⟩ := lookup_eq_some.mp hn
  obtain ⟨j, hj, hname', hm0⟩ := lookup_eq_some.mp hm
  obtain rfl : i = j := fakeIpAt_injective (hi.trans hj.symm)
  have hheld : t₁.book.tenancy i = .held n := book_tenancy_of_name hname hn0
  have hheld' : (Mealy.run step t₁ ops₂).book.tenancy i = .held m :=
    book_tenancy_of_name hname' hm0
  have hadvance : t₁.allocations + q ≤ (Mealy.run step t₁ ops₂).allocations :=
    clock_add_le_of_reassigned hrun hheld hheld' hne
  refine ⟨?_, hadvance⟩
  rw [hclock₂] at hadvance
  omega

/-- All but the first slot excluded, and a quarantine of three: the address of `a` goes to `b` at
the second attempt, three ticks after the first one evicted `a`. -/
theorem quarantine_le_ticks_of_lookup_changed_a_b :
    ∃ others : List FakeIpOp,
      (Mealy.run step (create ⟨0, 0, 0, 0⟩ 3) (others ++ [.alloc [97]])).lookup (fakeIpAt 0) =
          some [97] ∧
        3 ≤ (Mealy.run step (create ⟨0, 0, 0, 0⟩ 3) (others ++ [.alloc [97]])).totalTicks
          [.alloc [98], .noteProgress 3, .alloc [98]] := by
  have hbefore : (Mealy.run step (create ⟨0, 0, 0, 0⟩ 3) (excludeFrom 1 ++ [.alloc [97]])).lookup
      (fakeIpAt 0) = some [97] := by
    rw [Mealy.run_append, run_excludeFrom]
    decide
  have hafter : (Mealy.run step (create ⟨0, 0, 0, 0⟩ 3) ((excludeFrom 1 ++ [.alloc [97]]) ++
      [.alloc [98], .noteProgress 3, .alloc [98]])).lookup (fakeIpAt 0) = some [98] := by
    rw [List.append_assoc, Mealy.run_append, run_excludeFrom]
    decide
  have hclock : (create ⟨0, 0, 0, 0⟩ 3).totalTicks ((excludeFrom 1 ++ [.alloc [97]]) ++
      [.alloc [98], .noteProgress 3, .alloc [98]]) + 3 < 2 ^ 64 := by
    rw [List.append_assoc, totalTicks_append, totalTicks_excludeFrom, run_excludeFrom]
    decide
  have hne : ([97] : Bytes) ≠ [98] := by decide
  have hadvance := quarantine_le_ticks_of_lookup_changed _ _ _ _ _ _ _ hclock hbefore hafter hne
  exact ⟨excludeFrom 1, hbefore, hadvance.1⟩

end FakeIpTable

end Encapsule
