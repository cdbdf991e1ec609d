import Encapsule.Injectee.UdpLifecycle

/-!
# What the reaper takes and what it leaves

The reaper of `udp_association_table` looks at each row once, and what it does to one row has no
bearing on the next (`reapIdle_eq`): it takes the associations that nobody holds and that have been
idle for thirty ticks, and nothing else.  The count of those who hold an association is the number
of its successful acquires less that of its releases for as long as it is there (`heldOrGone_run`),
so that what is in flight is never closed.
-/

namespace Encapsule

namespace UdpAssociationTable

variable {t : UdpAssociationTable} {i j : Fin udpAssociationMax} {r : UdpAssociationRef}
  {state : UdpAssociation} {tick : ℕ} {n : ℤ}

/-! ## The scan -/

/-- A row that is looked at. -/
lemma rows_reapRow (tick : ℕ) (t : UdpAssociationTable) (i j : Fin udpAssociationMax) :
    (reapRow tick t i).1.rows j =
      if j = i ∧ t.idle tick i = true then { t.rows i with state := {}, used := false }
      else t.rows j := by
  unfold reapRow
  by_cases hidle : t.idle tick i = true
  · rw [if_pos hidle]
    by_cases hj : j = i
    · subst hj
      rw [if_pos ⟨rfl, hidle⟩]
      exact rows_setRow_self _
    · rw [if_neg fun h => hj h.1]
      exact rows_setRow_of_ne _ hj
  · rw [if_neg hidle, if_neg fun h => hidle h.2]

/-- Looking at a row has no bearing on another. -/
lemma rows_reapRow_of_ne (h : j ≠ i) : (reapRow tick t i).1.rows j = t.rows j := by
  rw [rows_reapRow, if_neg fun hji => h hji.1]

/-- The scan closes the idle rows and leaves the others. -/
lemma rows_run_reapRow (tick : ℕ) (t : UdpAssociationTable) {l : List (Fin udpAssociationMax)}
    (hnodup : l.Nodup) (j : Fin udpAssociationMax) :
    (Mealy.run (reapRow tick) t l).rows j =
      if j ∈ l ∧ t.idle tick j = true then { t.rows j with state := {}, used := false }
      else t.rows j := by
  induction l generalizing t with
  | nil => simp
  | cons i l ih =>
    obtain ⟨hi, hnodup⟩ := List.nodup_cons.mp hnodup
    rw [Mealy.run_cons, ih _ hnodup]
    by_cases hji : j = i
    · subst hji
      rw [if_neg fun h => hi h.1, rows_reapRow]
      simp
    · have hrow : (reapRow tick t i).1.rows j = t.rows j := rows_reapRow_of_ne hji
      simp only [idle, hrow, List.mem_cons, hji, false_or]

/-- The scan hands back the associations of the idle rows, in the order of the rows. -/
lemma collect_reaped (tick : ℕ) (t : UdpAssociationTable) {l : List (Fin udpAssociationMax)}
    (hnodup : l.Nodup) :
    Mealy.collect (reapRow tick) (reaped tick) t l =
      (l.filter (t.idle tick)).map fun i => (t.refOf i, (t.rows i).state) := by
  induction l generalizing t with
  | nil => rfl
  | cons i l ih =>
    obtain ⟨hi, hnodup⟩ := List.nodup_cons.mp hnodup
    have hrest (j : Fin udpAssociationMax) (hj : j ∈ l) :
        (reapRow tick t i).1.rows j = t.rows j := by
      refine rows_reapRow_of_ne ?_
      rintro rfl
      exact hi hj
    have hfilter : l.filter ((reapRow tick t i).1.idle tick) = l.filter (t.idle tick) := by
      refine List.filter_congr fun j hj => ?_
      simp only [idle, hrest j hj]
    have hmap : (l.filter (t.idle tick)).map
        (fun j => ((reapRow tick t i).1.refOf j, ((reapRow tick t i).1.rows j).state)) =
          (l.filter (t.idle tick)).map fun j => (t.refOf j, (t.rows j).state) := by
      refine List.map_congr_left fun j hj => ?_
      simp only [refOf, hrest j (List.mem_of_mem_filter hj)]
    rw [Mealy.collect, ih _ hnodup, hfilter, hmap, List.filter_cons]
    unfold reaped
    split_ifs <;> rfl

/-- The reaper, row by row. -/
lemma rows_reapIdle (t : UdpAssociationTable) (tick : ℕ) (j : Fin udpAssociationMax) :
    (t.reapIdle tick).1.rows j =
      if t.idle tick j = true then { t.rows j with state := {}, used := false } else t.rows j := by
  unfold reapIdle
  rw [rows_run_reapRow tick t (List.nodup_finRange udpAssociationMax)]
  exact if_congr (by simp only [List.mem_finRange, true_and]) rfl rfl

/-- What the reaper hands back. -/
lemma handedBack_reapIdle (t : UdpAssociationTable) (tick : ℕ) :
    t.handedBack (.reapIdle tick) =
      ((List.finRange udpAssociationMax).filter (t.idle tick)).map fun i =>
        (t.refOf i, (t.rows i).state) :=
  collect_reaped tick t (List.nodup_finRange udpAssociationMax)

/-- What the reaper returns. -/
lemma reapIdle_eq (t : UdpAssociationTable) (tick : ℕ) :
    (t.reapIdle tick).2 =
      ((List.finRange udpAssociationMax).filter (t.idle tick)).map fun i => (t.rows i).state := by
  have hanswer := (died_eq_handedBack t {} tick).2
  rw [handedBack_reapIdle, List.map_map] at hanswer
  exact UdpAssociationAnswer.died.inj hanswer

/-! ## Those who hold an association -/

/-- The successful acquires of a reference. -/
def acquires (r : UdpAssociationRef) (log : List (UdpAssociationOp × UdpAssociationAnswer)) : ℕ :=
  log.countP fun e => e = (.acquire r, .flag true)

/-- The releases of a reference. -/
def releases (r : UdpAssociationRef) (log : List (UdpAssociationOp × UdpAssociationAnswer)) : ℕ :=
  log.countP fun e =>
    match e.1 with
    | .release ref _ => ref = r
    | _ => false

/-- The association of a reference is there, and `n` hold it. -/
def HeldBy (r : UdpAssociationRef) (n : ℤ) (t : UdpAssociationTable) : Prop :=
  ∃ i, (t.rows i).used = true ∧ t.refOf i = r ∧ (t.rows i).state.refcount = n

/-- An operation hands the association of a reference back. -/
def HandsBack (r : UdpAssociationRef) (op : UdpAssociationOp) (t : UdpAssociationTable) : Prop :=
  ∃ e ∈ t.handedBack op, e.1 = r

/-- The operation leaves the row of an association as it is, but for its count and its time. -/
lemma HeldBy.of_setState {m : ℤ} (hused : (t.rows i).used = true) (href : t.refOf i = r)
    (hcount : state.refcount = m) : HeldBy r m (t.setState i state) := by
  have hrow : (t.setState i state).rows i = { t.rows i with state } := rows_setRow_self _
  refine ⟨i, ?_, ?_, ?_⟩
  · rw [hrow]
    exact hused
  · rw [← href]
    unfold refOf
    rw [hrow]
  · rw [hrow]
    exact hcount

/-- What happens to another row is nothing to an association. -/
lemma HeldBy.of_rows_eq {t' : UdpAssociationTable} (hused : (t.rows i).used = true)
    (href : t.refOf i = r) (hcount : (t.rows i).state.refcount = n)
    (hrow : t'.rows i = t.rows i) : HeldBy r n t' := by
  refine ⟨i, ?_, ?_, ?_⟩
  · rw [hrow]
    exact hused
  · rw [← href]
    unfold refOf
    rw [hrow]
  · rw [hrow]
    exact hcount

/-- A reference that is not that of a row leads elsewhere. -/
lemma ne_of_rowOf {ref : UdpAssociationRef} (href : t.refOf i = r) (hne : ref ≠ r)
    (hj : t.rowOf ref = some j) : i ≠ j := by
  rintro rfl
  exact hne ((rowOf_eq_some.mp hj).2.symm.trans href)

/-- An operation that neither acquires nor releases the association, nor hands back another, and
leaves those who hold it alone. -/
lemma heldBy_of_quiet {op : UdpAssociationOp} {answer : UdpAssociationAnswer}
    {t' : UdpAssociationTable} (h : HeldBy r n t') (hback : ¬HandsBack r op t)
    (hquiet : acquires r [(op, answer)] = 0 ∧ releases r [(op, answer)] = 0) :
    HeldBy r (n + acquires r [(op, answer)] - releases r [(op, answer)]) t' ∧
      ¬HandsBack r op t := by
  rw [hquiet.1, hquiet.2]
  simpa using ⟨h, hback⟩

/-- A release of an association that others still hold takes one of them away, and that of the last
closes it. -/
lemma HeldBy.release (hused : (t.rows i).used = true) (href : t.refOf i = r)
    (hcount : (t.rows i).state.refcount = n) (tick : ℕ) :
    HeldBy r (n - 1) (t.release r tick).1 ∧ (t.release r tick).2 = none ∨
      (t.release r tick).2 ≠ none ∧ n - 1 ≤ 0 := by
  unfold UdpAssociationTable.release
  rw [rowOf_eq_some.mpr ⟨hused, href⟩]
  dsimp only
  by_cases hheld : 0 < (t.rows i).state.refcount
  · rw [if_pos hheld]
    by_cases hmore : 0 < (t.rows i).state.refcount - 1
    · left
      rw [if_pos hmore]
      exact ⟨HeldBy.of_setState hused href (by rw [← hcount]), rfl⟩
    · right
      rw [if_neg hmore]
      exact ⟨Option.some_ne_none _, by omega⟩
  · right
    rw [if_neg hheld, if_neg hheld]
    exact ⟨Option.some_ne_none _, by omega⟩

/-- A release of another association leaves a row alone. -/
lemma rows_release_of_ne {ref : UdpAssociationRef} (href : t.refOf i = r) (hne : ref ≠ r)
    (tick : ℕ) : (t.release ref tick).1.rows i = t.rows i := by
  rcases release_cases t ref tick with h | ⟨j, state, -, hj, -, h⟩
  · rw [h]
  · have hij : i ≠ j := by
      rintro rfl
      exact hne (hj.symm.trans href)
    have hset : (t.setState j state).rows i = t.rows i := rows_setRow_of_ne _ hij
    rcases h with h | h
    · rw [h]
      exact hset
    · rw [h]
      exact (rows_setRow_of_ne _ hij).trans hset

/-- A row whose count stays is rewritten. -/
lemma heldBy_setState {j : Fin udpAssociationMax} (h : HeldBy r n t)
    (hsame : state.refcount = (t.rows j).state.refcount) : HeldBy r n (t.setState j state) := by
  obtain ⟨i, hused, href, hcount⟩ := h
  by_cases hij : i = j
  · subst hij
    exact HeldBy.of_setState hused href (hsame.trans hcount)
  · exact HeldBy.of_rows_eq hused href hcount (rows_setRow_of_ne _ hij)

/-- Opening an association leaves those who hold another one, or the same one, alone. -/
lemma heldBy_open (h : HeldBy r n t) (control relay : Uintptr) (bound : UdpEndpoint) (tick : ℕ) :
    HeldBy r n (t.open control relay bound tick).1 := by
  rcases open_cases t control relay bound tick with
    ⟨j, -, -, hopen⟩ | ⟨j, hunused, -, hopen⟩ | ⟨-, hopen⟩
  · rw [hopen]
    exact heldBy_setState h rfl
  · rw [hopen]
    obtain ⟨i, hused, href, hcount⟩ := h
    have hij : i ≠ j := by
      rintro rfl
      rw [hunused] at hused
      cases hused
    exact HeldBy.of_rows_eq hused href hcount (rows_setRow_of_ne _ hij)
  · rw [hopen]
    exact h

/-- A reference that is used leaves those who hold the association alone. -/
lemma heldBy_touch (h : HeldBy r n t) (ref : UdpAssociationRef) (tick : ℕ) :
    HeldBy r n (t.touch ref tick) := by
  unfold touch
  cases t.rowOf ref with
  | none => exact h
  | some j => exact heldBy_setState h rfl

/-- An association that is acquired has one more to hold it. -/
lemma heldBy_acquire (h : HeldBy r n t) : HeldBy r (n + 1) (t.acquire r).1 := by
  obtain ⟨i, hused, href, hcount⟩ := h
  unfold acquire
  rw [rowOf_eq_some.mpr ⟨hused, href⟩]
  exact HeldBy.of_setState hused href (congrArg (· + 1) hcount)

/-- An acquisition of another association leaves those who hold this one alone. -/
lemma heldBy_acquire_of_ne {ref : UdpAssociationRef} (h : HeldBy r n t) (hne : ref ≠ r) :
    HeldBy r n (t.acquire ref).1 := by
  obtain ⟨i, hused, href, hcount⟩ := h
  unfold acquire
  cases hrow : t.rowOf ref with
  | none => exact ⟨i, hused, href, hcount⟩
  | some j =>
    exact HeldBy.of_rows_eq hused href hcount (rows_setRow_of_ne _ (ne_of_rowOf href hne hrow))

/-- The reaper hands an association back if its row is idle. -/
lemma handsBack_reapIdle_iff (href : t.refOf i = r) :
    HandsBack r (.reapIdle tick) t ↔ t.idle tick i = true := by
  unfold HandsBack
  rw [handedBack_reapIdle]
  constructor
  · rintro ⟨e, he, heq⟩
    obtain ⟨j, hj, rfl⟩ := List.mem_map.mp he
    obtain rfl := refOf_injective (heq.trans href.symm)
    exact (List.mem_filter.mp hj).2
  · intro hidle
    exact ⟨_, List.mem_map.mpr ⟨i, List.mem_filter.mpr ⟨List.mem_finRange i, hidle⟩, rfl⟩, href⟩

/-- One operation counts those who hold an association right, or hands it back when nobody does. -/
lemma HeldBy.step (h : HeldBy r n t) (op : UdpAssociationOp) :
    HeldBy r (n + acquires r [(op, (t.step op).2)] - releases r [(op, (t.step op).2)])
        (t.step op).1 ∧ ¬HandsBack r op t ∨
      HandsBack r op t ∧
        n + acquires r [(op, (t.step op).2)] - releases r [(op, (t.step op).2)] ≤ 0 := by
  cases op with
  | «open» control relay bound tick =>
    left
    exact heldBy_of_quiet (heldBy_open h control relay bound tick)
      (by simp [HandsBack, handedBack]) (by simp [acquires, releases])
  | get ref =>
    left
    exact heldBy_of_quiet h (by simp [HandsBack, handedBack]) (by simp [acquires, releases])
  | touch ref tick =>
    left
    exact heldBy_of_quiet (heldBy_touch h ref tick) (by simp [HandsBack, handedBack])
      (by simp [acquires, releases])
  | acquire ref =>
    left
    by_cases hr : ref = r
    · subst hr
      obtain ⟨i, hused, href, hcount⟩ := h
      have hanswer : (t.step (.acquire ref)).2 = .flag true := by
        simp [UdpAssociationTable.step, acquire, rowOf_eq_some.mpr ⟨hused, href⟩]
      refine ⟨?_, by simp [HandsBack, handedBack]⟩
      have hheld : HeldBy ref (n + 1) (t.step (.acquire ref)).1 :=
        heldBy_acquire ⟨i, hused, href, hcount⟩
      rw [hanswer]
      simpa [acquires, releases] using hheld
    · exact heldBy_of_quiet (heldBy_acquire_of_ne h hr) (by simp [HandsBack, handedBack])
        (by simp [acquires, releases, hr])
  | release ref tick =>
    obtain ⟨i, hused, href, hcount⟩ := h
    by_cases hr : ref = r
    · subst hr
      have hacquires : acquires ref [(.release ref tick, (t.step (.release ref tick)).2)] = 0 := by
        simp [acquires]
      have hreleases : releases ref [(.release ref tick, (t.step (.release ref tick)).2)] = 1 := by
        simp [releases]
      have hback : HandsBack ref (.release ref tick) t ↔ (t.release ref tick).2 ≠ none := by
        simp [HandsBack, handedBack, Option.ne_none_iff_exists']
      rw [hacquires, hreleases, hback]
      change HeldBy ref _ (t.release ref tick).1 ∧ _ ∨ _
      simpa using HeldBy.release hused href hcount tick
    · left
      refine heldBy_of_quiet ?_ ?_ (by simp [acquires, releases, hr])
      · exact HeldBy.of_rows_eq hused href hcount (rows_release_of_ne href hr tick)
      · rintro ⟨e, he, heq⟩
        obtain ⟨a, -, rfl⟩ := List.mem_map.mp he
        exact hr heq
  | reapIdle tick =>
    obtain ⟨i, hused, href, hcount⟩ := h
    by_cases hidle : t.idle tick i = true
    · right
      have hnobody : (t.rows i).state.refcount ≤ 0 := by
        unfold idle at hidle
        simp only [Bool.and_eq_true, decide_eq_true_eq] at hidle
        exact hidle.1.1.2
      refine ⟨(handsBack_reapIdle_iff href).mpr hidle, ?_⟩
      have hacquires : acquires r [(.reapIdle tick, (t.step (.reapIdle tick)).2)] = 0 := by
        simp [acquires]
      have hreleases : releases r [(.reapIdle tick, (t.step (.reapIdle tick)).2)] = 0 := by
        simp [releases]
      rw [hacquires, hreleases, ← hcount]
      simpa using hnobody
    · left
      refine heldBy_of_quiet ?_ (fun hback => hidle ((handsBack_reapIdle_iff href).mp hback))
        (by simp [acquires, releases])
      refine HeldBy.of_rows_eq hused href hcount ?_
      rw [UdpAssociationTable.step, rows_reapIdle, if_neg hidle]

/-- An association is there, held by as many as have acquired it and not released it, or it is gone
and has been released as often as it was acquired, or more often. -/
def HeldOrGone (r : UdpAssociationRef) (log : List (UdpAssociationOp × UdpAssociationAnswer))
    (t : UdpAssociationTable) : Prop :=
  HeldBy r (acquires r log - releases r log) t ∨
    Dead r t ∧ (acquires r log : ℤ) - releases r log ≤ 0

/-- An association is handed back exactly if an ending of it is recorded. -/
lemma handsBack_iff {op : UdpAssociationOp} :
    HandsBack r op t ↔ endings r (t.handedBack op) ≠ [] := by
  simp [HandsBack, endings, List.filterMap_eq_nil_iff]

/-- What is dead stays dead, and is not handed back or acquired. -/
lemma Dead.step (h : Dead r t) (op : UdpAssociationOp) :
    Dead r (t.step op).1 ∧ ¬HandsBack r op t ∧ acquires r [(op, (t.step op).2)] = 0 := by
  obtain ⟨hdead, hnothing⟩ := (ages_step (w := (0, 0, {})) t op).2 h
  refine ⟨hdead, fun hback => handsBack_iff.mp hback hnothing, ?_⟩
  cases op with
  | acquire ref =>
    by_cases hr : ref = r
    · subst hr
      have hfails := (noop_of_get_eq_none h.get_eq_none 0).1
      simp [acquires, UdpAssociationTable.step, hfails]
    · simp [acquires, hr]
  | _ => simp [acquires]

/-- One operation keeps the account of an association, and hands it back only when the releases,
its own included, have made up for the acquires. -/
lemma HeldOrGone.step {log : List (UdpAssociationOp × UdpAssociationAnswer)}
    (h : HeldOrGone r log t) (op : UdpAssociationOp) :
    HeldOrGone r (log ++ [(op, (t.step op).2)]) (t.step op).1 ∧
      (HandsBack r op t → acquires r (log ++ [(op, (t.step op).2)]) ≤
        releases r (log ++ [(op, (t.step op).2)])) := by
  have hacquires : acquires r (log ++ [(op, (t.step op).2)]) =
      acquires r log + acquires r [(op, (t.step op).2)] := List.countP_append
  have hreleases : releases r (log ++ [(op, (t.step op).2)]) =
      releases r log + releases r [(op, (t.step op).2)] := List.countP_append
  unfold HeldOrGone
  rw [hacquires, hreleases, Nat.cast_add, Nat.cast_add]
  rcases h with hheld | ⟨hdead, hcount⟩
  · rcases hheld.step op with ⟨hheld', hback⟩ | ⟨hback, hnobody⟩
    · refine ⟨Or.inl ?_, fun hback' => absurd hback' hback⟩
      have hsum : (acquires r log : ℤ) - releases r log + acquires r [(op, (t.step op).2)] -
          releases r [(op, (t.step op).2)] = acquires r log + acquires r [(op, (t.step op).2)] -
            (releases r log + releases r [(op, (t.step op).2)]) := by omega
      rwa [hsum] at hheld'
    · obtain ⟨i, hused, href, -⟩ := hheld
      have hdead : Dead r (t.step op).1 := by
        have hlive : Live r (t.rows i).state.terms t := ⟨i, hused, href, rfl⟩
        rcases (ages_step t op).1 hlive with ⟨-, hnothing⟩ | ⟨hdead, -⟩
        · exact absurd hnothing (handsBack_iff.mp hback)
        · exact hdead
      refine ⟨Or.inr ⟨hdead, ?_⟩, fun _ => ?_⟩
      · omega
      · omega
  · obtain ⟨hdead', hback, hnone⟩ := hdead.step op
    rw [hnone]
    refine ⟨Or.inr ⟨hdead', ?_⟩, fun hback' => absurd hback' hback⟩
    omega

/-- The account of an association is kept from the moment it was created. -/
lemma heldOrGone_run {control relay : Uintptr} {bound : UdpEndpoint} {tick : ℕ}
    (h : r ∈ t.created (.open control relay bound tick)) (post : List UdpAssociationOp) :
    HeldOrGone r (Mealy.log UdpAssociationTable.step (t.open control relay bound tick).1 post)
      (Mealy.run UdpAssociationTable.step (t.open control relay bound tick).1 post) := by
  refine Mealy.log_invariant (P := HeldOrGone r) ?_ (fun _ _ op hacc => (hacc.step op).1) post
  obtain ⟨i, hrow, href⟩ := exists_openedRow h
  refine Or.inl ⟨i, ?_, href, ?_⟩
  · rw [hrow]
    rfl
  · rw [hrow]
    rfl

/-! ## Whole runs -/

/-- No association is held by fewer than nobody. -/
def NoneNegative (t : UdpAssociationTable) : Prop := ∀ i, 0 ≤ (t.rows i).state.refcount

/-- A row may be rewritten with a count that is not negative. -/
lemma NoneNegative.setRow (h : t.NoneNegative) {row : UdpAssociationRow}
    (hrow : 0 ≤ row.state.refcount) : (t.setRow i row).NoneNegative := by
  intro j
  by_cases hj : j = i
  · subst hj
    rwa [rows_setRow_self]
  · rw [rows_setRow_of_ne row hj]
    exact h j

/-- One operation leaves no count negative. -/
lemma NoneNegative.step (h : t.NoneNegative) (op : UdpAssociationOp) :
    (t.step op).1.NoneNegative := by
  cases op with
  | «open» control relay bound tick =>
    change (t.open control relay bound tick).1.NoneNegative
    rcases open_cases t control relay bound tick with
      ⟨i, -, -, hopen⟩ | ⟨i, -, -, hopen⟩ | ⟨-, hopen⟩
    · rw [hopen]
      exact h.setRow (h i)
    · rw [hopen]
      exact h.setRow le_rfl
    · rw [hopen]
      exact h
  | get ref => exact h
  | touch ref tick =>
    change (t.touch ref tick).NoneNegative
    unfold touch
    split
    · exact h
    · exact h.setRow (h _)
  | acquire ref =>
    change (t.acquire ref).1.NoneNegative
    unfold acquire
    split
    · exact h
    · exact h.setRow (Int.add_nonneg (h _) Int.one_nonneg)
  | release ref tick =>
    change (t.release ref tick).1.NoneNegative
    unfold UdpAssociationTable.release
    split
    · exact h
    · rename_i i _
      have hi := h i
      have hclose (state : UdpAssociation) (hstate : 0 ≤ state.refcount) :
          ((t.setState i state).closeRow i).NoneNegative :=
        NoneNegative.setRow (h.setRow hstate) le_rfl
      dsimp only
      split_ifs with hheld hmore
      · exact h.setRow hmore.le
      · refine hclose _ ?_
        dsimp only
        omega
      · exact hclose _ hi
  | reapIdle tick =>
    intro i
    rw [UdpAssociationTable.step, rows_reapIdle]
    split_ifs
    · exact le_rfl
    · exact h i

/-- The reaper takes the association in a row: nobody holds it, and it was last used at `tick` or
before, thirty ticks ago or more. -/
def Expired (t : UdpAssociationTable) (tick : ℕ) (i : Fin udpAssociationMax) : Prop :=
  (t.rows i).used = true ∧ (t.rows i).state.refcount = 0 ∧ (t.rows i).state.lastUse ≤ tick ∧
    30 ≤ tick - (t.rows i).state.lastUse

instance (t : UdpAssociationTable) (tick : ℕ) (i : Fin udpAssociationMax) :
    Decidable (t.Expired tick i) :=
  inferInstanceAs (Decidable (_ ∧ _ ∧ _ ∧ _))

/-- What is idle is expired, where no count is negative. -/
lemma NoneNegative.idle_iff (h : t.NoneNegative) : t.idle tick i = true ↔ t.Expired tick i := by
  have hi := h i
  unfold idle Expired udpIdleLimitTicks
  simp only [Bool.and_eq_true, decide_eq_true_eq, and_assoc]
  have hzero : (t.rows i).state.refcount ≤ 0 ↔ (t.rows i).state.refcount = 0 := by omega
  rw [hzero]

/-- **Nothing in flight is closed, nothing idle is kept.** In every run: an operation does not hand
back an association whose successful acquires since it was opened exceed its releases; the reaper
returns exactly the expired associations, each once, leaves all other rows as they are and finds
nothing the second time; and nothing expires before it was last used. -/
theorem held_kept_idle_reaped (pre : List UdpAssociationOp) :
    let t := Mealy.run step {} pre
    (∀ control relay bound tick, ∀ r ∈ t.created (.open control relay bound tick), ∀ post op,
      let opened := (t.open control relay bound tick).1
      let now := Mealy.run step opened post
      let log := Mealy.log step opened (post ++ [op])
      releases r log < acquires r log → ∀ e ∈ now.handedBack op, e.1 ≠ r) ∧
    (∀ r tick,
      (t.step (.release r tick)).2 = .died ((t.handedBack (.release r tick)).map Prod.snd) ∧
        (t.step (.reapIdle tick)).2 = .died ((t.handedBack (.reapIdle tick)).map Prod.snd)) ∧
    ∀ tick,
      (t.reapIdle tick).2 =
          ((List.finRange udpAssociationMax).filter fun i => t.Expired tick i).map
            (fun i => (t.rows i).state) ∧
        (∀ i, t.Expired tick i → ((t.reapIdle tick).1.rows i).used = false) ∧
        (∀ i, ¬t.Expired tick i → (t.reapIdle tick).1.rows i = t.rows i) ∧
        ((t.reapIdle tick).1.reapIdle tick).2 = [] ∧
        ∀ i, tick < (t.rows i).state.lastUse → (t.reapIdle tick).1.rows i = t.rows i := by
  intro t
  have hcounts : t.NoneNegative :=
    Mealy.run_invariant (P := NoneNegative) (fun _ op h => h.step op) (fun _ => le_rfl) pre
  have hkept (tick : ℕ) (i : Fin udpAssociationMax) (h : ¬t.Expired tick i) :
      (t.reapIdle tick).1.rows i = t.rows i := by
    rw [rows_reapIdle, if_neg fun hidle => h (hcounts.idle_iff.mp hidle)]
  refine ⟨?_, died_eq_handedBack t,
    fun tick => ⟨?_, fun i hi => ?_, hkept tick, ?_, fun i hi => ?_⟩⟩
  · intro control relay bound tick r hr post op opened now log hmore e he heq
    have hacc := ((heldOrGone_run hr post).step op).2 ⟨e, he, heq⟩
    rw [← Mealy.log_concat] at hacc
    exact Nat.not_le.mpr hmore hacc
  · rw [reapIdle_eq]
    congr 1
    refine List.filter_congr fun i _ => ?_
    rw [Bool.eq_iff_iff, hcounts.idle_iff, decide_eq_true_eq]
  · rw [rows_reapIdle, if_pos (hcounts.idle_iff.mpr hi)]
  · rw [reapIdle_eq, List.map_eq_nil_iff, List.filter_eq_nil_iff]
    intro i _ hidle
    unfold idle at hidle
    rw [rows_reapIdle] at hidle
    split_ifs at hidle with hfirst
    · simp at hidle
    · exact hfirst hidle
  · refine hkept tick i fun hexpired => ?_
    exact Nat.not_le.mpr hi hexpired.2.2.1

/-- An association acquired twice and released once stays when the reaper comes. -/
theorem held_kept_idle_reaped_busy :
    let opened := (UdpAssociationTable.open {} 7 8 {} 0).1
    let now := Mealy.run step opened [.acquire ⟨0, 1⟩, .acquire ⟨0, 1⟩, .release ⟨0, 1⟩ 1]
    ∀ e ∈ now.handedBack (.reapIdle 100000), e.1 ≠ ⟨0, 1⟩ := by
  intro opened now
  have hcreated : (⟨0, 1⟩ : UdpAssociationRef) ∈ created {} (.open 7 8 {} 0) := by decide
  exact (held_kept_idle_reaped []).1 7 8 {} 0 ⟨0, 1⟩ hcreated
    [.acquire ⟨0, 1⟩, .acquire ⟨0, 1⟩, .release ⟨0, 1⟩ 1] (.reapIdle 100000) (by decide)

end UdpAssociationTable

end Encapsule
