import Mathlib.Data.Fintype.Card
import Encapsule.Foundation.RetiredRing
import Encapsule.Injectee.UdpAdmission

/-!
# The table as a ring of retired sockets

Which sockets `udp_state_table` tracks and which it keeps out is a ring in the sense of
`RetiredRing`: the clock is the count of insertions, the live keys are the tracked sockets, and
`retire` is what it says (`step_ring`).  The quarantine and the bound on the list of retired keys
are facts about rings; with them go the invariants of the rows.

One insertion is missing from the quarantine: the clock is advanced before it is compared, so that
the last of the insertions that a closed socket value has to wait for is one at which it may come
back (`keptOut_iff`).
-/

namespace Encapsule

open RetiredRing

namespace UdpStateTable

variable {t t' : UdpStateTable} {op : UdpOp} {i slot : Fin udpStateMaxRows} {v : Uintptr}
  {tick : ℕ}

/-! ## Rows in use -/

/-- The rows in use. -/
def usedRows (t : UdpStateTable) : Finset (Fin udpStateMaxRows) :=
  Finset.univ.filter fun i => (t.rows i).used

/-- The sockets that have a row. -/
def tracked (t : UdpStateTable) : Finset Uintptr := t.usedRows.image fun i => (t.rows i).state.app

/-- The table as a ring of retired sockets. -/
def ring (t : UdpStateTable) : KeyRing Uintptr :=
  ⟨t.insertions, t.tracked, t.retired.map fun key => (key.app, key.reusableAt)⟩

lemma mem_usedRows : i ∈ t.usedRows ↔ (t.rows i).used = true := by simp [usedRows]

lemma mem_tracked : v ∈ t.tracked ↔ ∃ i, t.Tracks i v := by
  simp [tracked, mem_usedRows, Tracks]

/-- Rewriting one row changes the rows in use by this row. -/
lemma usedRows_setRow (t : UdpStateTable) (i : Fin udpStateMaxRows) (row : UdpRow) :
    (t.setRow i row).usedRows =
      if row.used then insert i t.usedRows else t.usedRows.erase i := by
  ext j
  by_cases hj : j = i
  · subst hj
    rw [mem_usedRows, rows_setRow_self]
    split_ifs with hused
    · simp [hused]
    · simp [hused]
  · rw [mem_usedRows, rows_setRow_of_ne row hj, ← mem_usedRows]
    split_ifs
    · simp [hj]
    · simp [hj]

/-- Rewriting the state of a tracked socket, but not its value, tracks the same sockets. -/
lemma tracked_setState {state : UdpState} (h : t.Tracks i v) (happ : state.app = v) :
    (t.setState i state).tracked = t.tracked := by
  ext w
  rw [mem_tracked, mem_tracked]
  refine exists_congr fun j => ?_
  unfold Tracks
  by_cases hj : j = i
  · subst hj
    rw [rows_setState_self, happ, h.2]
  · rw [rows_setState_of_ne state hj]

/-- The rows in use are determined by the rows. -/
lemma usedRows_congr (h : t.rows = t'.rows) : t.usedRows = t'.usedRows := by
  unfold usedRows
  rw [h]

/-- The sockets with a row are determined by the rows. -/
lemma tracked_congr (h : t.rows = t'.rows) : t.tracked = t'.tracked := by
  unfold tracked
  rw [usedRows_congr h, h]

/-- A row given to a socket tracks this socket at most in addition to the others. -/
lemma tracked_setRow_subset {row : UdpRow} :
    (t.setRow i row).tracked ⊆ insert row.state.app t.tracked := by
  intro w hw
  obtain ⟨j, hused, happ⟩ := mem_tracked.mp hw
  by_cases hj : j = i
  · subst hj
    rw [rows_setRow_self] at happ
    exact Finset.mem_insert.mpr (Or.inl happ.symm)
  · rw [rows_setRow_of_ne row hj] at hused happ
    exact Finset.mem_insert_of_mem (mem_tracked.mpr ⟨j, hused, happ⟩)

/-- A row given up tracks the other sockets. -/
lemma Inv.tracked_setRow_unused {row : UdpRow} (hinv : t.Inv) (htracks : t.Tracks i v)
    (h : row.used = false) : (t.setRow i row).tracked = t.tracked.erase v := by
  ext w
  rw [Finset.mem_erase, mem_tracked, mem_tracked]
  constructor
  · rintro ⟨j, hused, happ⟩
    have hj : j ≠ i := by
      rintro rfl
      rw [rows_setRow_self, h] at hused
      cases hused
    rw [rows_setRow_of_ne row hj] at hused happ
    refine ⟨?_, j, hused, happ⟩
    rintro rfl
    exact hj (hinv.keys j i hused htracks.1 (happ.trans htracks.2.symm))
  · rintro ⟨hne, j, hused, happ⟩
    have hj : j ≠ i := by
      rintro rfl
      exact hne (happ.symm.trans htracks.2)
    refine ⟨j, ?_⟩
    unfold Tracks
    rw [rows_setRow_of_ne row hj]
    exact ⟨hused, happ⟩

/-- There are no more sockets with a row than rows. -/
lemma card_tracked_le (t : UdpStateTable) : t.tracked.card ≤ udpStateMaxRows := by
  have hused : t.usedRows.card ≤ Fintype.card (Fin udpStateMaxRows) := Finset.card_le_univ _
  rw [Fintype.card_fin] at hused
  exact Finset.card_image_le.trans hused

/-! ## Steps of the ring -/

/-- The insertion clock and the list of retired keys are all that an insertion changes of a ring. -/
lemma ring_inserted (t : UdpStateTable) : t.inserted.ring = t.ring.advance := by
  have hretired : t.inserted.ring.retired = t.ring.advance.retired := by
    change List.map _ (List.filter _ t.retired) = List.filter _ (List.map _ t.retired)
    rw [List.filter_map]
    rfl
  exact congrArg (KeyRing.mk (t.insertions + 1) t.tracked) hretired

/-- A socket is quarantined at an insertion if the ring keeps it out. -/
lemma isQuarantined_inserted :
    t.inserted.isQuarantined v = true ↔ t.ring.advance.Quarantined v := by
  rw [isQuarantined_inserted_iff]
  constructor
  · rintro ⟨key, hkey, happ, hdue⟩
    have hmem : (key.app, key.reusableAt) ∈ t.ring.retired := List.mem_map.mpr ⟨key, hkey, rfl⟩
    exact ⟨_, KeyRing.mem_retired_advance.mpr ⟨hmem, hdue⟩, happ⟩
  · rintro ⟨e, he, happ⟩
    obtain ⟨hmem, hdue⟩ := KeyRing.mem_retired_advance.mp he
    obtain ⟨key, hkey, rfl⟩ := List.mem_map.mp hmem
    exact ⟨key, hkey, happ, hdue⟩

/-- One operation is a step of the ring, or leaves it as it is. -/
lemma Inv.step_ring (hinv : t.Inv) (h : Acts t op t') :
    t'.ring = t.ring ∨ Step udpStateMaxRows udpKeyQuarantineInsertions t.ring t'.ring := by
  cases h with
  | rest => exact Or.inl rfl
  | @rewrites w j hop hkeep hrow =>
    left
    have htracks := tracks_of_mutableRow hrow
    have hsame := tracked_setState htracks
      ((UdpOp.app_rewrite op (t.rows j).state).trans htracks.2)
    change KeyRing.mk _ (t.setState j _).tracked _ = _
    rw [hsame]
    rfl
  | turnsAway =>
    right
    change Step _ _ _ t.inserted.ring
    rw [ring_inserted]
    exact Step.refuse
  | @claims w tick slot hop hrow hq hslot refused =>
    right
    generalize hs : op.rewrite { app := w, lastUse := tick } = s
    have happ : s.app = w := by rw [← hs, UdpOp.app_rewrite]
    have hrows := rows_claimed t.inserted slot w tick s
    have hlive : ((t.inserted.claimRow slot w tick).setState slot s).tracked ⊆
        insert w t.tracked := by
      rw [tracked_congr hrows, ← happ]
      exact tracked_setRow_subset
    have hring : (((t.inserted.claimRow slot w tick).setState slot s).ring) =
        { t.ring.advance with
          live := ((t.inserted.claimRow slot w tick).setState slot s).tracked } := by
      rw [← ring_inserted, claimRow_eq]
      rfl
    change Step _ _ _ (((t.inserted.claimRow slot w tick).setState slot s).ring)
    rw [hring]
    refine Step.enter (fun hquarantined => ?_) hlive (card_tracked_le _)
    rw [isQuarantined_inserted.mpr hquarantined] at hq
    cases hq
  | @retires w j hop hrow =>
    right
    have htracks := tracks_of_mutableRow hrow
    have hlive : (t.setRow j { state := {}, used := false }).tracked = t.tracked.erase w :=
      hinv.tracked_setRow_unused htracks rfl
    change Step _ _ _
      (KeyRing.mk t.insertions (t.setRow j _).tracked (List.map _ (t.retired ++ [_])))
    rw [hlive, List.map_append]
    exact Step.retire (mem_tracked.mpr ⟨j, htracks⟩)

/-! ## The invariant -/

/-- The invariant of the table. -/
structure Valid (t : UdpStateTable) : Prop where
  inv : t.Inv
  rowsUsed : t.rowsUsed = t.usedRows.card
  ring : Sound udpStateMaxRows udpKeyQuarantineInsertions t.ring

/-- All rows are in use when the count says so. -/
lemma Valid.full_iff (h : t.Valid) :
    (∀ i, (t.rows i).used = true) ↔ t.rowsUsed = udpStateMaxRows := by
  have hcard : t.usedRows.card = udpStateMaxRows ↔ t.usedRows = Finset.univ := by
    rw [← Finset.card_eq_iff_eq_univ, Fintype.card_fin]
  rw [h.rowsUsed, hcard, Finset.eq_univ_iff_forall]
  simp only [mem_usedRows]

/-- The count of the rows in use is kept. -/
lemma Acts.rowsUsed_eq (h : Acts t op t') (ht : t.rowsUsed = t.usedRows.card) :
    t'.rowsUsed = t'.usedRows.card := by
  cases h with
  | rest => exact ht
  | @rewrites w j hop hkeep hrow =>
    have hused := mem_usedRows.mpr (tracks_of_mutableRow hrow).1
    change t.rowsUsed = (t.setRow j _).usedRows.card
    rw [usedRows_setRow, if_pos (mem_usedRows.mp hused), Finset.insert_eq_of_mem hused]
    exact ht
  | turnsAway => exact ht
  | @claims w tick slot hop hrow hq hslot refused =>
    generalize op.rewrite { app := w, lastUse := tick } = s
    have hrows := usedRows_congr (rows_claimed t.inserted slot w tick s)
    change (t.inserted.claimRow slot w tick).rowsUsed =
      ((t.inserted.claimRow slot w tick).setState slot s).usedRows.card
    rw [hrows, usedRows_setRow, if_pos rfl]
    rw [claimRow_eq]
    dsimp only
    split_ifs with hused
    · rw [Finset.insert_eq_of_mem (mem_usedRows.mpr hused)]
      exact ht
    · rw [Finset.card_insert_of_notMem fun hmem => hused (mem_usedRows.mp hmem)]
      exact congrArg (· + 1) ht
  | @retires w j hop hrow =>
    have hused := mem_usedRows.mpr (tracks_of_mutableRow hrow).1
    change t.rowsUsed - 1 = (t.setRow j _).usedRows.card
    rw [usedRows_setRow, if_neg (by simp), Finset.card_erase_of_mem hused, ht]

/-- One operation keeps the invariant. -/
lemma Valid.step (h : t.Valid) (op : UdpOp) : (t.step op).1.Valid := by
  have hacts := step_acts t op
  refine ⟨(h.inv.handles_step op).inv, hacts.rowsUsed_eq h.rowsUsed, ?_⟩
  rcases h.inv.step_ring hacts with heq | hstep
  · rw [heq]
    exact h.ring
  · exact h.ring.step (by decide) hstep

/-- The invariant holds in every run. -/
theorem valid_run (ops : List UdpOp) : (Mealy.run step {} ops).Valid := by
  refine Mealy.run_invariant (P := Valid) (fun t op ht => Valid.step ht op) ?_ ops
  have hused : usedRows {} = ∅ := by simp [usedRows]
  have htracked : tracked {} = ∅ := by
    unfold tracked
    rw [hused]
    rfl
  refine ⟨inv_empty, by rw [hused]; rfl, ?_⟩
  change Sound _ _ (KeyRing.mk 0 (tracked {}) [])
  rw [htracked]
  exact Sound.empty

/-- From a table onwards its ring takes the steps of a ring. -/
lemma Valid.steps_ring (h : t.Valid) (ops : List UdpOp) :
    Relation.ReflTransGen (Step udpStateMaxRows udpKeyQuarantineInsertions) t.ring
      (Mealy.run UdpStateTable.step t ops).ring := by
  induction ops generalizing t with
  | nil => exact Relation.ReflTransGen.refl
  | cons op ops ih =>
    rcases h.inv.step_ring (step_acts t op) with heq | hstep
    · exact heq ▸ ih (h.step op)
    · exact Relation.ReflTransGen.head hstep (ih (h.step op))

/-- **The list of retired keys is bounded.** In every run it holds no socket value twice and has no
more entries than there are rows and insertions in a quarantine, however many sockets are retired
between two insertions. -/
theorem retired_bounded (ops : List UdpOp) :
    let t := Mealy.run step {} ops
    (t.retired.map RetiredKey.app).Nodup ∧
      t.retired.length ≤ udpStateMaxRows + udpKeyQuarantineInsertions := by
  intro t
  have hvalid : t.Valid := valid_run ops
  constructor
  · have hnodup := hvalid.ring.nodup
    simpa [ring, Function.comp_def] using hnodup
  · have hlength := hvalid.ring.length_add_card_le (by decide)
    simp only [ring, List.length_map] at hlength
    omega

/-! ## The quarantine -/

/-- An insertion advances the clock, and gives its socket no row exactly if it is refused. -/
lemma Inv.insertion (hinv : t.Inv) (hop : op.opens = some (v, tick))
    (hrow : t.mutableRow v = none) :
    (t.step op).1.insertions = t.insertions + 1 ∧
      ((t.step op).1.find v = none ↔
        (∃ key ∈ t.retired, key.app = v ∧ t.insertions + 1 < key.reusableAt) ∨ t.AllPinned) := by
  rw [← refuses_iff hrow]
  have hsocket := UdpOp.socket_of_opens hop
  have hinv' : (t.step op).1.Inv := (hinv.handles_step op).inv
  have hacts := step_acts t op
  generalize (t.step op).1 = t' at hacts hinv'
  cases hacts with
  | rest _ hopens =>
    rw [hop] at hopens
    cases hopens
  | rewrites hsocket' hkeep hrow' =>
    rw [hsocket] at hsocket'
    cases hsocket'
    rw [hrow] at hrow'
    cases hrow'
  | turnsAway hop' hrow' hno =>
    rw [hop] at hop'
    cases hop'
    exact ⟨rfl, fun _ => hno, fun _ => find_eq_none.mpr hrow⟩
  | @claims v' tick' slot hop' hrow' hq hslot =>
    rw [hop] at hop'
    cases hop'
    have hrows := rows_claimed t.inserted slot v tick (op.rewrite { app := v, lastUse := tick })
    refine ⟨?_, ?_, ?_⟩
    · rw [claimRow_eq]
      rfl
    · intro hnone
      have hnew := mutableRow_eq_none.mp (find_eq_none.mp hnone) slot
      unfold Tracks at hnew
      dsimp only at hnew
      rw [hrows, rows_setRow_self] at hnew
      exact absurd ⟨rfl, UdpOp.app_rewrite ..⟩ hnew
    · intro hno
      rw [hq, hslot] at hno
      rcases hno with hno | hno <;> cases hno
  | retires hretire =>
    subst hretire
    cases hop

/-- What `retire` writes down. -/
lemma mem_retired_retire (h : (t.retire v).2 = true) :
    (v, t.insertions + udpKeyQuarantineInsertions) ∈ (t.retire v).1.ring.retired := by
  unfold retire at h ⊢
  cases hrow : t.mutableRow v with
  | none =>
    rw [hrow] at h
    cases h
  | some i =>
    exact List.mem_map.mpr ⟨_, List.mem_append_right _ (List.mem_singleton_self _), rfl⟩

/-- Until the clock has reached the end of its quarantine, a closed socket has no row, and the next
insertion finds it in quarantine unless it is the one that brings the clock there. -/
lemma untracked_since_retire (hvalid : t.Valid) (h : (t.retire v).2 = true) (ops : List UdpOp)
    (hclock : (Mealy.run step (t.retire v).1 ops).insertions <
      t.insertions + udpKeyQuarantineInsertions) :
    let u := Mealy.run step (t.retire v).1 ops
    u.Valid ∧ u.find v = none ∧
      ((∃ key ∈ u.retired, key.app = v ∧ u.insertions + 1 < key.reusableAt) ↔
        u.insertions + 1 < t.insertions + udpKeyQuarantineInsertions) := by
  intro u
  have hvalid' : (t.retire v).1.Valid := hvalid.step (.retire v)
  have hend : u.Valid :=
    Mealy.run_invariant (P := Valid) (fun t op ht => Valid.step ht op) hvalid' ops
  have hmem : (v, t.insertions + udpKeyQuarantineInsertions) ∈ u.ring.retired :=
    mem_retired_of_steps (mem_retired_retire h) (hvalid'.steps_ring ops) hclock
  refine ⟨hend, ?_, ?_⟩
  · rw [find_eq_none, mutableRow_eq_none]
    intro i htracks
    exact hend.ring.apart _ hmem (mem_tracked.mpr ⟨i, htracks⟩)
  · rw [← isQuarantined_inserted_iff, isQuarantined_inserted]
    exact hend.ring.quarantined_advance_iff hmem

/-- A closed socket that keeps asking for a row before the end of its quarantine advances the clock
and gets nothing. -/
lemma run_replicate_open (hvalid : t.Valid) (h : (t.retire v).2 = true) (tick n : ℕ)
    (hn : n < udpKeyQuarantineInsertions) :
    (Mealy.run step (t.retire v).1 (List.replicate n (.open v tick))).insertions =
        t.insertions + n ∧
      (Mealy.run step (t.retire v).1 (List.replicate n (.open v tick))).rows =
        (t.retire v).1.rows := by
  induction n with
  | zero =>
    refine ⟨?_, rfl⟩
    unfold retire
    cases t.mutableRow v <;> rfl
  | succ n ih =>
    obtain ⟨hclock, hrows⟩ := ih (Nat.lt_of_succ_lt hn)
    obtain ⟨-, huntracked, hkey⟩ :=
      untracked_since_retire hvalid h (List.replicate n (.open v tick)) (by omega)
    rw [List.replicate_succ', Mealy.run_concat]
    generalize Mealy.run step (t.retire v).1 (List.replicate n (.open v tick)) = u at *
    have hquarantined := isQuarantined_inserted_iff.mpr (hkey.mpr (by omega))
    change (u.open v tick).1.insertions = _ ∧ (u.open v tick).1.rows = _
    rcases open_cases u v tick with ⟨i, hrow, -⟩ | ⟨-, -, hopen⟩ | ⟨-, hq, -⟩
    · rw [find_eq_none.mp huntracked] at hrow
      cases hrow
    · rw [hopen]
      exact ⟨congrArg (· + 1) hclock, hrows⟩
    · rw [hquarantined] at hq
      cases hq

/-- **A closed socket value is out for the whole quarantine, but for its last insertion.** After a
`retire`, an insertion that names the socket and is among the next 256 gives it no row exactly if it
is not the 256th, or finds every row in use and pinned. -/
theorem keptOut_iff (pre ops : List UdpOp) (v : Uintptr) (op : UdpOp) (tick : ℕ)
    (hretire : ((Mealy.run step {} pre).retire v).2 = true) (hop : op.opens = some (v, tick))
    (hwithin : (Mealy.run step ((Mealy.run step {} pre).retire v).1 ops).insertions <
      (Mealy.run step {} pre).insertions + 256) :
    let t := Mealy.run step {} pre
    let u := Mealy.run step (t.retire v).1 ops
    (u.step op).1.insertions = u.insertions + 1 ∧
      ((u.step op).1.find v = none ↔ u.insertions + 1 < t.insertions + 256 ∨ u.AllPinned) := by
  intro t u
  obtain ⟨hvalid, huntracked, hkey⟩ := untracked_since_retire (valid_run pre) hretire ops hwithin
  obtain ⟨hclock, hfind⟩ := hvalid.inv.insertion hop (find_eq_none.mp huntracked)
  refine ⟨hclock, hfind.trans ?_⟩
  rw [hkey]
  rfl

/-- The first insertion after a socket was closed names it again. -/
theorem keptOut_iff_at_once :
    let t := Mealy.run step {} [.open 7 0]
    let u := Mealy.run step (t.retire 7).1 []
    (u.step (.setType 7 1 .dgram)).1.insertions = u.insertions + 1 ∧
      ((u.step (.setType 7 1 .dgram)).1.find 7 = none ↔
        u.insertions + 1 < t.insertions + 256 ∨ u.AllPinned) :=
  keptOut_iff [.open 7 0] [] 7 (.setType 7 1 .dgram) 1 (by decide) rfl (by decide)

/-- A closed socket whose value is asked for 256 times in a row gets a row the last time. -/
theorem not_keptOut_last :
    ¬∀ (pre ops : List UdpOp) (v : Uintptr) (op : UdpOp) (tick : ℕ),
      let t := Mealy.run step {} pre
      let u := Mealy.run step (t.retire v).1 ops
      (t.retire v).2 = true → op.opens = some (v, tick) → u.insertions < t.insertions + 256 →
        (u.step op).1.insertions = u.insertions + 1 → (u.step op).1.find v = none := by
  intro hclaim
  have hretire : ((Mealy.run step {} [.open 7 0]).retire 7).2 = true := by decide
  obtain ⟨hclock, hrows⟩ := run_replicate_open (valid_run [.open 7 0]) hretire 1 255 (by decide)
  obtain ⟨hvalid, huntracked, hkey⟩ := untracked_since_retire (valid_run [.open 7 0]) hretire
    (List.replicate 255 (.open 7 1)) (by rw [hclock]; decide)
  obtain ⟨hnext, hfind⟩ :=
    @Inv.insertion _ (.open 7 1) 7 1 hvalid.inv rfl (find_eq_none.mp huntracked)
  have hnone := hclaim [.open 7 0] (List.replicate 255 (.open 7 1)) 7 (.open 7 1) 1 hretire rfl
    (by rw [hclock]; decide) hnext
  rcases hfind.mp hnone with hquarantined | hpinned
  · have hlate := hkey.mp hquarantined
    rw [hclock] at hlate
    exact absurd hlate (by decide)
  · have hused := (hpinned 0).1
    rw [hrows] at hused
    exact absurd hused (by decide)

end UdpStateTable

end Encapsule
