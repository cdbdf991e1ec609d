import Encapsule.Injectee.UdpRing

/-!
# What a refused push costs

A push is refused when its socket gets no row, and when its datagram could not fit into an empty
queue.  The second test comes after the row has been opened, so that a datagram that is refused may
have evicted the queued datagrams of another socket; this is the only way in which a refusal costs
anything (`costsNothing_iff`).
-/

namespace Encapsule

namespace UdpStateTable

variable {t : UdpStateTable} {i slot : Fin udpStateMaxRows} {v w : Uintptr} {tick : ℕ} {rx : Bool}
  {dgram : UdpDatagram}

/-- From `t` to `t'` no queue of a row or of a socket has changed and nothing was counted as lost.
-/
structure CostsNothing (t t' : UdpStateTable) : Prop where
  rows : ∀ i rx, (t'.rows i).state.queue rx = (t.rows i).state.queue rx
  sockets : ∀ w rx, t'.queueOf w rx = t.queueOf w rx
  discarded : t'.discarded = t.discarded
  dropped : t'.dropped = t.dropped

/-- A datagram that fits into no queue opens a row for a socket that has none and is not
quarantined, in the place of another that has datagrams queued. -/
def EvictsQueued (t : UdpStateTable) (v : Uintptr) (dgram : UdpDatagram) : Prop :=
  udpQueueMaxBytes < dgram.payload.length ∧ t.find v = none ∧
    (∀ key ∈ t.retired, key.app = v → key.reusableAt ≤ t.insertions + 1) ∧
    ∃ slot, t.Victim slot ∧ (t.rows slot).state.queued ≠ 0

/-- Nothing is lost where the rows stay as they are. -/
lemma CostsNothing.of_rows_eq {t' : UdpStateTable} (hrows : t'.rows = t.rows)
    (hdiscarded : t'.discarded = t.discarded) (hdropped : t'.dropped = t.dropped) :
    CostsNothing t t' := by
  refine ⟨fun i rx => by rw [hrows], fun w rx => ?_, hdiscarded, hdropped⟩
  simp only [queueOf, find, mutableRow, hrows]

/-- A row without datagrams has empty queues. -/
lemma queue_eq_nil {s : UdpState} (h : s.queued = 0) (rx : Bool) : s.queue rx = [] := by
  unfold UdpState.queued at h
  cases rx
  · exact List.length_eq_zero_iff.mp (by change s.tx.length = 0; omega)
  · exact List.length_eq_zero_iff.mp (by change s.rx.length = 0; omega)

/-- The queues of a socket are empty if those of its row are. -/
lemma queueOf_eq_nil_of (h : ∀ i, t.Tracks i v → (t.rows i).state.queue rx = []) :
    t.queueOf v rx = [] := by
  unfold queueOf find
  cases hrow : t.mutableRow v with
  | none => rfl
  | some i => exact h i (tracks_of_mutableRow hrow)

/-- Rewriting a row with the same queues changes the queues of no socket, if it stays the row of its
socket or its queues are empty. -/
lemma Inv.queueOf_setRow {row : UdpRow} (hinv : t.Inv) (hinv' : (t.setRow i row).Inv)
    (hqueue : row.state.queue rx = (t.rows i).state.queue rx)
    (hsame : row.used = (t.rows i).used ∧ row.state.app = (t.rows i).state.app ∨
      (t.rows i).state.queue rx = []) (w : Uintptr) :
    (t.setRow i row).queueOf w rx = t.queueOf w rx := by
  have hother (j : Fin udpStateMaxRows) (hj : j ≠ i) :
      (t.setRow i row).Tracks j w ↔ t.Tracks j w := by
    unfold Tracks
    rw [rows_setRow_of_ne row hj]
  have hstate (j : Fin udpStateMaxRows) :
      ((t.setRow i row).rows j).state.queue rx = (t.rows j).state.queue rx := by
    by_cases hj : j = i
    · subst hj
      rw [rows_setRow_self, hqueue]
    · rw [rows_setRow_of_ne row hj]
  rcases hsame with ⟨hused, happ⟩ | hempty
  · have hself : (t.setRow i row).Tracks i w ↔ t.Tracks i w := by
      unfold Tracks
      rw [rows_setRow_self, hused, happ]
    have htracks (j : Fin udpStateMaxRows) : (t.setRow i row).Tracks j w ↔ t.Tracks j w := by
      by_cases hj : j = i
      · subst hj
        exact hself
      · exact hother j hj
    cases hrow : t.mutableRow w with
    | none =>
      have hnone : (t.setRow i row).mutableRow w = none :=
        mutableRow_eq_none.mpr fun j hj => mutableRow_eq_none.mp hrow j ((htracks j).mp hj)
      rw [queueOf_eq_nil hrow, queueOf_eq_nil hnone]
    | some j =>
      have hj := tracks_of_mutableRow hrow
      rw [hinv.queueOf_eq hj, hinv'.queueOf_eq ((htracks j).mpr hj), hstate]
  · by_cases htracked : ∃ j, j ≠ i ∧ t.Tracks j w
    · obtain ⟨j, hne, hj⟩ := htracked
      rw [hinv.queueOf_eq hj, hinv'.queueOf_eq ((hother j hne).mpr hj), hstate]
    · -- Only the row in question can be that of the socket, before or after.
      have hnil (j : Fin udpStateMaxRows) (hj : j = i ∨ t.Tracks j w) :
          (t.rows j).state.queue rx = [] := by
        rcases hj with rfl | hj
        · exact hempty
        · obtain rfl : j = i := not_not.mp fun hne => htracked ⟨j, hne, hj⟩
          exact hempty
      rw [queueOf_eq_nil_of (t := t) fun j hj => hnil j (Or.inr hj),
        queueOf_eq_nil_of fun j hj => ?_]
      rw [hstate]
      by_cases hji : j = i
      · exact hnil j (Or.inl hji)
      · exact hnil j (Or.inr ((hother j hji).mp hj))

/-- Rewriting a row with the same queues costs nothing, if it stays the row of its socket or its
queues are empty. -/
lemma Inv.costsNothing_setRow {t' : UdpStateTable} {row : UdpRow} (hinv : t.Inv) (hinv' : t'.Inv)
    (hrows : t'.rows = (t.setRow i row).rows)
    (hqueue : ∀ rx, row.state.queue rx = (t.rows i).state.queue rx)
    (hsame : row.used = (t.rows i).used ∧ row.state.app = (t.rows i).state.app ∨
      ∀ rx, (t.rows i).state.queue rx = [])
    (hdiscarded : t'.discarded = t.discarded) (hdropped : t'.dropped = t.dropped) :
    CostsNothing t t' := by
  refine ⟨fun j rx => ?_, fun w rx => ?_, hdiscarded, hdropped⟩
  · rw [hrows]
    by_cases hj : j = i
    · subst hj
      rw [rows_setRow_self, hqueue]
    · rw [rows_setRow_of_ne row hj]
  · have hqueueOf : t'.queueOf w rx = (t.setRow i row).queueOf w rx := by
      simp only [queueOf, find, mutableRow, hrows]
    rw [hqueueOf]
    refine hinv.queueOf_setRow (hinv'.of_rows_eq hrows.symm) (hqueue rx) ?_ w
    exact hsame.imp_right fun h => h rx

/-- A claim costs nothing exactly if the row it takes holds nothing. -/
lemma Inv.costsNothing_claimRow (hinv : t.Inv) (refused : ℕ)
    (hinv' : Inv { t.inserted.claimRow slot v tick with refused }) :
    CostsNothing t { t.inserted.claimRow slot v tick with refused } ↔
      (t.rows slot).state.queued = 0 := by
  have hrows : (t.inserted.claimRow slot v tick).rows =
      (t.setRow slot { used := true, state := { app := v, lastUse := tick } }).rows :=
    rows_claimRow ..
  constructor
  · intro hcosts
    have hdiscarded : (t.inserted.claimRow slot v tick).discarded = t.discarded := hcosts.discarded
    rw [claimRow_eq] at hdiscarded
    dsimp only at hdiscarded
    split_ifs at hdiscarded with hused
    · change t.discarded + (t.rows slot).state.queued = t.discarded at hdiscarded
      omega
    · rw [hinv.free slot (Bool.eq_false_iff.mpr hused)]
      rfl
  · intro hzero
    refine hinv.costsNothing_setRow hinv' hrows (fun rx => ?_) (Or.inr (queue_eq_nil hzero)) ?_ ?_
    · rw [queue_eq_nil hzero]
      cases rx <;> rfl
    · rw [claimRow_eq]
      dsimp only
      split_ifs
      · exact congrArg (t.discarded + ·) hzero
      · rfl
    · rw [claimRow_eq]
      rfl

/-- A datagram that fits into no queue is refused. -/
lemma push_oversized (t : UdpStateTable) (v : Uintptr) (tick : ℕ) (toRx : Bool)
    (hsize : udpQueueMaxBytes < dgram.payload.length) :
    (t.push v tick dgram toRx).2 = .refused := by
  rcases push_cases t v tick dgram toRx with ⟨-, h⟩ | ⟨hfits, -⟩
  · rw [h]
  · exact absurd hsize (Nat.not_lt.mpr hfits)

/-- A refusal costs something exactly if it evicts queued datagrams. -/
lemma Valid.costsNothing_push {toRx : Bool} (hvalid : t.Valid)
    (hrefused : (t.push v tick dgram toRx).2 = .refused) :
    CostsNothing t (t.push v tick dgram toRx).1 ↔ ¬t.EvictsQueued v dgram := by
  have hinv' : (t.push v tick dgram toRx).1.Inv := (hvalid.inv.handles_push v tick dgram toRx).inv
  have hpush : ((t.open v tick).2 = none ∨ udpQueueMaxBytes < dgram.payload.length) ∧
      t.push v tick dgram toRx =
        ({ (t.open v tick).1 with refused := (t.open v tick).1.refused + 1 }, .refused) := by
    rcases push_cases t v tick dgram toRx with hno | ⟨-, i, -, h⟩
    · exact hno
    · rw [h] at hrefused
      dsimp only at hrefused
      split_ifs at hrefused
  obtain ⟨hwhy, hpush⟩ := hpush
  rw [hpush] at hinv' ⊢
  rcases open_cases t v tick with
    ⟨i, hrow, hopen⟩ | ⟨hrow, hno, hopen⟩ | ⟨hrow, hq, slot, hslot, hopen⟩
  · rw [hopen] at hinv' ⊢
    constructor
    · rintro - ⟨-, hfind, -⟩
      rw [find_eq_none.mp hfind] at hrow
      cases hrow
    · intro _
      refine hvalid.inv.costsNothing_setRow hinv' rfl (fun rx => ?_) (Or.inl ⟨rfl, rfl⟩) rfl rfl
      cases rx <;> rfl
  · rw [hopen]
    constructor
    · rintro - ⟨-, -, hfree, slot, hvictim, -⟩
      rcases (refuses_iff hrow).mp hno with ⟨key, hkey, happ, hdue⟩ | hpinned
      · exact absurd (hfree key hkey happ) (Nat.not_le.mpr hdue)
      · exact absurd hvictim.unpinned (hpinned slot).2
    · intro _
      exact CostsNothing.of_rows_eq rfl rfl rfl
  · rw [hopen] at hwhy hinv' ⊢
    have hsize : udpQueueMaxBytes < dgram.payload.length := by
      rcases hwhy with hwhy | hwhy
      · cases hwhy
      · exact hwhy
    rw [hvalid.inv.costsNothing_claimRow _ hinv']
    constructor
    · rintro hzero ⟨-, -, -, slot', hvictim, hqueued⟩
      obtain rfl : slot = slot' := by
        have hvictim' := victim_of_claims hrow hslot (hvictim.full slot)
        exact hvictim'.unique hvictim
      exact hqueued hzero
    · intro hno
      by_contra hqueued
      have hused : (t.rows slot).used = true := by
        by_contra hfree
        rw [hvalid.inv.free slot (by simpa using hfree)] at hqueued
        exact hqueued rfl
      refine hno ⟨hsize, find_eq_none.mpr hrow, fun key hkey happ => ?_, slot,
        victim_of_claims hrow hslot hused, hqueued⟩
      by_contra hdue
      rw [isQuarantined_inserted_iff.mpr ⟨key, hkey, happ, Nat.not_le.mp hdue⟩] at hq
      cases hq

/-- **A refused push costs nothing unless it evicts.** A push that is refused leaves every queue of
every row and of every socket as it was, and the counts of the dropped and the discarded as they
were, exactly if it does not evict queued datagrams for one that fits into no queue. -/
theorem costsNothing_iff (ops : List UdpOp) (v : Uintptr) (tick : ℕ) (dgram : UdpDatagram)
    (toRx : Bool) (hrefused : ((Mealy.run step {} ops).push v tick dgram toRx).2 = .refused) :
    let t := Mealy.run step {} ops
    CostsNothing t (t.push v tick dgram toRx).1 ↔ ¬t.EvictsQueued v dgram :=
  (valid_run ops).costsNothing_push hrefused

/-- A datagram that is one octet too long. -/
def oversized : UdpDatagram := { payload := List.replicate (udpQueueMaxBytes + 1) 0 }

lemma lt_length_oversized : udpQueueMaxBytes < oversized.payload.length :=
  Nat.lt_of_lt_of_eq (Nat.lt_succ_self _) List.length_replicate.symm

/-! ## A full table -/

/-- A datagram is pushed to each of the first `n` socket values. -/
def pushToEach (n : ℕ) : List UdpOp :=
  (List.range n).map fun k => .push (UInt64.ofNat k) 0 { payload := [0] } false

/-- The first `n` socket values have rows, each with a datagram queued and not pinned. -/
structure Filled (n : ℕ) (t : UdpStateTable) : Prop where
  retired : t.retired = []
  rowsUsed : t.rowsUsed = n
  rows : ∀ i, (t.rows i).used = true → (t.rows i).state.app.toNat < n ∧
    (t.rows i).state.pinned = 0 ∧ (t.rows i).state.queued = 1

/-- The other socket values have no row. -/
lemma Filled.mutableRow_eq_none {n : ℕ} {app : Uintptr} (h : Filled n t) (hle : n ≤ app.toNat) :
    t.mutableRow app = none := by
  rw [UdpStateTable.mutableRow_eq_none]
  rintro i ⟨hused, rfl⟩
  exact Nat.not_le.mpr (h.rows i hused).1 hle

/-- One more socket. -/
lemma Filled.push {n : ℕ} (h : Filled n t) (hvalid : t.Valid) (hn : n < udpStateMaxRows) :
    Filled (n + 1) (t.step (.push (UInt64.ofNat n) 0 { payload := [0] } false)).1 := by
  have hacts := step_acts t (.push (UInt64.ofNat n) 0 { payload := [0] } false)
  have hvalue : (UInt64.ofNat n).toNat = n :=
    UInt64.toNat_ofNat_of_lt' (hn.trans (by decide))
  have hrow : t.mutableRow (UInt64.ofNat n) = none := h.mutableRow_eq_none hvalue.ge
  have hfull : ¬∀ j, (t.rows j).used = true := by
    rw [hvalid.full_iff, h.rowsUsed]
    exact hn.ne
  generalize (t.step (.push (UInt64.ofNat n) 0 { payload := [0] } false)).1 = t' at hacts
  cases hacts with
  | rest _ hopens => cases hopens
  | rewrites hop hkeep hrow' =>
    cases hop
    rw [hrow] at hrow'
    cases hrow'
  | turnsAway hop _ hno =>
    cases hop
    rcases (refuses_iff hrow).mp hno with ⟨key, hkey, -⟩ | hpinned
    · rw [h.retired] at hkey
      cases hkey
    · exact absurd (fun j => (hpinned j).1) hfull
  | @claims v tick slot hop _ hq hslot refused =>
    cases hop
    have hfree : (t.rows slot).used = false := by
      rcases free_or_victim (t := t.inserted) hrow hslot with hfree | hvictim
      · exact hfree
      · exact absurd hvictim.full hfull
    have hrows := rows_claimed t.inserted slot (UInt64.ofNat n) 0
      (UdpOp.rewrite (.push (UInt64.ofNat n) 0 { payload := [0] } false)
        { app := UInt64.ofNat n, lastUse := 0 })
    have hfree' : ¬(t.inserted.rows slot).used = true := Bool.eq_false_iff.mp hfree
    refine ⟨?_, ?_, fun i hused => ?_⟩
    · have hretired : t.inserted.retired = [] := by
        unfold inserted pruneQuarantine
        rw [h.retired]
        rfl
      rw [claimRow_eq]
      exact hretired
    · rw [claimRow_eq, if_neg hfree']
      exact congrArg (· + 1) h.rowsUsed
    · dsimp only at hused ⊢
      rw [hrows] at hused ⊢
      by_cases hi : i = slot
      · subst hi
        rw [rows_setRow_self]
        refine ⟨?_, rfl, rfl⟩
        rw [UdpOp.app_rewrite, hvalue]
        exact Nat.lt_succ_self n
      · rw [rows_setRow_of_ne _ hi] at hused ⊢
        obtain ⟨happ, hrest⟩ := h.rows i hused
        exact ⟨Nat.lt_succ_of_lt happ, hrest⟩
  | retires hretire => cases hretire

/-- Pushing to the first socket values fills that many rows. -/
lemma filled_run (n : ℕ) (hn : n ≤ udpStateMaxRows) :
    Filled n (Mealy.run step {} (pushToEach n)) := by
  induction n with
  | zero => exact ⟨rfl, rfl, fun i hused => by cases hused⟩
  | succ n ih =>
    have hbefore := ih (Nat.le_of_succ_le hn)
    have hpushes : pushToEach (n + 1) =
        pushToEach n ++ [.push (UInt64.ofNat n) 0 { payload := [0] } false] := by
      simp [pushToEach, List.range_succ]
    rw [hpushes, Mealy.run_concat]
    exact hbefore.push (valid_run _) hn

/-- In a table whose 256 rows all hold a datagram, a datagram that is too long evicts one. -/
lemma evictsQueued_full :
    EvictsQueued (Mealy.run step {} (pushToEach 256)) 256 oversized := by
  have hfilled := filled_run 256 le_rfl
  have hvalid := valid_run (pushToEach 256)
  generalize Mealy.run step {} (pushToEach 256) = t at *
  have hrow : t.mutableRow 256 = none := hfilled.mutableRow_eq_none (by decide)
  have hfull : ∀ j, (t.rows j).used = true := hvalid.full_iff.mpr hfilled.rowsUsed
  refine ⟨lt_length_oversized, find_eq_none.mpr hrow, fun key hkey => ?_, ?_⟩
  · rw [hfilled.retired] at hkey
    cases hkey
  · rcases findSlotFor_cases hrow with ⟨slot, -, hfree | hvictim⟩ | ⟨-, hpinned⟩
    · rw [hfull slot] at hfree
      cases hfree
    · refine ⟨slot, hvictim, ?_⟩
      rw [(hfilled.rows slot (hfull slot)).2.2]
      exact one_ne_zero
    · exact absurd (hfilled.rows 0 (hfull 0)).2.1 (hpinned 0).2

/-- In a table with a row left it evicts none. -/
lemma not_evictsQueued_of_room :
    ¬EvictsQueued (Mealy.run step {} (pushToEach 255)) 255 oversized := by
  rintro ⟨-, -, -, slot, hvictim, -⟩
  have hused := (valid_run (pushToEach 255)).full_iff.mp hvictim.full
  rw [(filled_run 255 (by decide)).rowsUsed] at hused
  exact absurd hused (by decide)

/-- A datagram that is too long is pushed to one more socket: with a row left it costs nothing, and
in the full table it does. -/
theorem costsNothing_iff_full :
    CostsNothing (Mealy.run step {} (pushToEach 255))
        ((Mealy.run step {} (pushToEach 255)).push 255 0 oversized false).1 ∧
      ¬CostsNothing (Mealy.run step {} (pushToEach 256))
        ((Mealy.run step {} (pushToEach 256)).push 256 0 oversized false).1 := by
  have hrefused (n : ℕ) (v : Uintptr) :=
    push_oversized (Mealy.run step {} (pushToEach n)) v 0 false lt_length_oversized
  constructor
  · exact (costsNothing_iff (pushToEach 255) 255 0 oversized false (hrefused 255 255)).mpr
      not_evictsQueued_of_room
  · exact fun hcosts => (costsNothing_iff (pushToEach 256) 256 0 oversized false
      (hrefused 256 256)).mp hcosts evictsQueued_full

/-- The 257th socket value is pushed a datagram that is too long: it is refused, and a queued
datagram of another socket is gone. -/
theorem not_costsNothing_full :
    ¬∀ (ops : List UdpOp) (v : Uintptr) (tick : ℕ) (dgram : UdpDatagram) (toRx : Bool),
      ((Mealy.run step {} ops).push v tick dgram toRx).2 = .refused →
        CostsNothing (Mealy.run step {} ops)
          ((Mealy.run step {} ops).push v tick dgram toRx).1 := by
  intro hclaim
  have hrefused := push_oversized (Mealy.run step {} (pushToEach 256)) 256 0 false
    lt_length_oversized
  have hcosts := hclaim (pushToEach 256) 256 0 oversized false hrefused
  exact ((valid_run _).costsNothing_push hrefused).mp hcosts evictsQueued_full

end UdpStateTable

end Encapsule
