import Encapsule.Foundation.LossyFifo
import Encapsule.Foundation.SlotArray
import Encapsule.Injectee.UdpState

/-!
# What becomes of a datagram

Two accounts of `udp_state_table`.  The balance (`no_datagram_lost`) is about numbers: whatever was
pushed was popped, is queued, or is in one of the three counters.  The delivery
(`popped_sublist_pushed`) is about contents: for one socket value and direction the table is a queue
that may lose datagrams, and that starts empty whenever the value is not tracked.

Both rest on one description of each operation: `open` either finds the row of a socket, or refuses,
or claims a row (`open_cases`), and everything else rewrites the state of one row.
-/

namespace Encapsule

open LossyFifo

namespace UdpStateTable

variable {t : UdpStateTable} {i slot : Fin udpStateMaxRows} {app v : Uintptr} {tick : ℕ} {rx : Bool}

/-! ## Rows -/

/-- The invariant of the rows: no two of them track one socket, and a free row is blank. -/
structure Inv (t : UdpStateTable) : Prop where
  keys : ∀ i j, (t.rows i).used = true → (t.rows j).used = true →
    (t.rows i).state.app = (t.rows j).state.app → i = j
  free : ∀ i, (t.rows i).used = false → (t.rows i).state = {}

/-- The row tracks the socket. -/
def Tracks (t : UdpStateTable) (i : Fin udpStateMaxRows) (v : Uintptr) : Prop :=
  (t.rows i).used = true ∧ (t.rows i).state.app = v

@[simp] lemma rows_setRow_self (row : UdpRow) : (t.setRow i row).rows i = row :=
  Function.update_self ..

lemma rows_setRow_of_ne {j : Fin udpStateMaxRows} (row : UdpRow) (h : j ≠ i) :
    (t.setRow i row).rows j = t.rows j :=
  Function.update_of_ne h ..

@[simp] lemma rows_setState_self (state : UdpState) :
    (t.setState i state).rows i = { t.rows i with state } :=
  rows_setRow_self _

lemma rows_setState_of_ne {j : Fin udpStateMaxRows} (state : UdpState) (h : j ≠ i) :
    (t.setState i state).rows j = t.rows j :=
  rows_setRow_of_ne _ h

lemma tracks_of_mutableRow (h : t.mutableRow v = some i) : t.Tracks i v := by
  simpa [Tracks] using List.find?_some h

lemma mutableRow_eq_none : t.mutableRow v = none ↔ ∀ i, ¬t.Tracks i v := by
  simp [mutableRow, List.find?_eq_none, Tracks]

/-- The row that tracks a socket is the one the scan stops at. -/
lemma Inv.mutableRow_eq_some (hinv : t.Inv) (h : t.Tracks i v) : t.mutableRow v = some i := by
  cases hrow : t.mutableRow v with
  | none => exact absurd h (mutableRow_eq_none.mp hrow i)
  | some j =>
    obtain ⟨hused, happ⟩ := tracks_of_mutableRow hrow
    rw [hinv.keys j i hused h.1 (happ.trans h.2.symm)]

/-- The invariant is about the rows alone. -/
lemma Inv.of_rows_eq {t' : UdpStateTable} (hinv : t.Inv) (h : t'.rows = t.rows) : t'.Inv :=
  ⟨by rw [h]; exact hinv.keys, by rw [h]; exact hinv.free⟩

/-- A row may be rewritten as long as its socket is tracked by no other row, and it is blank when it
is free. -/
lemma inv_setRow {row : UdpRow} (hinv : t.Inv)
    (hkey : row.used = true → ∀ j, j ≠ i → ¬t.Tracks j row.state.app)
    (hfree : row.used = false → row.state = {}) : (t.setRow i row).Inv := by
  refine ⟨fun j k hj hk happ => ?_, fun j hj => ?_⟩
  · by_cases hji : j = i
    · subst hji
      by_cases hki : k = j
      · exact hki.symm
      · rw [rows_setRow_self] at hj happ
        rw [rows_setRow_of_ne row hki] at hk happ
        exact absurd ⟨hk, happ.symm⟩ (hkey hj k hki)
    · rw [rows_setRow_of_ne row hji] at hj happ
      by_cases hki : k = i
      · subst hki
        rw [rows_setRow_self] at hk happ
        exact absurd ⟨hj, happ⟩ (hkey hk j hji)
      · rw [rows_setRow_of_ne row hki] at hk happ
        exact hinv.keys j k hj hk happ
  · by_cases hji : j = i
    · subst hji
      rw [rows_setRow_self] at hj ⊢
      exact hfree hj
    · rw [rows_setRow_of_ne row hji] at hj ⊢
      exact hinv.free j hj

/-- Changing the state of a tracked socket, but not its value, keeps the invariant. -/
lemma inv_setState {state : UdpState} (hinv : t.Inv) (h : t.Tracks i v) (happ : state.app = v) :
    (t.setState i state).Inv := by
  refine inv_setRow hinv (fun _ j hj htracks => ?_) fun hfree => ?_
  · have hsame : (t.rows j).state.app = (t.rows i).state.app := by
      rw [htracks.2, happ, h.2]
    exact hj (hinv.keys j i htracks.1 h.1 hsame)
  · exact absurd h.1 (by simpa using hfree)

/-! ## Opening a row -/

/-- The table as a first sight of a socket finds it. -/
def inserted (t : UdpStateTable) : UdpStateTable :=
  { t with insertions := t.insertions + 1 }.pruneQuarantine

/-- `open` finds the row of a socket, or refuses, or claims a row for it. -/
lemma open_cases (t : UdpStateTable) (app : Uintptr) (tick : ℕ) :
    (∃ i, t.mutableRow app = some i ∧
        t.open app tick = (t.setState i { (t.rows i).state with lastUse := tick }, some i)) ∨
      (t.mutableRow app = none ∧
        (t.inserted.isQuarantined app = true ∨ t.inserted.findSlotFor app = none) ∧
        t.open app tick = (t.inserted, none)) ∨
      t.mutableRow app = none ∧ t.inserted.isQuarantined app = false ∧
        ∃ slot, t.inserted.findSlotFor app = some slot ∧
          t.open app tick = (t.inserted.claimRow slot app tick, some slot) := by
  cases hrow : t.mutableRow app with
  | some i =>
    left
    exact ⟨i, rfl, by simp only [UdpStateTable.open, hrow]⟩
  | none =>
    right
    by_cases hq : t.inserted.isQuarantined app = true
    · left
      refine ⟨rfl, Or.inl hq, ?_⟩
      unfold inserted at hq ⊢
      simp only [UdpStateTable.open, hrow, if_pos hq]
    · cases hslot : t.inserted.findSlotFor app with
      | none =>
        left
        refine ⟨rfl, Or.inr rfl, ?_⟩
        unfold inserted at hq hslot ⊢
        simp only [UdpStateTable.open, hrow, if_neg hq, hslot]
      | some slot =>
        right
        refine ⟨rfl, by simpa using hq, slot, rfl, ?_⟩
        unfold inserted at hq hslot ⊢
        simp only [UdpStateTable.open, hrow, if_neg hq, hslot]

/-- A claim rewrites the slot, and counts what a used one held or that a free one is used now. -/
lemma claimRow_eq (t : UdpStateTable) (slot : Fin udpStateMaxRows) (app : Uintptr) (tick : ℕ) :
    t.claimRow slot app tick =
      { t.setRow slot { used := true, state := { app, lastUse := tick } } with
        discarded := if (t.rows slot).used then t.discarded + (t.rows slot).state.queued
          else t.discarded
        rowsUsed := if (t.rows slot).used then t.rowsUsed else t.rowsUsed + 1 } := by
  unfold claimRow
  split_ifs <;> rfl

/-- The rows after a claim. -/
lemma rows_claimRow (t : UdpStateTable) (slot : Fin udpStateMaxRows) (app : Uintptr) (tick : ℕ) :
    (t.claimRow slot app tick).rows =
      (t.setRow slot { used := true, state := { app, lastUse := tick } }).rows := by
  rw [claimRow_eq]

/-- An opened row tracks the socket. -/
lemma tracks_open (h : (t.open app tick).2 = some i) : (t.open app tick).1.Tracks i app := by
  rcases open_cases t app tick with
    ⟨j, hj, hopen⟩ | ⟨-, -, hopen⟩ | ⟨-, -, slot, -, hopen⟩
  · rw [hopen] at h ⊢
    obtain rfl : j = i := Option.some.inj h
    have htracks := tracks_of_mutableRow hj
    simpa [Tracks, setState] using htracks
  · rw [hopen] at h
    cases h
  · rw [hopen] at h ⊢
    obtain rfl : slot = i := Option.some.inj h
    simp [Tracks, rows_claimRow]

/-! ## Traffic -/

/-- A datagram with the socket value and the direction of its queue. -/
abbrev Parcel := Uintptr × Bool × UdpDatagram

/-- The datagrams of one queue. -/
def parcelsOf (v : Uintptr) (rx : Bool) (parcels : List Parcel) : List UdpDatagram :=
  parcels.filterMap fun p => if p.1 = v ∧ p.2.1 = rx then some p.2.2 else none

/-- What the table holds for a socket value and a direction. -/
def queueOf (t : UdpStateTable) (v : Uintptr) (rx : Bool) : List UdpDatagram :=
  ((t.find v).map fun state => state.queue rx).getD []

/-- All datagrams in all queues. -/
def queuedDatagrams (t : UdpStateTable) : ℕ := ∑ i, (t.rows i).state.queued

/-- The datagrams that are accounted for in the table: queued, or counted as lost. -/
def accounted (t : UdpStateTable) : ℕ :=
  t.queuedDatagrams + (t.dropped + t.discarded + t.refused)

/-- From `t` to `t'` there were `n` pushes, of which the table took `ins`, and pops that got
`outs`. -/
structure Handles (t t' : UdpStateTable) (n : ℕ) (ins outs : List Parcel) : Prop where
  inv : t'.Inv
  balance : t'.accounted + outs.length = t.accounted + n
  delivery : ∀ v rx,
    Passes (t.queueOf v rx) (parcelsOf v rx ins) (parcelsOf v rx outs) (t'.queueOf v rx)

variable {t' t'' : UdpStateTable} {n n' : ℕ} {ins ins' outs outs' : List Parcel}

/-- The traffic of two periods adds up. -/
lemma Handles.trans (h : Handles t t' n ins outs) (h' : Handles t' t'' n' ins' outs') :
    Handles t t'' (n + n') (ins ++ ins') (outs ++ outs') := by
  refine ⟨h'.inv, ?_, fun v rx => ?_⟩
  · have hbalance := h.balance
    have hbalance' := h'.balance
    rw [List.length_append]
    omega
  · have hpasses := (h.delivery v rx).trans (h'.delivery v rx)
    simpa only [parcelsOf, List.filterMap_append] using hpasses

/-- The queues of a tracked socket are those of its row. -/
lemma Inv.queueOf_eq (hinv : t.Inv) (h : t.Tracks i v) :
    t.queueOf v rx = (t.rows i).state.queue rx := by
  simp [queueOf, find, hinv.mutableRow_eq_some h]

lemma queueOf_eq_nil (h : t.mutableRow v = none) : t.queueOf v rx = [] := by
  simp [queueOf, find, h]

/-- Rewriting a row changes the number of queued datagrams by the difference of the two rows. -/
lemma queuedDatagrams_setRow (t : UdpStateTable) (i : Fin udpStateMaxRows) (row : UdpRow) :
    (t.setRow i row).queuedDatagrams + (t.rows i).state.queued =
      t.queuedDatagrams + row.state.queued :=
  SlotArray.sum_update (fun row : UdpRow => row.state.queued) t.rows i row

/-- Nothing moves while the rows stay as they are; a refusal is counted. -/
lemma Inv.handles_of_rows_eq (hinv : t.Inv) (hrows : t'.rows = t.rows)
    (hcount : t'.dropped + t'.discarded + t'.refused = t.dropped + t.discarded + t.refused + n) :
    Handles t t' n [] [] := by
  refine ⟨hinv.of_rows_eq hrows, ?_, fun v rx => ?_⟩
  · simp only [accounted, queuedDatagrams, hrows, hcount, List.length_nil]
    omega
  · have hsame : t'.queueOf v rx = t.queueOf v rx := by
      simp only [queueOf, find, mutableRow, hrows]
    rw [hsame]
    exact Passes.refl _

/-- A row is blanked: what it held is counted as discarded. -/
lemma Inv.handles_setRow {row : UdpRow} (hinv : t.Inv)
    (hrows : t'.rows = (t.setRow i row).rows) (hblank : row.state.tx = [] ∧ row.state.rx = [])
    (hkey : row.used = true → t.mutableRow row.state.app = none)
    (hfree : row.used = false → row.state = {})
    (hcount : t'.dropped + t'.discarded + t'.refused =
      t.dropped + t.discarded + t.refused + (t.rows i).state.queued) :
    Handles t t' 0 [] [] := by
  have hinv' : (t.setRow i row).Inv :=
    inv_setRow hinv (fun hused j _ => mutableRow_eq_none.mp (hkey hused) j) hfree
  refine ⟨hinv'.of_rows_eq hrows, ?_, fun v rx => ?_⟩
  · have hqueued := queuedDatagrams_setRow t i row
    have hzero : row.state.queued = 0 := by simp [UdpState.queued, hblank]
    have hsame : t'.queuedDatagrams = (t.setRow i row).queuedDatagrams := by
      simp only [queuedDatagrams, hrows]
    simp only [accounted, hsame, hcount, List.length_nil]
    omega
  · have hsame : t'.queueOf v rx = (t.setRow i row).queueOf v rx := by
      simp only [queueOf, find, mutableRow, hrows]
    rw [hsame]
    cases hrow : (t.setRow i row).mutableRow v with
    | none =>
      rw [queueOf_eq_nil hrow]
      exact Passes.clear _
    | some j =>
      have htracks := tracks_of_mutableRow hrow
      rw [hinv'.queueOf_eq htracks]
      by_cases hj : j = i
      · subst hj
        have hempty : row.state.queue rx = [] := by
          cases rx
          · exact hblank.1
          · exact hblank.2
        rw [rows_setRow_self, hempty]
        exact Passes.clear _
      · have hbefore : t.Tracks j v := by
          simpa only [Tracks, rows_setRow_of_ne row hj] using htracks
        rw [rows_setRow_of_ne row hj, hinv.queueOf_eq hbefore]
        exact Passes.refl _

/-- The state of a tracked socket is rewritten: what its two queues take, hand out and lose is what
the table does. -/
lemma Inv.handles_setState {state : UdpState} (lost : ℕ) (hinv : t.Inv)
    (htracks : t.Tracks i v) (happ : state.app = v) (hrows : t'.rows = (t.setState i state).rows)
    (hcount : t'.dropped + t'.discarded + t'.refused =
      t.dropped + t.discarded + t.refused + lost)
    (hqueued : state.queued + lost + outs.length = (t.rows i).state.queued + n)
    (hdelivery : ∀ rx, Passes ((t.rows i).state.queue rx) (parcelsOf v rx ins)
      (parcelsOf v rx outs) (state.queue rx))
    (hothers : ∀ w, w ≠ v → ∀ rx, parcelsOf w rx ins = [] ∧ parcelsOf w rx outs = []) :
    Handles t t' n ins outs := by
  have hinv' : (t.setState i state).Inv := inv_setState hinv htracks happ
  refine ⟨hinv'.of_rows_eq hrows, ?_, fun w rx => ?_⟩
  · have hsum : (t.setState i state).queuedDatagrams + (t.rows i).state.queued =
        t.queuedDatagrams + state.queued := queuedDatagrams_setRow t i { t.rows i with state }
    have hsame : t'.queuedDatagrams = (t.setState i state).queuedDatagrams := by
      simp only [queuedDatagrams, hrows]
    simp only [accounted, hsame, hcount]
    omega
  · have hsame : t'.queueOf w rx = (t.setState i state).queueOf w rx := by
      simp only [queueOf, find, mutableRow, hrows]
    have htracks' : (t.setState i state).Tracks i v := by
      simpa [Tracks, happ] using htracks.1
    rw [hsame]
    by_cases hw : w = v
    · subst hw
      rw [hinv.queueOf_eq htracks, hinv'.queueOf_eq htracks', rows_setState_self]
      exact hdelivery rx
    · obtain ⟨hins, houts⟩ := hothers w hw rx
      rw [hins, houts]
      cases hrow : (t.setState i state).mutableRow w with
      | none =>
        rw [queueOf_eq_nil hrow]
        exact Passes.clear _
      | some j =>
        have hj := tracks_of_mutableRow hrow
        have hne : j ≠ i := by
          rintro rfl
          exact hw (hj.2.symm.trans htracks'.2)
        have hbefore : t.Tracks j w := by
          simpa only [Tracks, rows_setState_of_ne state hne] using hj
        rw [hinv'.queueOf_eq hj, hinv.queueOf_eq hbefore, rows_setState_of_ne state hne]
        exact Passes.refl _

/-! ## The operations -/

/-- Changing a tracked state, but neither its value nor its queues, moves no datagram. -/
lemma Inv.handles_change {state : UdpState} (hinv : t.Inv) (htracks : t.Tracks i v)
    (hsame : state.app = (t.rows i).state.app ∧ state.tx = (t.rows i).state.tx ∧
      state.rx = (t.rows i).state.rx) : Handles t (t.setState i state) 0 [] [] := by
  obtain ⟨happ, htx, hrx⟩ := hsame
  refine hinv.handles_setState 0 htracks (happ.trans htracks.2) rfl rfl ?_ (fun rx => ?_)
    fun _ _ _ => ⟨rfl, rfl⟩
  · simp [UdpState.queued, htx, hrx]
  · have hqueue : state.queue rx = (t.rows i).state.queue rx := by
      simp [UdpState.queue, htx, hrx]
    rw [hqueue]
    exact Passes.refl _

/-- Opening a row moves no datagram; an eviction is counted. -/
lemma Inv.handles_open (hinv : t.Inv) (app : Uintptr) (tick : ℕ) :
    Handles t (t.open app tick).1 0 [] [] := by
  rcases open_cases t app tick with
    ⟨i, hi, h⟩ | ⟨-, -, h⟩ | ⟨happ, -, slot, -, h⟩
  · rw [h]
    have htracks := tracks_of_mutableRow hi
    refine hinv.handles_change htracks ?_
    exact ⟨rfl, rfl, rfl⟩
  · rw [h]
    exact hinv.handles_of_rows_eq rfl rfl
  · rw [h]
    have hinserted : t.inserted.Inv := hinv.of_rows_eq rfl
    have hclaim : Handles t.inserted (t.inserted.claimRow slot app tick) 0 [] [] := by
      refine hinserted.handles_setRow (rows_claimRow t.inserted slot app tick) ⟨rfl, rfl⟩
        (fun _ => happ) (by simp) ?_
      rw [claimRow_eq]
      dsimp only
      split_ifs with hused
      · simp only [setRow]
        omega
      · have hblank := hinserted.free slot (by simpa using hused)
        simp [setRow, hblank, UdpState.queued]
    have hinsert : Handles t t.inserted 0 [] [] := hinv.handles_of_rows_eq rfl rfl
    exact hinsert.trans hclaim

/-- Retiring a socket moves no datagram; what it held is counted. -/
lemma Inv.handles_retire (hinv : t.Inv) (app : Uintptr) :
    Handles t (t.retire app).1 0 [] [] := by
  unfold retire
  split
  · exact hinv.handles_of_rows_eq rfl rfl
  · rename_i i hi
    refine hinv.handles_setRow rfl ⟨rfl, rfl⟩ (fun hused => by cases hused) (fun _ => rfl) ?_
    change t.dropped + (t.discarded + _) + t.refused = _
    omega

/-- The setters move no datagram. -/
lemma Inv.handles_update (hinv : t.Inv) (app : Uintptr) (tick : ℕ) (change : UdpState → UdpState)
    (hsame : ∀ s, (change s).app = s.app ∧ (change s).tx = s.tx ∧ (change s).rx = s.rx) :
    Handles t (t.update app tick change) 0 [] [] := by
  have hopen := hinv.handles_open app tick
  unfold update
  dsimp only
  split
  · exact hopen
  · rename_i i hi
    have htracks := tracks_open hi
    exact hopen.trans (hopen.inv.handles_change htracks (hsame _))

/-- The loop of `push` drops a number of datagrams from the front. -/
lemma dropOldest_eq (size : ℕ) (queue : List UdpDatagram) (bytes : ℕ) :
    (dropOldest size queue bytes).2.2 ≤ queue.length ∧
      (dropOldest size queue bytes).1 = queue.drop (dropOldest size queue bytes).2.2 := by
  induction queue generalizing bytes with
  | nil => simp [dropOldest]
  | cons front queue ih =>
    unfold dropOldest
    split_ifs with hover
    · obtain ⟨hlost, hqueue⟩ := ih (wrapSub64 bytes front.payload.length)
      exact ⟨Nat.succ_le_succ hlost, hqueue⟩
    · exact ⟨Nat.zero_le _, rfl⟩

/-- The parcels of the one queue they belong to. -/
lemma parcelsOf_cons (v : Uintptr) (rx rx' : Bool) (dgram : UdpDatagram) :
    parcelsOf v rx' [(v, rx, dgram)] = if rx = rx' then [dgram] else [] := by
  by_cases h : rx = rx' <;> simp [parcelsOf, h]

/-- No other socket has a part in a parcel. -/
lemma parcelsOf_of_ne {w : Uintptr} (h : w ≠ v) (rx rx' : Bool) (dgram : UdpDatagram) :
    parcelsOf w rx' [(v, rx, dgram)] = [] := by
  simp [parcelsOf, Ne.symm h]

/-- Replacing a queue replaces that queue and keeps the other. -/
lemma queue_setQueue (s : UdpState) (rx rx' : Bool) (queue : List UdpDatagram) (bytes : ℕ) :
    (s.setQueue rx queue bytes).queue rx' = if rx = rx' then queue else s.queue rx' := by
  cases rx <;> cases rx' <;> rfl

/-- A replaced queue counts for the one it replaces. -/
lemma queued_setQueue (s : UdpState) (rx : Bool) (queue : List UdpDatagram) (bytes : ℕ) :
    (s.setQueue rx queue bytes).queued + (s.queue rx).length = s.queued + queue.length := by
  cases rx <;> simp [UdpState.setQueue, UdpState.queued, UdpState.queue] <;> omega

/-- A push is refused and counted, or it opens a row and rewrites one of its queues. -/
lemma push_cases (t : UdpStateTable) (app : Uintptr) (tick : ℕ) (dgram : UdpDatagram)
    (toRx : Bool) :
    (((t.open app tick).2 = none ∨ udpQueueMaxBytes < dgram.payload.length) ∧
        t.push app tick dgram toRx =
          ({ (t.open app tick).1 with refused := (t.open app tick).1.refused + 1 }, .refused)) ∨
      dgram.payload.length ≤ udpQueueMaxBytes ∧ ∃ i, (t.open app tick).2 = some i ∧
        let state := ((t.open app tick).1.rows i).state
        let left := dropOldest dgram.payload.length (state.queue toRx) (state.bytes toRx)
        t.push app tick dgram toRx =
          ({ (t.open app tick).1 with dropped := (t.open app tick).1.dropped + left.2.2 }.setState i
            (state.setQueue toRx (left.1 ++ [dgram]) (wrap64 (left.2.1 + dgram.payload.length))),
            if left.2.2 = 0 then .accepted else .droppedOldest) := by
  unfold push
  cases hrow : (t.open app tick).2 with
  | none =>
    left
    exact ⟨Or.inl rfl, by simp only [hrow]⟩
  | some i =>
    by_cases hsize : udpQueueMaxBytes < dgram.payload.length
    · left
      exact ⟨Or.inr hsize, by simp only [hrow, if_pos hsize]⟩
    · right
      exact ⟨Nat.not_lt.mp hsize, i, rfl, by simp only [hrow, if_neg hsize]⟩

/-- A push is a datagram taken, or a refusal counted. -/
lemma Inv.handles_push (hinv : t.Inv) (app : Uintptr) (tick : ℕ) (dgram : UdpDatagram)
    (toRx : Bool) :
    Handles t (t.push app tick dgram toRx).1 1
      (if (t.push app tick dgram toRx).2 = .refused then [] else [(app, toRx, dgram)]) [] := by
  have hopen := hinv.handles_open app tick
  rcases push_cases t app tick dgram toRx with ⟨-, h⟩ | ⟨-, i, hi, h⟩
  · rw [h, if_pos rfl]
    have hrefuse : Handles (t.open app tick).1
        { (t.open app tick).1 with refused := (t.open app tick).1.refused + 1 } 1 [] [] :=
      hopen.inv.handles_of_rows_eq rfl rfl
    exact hopen.trans hrefuse
  · have houtcome : (t.push app tick dgram toRx).2 ≠ .refused := by
      rw [h]
      dsimp only
      split_ifs <;> simp
    rw [if_neg houtcome, h]
    have htracks := tracks_open hi
    generalize (t.open app tick).1 = u at *
    obtain ⟨hlost, hqueue⟩ := dropOldest_eq dgram.payload.length ((u.rows i).state.queue toRx)
      ((u.rows i).state.bytes toRx)
    generalize dropOldest dgram.payload.length ((u.rows i).state.queue toRx)
      ((u.rows i).state.bytes toRx) = left at *
    obtain ⟨queue, bytes, lost⟩ := left
    dsimp only at hlost hqueue ⊢
    subst hqueue
    suffices htake : Handles u ({ u with dropped := u.dropped + lost }.setState i
        ((u.rows i).state.setQueue toRx (((u.rows i).state.queue toRx).drop lost ++ [dgram])
          (wrap64 (bytes + dgram.payload.length)))) 1 [(app, toRx, dgram)] [] from
      hopen.trans htake
    refine hopen.inv.handles_setState lost htracks ?_ rfl ?_ ?_ (fun rx => ?_) ?_
    · cases toRx <;> exact htracks.2
    · change u.dropped + lost + u.discarded + u.refused = _
      omega
    · have hcount := queued_setQueue (u.rows i).state toRx
        (((u.rows i).state.queue toRx).drop lost ++ [dgram]) (wrap64 (bytes + dgram.payload.length))
      rw [List.length_append, List.length_drop] at hcount
      simp only [List.length_cons, List.length_nil] at hcount ⊢
      omega
    · rw [parcelsOf_cons, queue_setQueue]
      by_cases hrx : toRx = rx
      · subst hrx
        rw [if_pos rfl, if_pos rfl]
        have hdrop : Passes ((u.rows i).state.queue toRx) [] []
            (((u.rows i).state.queue toRx).drop lost) := Passes.of_sublist (List.drop_sublist ..)
        exact hdrop.trans (Passes.push _ dgram)
      · rw [if_neg hrx, if_neg hrx]
        exact Passes.refl _
    · intro w hw rx
      exact ⟨parcelsOf_of_ne hw toRx rx dgram, rfl⟩

/-- A pop hands out the oldest datagram of its queue. -/
lemma Inv.handles_pop (hinv : t.Inv) (app : Uintptr) (tick : ℕ) (fromRx : Bool) :
    Handles t (t.pop app tick fromRx).1 0 []
      ((t.pop app tick fromRx).2.map fun dgram => (app, fromRx, dgram)).toList := by
  unfold pop
  cases hrow : t.mutableRow app with
  | none => exact hinv.handles_of_rows_eq rfl rfl
  | some i =>
    have htracks := tracks_of_mutableRow hrow
    dsimp only
    obtain ⟨state, hstate⟩ :
        ∃ state : UdpState, { (t.rows i).state with lastUse := tick } = state := ⟨_, rfl⟩
    have happ : state.app = app := by rw [← hstate]; exact htracks.2
    have hqueued : state.queued = (t.rows i).state.queued := by rw [← hstate]; rfl
    have hqueue (rx : Bool) : state.queue rx = (t.rows i).state.queue rx := by
      rw [← hstate]
      cases rx <;> rfl
    rw [hstate]
    cases hfront : state.queue fromRx with
    | nil =>
      refine hinv.handles_setState 0 htracks happ rfl rfl ?_ (fun rx => ?_) fun _ _ _ => ⟨rfl, rfl⟩
      · simp [hqueued]
      · rw [hqueue]
        exact Passes.refl _
    | cons next queue =>
      refine hinv.handles_setState 0 htracks ?_ rfl rfl ?_ (fun rx => ?_) ?_
      · cases fromRx <;> exact happ
      · have hcount := queued_setQueue state fromRx queue
          (wrapSub64 (state.bytes fromRx) next.payload.length)
        rw [hfront] at hcount
        simp only [Option.map_some, Option.toList_some, List.length_cons, List.length_nil]
          at hcount ⊢
        omega
      · rw [Option.map_some, Option.toList_some, parcelsOf_cons, queue_setQueue, ← hqueue]
        by_cases hrx : fromRx = rx
        · subst hrx
          rw [if_pos rfl, if_pos rfl, hfront]
          exact Passes.pop next queue
        · rw [if_neg hrx, if_neg hrx]
          exact Passes.refl _
      · intro w hw rx
        exact ⟨rfl, parcelsOf_of_ne hw fromRx rx next⟩

/-! ## Runs -/

/-- The datagram of a push. -/
def pushed : UdpOp × UdpAnswer → List Parcel
  | (.push app _ dgram toRx, _) => [(app, toRx, dgram)]
  | _ => []

/-- The datagram of a push that was not refused. -/
def taken : UdpOp × UdpAnswer → List Parcel
  | (.push app _ dgram toRx, .pushed outcome) =>
    if outcome = .refused then [] else [(app, toRx, dgram)]
  | _ => []

/-- The datagram a pop returned. -/
def popped : UdpOp × UdpAnswer → List Parcel
  | (.pop app _ fromRx, .popped dgram) => (dgram.map fun dgram => (app, fromRx, dgram)).toList
  | _ => []

/-- What one operation does to the datagrams. -/
lemma Inv.handles_step (hinv : t.Inv) (op : UdpOp) :
    Handles t (t.step op).1 (pushed (op, (t.step op).2)).length (taken (op, (t.step op).2))
      (popped (op, (t.step op).2)) := by
  have hpin (app : Uintptr) : Handles t (t.pin app).1 0 [] [] := by
    unfold pin
    split
    · exact hinv.handles_of_rows_eq rfl rfl
    · rename_i i hi
      refine hinv.handles_change (tracks_of_mutableRow hi) ?_
      exact ⟨rfl, rfl, rfl⟩
  have hunpin (app : Uintptr) : Handles t (t.unpin app).1 0 [] [] := by
    unfold unpin
    split
    · exact hinv.handles_of_rows_eq rfl rfl
    · rename_i i hi
      split_ifs
      · exact hinv.handles_of_rows_eq rfl rfl
      · refine hinv.handles_change (tracks_of_mutableRow hi) ?_
        exact ⟨rfl, rfl, rfl⟩
  cases op with
  | «open» app tick => exact hinv.handles_open app tick
  | retire app => exact hinv.handles_retire app
  | push app tick dgram toRx => exact hinv.handles_push app tick dgram toRx
  | pop app tick fromRx => exact hinv.handles_pop app tick fromRx
  | setPeer app tick peer =>
    exact hinv.handles_update app tick (fun row => { row with peer, hasPeer := true })
      fun _ => ⟨rfl, rfl, rfl⟩
  | setType app tick type =>
    exact hinv.handles_update app tick (fun row => { row with type }) fun _ => ⟨rfl, rfl, rfl⟩
  | markTakeover app tick =>
    exact hinv.handles_update app tick (fun row => { row with takeover := true })
      fun _ => ⟨rfl, rfl, rfl⟩
  | markPermanentlyUnmanaged app tick =>
    exact hinv.handles_update app tick (fun row => { row with permanentlyUnmanaged := true })
      fun _ => ⟨rfl, rfl, rfl⟩
  | pin app => exact hpin app
  | unpin app => exact hunpin app
  | own socket =>
    change Handles t (t.own socket) 0 [] []
    unfold own
    split_ifs <;> exact hinv.handles_of_rows_eq rfl rfl
  | unown socket =>
    change Handles t (t.unown socket).1 0 [] []
    unfold unown
    split_ifs <;> exact hinv.handles_of_rows_eq rfl rfl

/-- What a run does to the datagrams. -/
lemma Inv.handles_run (hinv : t.Inv) (ops : List UdpOp) :
    Handles t (Mealy.run step t ops) ((Mealy.log step t ops).flatMap pushed).length
      ((Mealy.log step t ops).flatMap taken) ((Mealy.log step t ops).flatMap popped) := by
  induction ops generalizing t with
  | nil => exact hinv.handles_of_rows_eq rfl rfl
  | cons op ops ih =>
    have hstep := hinv.handles_step op
    rw [Mealy.run_cons, Mealy.log_cons, List.flatMap_cons, List.flatMap_cons, List.flatMap_cons,
      List.length_append]
    exact hstep.trans (ih hstep.inv)

lemma inv_empty : Inv {} :=
  ⟨fun _ _ hi => by simp at hi, fun _ _ => rfl⟩

/-- **No datagram is lost silently.** In every run the pushes are as many as the datagrams popped,
queued now, dropped, discarded and refused. -/
theorem no_datagram_lost (ops : List UdpOp) :
    let t := Mealy.run step {} ops
    ((Mealy.log step {} ops).flatMap pushed).length =
      ((Mealy.log step {} ops).flatMap popped).length + t.queuedDatagrams + t.dropped +
        t.discarded + t.refused := by
  have hbalance := (inv_empty.handles_run ops).balance
  have hempty : accounted {} = 0 := by simp [accounted, queuedDatagrams, UdpState.queued]
  rw [hempty] at hbalance
  simp only [accounted] at hbalance ⊢
  omega

/-! ## Incarnations of a socket value -/

lemma find_eq_none : t.find v = none ↔ t.mutableRow v = none := by simp [find]

/-- Whatever happens from a moment on at which a value is untracked, the datagrams popped for it
are a subsequence of those taken for it since that moment. -/
lemma Inv.popped_sublist_taken (hinv : t.Inv) (h : t.find v = none) (ops : List UdpOp)
    (rx : Bool) :
    (parcelsOf v rx ((Mealy.log step t ops).flatMap popped)).Sublist
      (parcelsOf v rx ((Mealy.log step t ops).flatMap taken)) := by
  have hdelivery := (hinv.handles_run ops).delivery v rx
  rw [queueOf_eq_nil (find_eq_none.mp h)] at hdelivery
  exact hdelivery.outs_sublist

/-- A tracked value has a current row, which was created at some point of the run. -/
lemma exists_created (ops : List UdpOp) (h : (Mealy.run step {} ops).find v ≠ none) :
    ∃ pre op post, ops = pre ++ op :: post ∧ (Mealy.run step {} pre).find v = none ∧
      ∀ post', post' <+: post → (Mealy.run step {} (pre ++ op :: post')).find v ≠ none := by
  induction ops using List.reverseRecOn with
  | nil =>
    have hempty : find {} v = none := by
      rw [find_eq_none, mutableRow_eq_none]
      simp [Tracks]
    exact absurd hempty h
  | append_singleton ops op ih =>
    by_cases hbefore : (Mealy.run step {} ops).find v = none
    · refine ⟨ops, op, [], rfl, hbefore, fun post' hpost => ?_⟩
      obtain rfl := List.prefix_nil.mp hpost
      exact h
    · obtain ⟨pre, op', post, rfl, hcreated, hlive⟩ := ih hbefore
      refine ⟨pre, op', post ++ [op], by simp, hcreated, fun post' hpost => ?_⟩
      rcases List.prefix_concat_iff.mp hpost with rfl | hpost
      · simpa using h
      · exact hlive post' hpost

/-- A row created by `open` is blank but for the value and the tick. -/
lemma open_of_untracked (h : t.find v = none) (hopen : (t.open v tick).2 = some i) :
    ((t.open v tick).1.rows i).state = { app := v, lastUse := tick } := by
  rcases open_cases t v tick with
    ⟨j, hj, -⟩ | ⟨-, -, hcase⟩ | ⟨-, -, slot, -, hcase⟩
  · rw [find_eq_none.mp h] at hj
    cases hj
  · rw [hcase] at hopen
    cases hopen
  · rw [hcase] at hopen ⊢
    obtain rfl : slot = i := Option.some.inj hopen
    rw [rows_claimRow, rows_setRow_self]

/-- **No cross-delivery.** Since a value was last untracked, which it was right before its current
row was created, pops have returned a subsequence of what pushes to the same value and direction
have put in since; and a row starts blank. -/
theorem no_cross_delivery :
    (∀ (pre post : List UdpOp) (v : Uintptr) (rx : Bool),
      (Mealy.run step {} pre).find v = none →
        (parcelsOf v rx ((Mealy.log step (Mealy.run step {} pre) post).flatMap popped)).Sublist
          (parcelsOf v rx ((Mealy.log step (Mealy.run step {} pre) post).flatMap taken))) ∧
      (∀ (ops : List UdpOp) (v : Uintptr), (Mealy.run step {} ops).find v ≠ none →
        ∃ pre op post, ops = pre ++ op :: post ∧ (Mealy.run step {} pre).find v = none ∧
          ∀ post', post' <+: post → (Mealy.run step {} (pre ++ op :: post')).find v ≠ none) ∧
      ∀ (ops : List UdpOp) (v : Uintptr) (tick : ℕ) (i : Fin udpStateMaxRows),
        (Mealy.run step {} ops).find v = none → ((Mealy.run step {} ops).open v tick).2 = some i →
          (((Mealy.run step {} ops).open v tick).1.rows i).state =
            { app := v, lastUse := tick } := by
  refine ⟨fun pre post v rx h => ?_, fun ops v h => exists_created ops h,
    fun ops v tick i h hopen => open_of_untracked h hopen⟩
  exact (inv_empty.handles_run pre).inv.popped_sublist_taken h post rx

/-- A value closed with a datagram queued and, after its quarantine, opened again: the second
incarnation starts blank, and a datagram of the first is not popped from it. -/
theorem no_cross_delivery_recycled :
    let pre : List UdpOp := [.push 7 0 { payload := [1] } false, .retire 7]
    let post : List UdpOp := (List.range 256).map (fun k => .open (UInt64.ofNat (100 + k)) 0) ++
      [.open 7 1, .push 7 1 { payload := [2] } false, .pop 7 2 false]
    (parcelsOf 7 false ((Mealy.log step (Mealy.run step {} pre) post).flatMap popped)).Sublist
      (parcelsOf 7 false ((Mealy.log step (Mealy.run step {} pre) post).flatMap taken)) := by
  intro pre post
  exact no_cross_delivery.1 pre post 7 false (by decide)

end UdpStateTable

end Encapsule
