import Encapsule.Injectee.UdpTraffic

/-!
# What one operation does to the table

The operations of `udp_state_table` differ in how they come by a row and in what they do to it.  The
second is a function of the row (`UdpOp.rewrite`); for the first there are five possibilities
(`UdpStateTable.Acts`), and each operation is one of them (`UdpStateTable.step_acts`).  What an
operation preserves is read off there, by cases, without looking at the operations again.
-/

namespace Encapsule

open UdpStateTable

/-! ## Operations and rows -/

namespace UdpOp

/-- The socket an operation names. -/
def socket : UdpOp → Option Uintptr
  | .open app _ => some app
  | .retire app => some app
  | .push app _ _ _ => some app
  | .pop app _ _ => some app
  | .setPeer app _ _ => some app
  | .setType app _ _ => some app
  | .markTakeover app _ => some app
  | .markPermanentlyUnmanaged app _ => some app
  | .pin app => some app
  | .unpin app => some app
  | .own _ => none
  | .unown _ => none

/-- The socket and the tick of an operation that opens a row where there is none. -/
def opens : UdpOp → Option (Uintptr × ℕ)
  | .open app tick => some (app, tick)
  | .push app tick _ _ => some (app, tick)
  | .setPeer app tick _ => some (app, tick)
  | .setType app tick _ => some (app, tick)
  | .markTakeover app tick => some (app, tick)
  | .markPermanentlyUnmanaged app tick => some (app, tick)
  | _ => none

/-- What is left of a row's queue, its byte count and the number of datagrams lost when a datagram
is to be pushed. -/
def dropped (dgram : UdpDatagram) (toRx : Bool) (s : UdpState) : List UdpDatagram × ℕ × ℕ :=
  dropOldest dgram.payload.length (s.queue toRx) (s.bytes toRx)

/-- The row of a socket after a push. -/
def pushed (dgram : UdpDatagram) (toRx : Bool) (s : UdpState) : UdpState :=
  if udpQueueMaxBytes < dgram.payload.length then s
  else
    s.setQueue toRx ((dropped dgram toRx s).1 ++ [dgram])
      (wrap64 ((dropped dgram toRx s).2.1 + dgram.payload.length))

/-- The row of a socket after a pop. -/
def popped (fromRx : Bool) (s : UdpState) : UdpState :=
  match s.queue fromRx with
  | [] => s
  | next :: queue =>
    s.setQueue fromRx queue (wrapSub64 (s.bytes fromRx) next.payload.length)

/-- The row of a socket after an unpin. -/
def unpinned (s : UdpState) : UdpState :=
  if s.pinned = 0 then s else { s with pinned := s.pinned - 1 }

/-- The row of a socket as it is touched at a tick. -/
def touched (tick : ℕ) (s : UdpState) : UdpState := { s with lastUse := tick }

/-- What an operation other than `retire` does to the row of its socket. -/
def rewrite : UdpOp → UdpState → UdpState
  | .open _ tick, s => touched tick s
  | .push _ tick dgram toRx, s => pushed dgram toRx (touched tick s)
  | .pop _ tick fromRx, s => popped fromRx (touched tick s)
  | .setPeer _ tick peer, s => { touched tick s with peer, hasPeer := true }
  | .setType _ tick type, s => { touched tick s with type }
  | .markTakeover _ tick, s => { touched tick s with takeover := true }
  | .markPermanentlyUnmanaged _ tick, s => { touched tick s with permanentlyUnmanaged := true }
  | .pin _, s => { s with pinned := s.pinned + 1 }
  | .unpin _, s => unpinned s
  | .retire _, s => s
  | .own _, s => s
  | .unown _, s => s

/-- The datagrams an operation drops from the row of its socket. -/
def lost : UdpOp → UdpState → ℕ
  | .push _ _ dgram toRx, s =>
    if udpQueueMaxBytes < dgram.payload.length then 0 else (dropped dgram toRx s).2.2
  | _, _ => 0

/-- An operation that opens a row names its socket. -/
lemma socket_of_opens {op : UdpOp} {v : Uintptr} {tick : ℕ} (h : op.opens = some (v, tick)) :
    op.socket = some v := by
  cases op <;> simp_all [opens, socket]

/-- Replacing a queue changes nothing but the queue and its byte count. -/
lemma setQueue_eq (s : UdpState) (rx : Bool) (queue : List UdpDatagram) (bytes : ℕ) :
    ∃ tx rx' txBytes rxBytes, s.setQueue rx queue bytes =
      { s with tx, rx := rx', txBytes, rxBytes } := by
  cases rx
  · exact ⟨queue, s.rx, bytes, s.rxBytes, rfl⟩
  · exact ⟨s.tx, queue, s.txBytes, bytes, rfl⟩

/-- A push changes nothing but the queues and their byte counts. -/
lemma pushed_eq (dgram : UdpDatagram) (toRx : Bool) (s : UdpState) :
    ∃ tx rx txBytes rxBytes, pushed dgram toRx s = { s with tx, rx, txBytes, rxBytes } := by
  unfold pushed
  split_ifs
  · exact ⟨s.tx, s.rx, s.txBytes, s.rxBytes, rfl⟩
  · exact setQueue_eq ..

/-- A pop changes nothing but the queues and their byte counts. -/
lemma popped_eq (fromRx : Bool) (s : UdpState) :
    ∃ tx rx txBytes rxBytes, popped fromRx s = { s with tx, rx, txBytes, rxBytes } := by
  unfold popped
  split
  · exact ⟨s.tx, s.rx, s.txBytes, s.rxBytes, rfl⟩
  · exact setQueue_eq ..

/-- An unpin changes nothing but the pins. -/
lemma unpinned_eq (s : UdpState) : ∃ pinned, unpinned s = { s with pinned } := by
  unfold unpinned
  split_ifs
  · exact ⟨s.pinned, rfl⟩
  · exact ⟨s.pinned - 1, rfl⟩

/-- A row keeps its socket. -/
@[simp] lemma app_rewrite (op : UdpOp) (s : UdpState) : (op.rewrite s).app = s.app := by
  cases op with
  | push app tick dgram toRx =>
    obtain ⟨_, _, _, _, heq⟩ := pushed_eq dgram toRx (touched tick s)
    rw [rewrite, heq, touched]
  | pop app tick fromRx =>
    obtain ⟨_, _, _, _, heq⟩ := popped_eq fromRx (touched tick s)
    rw [rewrite, heq, touched]
  | unpin app =>
    obtain ⟨_, heq⟩ := unpinned_eq s
    rw [rewrite, heq]
  | _ => rfl

/-- A blank row has nothing to lose. -/
@[simp] lemma lost_blank (op : UdpOp) (v : Uintptr) (tick : ℕ) :
    op.lost { app := v, lastUse := tick } = 0 := by
  cases op with
  | push app tick' dgram toRx =>
    cases toRx <;> exact ite_self 0
  | _ => rfl

end UdpOp

namespace UdpStateTable

variable {t t' : UdpStateTable} {op : UdpOp} {i slot : Fin udpStateMaxRows} {v : Uintptr} {tick : ℕ}

/-! ## The five possibilities -/

/-- What an operation does to the table. -/
inductive Acts (t : UdpStateTable) (op : UdpOp) : UdpStateTable → Prop
  /-- No row is concerned. -/
  | rest (owned : List Uintptr) (hopens : op.opens = none)
      (hnone : ∀ v, op.socket = some v → t.mutableRow v = none) : Acts t op { t with owned }
  /-- The row of the socket is rewritten. -/
  | rewrites {v : Uintptr} {i : Fin udpStateMaxRows} (hop : op.socket = some v)
      (hkeep : op ≠ .retire v) (hrow : t.mutableRow v = some i) (refused : ℕ) :
      Acts t op
        { t.setState i (op.rewrite (t.rows i).state) with
          dropped := t.dropped + op.lost (t.rows i).state
          refused }
  /-- The socket gets no row. -/
  | turnsAway {v : Uintptr} {tick : ℕ} (hop : op.opens = some (v, tick))
      (hrow : t.mutableRow v = none)
      (hno : t.inserted.isQuarantined v = true ∨ t.inserted.findSlotFor v = none) (refused : ℕ) :
      Acts t op { t.inserted with refused }
  /-- The socket gets a new row, which is then rewritten. -/
  | claims {v : Uintptr} {tick : ℕ} {slot : Fin udpStateMaxRows}
      (hop : op.opens = some (v, tick)) (hrow : t.mutableRow v = none)
      (hq : t.inserted.isQuarantined v = false) (hslot : t.inserted.findSlotFor v = some slot)
      (refused : ℕ) :
      Acts t op
        { (t.inserted.claimRow slot v tick).setState slot
            (op.rewrite { app := v, lastUse := tick }) with refused }
  /-- The row of the socket is given up. -/
  | retires {v : Uintptr} {i : Fin udpStateMaxRows} (hop : op = .retire v)
      (hrow : t.mutableRow v = some i) :
      Acts t op
        { t.setRow i { state := {}, used := false } with
          discarded := t.discarded + (t.rows i).state.queued
          rowsUsed := t.rowsUsed - 1
          retired := t.retired ++ [⟨v, t.insertions + udpKeyQuarantineInsertions⟩] }

@[simp] lemma setState_rows (t : UdpStateTable) (i : Fin udpStateMaxRows) :
    t.setState i (t.rows i).state = t := by
  unfold setState setRow
  rw [Function.update_eq_self]

@[simp] lemma setState_setState (t : UdpStateTable) (i : Fin udpStateMaxRows) (s s' : UdpState) :
    (t.setState i s).setState i s' = t.setState i s' := by
  simp [setState, setRow]

/-- The state of a row that was claimed. -/
lemma state_claimRow (t : UdpStateTable) (slot : Fin udpStateMaxRows) (v : Uintptr) (tick : ℕ) :
    (t.claimRow slot v tick).rows slot =
      { used := true, state := { app := v, lastUse := tick } } := by
  rw [rows_claimRow, rows_setRow_self]

/-- The rows after a slot was claimed and the new row rewritten. -/
lemma rows_claimed (t : UdpStateTable) (slot : Fin udpStateMaxRows) (v : Uintptr) (tick : ℕ)
    (s : UdpState) :
    ((t.claimRow slot v tick).setState slot s).rows =
      (t.setRow slot { used := true, state := s }).rows := by
  unfold setState
  rw [state_claimRow]
  unfold setRow
  rw [rows_claimRow]
  exact Function.update_idem ..

/-- The datagrams an operation drops, if its socket has a row. -/
def lostBy (t : UdpStateTable) (op : UdpOp) (v : Uintptr) : ℕ := ((t.find v).map op.lost).getD 0

/-- A row is opened and changed. -/
lemma acts_update {change : UdpState → UdpState} (hop : op.opens = some (v, tick))
    (hrewrite : ∀ s, op.rewrite s = change (UdpOp.touched tick s)) (refused : ℕ) :
    Acts t op
      { t.update v tick change with dropped := t.dropped + t.lostBy op v, refused } := by
  unfold update lostBy find
  rcases open_cases t v tick with
    ⟨i, hrow, hopen⟩ | ⟨hrow, hno, hopen⟩ | ⟨hrow, hq, slot, hslot, hopen⟩
  · have hkeep : op ≠ .retire v := by
      rintro rfl
      cases hop
    have hacts := Acts.rewrites (UdpOp.socket_of_opens hop) hkeep hrow refused
    rw [hrewrite] at hacts
    simp only [hopen, hrow, rows_setState_self, setState_setState]
    exact hacts
  · simp only [hopen, hrow]
    exact Acts.turnsAway hop hrow hno refused
  · have hacts := Acts.claims hop hrow hq hslot refused
    have hdropped : (t.inserted.claimRow slot v tick).dropped = t.dropped := by
      rw [claimRow_eq]
      rfl
    rw [hrewrite] at hacts
    simp only [hopen, hrow, state_claimRow, ← hdropped]
    exact hacts

/-- `open` is the setter that sets nothing. -/
lemma update_id (t : UdpStateTable) (v : Uintptr) (tick : ℕ) :
    t.update v tick id = (t.open v tick).1 := by
  unfold update
  cases hrow : (t.open v tick).2 with
  | none => simp only [hrow]
  | some i => simp only [hrow, id, setState_rows]

/-- Opening a row neither drops nor refuses anything. -/
lemma counts_open (t : UdpStateTable) (v : Uintptr) (tick : ℕ) :
    (t.open v tick).1.dropped = t.dropped ∧ (t.open v tick).1.refused = t.refused := by
  rcases open_cases t v tick with ⟨i, -, h⟩ | ⟨-, -, h⟩ | ⟨-, -, slot, -, h⟩
  · rw [h]
    exact ⟨rfl, rfl⟩
  · rw [h]
    exact ⟨rfl, rfl⟩
  · rw [h, claimRow_eq]
    exact ⟨rfl, rfl⟩

/-- An operation that only opens a row and changes it. -/
lemma acts_setter {change : UdpState → UdpState} (hop : op.opens = some (v, tick))
    (hrewrite : ∀ s, op.rewrite s = change (UdpOp.touched tick s)) (hlost : ∀ s, op.lost s = 0) :
    Acts t op (t.update v tick change) := by
  have hacts := acts_update (t := t) hop hrewrite t.refused
  have hnone : t.lostBy op v = 0 := by
    unfold lostBy
    cases t.find v with
    | none => rfl
    | some s => exact hlost s
  have hcounts : (t.update v tick change).dropped = t.dropped ∧
      (t.update v tick change).refused = t.refused := by
    unfold update
    cases hrow : (t.open v tick).2 with
    | none =>
      simp only [hrow]
      exact counts_open t v tick
    | some i =>
      simp only [hrow]
      exact counts_open t v tick
  rw [hnone, Nat.add_zero, ← hcounts.1, ← hcounts.2] at hacts
  exact hacts

/-- The row that is opened has as much to lose as the socket has. -/
lemma lost_open (t : UdpStateTable) (v : Uintptr) (tick tick' : ℕ) (dgram : UdpDatagram)
    (toRx : Bool) (h : (t.open v tick).2 = some i) :
    UdpOp.lost (.push v tick' dgram toRx) ((t.open v tick).1.rows i).state =
      t.lostBy (.push v tick' dgram toRx) v := by
  unfold lostBy find
  rcases open_cases t v tick with ⟨j, hrow, hopen⟩ | ⟨-, -, hopen⟩ | ⟨hrow, -, slot, -, hopen⟩
  · rw [hopen] at h ⊢
    obtain rfl : j = i := Option.some.inj h
    rw [rows_setState_self, hrow]
    cases toRx <;> rfl
  · rw [hopen] at h
    cases h
  · rw [hopen] at h ⊢
    obtain rfl : slot = i := Option.some.inj h
    rw [state_claimRow, hrow, UdpOp.lost_blank]
    rfl

/-- A push is the setter that pushes, but for what it counts. -/
lemma push_eq (t : UdpStateTable) (v : Uintptr) (tick : ℕ) (dgram : UdpDatagram) (toRx : Bool) :
    (t.push v tick dgram toRx).1 =
      { t.update v tick (UdpOp.pushed dgram toRx) with
        dropped := t.dropped + t.lostBy (.push v tick dgram toRx) v
        refused := (t.push v tick dgram toRx).1.refused } := by
  have hdropped := (counts_open t v tick).1
  unfold push update
  cases hrow : (t.open v tick).2 with
  | none =>
    have hnone : t.find v = none := by
      unfold find
      rcases open_cases t v tick with ⟨j, -, hopen⟩ | ⟨huntracked, -⟩ | ⟨huntracked, -⟩
      · rw [hopen] at hrow
        cases hrow
      · rw [huntracked]
        rfl
      · rw [huntracked]
        rfl
    simp only [hrow, lostBy, hnone]
    rw [← hdropped]
    rfl
  | some i =>
    have hlost := lost_open t v tick tick dgram toRx hrow
    simp only [hrow]
    unfold UdpOp.pushed
    by_cases hsize : udpQueueMaxBytes < dgram.payload.length
    · rw [UdpOp.lost, if_pos hsize] at hlost
      rw [if_pos hsize, if_pos hsize, setState_rows, ← hlost, ← hdropped]
      rfl
    · rw [UdpOp.lost, if_neg hsize] at hlost
      rw [if_neg hsize, if_neg hsize, ← hlost, ← hdropped]
      rfl

/-- An operation on the row of a socket that does nothing if there is none. -/
lemma acts_rewrite {i : Fin udpStateMaxRows} (hop : op.socket = some v) (hkeep : op ≠ .retire v)
    (hrow : t.mutableRow v = some i) (hlost : ∀ s, op.lost s = 0) :
    Acts t op (t.setState i (op.rewrite (t.rows i).state)) := by
  have hacts := Acts.rewrites hop hkeep hrow t.refused
  rw [hlost] at hacts
  exact hacts

/-- Every operation does one of the five things. -/
theorem step_acts (t : UdpStateTable) (op : UdpOp) : Acts t op (t.step op).1 := by
  have hrest (v : Uintptr) (hopens : op.opens = none) (hop : op.socket = some v)
      (hrow : t.mutableRow v = none) : Acts t op t := Acts.rest t.owned hopens fun w hw => by
    rw [hop] at hw
    cases hw
    exact hrow
  cases op with
  | «open» v tick =>
    have hacts : Acts t (.open v tick) (t.update v tick id) :=
      acts_setter rfl (fun _ => rfl) fun _ => rfl
    rwa [update_id] at hacts
  | retire v =>
    change Acts t _ (t.retire v).1
    unfold retire
    cases hrow : t.mutableRow v with
    | none => exact hrest v rfl rfl hrow
    | some i => exact Acts.retires rfl hrow
  | push v tick dgram toRx =>
    change Acts t _ (t.push v tick dgram toRx).1
    rw [push_eq]
    exact acts_update rfl (fun _ => rfl) _
  | pop v tick fromRx =>
    change Acts t _ (t.pop v tick fromRx).1
    unfold pop
    cases hrow : t.mutableRow v with
    | none => exact hrest v rfl rfl hrow
    | some i =>
      have hacts : Acts t (.pop v tick fromRx) _ :=
        acts_rewrite rfl (by simp) hrow fun _ => rfl
      simp only [UdpOp.rewrite, UdpOp.popped, UdpOp.touched] at hacts
      dsimp only
      split
      · rename_i hfront
        simpa only [hfront] using hacts
      · rename_i next queue hfront
        simpa only [hfront] using hacts
  | pin v =>
    change Acts t _ (t.pin v).1
    unfold pin
    cases hrow : t.mutableRow v with
    | none => exact hrest v rfl rfl hrow
    | some i => exact acts_rewrite rfl (by simp) hrow fun _ => rfl
  | unpin v =>
    change Acts t _ (t.unpin v).1
    unfold unpin
    cases hrow : t.mutableRow v with
    | none => exact hrest v rfl rfl hrow
    | some i =>
      have hacts : Acts t (.unpin v) _ := acts_rewrite rfl (by simp) hrow fun _ => rfl
      simp only [UdpOp.rewrite, UdpOp.unpinned] at hacts
      dsimp only
      split_ifs with hpinned
      · rwa [if_pos hpinned, setState_rows] at hacts
      · rwa [if_neg hpinned] at hacts
  | own socket =>
    change Acts t _ (t.own socket)
    unfold own
    split_ifs
    · exact Acts.rest t.owned rfl fun _ hw => by cases hw
    · exact Acts.rest _ rfl fun _ hw => by cases hw
  | unown socket =>
    change Acts t _ (t.unown socket).1
    unfold unown
    split_ifs
    · exact Acts.rest _ rfl fun _ hw => by cases hw
    · exact Acts.rest t.owned rfl fun _ hw => by cases hw
  | setPeer v tick peer =>
    change Acts t _ (t.setPeer v tick peer)
    unfold setPeer
    exact acts_setter rfl (fun _ => rfl) fun _ => rfl
  | setType v tick type =>
    change Acts t _ (t.setType v tick type)
    unfold setType
    exact acts_setter rfl (fun _ => rfl) fun _ => rfl
  | markTakeover v tick =>
    change Acts t _ (t.markTakeover v tick)
    unfold markTakeover
    exact acts_setter rfl (fun _ => rfl) fun _ => rfl
  | markPermanentlyUnmanaged v tick =>
    change Acts t _ (t.markPermanentlyUnmanaged v tick)
    unfold markPermanentlyUnmanaged
    exact acts_setter rfl (fun _ => rfl) fun _ => rfl

end UdpStateTable

end Encapsule
