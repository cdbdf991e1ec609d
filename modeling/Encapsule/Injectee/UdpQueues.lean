import Mathlib.Algebra.Order.BigOperators.Group.List
import Mathlib.Algebra.Order.Ring.Nat
import Encapsule.Foundation.LongestSuffix
import Encapsule.Injectee.UdpStep

/-!
# Datagram queues within their two budgets

A queue of `udp_state_table` is bounded twice, by the number of its datagrams and by their octets
(`FitsBudgets`), and a row keeps the octets of each queue beside it.  A push throws away the oldest
datagrams until the newcomer fits, which leaves the longest suffix that is within both budgets
(`trimmed_dropOldest`); the byte count is right all along, so that no subtraction wraps.
-/

namespace Encapsule

open LongestSuffix

namespace UdpStateTable

variable {queue : List UdpDatagram} {front dgram : UdpDatagram} {size bytes : ℕ} {rx : Bool}
  {s : UdpState}

/-! ## Budgets -/

/-- The octets in a queue. -/
def payloadBytes (queue : List UdpDatagram) : ℕ := (queue.map fun dgram => dgram.payload.length).sum

/-- The queue is within both budgets. -/
def FitsBudgets (queue : List UdpDatagram) : Prop :=
  queue.length ≤ udpQueueMaxDatagrams ∧ payloadBytes queue ≤ udpQueueMaxBytes

@[simp] lemma payloadBytes_nil : payloadBytes [] = 0 := rfl

@[simp] lemma payloadBytes_cons :
    payloadBytes (front :: queue) = front.payload.length + payloadBytes queue :=
  List.sum_cons

@[simp] lemma payloadBytes_concat :
    payloadBytes (queue ++ [dgram]) = payloadBytes queue + dgram.payload.length := by
  simp [payloadBytes]

lemma fitsBudgets_nil : FitsBudgets [] := ⟨Nat.zero_le _, Nat.zero_le _⟩

/-- Fewer datagrams stay within the budgets. -/
lemma FitsBudgets.sublist {queue' : List UdpDatagram} (h : FitsBudgets queue)
    (hsub : queue'.Sublist queue) : FitsBudgets queue' := by
  have hmap : (queue'.map fun dgram => dgram.payload.length).Sublist
      (queue.map fun dgram => dgram.payload.length) := hsub.map _
  have hbytes : payloadBytes queue' ≤ payloadBytes queue :=
    hmap.sum_le_sum fun _ _ => Nat.zero_le _
  exact ⟨hsub.length_le.trans h.1, hbytes.trans h.2⟩

/-- A subtraction that takes away no more than there is does not wrap. -/
lemma wrapSub64_of_le {n m : ℕ} (hm : m ≤ n) (hn : n < 2 ^ 64) : wrapSub64 n m = n - m := by
  unfold wrapSub64
  have hshift : n + 2 ^ 64 - m = (n - m) + 2 ^ 64 := by omega
  rw [hshift, Nat.add_mod_right]
  exact Nat.mod_eq_of_lt (by omega)

/-! ## The loop of a push -/

/-- The loop of `push` never takes more from the byte count than is in it. -/
def NeverUnderflows (size : ℕ) : List UdpDatagram → ℕ → Prop
  | [], _ => True
  | front :: queue, bytes =>
    udpQueueMaxDatagrams < (front :: queue).length + 1 ∨ udpQueueMaxBytes < bytes + size →
      front.payload.length ≤ bytes ∧
        NeverUnderflows size queue (wrapSub64 bytes front.payload.length)

/-- What the loop of `push` leaves of a queue to which a datagram is going to be added. -/
structure Trimmed (queue : List UdpDatagram) (dgram : UdpDatagram)
    (left : List UdpDatagram × ℕ × ℕ) : Prop where
  longest : IsLongest FitsBudgets (left.1 ++ [dgram]) (queue ++ [dgram])
  bytes : left.2.1 = payloadBytes left.1
  lost : left.2.2 + left.1.length = queue.length

/-- The test of the loop is whether the newcomer fits. -/
lemma over_iff (hbytes : bytes = payloadBytes queue) :
    (udpQueueMaxDatagrams < queue.length + 1 ∨
        udpQueueMaxBytes < bytes + dgram.payload.length) ↔
      ¬FitsBudgets (queue ++ [dgram]) := by
  subst hbytes
  unfold FitsBudgets
  rw [payloadBytes_concat, List.length_append, List.length_singleton]
  omega

/-- The loop of `push` throws away what it must and nothing else. -/
lemma trimmed_dropOldest (hsize : dgram.payload.length ≤ udpQueueMaxBytes)
    (hbytes : bytes = payloadBytes queue) (hfits : bytes < 2 ^ 64) :
    Trimmed queue dgram (dropOldest dgram.payload.length queue bytes) ∧
      NeverUnderflows dgram.payload.length queue bytes := by
  induction queue generalizing bytes with
  | nil =>
    have hfirst : FitsBudgets [dgram] := by
      constructor
      · change 1 ≤ udpQueueMaxDatagrams
        decide
      · simpa using hsize
    exact ⟨⟨IsLongest.refl hfirst, hbytes, rfl⟩, trivial⟩
  | cons front queue ih =>
    have hfront : front.payload.length ≤ bytes := by
      rw [hbytes, payloadBytes_cons]
      exact Nat.le_add_right _ _
    have hsub : wrapSub64 bytes front.payload.length = payloadBytes queue := by
      rw [wrapSub64_of_le hfront hfits, hbytes, payloadBytes_cons, Nat.add_sub_cancel_left]
    have hrest : payloadBytes queue < 2 ^ 64 := by
      rw [← hsub]
      exact Nat.mod_lt _ (Nat.two_pow_pos 64)
    obtain ⟨htrim, hnever⟩ := ih hsub (hsub ▸ hrest)
    refine ⟨?_, fun _ => ⟨hfront, hnever⟩⟩
    unfold dropOldest
    split_ifs with hover
    · refine ⟨?_, htrim.bytes, ?_⟩
      · exact htrim.longest.cons ((over_iff hbytes).mp hover)
      · have hlost := htrim.lost
        rw [List.length_cons, ← hlost, Nat.add_right_comm]
    · refine ⟨IsLongest.refl ?_, hbytes, Nat.zero_add _⟩
      exact not_not.mp fun hnot => hover ((over_iff hbytes).mpr hnot)

/-! ## Rows -/

/-- A row keeps its queues within their budgets, the octets of each beside it, and its pins. -/
structure RowOk (s : UdpState) : Prop where
  fits : ∀ rx, FitsBudgets (s.queue rx)
  bytes : ∀ rx, s.bytes rx = payloadBytes (s.queue rx)
  pinned : 0 ≤ s.pinned

/-- The count of the octets in a queue that is within its budgets is far from wrapping. -/
lemma RowOk.bytes_lt (h : RowOk s) (rx : Bool) : s.bytes rx < 2 ^ 64 := by
  have hle : s.bytes rx ≤ udpQueueMaxBytes := (h.bytes rx).trans_le (h.fits rx).2
  exact hle.trans_lt (by decide)

/-- A blank row. -/
lemma rowOk_blank (v : Uintptr) (tick : ℕ) : RowOk { app := v, lastUse := tick } := by
  refine ⟨fun rx => ?_, fun rx => ?_, le_rfl⟩
  · cases rx <;> exact fitsBudgets_nil
  · cases rx <;> rfl

/-- The byte count that goes with a queue is replaced with it, and the other stays. -/
lemma bytes_setQueue (s : UdpState) (rx rx' : Bool) (queue : List UdpDatagram) (bytes : ℕ) :
    (s.setQueue rx queue bytes).bytes rx' = if rx = rx' then bytes else s.bytes rx' := by
  cases rx <;> cases rx' <;> rfl

/-- Whatever a queue is replaced with, the rest of the row stays. -/
lemma setQueue_rest (s : UdpState) (rx : Bool) (queue : List UdpDatagram) (bytes : ℕ) :
    (s.setQueue rx queue bytes).queue (!rx) = s.queue (!rx) ∧
      (s.setQueue rx queue bytes).bytes (!rx) = s.bytes (!rx) ∧
      (s.setQueue rx queue bytes).hasPeer = s.hasPeer ∧
      (s.setQueue rx queue bytes).peer = s.peer ∧
      (s.setQueue rx queue bytes).type = s.type ∧
      (s.setQueue rx queue bytes).takeover = s.takeover ∧
      (s.setQueue rx queue bytes).permanentlyUnmanaged = s.permanentlyUnmanaged ∧
      (s.setQueue rx queue bytes).pinned = s.pinned := by
  cases rx <;> exact ⟨rfl, rfl, rfl, rfl, rfl, rfl, rfl, rfl⟩

/-- A queue may be replaced by another within its budgets, together with its octets. -/
lemma RowOk.setQueue (h : RowOk s) (hfits : FitsBudgets queue)
    (hbytes : bytes = payloadBytes queue) : RowOk (s.setQueue rx queue bytes) := by
  refine ⟨fun rx' => ?_, fun rx' => ?_, ?_⟩
  · rw [queue_setQueue]
    split_ifs
    · exact hfits
    · exact h.fits rx'
  · rw [queue_setQueue, bytes_setQueue]
    split_ifs
    · exact hbytes
    · exact h.bytes rx'
  · cases rx <;> exact h.pinned

/-- What a push leaves of the queue it goes to. -/
lemma RowOk.trimmed (h : RowOk s) (rx : Bool)
    (hsize : dgram.payload.length ≤ udpQueueMaxBytes) :
    Trimmed (s.queue rx) dgram (UdpOp.dropped dgram rx s) ∧
      NeverUnderflows dgram.payload.length (s.queue rx) (s.bytes rx) :=
  trimmed_dropOldest hsize (h.bytes rx) (h.bytes_lt rx)

/-- The octets of a queue that a datagram was added to do not wrap. -/
lemma Trimmed.wrap64_eq {left : List UdpDatagram × ℕ × ℕ} (h : Trimmed queue dgram left) :
    wrap64 (left.2.1 + dgram.payload.length) = payloadBytes (left.1 ++ [dgram]) := by
  rw [payloadBytes_concat, ← h.bytes]
  apply Nat.mod_eq_of_lt
  have hfits := h.longest.fits.2
  rw [payloadBytes_concat, ← h.bytes] at hfits
  exact hfits.trans_lt (by decide)

/-- A push keeps a row in order. -/
lemma RowOk.pushed (h : RowOk s) (dgram : UdpDatagram) (rx : Bool) :
    RowOk (UdpOp.pushed dgram rx s) := by
  unfold UdpOp.pushed
  split_ifs with hsize
  · exact h
  · obtain ⟨htrim, -⟩ := h.trimmed rx (Nat.not_lt.mp hsize)
    exact h.setQueue htrim.longest.fits htrim.wrap64_eq

/-- A pop keeps a row in order. -/
lemma RowOk.popped (h : RowOk s) (rx : Bool) : RowOk (UdpOp.popped rx s) := by
  unfold UdpOp.popped
  cases hqueue : s.queue rx with
  | nil => exact h
  | cons next queue =>
    have hfits := h.fits rx
    have hbytes := h.bytes rx
    rw [hqueue] at hfits hbytes
    refine h.setQueue (hfits.sublist (List.sublist_cons_self next queue)) ?_
    rw [payloadBytes_cons] at hbytes
    have hnext : next.payload.length ≤ s.bytes rx := by omega
    rw [wrapSub64_of_le hnext (h.bytes_lt rx)]
    omega

/-- Whatever an operation does to a row keeps it in order. -/
lemma RowOk.rewrite (h : RowOk s) (op : UdpOp) : RowOk (op.rewrite s) := by
  have htouch (tick : ℕ) : RowOk (UdpOp.touched tick s) := ⟨h.fits, h.bytes, h.pinned⟩
  cases op with
  | push v tick dgram toRx => exact (htouch tick).pushed dgram toRx
  | pop v tick fromRx => exact (htouch tick).popped fromRx
  | pin v => exact ⟨h.fits, h.bytes, Int.add_nonneg h.pinned Int.one_nonneg⟩
  | unpin v =>
    change RowOk (UdpOp.unpinned s)
    have hpinned := h.pinned
    unfold UdpOp.unpinned
    split_ifs with hzero
    · exact h
    · have hleft : 0 ≤ s.pinned - 1 := by omega
      exact ⟨h.fits, h.bytes, hleft⟩
  | retire v => exact h
  | own socket => exact h
  | unown socket => exact h
  | «open» v tick => exact htouch tick
  | setPeer v tick peer => exact ⟨h.fits, h.bytes, h.pinned⟩
  | setType v tick type => exact ⟨h.fits, h.bytes, h.pinned⟩
  | markTakeover v tick => exact ⟨h.fits, h.bytes, h.pinned⟩
  | markPermanentlyUnmanaged v tick => exact ⟨h.fits, h.bytes, h.pinned⟩

variable {t t' : UdpStateTable} {op : UdpOp}

/-- What holds of a blank row, and is kept by whatever an operation does to a row, is kept in the
whole table. -/
lemma Acts.forall_rows {P : UdpState → Prop} (h : Acts t op t')
    (hblank : ∀ v tick, P { app := v, lastUse := tick }) (hkeep : ∀ s, P s → P (op.rewrite s))
    (ht : ∀ i, P (t.rows i).state) (i : Fin udpStateMaxRows) : P (t'.rows i).state := by
  cases h with
  | rest => exact ht i
  | @rewrites v j =>
    change P ((t.setState j _).rows i).state
    by_cases hij : i = j
    · subst hij
      rw [rows_setState_self]
      exact hkeep _ (ht i)
    · rw [rows_setState_of_ne _ hij]
      exact ht i
  | turnsAway => exact ht i
  | @claims v tick slot =>
    change P (((t.inserted.claimRow slot v tick).setState slot _).rows i).state
    by_cases hij : i = slot
    · subst hij
      rw [rows_setState_self]
      exact hkeep _ (hblank v tick)
    · rw [rows_setState_of_ne _ hij, rows_claimRow, rows_setRow_of_ne _ hij]
      exact ht i
  | @retires v j =>
    change P ((t.setRow j _).rows i).state
    by_cases hij : i = j
    · subst hij
      rw [rows_setRow_self]
      exact hblank 0 0
    · rw [rows_setRow_of_ne _ hij]
      exact ht i

/-- The rows are in order in every run. -/
lemma rowOk_run (ops : List UdpOp) (i : Fin udpStateMaxRows) :
    RowOk ((Mealy.run step {} ops).rows i).state := by
  have hempty : ∀ i, RowOk ((({} : UdpStateTable).rows i).state) := fun _ => rowOk_blank 0 0
  exact Mealy.run_invariant (P := fun t => ∀ i, RowOk (t.rows i).state)
    (fun t op ht => (step_acts t op).forall_rows rowOk_blank (fun _ hs => hs.rewrite op) ht)
    hempty ops i

/-! ## Pushes -/

/-- The row of a socket, or the blank one it would start with. -/
def rowFor (t : UdpStateTable) (v : Uintptr) : UdpState := (t.find v).getD { app := v }

/-- The row that is opened is the row of the socket, touched. -/
lemma state_open {v : Uintptr} {tick : ℕ} {i : Fin udpStateMaxRows}
    (h : (t.open v tick).2 = some i) :
    ((t.open v tick).1.rows i).state = UdpOp.touched tick (t.rowFor v) := by
  unfold rowFor find
  rcases open_cases t v tick with ⟨j, hrow, hopen⟩ | ⟨-, -, hopen⟩ | ⟨hrow, -, slot, -, hopen⟩
  · rw [hopen] at h ⊢
    obtain rfl : j = i := Option.some.inj h
    rw [rows_setState_self, hrow]
    rfl
  · rw [hopen] at h
    cases h
  · rw [hopen] at h ⊢
    obtain rfl : slot = i := Option.some.inj h
    rw [state_claimRow, hrow]
    rfl

/-- A socket that is tracked is found with the state of its row. -/
lemma Inv.find_eq {v : Uintptr} {i : Fin udpStateMaxRows} (hinv : t.Inv) (h : t.Tracks i v) :
    t.find v = some (t.rows i).state := by
  unfold find
  rw [hinv.mutableRow_eq_some h]
  rfl

/-- The rows a socket may start with are in order. -/
lemma rowOk_rowFor (ops : List UdpOp) (v : Uintptr) : RowOk ((Mealy.run step {} ops).rowFor v) := by
  unfold rowFor find
  cases (Mealy.run step {} ops).mutableRow v with
  | none => exact rowOk_blank v 0
  | some i => exact rowOk_run ops i

/-- A push to a socket that gets or has a row rewrites this row, and tells whether and how much it
dropped. -/
lemma push_of_open {v : Uintptr} {tick : ℕ} {toRx : Bool} (hinv : t.Inv)
    (hsize : dgram.payload.length ≤ udpQueueMaxBytes) (hrow : (t.open v tick).2 ≠ none) :
    (t.push v tick dgram toRx).1.find v =
        some (UdpOp.pushed dgram toRx (UdpOp.touched tick (t.rowFor v))) ∧
      (t.push v tick dgram toRx).1.dropped =
        t.dropped + (UdpOp.dropped dgram toRx (UdpOp.touched tick (t.rowFor v))).2.2 ∧
      (t.push v tick dgram toRx).2 =
        if (UdpOp.dropped dgram toRx (UdpOp.touched tick (t.rowFor v))).2.2 = 0 then .accepted
        else .droppedOldest := by
  have hinv' : (t.push v tick dgram toRx).1.Inv := (hinv.handles_push v tick dgram toRx).inv
  rcases push_cases t v tick dgram toRx with ⟨hno, -⟩ | ⟨-, i, hi, h⟩
  · rcases hno with hno | hno
    · exact absurd hno hrow
    · exact absurd hsize (Nat.not_le.mpr hno)
  · have hstate := state_open hi
    have htracks := tracks_open hi
    have hcounts := (counts_open t v tick).1
    rw [hstate] at h
    have hpushed : UdpOp.pushed dgram toRx (UdpOp.touched tick (t.rowFor v)) = _ :=
      if_neg (Nat.not_lt.mpr hsize)
    have happ : (UdpOp.pushed dgram toRx (UdpOp.touched tick (t.rowFor v))).app = v := by
      have hkeep := UdpOp.app_rewrite (.push v tick dgram toRx) (t.rowFor v)
      have hold : (UdpOp.touched tick (t.rowFor v)).app = v := hstate ▸ htracks.2
      exact hkeep.trans hold
    have hrows : (t.push v tick dgram toRx).1.rows i =
        { (t.open v tick).1.rows i with
          state := UdpOp.pushed dgram toRx (UdpOp.touched tick (t.rowFor v)) } := by
      rw [h, hpushed]
      exact rows_setState_self _
    refine ⟨?_, ?_, ?_⟩
    · have htracks' : (t.push v tick dgram toRx).1.Tracks i v := by
        unfold Tracks
        rw [hrows]
        exact ⟨htracks.1, happ⟩
      rw [hinv'.find_eq htracks', hrows]
    · rw [h, ← hcounts]
      rfl
    · rw [h]
      rfl

/-- Nothing is lost exactly if the queue keeps all it held. -/
lemma Trimmed.lost_eq_zero_iff {left : List UdpDatagram × ℕ × ℕ} (h : Trimmed queue dgram left) :
    left.2.2 = 0 ↔ left.1 ++ [dgram] = queue ++ [dgram] := by
  have hlost := h.lost
  constructor
  · intro hzero
    refine h.longest.suffix.eq_of_length ?_
    rw [List.length_append, List.length_append]
    omega
  · intro heq
    rw [List.append_cancel_right heq] at hlost
    omega

/-- **A push drops no more than it must.** The byte count never underflows, the queue becomes the
longest suffix within both budgets of what it held and the newcomer, whatever was cut off is
reported and counted, and nothing else of the row changes. -/
theorem push_keeps_longest (ops : List UdpOp) (v : Uintptr) (tick : ℕ) (dgram : UdpDatagram)
    (toRx : Bool) (hsize : dgram.payload.length ≤ udpQueueMaxBytes)
    (hrow : ((Mealy.run step {} ops).open v tick).2 ≠ none) :
    let t := Mealy.run step {} ops
    let t' := (t.push v tick dgram toRx).1
    let old := t.rowFor v
    NeverUnderflows dgram.payload.length (old.queue toRx) (old.bytes toRx) ∧
      ∃ new, t'.find v = some new ∧
        IsLongest FitsBudgets (new.queue toRx) (old.queue toRx ++ [dgram]) ∧
        (t.push v tick dgram toRx).2 =
          (if new.queue toRx = old.queue toRx ++ [dgram] then .accepted else .droppedOldest) ∧
        t'.dropped + (new.queue toRx).length =
          t.dropped + (old.queue toRx ++ [dgram]).length ∧
        new.queue (!toRx) = old.queue (!toRx) ∧ new.bytes (!toRx) = old.bytes (!toRx) ∧
        new.hasPeer = old.hasPeer ∧ new.peer = old.peer ∧ new.type = old.type ∧
        new.takeover = old.takeover ∧ new.permanentlyUnmanaged = old.permanentlyUnmanaged ∧
        new.pinned = old.pinned := by
  intro t t' old
  have hinv : t.Inv := (inv_empty.handles_run ops).inv
  have hok : RowOk (UdpOp.touched tick old) := by
    have hold : RowOk old := rowOk_rowFor ops v
    exact ⟨hold.fits, hold.bytes, hold.pinned⟩
  obtain ⟨htrim, hnever⟩ := hok.trimmed toRx hsize
  have hqueue : (UdpOp.touched tick old).queue toRx = old.queue toRx := rfl
  have hbytes : (UdpOp.touched tick old).bytes toRx = old.bytes toRx := rfl
  rw [hqueue] at htrim hnever
  obtain ⟨hfind, hdropped, hanswer⟩ := push_of_open hinv hsize hrow
  have hpushed : UdpOp.pushed dgram toRx (UdpOp.touched tick old) = _ :=
    if_neg (Nat.not_lt.mpr hsize)
  have hleft : (UdpOp.pushed dgram toRx (UdpOp.touched tick old)).queue toRx =
      (UdpOp.dropped dgram toRx (UdpOp.touched tick old)).1 ++ [dgram] := by
    rw [hpushed, queue_setQueue, if_pos rfl]
  refine ⟨hbytes ▸ hnever, _, hfind, ?_, ?_, ?_, ?_⟩
  · rw [hleft]
    exact htrim.longest
  · rw [hleft, hanswer]
    exact if_congr htrim.lost_eq_zero_iff rfl rfl
  · have hlost := htrim.lost
    have hcount : t'.dropped =
        t.dropped + (UdpOp.dropped dgram toRx (UdpOp.touched tick old)).2.2 := hdropped
    rw [hleft, hcount, List.length_append, List.length_append]
    omega
  · rw [hpushed]
    exact setQueue_rest (UdpOp.touched tick old) toRx _ _

/-- A socket with 64 datagrams queued. -/
def pushedOften : UdpStateTable :=
  Mealy.run step {} (List.replicate 64 (.push 7 0 { payload := [1] } false))

/-- A 65th datagram on top of 64: the oldest is dropped. -/
theorem push_keeps_longest_oldest :
    (pushedOften.push 7 1 { payload := [2] } false).2 = .droppedOldest ∧
      ∃ new, (pushedOften.push 7 1 { payload := [2] } false).1.find 7 = some new ∧
        IsLongest FitsBudgets (new.queue false)
          ((pushedOften.rowFor 7).queue false ++ [{ payload := [2] }]) ∧
        (pushedOften.push 7 1 { payload := [2] } false).1.dropped + (new.queue false).length =
          65 := by
  have hbefore : pushedOften.dropped +
      (((pushedOften.rowFor 7).queue false).length + 1) = 65 := by
    decide +kernel
  have hrun : Mealy.run step {} (List.replicate 64 (.push 7 0 { payload := [1] } false)) =
      pushedOften := rfl
  have hkeep := push_keeps_longest
    (List.replicate 64 (.push 7 0 { payload := [1] } false)) 7 1 { payload := [2] } false
    (by decide) (by decide +kernel)
  rw [hrun] at hkeep
  obtain ⟨-, new, hfind, hlongest, -, hcount, -⟩ := hkeep
  rw [List.length_append, List.length_singleton] at hcount
  exact ⟨by decide +kernel, new, hfind, hlongest, hcount.trans hbefore⟩

end UdpStateTable

end Encapsule
