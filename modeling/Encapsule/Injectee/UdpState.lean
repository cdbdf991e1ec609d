import Mathlib.Data.List.MinMax
import Mathlib.Logic.Function.Basic
import Encapsule.Common.Schema
import Encapsule.Foundation.Mealy

/-!
# The state of the application's UDP sockets

`udp_state_table` of `udp_state.hpp`: 256 rows, each free or tracking one socket value, with a queue
of datagrams for each direction.  A pointer to a row is its index.  The `uint64_t` counters that
only ever grow by one are natural numbers, and the `int` that counts pins, whose overflow is
undefined, an integer; byte counts, which are added to and subtracted from, wrap.

* `UdpStateTable.open`: the row of a socket, created on first sight, perhaps in place of another.
* `UdpStateTable.push`, `UdpStateTable.pop`: the two ends of a queue.
* `UdpStateTable.step`: one operation of the table, with its answer.
-/

namespace Encapsule

/-- `UDP_STATE_MAX_ROWS`. -/
abbrev udpStateMaxRows : ℕ := 256

/-- `UDP_QUEUE_MAX_DATAGRAMS`. -/
def udpQueueMaxDatagrams : ℕ := 64

/-- `UDP_QUEUE_MAX_BYTES`. -/
def udpQueueMaxBytes : ℕ := 1024 * 1024

/-- `UDP_KEY_QUARANTINE_INSERTIONS`. -/
def udpKeyQuarantineInsertions : ℕ := 256

/-! ## Data -/

/-- `udp_endpoint`. -/
structure UdpEndpoint where
  atyp : UInt8 := 0
  octets : Bytes := List.replicate 16 0
  port : UInt16 := 0
  deriving DecidableEq

/-- `udp_socket_type`. -/
inductive UdpSocketType where
  | unknown
  | stream
  | dgram
  deriving DecidableEq

/-- `udp_datagram`. -/
structure UdpDatagram where
  peer : UdpEndpoint := {}
  payload : Bytes
  deriving DecidableEq

/-- `udp_state`: what the hook knows about one application socket. -/
structure UdpState where
  app : Uintptr := 0
  hasPeer : Bool := false
  peer : UdpEndpoint := {}
  type : UdpSocketType := .unknown
  takeover : Bool := false
  permanentlyUnmanaged : Bool := false
  tx : List UdpDatagram := []
  rx : List UdpDatagram := []
  txBytes : ℕ := 0
  rxBytes : ℕ := 0
  pinned : ℤ := 0
  lastUse : ℕ := 0
  deriving DecidableEq

namespace UdpState

/-- One of the two queues. -/
def queue (s : UdpState) (isRx : Bool) : List UdpDatagram := if isRx then s.rx else s.tx

/-- The byte count of one of the two queues. -/
def bytes (s : UdpState) (isRx : Bool) : ℕ := if isRx then s.rxBytes else s.txBytes

/-- One of the two queues and its byte count replaced. -/
def setQueue (s : UdpState) (isRx : Bool) (queue : List UdpDatagram) (bytes : ℕ) : UdpState :=
  if isRx then { s with rx := queue, rxBytes := bytes }
  else { s with tx := queue, txBytes := bytes }

/-- The datagrams in both queues. -/
def queued (s : UdpState) : ℕ := s.tx.length + s.rx.length

end UdpState

/-- `udp_push`. -/
inductive UdpPush where
  | accepted
  | droppedOldest
  | refused
  deriving DecidableEq

/-- A row of the table. -/
structure UdpRow where
  state : UdpState := {}
  used : Bool := false
  deriving DecidableEq

/-- The value of a closed socket, and the insertion from which on it may come back. -/
structure RetiredKey where
  app : Uintptr
  reusableAt : ℕ
  deriving DecidableEq

/-- `udp_state_table`. -/
structure UdpStateTable where
  rows : Fin udpStateMaxRows → UdpRow := fun _ => {}
  retired : List RetiredKey := []
  owned : List Uintptr := []
  insertions : ℕ := 0
  rowsUsed : ℕ := 0
  dropped : ℕ := 0
  discarded : ℕ := 0
  refused : ℕ := 0

namespace UdpStateTable

/-! ## Rows -/

/-- The table with one row replaced. -/
def setRow (t : UdpStateTable) (i : Fin udpStateMaxRows) (row : UdpRow) : UdpStateTable :=
  { t with rows := Function.update t.rows i row }

/-- The table with the state behind a pointer replaced. -/
def setState (t : UdpStateTable) (i : Fin udpStateMaxRows) (state : UdpState) : UdpStateTable :=
  t.setRow i { t.rows i with state }

/-- `mutable_row`, and the scan at the start of `open`, `find` and `retire`. -/
def mutableRow (t : UdpStateTable) (app : Uintptr) : Option (Fin udpStateMaxRows) :=
  (List.finRange udpStateMaxRows).find? fun i => (t.rows i).used ∧ (t.rows i).state.app = app

/-- `find`. -/
def find (t : UdpStateTable) (app : Uintptr) : Option UdpState :=
  (t.mutableRow app).map fun i => (t.rows i).state

/-- `find_slot_for`: a free row, else the least recently used row nobody is pinning. -/
def findSlotFor (t : UdpStateTable) (app : Uintptr) : Option (Fin udpStateMaxRows) :=
  match (List.finRange udpStateMaxRows).find? fun i => !(t.rows i).used with
  | some i => some i
  | none =>
    ((List.finRange udpStateMaxRows).filter fun i =>
      (t.rows i).state.pinned = 0 ∧ (t.rows i).state.app ≠ app).argmin
        fun i => (t.rows i).state.lastUse

/-- `is_quarantined`. -/
def isQuarantined (t : UdpStateTable) (app : Uintptr) : Bool :=
  t.retired.any fun key => key.app == app && decide (t.insertions < key.reusableAt)

/-- `prune_quarantine`. -/
def pruneQuarantine (t : UdpStateTable) : UdpStateTable :=
  { t with retired := t.retired.filter fun key => t.insertions < key.reusableAt }

/-- The second half of `open`: the slot becomes the row of a socket not seen before. -/
def claimRow (t : UdpStateTable) (slot : Fin udpStateMaxRows) (app : Uintptr) (tick : ℕ) :
    UdpStateTable :=
  let t :=
    if (t.rows slot).used then
      -- Eviction: whatever the row was holding is gone, and is counted.
      { t with discarded := t.discarded + (t.rows slot).state.queued }
    else
      { t with rowsUsed := t.rowsUsed + 1 }
  t.setRow slot { used := true, state := { app, lastUse := tick } }

/-- `open`. -/
def «open» (t : UdpStateTable) (app : Uintptr) (tick : ℕ) :
    UdpStateTable × Option (Fin udpStateMaxRows) :=
  match t.mutableRow app with
  | some i => (t.setState i { (t.rows i).state with lastUse := tick }, some i)
  | none =>
    let t := { t with insertions := t.insertions + 1 }.pruneQuarantine
    if t.isQuarantined app then (t, none)
    else
      match t.findSlotFor app with
      | none => (t, none)
      | some slot => (t.claimRow slot app tick, some slot)

/-- `retire`. -/
def retire (t : UdpStateTable) (app : Uintptr) : UdpStateTable × Bool :=
  match t.mutableRow app with
  | none => (t, false)
  | some i =>
    ({ t.setRow i { state := {}, used := false } with
      discarded := t.discarded + (t.rows i).state.queued
      rowsUsed := t.rowsUsed - 1
      retired := t.retired ++ [⟨app, t.insertions + udpKeyQuarantineInsertions⟩] }, true)

/-! ## Queues -/

/-- The loop of `push`: drops the oldest datagrams until one of `size` octets fits.  Returns what is
left of the queue, its byte count and the number of datagrams lost. -/
def dropOldest (size : ℕ) : List UdpDatagram → ℕ → List UdpDatagram × ℕ × ℕ
  | [], bytes => ([], bytes, 0)
  | front :: queue, bytes =>
    if udpQueueMaxDatagrams < (front :: queue).length + 1 ∨ udpQueueMaxBytes < bytes + size then
      let (queue, bytes, lost) := dropOldest size queue (wrapSub64 bytes front.payload.length)
      (queue, bytes, lost + 1)
    else
      (front :: queue, bytes, 0)

/-- `push`. -/
def push (t : UdpStateTable) (app : Uintptr) (tick : ℕ) (dgram : UdpDatagram) (toRx : Bool) :
    UdpStateTable × UdpPush :=
  let (t, row) := t.open app tick
  match row with
  | none => ({ t with refused := t.refused + 1 }, .refused)
  | some i =>
    let size := dgram.payload.length
    if udpQueueMaxBytes < size then ({ t with refused := t.refused + 1 }, .refused)
    else
      let state := (t.rows i).state
      let (queue, bytes, lost) := dropOldest size (state.queue toRx) (state.bytes toRx)
      ({ t with dropped := t.dropped + lost }.setState i
        (state.setQueue toRx (queue ++ [dgram]) (wrap64 (bytes + size))),
        if lost = 0 then .accepted else .droppedOldest)

/-- `pop`. -/
def pop (t : UdpStateTable) (app : Uintptr) (tick : ℕ) (fromRx : Bool) :
    UdpStateTable × Option UdpDatagram :=
  match t.mutableRow app with
  | none => (t, none)
  | some i =>
    let state := { (t.rows i).state with lastUse := tick }
    match state.queue fromRx with
    | [] => (t.setState i state, none)
    | next :: queue =>
      (t.setState i (state.setQueue fromRx queue
        (wrapSub64 (state.bytes fromRx) next.payload.length)), some next)

/-! ## Setters and pins -/

/-- A setter: the row of the socket, created on first sight, is changed. -/
def update (t : UdpStateTable) (app : Uintptr) (tick : ℕ) (change : UdpState → UdpState) :
    UdpStateTable :=
  let (t, row) := t.open app tick
  match row with
  | none => t
  | some i => t.setState i (change (t.rows i).state)

/-- `set_peer`. -/
def setPeer (t : UdpStateTable) (app : Uintptr) (tick : ℕ) (peer : UdpEndpoint) : UdpStateTable :=
  t.update app tick fun row => { row with peer, hasPeer := true }

/-- `set_type`. -/
def setType (t : UdpStateTable) (app : Uintptr) (tick : ℕ) (type : UdpSocketType) :
    UdpStateTable :=
  t.update app tick fun row => { row with type }

/-- `mark_takeover`. -/
def markTakeover (t : UdpStateTable) (app : Uintptr) (tick : ℕ) : UdpStateTable :=
  t.update app tick fun row => { row with takeover := true }

/-- `mark_permanently_unmanaged`. -/
def markPermanentlyUnmanaged (t : UdpStateTable) (app : Uintptr) (tick : ℕ) : UdpStateTable :=
  t.update app tick fun row => { row with permanentlyUnmanaged := true }

/-- `pin`. -/
def pin (t : UdpStateTable) (app : Uintptr) : UdpStateTable × Bool :=
  match t.mutableRow app with
  | none => (t, false)
  | some i =>
    (t.setState i { (t.rows i).state with pinned := (t.rows i).state.pinned + 1 }, true)

/-- `unpin`. -/
def unpin (t : UdpStateTable) (app : Uintptr) : UdpStateTable × Bool :=
  match t.mutableRow app with
  | none => (t, false)
  | some i =>
    if (t.rows i).state.pinned = 0 then (t, false)
    else (t.setState i { (t.rows i).state with pinned := (t.rows i).state.pinned - 1 }, true)

/-- `own`. -/
def own (t : UdpStateTable) (socket : Uintptr) : UdpStateTable :=
  if socket ∈ t.owned then t else { t with owned := t.owned ++ [socket] }

/-- `unown`. -/
def unown (t : UdpStateTable) (socket : Uintptr) : UdpStateTable × Bool :=
  if socket ∈ t.owned then ({ t with owned := t.owned.erase socket }, true) else (t, false)

end UdpStateTable

/-! ## Operations -/

/-- The operations of the table. -/
inductive UdpOp where
  | open (app : Uintptr) (tick : ℕ)
  | retire (app : Uintptr)
  | push (app : Uintptr) (tick : ℕ) (dgram : UdpDatagram) (toRx : Bool)
  | pop (app : Uintptr) (tick : ℕ) (fromRx : Bool)
  | setPeer (app : Uintptr) (tick : ℕ) (peer : UdpEndpoint)
  | setType (app : Uintptr) (tick : ℕ) (type : UdpSocketType)
  | markTakeover (app : Uintptr) (tick : ℕ)
  | markPermanentlyUnmanaged (app : Uintptr) (tick : ℕ)
  | pin (app : Uintptr)
  | unpin (app : Uintptr)
  | own (socket : Uintptr)
  | unown (socket : Uintptr)
  deriving DecidableEq

/-- What an operation answers. -/
inductive UdpAnswer where
  | row (state : Option UdpState)
  | flag (ok : Bool)
  | pushed (outcome : UdpPush)
  | popped (dgram : Option UdpDatagram)
  | done
  deriving DecidableEq

namespace UdpStateTable

/-- One operation and its answer.  `push_tx` and `push_rx` are `push` with the direction; so are
`pop_tx` and `pop_rx`. -/
def step (t : UdpStateTable) : UdpOp → UdpStateTable × UdpAnswer
  | .open app tick =>
    let (t, row) := t.open app tick
    (t, .row (row.map fun i => (t.rows i).state))
  | .retire app => ((t.retire app).1, .flag (t.retire app).2)
  | .push app tick dgram toRx =>
    ((t.push app tick dgram toRx).1, .pushed (t.push app tick dgram toRx).2)
  | .pop app tick fromRx => ((t.pop app tick fromRx).1, .popped (t.pop app tick fromRx).2)
  | .setPeer app tick peer => (t.setPeer app tick peer, .done)
  | .setType app tick type => (t.setType app tick type, .done)
  | .markTakeover app tick => (t.markTakeover app tick, .done)
  | .markPermanentlyUnmanaged app tick => (t.markPermanentlyUnmanaged app tick, .done)
  | .pin app => ((t.pin app).1, .flag (t.pin app).2)
  | .unpin app => ((t.unpin app).1, .flag (t.unpin app).2)
  | .own socket => (t.own socket, .done)
  | .unown socket => ((t.unown socket).1, .flag (t.unown socket).2)

end UdpStateTable

end Encapsule
