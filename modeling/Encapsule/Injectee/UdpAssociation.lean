import Mathlib.Data.List.FinRange
import Mathlib.Logic.Function.Basic
import Encapsule.Foundation.Mealy
import Encapsule.Injectee.UdpState

/-!
# UDP associations

`udp_association_table` of `udp_state.hpp`: 32 rows, each with the generation of its last use.  A
reference is a slot and a generation, so any pair of numbers is one, stale and invented references
included.  Generations are natural numbers.

The loop of `reap_idle` is a run of `reapRow` over the rows.
-/

namespace Encapsule

/-- `UDP_ASSOCIATION_MAX`. -/
abbrev udpAssociationMax : ℕ := 32

/-- `UDP_IDLE_LIMIT_TICKS`. -/
def udpIdleLimitTicks : ℕ := 30

/-- `UDP_NO_ROW`. -/
def udpNoRow : ℕ := 2 ^ 64 - 1

/-- `udp_association`. -/
structure UdpAssociation where
  control : Uintptr := 0
  relay : Uintptr := 0
  bound : UdpEndpoint := {}
  refcount : ℤ := 0
  generation : ℕ := 0
  lastUse : ℕ := 0
  deriving DecidableEq

/-- `udp_association_ref`. -/
structure UdpAssociationRef where
  slot : ℕ := udpNoRow
  generation : ℕ := 0
  deriving DecidableEq

/-- A row of the table. -/
structure UdpAssociationRow where
  state : UdpAssociation := {}
  used : Bool := false
  generation : ℕ := 0
  deriving DecidableEq

/-- `udp_association_table`. -/
structure UdpAssociationTable where
  rows : Fin udpAssociationMax → UdpAssociationRow := fun _ => {}
  live : ℕ := 0

namespace UdpAssociationTable

/-- The table with one row replaced. -/
def setRow (t : UdpAssociationTable) (i : Fin udpAssociationMax) (row : UdpAssociationRow) :
    UdpAssociationTable :=
  { t with rows := Function.update t.rows i row }

/-- The table with the association of a row replaced. -/
def setState (t : UdpAssociationTable) (i : Fin udpAssociationMax) (state : UdpAssociation) :
    UdpAssociationTable :=
  t.setRow i { t.rows i with state }

/-- The reference to what is in a row. -/
def refOf (t : UdpAssociationTable) (i : Fin udpAssociationMax) : UdpAssociationRef :=
  ⟨i, (t.rows i).generation⟩

/-- `row_of`, and `peek`: the row of a reference, if it still holds what it held. -/
def rowOf (t : UdpAssociationTable) (ref : UdpAssociationRef) : Option (Fin udpAssociationMax) :=
  if h : ref.slot ≠ udpNoRow ∧ ref.slot < udpAssociationMax then
    let i : Fin udpAssociationMax := ⟨ref.slot, h.2⟩
    if !(t.rows i).used ∨ (t.rows i).generation ≠ ref.generation then none else some i
  else
    none

/-- `close_row`: the generation stays, it is the guard against stale references. -/
def closeRow (t : UdpAssociationTable) (i : Fin udpAssociationMax) : UdpAssociationTable :=
  { t.setRow i { t.rows i with state := {}, used := false } with live := t.live - 1 }

/-- The row of the association with a control socket. -/
def findControl (t : UdpAssociationTable) (control : Uintptr) : Option (Fin udpAssociationMax) :=
  (List.finRange udpAssociationMax).find? fun i =>
    (t.rows i).used ∧ (t.rows i).state.control = control

/-- The first row that is not used. -/
def findUnused (t : UdpAssociationTable) : Option (Fin udpAssociationMax) :=
  (List.finRange udpAssociationMax).find? fun i => !(t.rows i).used

/-- `open`. -/
def «open» (t : UdpAssociationTable) (control relay : Uintptr) (bound : UdpEndpoint) (tick : ℕ) :
    UdpAssociationTable × UdpAssociationRef :=
  match t.findControl control with
  | some i => (t.setState i { (t.rows i).state with lastUse := tick }, t.refOf i)
  | none =>
    match t.findUnused with
    | some i =>
      let row : UdpAssociationRow :=
        { state := { control, relay, bound, lastUse := tick }
          used := true
          generation := (t.rows i).generation + 1 }
      ({ t.setRow i row with live := t.live + 1 }, ⟨i, row.generation⟩)
    | none => (t, {})

/-- `get`. -/
def get (t : UdpAssociationTable) (ref : UdpAssociationRef) : Option UdpAssociation :=
  (t.rowOf ref).map fun i => (t.rows i).state

/-- `touch`. -/
def touch (t : UdpAssociationTable) (ref : UdpAssociationRef) (tick : ℕ) : UdpAssociationTable :=
  match t.rowOf ref with
  | none => t
  | some i => t.setState i { (t.rows i).state with lastUse := tick }

/-- `acquire`. -/
def acquire (t : UdpAssociationTable) (ref : UdpAssociationRef) : UdpAssociationTable × Bool :=
  match t.rowOf ref with
  | none => (t, false)
  | some i =>
    (t.setState i { (t.rows i).state with refcount := (t.rows i).state.refcount + 1 }, true)

/-- `release`. -/
def release (t : UdpAssociationTable) (ref : UdpAssociationRef) (tick : ℕ) :
    UdpAssociationTable × Option UdpAssociation :=
  match t.rowOf ref with
  | none => (t, none)
  | some i =>
    let row := (t.rows i).state
    let row := if 0 < row.refcount then { row with refcount := row.refcount - 1 } else row
    if 0 < row.refcount then (t.setState i { row with lastUse := tick }, none)
    else ((t.setState i row).closeRow i, some row)

/-- The association in a row is past the idle limit and nobody holds it. -/
def idle (t : UdpAssociationTable) (tick : ℕ) (i : Fin udpAssociationMax) : Bool :=
  (t.rows i).used && decide ((t.rows i).state.refcount ≤ 0) &&
    decide ((t.rows i).state.lastUse ≤ tick) &&
    decide (udpIdleLimitTicks ≤ tick - (t.rows i).state.lastUse)

/-- The body of the loop of `reap_idle`. -/
def reapRow (tick : ℕ) (t : UdpAssociationTable) (i : Fin udpAssociationMax) :
    UdpAssociationTable × Option UdpAssociation :=
  if t.idle tick i then (t.closeRow i, some (t.rows i).state) else (t, none)

/-- `reap_idle`. -/
def reapIdle (t : UdpAssociationTable) (tick : ℕ) : UdpAssociationTable × List UdpAssociation :=
  (Mealy.run (reapRow tick) t (List.finRange udpAssociationMax),
    (Mealy.log (reapRow tick) t (List.finRange udpAssociationMax)).filterMap Prod.snd)

end UdpAssociationTable

/-- The operations of the table. -/
inductive UdpAssociationOp where
  | open (control relay : Uintptr) (bound : UdpEndpoint) (tick : ℕ)
  | get (ref : UdpAssociationRef)
  | touch (ref : UdpAssociationRef) (tick : ℕ)
  | acquire (ref : UdpAssociationRef)
  | release (ref : UdpAssociationRef) (tick : ℕ)
  | reapIdle (tick : ℕ)
  deriving DecidableEq

/-- What an operation answers. -/
inductive UdpAssociationAnswer where
  | ref (ref : UdpAssociationRef)
  | row (state : Option UdpAssociation)
  | flag (ok : Bool)
  | died (records : List UdpAssociation)
  | done
  deriving DecidableEq

namespace UdpAssociationTable

/-- One operation and its answer. -/
def step (t : UdpAssociationTable) : UdpAssociationOp → UdpAssociationTable × UdpAssociationAnswer
  | .open control relay bound tick =>
    ((t.open control relay bound tick).1, .ref (t.open control relay bound tick).2)
  | .get ref => (t, .row (t.get ref))
  | .touch ref tick => (t.touch ref tick, .done)
  | .acquire ref => ((t.acquire ref).1, .flag (t.acquire ref).2)
  | .release ref tick => ((t.release ref tick).1, .died (t.release ref tick).2.toList)
  | .reapIdle tick => ((t.reapIdle tick).1, .died (t.reapIdle tick).2)

end UdpAssociationTable

end Encapsule
