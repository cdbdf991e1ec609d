import Mathlib.Algebra.Group.Nat.Defs
import Mathlib.Data.List.Basic

/-!
# The messages of the control connection

The protobuf messages of `schema.hpp` as records of optional fields: an absent field and an empty
one are different values.  Strings and byte strings are both `Bytes`; the wire encoding itself
belongs to the protobuf library and is a parameter wherever it matters (`Common/AsyncIo`).
-/

namespace Encapsule

/-- The octets of a `std::string`, of a byte vector or of a memory area. -/
abbrev Bytes := List UInt8

/-- A Windows `DWORD`; process ids are of this type. -/
abbrev DWORD := UInt32

/-- A socket value as the `udp_state.hpp` tables key it, a `std::uintptr_t`. -/
abbrev Uintptr := UInt64

/-- A `uint64_t` or `size_t` after an addition. -/
def wrap64 (n : ℕ) : ℕ := n % 2 ^ 64

/-- A `uint64_t` or `size_t` after a subtraction. -/
def wrapSub64 (n m : ℕ) : ℕ := (n + 2 ^ 64 - m) % 2 ^ 64

/-- An `asio::ip::address`: the value `to_uint` reports, or the sixteen octets in wire order. -/
inductive IpAddress where
  | v4 (addr : UInt32)
  | v6 (bytes : Vector UInt8 16)
  deriving DecidableEq

/-- An endpoint as it travels in a message: an address in one of three spellings, and a port. -/
structure IpAddr where
  v4Addr : Option UInt32 := none
  v6Addr : Option Bytes := none
  domain : Option Bytes := none
  port : Option UInt32 := none
  deriving DecidableEq

/-- asio's `to_bytes`: the octets of an address in network order. -/
def IpAddress.toBytes : IpAddress → Bytes
  | .v4 addr =>
    [UInt8.ofNat (addr.toNat / 2 ^ 24), UInt8.ofNat (addr.toNat / 2 ^ 16),
      UInt8.ofNat (addr.toNat / 2 ^ 8), UInt8.ofNat addr.toNat]
  | .v6 bytes => bytes.toList

/-- The message that spells an address and a port. -/
def fromAsio : IpAddress → UInt16 → IpAddr
  | .v4 addr, port => { v4Addr := some addr, port := some port.toUInt32 }
  | .v6 bytes, port => { v6Addr := some bytes.toList, port := some port.toUInt32 }

/-- The host that `to_asio` names: an address, whose text asio makes, or a domain. -/
inductive AsioHost where
  | address (addr : IpAddress)
  | domain (name : Bytes)
  deriving DecidableEq

/-- How `to_asio` leaves the defined behaviour of the fields it reads. -/
inductive AsioFault where
  /-- `*` of an absent field. -/
  | absentField
  /-- More than sixteen octets are copied into the array of sixteen. -/
  | outOfBounds
  deriving DecidableEq

/-- `std::copy` of octets to the front of the array of a v6 address that was never written: what is
not copied over is whatever was there. -/
def copyOver (stale : Vector UInt8 16) (octets : Bytes) : Vector UInt8 16 :=
  Vector.ofFn fun i => (octets[i.val]?).getD stale[i]

/-- `to_asio`: the host and the port that a message spells. -/
def toAsio (stale : Vector UInt8 16) (ip : IpAddr) : Except AsioFault (AsioHost × UInt16) :=
  let withPort (host : AsioHost) : Except AsioFault (AsioHost × UInt16) :=
    match ip.port with
    | some port => .ok (host, port.toUInt16)
    | none => .error .absentField
  match ip.v4Addr with
  | some v => withPort (.address (.v4 v))
  | none =>
    match ip.v6Addr with
    | some v =>
      if 16 < v.length then .error .outOfBounds else withPort (.address (.v6 (copyOver stale v)))
    | none =>
      match ip.domain with
      | some domain => withPort (.domain domain)
      | none => .error .absentField

/-- The report of one connect call of the victim process. -/
structure InjecteeConnect where
  handle : Option UInt32 := none
  addr : Option IpAddr := none
  proxy : Option IpAddr := none
  syscall : Option String := none
  deriving DecidableEq

/-- What an injectee sends to the injector. -/
structure InjecteeMessage where
  opcode : Option String := none
  connect : Option InjecteeConnect := none
  pid : Option UInt32 := none
  subpid : Option UInt32 := none
  token : Option Bytes := none
  deriving DecidableEq

/-- The routing configuration the injector pushes. -/
structure InjectorConfig where
  addr : Option IpAddr := none
  log : Option Bool := none
  subprocess : Option Bool := none
  username : Option Bytes := none
  password : Option Bytes := none
  deriving DecidableEq

/-- What the injector sends to an injectee. -/
structure InjectorMessage where
  opcode : Option String := none
  config : Option InjectorConfig := none
  deriving DecidableEq

/-- `create_message<InjecteeMessage, "connect">`. -/
def createConnectMessage (v : InjecteeConnect) : InjecteeMessage :=
  { opcode := some "connect", connect := some v }

/-- `create_message<InjectorMessage, "config">`. -/
def createConfigMessage (v : InjectorConfig) : InjectorMessage :=
  { opcode := some "config", config := some v }

/-- `compare_message<S>`: the field named like the opcode, when the opcode is `S`. -/
def compareMessage {α : Type} (S : String) (opcode : Option String) (field : Option α) : Option α :=
  if opcode = some S then field else none

end Encapsule
