import Encapsule.Common.Schema

/-!
# Socket addresses

The conversions of `winnet.hpp` between the `sockaddr` a victim passes to winsock and the `IpAddr`
message.  A `sockaddr` is the memory at the pointer, octet by octet, in the layout of the Windows
headers: the family in host order (little endian), then the port and the address in network order.

`toSockaddr` dereferences optional fields and copies a byte string of any length into a fixed
array; what can go wrong there is a `SockaddrFault`.
-/

namespace Encapsule

/-- The memory behind a `const sockaddr *`.  Octets past the end of the list read as zero. -/
abbrev Sockaddr := Bytes

/-- `AF_INET`. -/
def afInet : UInt16 := 2

/-- `AF_INET6` of the Windows headers. -/
def afInet6 : UInt16 := 23

/-- The octet at offset `i`. -/
def octetAt (mem : Bytes) (i : ℕ) : UInt8 := mem.getD i 0

/-- The `n` octets from offset `i` on. -/
def octetsAt (mem : Bytes) (i n : ℕ) : Bytes := (List.range n).map fun j => octetAt mem (i + j)

@[simp] lemma length_octetsAt (mem : Bytes) (i n : ℕ) : (octetsAt mem i n).length = n := by
  simp [octetsAt]

/-- An octet of a prefix. -/
lemma octetAt_take {mem : Bytes} {i n : ℕ} (h : i < n) :
    octetAt (mem.take n) i = octetAt mem i := by
  simp only [octetAt, List.getD_eq_getElem?_getD, List.getElem?_take_of_lt h]

/-- An octet in front of what is appended. -/
lemma octetAt_append_left {mem tail : Bytes} {i : ℕ} (h : i < mem.length) :
    octetAt (mem ++ tail) i = octetAt mem i := by
  simp only [octetAt, List.getD_eq_getElem?_getD, List.getElem?_append_left h]

/-- An octet of a block. -/
lemma octetAt_octetsAt {mem : Bytes} {i n j : ℕ} (h : j < n) :
    octetAt (octetsAt mem i n) j = octetAt mem (i + j) := by
  simp [octetsAt, octetAt, h]

/-- A block of a block. -/
lemma octetsAt_octetsAt {mem : Bytes} {i n j m : ℕ} (h : j + m ≤ n) :
    octetsAt (octetsAt mem i n) j m = octetsAt mem (i + j) m := by
  apply List.map_congr_left
  intro k hk
  rw [List.mem_range] at hk
  rw [octetAt_octetsAt (by omega), Nat.add_assoc]

/-- A block is read in two parts. -/
lemma octetsAt_add (mem : Bytes) (i m n : ℕ) :
    octetsAt mem i (m + n) = octetsAt mem i m ++ octetsAt mem (i + m) n := by
  simp only [octetsAt, List.range_add, List.map_append, List.map_map, Nat.add_assoc]
  rfl

/-- A block within the memory is a part of it. -/
lemma octetsAt_eq {mem : Bytes} {i n : ℕ} (h : i + n ≤ mem.length) :
    octetsAt mem i n = (mem.drop i).take n := by
  refine List.ext_getElem ?_ fun j hj _ => ?_
  · rw [length_octetsAt, List.length_take, List.length_drop]
    omega
  have hlt : i + j < mem.length := by
    rw [length_octetsAt] at hj
    omega
  simp [octetsAt, octetAt, List.getElem?_eq_getElem hlt]

/-- A block has the octets of a list where each of them is in its place. -/
lemma octetsAt_eq_iff {mem octets : Bytes} {i : ℕ} :
    octetsAt mem i octets.length = octets ↔
      ∀ j < octets.length, octetAt mem (i + j) = octetAt octets j := by
  constructor
  · intro h j hj
    have hoctet : octetAt (octetsAt mem i octets.length) j = octetAt octets j := by rw [h]
    rw [← hoctet, octetAt_octetsAt hj]
  · intro h
    refine List.ext_getElem (length_octetsAt ..) fun j hj hoctets => ?_
    have hoctet := h j hoctets
    simp only [octetsAt, List.getElem_map, List.getElem_range, hoctet]
    simp [octetAt, hoctets]

/-- `ntohs` of two octets in memory order. -/
def ntohs (hi lo : UInt8) : UInt16 := UInt16.ofNat (hi.toNat * 256 + lo.toNat)

/-- The two octets `htons` stores. -/
def htons (port : UInt16) : Bytes := [UInt8.ofNat (port.toNat / 256), UInt8.ofNat port.toNat]

/-- `ntohl` of four octets in memory order. -/
def ntohl (a b c d : UInt8) : UInt32 :=
  UInt32.ofNat (((a.toNat * 256 + b.toNat) * 256 + c.toNat) * 256 + d.toNat)

/-- The four octets `htonl` stores. -/
def htonl (v : UInt32) : Bytes :=
  [UInt8.ofNat (v.toNat / 16777216), UInt8.ofNat (v.toNat / 65536), UInt8.ofNat (v.toNat / 256),
    UInt8.ofNat v.toNat]

namespace Sockaddr

/-- `name->sa_family`. -/
def saFamily (name : Sockaddr) : UInt16 :=
  UInt16.ofNat ((octetAt name 1).toNat * 256 + (octetAt name 0).toNat)

/-- `sin_port` (and `sin6_port`, which has the same offset), in host order. -/
def sinPort (name : Sockaddr) : UInt16 := ntohs (octetAt name 2) (octetAt name 3)

/-- `sin_addr`, in memory order. -/
def sinAddr (name : Sockaddr) : Bytes := octetsAt name 4 4

/-- `sin6_addr`, in memory order. -/
def sin6Addr (name : Sockaddr) : Bytes := octetsAt name 8 16

end Sockaddr

/-- A `sockaddr_in` with the given address octets and port, the rest zero. -/
def sockaddrIn (addr : Bytes) (port : UInt16) : Sockaddr :=
  [2, 0] ++ htons port ++ addr ++ List.replicate 8 0

/-- A `sockaddr_in6` with the given address octets and port, flow label and scope zero. -/
def sockaddrIn6 (addr : Bytes) (port : UInt16) : Sockaddr :=
  [23, 0] ++ htons port ++ List.replicate 4 0 ++ addr ++ List.replicate 4 0

/-- The message for a socket address.  The v6 octets are stored last one first. -/
def toIpAddr (name : Sockaddr) : Option IpAddr :=
  if name.saFamily = afInet then
    some { v4Addr := some (ntohl (octetAt name 4) (octetAt name 5) (octetAt name 6)
             (octetAt name 7)),
           port := some name.sinPort.toUInt32 }
  else if name.saFamily = afInet6 then
    some { v6Addr := some name.sin6Addr.reverse, port := some name.sinPort.toUInt32 }
  else
    none

/-- How a conversion to a socket address leaves the defined behaviour of its fields. -/
inductive SockaddrFault where
  /-- `value()` of an absent field throws `std::bad_optional_access`. -/
  | badOptionalAccess
  /-- More than sixteen octets are copied into the array of sixteen. -/
  | outOfBounds
  /-- Fewer than sixteen octets are copied, and the rest of the array was never written. -/
  | uninitialised
  deriving DecidableEq

/-- The socket address for a message.  The v6 octets are copied last one first. -/
def toSockaddr (addr : IpAddr) : Except SockaddrFault Sockaddr :=
  match addr.v4Addr, addr.v6Addr, addr.port with
  | some v4, _, some port => .ok (sockaddrIn (htonl v4) port.toUInt16)
  | some _, _, none => .error .badOptionalAccess
  | none, none, _ => .error .badOptionalAccess
  | none, some v6, port =>
    if 16 < v6.length then .error .outOfBounds
    else match port with
      | none => .error .badOptionalAccess
      | some port =>
        if v6.length < 16 then .error .uninitialised
        else .ok (sockaddrIn6 v6.reverse port.toUInt16)

/-- A loopback destination: 127.0.0.0/8, or `::1`. -/
def isLocalhost (name : Sockaddr) : Bool :=
  if name.saFamily = afInet then octetAt name 4 == 0x7f
  else if name.saFamily = afInet6 then name.sin6Addr == List.replicate 15 0 ++ [1]
  else false

/-- An address of one of the two families that are routed. -/
def isInet (name : Sockaddr) : Bool := name.saFamily == afInet || name.saFamily == afInet6

/-- Two socket addresses with the same family, address and port. -/
def sockequal (l r : Sockaddr) : Bool :=
  if l.saFamily = r.saFamily then
    if l.saFamily = afInet then l.sinAddr == r.sinAddr && octetsAt l 2 2 == octetsAt r 2 2
    else if l.saFamily = afInet6 then octetsAt l 2 2 == octetsAt r 2 2 && l.sin6Addr == r.sin6Addr
    else false
  else false

/-- The message names an endpoint that can be dialled: a v4 address, or sixteen octets of v6
address, and a port. -/
def IpAddr.IsEndpoint (addr : IpAddr) : Prop :=
  (addr.v4Addr.isSome ∨ ∃ v6, addr.v6Addr = some v6 ∧ v6.length = 16) ∧ addr.port.isSome

/-- A message that names an endpoint converts without a fault. -/
lemma exists_toSockaddr_eq_ok {addr : IpAddr} (h : addr.IsEndpoint) :
    ∃ sa, toSockaddr addr = .ok sa := by
  obtain ⟨haddr, hport⟩ := h
  obtain ⟨port, hport⟩ := Option.isSome_iff_exists.mp hport
  unfold toSockaddr
  cases hv4 : addr.v4Addr with
  | some v4 => exact ⟨sockaddrIn (htonl v4) port.toUInt16, by rw [hport]⟩
  | none =>
    obtain ⟨v6, hv6, hlen⟩ := haddr.resolve_left (by simp [hv4])
    refine ⟨sockaddrIn6 v6.reverse port.toUInt16, ?_⟩
    simp only [hv6, hport, hlen, Nat.lt_irrefl, if_false]

/-- An address of an internet family has a message. -/
lemma exists_toIpAddr_of_isInet {name : Sockaddr} (h : isInet name = true) :
    ∃ v, toIpAddr name = some v := by
  simp only [isInet, Bool.or_eq_true, beq_iff_eq] at h
  unfold toIpAddr
  split_ifs with h4 h6
  · exact ⟨_, rfl⟩
  · exact ⟨_, rfl⟩
  · exact absurd h (by simp [h4, h6])

end Encapsule
