import Encapsule.Injectee.ByteOrder
import Encapsule.Injectee.Socks5

/-!
# What the builders put on the wire

A request `{VER, CMD, RSV, ATYP, ADDR, PORT}` and a datagram header `{RSV, RSV, FRAG, ATYP, ADDR,
PORT}` differ in their first three octets only, and are written by the same steps (`buildFrame`).
`WireAddress` is an address that they can carry, in the caller's memory (`WireAddress.memory`) and
on the wire (`WireAddress.field`); `WireAddress.buildFrame_wire` is the frame written for it.

`builders_all_or_nothing` is about all inputs of all builders: a whole frame is written at the front
of the output buffer, or nothing.
-/

namespace Encapsule

/-- `SOCKS_UDP_ASSOCIATE`. -/
def socksUdpAssociate : UInt8 := 3

/-! ## The builders -/

/-- Writes the UDP ASSOCIATE request for a bind hint. -/
def socks5BuildAssociateFromSockaddr (bindHint : Sockaddr) (out : Bytes) : ℕ × Bytes :=
  socks5BuildRequestFromSockaddrCmd socksUdpAssociate bindHint out

/-- Writes the datagram header `{RSV, RSV, FRAG, ATYP, ADDR, PORT}`. -/
def socks5BuildUdpHeader (atyp : UInt8) (addrBytes : Bytes) (portHostOrder : UInt16) (frag : UInt8)
    (out : Bytes) : ℕ × Bytes :=
  let (field, out') := socks5WriteAtypAddr atyp addrBytes 3 out
  if field = 0 then
    (0, out')
  else
    (field + 5, overwrite (overwrite out' 0 [0, 0, frag]) (3 + field) (htons portHostOrder))

/-- What the two encoders share: an address field behind the three octets `head`. -/
def buildFrame (head : Bytes) (atyp : UInt8) (addrBytes : Bytes) (portHostOrder : UInt16)
    (out : Bytes) : ℕ × Bytes :=
  let (field, out') := socks5WriteAtypAddr atyp addrBytes 3 out
  if field = 0 then
    (0, out')
  else
    (field + 5, overwrite (overwrite out' 0 head) (3 + field) (htons portHostOrder))

lemma socks5BuildRequestCmd_eq (cmd atyp : UInt8) (addrBytes : Bytes) (port : UInt16)
    (out : Bytes) : socks5BuildRequestCmd cmd atyp addrBytes port out =
      buildFrame [socksVersion, cmd, 0] atyp addrBytes port out := rfl

lemma socks5BuildUdpHeader_eq (atyp : UInt8) (addrBytes : Bytes) (port : UInt16) (frag : UInt8)
    (out : Bytes) : socks5BuildUdpHeader atyp addrBytes port frag out =
      buildFrame [0, 0, frag] atyp addrBytes port out := rfl

/-- A builder with its arguments; an absent argument is a null pointer. -/
inductive BuilderCall where
  | requestCmd (cmd atyp : UInt8) (addrBytes : Option Bytes) (portHostOrder : UInt16)
  | request (atyp : UInt8) (addrBytes : Option Bytes) (portHostOrder : UInt16)
  | requestFromSockaddrCmd (cmd : UInt8) (addr : Option Sockaddr)
  | requestFromSockaddr (addr : Option Sockaddr)
  | associateFromSockaddr (bindHint : Option Sockaddr)
  | requestFromIpAddr (addr : IpAddr)
  | udpHeader (atyp : UInt8) (addrBytes : Option Bytes) (portHostOrder : UInt16) (frag : UInt8)
  deriving DecidableEq

/-- A call with an output buffer. -/
def BuilderCall.write (out : Bytes) : BuilderCall → ℕ × Bytes
  | .requestCmd cmd atyp (some addrBytes) port =>
    socks5BuildRequestCmd cmd atyp addrBytes port out
  | .request atyp (some addrBytes) port => socks5BuildRequest atyp addrBytes port out
  | .requestFromSockaddrCmd cmd (some addr) => socks5BuildRequestFromSockaddrCmd cmd addr out
  | .requestFromSockaddr (some addr) => socks5BuildRequestFromSockaddr addr out
  | .associateFromSockaddr (some bindHint) => socks5BuildAssociateFromSockaddr bindHint out
  | .requestFromIpAddr addr => socks5BuildRequestFromIpAddr addr out
  | .udpHeader atyp (some addrBytes) port frag => socks5BuildUdpHeader atyp addrBytes port frag out
  | _ => (0, out)

/-- A call: the number of octets it returns and the buffer as it leaves it, if there is one. -/
def BuilderCall.run (c : BuilderCall) : Option Bytes → ℕ × Option Bytes
  | none => (0, none)
  | some out => ((c.write out).1, some (c.write out).2)

/-- Where the address field is written, the frame around it is written at the front. -/
lemma buildFrame_of_field {head field addrBytes out : Bytes} {atyp : UInt8} {port : UInt16}
    (hfield : socks5WriteAtypAddr atyp addrBytes 3 out =
      (field.length + 1, overwrite (overwrite out (3 + 1) field) 3 [atyp]))
    (hhead : head.length = 3) (hroom : field.length + 6 ≤ out.length) :
    buildFrame head atyp addrBytes port out =
      (field.length + 6, overwrite out 0 (head ++ atyp :: (field ++ htons port))) := by
  have htype : overwrite (overwrite out (3 + 1) field) 3 [atyp] =
      overwrite out 3 (atyp :: field) :=
    overwrite_before (a := [atyp]) field (by change 3 + 1 ≤ out.length; omega)
  have hfront : overwrite (overwrite out 3 (atyp :: field)) 0 head =
      overwrite out 0 (head ++ atyp :: field) := by
    have hbefore := @overwrite_before out 0 head (atyp :: field) (by omega)
    rw [Nat.zero_add, hhead] at hbefore
    exact hbefore
  have hport : overwrite (overwrite out 0 (head ++ atyp :: field)) (3 + (field.length + 1))
      (htons port) = overwrite out 0 (head ++ atyp :: (field ++ htons port)) := by
    have hafter := overwrite_after (head ++ atyp :: field) (htons port) (Nat.zero_le out.length)
    rw [Nat.zero_add, List.length_append, List.length_cons, hhead, List.append_assoc,
      List.cons_append] at hafter
    exact hafter
  simp only [buildFrame, hfield, Nat.succ_ne_zero, if_false, htype, hfront, hport]

/-! ## Addresses on the wire -/

/-- An address that a frame can carry: four octets, sixteen, or a name. -/
inductive WireAddress where
  | ipv4 (octets : Vector UInt8 4)
  | ipv6 (octets : Vector UInt8 16)
  | domain (name : Bytes) (hlen : 1 ≤ name.length ∧ name.length ≤ socksDomainMaxLength)

namespace WireAddress

/-- The type octet. -/
def atyp : WireAddress → UInt8
  | ipv4 _ => socksIpv4
  | ipv6 _ => socksIpv6
  | domain .. => socksDomainname

/-- The octets of the address, or of the name. -/
def octets : WireAddress → Bytes
  | ipv4 octets => octets.toList
  | ipv6 octets => octets.toList
  | domain name _ => name

/-- The memory that the caller of a builder points to. -/
def memory : WireAddress → Bytes
  | domain name _ => name ++ [0]
  | a => a.octets

/-- What stands in front of the octets on the wire: the length of a name. -/
def lead : WireAddress → Bytes
  | domain name _ => [UInt8.ofNat name.length]
  | _ => []

/-- The address field of a frame. -/
def field : WireAddress → Bytes
  | domain name _ => UInt8.ofNat name.length :: name
  | a => a.octets

/-- A name can be told from its end in memory. -/
def NulFree (a : WireAddress) : Prop := a.atyp = socksDomainname → 0 ∉ a.octets

/-- The frame for an address and a port. -/
def frame (head : Bytes) (a : WireAddress) (port : UInt16) : Bytes :=
  head ++ a.atyp :: (a.field ++ htons port)

variable {a : WireAddress} {head out : Bytes} {port : UInt16}

lemma field_eq (a : WireAddress) : a.field = a.lead ++ a.octets := by
  cases a <;> rfl

/-- The length of a name fits its octet. -/
lemma toNat_length {name : Bytes} (hlen : name.length ≤ socksDomainMaxLength) :
    (UInt8.ofNat name.length).toNat = name.length := by
  have hmax : name.length ≤ 255 := hlen
  exact UInt8.toNat_ofNat_of_lt (by change name.length < 256; omega)

/-- A frame and what comes behind it, part by part. -/
lemma frame_append (head : Bytes) (a : WireAddress) (port : UInt16) (tail : Bytes) :
    frame head a port ++ tail =
      head ++ a.atyp :: (a.lead ++ (a.octets ++ (htons port ++ tail))) := by
  rw [frame, field_eq]
  simp only [List.append_assoc, List.cons_append]

lemma length_frame : (frame head a port).length = head.length + a.field.length + 3 := by
  simp only [frame, List.length_append, List.length_cons, htons, List.length_nil]
  omega

/-- A name is followed by a zero octet in memory. -/
lemma memory_eq (a : WireAddress) :
    a.memory = if a.atyp = socksDomainname then a.octets ++ [0] else a.octets := by
  have hne4 : socksIpv4 ≠ socksDomainname := by decide
  have hne6 : socksIpv6 ≠ socksDomainname := by decide
  cases a with
  | ipv4 octets => exact (if_neg hne4).symm
  | ipv6 octets => exact (if_neg hne6).symm
  | domain name hlen => exact (if_pos rfl).symm

/-- The octets are at the front of the caller's memory, whatever is behind. -/
lemma octetsAt_toList {n : ℕ} (octets : Vector UInt8 n) (rest : Bytes) :
    octetsAt (octets.toList ++ rest) 0 n = octets.toList := by
  have hlen : octets.toList.length = n := octets.length_toList
  exact octetsAt_append [] hlen

/-- A name ends at the first zero octet. -/
lemma takeWhile_nul {name : Bytes} (hnul : 0 ∉ name) (rest : Bytes) :
    ((name ++ [0]) ++ rest).takeWhile (· ≠ 0) = name := by
  have hname : ∀ c ∈ name, decide (c ≠ 0) = true := by
    intro c hc
    rw [decide_eq_true_eq]
    rintro rfl
    exact hnul hc
  rw [List.append_assoc, List.takeWhile_append_of_pos hname]
  simp

/-- The type octet and the field behind it are written. -/
lemma socks5WriteAtypAddr_wire (ha : a.NulFree) (rest : Bytes) (pos : ℕ) (out : Bytes) :
    socks5WriteAtypAddr a.atyp (a.memory ++ rest) pos out =
      (a.field.length + 1, overwrite (overwrite out (pos + 1) a.field) pos [a.atyp]) := by
  cases a with
  | ipv4 octets =>
    have hlen : octets.toList.length = 4 := octets.length_toList
    simp only [socks5WriteAtypAddr, atyp, memory, field, WireAddress.octets, octetsAt_toList, hlen,
      if_true]
  | ipv6 octets =>
    have hlen : octets.toList.length = 16 := octets.length_toList
    have hne : socksIpv6 ≠ socksIpv4 := by decide
    simp only [socks5WriteAtypAddr, atyp, memory, field, WireAddress.octets, octetsAt_toList, hlen,
      if_neg hne, if_true]
  | domain name hlen =>
    have hnul : 0 ∉ name := ha rfl
    have hne4 : socksDomainname ≠ socksIpv4 := by decide
    have hne6 : socksDomainname ≠ socksIpv6 := by decide
    have hfits : ¬(name.length = 0 ∨ socksDomainMaxLength < name.length) := by omega
    simp only [socks5WriteAtypAddr, atyp, memory, field, takeWhile_nul hnul, if_neg hne4,
      if_neg hne6, if_neg hfits, if_true, List.length_cons]

/-- The frame for an address is written at the front of the buffer. -/
lemma buildFrame_wire (ha : a.NulFree) (rest : Bytes) (port : UInt16) (hhead : head.length = 3)
    (hroom : a.field.length + 6 ≤ out.length) :
    buildFrame head a.atyp (a.memory ++ rest) port out =
      (a.field.length + 6, overwrite out 0 (frame head a port)) :=
  buildFrame_of_field (socks5WriteAtypAddr_wire ha rest 3 out) hhead hroom

/-- The octets that a builder of frames announces are the frame. -/
lemma take_buildFrame_wire (ha : a.NulFree) (rest : Bytes) (port : UInt16)
    (hhead : head.length = 3) (hroom : a.field.length + 6 ≤ out.length) :
    (buildFrame head a.atyp (a.memory ++ rest) port out).2.take
        (buildFrame head a.atyp (a.memory ++ rest) port out).1 = frame head a port := by
  have hlen : a.field.length + 6 = (frame head a port).length := by
    rw [length_frame, hhead]
    omega
  rw [buildFrame_wire ha rest port hhead hroom, hlen]
  exact take_overwrite_zero out (frame head a port)

end WireAddress

/-! ## A whole frame, or nothing -/

/-- Nothing was written, or a whole frame of no more than the documented size. -/
def AllOrNothing (out : Bytes) (result : ℕ × Bytes) : Prop :=
  result = (0, out) ∨ ∃ frame : Bytes, frame ≠ [] ∧ frame.length ≤ socksRequestMaxSize ∧
    result = (frame.length, overwrite out 0 frame)

/-- The address field is written with its type octet, or nothing is. -/
lemma socks5WriteAtypAddr_cases (atyp : UInt8) (addrBytes : Bytes) (pos : ℕ) (out : Bytes) :
    socks5WriteAtypAddr atyp addrBytes pos out = (0, out) ∨
      ∃ field : Bytes, field.length ≤ 256 ∧ socks5WriteAtypAddr atyp addrBytes pos out =
        (field.length + 1, overwrite (overwrite out (pos + 1) field) pos [atyp]) := by
  have hblock (n : ℕ) := length_octetsAt addrBytes 0 n
  unfold socks5WriteAtypAddr
  dsimp only
  split_ifs with hipv4 hipv6 hdomain hname
  · exact Or.inr ⟨octetsAt addrBytes 0 4, by rw [hblock]; decide, by rw [hblock]⟩
  · exact Or.inr ⟨octetsAt addrBytes 0 16, by rw [hblock]; decide, by rw [hblock]⟩
  · exact Or.inl rfl
  · refine Or.inr ⟨_ :: _, ?_, rfl⟩
    unfold socksDomainMaxLength at hname
    rw [List.length_cons]
    omega
  · exact Or.inl rfl

/-- A builder of frames writes all or nothing. -/
lemma allOrNothing_buildFrame {head out : Bytes} (atyp : UInt8) (addrBytes : Bytes) (port : UInt16)
    (hhead : head.length = 3) (hroom : socksRequestMaxSize ≤ out.length) :
    AllOrNothing out (buildFrame head atyp addrBytes port out) := by
  rcases socks5WriteAtypAddr_cases atyp addrBytes 3 out with hnone | ⟨field, hlen, hfield⟩
  · refine Or.inl ?_
    simp only [buildFrame, hnone, if_true]
  · have hmax : socksRequestMaxSize = 262 := rfl
    have hframe : (head ++ atyp :: (field ++ htons port)).length = field.length + 6 := by
      simp only [List.length_append, List.length_cons, htons, List.length_nil, hhead]
      omega
    refine Or.inr ⟨head ++ atyp :: (field ++ htons port), by simp, by omega, ?_⟩
    rw [hframe]
    exact buildFrame_of_field hfield hhead (by omega)

/-- A builder of requests for socket addresses writes all or nothing. -/
lemma allOrNothing_fromSockaddrCmd {out : Bytes} (cmd : UInt8) (addr : Sockaddr)
    (hroom : socksRequestMaxSize ≤ out.length) :
    AllOrNothing out (socks5BuildRequestFromSockaddrCmd cmd addr out) := by
  unfold socks5BuildRequestFromSockaddrCmd
  split_ifs
  · exact allOrNothing_buildFrame socksIpv4 addr.sinAddr addr.sinPort rfl hroom
  · exact allOrNothing_buildFrame socksIpv6 addr.sin6Addr addr.sinPort rfl hroom
  · exact Or.inl rfl

/-- The builder of requests for messages writes all or nothing. -/
lemma allOrNothing_fromIpAddr {out : Bytes} (addr : IpAddr)
    (hroom : socksRequestMaxSize ≤ out.length) :
    AllOrNothing out (socks5BuildRequestFromIpAddr addr out) := by
  have hrequest (atyp : UInt8) (addrBytes : Bytes) (port : UInt16) :
      AllOrNothing out (socks5BuildRequest atyp addrBytes port out) :=
    allOrNothing_buildFrame atyp addrBytes port rfl hroom
  unfold socks5BuildRequestFromIpAddr
  cases addr.port with
  | none => exact Or.inl rfl
  | some port =>
    cases addr.v4Addr with
    | some v4 => exact hrequest socksIpv4 (htonl v4) port.toUInt16
    | none =>
      cases addr.v6Addr with
      | some v6 =>
        dsimp only
        split_ifs
        · exact Or.inl rfl
        · exact hrequest socksIpv6 v6 port.toUInt16
      | none =>
        cases addr.domain with
        | none => exact Or.inl rfl
        | some domain =>
          dsimp only
          split_ifs
          · exact Or.inl rfl
          · exact hrequest socksDomainname (domain ++ [0]) port.toUInt16

/-- Every builder writes all or nothing. -/
lemma allOrNothing_write {out : Bytes} (c : BuilderCall)
    (hroom : socksRequestMaxSize ≤ out.length) : AllOrNothing out (c.write out) := by
  cases c with
  | requestCmd cmd atyp addrBytes port =>
    cases addrBytes with
    | none => exact Or.inl rfl
    | some addrBytes =>
      rw [BuilderCall.write, socks5BuildRequestCmd_eq]
      exact allOrNothing_buildFrame atyp addrBytes port rfl hroom
  | request atyp addrBytes port =>
    cases addrBytes with
    | none => exact Or.inl rfl
    | some addrBytes => exact allOrNothing_buildFrame atyp addrBytes port rfl hroom
  | requestFromSockaddrCmd cmd addr =>
    cases addr with
    | none => exact Or.inl rfl
    | some addr => exact allOrNothing_fromSockaddrCmd cmd addr hroom
  | requestFromSockaddr addr =>
    cases addr with
    | none => exact Or.inl rfl
    | some addr => exact allOrNothing_fromSockaddrCmd socksConnect addr hroom
  | associateFromSockaddr bindHint =>
    cases bindHint with
    | none => exact Or.inl rfl
    | some bindHint => exact allOrNothing_fromSockaddrCmd socksUdpAssociate bindHint hroom
  | requestFromIpAddr addr => exact allOrNothing_fromIpAddr addr hroom
  | udpHeader atyp addrBytes port frag =>
    cases addrBytes with
    | none => exact Or.inl rfl
    | some addrBytes =>
      rw [BuilderCall.write, socks5BuildUdpHeader_eq]
      exact allOrNothing_buildFrame atyp addrBytes port rfl hroom

/-- What is written and what is not. -/
lemma AllOrNothing.bounds {out : Bytes} {result : ℕ × Bytes} (h : AllOrNothing out result)
    (hroom : socksRequestMaxSize ≤ out.length) :
    (result.1 = 0 → result.2 = out) ∧ result.1 ≤ socksRequestMaxSize ∧
      result.2.length = out.length ∧ result.2.drop result.1 = out.drop result.1 := by
  rcases h with rfl | ⟨frame, hne, hlen, rfl⟩
  · exact ⟨fun _ => rfl, Nat.zero_le _, rfl, rfl⟩
  · refine ⟨?_, hlen, ?_, ?_⟩
    · intro hzero
      exact absurd (List.length_eq_zero_iff.mp hzero) hne
    · rw [overwrite_zero, List.length_append, List.length_drop]
      omega
    · rw [overwrite_zero]
      exact List.drop_left

/-! ## The two overloads -/

/-- The type octet of an address. -/
def IpAddress.atyp : IpAddress → UInt8
  | .v4 _ => socksIpv4
  | .v6 _ => socksIpv6

/-- The overload for messages writes the octets and the port of the address. -/
lemma fromIpAddr_fromAsio (addr : IpAddress) (port : UInt16) (out : Bytes) :
    socks5BuildRequestFromIpAddr (fromAsio addr port) out =
      socks5BuildRequest addr.atyp addr.toBytes port out := by
  cases addr with
  | v4 v =>
    -- The message holds a number, which both sides split into the same four octets.
    simp only [socks5BuildRequestFromIpAddr, fromAsio, UInt16.toUInt16_toUInt32]
    rfl
  | v6 bytes =>
    have hlen : ¬bytes.toList.length ≠ 16 := by simp
    simp only [socks5BuildRequestFromIpAddr, fromAsio, UInt16.toUInt16_toUInt32, if_neg hlen,
      IpAddress.toBytes, IpAddress.atyp]

/-- The overload for socket addresses writes the octets and the port that the memory holds. -/
lemma fromSockaddr_of_isEndpoint {addr : IpAddress} {port : UInt16} {sa : Sockaddr} (out : Bytes)
    (h : sa.IsEndpoint addr port) :
    socks5BuildRequestFromSockaddr sa out =
      socks5BuildRequest addr.atyp addr.toBytes port out := by
  unfold socks5BuildRequestFromSockaddr socks5BuildRequestFromSockaddrCmd
  cases addr with
  | v4 v =>
    obtain ⟨hport, hfamily, hoctets⟩ := h
    rw [if_pos hfamily, hport, hoctets]
    rfl
  | v6 bytes =>
    obtain ⟨hport, hfamily, hoctets⟩ := h
    have hother : sa.saFamily ≠ afInet := by
      rw [hfamily]
      decide
    rw [if_neg hother, if_pos hfamily, hport, hoctets]
    rfl

/-- A request for an address has six octets besides those of the address. -/
lemma socks5BuildRequest_address (addr : IpAddress) (port : UInt16) (out : Bytes) :
    (socks5BuildRequest addr.atyp addr.toBytes port out).1 = addr.toBytes.length + 6 := by
  cases addr with
  | v4 v => rfl
  | v6 bytes =>
    have hlen : bytes.toList.length = 16 := bytes.length_toList
    simp only [IpAddress.toBytes, hlen]
    rfl

/-- **Both overloads write the same request, and every builder writes all or nothing.** For each
address and port, whatever socket address holds them, the two overloads return the same number of
octets and leave the same buffer.  Whatever the arguments of a builder, null pointers and malformed
messages included: when it returns zero the buffer is as it was, and otherwise the count is no more
than `SOCKS_REQUEST_MAX_SIZE` and what is behind the counted octets is as it was. -/
theorem builders_all_or_nothing :
    (∀ (addr : IpAddress) (port : UInt16) (sa : Sockaddr) (out : Bytes), sa.IsEndpoint addr port →
      socks5BuildRequestFromSockaddr sa out =
          socks5BuildRequestFromIpAddr (fromAsio addr port) out ∧
        (socks5BuildRequestFromSockaddr sa out).1 = addr.toBytes.length + 6) ∧
      ∀ c : BuilderCall, c.run none = (0, none) ∧
        ∀ out : Bytes, socksRequestMaxSize ≤ out.length →
          ∃ n out', c.run (some out) = (n, some out') ∧ (n = 0 → out' = out) ∧
            n ≤ socksRequestMaxSize ∧ out'.length = out.length ∧ out'.drop n = out.drop n := by
  refine ⟨?_, fun c => ⟨rfl, ?_⟩⟩
  · intro addr port sa out hsa
    rw [fromSockaddr_of_isEndpoint out hsa, fromIpAddr_fromAsio]
    exact ⟨rfl, socks5BuildRequest_address addr port out⟩
  · intro out hroom
    obtain ⟨hzero, hmax, hlen, hrest⟩ := (allOrNothing_write c hroom).bounds hroom
    exact ⟨(c.write out).1, (c.write out).2, rfl, hzero, hmax, hlen, hrest⟩

end Encapsule
