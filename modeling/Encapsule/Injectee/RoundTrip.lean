import Encapsule.Injectee.ByteOrder

/-!
# There and back from a socket address

The conversions of `winnet.hpp` compose to the identity on endpoints: `to_ip_addr` and `to_sockaddr`
both reverse the octets of a v6 address and both swap those of a v4 address and of a port.  A socket
address of an internet family stands for an endpoint (`exists_isEndpoint`), and the three routines
that look at its octets one by one, `to_ip_addr`, `sockequal` and `is_localhost`, see no more of it
than that endpoint.
-/

namespace Encapsule

variable {addr addr' : IpAddress} {port port' : UInt16} {name l r : Sockaddr}

/-! ## Octets -/

/-- The v4 address that the octets of an address spell. -/
lemma ntohl_toBytes (v : UInt32) :
    ntohl (UInt8.ofNat (v.toNat / 2 ^ 24)) (UInt8.ofNat (v.toNat / 2 ^ 16))
      (UInt8.ofNat (v.toNat / 2 ^ 8)) (UInt8.ofNat v.toNat) = v := by
  have hlt := v.toNat_lt
  have hsum : ((v.toNat / 2 ^ 24 % 2 ^ 8 * 256 + v.toNat / 2 ^ 16 % 2 ^ 8) * 256 +
      v.toNat / 2 ^ 8 % 2 ^ 8) * 256 + v.toNat % 2 ^ 8 = v.toNat := by omega
  unfold ntohl
  rw [UInt8.toNat_ofNat', UInt8.toNat_ofNat', UInt8.toNat_ofNat', UInt8.toNat_ofNat', hsum,
    UInt32.ofNat_toNat]

/-- The octets of a port. -/
lemma octetsAt_sinPort (name : Sockaddr) : octetsAt name 2 2 = htons name.sinPort :=
  (htons_ntohs _ _).symm

/-- Ports are compared by their octets. -/
lemma htons_inj : htons port = htons port' ↔ port = port' := by
  constructor
  · intro h
    obtain ⟨hhi, htail⟩ := List.cons.inj h
    obtain ⟨hlo, -⟩ := List.cons.inj htail
    rw [← ntohs_htons port, ← ntohs_htons port', hhi, hlo]
  · rintro rfl
    rfl

/-- v4 addresses are compared by their octets. -/
lemma toBytes_v4_inj {v v' : UInt32} :
    (IpAddress.v4 v).toBytes = (IpAddress.v4 v').toBytes ↔ v = v' := by
  constructor
  · intro h
    obtain ⟨h24, h⟩ := List.cons.inj h
    obtain ⟨h16, h⟩ := List.cons.inj h
    obtain ⟨h8, h⟩ := List.cons.inj h
    obtain ⟨h0, -⟩ := List.cons.inj h
    rw [← ntohl_toBytes v, ← ntohl_toBytes v', h24, h16, h8, h0]
  · rintro rfl
    rfl

/-! ## Endpoints -/

/-- A socket address of an internet family stands for an endpoint. -/
lemma exists_isEndpoint (h : isInet name = true) : ∃ addr port, name.IsEndpoint addr port := by
  by_cases h4 : name.saFamily = afInet
  · exact ⟨.v4 (ntohl (octetAt name 4) (octetAt name 5) (octetAt name 6) (octetAt name 7)),
      name.sinPort, rfl, h4, (toBytes_ntohl _ _ _ _).symm⟩
  · have h6 : name.saFamily = afInet6 := by simpa [isInet, h4] using h
    exact ⟨.v6 ⟨name.sin6Addr.toArray, by simp [Sockaddr.sin6Addr]⟩, name.sinPort, rfl, h6, rfl⟩

/-- The message that `to_ip_addr` spells an endpoint as. -/
def reportAddr : IpAddress → UInt16 → IpAddr
  | .v4 v, port => { v4Addr := some v, port := some port.toUInt32 }
  | .v6 bytes, port => { v6Addr := some bytes.toList.reverse, port := some port.toUInt32 }

/-- Different endpoints have different messages. -/
lemma reportAddr_inj :
    reportAddr addr port = reportAddr addr' port' ↔ addr = addr' ∧ port = port' := by
  have hport : port.toUInt32 = port'.toUInt32 ↔ port = port' := by
    constructor
    · intro h
      rw [← UInt16.toUInt16_toUInt32 port, h, UInt16.toUInt16_toUInt32]
    · rintro rfl
      rfl
  cases addr <;> cases addr' <;> simp [reportAddr, hport, Vector.toList_inj]

/-- `to_ip_addr` sees the endpoint. -/
lemma Sockaddr.IsEndpoint.toIpAddr (h : name.IsEndpoint addr port) :
    Encapsule.toIpAddr name = some (reportAddr addr port) := by
  obtain ⟨hport, haddr⟩ := h
  unfold Encapsule.toIpAddr
  cases addr with
  | v4 v =>
    obtain ⟨hfamily, hoctets⟩ := haddr
    obtain ⟨h4, h5, h6, h7⟩ : octetAt name 4 = UInt8.ofNat (v.toNat / 2 ^ 24) ∧
        octetAt name 5 = UInt8.ofNat (v.toNat / 2 ^ 16) ∧
        octetAt name 6 = UInt8.ofNat (v.toNat / 2 ^ 8) ∧
        octetAt name 7 = UInt8.ofNat v.toNat := by
      simpa [Sockaddr.sinAddr, octetsAt, List.range_succ, IpAddress.toBytes] using hoctets
    rw [if_pos hfamily, h4, h5, h6, h7, ntohl_toBytes, hport]
    rfl
  | v6 bytes =>
    obtain ⟨hfamily, hoctets⟩ := haddr
    have hnot : name.saFamily ≠ afInet := by
      rw [hfamily]
      decide
    rw [if_neg hnot, if_pos hfamily, hoctets, hport]
    rfl

/-- `to_sockaddr` finds the endpoint in the message. -/
lemma exists_toSockaddr_reportAddr (addr : IpAddress) (port : UInt16) :
    ∃ sa, toSockaddr (reportAddr addr port) = .ok sa ∧ sa.IsEndpoint addr port := by
  cases addr with
  | v4 v =>
    refine ⟨sockaddrIn (htonl v) port, ?_, isEndpoint_sockaddrIn v port⟩
    simp only [reportAddr, toSockaddr, UInt16.toUInt16_toUInt32]
  | v6 bytes =>
    have hlen : bytes.toList.length = 16 := by simp
    obtain ⟨hport, hfamily, hoctets⟩ := sockaddrIn6_fields hlen port
    refine ⟨sockaddrIn6 bytes.toList port, ?_, hport, hfamily, hoctets⟩
    simp only [reportAddr, toSockaddr, List.length_reverse, hlen, Nat.lt_irrefl, if_false,
      UInt16.toUInt16_toUInt32, List.reverse_reverse]

/-- `sockequal` compares the endpoints. -/
lemma sockequal_iff (hl : l.IsEndpoint addr port) (hr : r.IsEndpoint addr' port') :
    sockequal l r = true ↔ addr = addr' ∧ port = port' := by
  obtain ⟨hlport, hladdr⟩ := hl
  obtain ⟨hrport, hraddr⟩ := hr
  have hne : afInet ≠ afInet6 := by decide
  unfold sockequal
  rw [octetsAt_sinPort, octetsAt_sinPort, hlport, hrport]
  cases addr with
  | v4 v =>
    obtain ⟨hlfamily, hloctets⟩ := hladdr
    cases addr' with
    | v4 v' =>
      obtain ⟨hrfamily, hroctets⟩ := hraddr
      rw [hlfamily, hrfamily, if_pos rfl, if_pos rfl, hloctets, hroctets]
      simp [toBytes_v4_inj, htons_inj]
    | v6 bytes' => simp [hlfamily, hraddr.1, hne]
  | v6 bytes =>
    obtain ⟨hlfamily, hloctets⟩ := hladdr
    cases addr' with
    | v4 v' => simp [hlfamily, hraddr.1, hne.symm]
    | v6 bytes' =>
      obtain ⟨hrfamily, hroctets⟩ := hraddr
      rw [hlfamily, hrfamily, if_pos rfl, if_neg hne.symm, if_pos rfl, hloctets, hroctets]
      simp [IpAddress.toBytes, htons_inj, and_comm]

/-- `is_localhost` looks at the address. -/
lemma isLocalhost_eq (hl : l.IsEndpoint addr port) (hr : r.IsEndpoint addr port') :
    isLocalhost l = isLocalhost r := by
  unfold isLocalhost
  cases addr with
  | v4 v =>
    obtain ⟨-, hlfamily, hloctets⟩ := hl
    obtain ⟨-, hrfamily, hroctets⟩ := hr
    have hfirst (name : Sockaddr) : octetAt name 4 = octetAt name.sinAddr 0 :=
      (octetAt_octetsAt (i := 4) (n := 4) (j := 0) (by omega)).symm
    rw [if_pos hlfamily, if_pos hrfamily, hfirst l, hfirst r, hloctets, hroctets]
  | v6 bytes =>
    obtain ⟨-, hlfamily, hloctets⟩ := hl
    obtain ⟨-, hrfamily, hroctets⟩ := hr
    have hne : afInet6 ≠ afInet := by decide
    rw [hlfamily, hrfamily, hloctets, hroctets, if_neg hne, if_neg hne]

/-! ## The round trip -/

/-- The socket addresses have the same family, the same address octets and the same port. -/
structure SameEndpoint (l r : Sockaddr) : Prop where
  family : l.saFamily = r.saFamily
  v4 : r.saFamily = afInet → l.sinAddr = r.sinAddr
  v6 : r.saFamily = afInet6 → l.sin6Addr = r.sin6Addr
  port : l.sinPort = r.sinPort

/-- Socket addresses that stand for one endpoint. -/
lemma SameEndpoint.of_isEndpoint (hl : l.IsEndpoint addr port) (hr : r.IsEndpoint addr port) :
    SameEndpoint l r := by
  obtain ⟨hlport, hladdr⟩ := hl
  obtain ⟨hrport, hraddr⟩ := hr
  cases addr with
  | v4 v =>
    refine ⟨hladdr.1.trans hraddr.1.symm, fun _ => hladdr.2.trans hraddr.2.symm, fun h6 => ?_,
      hlport.trans hrport.symm⟩
    rw [hraddr.1] at h6
    cases h6
  | v6 bytes =>
    refine ⟨hladdr.1.trans hraddr.1.symm, fun h4 => ?_, fun _ => hladdr.2.trans hraddr.2.symm,
      hlport.trans hrport.symm⟩
    rw [hraddr.1] at h4
    cases h4

/-- **There and back.** A socket address of an internet family comes back from its message with the
same family, octets and port, `sockequal` to it and loopback if it is; and two of them are
`sockequal` exactly when their messages are the same. -/
theorem toSockaddr_toIpAddr (name : Sockaddr) (h : isInet name = true) :
    (∃ message back, toIpAddr name = some message ∧ toSockaddr message = .ok back ∧
      SameEndpoint back name ∧ sockequal back name = true ∧
      isLocalhost back = isLocalhost name) ∧
    ∀ other, isInet other = true →
      (sockequal name other = true ↔ toIpAddr name = toIpAddr other) := by
  obtain ⟨addr, port, hname⟩ := exists_isEndpoint h
  constructor
  · obtain ⟨back, hback, hendpoint⟩ := exists_toSockaddr_reportAddr addr port
    exact ⟨reportAddr addr port, back, hname.toIpAddr, hback, .of_isEndpoint hendpoint hname,
      (sockequal_iff hendpoint hname).mpr ⟨rfl, rfl⟩, isLocalhost_eq hendpoint hname⟩
  · intro other hother
    obtain ⟨addr', port', hother⟩ := exists_isEndpoint hother
    rw [sockequal_iff hname hother, hname.toIpAddr, hother.toIpAddr, Option.some_inj,
      reportAddr_inj]

/-- There and back from `[2001:db8::1]:443`. -/
theorem toSockaddr_toIpAddr_2001_db8_1 :
    let name := sockaddrIn6 [0x20, 1, 0x0d, 0xb8, 0, 0, 0, 0, 0, 0, 0, 0, 0, 0, 0, 1] 443
    ∃ message back, toIpAddr name = some message ∧ toSockaddr message = .ok back ∧
      SameEndpoint back name ∧ sockequal back name = true ∧ isLocalhost back = isLocalhost name :=
  (toSockaddr_toIpAddr
    (sockaddrIn6 [0x20, 1, 0x0d, 0xb8, 0, 0, 0, 0, 0, 0, 0, 0, 0, 0, 0, 1] 443) (by decide)).1

end Encapsule
