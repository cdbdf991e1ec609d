import Encapsule.Injectee.Client
import Encapsule.Injectee.Winnet
import Encapsule.Injector.Server

/-!
# Two spellings of a v6 address

The octets of a v6 address are written into a message by `from_asio` and by `to_ip_addr`, and read
out of it by `to_asio` and by `to_sockaddr`.  The first of each pair keeps network order, the second
reverses it.  The proxy goes from `from_asio` to `to_sockaddr` and a report from `to_ip_addr` to
`to_asio`, so that both ends agree only on addresses that read the same backwards.

* `dialled_iff`: the proxy that is dialled is the one that was configured.
* `reported_iff`: the destination that is printed is the one of the call.
-/

namespace Encapsule

/-- The socket address is that of an endpoint: its family, its octets in network order, its port. -/
def Sockaddr.IsEndpoint (sa : Sockaddr) (addr : IpAddress) (port : UInt16) : Prop :=
  sa.sinPort = port ∧
    match addr with
    | .v4 _ => sa.saFamily = afInet ∧ sa.sinAddr = addr.toBytes
    | .v6 _ => sa.saFamily = afInet6 ∧ sa.sin6Addr = addr.toBytes

/-- A v4 address, or a v6 address whose octets read the same backwards. -/
def IpAddress.ReadsBackwards : IpAddress → Prop
  | .v4 _ => True
  | .v6 bytes => bytes.toList.reverse = bytes.toList

variable {addr : IpAddress} {port : UInt16}

/-! ## Octets of socket addresses -/

/-- The port that `htons` stored. -/
lemma ntohs_htons (port : UInt16) :
    ntohs (UInt8.ofNat (port.toNat / 256)) (UInt8.ofNat port.toNat) = port := by
  have hlt := port.toNat_lt
  have hsum : port.toNat / 256 % 2 ^ 8 * 256 + port.toNat % 2 ^ 8 = port.toNat := by omega
  unfold ntohs
  rw [UInt8.toNat_ofNat', UInt8.toNat_ofNat', hsum, UInt16.ofNat_toNat]

/-- The lowest octet of a number. -/
lemma ofNat_eq_of_mod {n : ℕ} {x : UInt8} (h : n % 256 = x.toNat) : UInt8.ofNat n = x := by
  rw [← UInt8.toNat_inj, UInt8.toNat_ofNat']
  exact h

/-- The octets of a port that was read. -/
lemma htons_ntohs (hi lo : UInt8) : htons (ntohs hi lo) = [hi, lo] := by
  have hhi := hi.toNat_lt
  have hlo := lo.toNat_lt
  have hval : (ntohs hi lo).toNat = hi.toNat * 256 + lo.toNat := by
    unfold ntohs
    rw [UInt16.toNat_ofNat']
    omega
  have hfirst : UInt8.ofNat ((hi.toNat * 256 + lo.toNat) / 256) = hi :=
    ofNat_eq_of_mod (by omega)
  have hsecond : UInt8.ofNat (hi.toNat * 256 + lo.toNat) = lo := ofNat_eq_of_mod (by omega)
  rw [htons, hval, hfirst, hsecond]

/-- The octets that `ntohl` reads are those of the v4 address. -/
lemma toBytes_ntohl (a b c d : UInt8) : (IpAddress.v4 (ntohl a b c d)).toBytes = [a, b, c, d] := by
  have ha := a.toNat_lt
  have hb := b.toNat_lt
  have hc := c.toNat_lt
  have hd := d.toNat_lt
  have hval : (ntohl a b c d).toNat =
      ((a.toNat * 256 + b.toNat) * 256 + c.toNat) * 256 + d.toNat := by
    unfold ntohl
    rw [UInt32.toNat_ofNat']
    omega
  change [UInt8.ofNat ((ntohl a b c d).toNat / 2 ^ 24),
    UInt8.ofNat ((ntohl a b c d).toNat / 2 ^ 16),
    UInt8.ofNat ((ntohl a b c d).toNat / 2 ^ 8), UInt8.ofNat (ntohl a b c d).toNat] = _
  rw [hval, ofNat_eq_of_mod (x := a) (by omega), ofNat_eq_of_mod (x := b) (by omega),
    ofNat_eq_of_mod (x := c) (by omega), ofNat_eq_of_mod (x := d) (by omega)]

/-- Octets are read where they were written. -/
lemma octetsAt_append (pre : Bytes) {mem post : Bytes} {n : ℕ} (hn : mem.length = n) :
    octetsAt (pre ++ mem ++ post) pre.length n = mem := by
  subst hn
  have hfits : pre.length + mem.length ≤ (pre ++ mem ++ post).length := by
    simp only [List.length_append]
    omega
  rw [octetsAt_eq hfits, List.append_assoc, List.drop_left, List.take_left]

lemma saFamily_cons (lo hi : UInt8) (mem : Bytes) :
    Sockaddr.saFamily (lo :: hi :: mem) = UInt16.ofNat (hi.toNat * 256 + lo.toNat) := rfl

/-- The fields of a `sockaddr_in`. -/
lemma isEndpoint_sockaddrIn (v : UInt32) (port : UInt16) :
    (sockaddrIn (htonl v) port).IsEndpoint (.v4 v) port := by
  refine ⟨ntohs_htons port, ?_, ?_⟩
  · exact saFamily_cons 2 0 _
  · exact octetsAt_append ([2, 0] ++ htons port) rfl

/-- The fields of a `sockaddr_in6`. -/
lemma sockaddrIn6_fields {octets : Bytes} (hlen : octets.length = 16) (port : UInt16) :
    (sockaddrIn6 octets port).sinPort = port ∧ (sockaddrIn6 octets port).saFamily = afInet6 ∧
      (sockaddrIn6 octets port).sin6Addr = octets := by
  refine ⟨ntohs_htons port, ?_, ?_⟩
  · exact saFamily_cons 23 0 _
  · have hpre : ([23, 0] ++ htons port ++ List.replicate 4 0).length = 8 := rfl
    unfold Sockaddr.sin6Addr sockaddrIn6
    rw [← hpre]
    exact octetsAt_append _ hlen

/-- Sixteen octets that are copied over an array leave nothing of it. -/
lemma copyOver_toList {stale : Vector UInt8 16} {octets : Bytes} (hlen : octets.length = 16) :
    (copyOver stale octets).toList = octets := by
  refine List.ext_getElem (by simp [hlen]) fun i hi hoctet => ?_
  simp [copyOver, hoctet]

/-! ## The proxy -/

/-- What `to_sockaddr` makes of the message that `from_asio` wrote. -/
lemma toSockaddr_fromAsio (addr : IpAddress) (port : UInt16) :
    toSockaddr (fromAsio addr port) = .ok (match addr with
      | .v4 v => sockaddrIn (htonl v) port
      | .v6 bytes => sockaddrIn6 bytes.toList.reverse port) := by
  cases addr with
  | v4 v => simp only [fromAsio, toSockaddr, UInt16.toUInt16_toUInt32]
  | v6 bytes =>
    have hlen : bytes.toList.length = 16 := by simp
    simp only [fromAsio, toSockaddr, hlen, Nat.lt_irrefl, if_false, UInt16.toUInt16_toUInt32]

/-- The proxy that the detours derive from the pushed configuration is the one that was configured,
if and only if it is a v4 address or the octets of the v6 address read the same backwards. -/
theorem dialled_iff (cfg : InjectorConfig) (addr : IpAddress) (port : UInt16) :
    (∃ proxy sa,
      (InjecteeConfig.set (ConfigSetter.write cfg (.setProxy addr port.toUInt32))).get.proxy =
        some proxy ∧
      toSockaddr proxy = .ok sa ∧ sa.IsEndpoint addr port) ↔ addr.ReadsBackwards := by
  have hproxy : (InjecteeConfig.set
      (ConfigSetter.write cfg (.setProxy addr port.toUInt32))).get.proxy =
        some (fromAsio addr port) := by
    change some (fromAsio addr port.toUInt32.toUInt16) = _
    rw [UInt16.toUInt16_toUInt32]
  rw [hproxy]
  constructor
  · rintro ⟨_, sa, ⟨rfl⟩, hsa, -, hendpoint⟩
    rw [toSockaddr_fromAsio] at hsa
    obtain rfl := Except.ok.inj hsa
    cases addr with
    | v4 v => trivial
    | v6 bytes =>
      have hlen : bytes.toList.reverse.length = 16 := by simp
      exact (sockaddrIn6_fields hlen port).2.2.symm.trans hendpoint.2
  · intro hback
    refine ⟨_, _, rfl, toSockaddr_fromAsio addr port, ?_⟩
    cases addr with
    | v4 v => exact isEndpoint_sockaddrIn v port
    | v6 bytes =>
      have hlen : bytes.toList.reverse.length = 16 := by simp
      obtain ⟨hport, hfamily, haddr⟩ := sockaddrIn6_fields hlen port
      exact ⟨hport, hfamily, haddr.trans hback⟩

/-- The proxy `2001:db8::1` is not the one that is dialled. -/
theorem not_dialled_2001_db8_1 :
    let addr : IpAddress := .v6 #v[0x20, 1, 0x0d, 0xb8, 0, 0, 0, 0, 0, 0, 0, 0, 0, 0, 0, 1]
    ¬ ∃ proxy sa,
      (InjecteeConfig.set (ConfigSetter.write {} (.setProxy addr 1080))).get.proxy = some proxy ∧
      toSockaddr proxy = .ok sa ∧ sa.IsEndpoint addr 1080 := by
  rintro addr ⟨proxy, sa, hproxy, hsa, -, -, hoctets⟩
  obtain rfl := Option.some.inj hproxy
  have hdial : toSockaddr (fromAsio addr 1080) =
      .ok (sockaddrIn6 [1, 0, 0, 0, 0, 0, 0, 0, 0, 0, 0, 0, 0xb8, 0x0d, 1, 0x20] 1080) := by
    decide
  obtain rfl := Except.ok.inj (hdial.symm.trans hsa)
  revert hoctets
  decide

/-! ## The report -/

/-- What `to_asio` makes of the message that `to_ip_addr` wrote. -/
lemma toAsio_toIpAddr (stale : Vector UInt8 16) {name : Sockaddr} (h : isInet name = true) :
    ∃ ip addr, toIpAddr name = some ip ∧ toAsio stale ip = .ok (.address addr, name.sinPort) ∧
      ((name.saFamily = afInet ∧
          addr = .v4 (ntohl (octetAt name 4) (octetAt name 5) (octetAt name 6) (octetAt name 7))) ∨
        (name.saFamily = afInet6 ∧ addr = .v6 (copyOver stale name.sin6Addr.reverse))) := by
  unfold toIpAddr
  by_cases h4 : name.saFamily = afInet
  · refine ⟨_, _, if_pos h4, ?_, Or.inl ⟨h4, rfl⟩⟩
    simp only [toAsio, UInt16.toUInt16_toUInt32]
  · have h6 : name.saFamily = afInet6 := by
      simpa [isInet, h4] using h
    have hlen : name.sin6Addr.reverse.length = 16 := by simp [Sockaddr.sin6Addr, octetsAt]
    refine ⟨_, _, by rw [if_neg h4, if_pos h6], ?_, Or.inr ⟨h6, rfl⟩⟩
    simp only [toAsio, hlen, Nat.lt_irrefl, if_false, UInt16.toUInt16_toUInt32]

/-- The endpoint that the injector prints is that of the socket address, if and only if it is a v4
address or the octets of the v6 address read the same backwards. -/
theorem reported_iff (stale : Vector UInt8 16) (name : Sockaddr) (h : isInet name = true) :
    (∃ ip addr port, toIpAddr name = some ip ∧ toAsio stale ip = .ok (.address addr, port) ∧
      name.IsEndpoint addr port) ↔
      (name.saFamily = afInet ∨ name.sin6Addr.reverse = name.sin6Addr) := by
  obtain ⟨ip, addr, hip, hasio, hcase⟩ := toAsio_toIpAddr stale h
  have hlen : name.sin6Addr.reverse.length = 16 := by simp [Sockaddr.sin6Addr, octetsAt]
  constructor
  · rintro ⟨ip', addr', port', hip', hasio', hendpoint⟩
    obtain rfl := Option.some.inj (hip.symm.trans hip')
    obtain ⟨haddr, rfl⟩ := Prod.mk.inj (Except.ok.inj (hasio.symm.trans hasio'))
    obtain rfl := AsioHost.address.inj haddr
    rcases hcase with ⟨h4, -⟩ | ⟨-, rfl⟩
    · exact Or.inl h4
    · have hoctets : name.sin6Addr = (copyOver stale name.sin6Addr.reverse).toList :=
        hendpoint.2.2
      rw [copyOver_toList hlen] at hoctets
      exact Or.inr hoctets.symm
  · intro hback
    refine ⟨ip, addr, name.sinPort, hip, hasio, rfl, ?_⟩
    rcases hcase with ⟨h4, rfl⟩ | ⟨h6, rfl⟩
    · exact ⟨h4, (toBytes_ntohl _ _ _ _).symm⟩
    · refine ⟨h6, ?_⟩
      have hback' : name.sin6Addr.reverse = name.sin6Addr := by
        rcases hback with h4 | hback
        · rw [h6] at h4
          cases h4
        · exact hback
      change name.sin6Addr = (copyOver stale name.sin6Addr.reverse).toList
      rw [copyOver_toList hlen, hback']

/-- A call to `10.0.0.2:80` is reported as such. -/
theorem reported_iff_10_0_0_2 :
    let name := sockaddrIn [10, 0, 0, 2] 80
    ∃ ip addr port, toIpAddr name = some ip ∧
      toAsio (Vector.replicate 16 0) ip = .ok (.address addr, port) ∧ name.IsEndpoint addr port :=
  (reported_iff (Vector.replicate 16 0) (sockaddrIn [10, 0, 0, 2] 80) (by decide)).mpr
    (Or.inl (by decide))

/-- A call to `2001:db8::1` is reported as one to another address. -/
theorem not_reported_2001_db8_1 :
    let name := sockaddrIn6 [0x20, 1, 0x0d, 0xb8, 0, 0, 0, 0, 0, 0, 0, 0, 0, 0, 0, 1] 443
    ¬ ∃ ip addr port, toIpAddr name = some ip ∧
      toAsio (Vector.replicate 16 0) ip = .ok (.address addr, port) ∧
      name.IsEndpoint addr port := by
  rintro name ⟨ip, addr, port, hip, hasio, hendpoint⟩
  have hmessage : toIpAddr name = some
      { v6Addr := some [1, 0, 0, 0, 0, 0, 0, 0, 0, 0, 0, 0, 0xb8, 0x0d, 1, 0x20]
        port := some 443 } := by
    decide
  obtain rfl := Option.some.inj (hmessage.symm.trans hip)
  have hprint : toAsio (Vector.replicate 16 0)
      { v6Addr := some [1, 0, 0, 0, 0, 0, 0, 0, 0, 0, 0, 0, 0xb8, 0x0d, 1, 0x20]
        port := some 443 } =
      .ok (.address (.v6 #v[1, 0, 0, 0, 0, 0, 0, 0, 0, 0, 0, 0, 0xb8, 0x0d, 1, 0x20]), 443) := by
    decide
  obtain ⟨haddr, rfl⟩ := Prod.mk.inj (Except.ok.inj (hprint.symm.trans hasio))
  obtain rfl := AsioHost.address.inj haddr
  have hoctets := hendpoint.2.2
  revert hoctets
  decide

end Encapsule
