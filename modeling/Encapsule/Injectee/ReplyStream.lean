import Encapsule.Injectee.Handshake
import Encapsule.Injectee.RequestBuilders

/-!
# Replies on a stream

`socks5_read_reply` of a connection of which only the octets it delivers are known (`streamServer`).
A granted reply has the layout of a request, with the REP octet in the place of the command
(`WireAddress.reply`); `replyOn_reply` is how it is read when all of it is there, and `replyOn_take`
when it is cut.

* `replyOn_aligned`: what each verdict says about the octets that were consumed.
* `replyOn_truncated_iff`: which cuts of a granted reply are called truncated.
-/

namespace Encapsule

open Interaction

/-- The reader on a connection that delivers the octets of `stream`: what it answers, and what it
leaves. -/
def replyOn (s : SOCKET) (stream : Bytes) :
    (Socks5Reply × Option UInt8 × Option Socks5RelayEndpoint) × Wire :=
  (socks5ReadReply s).interp streamServer { sent := [], input := stream }

namespace WireAddress

/-- The address is a name. -/
def named : WireAddress → Bool
  | domain .. => true
  | _ => false

/-- The reply that grants a request, with the address and the port of the relay. -/
def reply (rsv : UInt8) (a : WireAddress) (port : UInt16) : Bytes :=
  a.frame [socksVersion, socksSuccess, rsv] port

/-- The verdict on such a reply. -/
def verdict (a : WireAddress) : Socks5Reply := if a.named then .bndIsAName else .ok

/-- What is kept of such a reply. -/
def endpoint (a : WireAddress) (port : UInt16) : Socks5RelayEndpoint :=
  decodeRelayEndpoint a.atyp a.named a.octets.length (a.octets ++ htons port)

end WireAddress

/-- What an endpoint holds: the type octet and the port; a name as it is; and a numeric address both
in its own octets and in the ready socket address. -/
structure Socks5RelayEndpoint.Holds (bnd : Socks5RelayEndpoint) (a : WireAddress)
    (port : UInt16) : Prop where
  atyp : bnd.atyp = a.atyp
  portHostOrder : bnd.portHostOrder = port
  name : a.named = true → bnd.name = a.octets
  addr : a.named = false → bnd.addrSize = a.octets.length ∧ bnd.addr.take bnd.addrSize = a.octets
  sinPort : a.named = false → bnd.bound.sinPort = port
  sinAddr : a.atyp = socksIpv4 → bnd.bound.saFamily = afInet ∧ bnd.bound.sinAddr = a.octets
  sin6Addr : a.atyp = socksIpv6 → bnd.bound.saFamily = afInet6 ∧ bnd.bound.sin6Addr = a.octets

variable {a : WireAddress} {rsv : UInt8} {port : UInt16}

/-! ## The endpoint -/

/-- The storage of an endpoint, with a socket address in it. -/
def storage (sa : Sockaddr) : Sockaddr := overwrite (List.replicate 128 0) 0 sa

/-- The fields of a `sockaddr_in` in the storage. -/
lemma storage_sockaddrIn {octets : Bytes} (hlen : octets.length = 4) (port : UInt16) :
    (storage (sockaddrIn octets port)).sinPort = port ∧
      (storage (sockaddrIn octets port)).saFamily = afInet ∧
      (storage (sockaddrIn octets port)).sinAddr = octets := by
  rw [storage, overwrite_zero, sockaddrIn]
  refine ⟨ntohs_htons port, saFamily_cons 2 0 _, ?_⟩
  rw [List.append_assoc _ (List.replicate 8 0)]
  exact octetsAt_append ([2, 0] ++ htons port) hlen

/-- The fields of a `sockaddr_in6` in the storage. -/
lemma storage_sockaddrIn6 {octets : Bytes} (hlen : octets.length = 16) (port : UInt16) :
    (storage (sockaddrIn6 octets port)).sinPort = port ∧
      (storage (sockaddrIn6 octets port)).saFamily = afInet6 ∧
      (storage (sockaddrIn6 octets port)).sin6Addr = octets := by
  rw [storage, overwrite_zero, sockaddrIn6]
  refine ⟨ntohs_htons port, saFamily_cons 23 0 _, ?_⟩
  rw [List.append_assoc _ (List.replicate 4 0)]
  exact octetsAt_append ([23, 0] ++ htons port ++ List.replicate 4 0) hlen

/-- The port behind an address. -/
lemma port_append (octets : Bytes) (port : UInt16) :
    ntohs (octetAt (octets ++ htons port) octets.length)
      (octetAt (octets ++ htons port) (octets.length + 1)) = port := by
  have hport : octetsAt (octets ++ htons port) octets.length 2 = htons port := by
    have hblock := @octetsAt_append octets (htons port) [] 2 rfl
    rw [List.append_nil] at hblock
    exact hblock
  obtain ⟨hhi, hlo⟩ := List.cons.inj hport
  have hhi' : octetAt (octets ++ htons port) octets.length = UInt8.ofNat (port.toNat / 256) := hhi
  have hlo' : octetAt (octets ++ htons port) (octets.length + 1) = UInt8.ofNat port.toNat :=
    (List.cons.inj hlo).1
  rw [hhi', hlo', ntohs_htons]

/-- What is decoded of an address and a port. -/
lemma holds_endpoint (a : WireAddress) (port : UInt16) : (a.endpoint port).Holds a port := by
  unfold WireAddress.endpoint decodeRelayEndpoint
  rw [port_append, List.take_left]
  have hne : socksIpv4 ≠ socksIpv6 := by decide
  have hneName : socksDomainname ≠ socksIpv4 ∧ socksDomainname ≠ socksIpv6 := by decide
  cases a with
  | ipv4 octets =>
    have hlen : octets.toList.length = 4 := octets.length_toList
    obtain ⟨hport, hfamily, haddr⟩ := storage_sockaddrIn hlen port
    exact
      { atyp := rfl
        portHostOrder := rfl
        name := nofun
        addr := fun _ => ⟨rfl, List.take_left⟩
        sinPort := fun _ => hport
        sinAddr := fun _ => ⟨hfamily, haddr⟩
        sin6Addr := fun h => absurd h hne }
  | ipv6 octets =>
    have hlen : octets.toList.length = 16 := octets.length_toList
    obtain ⟨hport, hfamily, haddr⟩ := storage_sockaddrIn6 hlen port
    exact
      { atyp := rfl
        portHostOrder := rfl
        name := nofun
        addr := fun _ => ⟨rfl, List.take_left⟩
        sinPort := fun _ => hport
        sinAddr := fun h => absurd h hne.symm
        sin6Addr := fun _ => ⟨hfamily, haddr⟩ }
  | domain name hlen =>
    exact
      { atyp := rfl
        portHostOrder := rfl
        name := fun _ => rfl
        addr := nofun
        sinPort := nofun
        sinAddr := fun h => absurd h hneName.1
        sin6Addr := fun h => absurd h hneName.2 }

/-! ## The reader -/

/-- The address part of a granted reply, when all of it is there. -/
def relayAnswer (atyp : UInt8) (named : Bool) (field : ℕ) (rest : Bytes) :
    (Socks5Reply × Option UInt8 × Option Socks5RelayEndpoint) × Wire :=
  if field + 2 ≤ rest.length then
    ((if named then .bndIsAName else .ok, some socksSuccess,
      some (decodeRelayEndpoint atyp named field (rest.take (field + 2)))),
      { sent := [], input := rest.drop (field + 2) })
  else
    ((.truncated, some socksSuccess, none), { sent := [], input := [] })

/-- The address part of a granted reply with a name. -/
def namedAnswer (rest : Bytes) :
    (Socks5Reply × Option UInt8 × Option Socks5RelayEndpoint) × Wire :=
  if rest.length < 1 ∨ octetAt rest 0 = 0 then
    ((.protocolError, some socksSuccess, none), { sent := [], input := rest.drop 1 })
  else
    relayAnswer socksDomainname true (octetAt rest 0).toNat (rest.drop 1)

/-- The reader of the address part, on a stream. -/
lemma interp_readRelayEndpoint (s : SOCKET) (atyp : UInt8) (named : Bool) (field : ℕ)
    (rest : Bytes) :
    ((readRelayEndpoint s atyp named field).bind fun answer =>
        Prog.ret (answer.1, some socksSuccess, answer.2)).interp streamServer
        { sent := [], input := rest } = relayAnswer atyp named field rest := by
  simp only [readRelayEndpoint, Prog.bind_eq_bind, Prog.interp_bind, interp_recvExact, relayAnswer]
  by_cases hlen : field + 2 ≤ rest.length
  · rw [if_pos hlen, if_pos hlen]
    rfl
  · rw [if_neg hlen, if_neg hlen, List.drop_of_length_le (by omega)]
    rfl

/-- A stream that ends within the four fixed octets. -/
lemma replyOn_of_length_lt (s : SOCKET) {stream : Bytes} (h : stream.length < 4) :
    replyOn s stream = ((.protocolError, none, none), { sent := [], input := [] }) := by
  have hshort : ¬4 ≤ stream.length := by omega
  simp only [replyOn, socks5ReadReply, Prog.bind_eq_bind, Prog.interp_bind, interp_recvExact]
  rw [if_neg hshort, List.drop_of_length_le (by omega)]
  rfl

/-- A stream with the four fixed octets. -/
lemma replyOn_cons (s : SOCKET) (ver rep rsv atyp : UInt8) (rest : Bytes) :
    replyOn s (ver :: rep :: rsv :: atyp :: rest) =
      if ver ≠ socksVersion then
        ((.protocolError, none, none), { sent := [], input := rest })
      else if rep ≠ socksSuccess then
        ((.refusedRep, some rep, none), { sent := [], input := rest })
      else if atyp = socksIpv4 then relayAnswer socksIpv4 false 4 rest
      else if atyp = socksIpv6 then relayAnswer socksIpv6 false 16 rest
      else if atyp = socksDomainname then namedAnswer rest
      else ((.protocolError, some socksSuccess, none), { sent := [], input := rest }) := by
  have hlen : 4 ≤ (ver :: rep :: rsv :: atyp :: rest).length := by simp
  simp only [replyOn, socks5ReadReply, Prog.bind_eq_bind]
  rw [Prog.interp_bind, interp_recvExact, if_pos hlen]
  simp only [List.take_succ_cons, List.take_zero, List.drop_succ_cons, List.drop_zero]
  have hver : octetAt [ver, rep, rsv, atyp] 0 = ver := rfl
  have hrep : octetAt [ver, rep, rsv, atyp] 1 = rep := rfl
  have hatyp : octetAt [ver, rep, rsv, atyp] 3 = atyp := rfl
  simp only [hver, hrep, hatyp]
  by_cases h5 : ver ≠ socksVersion
  · rw [if_pos h5, if_pos h5]
    rfl
  by_cases h0 : rep ≠ socksSuccess
  · rw [if_neg h5, if_pos h0, if_neg h5, if_pos h0]
    rfl
  obtain rfl : rep = socksSuccess := not_not.mp h0
  rw [if_neg h5, if_neg h0, if_neg h5, if_neg h0]
  by_cases h4 : atyp = socksIpv4
  · rw [if_pos h4, if_pos h4, h4]
    exact interp_readRelayEndpoint s socksIpv4 false 4 rest
  by_cases h6 : atyp = socksIpv6
  · rw [if_neg h4, if_pos h6, if_neg h4, if_pos h6, h6]
    exact interp_readRelayEndpoint s socksIpv6 false 16 rest
  rw [if_neg h4, if_neg h6, if_neg h4, if_neg h6]
  by_cases hname : atyp = socksDomainname
  · rw [if_pos hname, if_pos hname, hname]
    rw [Prog.interp_bind, interp_recvExact]
    unfold namedAnswer
    by_cases hlen : 1 ≤ rest.length
    · rw [if_pos hlen]
      have hfirst : octetAt (rest.take 1) 0 = octetAt rest 0 := octetAt_take Nat.one_pos
      simp only [hfirst]
      by_cases hzero : octetAt rest 0 = 0
      · rw [if_pos hzero, if_pos (Or.inr hzero)]
        rfl
      · rw [if_neg hzero, if_neg (not_or.mpr ⟨by omega, hzero⟩)]
        exact interp_readRelayEndpoint s socksDomainname true _ (rest.drop 1)
    · rw [if_neg hlen, if_pos (Or.inl (by omega))]
      rfl
  · rw [if_neg hname, if_neg hname]
    rfl

/-! ## Granted replies -/

/-- The octets of a granted reply in the order in which they are asked for, and what comes behind
them. -/
lemma WireAddress.reply_append (rsv : UInt8) (a : WireAddress) (port : UInt16) (tail : Bytes) :
    a.reply rsv port ++ tail =
      socksVersion :: socksSuccess :: rsv :: a.atyp ::
        (a.lead ++ (a.octets ++ (htons port ++ tail))) :=
  frame_append [socksVersion, socksSuccess, rsv] a port tail

/-- The octets of a granted reply. -/
lemma WireAddress.reply_eq (rsv : UInt8) (a : WireAddress) (port : UInt16) :
    a.reply rsv port =
      socksVersion :: socksSuccess :: rsv :: a.atyp :: (a.lead ++ (a.octets ++ htons port)) := by
  rw [← List.append_nil (a.reply rsv port), reply_append, List.append_nil]

/-- The size of a granted reply. -/
lemma WireAddress.length_reply (rsv : UInt8) (a : WireAddress) (port : UInt16) :
    (a.reply rsv port).length = 4 + a.lead.length + (a.octets.length + 2) := by
  rw [reply_eq]
  simp only [List.length_cons, List.length_append, htons, List.length_nil]
  omega

/-- The address part behind the octets that say its size. -/
lemma replyOn_lead (s : SOCKET) (rsv : UInt8) (a : WireAddress) (rest : Bytes) :
    replyOn s (socksVersion :: socksSuccess :: rsv :: a.atyp :: (a.lead ++ rest)) =
      relayAnswer a.atyp a.named a.octets.length rest := by
  have hne : socksIpv6 ≠ socksIpv4 := by decide
  have hneName : socksDomainname ≠ socksIpv4 ∧ socksDomainname ≠ socksIpv6 := by decide
  rw [replyOn_cons, if_neg (not_not.mpr rfl), if_neg (not_not.mpr rfl)]
  cases a with
  | ipv4 octets =>
    have hlen : octets.toList.length = 4 := octets.length_toList
    have hatyp : (WireAddress.ipv4 octets).atyp = socksIpv4 := rfl
    rw [if_pos hatyp, WireAddress.octets, hlen]
    rfl
  | ipv6 octets =>
    have hlen : octets.toList.length = 16 := octets.length_toList
    rw [WireAddress.atyp, if_neg hne, if_pos rfl, WireAddress.octets, hlen]
    rfl
  | domain name hlen =>
    have hoctet : (UInt8.ofNat name.length).toNat = name.length :=
      WireAddress.toNat_length hlen.2
    have hpos : UInt8.ofNat name.length ≠ 0 := by
      intro hzero
      rw [hzero] at hoctet
      have hname : name.length = 0 := hoctet.symm
      omega
    have hfirst : octetAt (UInt8.ofNat name.length :: rest) 0 = UInt8.ofNat name.length := rfl
    have hsome : ¬(UInt8.ofNat name.length :: rest).length < 1 := by simp
    rw [WireAddress.atyp, if_neg hneName.1, if_neg hneName.2, if_pos rfl]
    change namedAnswer (UInt8.ofNat name.length :: rest) = _
    rw [namedAnswer, hfirst, if_neg (not_or.mpr ⟨hsome, hpos⟩), hoctet]
    rfl

/-- The verdict on a numeric address. -/
lemma WireAddress.verdict_eq_ok : a.verdict = .ok ↔ a.named = false := by
  unfold verdict
  cases a.named <;> simp

/-- The verdict on a name. -/
lemma WireAddress.verdict_eq_bndIsAName : a.verdict = .bndIsAName ↔ a.named = true := by
  unfold verdict
  cases a.named <;> simp

/-- The size of a granted reply with a numeric address. -/
lemma WireAddress.length_reply_numeric (rsv : UInt8) (port : UInt16) (h : a.named = false) :
    (a.reply rsv port).length = 10 ∨ (a.reply rsv port).length = 22 := by
  rw [length_reply]
  cases a with
  | ipv4 octets =>
    have hlen : octets.toList.length = 4 := octets.length_toList
    rw [WireAddress.octets, hlen]
    exact Or.inl rfl
  | ipv6 octets =>
    have hlen : octets.toList.length = 16 := octets.length_toList
    rw [WireAddress.octets, hlen]
    exact Or.inr rfl
  | domain name hlen => cases h

/-- The size of a granted reply with a name. -/
lemma WireAddress.length_reply_named (rsv : UInt8) (port : UInt16) (h : a.named = true) :
    (a.reply rsv port).length = 7 + a.octets.length := by
  rw [length_reply]
  cases a with
  | ipv4 octets => cases h
  | ipv6 octets => cases h
  | domain name hlen =>
    change 4 + 1 + (name.length + 2) = 7 + name.length
    omega

/-- A granted reply that is there is read to its end. -/
lemma replyOn_reply (s : SOCKET) (rsv : UInt8) (a : WireAddress) (port : UInt16) (tail : Bytes) :
    replyOn s (a.reply rsv port ++ tail) =
      ((a.verdict, some socksSuccess, some (a.endpoint port)), { sent := [], input := tail }) := by
  have hpart : (a.octets ++ htons port).length = a.octets.length + 2 := List.length_append
  have hfits : a.octets.length + 2 ≤ (a.octets ++ htons port ++ tail).length := by
    rw [List.length_append, hpart]
    exact Nat.le_add_right _ _
  rw [WireAddress.reply_append, replyOn_lead, ← List.append_assoc a.octets, relayAnswer,
    if_pos hfits, ← hpart, List.take_left, List.drop_left]
  rfl

/-- A granted reply that is cut behind its fixed octets: a name needs one more octet before its
size is known. -/
lemma replyOn_take (s : SOCKET) {n : ℕ} (h4 : 4 ≤ n) (hn : n < (a.reply rsv port).length) :
    (replyOn s ((a.reply rsv port).take n)).1.1 =
      if a.named = true ∧ n = 4 then .protocolError else .truncated := by
  obtain ⟨k, rfl⟩ := Nat.exists_eq_add_of_le' h4
  rw [WireAddress.length_reply] at hn
  have htake : (a.reply rsv port).take (k + 4) = socksVersion :: socksSuccess :: rsv :: a.atyp ::
      (a.lead ++ (a.octets ++ htons port)).take k := by
    rw [WireAddress.reply_eq]
    rfl
  rw [htake]
  by_cases hlead : a.lead.length ≤ k
  · have hwhole : ¬(a.named = true ∧ k + 4 = 4) := by
      rintro ⟨hnamed, hzero⟩
      cases a with
      | ipv4 octets => cases hnamed
      | ipv6 octets => cases hnamed
      | domain name hlen =>
        have hone : 1 ≤ k := hlead
        omega
    have hshort : ¬a.octets.length + 2 ≤
        ((a.octets ++ htons port).take (k - a.lead.length)).length := by
      rw [List.length_take]
      omega
    rw [List.take_append, List.take_of_length_le hlead, replyOn_lead, relayAnswer, if_neg hshort,
      if_neg hwhole]
  · cases a with
    | ipv4 octets => exact absurd (Nat.zero_le k) hlead
    | ipv6 octets => exact absurd (Nat.zero_le k) hlead
    | domain name hlen =>
      have hk : ¬1 ≤ k := hlead
      obtain rfl : k = 0 := by omega
      rw [if_pos ⟨rfl, rfl⟩, replyOn_cons]
      rfl

/-! ## What a stream can be -/

/-- The octets that are asked for and the port behind them, where there are enough. -/
lemma exists_parts {n : ℕ} {rest : Bytes} (h : n + 2 ≤ rest.length) :
    ∃ (octets : Bytes) (port : UInt16) (tail : Bytes), octets.length = n ∧
      rest = octets ++ (htons port ++ tail) := by
  obtain ⟨hi, lo, tail, htail⟩ : ∃ hi lo tail, rest.drop n = hi :: lo :: tail := by
    have hlen : 2 ≤ (rest.drop n).length := by
      rw [List.length_drop]
      omega
    have hpos : 0 < (rest.drop n).length := by omega
    obtain ⟨hi, _ | ⟨lo, tail⟩, hdrop⟩ := List.exists_cons_of_length_pos hpos
    · rw [hdrop] at hlen
      simp at hlen
    · exact ⟨hi, lo, tail, hdrop⟩
  refine ⟨rest.take n, ntohs hi lo, tail, List.length_take_of_le (by omega), ?_⟩
  rw [htons_ntohs]
  change rest = rest.take n ++ hi :: lo :: tail
  rw [← htail, List.take_append_drop]

/-- The address part is refused for its size alone. -/
lemma relayAnswer_verdict (atyp : UInt8) (named : Bool) (field : ℕ) (rest : Bytes) :
    (relayAnswer atyp named field rest).1.1 =
      if field + 2 ≤ rest.length then (if named then .bndIsAName else .ok) else .truncated := by
  unfold relayAnswer
  split_ifs <;> rfl

/-- The address part is neither a refusal nor a breach of the protocol. -/
lemma relayAnswer_ne (atyp : UInt8) (named : Bool) (field : ℕ) (rest : Bytes) :
    (relayAnswer atyp named field rest).1.1 ≠ .refusedRep ∧
      (relayAnswer atyp named field rest).1.1 ≠ .protocolError := by
  rw [relayAnswer_verdict]
  split_ifs <;> simp

/-- A stream with the four fixed octets, and what is behind them. -/
lemma exists_fixed {stream : Bytes} (h : ¬stream.length < 4) :
    ∃ ver rep rsv atyp rest, stream = ver :: rep :: rsv :: atyp :: rest := by
  rcases stream with _ | ⟨ver, _ | ⟨rep, _ | ⟨rsv, _ | ⟨atyp, rest⟩⟩⟩⟩
  · exact absurd (by decide) h
  · exact absurd (by simp) h
  · exact absurd (by simp) h
  · exact absurd (by simp) h
  · exact ⟨ver, rep, rsv, atyp, rest, rfl⟩

/-- An address part that is granted is there. -/
lemma exists_of_relayAnswer {atyp : UInt8} {named : Bool} {field : ℕ} {rest : Bytes}
    (h : (relayAnswer atyp named field rest).1.1 = .ok ∨
      (relayAnswer atyp named field rest).1.1 = .bndIsAName) :
    ∃ (octets : Bytes) (port : UInt16) (tail : Bytes), octets.length = field ∧
      rest = octets ++ (htons port ++ tail) := by
  apply exists_parts
  by_contra hshort
  rw [relayAnswer_verdict, if_neg hshort] at h
  simp at h

/-- A name that is granted is there, with its length in front. -/
lemma exists_of_namedAnswer {rest : Bytes}
    (h : (namedAnswer rest).1.1 = .ok ∨ (namedAnswer rest).1.1 = .bndIsAName) :
    ∃ (name : Bytes) (port : UInt16) (tail : Bytes),
      1 ≤ name.length ∧ name.length ≤ socksDomainMaxLength ∧
        rest = UInt8.ofNat name.length :: (name ++ (htons port ++ tail)) := by
  unfold namedAnswer at h
  split_ifs at h with hbad
  · simp at h
  obtain ⟨hlen, hzero⟩ := not_or.mp hbad
  have hsome : 0 < rest.length := by omega
  obtain ⟨first, part, rfl⟩ := List.exists_cons_of_length_pos hsome
  obtain ⟨name, port, tail, hname, hpart⟩ := exists_of_relayAnswer h
  have hfirst : name.length = first.toNat := hname
  have hmax := first.toNat_lt
  have hpos : first.toNat ≠ 0 := fun hnat => hzero (UInt8.toNat_inj.mp hnat)
  refine ⟨name, port, tail, by omega, by rw [socksDomainMaxLength]; omega, ?_⟩
  rw [hfirst, UInt8.ofNat_toNat, ← hpart]
  rfl

/-- What is granted is a granted reply, with octets behind it. -/
lemma exists_reply {s : SOCKET} {stream : Bytes}
    (h : (replyOn s stream).1.1 = .ok ∨ (replyOn s stream).1.1 = .bndIsAName) :
    ∃ (a : WireAddress) (rsv : UInt8) (port : UInt16) (tail : Bytes),
      stream = a.reply rsv port ++ tail := by
  by_cases hlen : stream.length < 4
  · rw [replyOn_of_length_lt s hlen] at h
    simp at h
  obtain ⟨ver, rep, rsv, atyp, rest, rfl⟩ := exists_fixed hlen
  rw [replyOn_cons] at h
  split_ifs at h with hver hrep h4 h6 hname
  · simp at h
  · simp at h
  · obtain ⟨octets, port, tail, hoctets, rfl⟩ := exists_of_relayAnswer h
    refine ⟨.ipv4 ⟨octets.toArray, hoctets⟩, rsv, port, tail, ?_⟩
    rw [WireAddress.reply_append, not_not.mp hver, not_not.mp hrep, h4]
    rfl
  · obtain ⟨octets, port, tail, hoctets, rfl⟩ := exists_of_relayAnswer h
    refine ⟨.ipv6 ⟨octets.toArray, hoctets⟩, rsv, port, tail, ?_⟩
    rw [WireAddress.reply_append, not_not.mp hver, not_not.mp hrep, h6]
    rfl
  · obtain ⟨name, port, tail, hpos, hmax, rfl⟩ := exists_of_namedAnswer h
    refine ⟨.domain name ⟨hpos, hmax⟩, rsv, port, tail, ?_⟩
    rw [WireAddress.reply_append, not_not.mp hver, not_not.mp hrep, hname]
    rfl
  · simp at h

/-- What is refused has its four fixed octets, and no more of it is read. -/
lemma exists_refused {s : SOCKET} {stream : Bytes}
    (h : (replyOn s stream).1.1 = .refusedRep) :
    ∃ rep rsv atyp : UInt8, rep ≠ socksSuccess ∧ (replyOn s stream).1.2.1 = some rep ∧
      stream = [socksVersion, rep, rsv, atyp] ++ (replyOn s stream).2.input := by
  by_cases hlen : stream.length < 4
  · rw [replyOn_of_length_lt s hlen] at h
    simp at h
  obtain ⟨ver, rep, rsv, atyp, rest, rfl⟩ := exists_fixed hlen
  obtain ⟨rfl, hrep⟩ : ver = socksVersion ∧ rep ≠ socksSuccess := by
    rw [replyOn_cons] at h
    split_ifs at h with hver hrep h4 h6 hname
    · exact ⟨not_not.mp hver, hrep⟩
    · exact absurd h (relayAnswer_ne _ _ _ _).1
    · exact absurd h (relayAnswer_ne _ _ _ _).1
    · unfold namedAnswer at h
      split_ifs at h
      exact absurd h (relayAnswer_ne _ _ _ _).1
  refine ⟨rep, rsv, atyp, hrep, ?_⟩
  rw [replyOn_cons, if_neg (not_not.mpr rfl), if_pos hrep]
  exact ⟨rfl, rfl⟩

/-- **Reading stays aligned with the stream.** Whatever the stream, a verdict says which octets were
consumed: for `ok` the ten or twenty-two of a granted reply with a numeric address, for
`bnd_is_a_name` those of one with a name, and for `refused_rep` the four fixed ones.  The endpoint
holds what the reply says.  No part of a granted reply is taken for the whole, and what the builder
wrote for an address and a port is read back, with what comes behind it left on the stream. -/
theorem replyOn_aligned (s : SOCKET) :
    (∀ stream : Bytes,
      ((replyOn s stream).1.1 = .ok →
          ∃ (a : WireAddress) (rsv : UInt8) (port : UInt16) (bnd : Socks5RelayEndpoint),
            a.named = false ∧ ((a.reply rsv port).length = 10 ∨ (a.reply rsv port).length = 22) ∧
            stream = a.reply rsv port ++ (replyOn s stream).2.input ∧
            (replyOn s stream).1.2.2 = some bnd ∧ bnd.Holds a port) ∧
        ((replyOn s stream).1.1 = .bndIsAName →
          ∃ (a : WireAddress) (rsv : UInt8) (port : UInt16) (bnd : Socks5RelayEndpoint),
            a.named = true ∧ (a.reply rsv port).length = 7 + a.octets.length ∧
            stream = a.reply rsv port ++ (replyOn s stream).2.input ∧
            (replyOn s stream).1.2.2 = some bnd ∧ bnd.Holds a port) ∧
        ((replyOn s stream).1.1 = .refusedRep →
          ∃ rep rsv atyp : UInt8, rep ≠ socksSuccess ∧ (replyOn s stream).1.2.1 = some rep ∧
            stream = [socksVersion, rep, rsv, atyp] ++ (replyOn s stream).2.input)) ∧
      (∀ (a : WireAddress) (rsv : UInt8) (port : UInt16), ∀ n < (a.reply rsv port).length,
        (replyOn s ((a.reply rsv port).take n)).1.1 ≠ .ok ∧
          (replyOn s ((a.reply rsv port).take n)).1.1 ≠ .bndIsAName) ∧
      ∀ (a : WireAddress) (rest : Bytes) (port : UInt16) (out tail : Bytes), a.NulFree →
        a.field.length + 6 ≤ out.length →
        let built := socks5BuildRequestCmd socksSuccess a.atyp (a.memory ++ rest) port out
        ∃ bnd : Socks5RelayEndpoint,
          replyOn s (built.2.take built.1 ++ tail) =
              ((a.verdict, some socksSuccess, some bnd), { sent := [], input := tail }) ∧
            bnd.Holds a port := by
  refine ⟨fun stream => ⟨?_, ?_, exists_refused⟩, ?_, ?_⟩
  · intro hok
    obtain ⟨a, rsv, port, tail, rfl⟩ := exists_reply (Or.inl hok)
    rw [replyOn_reply] at hok ⊢
    have hnamed : a.named = false := WireAddress.verdict_eq_ok.mp hok
    exact ⟨a, rsv, port, _, hnamed, WireAddress.length_reply_numeric rsv port hnamed, rfl, rfl,
      holds_endpoint a port⟩
  · intro hname
    obtain ⟨a, rsv, port, tail, rfl⟩ := exists_reply (Or.inr hname)
    rw [replyOn_reply] at hname ⊢
    have hnamed : a.named = true := WireAddress.verdict_eq_bndIsAName.mp hname
    exact ⟨a, rsv, port, _, hnamed, WireAddress.length_reply_named rsv port hnamed, rfl, rfl,
      holds_endpoint a port⟩
  · intro a rsv port n hn
    by_cases h4 : 4 ≤ n
    · rw [replyOn_take s h4 hn]
      split_ifs <;> simp
    · have hshort : ((a.reply rsv port).take n).length < 4 := by
        rw [List.length_take]
        omega
      rw [replyOn_of_length_lt s hshort]
      simp
  · intro a rest port out tail hnul hroom built
    have hbuilt : built.2.take built.1 = a.reply 0 port :=
      WireAddress.take_buildFrame_wire hnul rest port rfl hroom
    rw [hbuilt]
    exact ⟨a.endpoint port, replyOn_reply s 0 a port tail, holds_endpoint a port⟩

/-! ## Cut replies -/

/-- What is not a reply: it is shorter than the four fixed octets or of another version, or it
grants a request with an unknown type octet or an empty name. -/
def NotAReply (stream : Bytes) : Prop :=
  stream.length < 4 ∨ octetAt stream 0 ≠ socksVersion ∨
    octetAt stream 1 = socksSuccess ∧
      (octetAt stream 3 ∉ [socksIpv4, socksIpv6, socksDomainname] ∨
        octetAt stream 3 = socksDomainname ∧ 5 ≤ stream.length ∧ octetAt stream 4 = 0)

/-- A name is refused for its length octet alone. -/
lemma namedAnswer_eq_protocolError_iff {rest : Bytes} :
    (namedAnswer rest).1.1 = .protocolError ↔
      (1 ≤ rest.length ∧ octetAt rest 0 = 0) ∨ rest = [] := by
  unfold namedAnswer
  split_ifs with hbad
  · refine iff_of_true rfl ?_
    cases rest with
    | nil => exact Or.inr rfl
    | cons first part => exact Or.inl ⟨Nat.succ_pos _, hbad.resolve_left (by simp)⟩
  · refine iff_of_false (relayAnswer_ne _ _ _ _).2 ?_
    rintro (⟨-, hzero⟩ | rfl)
    · exact hbad (Or.inr hzero)
    · exact hbad (Or.inl Nat.one_pos)

/-- What breaks the protocol is not a reply, or one with a name that is cut before its length. -/
lemma replyOn_eq_protocolError_iff (s : SOCKET) (stream : Bytes) :
    (replyOn s stream).1.1 = .protocolError ↔
      NotAReply stream ∨ ∃ rsv, stream = [socksVersion, socksSuccess, rsv, socksDomainname] := by
  by_cases hlen : stream.length < 4
  · rw [replyOn_of_length_lt s hlen]
    exact iff_of_true rfl (Or.inl (Or.inl hlen))
  obtain ⟨ver, rep, rsv, atyp, rest, rfl⟩ := exists_fixed hlen
  have hnot : NotAReply (ver :: rep :: rsv :: atyp :: rest) ↔ ver ≠ socksVersion ∨
      rep = socksSuccess ∧ (atyp ∉ [socksIpv4, socksIpv6, socksDomainname] ∨
        atyp = socksDomainname ∧ 1 ≤ rest.length ∧ octetAt rest 0 = 0) := by
    have hlen5 : 5 ≤ (ver :: rep :: rsv :: atyp :: rest).length ↔ 1 ≤ rest.length := by
      simp only [List.length_cons]
      omega
    unfold NotAReply
    rw [or_iff_right hlen, hlen5]
    rfl
  have hcut : (∃ rsv', ver :: rep :: rsv :: atyp :: rest =
      [socksVersion, socksSuccess, rsv', socksDomainname]) ↔
        ver = socksVersion ∧ rep = socksSuccess ∧ atyp = socksDomainname ∧ rest = [] := by
    constructor
    · rintro ⟨rsv', heq⟩
      simp only [List.cons.injEq] at heq
      exact ⟨heq.1, heq.2.1, heq.2.2.2.1, heq.2.2.2.2⟩
    · rintro ⟨rfl, rfl, rfl, rfl⟩
      exact ⟨rsv, rfl⟩
  rw [hnot, hcut, replyOn_cons]
  by_cases hver : ver = socksVersion
  case neg => exact iff_of_true (by rw [if_pos hver]) (Or.inl (Or.inl hver))
  by_cases hrep : rep = socksSuccess
  case neg => simp [hver, hrep]
  have hne4 : socksIpv4 ≠ socksDomainname := by decide
  have hne6 : socksIpv6 ≠ socksDomainname := by decide
  simp only [hver, hrep, ne_eq, not_true_eq_false, if_false, false_or, true_and]
  split_ifs with h4 h6 hname
  · exact iff_of_false (relayAnswer_ne _ _ _ _).2 (by simp [h4, hne4])
  · exact iff_of_false (relayAnswer_ne _ _ _ _).2 (by simp [h6, hne6])
  · rw [namedAnswer_eq_protocolError_iff]
    simp [hname]
  · exact iff_of_true rfl (by simp [h4, h6, hname])

/-- **Which cuts are called truncated.** A granted reply that is cut behind its four fixed octets is
called truncated, unless it carries a name and is cut before the octet with its length.  What is
called a breach of the protocol is not a reply, unless it is cut there. -/
theorem replyOn_truncated_iff (s : SOCKET) :
    (∀ (a : WireAddress) (rsv : UInt8) (port : UInt16) (n : ℕ), 4 ≤ n →
      n < (a.reply rsv port).length →
      ((replyOn s ((a.reply rsv port).take n)).1.1 = .truncated ↔ ¬(a.named = true ∧ n = 4))) ∧
      ∀ stream : Bytes, ((replyOn s stream).1.1 = .protocolError → NotAReply stream) ↔
        ¬∃ rsv, stream = [socksVersion, socksSuccess, rsv, socksDomainname] := by
  refine ⟨?_, ?_⟩
  · intro a rsv port n h4 hn
    rw [replyOn_take s h4 hn]
    split_ifs with hcut
    · exact iff_of_false nofun (not_not.mpr hcut)
    · exact iff_of_true rfl hcut
  · intro stream
    rw [replyOn_eq_protocolError_iff]
    constructor
    · rintro himp ⟨rsv, rfl⟩
      -- Nothing in the four fixed octets is wrong.
      rcases himp (Or.inr ⟨rsv, rfl⟩) with hlen | hver | ⟨-, hatyp | ⟨-, hlen, -⟩⟩
      · exact absurd hlen (by simp)
      · exact hver rfl
      · exact hatyp (by simp [octetAt])
      · exact absurd hlen (by simp)
    · intro hcut hbad
      exact hbad.resolve_right hcut

/-- The reply with the name `a`, cut before its length. -/
theorem not_truncated_before_length :
    let a : WireAddress := .domain [0x61] (by decide)
    4 < (a.reply 0 80).length ∧ (replyOn 1 ((a.reply 0 80).take 4)).1.1 = .protocolError ∧
      ¬(replyOn 1 ((a.reply 0 80).take 4)).1.1 = .truncated := by
  decide

end Encapsule
