import Encapsule.Foundation.Memory
import Encapsule.Injectee.RequestBuilders
import Encapsule.Injectee.UdpState

/-!
# The header of a relayed datagram

`socks5_parse_udp_header` of `socks5.hpp`, with each of its reads, and `udp_endpoint_decode` of
`udp_state.hpp`, which decodes the same field from a span of its own.  `UdpLayout` is the grammar:
where the address octets of a header lie and how many there are.

* `socks5ParseUdpHeader_grammar`: what is accepted, what is read, and what the result depends on.
* `udpHeader_inverse`: building and parsing are inverse to each other.
* `udpEndpointDecode_agrees`: both decoders give the same endpoint.
-/

namespace Encapsule

open Interaction (Prog)
open Memory (Reader load copy)

/-! ## The parser -/

/-- `SOCKS_FRAG_NOT`. -/
def socksFragNot : UInt8 := 0

/-- `socks5_udp_datagram`. -/
structure Socks5UdpDatagram where
  atyp : UInt8
  addr : Bytes
  portHostOrder : UInt16
  headerSize : ℕ
  deriving DecidableEq

/-- The end of the parser: the address octets, when they and the port are there. -/
def loadUdpAddr (size : ℕ) (atyp : UInt8) (addrAt addrSize : ℕ) :
    Reader UInt8 (Option Socks5UdpDatagram) := do
  let portAt := addrAt + addrSize
  if size < portAt + 2 then
    return none
  let addr ← copy addrAt addrSize 16
  let hi ← load portAt
  let lo ← load (portAt + 1)
  return some
    { atyp, addr := overwrite (List.replicate 16 0) 0 addr, portHostOrder := ntohs hi lo,
      headerSize := portAt + 2 }

/-- `socks5_parse_udp_header` with its reads. -/
def socks5ParseUdpHeaderMem (isNull : Bool) (size : ℕ) :
    Reader UInt8 (Option Socks5UdpDatagram) := do
  if isNull ∨ size < 4 then
    return none
  if (← load 2) ≠ socksFragNot then
    return none
  let atyp ← load 3
  if atyp = socksIpv4 then
    loadUdpAddr size atyp 4 4
  else if atyp = socksIpv6 then
    loadUdpAddr size atyp 4 16
  else if atyp = socksDomainname then
    if size < 5 then
      return none
    let nameLen ← load 4
    if nameLen = 0 ∨ 16 < nameLen.toNat ∨ size < 5 + nameLen.toNat + 2 then
      return none
    loadUdpAddr size atyp 5 nameLen.toNat
  else
    return none

/-- `socks5_parse_udp_header` of a datagram. -/
def socks5ParseUdpHeader (data : Bytes) : Option Socks5UdpDatagram :=
  Memory.run (socks5ParseUdpHeaderMem false data.length) (octetAt data)

/-! ## The grammar -/

/-- Where the address octets of a header are, and how many: by the type octet, and for a name by the
octet in front of it. -/
def UdpLayout (data : Bytes) (addrAt addrSize : ℕ) : Prop :=
  octetAt data 2 = socksFragNot ∧
    ((octetAt data 3 = socksIpv4 ∧ addrAt = 4 ∧ addrSize = 4) ∨
      (octetAt data 3 = socksIpv6 ∧ addrAt = 4 ∧ addrSize = 16) ∨
      (octetAt data 3 = socksDomainname ∧ addrAt = 5 ∧ addrSize = (octetAt data 4).toNat ∧
        1 ≤ addrSize ∧ addrSize ≤ 16))

/-- What a header says whose address octets are known. -/
def udpHeaderAt (data : Bytes) (addrAt addrSize : ℕ) : Socks5UdpDatagram :=
  { atyp := octetAt data 3
    addr := overwrite (List.replicate 16 0) 0 (octetsAt data addrAt addrSize)
    portHostOrder := ntohs (octetAt data (addrAt + addrSize)) (octetAt data (addrAt + addrSize + 1))
    headerSize := addrAt + addrSize + 2 }

variable {data data' : Bytes} {addrAt addrSize : ℕ} {header : Socks5UdpDatagram}

/-- The end of the parser, on a datagram. -/
lemma run_loadUdpAddr (data : Bytes) (addrAt addrSize : ℕ) :
    Memory.run (loadUdpAddr data.length (octetAt data 3) addrAt addrSize) (octetAt data) =
      if data.length < addrAt + addrSize + 2 then none
      else some (udpHeaderAt data addrAt addrSize) := by
  simp only [loadUdpAddr, Prog.bind_eq_bind, Prog.pure_eq_ret, Memory.run_bind, Memory.run_ite,
    Memory.run_load, Memory.run_copy, Memory.run_ret]
  rfl

/-- The parser accepts a datagram that is laid out as a header and holds all of it. -/
lemma socks5ParseUdpHeader_eq_some :
    socks5ParseUdpHeader data = some header ↔
      ∃ addrAt addrSize, UdpLayout data addrAt addrSize ∧ addrAt + addrSize + 2 ≤ data.length ∧
        header = udpHeaderAt data addrAt addrSize := by
  have hne6 : socksIpv6 ≠ socksIpv4 := by decide
  have hneName : socksDomainname ≠ socksIpv4 ∧ socksDomainname ≠ socksIpv6 := by decide
  simp only [socks5ParseUdpHeader, socks5ParseUdpHeaderMem, Bool.false_eq_true, false_or,
    Prog.bind_eq_bind, Prog.pure_eq_ret, Memory.run_bind, Memory.run_ite, Memory.run_load,
    Memory.run_ret, run_loadUdpAddr]
  constructor
  · intro h
    split_ifs at h with hshort hfrag hipv4 hcut4 hipv6 hcut6 hdomain hlen hname hcut
    · exact ⟨4, 4, ⟨not_not.mp hfrag, Or.inl ⟨hipv4, rfl, rfl⟩⟩, by omega,
        (Option.some.inj h).symm⟩
    · exact ⟨4, 16, ⟨not_not.mp hfrag, Or.inr (Or.inl ⟨hipv6, rfl, rfl⟩)⟩, by omega,
        (Option.some.inj h).symm⟩
    · rw [← UInt8.toNat_inj] at hname
      change ¬((octetAt data 4).toNat = 0 ∨ _) at hname
      refine ⟨5, (octetAt data 4).toNat, ⟨not_not.mp hfrag, Or.inr (Or.inr ?_)⟩, by omega,
        (Option.some.inj h).symm⟩
      exact ⟨hdomain, rfl, rfl, by omega, by omega⟩
  · rintro ⟨addrAt, addrSize, ⟨hfrag, hshape⟩, hlen, rfl⟩
    rcases hshape with ⟨hatyp, rfl, rfl⟩ | ⟨hatyp, rfl, rfl⟩ | ⟨hatyp, rfl, rfl, hpos, hmax⟩
    · rw [if_neg (by omega), if_neg (not_not.mpr hfrag), if_pos hatyp, if_neg (by omega)]
    · rw [if_neg (by omega), if_neg (not_not.mpr hfrag), hatyp, if_neg hne6, if_pos rfl,
        if_neg (by omega)]
    · have hname : ¬(octetAt data 4 = 0 ∨ 16 < (octetAt data 4).toNat ∨
          data.length < 5 + (octetAt data 4).toNat + 2) := by
        rw [← UInt8.toNat_inj]
        change ¬((octetAt data 4).toNat = 0 ∨ _)
        omega
      rw [if_neg (by omega), if_neg (not_not.mpr hfrag), hatyp, if_neg hneName.1,
        if_neg hneName.2, if_pos rfl, if_neg (by omega), if_neg hname, if_neg (by omega)]

/-- The address octets lie behind the four fixed octets, and are no more than sixteen. -/
lemma UdpLayout.bounds (h : UdpLayout data addrAt addrSize) :
    4 ≤ addrAt ∧ addrAt ≤ 5 ∧ addrSize ≤ 16 := by
  obtain ⟨-, ⟨-, rfl, rfl⟩ | ⟨-, rfl, rfl⟩ | ⟨-, rfl, -, -, hmax⟩⟩ := h
  · decide
  · decide
  · exact ⟨by decide, le_rfl, hmax⟩

/-- The layout and what it says depend on the octets in front of the end of the header, and not on
the two reserved ones. -/
lemma UdpLayout.congr (h : UdpLayout data addrAt addrSize)
    (hsame : ∀ i, 2 ≤ i → i < addrAt + addrSize + 2 → octetAt data' i = octetAt data i) :
    UdpLayout data' addrAt addrSize ∧
      udpHeaderAt data' addrAt addrSize = udpHeaderAt data addrAt addrSize := by
  have hbounds := h.bounds
  have hatyp : octetAt data' 3 = octetAt data 3 := hsame 3 (by omega) (by omega)
  constructor
  · unfold UdpLayout at h ⊢
    rw [hsame 2 (by omega) (by omega), hatyp, hsame 4 (by omega) (by omega)]
    exact h
  · have haddr : octetsAt data' addrAt addrSize = octetsAt data addrAt addrSize := by
      apply List.map_congr_left
      intro j hj
      rw [List.mem_range] at hj
      exact hsame (addrAt + j) (by omega) (by omega)
    unfold udpHeaderAt
    rw [hatyp, haddr, hsame (addrAt + addrSize) (by omega) (by omega),
      hsame (addrAt + addrSize + 1) (by omega) (by omega)]

/-! ## What the parser reads -/

/-- The end of the parser reads what it found to be there. -/
lemma inBounds_loadUdpAddr {mem : ℕ → UInt8} {size : ℕ} {atyp : UInt8} (h : addrSize ≤ 16) :
    Memory.InBounds size (loadUdpAddr size atyp addrAt addrSize) mem := by
  simp only [loadUdpAddr, Prog.bind_eq_bind, Prog.pure_eq_ret, Memory.inBounds_bind,
    Memory.inBounds_ite, Memory.inBounds_load, Memory.inBounds_copy, Memory.inBounds_ret]
  split_ifs with hcut
  exact ⟨⟨by omega, h⟩, by omega, by omega, trivial⟩

/-- The parser reads no octet from `size` on, and copies no more than sixteen. -/
lemma inBounds_socks5ParseUdpHeaderMem (isNull : Bool) (size : ℕ) (mem : ℕ → UInt8) :
    Memory.InBounds size (socks5ParseUdpHeaderMem isNull size) mem := by
  simp only [socks5ParseUdpHeaderMem, Prog.bind_eq_bind, Prog.pure_eq_ret, Memory.inBounds_bind,
    Memory.inBounds_ite, Memory.inBounds_load, Memory.inBounds_ret, Memory.run_load]
  split_ifs with hshort hfrag hipv4 hipv6 hdomain hlen hname
  · exact ⟨by omega, trivial⟩
  · exact ⟨by omega, by omega, inBounds_loadUdpAddr (by decide)⟩
  · exact ⟨by omega, by omega, inBounds_loadUdpAddr (by decide)⟩
  · exact ⟨by omega, by omega, trivial⟩
  · exact ⟨by omega, by omega, by omega, trivial⟩
  · exact ⟨by omega, by omega, by omega, inBounds_loadUdpAddr (by omega)⟩
  · exact ⟨by omega, by omega, trivial⟩

/-! ## What is accepted -/

/-- What is accepted is accepted wherever the octets of the header but the reserved ones are the
same. -/
lemma socks5ParseUdpHeader_congr (h : socks5ParseUdpHeader data = some header)
    (hlen : header.headerSize ≤ data'.length)
    (hsame : ∀ i, 2 ≤ i → i < header.headerSize → octetAt data' i = octetAt data i) :
    socks5ParseUdpHeader data' = some header := by
  obtain ⟨addrAt, addrSize, hlayout, -, rfl⟩ := socks5ParseUdpHeader_eq_some.mp h
  obtain ⟨hlayout', hheader⟩ := hlayout.congr hsame
  exact socks5ParseUdpHeader_eq_some.mpr ⟨addrAt, addrSize, hlayout', hlen, hheader.symm⟩

/-- A header lies within its datagram. -/
lemma headerSize_le (h : socks5ParseUdpHeader data = some header) :
    header.headerSize ≤ data.length := by
  obtain ⟨addrAt, addrSize, -, hlen, rfl⟩ := socks5ParseUdpHeader_eq_some.mp h
  exact hlen

/-- The address octets of a header are filled up with zeros to sixteen. -/
lemma addr_udpHeaderAt (data : Bytes) (addrAt addrSize : ℕ) :
    (udpHeaderAt data addrAt addrSize).addr =
      octetsAt data addrAt addrSize ++ List.replicate (16 - addrSize) 0 := by
  change overwrite (List.replicate 16 0) 0 _ = _
  rw [overwrite_zero, length_octetsAt, List.drop_replicate]

/-- A header has sixteen address octets. -/
lemma length_addr (h : socks5ParseUdpHeader data = some header) : header.addr.length = 16 := by
  obtain ⟨addrAt, addrSize, hlayout, -, rfl⟩ := socks5ParseUdpHeader_eq_some.mp h
  have hmax : addrSize ≤ 16 := hlayout.bounds.2.2
  rw [addr_udpHeaderAt, List.length_append, List.length_replicate, length_octetsAt]
  omega

/-- A datagram is accepted by its fragment octet, its type octet and its size. -/
lemma socks5ParseUdpHeader_isSome :
    (socks5ParseUdpHeader data).isSome = true ↔
      octetAt data 2 = 0 ∧
        ((octetAt data 3 = 1 ∧ 10 ≤ data.length) ∨ (octetAt data 3 = 4 ∧ 22 ≤ data.length) ∨
          (octetAt data 3 = 3 ∧ 1 ≤ (octetAt data 4).toNat ∧ (octetAt data 4).toNat ≤ 16 ∧
            7 + (octetAt data 4).toNat ≤ data.length)) := by
  rw [Option.isSome_iff_exists]
  constructor
  · rintro ⟨header, h⟩
    obtain ⟨addrAt, addrSize, ⟨hfrag, hshape⟩, hlen, -⟩ := socks5ParseUdpHeader_eq_some.mp h
    refine ⟨hfrag, ?_⟩
    rcases hshape with ⟨hatyp, rfl, rfl⟩ | ⟨hatyp, rfl, rfl⟩ | ⟨hatyp, rfl, rfl, hpos, hmax⟩
    · exact Or.inl ⟨hatyp, hlen⟩
    · exact Or.inr (Or.inl ⟨hatyp, hlen⟩)
    · exact Or.inr (Or.inr ⟨hatyp, hpos, hmax, by omega⟩)
  · rintro ⟨hfrag, ⟨hatyp, hlen⟩ | ⟨hatyp, hlen⟩ | ⟨hatyp, hpos, hmax, hlen⟩⟩
    · exact ⟨_, socks5ParseUdpHeader_eq_some.mpr
        ⟨4, 4, ⟨hfrag, Or.inl ⟨hatyp, rfl, rfl⟩⟩, hlen, rfl⟩⟩
    · exact ⟨_, socks5ParseUdpHeader_eq_some.mpr
        ⟨4, 16, ⟨hfrag, Or.inr (Or.inl ⟨hatyp, rfl, rfl⟩)⟩, hlen, rfl⟩⟩
    · exact ⟨_, socks5ParseUdpHeader_eq_some.mpr
        ⟨5, (octetAt data 4).toNat, ⟨hfrag, Or.inr (Or.inr ⟨hatyp, rfl, rfl, hpos, hmax⟩)⟩,
          by omega, rfl⟩⟩

/-- No shorter prefix than the header is accepted: it would have the header of the datagram, which
is longer than the prefix. -/
lemma socks5ParseUdpHeader_take (h : socks5ParseUdpHeader data = some header) {n : ℕ}
    (hn : n < header.headerSize) : socks5ParseUdpHeader (data.take n) = none := by
  by_contra hsome
  obtain ⟨header', h'⟩ := Option.ne_none_iff_exists'.mp hsome
  have hle := headerSize_le h'
  rw [List.length_take] at hle
  have hwhole : socks5ParseUdpHeader data = some header' := by
    apply socks5ParseUdpHeader_congr h' (by omega)
    intro i _ hi
    exact (octetAt_take (by omega)).symm
  obtain rfl : header = header' := Option.some.inj (h.symm.trans hwhole)
  omega

/-- What comes behind the header does not change the result. -/
lemma socks5ParseUdpHeader_append (h : socks5ParseUdpHeader data = some header) (tail : Bytes) :
    socks5ParseUdpHeader (data ++ tail) = some header := by
  have hle := headerSize_le h
  apply socks5ParseUdpHeader_congr h
  · rw [List.length_append]
    omega
  · intro i _ hi
    exact octetAt_append_left (by omega)

/-- **The parser accepts its grammar and reads what is there.** On every datagram it reads no octet
from the end of the datagram on, and copies no more than sixteen octets.  It accepts by the fragment
octet, the type octet and the size alone; a header that is accepted lies within the datagram, no
shorter prefix of it is accepted, and any datagram with the same octets from the third to the end of
the header is accepted with the same result. -/
theorem socks5ParseUdpHeader_grammar (data : Bytes) :
    Memory.InBounds data.length (socks5ParseUdpHeaderMem false data.length) (octetAt data) ∧
      ((socks5ParseUdpHeader data).isSome = true ↔
        octetAt data 2 = 0 ∧
          ((octetAt data 3 = 1 ∧ 10 ≤ data.length) ∨ (octetAt data 3 = 4 ∧ 22 ≤ data.length) ∨
            (octetAt data 3 = 3 ∧ 1 ≤ (octetAt data 4).toNat ∧ (octetAt data 4).toNat ≤ 16 ∧
              7 + (octetAt data 4).toNat ≤ data.length))) ∧
      ∀ header, socks5ParseUdpHeader data = some header →
        header.headerSize ≤ data.length ∧ header.addr.length = 16 ∧
          (∀ n < header.headerSize, socks5ParseUdpHeader (data.take n) = none) ∧
          (∀ tail, socks5ParseUdpHeader (data ++ tail) = some header) ∧
          ∀ data', header.headerSize ≤ data'.length →
            (∀ i, 2 ≤ i → i < header.headerSize → octetAt data' i = octetAt data i) →
            socks5ParseUdpHeader data' = some header := by
  refine ⟨inBounds_socks5ParseUdpHeaderMem false data.length _, socks5ParseUdpHeader_isSome,
    ?_⟩
  intro header h
  refine ⟨headerSize_le h, length_addr h, ?_, socks5ParseUdpHeader_append h, ?_⟩
  · intro n hn
    exact socks5ParseUdpHeader_take h hn
  · intro data' hle hsame
    exact socks5ParseUdpHeader_congr h hle hsame

/-! ## Building and parsing -/

/-- The address as a builder takes it: the octets, or the NUL-terminated name. -/
def Socks5UdpDatagram.memory (header : Socks5UdpDatagram) : Bytes :=
  if header.atyp = socksDomainname then header.addr.take (header.headerSize - 7) ++ [0]
  else header.addr

/-- What is read of an address and a port that lie behind `pre`. -/
lemma udpHeaderAt_append (pre octets payload : Bytes) (port : UInt16) :
    udpHeaderAt (pre ++ octets ++ (htons port ++ payload)) pre.length octets.length =
      { atyp := octetAt (pre ++ octets ++ (htons port ++ payload)) 3
        addr := octets ++ List.replicate (16 - octets.length) 0
        portHostOrder := port
        headerSize := pre.length + octets.length + 2 } := by
  have haddr := addr_udpHeaderAt (pre ++ octets ++ (htons port ++ payload)) pre.length octets.length
  have hblock : octetsAt (pre ++ octets ++ (htons port ++ payload)) pre.length octets.length =
      octets := octetsAt_append pre rfl
  have hport : octetsAt (pre ++ octets ++ (htons port ++ payload)) (pre.length + octets.length) 2 =
      htons port := by
    rw [← List.append_assoc, ← List.length_append]
    exact octetsAt_append (pre ++ octets) rfl
  rw [hblock] at haddr
  change [octetAt _ (pre.length + octets.length), octetAt _ (pre.length + octets.length + 1)] =
    [_, _] at hport
  obtain ⟨hhi, hlo⟩ := List.cons.inj hport
  unfold udpHeaderAt at haddr ⊢
  dsimp only at haddr
  rw [haddr, hhi, (List.cons.inj hlo).1, ntohs_htons]

/-- A header of which the parts are known is read back, whatever comes behind it. -/
lemma socks5ParseUdpHeader_parts {pre octets payload : Bytes} {port : UInt16} {atyp : UInt8}
    {headerSize : ℕ}
    (hlayout : UdpLayout (pre ++ octets ++ (htons port ++ payload)) pre.length octets.length)
    (hatyp : octetAt (pre ++ octets ++ (htons port ++ payload)) 3 = atyp)
    (hsize : pre.length + octets.length + 2 = headerSize) :
    socks5ParseUdpHeader (pre ++ octets ++ (htons port ++ payload)) =
      some { atyp
             addr := octets ++ List.replicate (16 - octets.length) 0
             portHostOrder := port
             headerSize } := by
  refine socks5ParseUdpHeader_eq_some.mpr ⟨pre.length, octets.length, hlayout, ?_, ?_⟩
  · simp only [List.length_append, htons, List.length_cons]
    omega
  · rw [udpHeaderAt_append, hatyp, hsize]

/-- A frame with the octets of a datagram header is laid out as one. -/
lemma udpLayout_frame (a : WireAddress) (ha : a.octets.length ≤ 16) (tail : Bytes) :
    UdpLayout ([0, 0, socksFragNot, a.atyp] ++ a.lead ++ a.octets ++ tail)
      ([0, 0, socksFragNot, a.atyp] ++ a.lead).length a.octets.length := by
  cases a with
  | ipv4 octets => exact ⟨rfl, Or.inl ⟨rfl, rfl, octets.length_toList⟩⟩
  | ipv6 octets => exact ⟨rfl, Or.inr (Or.inl ⟨rfl, rfl, octets.length_toList⟩)⟩
  | domain name hlen =>
    have hoctet : (UInt8.ofNat name.length).toNat = name.length :=
      WireAddress.toNat_length hlen.2
    exact ⟨rfl, Or.inr (Or.inr ⟨rfl, rfl, hoctet.symm, hlen.1, ha⟩)⟩

/-- A header that was built is read back, whatever comes behind it. -/
lemma socks5ParseUdpHeader_frame (a : WireAddress) (ha : a.octets.length ≤ 16) (port : UInt16)
    (payload : Bytes) :
    socks5ParseUdpHeader (a.frame [0, 0, socksFragNot] port ++ payload) =
      some { atyp := a.atyp
             addr := a.octets ++ List.replicate (16 - a.octets.length) 0
             portHostOrder := port
             headerSize := a.field.length + 6 } := by
  have hframe : a.frame [0, 0, socksFragNot] port ++ payload =
      [0, 0, socksFragNot, a.atyp] ++ a.lead ++ a.octets ++ (htons port ++ payload) := by
    rw [WireAddress.frame_append]
    simp only [List.cons_append, List.nil_append, List.append_assoc]
  have hsize : ([0, 0, socksFragNot, a.atyp] ++ a.lead).length + a.octets.length + 2 =
      a.field.length + 6 := by
    rw [WireAddress.field_eq]
    simp only [List.length_append, List.length_cons, List.length_nil]
    omega
  rw [hframe]
  exact socks5ParseUdpHeader_parts (udpLayout_frame a ha _) rfl hsize

/-- The address that a header holds, as one that a frame can carry. -/
lemma exists_wireAddress (hlayout : UdpLayout data addrAt addrSize) :
    ∃ a : WireAddress, a.atyp = octetAt data 3 ∧ a.octets = octetsAt data addrAt addrSize ∧
      a.field.length + 6 = addrAt + addrSize + 2 ∧
      octetsAt data 4 (addrAt - 4) ++ a.octets = a.field := by
  obtain ⟨-, ⟨hatyp, rfl, rfl⟩ | ⟨hatyp, rfl, rfl⟩ | ⟨hatyp, rfl, rfl, hpos, hmax⟩⟩ := hlayout
  · have hlen : (octetsAt data 4 4).toArray.size = 4 := length_octetsAt data 4 4
    exact ⟨.ipv4 ⟨(octetsAt data 4 4).toArray, hlen⟩, hatyp.symm, rfl, rfl, rfl⟩
  · have hlen : (octetsAt data 4 16).toArray.size = 16 := length_octetsAt data 4 16
    exact ⟨.ipv6 ⟨(octetsAt data 4 16).toArray, hlen⟩, hatyp.symm, rfl, rfl, rfl⟩
  · have hlen := length_octetsAt data 5 (octetAt data 4).toNat
    have hname : 1 ≤ (octetsAt data 5 (octetAt data 4).toNat).length ∧
        (octetsAt data 5 (octetAt data 4).toNat).length ≤ socksDomainMaxLength := by
      rw [hlen]
      exact ⟨hpos, hmax.trans (by decide)⟩
    refine ⟨.domain _ hname, hatyp.symm, rfl, ?_, ?_⟩
    · simp only [WireAddress.field, List.length_cons, hlen]
      omega
    · simp only [WireAddress.field, WireAddress.octets, hlen, UInt8.ofNat_toNat]
      rfl

/-- The name of a header is the block that the layout says. -/
lemma name_udpHeaderAt (hlayout : UdpLayout data addrAt addrSize)
    (hatyp : octetAt data 3 = socksDomainname) :
    (udpHeaderAt data addrAt addrSize).addr.take
        ((udpHeaderAt data addrAt addrSize).headerSize - 7) =
      octetsAt data addrAt addrSize := by
  have haddrAt : addrAt = 5 := by
    obtain ⟨-, ⟨h4, -, -⟩ | ⟨h6, -, -⟩ | ⟨-, haddrAt, -⟩⟩ := hlayout
    · exact absurd (h4.symm.trans hatyp) (by decide)
    · exact absurd (h6.symm.trans hatyp) (by decide)
    · exact haddrAt
  have hlen : (udpHeaderAt data addrAt addrSize).headerSize - 7 =
      (octetsAt data addrAt addrSize).length := by
    rw [length_octetsAt]
    change addrAt + addrSize + 2 - 7 = addrSize
    omega
  rw [addr_udpHeaderAt, hlen, List.take_left]

/-- The octets of a header, part by part. -/
lemma take_headerSize (hlayout : UdpLayout data addrAt addrSize)
    (hlen : addrAt + addrSize + 2 ≤ data.length) :
    data.take (addrAt + addrSize + 2) =
      octetsAt data 0 4 ++ ((octetsAt data 4 (addrAt - 4) ++ octetsAt data addrAt addrSize) ++
        octetsAt data (addrAt + addrSize) 2) := by
  have hfixed : 4 + (addrAt - 4) = addrAt := Nat.add_sub_cancel' hlayout.bounds.1
  have hwhole : octetsAt data 0 (addrAt + addrSize + 2) = data.take (addrAt + addrSize + 2) := by
    rw [octetsAt_eq (by omega), List.drop_zero]
  have haddr := octetsAt_add data 4 (addrAt - 4) addrSize
  rw [hfixed] at haddr
  rw [← hwhole, octetsAt_add data 0 (addrAt + addrSize) 2, ← haddr, Nat.zero_add]
  have hparts := octetsAt_add data 0 4 (addrAt - 4 + addrSize)
  rw [← Nat.add_assoc, hfixed, Nat.zero_add] at hparts
  rw [hparts, List.append_assoc]

/-- **Building and parsing are inverse to each other.** A header that was built for an address of
four or sixteen octets, or for a name of one to sixteen, is read back from whatever datagram it
starts; and a header that is accepted is built again from what was read, octet by octet, when its
reserved octets are zero and no zero octet is in its name. -/
theorem udpHeader_inverse :
    (∀ (a : WireAddress) (rest : Bytes) (port : UInt16) (payload out : Bytes),
      a.octets.length ≤ 16 → a.NulFree → a.field.length + 6 ≤ out.length →
      let built := socks5BuildUdpHeader a.atyp (a.memory ++ rest) port socksFragNot out
      socks5ParseUdpHeader (built.2.take built.1 ++ payload) =
        some { atyp := a.atyp
               addr := a.octets ++ List.replicate (16 - a.octets.length) 0
               portHostOrder := port
               headerSize := built.1 }) ∧
      ∀ (data : Bytes) (header : Socks5UdpDatagram), socks5ParseUdpHeader data = some header →
        octetAt data 0 = 0 → octetAt data 1 = 0 →
        (header.atyp = socksDomainname → 0 ∉ header.addr.take (header.headerSize - 7)) →
        ∀ out : Bytes, header.headerSize ≤ out.length →
          let built := socks5BuildUdpHeader header.atyp header.memory header.portHostOrder
            socksFragNot out
          built.1 = header.headerSize ∧ built.2.take built.1 = data.take header.headerSize := by
  refine ⟨?_, ?_⟩
  · intro a rest port payload out ha hnul hroom built
    have hsize : built.1 = a.field.length + 6 :=
      congrArg Prod.fst (WireAddress.buildFrame_wire hnul rest port rfl hroom)
    have hbuilt : built.2.take built.1 = a.frame [0, 0, socksFragNot] port :=
      WireAddress.take_buildFrame_wire hnul rest port rfl hroom
    rw [hbuilt, hsize]
    exact socks5ParseUdpHeader_frame a ha port payload
  · intro data header h hrsv0 hrsv1 hnul out hroom
    obtain ⟨addrAt, addrSize, hlayout, hlen, rfl⟩ := socks5ParseUdpHeader_eq_some.mp h
    obtain ⟨a, hatyp, hoctets, hsize, hfield⟩ := exists_wireAddress hlayout
    have ha : a.NulFree := by
      intro hname
      rw [hatyp] at hname
      rw [hoctets, ← name_udpHeaderAt hlayout hname]
      exact hnul hname
    have hmemory : ∃ rest, (udpHeaderAt data addrAt addrSize).memory = a.memory ++ rest := by
      unfold Socks5UdpDatagram.memory
      rw [a.memory_eq, hatyp, hoctets]
      change ∃ rest, (if octetAt data 3 = socksDomainname then _ else _) = _
      split_ifs with hdomain
      · exact ⟨[], by rw [name_udpHeaderAt hlayout hdomain, List.append_nil]⟩
      · exact ⟨_, addr_udpHeaderAt data addrAt addrSize⟩
    obtain ⟨rest, hrest⟩ := hmemory
    intro built
    have hroom' : a.field.length + 6 ≤ out.length := hsize ▸ hroom
    have hcall : built = buildFrame [0, 0, socksFragNot] a.atyp (a.memory ++ rest)
        (udpHeaderAt data addrAt addrSize).portHostOrder out := by
      rw [hatyp, ← hrest]
      rfl
    refine ⟨?_, ?_⟩
    · rw [hcall, WireAddress.buildFrame_wire ha rest _ rfl hroom']
      exact hsize
    · rw [hcall, WireAddress.take_buildFrame_wire ha rest _ rfl hroom']
      change _ = data.take (addrAt + addrSize + 2)
      have hhead : octetsAt data 0 4 = [0, 0, socksFragNot, a.atyp] := by
        change [octetAt data 0, octetAt data 1, octetAt data 2, octetAt data 3] = _
        rw [hrsv0, hrsv1, hlayout.1, hatyp]
      have hport : octetsAt data (addrAt + addrSize) 2 =
          htons (udpHeaderAt data addrAt addrSize).portHostOrder := (htons_ntohs _ _).symm
      rw [take_headerSize hlayout hlen, hhead, hport, ← hoctets, hfield]
      rfl

/-! ## The other decoder -/

/-- `UDP_ATYP_IPV4`. -/
def udpAtypIpv4 : UInt8 := 1

/-- `UDP_ATYP_IPV6`. -/
def udpAtypIpv6 : UInt8 := 4

/-- `udp_endpoint_length`. -/
def udpEndpointLength (atyp : UInt8) : Option ℕ :=
  if atyp = udpAtypIpv4 then some 4
  else if atyp = udpAtypIpv6 then some 16
  else none

/-- `udp_endpoint_decode` of a span that holds an address and a port and nothing else. -/
def udpEndpointDecode (atyp : UInt8) (bytes : Option Bytes) : Option UdpEndpoint :=
  match udpEndpointLength atyp, bytes with
  | some len, some bytes =>
    if bytes.length ≠ len + 2 then none
    else
      some
        { atyp, octets := overwrite (List.replicate 16 0) 0 (octetsAt bytes 0 len),
          port := ntohs (octetAt bytes len) (octetAt bytes (len + 1)) }
  | _, _ => none

/-- What is decoded, and from how many octets. -/
lemma udpEndpointDecode_eq_some {atyp : UInt8} {bytes : Bytes} {endpoint : UdpEndpoint} :
    udpEndpointDecode atyp (some bytes) = some endpoint ↔
      ∃ len, udpEndpointLength atyp = some len ∧ bytes.length = len + 2 ∧
        endpoint = { atyp, octets := octetsAt bytes 0 len ++ List.replicate (16 - len) 0,
                     port := ntohs (octetAt bytes len) (octetAt bytes (len + 1)) } := by
  unfold udpEndpointDecode
  cases udpEndpointLength atyp with
  | none => simp
  | some len =>
    have hoctets : overwrite (List.replicate 16 0) 0 (octetsAt bytes 0 len) =
        octetsAt bytes 0 len ++ List.replicate (16 - len) 0 := by
      rw [overwrite_zero, length_octetsAt, List.drop_replicate]
    simp only [hoctets, Option.some.injEq, exists_eq_left']
    by_cases hlen : bytes.length = len + 2
    · simp [hlen, eq_comm]
    · simp [hlen]

/-- The span of a numeric header is decoded to what the header says. -/
lemma udpEndpointDecode_span (hlen : 4 + addrSize + 2 ≤ data.length)
    (hnumeric : udpEndpointLength (octetAt data 3) = some addrSize) :
    udpEndpointDecode (octetAt data 3) (some ((data.drop 4).take (addrSize + 2))) =
      some { atyp := octetAt data 3
             octets := (udpHeaderAt data 4 addrSize).addr
             port := (udpHeaderAt data 4 addrSize).portHostOrder } := by
  rw [← octetsAt_eq (by omega), udpEndpointDecode_eq_some, addr_udpHeaderAt]
  refine ⟨addrSize, hnumeric, length_octetsAt .., ?_⟩
  rw [octetsAt_octetsAt (by omega), octetAt_octetsAt (by omega), octetAt_octetsAt (by omega)]
  rfl

/-- A span is its address octets and its port octets. -/
lemma eq_of_span {bytes bytes' : Bytes} {len : ℕ} (hlen : bytes.length = len + 2)
    (hlen' : bytes'.length = len + 2) (haddr : octetsAt bytes 0 len = octetsAt bytes' 0 len)
    (hport : ntohs (octetAt bytes len) (octetAt bytes (len + 1)) =
      ntohs (octetAt bytes' len) (octetAt bytes' (len + 1))) : bytes = bytes' := by
  have hparts {mem : Bytes} (hmem : mem.length = len + 2) :
      mem = octetsAt mem 0 len ++ htons (ntohs (octetAt mem len) (octetAt mem (len + 1))) := by
    have hwhole : octetsAt mem 0 (len + 2) = mem := by
      rw [octetsAt_eq (by omega), List.drop_zero, ← hmem, List.take_length]
    rw [octetsAt_add, Nat.zero_add] at hwhole
    rw [htons_ntohs]
    exact hwhole.symm
  rw [hparts hlen, hparts hlen', haddr, hport]

/-- **Both decoders give the same endpoint.** For a datagram that the parser accepts with a numeric
address, the span behind the four fixed octets is decoded to the same type, octets and port; with a
name it is refused.  For each type, two endpoints that are decoded are equal if and only if the
spans that they come from are. -/
theorem udpEndpointDecode_agrees :
    (∀ (data : Bytes) (header : Socks5UdpDatagram), socks5ParseUdpHeader data = some header →
      let span := (data.drop 4).take (header.headerSize - 4)
      (header.atyp = socksIpv4 ∨ header.atyp = socksIpv6 →
          udpEndpointDecode header.atyp (some span) =
            some { atyp := header.atyp, octets := header.addr, port := header.portHostOrder }) ∧
        (header.atyp = socksDomainname → udpEndpointDecode header.atyp (some span) = none)) ∧
      ∀ (atyp : UInt8) (bytes bytes' : Bytes) (endpoint endpoint' : UdpEndpoint),
        udpEndpointDecode atyp (some bytes) = some endpoint →
        udpEndpointDecode atyp (some bytes') = some endpoint' →
        (endpoint = endpoint' ↔ bytes = bytes') := by
  refine ⟨?_, ?_⟩
  · intro data header h
    obtain ⟨addrAt, addrSize, hlayout, hlen, rfl⟩ := socks5ParseUdpHeader_eq_some.mp h
    refine ⟨?_, ?_⟩
    · intro hnumeric
      have hne4 : socksIpv4 ≠ socksDomainname := by decide
      have hne6 : socksIpv6 ≠ socksDomainname := by decide
      obtain ⟨-, ⟨hatyp, rfl, rfl⟩ | ⟨hatyp, rfl, rfl⟩ | ⟨hatyp, -⟩⟩ := hlayout
      · exact udpEndpointDecode_span hlen (by rw [hatyp]; rfl)
      · exact udpEndpointDecode_span hlen (by rw [hatyp]; rfl)
      · rcases hnumeric with h4 | h6
        · exact absurd (h4.symm.trans hatyp) hne4
        · exact absurd (h6.symm.trans hatyp) hne6
    · intro hname
      rw [hname]
      rfl
  · intro atyp bytes bytes' endpoint endpoint' h h'
    obtain ⟨len, hatyp, hlen, rfl⟩ := udpEndpointDecode_eq_some.mp h
    obtain ⟨len', hatyp', hlen', rfl⟩ := udpEndpointDecode_eq_some.mp h'
    obtain rfl : len = len' := Option.some.inj (hatyp.symm.trans hatyp')
    constructor
    · intro heq
      obtain ⟨-, hoctets, hport⟩ := UdpEndpoint.mk.inj heq
      have haddr : octetsAt bytes 0 len = octetsAt bytes' 0 len :=
        List.append_inj_left' hoctets rfl
      exact eq_of_span hlen hlen' haddr hport
    · rintro rfl
      rfl

end Encapsule
