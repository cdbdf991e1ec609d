import Encapsule.Foundation.Memory
import Encapsule.Injectee.FakeMap

/-!
# What the recogniser reads of a socket address

`read_fake_addr` is handed the memory of another program together with the length that the program
advertises.  `readFakeAddrMem` is the function with each of its reads; what it computes is
`readFakeAddr`, and on every buffer it reads less than the advertised length, and never more than
the 28 octets of a `sockaddr_in6` (`readFakeAddr_of_length`).
-/

namespace Encapsule

open Interaction (Prog)
open Memory (Reader load)

/-! ## The reads -/

/-- `sa_family`, in host order. -/
def loadSaFamily : Reader UInt8 UInt16 := do
  let lo ← load 0
  let hi ← load 1
  return UInt16.ofNat (hi.toNat * 256 + lo.toNat)

/-- `fake_map_host_port`. -/
def loadHostPort (off : ℕ) : Reader UInt8 UInt16 := do
  let hi ← load off
  let lo ← load (off + 1)
  return ntohs hi lo

/-- The loop of `fake_map_is_v4_mapped`: the `n` octets from `off` on are zero. -/
def loadZeros (off : ℕ) : ℕ → Reader UInt8 Bool
  | 0 => return true
  | n + 1 => do
    if (← load off) ≠ 0 then
      return false
    loadZeros (off + 1) n

/-- `fake_map_is_v4_mapped` of the sixteen octets from `off` on. -/
def loadIsV4Mapped (off : ℕ) : Reader UInt8 Bool := do
  if !(← loadZeros off 10) then
    return false
  if (← load (off + 10)) ≠ 0xff then
    return false
  return (← load (off + 11)) == 0xff

/-- The tail that both families share: the four octets from `off` on, the port and what the range
predicates say of them. -/
def loadFakeAddr (off : ℕ) : Reader UInt8 FakeAddrRead := do
  let a ← load off
  let b ← load (off + 1)
  let c ← load (off + 2)
  let d ← load (off + 3)
  let port ← loadHostPort 2
  return fakeAddrReadOf ⟨a, b, c, d⟩ port

/-- `read_fake_addr` with its reads. -/
def readFakeAddrMem (isNull : Bool) (len : ℤ) : Reader UInt8 FakeAddrRead := do
  if isNull ∨ len < fakeMapFamilyBytes ∨ fakeMapMaxLength < len then
    return {}
  let family ← loadSaFamily
  if family = afInet then
    if len < 16 then
      return {}
    loadFakeAddr 4
  else if family = afInet6 then
    if len < 28 then
      return {}
    if !(← loadIsV4Mapped 8) then
      return {}
    loadFakeAddr 20
  else
    return {}

/-- `fake_ip_v4_mapped`. -/
def fakeIpV4Mapped (v4 : Octets) : Bytes :=
  List.replicate 10 0 ++ [0xff, 0xff, v4.a, v4.b, v4.c, v4.d]

variable {buf : Sockaddr} {len : ℤ} {off n size : ℕ}

/-! ## What the reads compute -/

@[simp] lemma run_loadSaFamily : Memory.run loadSaFamily (octetAt buf) = buf.saFamily := by rfl

@[simp] lemma run_loadHostPort : Memory.run (loadHostPort 2) (octetAt buf) = buf.sinPort := by rfl

/-- The loop finds out whether all octets are zero. -/
@[simp] lemma run_loadZeros (mem : ℕ → UInt8) :
    Memory.run (loadZeros off n) mem = (List.range n).all fun i => mem (off + i) == 0 := by
  induction n generalizing off with
  | zero => rfl
  | succ n ih =>
    have hnext (i : ℕ) : mem (off + 1 + i) = mem (off + (i + 1)) := by
      rw [Nat.add_assoc, Nat.add_comm 1]
    rw [List.range_succ_eq_map, List.all_cons, List.all_map]
    simp only [loadZeros, Prog.bind_eq_bind, Prog.pure_eq_ret, Memory.run_bind, Memory.run_load,
      Memory.run_ite, Memory.run_ret, ih, hnext, Nat.add_zero]
    by_cases hzero : mem off = 0
    · simp [hzero, Function.comp_def]
    · simp [hzero]

/-- Sixteen octets of a buffer are looked at where they are. -/
lemma fakeMapIsV4Mapped_octetsAt (buf : Bytes) (off : ℕ) :
    fakeMapIsV4Mapped (octetsAt buf off 16) =
      ((List.range 10).all (fun i => octetAt buf (off + i) == 0) &&
        octetAt buf (off + 10) == 0xff && octetAt buf (off + 11) == 0xff) := rfl

@[simp] lemma run_loadIsV4Mapped :
    Memory.run (loadIsV4Mapped off) (octetAt buf) = fakeMapIsV4Mapped (octetsAt buf off 16) := by
  rw [fakeMapIsV4Mapped_octetsAt]
  simp only [loadIsV4Mapped, Prog.bind_eq_bind, Prog.pure_eq_ret, Memory.run_bind, Memory.run_load,
    Memory.run_ite, Memory.run_ret, run_loadZeros]
  generalize (List.range 10).all (fun i => octetAt buf (off + i) == 0) = zeros
  cases zeros with
  | false => rfl
  | true =>
    by_cases hten : octetAt buf (off + 10) = 0xff
    · simp [hten]
    · simp [hten]

@[simp] lemma run_loadFakeAddr :
    Memory.run (loadFakeAddr off) (octetAt buf) =
      fakeAddrReadOf ⟨octetAt buf off, octetAt buf (off + 1), octetAt buf (off + 2),
        octetAt buf (off + 3)⟩ buf.sinPort := by rfl

/-- The reads of the function compute what the recogniser says. -/
lemma run_readFakeAddrMem (buf : Sockaddr) (len : ℤ) :
    Memory.run (readFakeAddrMem false len) (octetAt buf) = readFakeAddr (some buf) len := by
  simp only [readFakeAddrMem, readFakeAddr, Bool.false_eq_true, false_or, Prog.bind_eq_bind,
    Prog.pure_eq_ret, Memory.run_bind, Memory.run_ite, Memory.run_ret, run_loadSaFamily,
    run_loadFakeAddr, run_loadIsV4Mapped]
  rfl

/-! ## Where the reads are -/

/-- The loop reads no more than the octets it is asked about. -/
lemma inBounds_loadZeros {mem : ℕ → UInt8} (h : off + n ≤ size) :
    Memory.InBounds size (loadZeros off n) mem := by
  induction n generalizing off with
  | zero => trivial
  | succ n ih =>
    have hrest : Memory.InBounds size (loadZeros (off + 1) n) mem := ih (by omega)
    simp only [loadZeros, Prog.bind_eq_bind, Prog.pure_eq_ret, Memory.inBounds_bind,
      Memory.inBounds_load, Memory.inBounds_ite, Memory.inBounds_ret, hrest, ite_self, and_true]
    omega

/-- The test of the mapped form reads the first twelve octets of the address. -/
lemma inBounds_loadIsV4Mapped {mem : ℕ → UInt8} (h : off + 12 ≤ size) :
    Memory.InBounds size (loadIsV4Mapped off) mem := by
  have hzeros : Memory.InBounds size (loadZeros off 10) mem := inBounds_loadZeros (by omega)
  simp only [loadIsV4Mapped, Prog.bind_eq_bind, Prog.pure_eq_ret, Memory.inBounds_bind,
    Memory.inBounds_load, Memory.inBounds_ite, Memory.inBounds_ret, hzeros]
  split_ifs
  · exact ⟨trivial, trivial⟩
  · exact ⟨trivial, by omega, trivial⟩
  · exact ⟨trivial, by omega, by omega, trivial⟩

/-- The family is read from the first two octets. -/
lemma inBounds_loadSaFamily {mem : ℕ → UInt8} (h : 2 ≤ size) :
    Memory.InBounds size loadSaFamily mem := by
  simp only [loadSaFamily, Prog.bind_eq_bind, Prog.pure_eq_ret, Memory.inBounds_bind,
    Memory.inBounds_load, Memory.inBounds_ret, and_true]
  omega

/-- The tail reads four octets of address and two of port. -/
lemma inBounds_loadFakeAddr {mem : ℕ → UInt8} (h : off + 4 ≤ size) (hport : 4 ≤ size) :
    Memory.InBounds size (loadFakeAddr off) mem := by
  simp only [loadFakeAddr, loadHostPort, Prog.bind_eq_bind, Prog.pure_eq_ret,
    Memory.inBounds_bind, Memory.inBounds_load, Memory.inBounds_ret, and_true]
  omega

/-- The function reads less than the advertised length, and less than a `sockaddr_in6`. -/
lemma inBounds_readFakeAddrMem (isNull : Bool) (len : ℤ) (mem : ℕ → UInt8) :
    Memory.InBounds (min len.toNat 28) (readFakeAddrMem isNull len) mem := by
  simp only [readFakeAddrMem, Prog.bind_eq_bind, Prog.pure_eq_ret, Memory.inBounds_bind,
    Memory.inBounds_ite, Memory.inBounds_ret, fakeMapFamilyBytes]
  split_ifs with hlen hinet hshort hinet6 hshort6 hmapped
  · exact ⟨inBounds_loadSaFamily (by omega), trivial⟩
  · exact ⟨inBounds_loadSaFamily (by omega), inBounds_loadFakeAddr (by omega) (by omega)⟩
  · exact ⟨inBounds_loadSaFamily (by omega), trivial⟩
  · exact ⟨inBounds_loadSaFamily (by omega), inBounds_loadIsV4Mapped (by omega), trivial⟩
  · exact ⟨inBounds_loadSaFamily (by omega), inBounds_loadIsV4Mapped (by omega),
      inBounds_loadFakeAddr (by omega) (by omega)⟩
  · exact ⟨inBounds_loadSaFamily (by omega), trivial⟩

/-! ## What the buffer says -/

lemma fakeMapIsV4Mapped_fakeIpV4Mapped (v4 : Octets) :
    fakeMapIsV4Mapped (fakeIpV4Mapped v4) = true := rfl

/-- What is recognised is the mapped form of an address. -/
lemma fakeMapIsV4Mapped_iff :
    fakeMapIsV4Mapped (octetsAt buf off 16) = true ↔
      ∃ v4, octetsAt buf off 16 = fakeIpV4Mapped v4 := by
  constructor
  · intro h
    simp only [fakeMapIsV4Mapped_octetsAt, Bool.and_eq_true, beq_iff_eq, List.all_eq_true,
      List.mem_range] at h
    obtain ⟨⟨hzeros, hten⟩, heleven⟩ := h
    have hpre : octetsAt buf off 10 = List.replicate 10 0 := by
      rw [List.eq_replicate_iff]
      refine ⟨by simp [octetsAt], ?_⟩
      intro b hb
      obtain ⟨i, hi, rfl⟩ := List.mem_map.mp hb
      exact hzeros i (List.mem_range.mp hi)
    refine ⟨⟨octetAt buf (off + 12), octetAt buf (off + 13), octetAt buf (off + 14),
      octetAt buf (off + 15)⟩, ?_⟩
    change octetsAt buf off 10 ++ [octetAt buf (off + 10), octetAt buf (off + 11),
      octetAt buf (off + 12), octetAt buf (off + 13), octetAt buf (off + 14),
      octetAt buf (off + 15)] = _
    rw [hpre, hten, heleven]
    rfl
  · rintro ⟨v4, hv4⟩
    rw [hv4]
    exact fakeMapIsV4Mapped_fakeIpV4Mapped v4

/-- What is read of an address and a port. -/
lemma fakeAddrReadOf_eq (v4 : Octets) (port : UInt16) :
    fakeAddrReadOf v4 port =
      { readable := true, inRange := inFakeRange v4, issuable := (fakeIpSlotOf v4).isSome, v4,
        slot := ((fakeIpSlotOf v4).map Fin.val).getD 0, port } := by
  simp only [fakeAddrReadOf, fakeMapClassify]
  cases fakeIpSlotOf v4 with
  | none => rfl
  | some slot => rfl

/-- What a `sockaddr_in` of sufficient length says. -/
lemma readFakeAddr_of_afInet (hfamily : buf.saFamily = afInet) (hlen : 16 ≤ len)
    (hmax : len ≤ 128) :
    readFakeAddr (some buf) len =
      fakeAddrReadOf ⟨octetAt buf 4, octetAt buf 5, octetAt buf 6, octetAt buf 7⟩ buf.sinPort := by
  have hfits : ¬(len < fakeMapFamilyBytes ∨ fakeMapMaxLength < len) := by
    unfold fakeMapFamilyBytes fakeMapMaxLength
    omega
  simp only [readFakeAddr, if_neg hfits, if_pos hfamily, if_neg (Int.not_lt.mpr hlen)]

/-- What a `sockaddr_in6` of sufficient length with a mapped address says. -/
lemma readFakeAddr_of_mapped {v4 : Octets} (hfamily : buf.saFamily = afInet6) (hlen : 28 ≤ len)
    (hmax : len ≤ 128) (haddr : buf.sin6Addr = fakeIpV4Mapped v4) :
    readFakeAddr (some buf) len = fakeAddrReadOf v4 buf.sinPort := by
  have hfits : ¬(len < fakeMapFamilyBytes ∨ fakeMapMaxLength < len) := by
    unfold fakeMapFamilyBytes fakeMapMaxLength
    omega
  have hother : buf.saFamily ≠ afInet := by
    rw [hfamily]
    decide
  simp only [readFakeAddr, if_neg hfits, if_neg hother, if_pos hfamily,
    if_neg (Int.not_lt.mpr hlen), haddr, fakeMapIsV4Mapped_fakeIpV4Mapped, Bool.not_true,
    Bool.false_eq_true, if_false]
  rfl

/-- The buffer holds the address `v4`, in one of its two spellings, within the length. -/
def Sockaddr.Spells (buf : Sockaddr) (len : ℤ) (v4 : Octets) : Prop :=
  (buf.saFamily = afInet ∧ 16 ≤ len ∧ len ≤ 128 ∧ buf.sinAddr = [v4.a, v4.b, v4.c, v4.d]) ∨
    (buf.saFamily = afInet6 ∧ 28 ≤ len ∧ len ≤ 128 ∧ buf.sin6Addr = fakeIpV4Mapped v4)

/-- An address that is spelt within the length is read, with its port. -/
lemma Sockaddr.Spells.readFakeAddr_eq {v4 : Octets} (h : buf.Spells len v4) :
    readFakeAddr (some buf) len = fakeAddrReadOf v4 buf.sinPort := by
  rcases h with ⟨hfamily, hlen, hmax, haddr⟩ | ⟨hfamily, hlen, hmax, haddr⟩
  · rw [readFakeAddr_of_afInet hfamily hlen hmax]
    have hoctets : [octetAt buf 4, octetAt buf 5, octetAt buf 6, octetAt buf 7] =
        [v4.a, v4.b, v4.c, v4.d] := haddr
    simp only [List.cons.injEq, and_true] at hoctets
    obtain ⟨ha, hb, hc, hd⟩ := hoctets
    rw [ha, hb, hc, hd]
  · exact readFakeAddr_of_mapped hfamily hlen hmax haddr

/-- Nothing else is readable. -/
lemma spells_of_readable (h : (readFakeAddr (some buf) len).readable = true) :
    ∃ v4, buf.Spells len v4 := by
  simp only [readFakeAddr, fakeMapFamilyBytes, fakeMapMaxLength] at h
  split_ifs at h with hlen hinet hshort hinet6 hshort6 hmapped
  · refine ⟨⟨octetAt buf 4, octetAt buf 5, octetAt buf 6, octetAt buf 7⟩, Or.inl ?_⟩
    exact ⟨hinet, by omega, by omega, rfl⟩
  · rw [Bool.not_eq_true', Bool.not_eq_false] at hmapped
    obtain ⟨v4, hv4⟩ := fakeMapIsV4Mapped_iff.mp hmapped
    exact ⟨v4, Or.inr ⟨hinet6, by omega, by omega, hv4⟩⟩

/-- What is not readable says nothing. -/
lemma readFakeAddr_of_not_readable (h : (readFakeAddr (some buf) len).readable ≠ true) :
    readFakeAddr (some buf) len = {} := by
  simp only [readFakeAddr] at h ⊢
  split_ifs at h ⊢ with hlen hinet hshort hinet6 hshort6 hmapped
  · rfl
  · rfl
  · exact absurd (fakeMapClassify_readable _) h
  · rfl
  · rfl
  · exact absurd (fakeMapClassify_readable _) h
  · rfl

/-- What is said of the range is what the range predicates say of the octets. -/
lemma readFakeAddr_range (buf : Sockaddr) (len : ℤ) :
    let out := readFakeAddr (some buf) len
    out.inRange = inFakeRange out.v4 ∧ out.issuable = (fakeIpSlotOf out.v4).isSome ∧
      out.slot = ((fakeIpSlotOf out.v4).map Fin.val).getD 0 := by
  intro out
  by_cases h : out.readable = true
  · obtain ⟨v4, hv4⟩ := spells_of_readable h
    have hout : out = fakeAddrReadOf v4 buf.sinPort := hv4.readFakeAddr_eq
    rw [hout, fakeAddrReadOf_eq]
    exact ⟨rfl, rfl, rfl⟩
  · have hout : out = {} := readFakeAddr_of_not_readable h
    rw [hout]
    decide

/-! ## The advertised length -/

/-- **The advertised length is respected.** For every buffer and every length, negative and absurd
ones included: the function reads less than the length, and less than 28 octets; so its answer is
the same on every buffer with the same first octets.  It calls readable a v4 address within 16 to
128 octets and a mapped one within 28 to 128, and no other; both spellings of an address give the
same answer, and what it says of the range is what the range predicates say of the octets. -/
theorem readFakeAddr_of_length (buf : Sockaddr) (len : ℤ) :
    let out := readFakeAddr (some buf) len
    (Memory.run (readFakeAddrMem false len) (octetAt buf) = out ∧
        Memory.InBounds (min len.toNat 28) (readFakeAddrMem false len) (octetAt buf)) ∧
      (∀ buf' : Sockaddr, (∀ i < min len.toNat 28, octetAt buf i = octetAt buf' i) →
        readFakeAddr (some buf') len = out) ∧
      (out.readable = true ↔
        (buf.saFamily = afInet ∧ 16 ≤ len ∧ len ≤ 128) ∨
          (buf.saFamily = afInet6 ∧ 28 ≤ len ∧ len ≤ 128 ∧
            ∃ v4, buf.sin6Addr = fakeIpV4Mapped v4)) ∧
      (∀ v4, buf.Spells len v4 →
        out = fakeAddrReadOf v4 buf.sinPort ∧ out.v4 = v4 ∧ out.port = buf.sinPort ∧
          ∀ (buf' : Sockaddr) (len' : ℤ), buf'.Spells len' v4 → buf'.sinPort = buf.sinPort →
            readFakeAddr (some buf') len' = out) ∧
      (out.inRange = inFakeRange out.v4 ∧ out.issuable = (fakeIpSlotOf out.v4).isSome ∧
        out.slot = ((fakeIpSlotOf out.v4).map Fin.val).getD 0) := by
  intro out
  have hbounds (mem : ℕ → UInt8) := inBounds_readFakeAddrMem false len mem
  refine ⟨⟨run_readFakeAddrMem buf len, hbounds _⟩, ?_, ?_, ?_, readFakeAddr_range buf len⟩
  · intro buf' hsame
    rw [← run_readFakeAddrMem, ← (Memory.run_congr hsame (hbounds _)).1]
    exact run_readFakeAddrMem buf len
  · constructor
    · intro hread
      obtain ⟨v4, hv4⟩ := spells_of_readable hread
      rcases hv4 with ⟨hfamily, hlen, hmax, -⟩ | ⟨hfamily, hlen, hmax, haddr⟩
      · exact Or.inl ⟨hfamily, hlen, hmax⟩
      · exact Or.inr ⟨hfamily, hlen, hmax, v4, haddr⟩
    · rintro (⟨hfamily, hlen, hmax⟩ | ⟨hfamily, hlen, hmax, v4, haddr⟩)
      · have hout : out = _ := readFakeAddr_of_afInet hfamily hlen hmax
        rw [hout]
        exact fakeMapClassify_readable _
      · have hout : out = _ := readFakeAddr_of_mapped hfamily hlen hmax haddr
        rw [hout]
        exact fakeMapClassify_readable _
  · intro v4 hv4
    have hout : out = fakeAddrReadOf v4 buf.sinPort := hv4.readFakeAddr_eq
    refine ⟨hout, ?_, ?_, ?_⟩
    · rw [hout, fakeAddrReadOf_eq]
    · rw [hout, fakeAddrReadOf_eq]
    · intro buf' len' hv4' hport
      rw [hout, ← hport]
      exact hv4'.readFakeAddr_eq

end Encapsule
