import Encapsule.Injectee.FakeIp
import Encapsule.Injectee.Winnet

/-!
# Recognising fakes at the connect sites

The recogniser, the policy and the owner of `fake_map.hpp`.  The owner is one table behind one
mutex: each of its methods is one critical section, so the runs of any number of threads are the
runs of `FakeIpOwner.step` over the operations in the order in which they got the mutex.
-/

namespace Encapsule

/-! ## Reading a socket address -/

/-- `FAKE_MAP_FAMILY_BYTES`. -/
def fakeMapFamilyBytes : ℤ := 2

/-- `FAKE_MAP_MAX_LENGTH`, the size of a `sockaddr_storage`. -/
def fakeMapMaxLength : ℤ := 128

/-- What a `sockaddr` buffer says, as far as the advertised length lets one read it. -/
structure FakeAddrRead where
  readable : Bool := false
  inRange : Bool := false
  issuable : Bool := false
  v4 : Octets := {}
  slot : ℕ := 0
  port : UInt16 := 0
  deriving DecidableEq

/-- `fake_map_is_v4_mapped`. -/
def fakeMapIsV4Mapped (bytes : Bytes) : Bool :=
  (List.range 10).all (fun i => octetAt bytes i == 0) && octetAt bytes 10 == 0xff &&
    octetAt bytes 11 == 0xff

/-- `fake_map_classify`. -/
def fakeMapClassify (out : FakeAddrRead) : FakeAddrRead :=
  let out := { out with inRange := inFakeRange out.v4 }
  match fakeIpSlotOf out.v4 with
  | some slot => { out with issuable := true, slot := slot }
  | none => out

/-- `fake_addr_read_of`. -/
def fakeAddrReadOf (v4 : Octets) (port : UInt16) : FakeAddrRead :=
  fakeMapClassify { readable := true, v4, port }

@[simp] lemma fakeMapClassify_v4 (out : FakeAddrRead) : (fakeMapClassify out).v4 = out.v4 := by
  unfold fakeMapClassify
  dsimp only
  split <;> rfl

@[simp] lemma fakeMapClassify_readable (out : FakeAddrRead) :
    (fakeMapClassify out).readable = out.readable := by
  unfold fakeMapClassify
  dsimp only
  split <;> rfl

@[simp] lemma fakeMapClassify_inRange (out : FakeAddrRead) :
    (fakeMapClassify out).inRange = inFakeRange out.v4 := by
  unfold fakeMapClassify
  dsimp only
  split <;> rfl

/-- `read_fake_addr`: the v4 address, or the v4-mapped v6 address, of a buffer that is long enough
to hold it. -/
def readFakeAddr (name : Option Sockaddr) (len : ℤ) : FakeAddrRead :=
  match name with
  | none => {}
  | some name =>
    if len < fakeMapFamilyBytes ∨ fakeMapMaxLength < len then {}
    else if name.saFamily = afInet then
      if len < 16 then {}
      else
        fakeAddrReadOf ⟨octetAt name 4, octetAt name 5, octetAt name 6, octetAt name 7⟩ name.sinPort
    else if name.saFamily = afInet6 then
      if len < 28 then {}
      else
        let addr := name.sin6Addr
        if !fakeMapIsV4Mapped addr then {}
        else
          fakeAddrReadOf ⟨octetAt addr 12, octetAt addr 13, octetAt addr 14, octetAt addr 15⟩
            name.sinPort
    else {}

/-- What is in the range was read, and conversely. -/
lemma readFakeAddr_inRange (name : Option Sockaddr) (len : ℤ) :
    (readFakeAddr name len).inRange =
      ((readFakeAddr name len).readable && inFakeRange (readFakeAddr name len).v4) := by
  unfold readFakeAddr
  split
  · rfl
  · dsimp only
    split_ifs <;> simp [fakeAddrReadOf]

/-! ## The policy -/

/-- `fake_verdict`. -/
inductive FakeVerdict where
  | routeByName
  | refuse
  | passthrough
  deriving DecidableEq

/-- `fake_table_answer`. -/
structure FakeTableAnswer where
  found : Bool := false
  name : Bytes := []
  deriving DecidableEq

/-- `fake_table_answer::from_lookup`. -/
def FakeTableAnswer.fromLookup : Option Bytes → FakeTableAnswer
  | none => {}
  | some row => if row = [] then {} else { found := true, name := row }

/-- `fake_connect_decision`, and `fake_owned_decision`, which differs in who owns the name. -/
structure FakeConnectDecision where
  verdict : FakeVerdict := .passthrough
  name : Bytes := []
  addr : FakeAddrRead
  deriving DecidableEq

/-- `fake_connect_verdict`. -/
def fakeConnectVerdict (addr : FakeAddrRead) (answer : FakeTableAnswer) (proxyConfigured : Bool) :
    FakeConnectDecision :=
  if !addr.inRange then { verdict := .passthrough, addr }
  else if answer.found ∧ answer.name ≠ [] then
    { verdict := .routeByName, name := answer.name, addr }
  else { verdict := if proxyConfigured then .refuse else .passthrough, addr }

/-! ## The owner -/

/-- `fake_ip_from_u32`. -/
def fakeIpFromU32 (u : UInt32) : Octets :=
  ⟨UInt8.ofNat (u.toNat / 16777216), UInt8.ofNat (u.toNat / 65536), UInt8.ofNat (u.toNat / 256),
    UInt8.ofNat u.toNat⟩

/-- `fake_ip_owner`: the one table, behind its mutex. -/
structure FakeIpOwner where
  table : FakeIpTable

/-- The critical sections of the owner. -/
inductive FakeIpOwnerOp where
  | allocFor (name : Bytes)
  | lookup (fake : Octets)
  | lookupAddr (name : Option Sockaddr) (len : ℤ)
  | pin (fake : Octets)
  | unpin (fake : Octets)
  | pins (fake : Octets)
  | noteTouched (fake : Octets)
  | noteTouchedAddr (name : Option Sockaddr) (len : ℤ)
  | forwardProgress (ticks : ℕ)
  | excludeProxy (fake : Octets)
  | excludeProxyValue (v4Value : UInt32)
  | excludes (fake : Octets)
  | liveNames
  | quarantined
  | exclusions
  | capacity
  | quarantine
  | decideRead (addr : FakeAddrRead) (proxyConfigured : Bool)
  | decide (name : Option Sockaddr) (len : ℤ) (proxyConfigured : Bool)
  deriving DecidableEq

/-- What a critical section answers. -/
inductive FakeIpOwnerAnswer where
  | read (addr : Option FakeAddrRead)
  | name (name : Option Bytes)
  | flag (ok : Bool)
  | count (n : ℕ)
  | decision (d : FakeConnectDecision)
  | done
  deriving DecidableEq

namespace FakeIpOwner

/-- The constructor. -/
def create (quarantine : ℕ) : FakeIpOwner := { table := FakeIpTable.create {} quarantine }

/-- `alloc_for`. -/
def allocFor (o : FakeIpOwner) (name : Bytes) : FakeIpOwner × Option FakeAddrRead :=
  ({ table := (o.table.alloc name).1 }, (o.table.alloc name).2.map fun v4 => fakeAddrReadOf v4 0)

/-- `lookup` of an address. -/
def lookup (o : FakeIpOwner) (fake : Octets) : Option Bytes := o.table.lookup fake

/-- `lookup` of a buffer. -/
def lookupAddr (o : FakeIpOwner) (name : Option Sockaddr) (len : ℤ) : Option Bytes :=
  let addr := readFakeAddr name len
  if !addr.inRange then none else o.lookup addr.v4

/-- `note_touched` of an address. -/
def noteTouched (o : FakeIpOwner) (fake : Octets) : FakeIpOwner × Bool :=
  ({ table := (o.table.noteTouched fake).1 }, (o.table.noteTouched fake).2)

/-- `note_touched` of a buffer. -/
def noteTouchedAddr (o : FakeIpOwner) (name : Option Sockaddr) (len : ℤ) : FakeIpOwner × Bool :=
  let addr := readFakeAddr name len
  if !addr.inRange then (o, false) else o.noteTouched addr.v4

/-- `exclude_proxy`. -/
def excludeProxy (o : FakeIpOwner) (fake : Octets) : FakeIpOwner :=
  { table := o.table.exclude fake }

/-- `decide` of a recognised address: the mutex is taken for an address in the range only. -/
def decideRead (o : FakeIpOwner) (addr : FakeAddrRead) (proxyConfigured : Bool) :
    FakeConnectDecision :=
  if !addr.inRange then { verdict := .passthrough, addr }
  else
    let row := o.table.lookup addr.v4
    let pure := fakeConnectVerdict addr (FakeTableAnswer.fromLookup row) proxyConfigured
    { verdict := pure.verdict
      name := if pure.verdict = .routeByName then row.getD [] else []
      addr }

/-- `decide` of a buffer. -/
def decide (o : FakeIpOwner) (name : Option Sockaddr) (len : ℤ) (proxyConfigured : Bool) :
    FakeConnectDecision :=
  o.decideRead (readFakeAddr name len) proxyConfigured

/-- One critical section and its answer. -/
def step (o : FakeIpOwner) : FakeIpOwnerOp → FakeIpOwner × FakeIpOwnerAnswer
  | .allocFor name => ((o.allocFor name).1, .read (o.allocFor name).2)
  | .lookup fake => (o, .name (o.lookup fake))
  | .lookupAddr name len => (o, .name (o.lookupAddr name len))
  | .pin fake => ({ table := (o.table.pin fake).1 }, .flag (o.table.pin fake).2)
  | .unpin fake => ({ table := (o.table.unpin fake).1 }, .flag (o.table.unpin fake).2)
  | .pins fake => (o, .count (o.table.pins fake))
  | .noteTouched fake => ((o.noteTouched fake).1, .flag (o.noteTouched fake).2)
  | .noteTouchedAddr name len =>
    ((o.noteTouchedAddr name len).1, .flag (o.noteTouchedAddr name len).2)
  | .forwardProgress ticks =>
    ({ table := (o.table.noteProgress ticks).1 }, .count (o.table.noteProgress ticks).2)
  | .excludeProxy fake => (o.excludeProxy fake, .done)
  | .excludeProxyValue v4Value => (o.excludeProxy (fakeIpFromU32 v4Value), .done)
  | .excludes fake => (o, .flag (o.table.isExcluded fake))
  | .liveNames => (o, .count o.table.liveNames)
  | .quarantined => (o, .count o.table.quarantined)
  | .exclusions => (o, .count o.table.exclusions)
  | .capacity => (o, .count o.table.capacity)
  | .quarantine => (o, .count o.table.quarantine)
  | .decideRead addr proxyConfigured => (o, .decision (o.decideRead addr proxyConfigured))
  | .decide name len proxyConfigured => (o, .decision (o.decide name len proxyConfigured))

end FakeIpOwner

end Encapsule
