import Mathlib.Data.Finset.Basic
import Mathlib.Data.String.Basic
import Encapsule.Foundation.NamedObjects
import Encapsule.Foundation.Reliance
import Encapsule.Injectee.Residency
import Encapsule.Injector.TokenStore

/-!
# The bootstrap changes hands

`publish` writes a port and a token into a section that is named after a process, and the capsule
finds the section by its name, from inside that process.  The section is written before the record
is made, and without the lock of the record, octet by octet; the name is there as long as somebody
has a handle on it.  Threads of the tool publish, roll back and forget at any time, and capsules
read at any time.

* `publish`, `inject`, `attach`: the threads, on the sections of a kernel and the records of the
  injector.  A `PublishWatch` looks on, and takes no part.
* `promises`: what the threads leave alone, and what always holds.
* `section_of_record`: a process with a token has its section, held by the handle that is kept, and
  the section holds what was recorded unless publishes of that process overlap.
* `hello_accepted`: a capsule whose reading was not disturbed is accepted, if its process has a
  record.
-/

namespace Encapsule

open Interaction

/-! ## The payload in memory -/

/-- `get_port_mapping_payload_size`. -/
def getPortMappingPayloadSize : ℕ := 2 + portMappingTokenSize

/-- The octets of a payload, as the struct lies in memory. -/
def PortMappingPayload.octet (payload : PortMappingPayload) : ℕ → UInt8
  | 0 => UInt8.ofNat payload.port.toNat
  | 1 => UInt8.ofNat (payload.port.toNat / 256)
  | k + 2 => payload.token.toList.getD k 0

/-- The struct that lies in memory. -/
def PortMappingPayload.ofOctets (octets : ℕ → UInt8) : PortMappingPayload where
  port := UInt16.ofNat ((octets 0).toNat + 256 * (octets 1).toNat)
  token := Vector.ofFn fun k => octets (k + 2)

/-- The octets of a struct are those that lie in memory. -/
lemma PortMappingPayload.octet_ofOctets (octets : ℕ → UInt8) {k : ℕ}
    (hk : k < getPortMappingPayloadSize) : (ofOctets octets).octet k = octets k := by
  have hlow := (octets 0).toNat_lt
  have hhigh := (octets 1).toNat_lt
  have hport : (ofOctets octets).port.toNat = (octets 0).toNat + 256 * (octets 1).toNat := by
    change (UInt16.ofNat _).toNat = _
    rw [UInt16.toNat_ofNat']
    omega
  match k with
  | 0 =>
    refine UInt8.toNat_inj.mp ?_
    rw [octet, UInt8.toNat_ofNat', hport]
    omega
  | 1 =>
    refine UInt8.toNat_inj.mp ?_
    rw [octet, UInt8.toNat_ofNat', hport]
    omega
  | k + 2 =>
    have hlt : k < portMappingTokenSize := by
      rw [getPortMappingPayloadSize] at hk
      omega
    simp [octet, ofOctets, hlt]

/-- A struct is what its octets spell. -/
lemma PortMappingPayload.ofOctets_eq {payload : PortMappingPayload} {octets : ℕ → UInt8}
    (h : ∀ k < getPortMappingPayloadSize, octets k = payload.octet k) :
    ofOctets octets = payload := by
  obtain ⟨port, token⟩ := payload
  have hport := port.toNat_lt
  rw [ofOctets, mk.injEq]
  constructor
  · refine UInt16.toNat_inj.mp ?_
    rw [h 0 (by decide), h 1 (by decide), octet, octet, UInt16.toNat_ofNat', UInt8.toNat_ofNat',
      UInt8.toNat_ofNat']
    dsimp only
    omega
  · ext k hk
    rw [Vector.getElem_ofFn, h (k + 2) (by rw [getPortMappingPayloadSize]; omega), octet]
    simp [hk]

/-- The memory of a new section. -/
def zeros : ℕ → UInt8 := fun _ => 0

/-- `get_port_mapping_name`. -/
def getPortMappingName (pid : DWORD) : String := "ENCAPSULE_PORT_IPC_" ++ Nat.repr pid.toNat

/-! ## The threads and what they share -/

/-- A handle on a section. -/
abbrev Mapping : Type := ObjectHandle ThreadId String

/-- What is watched of the publishes; no thread looks at it. -/
structure PublishWatch where
  /-- The threads that are between the view of a section and the record. -/
  writing : DWORD → Finset ThreadId := fun _ => ∅
  /-- Two publishes of the process have overlapped, since last no thread was writing. -/
  mixed : DWORD → Bool := fun _ => false
  /-- How often the bootstrap of the process was begun, recorded or forgotten. -/
  epoch : DWORD → ℕ := fun _ => 0
  /-- The epoch in which a thread has opened a mapping last. -/
  opened : ThreadId → ℕ := fun _ => 0

/-- A hello of a capsule, and how it was answered. -/
structure Hello where
  pid : DWORD
  payload : PortMappingPayload
  accepted : Bool
  /-- Since the mapping was opened the bootstrap was left alone, and the process has a record. -/
  undisturbed : Bool
  deriving DecidableEq

/-- What the threads share. -/
structure Handoff where
  sections : NamedObjects ThreadId String (ℕ → UInt8) := .unopened fun _ => zeros
  injector : Injector := { agree _ := Iff.rfl }
  /-- `mappings`: the handles that are kept. -/
  handles : DWORD → Option Mapping := fun _ => none
  hellos : List Hello := []
  watch : PublishWatch := {}

/-- What the threads do to the sections and the records. -/
inductive HandoffCall where
  /-- `CreateFileMappingW`. -/
  | createMapping (thread : ThreadId) (pid : DWORD)
  /-- `OpenFileMappingW`. -/
  | openMapping (thread : ThreadId) (pid : DWORD) (granted : Bool)
  /-- `MapViewOfFile` of a thread that is going to write. -/
  | mapForWriting (thread : ThreadId) (pid : DWORD) (mapping : Mapping) (granted : Bool)
  /-- `MapViewOfFile` of a thread that is going to read. -/
  | mapForReading (mapping : Mapping) (granted : Bool)
  | poke (object k : ℕ) (octet : UInt8)
  | peek (object k : ℕ)
  | closeHandle (mapping : Mapping)
  /-- The critical section of `publish`. -/
  | record (thread : ThreadId) (pid : DWORD) (payload : PortMappingPayload) (mapping : Mapping)
  | forgetBootstrap (pid : DWORD) (token : Bytes)
  | forgetToken (pid : DWORD)
  /-- A capsule says hello on the port, with the token. -/
  | hello (thread : ThreadId) (pid : DWORD) (payload : PortMappingPayload)

/-- What these calls answer. -/
abbrev HandoffCall.Answer : HandoffCall → Type
  | .createMapping _ _ => Mapping
  | .openMapping _ _ _ => Option Mapping
  | .mapForWriting _ _ _ _ => Option ℕ
  | .mapForReading _ _ => Option ℕ
  | .peek _ _ => UInt8
  | .forgetBootstrap _ _ => Bool
  | _ => Unit

/-- A part of a thread. -/
abbrev HandoffThread (α : Type) : Type := Prog HandoffCall.Answer α

namespace Handoff

/-- A section. -/
def ask (c : HandoffCall) : HandoffThread c.Answer := Prog.ask c

/-! ## The injector -/

/-- `*payload_dst = *payload`, from the octets in the list. -/
def writeOctets (object : ℕ) (payload : PortMappingPayload) : List ℕ → HandoffThread Unit
  | [] => return ()
  | k :: rest => do
    let _ : Unit ← ask (.poke object k (payload.octet k))
    writeOctets object payload rest

/-- `publish`. -/
def publish (thread : ThreadId) (pid : DWORD) (port : UInt16) (host : InjectHost) :
    HandoffThread (Option Bytes) :=
  match host.random with
  | none => return none
  | some token =>
    let payload : PortMappingPayload := { port, token }
    if host.mapping then do
      let mapping : Mapping ← ask (.createMapping thread pid)
      let view : Option ℕ ← ask (.mapForWriting thread pid mapping host.view)
      match view with
      | none => do
        let _ : Unit ← ask (.closeHandle mapping)
        return none
      | some object => do
        let _ ← writeOctets object payload (List.range getPortMappingPayloadSize)
        let _ : Unit ← ask (.record thread pid payload mapping)
        return some payload.injectionToken
    else return none

/-- `load_into`. -/
def loadInto (pid : DWORD) (token : Bytes) (host : InjectHost) : HandoffThread Bool :=
  let failed : HandoffThread Bool := do
    let _ : Bool ← ask (.forgetBootstrap pid token)
    return false
  match host.load with
  | .noMemory => failed
  | .notWritten => failed
  | .noLoadLibrary => failed
  | .noThread => failed
  | .late resident => if resident then return true else failed
  | .exited none => failed
  | .exited (some moduleHandle) => if moduleHandle = 0 then failed else return true

/-- `inject`. -/
def inject (thread : ThreadId) (pid : DWORD) (port : UInt16) (host : InjectHost) :
    HandoffThread Bool :=
  if host.process && host.isWow64.isSome && host.injectee then do
    let token ← publish thread pid port host
    match token with
    | none => return false
    | some token => loadInto pid token host
  else return false

/-! ## The capsule -/

/-- What the operating system answers to the reads of a capsule. -/
structure AttachHost where
  opens : ℕ → Bool
  views : ℕ → Bool

/-- `*payload`: the octets in the list are read. -/
def readOctets (object : ℕ) : List ℕ → (ℕ → UInt8) → HandoffThread (ℕ → UInt8)
  | [], octets => return octets
  | k :: rest, octets => do
    let octet : UInt8 ← ask (.peek object k)
    readOctets object rest (Function.update octets k octet)

/-- `get_ipc_payload`, in an attempt. -/
def getIpcPayload (thread : ThreadId) (pid : DWORD) (host : AttachHost) (attempt : ℕ) :
    HandoffThread PortMappingPayload := do
  let mapping : Option Mapping ← ask (.openMapping thread pid (host.opens attempt))
  match mapping with
  | none => return Capsule.noPayload
  | some mapping => do
    let view : Option ℕ ← ask (.mapForReading mapping (host.views attempt))
    match view with
    | none => do
      let _ : Unit ← ask (.closeHandle mapping)
      return Capsule.noPayload
    | some object => do
      let octets ← readOctets object (List.range getPortMappingPayloadSize) zeros
      let _ : Unit ← ask (.closeHandle mapping)
      return .ofOctets octets

/-- The loop of `get_ipc_payload_waiting`, over the attempts that are left. -/
def getIpcPayloadWaiting (thread : ThreadId) (pid : DWORD) (host : AttachHost) :
    List ℕ → HandoffThread PortMappingPayload
  | [] => return Capsule.noPayload
  | attempt :: rest => do
    let payload ← getIpcPayload thread pid host attempt
    if payload.port ≠ 0 then return payload else getIpcPayloadWaiting thread pid host rest

/-- `DllMain` and `do_client`, up to the hello. -/
def attach (thread : ThreadId) (pid : DWORD) (host : AttachHost) : HandoffThread Unit := do
  let first ← getIpcPayload thread pid host 0
  let payload ← (if first.port = 0 then
      getIpcPayloadWaiting thread pid host (List.range' 1 (Capsule.kMappingProbeTries - 1))
    else return first)
  if payload.port = 0 then return ()
  else ask (.hello thread pid payload)

/-- What a thread is given to do. -/
inductive Job where
  | inject (pid : DWORD) (port : UInt16) (host : InjectHost)
  | forget (pid : DWORD)
  | attach (pid : DWORD) (host : AttachHost)

/-- A thread does one thing after the other. -/
def work (thread : ThreadId) : List Job → HandoffThread Unit
  | [] => return ()
  | .inject pid port host :: rest => do
    let _ ← inject thread pid port host
    work thread rest
  | .forget pid :: rest => do
    let _ : Unit ← ask (.forgetToken pid)
    work thread rest
  | .attach pid host :: rest => do
    let _ ← attach thread pid host
    work thread rest

/-! ## What the sections do -/

/-- The sections when the handle that is kept for a process is closed, if there is one. -/
def released (s : Handoff) (pid : DWORD) : NamedObjects ThreadId String (ℕ → UInt8) :=
  match s.handles pid with
  | some mapping => s.sections.close mapping
  | none => s.sections

/-- Nobody is writing to the section of a process, and the last publishes did not overlap. -/
def Settled (s : Handoff) (pid : DWORD) : Prop :=
  s.watch.writing pid = ∅ ∧ s.watch.mixed pid = false

instance (s : Handoff) (pid : DWORD) : Decidable (s.Settled pid) :=
  inferInstanceAs (Decidable (_ ∧ _))

/-- Since a thread has opened a mapping, the bootstrap of a process was left alone; it is there. -/
def Undisturbed (s : Handoff) (thread : ThreadId) (pid : DWORD) : Prop :=
  s.watch.epoch pid = s.watch.opened thread ∧ s.Settled pid ∧ pid ∈ s.injector.tokens

instance (s : Handoff) (thread : ThreadId) (pid : DWORD) : Decidable (s.Undisturbed thread pid) :=
  inferInstanceAs (Decidable (_ ∧ _ ∧ _))

/-- A section, as it is carried out. -/
def perform : (c : HandoffCall) → Handoff → c.Answer × Handoff
  | .createMapping thread pid, s =>
    let created := s.sections.create thread (getPortMappingName pid) zeros
    (created.2, { s with sections := created.1 })
  | .openMapping thread pid granted, s =>
    if granted then
      let opened := s.sections.openNamed thread (getPortMappingName pid)
      (opened.2, { s with sections := opened.1 })
    else (none, s)
  | .mapForWriting _ _ mapping granted, s =>
    (if granted ∧ mapping ∈ s.sections.opened then some mapping.object else none, s)
  | .mapForReading mapping granted, s =>
    (if granted ∧ mapping ∈ s.sections.opened then some mapping.object else none, s)
  | .poke object k octet, s =>
    ((), { s with
      sections := s.sections.write object
        (Function.update (s.sections.contents object) k octet) })
  | .peek object k, s => (s.sections.contents object k, s)
  | .closeHandle mapping, s => ((), { s with sections := s.sections.close mapping })
  | .record _ pid payload mapping, s =>
    ((), { s with
      sections := s.released pid
      injector := s.injector.record pid payload
      handles := Function.update s.handles pid (some mapping) })
  | .forgetBootstrap pid token, s =>
    let forgotten := s.injector.forgetBootstrap pid token
    if forgotten.2 then
      (true, { s with
        sections := s.released pid
        injector := forgotten.1
        handles := Function.update s.handles pid none })
    else (false, s)
  | .forgetToken pid, s =>
    ((), { s with
      sections := s.released pid
      injector := s.injector.forgetToken pid
      handles := Function.update s.handles pid none })
  | .hello thread pid payload, s =>
    ((), { s with
      hellos := s.hellos ++ [{
        pid, payload
        accepted := s.injector.tokenMatches pid (some payload.injectionToken)
        undisturbed := decide (s.Undisturbed thread pid) }] })

/-- The bootstrap of a process is touched. -/
def touch (w : PublishWatch) (pid : DWORD) : PublishWatch :=
  { w with epoch := Function.update w.epoch pid (w.epoch pid + 1) }

/-- What is watched of a section. -/
def observe (w : PublishWatch) : (c : HandoffCall) → c.Answer → PublishWatch
  | .mapForWriting thread pid _ _, some _ =>
    { touch w pid with
      writing := Function.update w.writing pid (insert thread (w.writing pid))
      mixed := Function.update w.mixed pid (decide (w.writing pid ≠ ∅)) }
  | .record thread pid _ _, _ =>
    { touch w pid with
      writing := Function.update w.writing pid ((w.writing pid).erase thread) }
  | .forgetBootstrap pid _, true => touch w pid
  | .forgetToken pid, _ => touch w pid
  | .openMapping thread pid _, _ =>
    { w with opened := Function.update w.opened thread (w.epoch pid) }
  | _, _ => w

/-- The state after a section, with what is watched. -/
def after (c : HandoffCall) (s : Handoff) : Handoff :=
  { (perform c s).2 with watch := observe s.watch c (perform c s).1 }

/-- A section, with what is watched. -/
def exec (c : HandoffCall) (s : Handoff) : Option (c.Answer × Handoff) :=
  some ((perform c s).1, after c s)

/-- The threads with what they are given to do. -/
def crew (jobs : ThreadId → List Job) : Crew ThreadId HandoffCall.Answer Handoff where
  state := {}
  threads i := work i (jobs i)

/-- One of the threads is given to publish the payload for the process. -/
def Minted (jobs : ThreadId → List Job) (pid : DWORD) (payload : PortMappingPayload) : Prop :=
  ∃ i host, .inject pid payload.port host ∈ jobs i ∧ host.random = some payload.token

/-! ## What always holds -/

/-- The octet is zero, or stands there in a payload that is published for the process. -/
def Traced (minted : DWORD → PortMappingPayload → Prop) (pid : DWORD) (k : ℕ) (octet : UInt8) :
    Prop :=
  octet = 0 ∨ ∃ payload, minted pid payload ∧ octet = payload.octet k

/-- What always holds. -/
structure Sound (minted : DWORD → PortMappingPayload → Prop) (s : Handoff) : Prop where
  kept : ∀ pid mapping, s.handles pid = some mapping →
    mapping ∈ s.sections.opened ∧ mapping.name = getPortMappingName pid
  recorded : ∀ pid, pid ∈ s.injector.mappings ↔ (s.handles pid).isSome
  token : ∀ pid payload, s.injector.mappings.lookup pid = some payload →
    s.injector.tokens.lookup pid = some payload.injectionToken ∧ minted pid payload
  settled : ∀ pid payload mapping, s.injector.mappings.lookup pid = some payload →
    s.handles pid = some mapping → s.Settled pid → ∀ k < getPortMappingPayloadSize,
      s.sections.contents mapping.object k = payload.octet k
  crowd : ∀ pid i j, i ∈ s.watch.writing pid → j ∈ s.watch.writing pid → i ≠ j →
    s.watch.mixed pid = true
  octets : ∀ mapping ∈ s.sections.opened, ∀ pid, mapping.name = getPortMappingName pid →
    ∀ k, Traced minted pid k (s.sections.contents mapping.object k)
  hellos : ∀ hello ∈ s.hellos, (hello.undisturbed = true →
    hello.accepted = true ∧ minted hello.pid hello.payload) ∧
      ∀ k, Traced minted hello.pid k (hello.payload.octet k)

/-! ## What the threads leave alone -/

/-- The handle is open, and the thread's own. -/
def Owned (i : ThreadId) (mapping : Mapping) (s : Handoff) : Prop :=
  mapping ∈ s.sections.opened ∧ mapping.opener = i ∧ ∀ pid, s.handles pid ≠ some mapping

/-- What a thread relies on the others to leave alone. -/
structure Rely (j : ThreadId) (s s' : Handoff) : Prop where
  owned : ∀ mapping, Owned j mapping s → Owned j mapping s'
  writing : ∀ pid, j ∈ s'.watch.writing pid ↔ j ∈ s.watch.writing pid
  /-- While a thread writes to a section, the others do so only if publishes overlap. -/
  contents : ∀ pid mapping, j ∈ s.watch.writing pid → Owned j mapping s →
    mapping.name = getPortMappingName pid → s'.watch.mixed pid = false →
      s.watch.mixed pid = false ∧
        s'.sections.contents mapping.object = s.sections.contents mapping.object
  epoch : ∀ pid, s.watch.epoch pid ≤ s'.watch.epoch pid
  quiet : ∀ pid, s'.watch.epoch pid = s.watch.epoch pid →
    s'.watch.writing pid = s.watch.writing pid ∧ s'.watch.mixed pid = s.watch.mixed pid ∧
      s'.injector.mappings.lookup pid = s.injector.mappings.lookup pid
  opened : s'.watch.opened j = s.watch.opened j

/-- Nothing is left alone by doing nothing. -/
lemma rely_refl (j : ThreadId) (s : Handoff) : Rely j s s where
  owned _ h := h
  writing _ := Iff.rfl
  contents _ _ _ _ _ h := ⟨h, rfl⟩
  epoch _ := Nat.le_refl _
  quiet _ _ := ⟨rfl, rfl, rfl⟩
  opened := rfl

/-- What is left alone twice is left alone. -/
lemma Rely.trans {j : ThreadId} {s s' s'' : Handoff} (h : Rely j s s') (h' : Rely j s' s'') :
    Rely j s s'' where
  owned mapping hown := h'.owned mapping (h.owned mapping hown)
  writing pid := (h'.writing pid).trans (h.writing pid)
  contents := by
    intro pid mapping hwriting hown hname hmixed
    obtain ⟨hmixed', hsame'⟩ := h'.contents pid mapping ((h.writing pid).mpr hwriting)
      (h.owned mapping hown) hname hmixed
    obtain ⟨hmixed'', hsame⟩ := h.contents pid mapping hwriting hown hname hmixed'
    exact ⟨hmixed'', hsame'.trans hsame⟩
  epoch pid := Nat.le_trans (h.epoch pid) (h'.epoch pid)
  quiet := by
    intro pid hepoch
    have hfirst := h.epoch pid
    have hsecond := h'.epoch pid
    obtain ⟨hwriting, hmixed, hlookup⟩ := h.quiet pid (by omega)
    obtain ⟨hwriting', hmixed', hlookup'⟩ := h'.quiet pid (by omega)
    exact ⟨hwriting'.trans hwriting, hmixed'.trans hmixed, hlookup'.trans hlookup⟩
  opened := h'.opened.trans h.opened

/-- What the threads promise each other. -/
def promises (minted : DWORD → PortMappingPayload → Prop) : Pact ThreadId Handoff where
  inv := Sound minted
  rely := Rely
  guarantee i s s' := ∀ j, j ≠ i → Rely j s s'
  refl := rely_refl
  trans := Rely.trans
  kept hij _ _ h := h _ hij.symm

/-- The name of a section says whose it is. -/
lemma getPortMappingName_inj {pid pid' : DWORD} :
    getPortMappingName pid = getPortMappingName pid' ↔ pid = pid' := by
  refine ⟨fun h => ?_, congrArg getPortMappingName⟩
  have hdigits := congrArg String.toList ((String.append_right_inj _).mp h)
  rw [Nat.toList_repr, Nat.toList_repr] at hdigits
  have hvalue := congrArg (fun digits => Nat.ofDigitChars 10 digits 0) hdigits
  rw [Nat.ofDigitChars_toDigits (by decide) (by decide),
    Nat.ofDigitChars_toDigits (by decide) (by decide)] at hvalue
  exact UInt32.toNat_inj.mp hvalue

section Steps

variable {minted : DWORD → PortMappingPayload → Prop} {s : Handoff} {i j : ThreadId} {pid : DWORD}

/-- The sections change, and what is watched of the reads. -/
lemma Sound.sections (hs : Sound minted s)
    {sections : NamedObjects ThreadId String (ℕ → UInt8)} {watch : PublishWatch}
    (hwriting : watch.writing = s.watch.writing) (hmixed : watch.mixed = s.watch.mixed)
    (hkept : ∀ pid mapping, s.handles pid = some mapping → mapping ∈ sections.opened)
    (hcontents : ∀ pid mapping, s.handles pid = some mapping → s.Settled pid →
      sections.contents mapping.object = s.sections.contents mapping.object)
    (hoctets : ∀ mapping ∈ sections.opened, ∀ pid, mapping.name = getPortMappingName pid →
      ∀ k, Traced minted pid k (sections.contents mapping.object k)) :
    Sound minted { s with sections, watch } where
  kept pid mapping h := ⟨hkept pid mapping h, (hs.kept pid mapping h).2⟩
  recorded := hs.recorded
  token := hs.token
  settled := by
    intro pid payload mapping hlookup hhandle hsettled k hk
    have hbefore : s.Settled pid := by
      rw [Settled, ← hwriting, ← hmixed]
      exact hsettled
    dsimp only
    rw [hcontents pid mapping hhandle hbefore]
    exact hs.settled pid payload mapping hlookup hhandle hbefore k hk
  crowd := by
    dsimp only
    rw [hwriting, hmixed]
    exact hs.crowd
  octets := hoctets
  hellos := hs.hellos

/-- The sections change, and a thread leaves alone what another relies on. -/
lemma rely_sections {sections : NamedObjects ThreadId String (ℕ → UInt8)}
    {watch : PublishWatch} (hwriting : watch.writing = s.watch.writing)
    (hmixed : watch.mixed = s.watch.mixed) (hepoch : watch.epoch = s.watch.epoch)
    (hopened : watch.opened j = s.watch.opened j)
    (howned : ∀ mapping, Owned j mapping s → mapping ∈ sections.opened)
    (hcontents : ∀ pid mapping, j ∈ s.watch.writing pid → Owned j mapping s →
      mapping.name = getPortMappingName pid → s.watch.mixed pid = false →
        sections.contents mapping.object = s.sections.contents mapping.object) :
    Rely j s { s with sections, watch } where
  owned mapping h := ⟨howned mapping h, h.2⟩
  writing pid := by
    dsimp only
    rw [hwriting]
  contents := by
    intro pid mapping hown hopen hname hclear
    dsimp only at hclear ⊢
    rw [hmixed] at hclear
    exact ⟨hclear, hcontents pid mapping hown hopen hname hclear⟩
  epoch pid := by
    dsimp only
    rw [hepoch]
  quiet := by
    intro pid _
    dsimp only
    rw [hwriting, hmixed]
    exact ⟨rfl, rfl, rfl⟩
  opened := hopened

/-- A section, with what it does to the state that the others have left. -/
lemma relies_section {c : HandoffCall} {Q : Handoff → c.Answer → Prop}
    (hstep : ∀ t, Sound minted t → Rely i s t → Sound minted (after c t) ∧
      (∀ j, j ≠ i → Rely j t (after c t)) ∧ Q (after c t) (perform c t).1) :
    (ask c).Relies exec (promises minted) i Q s := by
  refine Prog.relies_ask fun t x t' hsound hrely hexec => ?_
  obtain ⟨rfl, rfl⟩ := Prod.mk.inj (Option.some.inj hexec)
  exact hstep t hsound hrely

/-! ## Handles -/

/-- The thread has the handle to itself, and it is on the section of the process. -/
def Holds (i : ThreadId) (pid : DWORD) (mapping : Mapping) (s : Handoff) : Prop :=
  Owned i mapping s ∧ mapping.name = getPortMappingName pid

variable (i pid) in
/-- A handle is opened on a section whose octets are in order. -/
lemma opens_handle (hs : Sound minted s) (watch : PublishWatch) {mapping : Mapping}
    {sections : NamedObjects ThreadId String (ℕ → UInt8)}
    (hopened : sections.opened = mapping :: s.sections.opened)
    (hnew : mapping ∉ s.sections.opened) (hopener : mapping.opener = i)
    (hname : mapping.name = getPortMappingName pid)
    (hcontents : ∀ h ∈ s.sections.opened,
      sections.contents h.object = s.sections.contents h.object)
    (hoctets : ∀ k, Traced minted pid k (sections.contents mapping.object k))
    (hwriting : watch.writing = s.watch.writing) (hmixed : watch.mixed = s.watch.mixed)
    (hepoch : watch.epoch = s.watch.epoch)
    (hothers : ∀ j, j ≠ i → watch.opened j = s.watch.opened j) :
    Sound minted { s with sections, watch } ∧ (∀ j, j ≠ i → Rely j s { s with sections, watch }) ∧
      Holds i pid mapping { s with sections, watch } := by
  have hold : ∀ h ∈ s.sections.opened, h ∈ sections.opened := by
    intro h hopen
    rw [hopened]
    exact List.mem_cons_of_mem _ hopen
  refine ⟨hs.sections hwriting hmixed (fun pid' h hkept => hold h (hs.kept pid' h hkept).1)
    (fun pid' h hkept _ => hcontents h (hs.kept pid' h hkept).1) ?_, fun j hj => ?_, ?_⟩
  · intro h hopen pid' hname' k
    rw [hopened, List.mem_cons] at hopen
    rcases hopen with rfl | hopen
    · obtain rfl : pid = pid' := getPortMappingName_inj.mp (hname.symm.trans hname')
      exact hoctets k
    · rw [hcontents h hopen]
      exact hs.octets h hopen pid' hname' k
  · exact rely_sections hwriting hmixed hepoch (hothers j hj) (fun h hown => hold h hown.1)
      fun _ h _ hown _ _ => hcontents h hown.1
  · refine ⟨⟨?_, hopener, fun pid' hkept => hnew (hs.kept pid' mapping hkept).1⟩, hname⟩
    dsimp only
    rw [hopened]
    exact List.mem_cons_self

/-- The section of a process is created or opened. -/
lemma relies_createMapping : (ask (.createMapping i pid)).Relies exec (promises minted) i
    (fun t mapping => Holds i pid mapping t) s := by
  refine relies_section fun t hs _ => ?_
  obtain ⟨o, hmapping, hopened, hcontents, horigin⟩ :=
    t.sections.create_spec i (getPortMappingName pid) zeros
  have hanswer : (perform (.createMapping i pid) t).1 = t.sections.nextHandle i
      (getPortMappingName pid) o := hmapping
  rw [hanswer]
  refine opens_handle i pid hs t.watch hopened (t.sections.nextHandle_notMem _ _ _) rfl rfl
    hcontents (fun k => ?_) rfl rfl rfl fun _ _ => rfl
  rcases horigin with ⟨h, hopen, hname, hobject⟩ | hzeros
  · have hold := hs.octets h hopen pid hname k
    rw [← hcontents h hopen, hobject] at hold
    exact hold
  · exact Or.inl (congrFun hzeros k)

/-- A thread closes a handle of its own. -/
lemma relies_closeHandle {mapping : Mapping} {R : Handoff → Prop} (hown : Owned i mapping s)
    (hR : ∀ t, Rely i s t → R { t with sections := t.sections.close mapping }) :
    (ask (.closeHandle mapping)).Relies exec (promises minted) i (fun t _ => R t) s := by
  refine relies_section fun t hs hrely => ?_
  obtain ⟨-, hopener, hnotkept⟩ := hrely.owned mapping hown
  have hleft : ∀ h ∈ t.sections.opened, h ≠ mapping → h ∈ (t.sections.close mapping).opened :=
    fun h hopen hne => NamedObjects.mem_close.mpr ⟨hne, hopen⟩
  refine ⟨?_, fun j hj => ?_, hR t hrely⟩
  · refine hs.sections rfl rfl (fun pid' h hkept => ?_) (fun _ _ _ _ => rfl) fun h hopen => ?_
    · refine hleft h (hs.kept pid' h hkept).1 ?_
      rintro rfl
      exact hnotkept pid' hkept
    · exact hs.octets h (NamedObjects.mem_close.mp hopen).2
  · refine rely_sections rfl rfl rfl rfl (fun h hown' => ?_) fun _ _ _ _ _ _ => rfl
    refine hleft h hown'.1 ?_
    rintro rfl
    exact hj (hown'.2.1.symm.trans hopener)

/-! ## Publishing -/

/-- A thread that writes has a handle of its own on the section, and unless publishes overlap, the
octets are there that it has written. -/
structure Writing (i : ThreadId) (pid : DWORD) (mapping : Mapping) (payload : PortMappingPayload)
    (written : List ℕ) (s : Handoff) : Prop where
  holds : Holds i pid mapping s
  writing : i ∈ s.watch.writing pid
  written : s.watch.mixed pid = false → ∀ k ∈ written,
    s.sections.contents mapping.object k = payload.octet k

/-- The others do not disturb a thread that writes. -/
lemma Writing.later {t : Handoff} {mapping : Mapping} {payload : PortMappingPayload}
    {written : List ℕ} (h : Writing i pid mapping payload written s) (hrely : Rely i s t) :
    Writing i pid mapping payload written t where
  holds := ⟨hrely.owned mapping h.holds.1, h.holds.2⟩
  writing := (hrely.writing pid).mpr h.writing
  written := by
    intro hmixed k hk
    obtain ⟨hmixed', hsame⟩ := hrely.contents pid mapping h.writing h.holds.1 h.holds.2 hmixed
    rw [hsame]
    exact h.written hmixed' k hk

/-- The others do not disturb a handle. -/
lemma Holds.later {t : Handoff} {mapping : Mapping} (h : Holds i pid mapping s)
    (hrely : Rely i s t) : Holds i pid mapping t := ⟨hrely.owned mapping h.1, h.2⟩

/-- A thread begins to write. -/
lemma begins_writing (hs : Sound minted s) {mapping : Mapping} (hholds : Holds i pid mapping s)
    (payload : PortMappingPayload) :
    let watch := observe s.watch (.mapForWriting i pid mapping true) (some mapping.object)
    let t := { s with watch }
    Sound minted t ∧ (∀ j, j ≠ i → Rely j s t) ∧ Writing i pid mapping payload [] t := by
  intro watch t
  have hwriting : t.watch.writing pid = insert i (s.watch.writing pid) :=
    Function.update_self _ _ _
  have hmixed : t.watch.mixed pid = decide (s.watch.writing pid ≠ ∅) := Function.update_self _ _ _
  have hwriting' {pid' : DWORD} (hne : pid' ≠ pid) :
      t.watch.writing pid' = s.watch.writing pid' := Function.update_of_ne hne _ _
  have hmixed' {pid' : DWORD} (hne : pid' ≠ pid) : t.watch.mixed pid' = s.watch.mixed pid' :=
    Function.update_of_ne hne _ _
  refine ⟨⟨hs.kept, hs.recorded, hs.token, ?_, ?_, hs.octets, hs.hellos⟩, fun j hj => ?_, ?_⟩
  · rintro pid' published handle hlookup hkept ⟨hnobody, hclear⟩
    have hne : pid' ≠ pid := by
      rintro rfl
      rw [hwriting] at hnobody
      exact Finset.insert_ne_empty _ _ hnobody
    rw [hwriting' hne] at hnobody
    rw [hmixed' hne] at hclear
    exact hs.settled pid' published handle hlookup hkept ⟨hnobody, hclear⟩
  · intro pid' j k hj hk hne
    by_cases hpid : pid' = pid
    · subst hpid
      rw [hmixed, decide_eq_true_eq]
      rw [hwriting] at hj hk
      intro hnobody
      rw [hnobody] at hj hk
      exact hne ((Finset.mem_singleton.mp hj).trans (Finset.mem_singleton.mp hk).symm)
    · rw [hwriting' hpid] at hj hk
      rw [hmixed' hpid]
      exact hs.crowd pid' j k hj hk hne
  · refine ⟨fun _ h => h, fun pid' => ?_, fun pid' handle hown _ _ hclear => ?_, fun pid' => ?_,
      fun pid' hsame => ?_, rfl⟩
    · by_cases hpid : pid' = pid
      · subst hpid
        rw [hwriting, Finset.mem_insert]
        exact ⟨fun h => h.resolve_left hj, Or.inr⟩
      · rw [hwriting' hpid]
    · have hpid : pid' ≠ pid := by
        rintro rfl
        rw [hmixed, decide_eq_false_iff_not, not_not] at hclear
        rw [hclear] at hown
        exact absurd hown (Finset.notMem_empty j)
      rw [hmixed' hpid] at hclear
      exact ⟨hclear, rfl⟩
    · change _ ≤ Function.update s.watch.epoch pid (s.watch.epoch pid + 1) pid'
      by_cases hpid : pid' = pid
      · subst hpid
        rw [Function.update_self]
        exact Nat.le_succ _
      · rw [Function.update_of_ne hpid]
    · have hpid : pid' ≠ pid := by
        rintro rfl
        change Function.update s.watch.epoch pid' _ pid' = _ at hsame
        rw [Function.update_self] at hsame
        exact Nat.succ_ne_self _ hsame
      exact ⟨hwriting' hpid, hmixed' hpid, rfl⟩
  · refine ⟨hholds, ?_, fun _ => nofun⟩
    rw [hwriting]
    exact Finset.mem_insert_self _ _

/-- The section is viewed for writing, if that is granted. -/
lemma relies_mapForWriting {mapping : Mapping} (hholds : Holds i pid mapping s) (granted : Bool)
    (payload : PortMappingPayload) :
    (ask (.mapForWriting i pid mapping granted)).Relies exec (promises minted) i
      (fun t view => (view = none ∧ Holds i pid mapping t) ∨
        (view = some mapping.object ∧ Writing i pid mapping payload [] t)) s := by
  refine relies_section fun t hs hrely => ?_
  have hholds' := hholds.later hrely
  cases granted with
  | false => exact ⟨hs, fun j _ => rely_refl j t, Or.inl ⟨rfl, hholds'⟩⟩
  | true =>
    have hview : (perform (.mapForWriting i pid mapping true) t).1 = some mapping.object :=
      if_pos ⟨rfl, hholds'.1.1⟩
    obtain ⟨hsound, hothers, hwriting⟩ := begins_writing hs hholds' payload
    rw [after, hview]
    exact ⟨hsound, hothers, Or.inr ⟨rfl, hwriting⟩⟩

/-- One octet is written. -/
lemma relies_poke {mapping : Mapping} {payload : PortMappingPayload} {written : List ℕ}
    (hminted : minted pid payload) (hs : Writing i pid mapping payload written s) (k : ℕ) :
    (ask (.poke mapping.object k (payload.octet k))).Relies exec (promises minted) i
      (fun t _ => Writing i pid mapping payload (written ++ [k]) t) s := by
  refine relies_section fun t hsound hrely => ?_
  obtain ⟨⟨⟨hopen, hopener, hnotkept⟩, hname⟩, hwriting, hwritten⟩ := hs.later hrely
  have hself (k' : ℕ) : (after (.poke mapping.object k (payload.octet k)) t).sections.contents
      mapping.object k' =
        Function.update (t.sections.contents mapping.object) k (payload.octet k) k' :=
    congrFun (Function.update_self _ _ _) k'
  have hother {h : Mapping} (hopen' : h ∈ t.sections.opened) (hne : h.name ≠ mapping.name) :
      (after (.poke mapping.object k (payload.octet k)) t).sections.contents h.object =
        t.sections.contents h.object := NamedObjects.contents_write hopen hopen' hne _
  refine ⟨?_, fun j hj => ?_, ⟨⟨⟨hopen, hopener, hnotkept⟩, hname⟩, hwriting, ?_⟩⟩
  · refine hsound.sections rfl rfl (fun pid' h hkept => (hsound.kept pid' h hkept).1)
      (fun pid' h hkept hsettled => ?_) fun h hopen' pid' hname' k' => ?_
    · obtain ⟨hopen', hname'⟩ := hsound.kept pid' h hkept
      refine hother hopen' fun hsame => ?_
      obtain rfl : pid' = pid := getPortMappingName_inj.mp (hname'.symm.trans (hsame.trans hname))
      rw [hsettled.1] at hwriting
      exact absurd hwriting (Finset.notMem_empty i)
    · by_cases hsame : h.name = mapping.name
      · obtain rfl : pid' = pid :=
          getPortMappingName_inj.mp (hname'.symm.trans (hsame.trans hname))
        have hobject := (t.sections.name_iff h hopen' mapping hopen).mp hsame
        have hold := hsound.octets mapping hopen pid' hname k'
        change Traced minted pid' k' ((after (.poke mapping.object k (payload.octet k))
          t).sections.contents h.object k')
        rw [hobject, hself, Function.update_apply]
        split_ifs with hk
        · exact Or.inr ⟨payload, hminted, by rw [hk]⟩
        · exact hold
      · have hold := hsound.octets h hopen' pid' hname' k'
        rw [← hother hopen' hsame] at hold
        exact hold
  · refine rely_sections rfl rfl rfl rfl (fun h hown => hown.1) fun pid' h hown hown' hname' hclear
      => hother hown'.1 fun hsame => ?_
    obtain rfl : pid' = pid := getPortMappingName_inj.mp (hname'.symm.trans (hsame.trans hname))
    rw [hsound.crowd pid' j i hown hwriting hj] at hclear
    cases hclear
  · intro hclear k' hk'
    rw [hself, Function.update_apply]
    split_ifs with hk
    · rw [hk]
    · refine hwritten hclear k' ?_
      rcases List.mem_append.mp hk' with hold | hnew
      · exact hold
      · exact absurd (List.mem_singleton.mp hnew) hk

/-- The octets are written one after the other. -/
lemma relies_writeOctets {mapping : Mapping} {payload : PortMappingPayload}
    (hminted : minted pid payload) {written : List ℕ} (rest : List ℕ)
    (hs : Writing i pid mapping payload written s) :
    (writeOctets mapping.object payload rest).Relies exec (promises minted) i
      (fun t _ => Writing i pid mapping payload (written ++ rest) t) s := by
  induction rest generalizing s written with
  | nil =>
    rw [List.append_nil]
    exact hs
  | cons k rest ih =>
    refine Prog.relies_bind (relies_poke hminted hs k) fun t _ ht => ?_
    have hrest := ih ht
    rw [List.append_assoc, List.singleton_append] at hrest
    exact hrest

/-! ## The record -/

/-- The handles that are open when the one that is kept for a process is closed. -/
lemma mem_released {h : Mapping} :
    h ∈ (s.released pid).opened ↔ h ∈ s.sections.opened ∧ s.handles pid ≠ some h := by
  unfold released
  cases s.handles pid with
  | none => simp
  | some kept =>
    dsimp only
    rw [NamedObjects.mem_close, Ne, Ne, Option.some.injEq, @eq_comm _ kept]
    exact And.comm

/-- The contents of the sections stay when a handle is closed. -/
lemma contents_released : (s.released pid).contents = s.sections.contents := by
  unfold released
  cases s.handles pid with
  | none => rfl
  | some kept => rfl

variable (i pid) in
/-- The record of a process is replaced, by that of a thread that has written, or by none. -/
lemma replaces_record (hs : Sound minted s) (injector : Injector) (watch : PublishWatch)
    (new : Option (Mapping × PortMappingPayload))
    (hself : injector.mappings.lookup pid = new.map Prod.snd)
    (htoken : ∀ payload, injector.mappings.lookup pid = some payload →
      injector.tokens.lookup pid = some payload.injectionToken)
    (hothers : ∀ pid', pid' ≠ pid →
      injector.mappings.lookup pid' = s.injector.mappings.lookup pid' ∧
        injector.tokens.lookup pid' = s.injector.tokens.lookup pid')
    (hnew : ∀ mapping payload, new = some (mapping, payload) →
      Writing i pid mapping payload (List.range getPortMappingPayloadSize) s ∧ minted pid payload)
    (hsubset : ∀ pid', watch.writing pid' ⊆ s.watch.writing pid')
    (hleft : ∀ j, j ≠ i → ∀ pid', j ∈ s.watch.writing pid' → j ∈ watch.writing pid')
    (hwriting : ∀ pid', pid' ≠ pid → watch.writing pid' = s.watch.writing pid')
    (hmixed : watch.mixed = s.watch.mixed)
    (hepoch : watch.epoch = Function.update s.watch.epoch pid (s.watch.epoch pid + 1))
    (hopened : watch.opened = s.watch.opened) :
    let handles := Function.update s.handles pid (new.map Prod.fst)
    let t := { s with sections := s.released pid, injector, handles, watch }
    Sound minted t ∧ ∀ j, j ≠ i → Rely j s t := by
  intro handles t
  have hhandle : t.handles pid = new.map Prod.fst := Function.update_self _ _ _
  have hhandle' {pid' : DWORD} (hne : pid' ≠ pid) : t.handles pid' = s.handles pid' :=
    Function.update_of_ne hne _ _
  have hcontents : t.sections.contents = s.sections.contents := contents_released
  refine ⟨⟨fun pid' h hkept => ?_, fun pid' => ?_, fun pid' payload hlookup => ?_,
    fun pid' payload h hlookup hkept hsettled k hk => ?_, fun pid' j k hj hk hne => ?_,
    fun h hopen pid' hname k => ?_, hs.hellos⟩, fun j hj => ?_⟩
  · by_cases hpid : pid' = pid
    · subst hpid
      rw [hhandle] at hkept
      obtain ⟨⟨_, payload⟩, rfl, rfl⟩ := Option.map_eq_some_iff.mp hkept
      obtain ⟨⟨hopen, -, hnotkept⟩, hname⟩ := (hnew _ payload rfl).1.holds
      exact ⟨mem_released.mpr ⟨hopen, hnotkept pid'⟩, hname⟩
    · rw [hhandle' hpid] at hkept
      obtain ⟨hopen, hname⟩ := hs.kept pid' h hkept
      refine ⟨mem_released.mpr ⟨hopen, fun hsame => hpid ?_⟩, hname⟩
      exact getPortMappingName_inj.mp (hname.symm.trans (hs.kept pid h hsame).2)
  · rw [← AList.lookup_isSome]
    by_cases hpid : pid' = pid
    · subst hpid
      rw [hhandle, Option.isSome_map]
      change ((injector.mappings.lookup pid').isSome : Prop) ↔ _
      rw [hself, Option.isSome_map]
    · rw [hhandle' hpid, ← hs.recorded pid', ← AList.lookup_isSome]
      change ((injector.mappings.lookup pid').isSome : Prop) ↔ _
      rw [(hothers pid' hpid).1]
  · by_cases hpid : pid' = pid
    · subst hpid
      refine ⟨htoken payload hlookup, ?_⟩
      change injector.mappings.lookup pid' = _ at hlookup
      rw [hself] at hlookup
      obtain ⟨⟨h, _⟩, hsome, rfl⟩ := Option.map_eq_some_iff.mp hlookup
      exact (hnew h _ hsome).2
    · obtain ⟨hmapping, htoken'⟩ := hothers pid' hpid
      change injector.mappings.lookup pid' = _ at hlookup
      rw [hmapping] at hlookup
      obtain ⟨hold, hminted⟩ := hs.token pid' payload hlookup
      exact ⟨htoken'.trans hold, hminted⟩
  · rw [hcontents]
    have hclear : s.watch.mixed pid' = false := by
      rw [← hmixed]
      exact hsettled.2
    by_cases hpid : pid' = pid
    · subst hpid
      rw [hhandle] at hkept
      obtain ⟨⟨_, published⟩, rfl, rfl⟩ := Option.map_eq_some_iff.mp hkept
      change injector.mappings.lookup pid' = _ at hlookup
      rw [hself] at hlookup
      obtain rfl : published = payload := Option.some.inj hlookup
      exact (hnew _ published rfl).1.written hclear k (List.mem_range.mpr hk)
    · rw [hhandle' hpid] at hkept
      change injector.mappings.lookup pid' = _ at hlookup
      rw [(hothers pid' hpid).1] at hlookup
      refine hs.settled pid' payload h hlookup hkept ⟨?_, hclear⟩ k hk
      rw [← hwriting pid' hpid]
      exact hsettled.1
  · change watch.mixed pid' = true
    rw [hmixed]
    exact hs.crowd pid' j k (hsubset pid' hj) (hsubset pid' hk) hne
  · rw [hcontents]
    exact hs.octets h (mem_released.mp hopen).1 pid' hname k
  · refine ⟨fun h hown => ⟨?_, hown.2.1, fun pid' => ?_⟩, fun pid' => ?_,
      fun pid' h _ _ _ hclear => ?_, fun pid' => ?_, fun pid' hsame => ?_, congrFun hopened j⟩
    · exact mem_released.mpr ⟨hown.1, hown.2.2 pid⟩
    · by_cases hpid : pid' = pid
      · subst hpid
        rw [hhandle]
        intro hkept
        obtain ⟨⟨_, payload⟩, hsome, rfl⟩ := Option.map_eq_some_iff.mp hkept
        exact hj (hown.2.1.symm.trans (hnew _ payload hsome).1.holds.1.2.1)
      · rw [hhandle' hpid]
        exact hown.2.2 pid'
    · exact ⟨fun h => hsubset pid' h, hleft j hj pid'⟩
    · change watch.mixed pid' = false at hclear
      rw [hmixed] at hclear
      exact ⟨hclear, congrFun hcontents _⟩
    · change _ ≤ watch.epoch pid'
      rw [hepoch, Function.update_apply]
      split_ifs with hpid
      · rw [hpid]
        exact Nat.le_succ _
      · exact Nat.le_refl _
    · change watch.epoch pid' = _ at hsame
      have hpid : pid' ≠ pid := by
        rintro rfl
        rw [hepoch, Function.update_self] at hsame
        exact Nat.succ_ne_self _ hsame
      exact ⟨hwriting pid' hpid, congrFun hmixed pid', (hothers pid' hpid).1⟩

/-- What was written is recorded. -/
lemma relies_record {mapping : Mapping} {payload : PortMappingPayload}
    (hminted : minted pid payload)
    (hs : Writing i pid mapping payload (List.range getPortMappingPayloadSize) s) :
    (ask (.record i pid payload mapping)).Relies exec (promises minted) i (fun _ _ => True) s := by
  refine relies_section fun t hsound hrely => ?_
  have hwriting := hs.later hrely
  suffices h : Sound minted (after (.record i pid payload mapping) t) ∧
      ∀ j, j ≠ i → Rely j t (after (.record i pid payload mapping) t) from ⟨h.1, h.2, trivial⟩
  refine replaces_record i pid hsound (t.injector.record pid payload)
    (observe t.watch (.record i pid payload mapping) ()) (some (mapping, payload))
    (AList.lookup_insert _) (fun published hlookup => ?_)
    (fun pid' hne => ⟨AList.lookup_insert_ne hne, AList.lookup_insert_ne hne⟩) ?_
    (fun pid' j hj => ?_) (fun j hj pid' hown => ?_) (fun pid' hne => Function.update_of_ne hne _ _)
    rfl rfl rfl
  · have hself : (t.injector.record pid payload).mappings.lookup pid = some payload :=
      AList.lookup_insert _
    rw [← Option.some.inj (hself.symm.trans hlookup)]
    exact t.injector.lookup_record pid payload
  · rintro _ _ ⟨⟩
    exact ⟨hwriting, hminted⟩
  · change j ∈ Function.update t.watch.writing pid ((t.watch.writing pid).erase i) pid' at hj
    rw [Function.update_apply] at hj
    split_ifs at hj with hpid
    · rw [hpid]
      exact Finset.mem_of_mem_erase hj
    · exact hj
  · change j ∈ Function.update t.watch.writing pid ((t.watch.writing pid).erase i) pid'
    rw [Function.update_apply]
    split_ifs with hpid
    · rw [hpid] at hown
      exact Finset.mem_erase.mpr ⟨hj, hown⟩
    · exact hown

/-- A record is forgotten. -/
lemma forgets_record (hs : Sound minted s) (pid : DWORD) :
    Sound minted (after (.forgetToken pid) s) ∧
      ∀ j, j ≠ i → Rely j s (after (.forgetToken pid) s) := by
  have hnone : (s.injector.forgetToken pid).mappings.lookup pid = none := AList.lookup_erase _ _
  refine replaces_record i pid hs (s.injector.forgetToken pid)
    (observe s.watch (.forgetToken pid) ()) none hnone (fun payload hlookup => ?_)
    (fun pid' hne => ⟨AList.lookup_erase_ne hne, AList.lookup_erase_ne hne⟩) nofun
    (fun _ _ h => h) (fun _ _ _ h => h) (fun _ _ => rfl) rfl rfl rfl
  rw [hnone] at hlookup
  cases hlookup

/-- `forget_token`. -/
lemma relies_forgetToken (pid : DWORD) :
    (ask (.forgetToken pid)).Relies exec (promises minted) i (fun _ _ => True) s := by
  refine relies_section fun t hs _ => ?_
  obtain ⟨hafter, hothers⟩ := forgets_record (i := i) hs pid
  exact ⟨hafter, hothers, trivial⟩

/-- `forget_bootstrap`. -/
lemma relies_forgetBootstrap (pid : DWORD) (token : Bytes) :
    (ask (.forgetBootstrap pid token)).Relies exec (promises minted) i (fun _ _ => True) s := by
  refine relies_section fun t hs _ => ?_
  by_cases hlatest : t.injector.tokens.lookup pid = some token
  · have hafter : after (.forgetBootstrap pid token) t = after (.forgetToken pid) t := by
      have hforgotten : t.injector.forgetBootstrap pid token =
          (t.injector.forgetToken pid, true) := if_pos hlatest
      simp only [after, perform, hforgotten, if_true, observe]
    rw [hafter]
    obtain ⟨hsound, hothers⟩ := forgets_record (i := i) hs pid
    exact ⟨hsound, hothers, trivial⟩
  · have hafter : after (.forgetBootstrap pid token) t = t := by
      have hforgotten : t.injector.forgetBootstrap pid token = (t.injector, false) :=
        if_neg hlatest
      simp only [after, perform, hforgotten, Bool.false_eq_true, if_false, observe]
    rw [hafter]
    exact ⟨hs, fun j _ => rely_refl j t, trivial⟩

/-- `publish` keeps to what is promised. -/
lemma relies_publish {port : UInt16} {host : InjectHost}
    (hminted : ∀ token, host.random = some token → minted pid { port, token }) :
    (publish i pid port host).Relies exec (promises minted) i (fun _ _ => True) s := by
  unfold publish
  cases hrandom : host.random with
  | none => trivial
  | some token =>
    dsimp only
    split_ifs
    · refine Prog.relies_bind relies_createMapping fun s mapping hs => ?_
      refine Prog.relies_bind (relies_mapForWriting hs host.view { port, token }) ?_
      rintro s view (⟨rfl, hs⟩ | ⟨rfl, hs⟩)
      · exact Prog.relies_bind (relies_closeHandle (R := fun _ => True) hs.1 fun _ _ => trivial)
          fun _ _ _ => trivial
      · refine Prog.relies_bind (relies_writeOctets (hminted token hrandom) _ hs) fun s _ hs => ?_
        exact Prog.relies_bind (relies_record (hminted token hrandom) hs) fun _ _ _ => trivial
    · trivial

/-- `load_into` keeps to what is promised. -/
lemma relies_loadInto {token : Bytes} {host : InjectHost} :
    (loadInto pid token host).Relies exec (promises minted) i (fun _ _ => True) s := by
  have hfailed : (do
      let _ : Bool ← ask (.forgetBootstrap pid token)
      return false : HandoffThread Bool).Relies exec (promises minted) i (fun _ _ => True) s :=
    Prog.relies_bind (relies_forgetBootstrap pid token) fun _ _ _ => trivial
  unfold loadInto
  cases host.load with
  | late resident =>
    dsimp only
    split_ifs
    · trivial
    · exact hfailed
  | exited moduleHandle =>
    cases moduleHandle with
    | none => exact hfailed
    | some moduleHandle =>
      dsimp only
      split_ifs
      · exact hfailed
      · trivial
  | _ => exact hfailed

/-- `inject` keeps to what is promised. -/
lemma relies_inject {port : UInt16} {host : InjectHost}
    (hminted : ∀ token, host.random = some token → minted pid { port, token }) :
    (inject i pid port host).Relies exec (promises minted) i (fun _ _ => True) s := by
  unfold inject
  split_ifs
  · refine Prog.relies_bind (relies_publish hminted) fun s token _ => ?_
    cases token with
    | none => trivial
    | some token => exact relies_loadInto
  · trivial

/-! ## Reading -/

variable (minted) in
/-- The octets that were read: each was published for the process, and where nobody has touched the
bootstrap since the mapping was opened, they are those of the record. -/
structure Got (i : ThreadId) (pid : DWORD) (read : List ℕ) (octets : ℕ → UInt8) (s : Handoff) :
    Prop where
  traced : ∀ k, Traced minted pid k (octets k)
  epoch : s.watch.opened i ≤ s.watch.epoch pid
  exact : s.watch.epoch pid = s.watch.opened i → s.Settled pid → ∀ payload,
    s.injector.mappings.lookup pid = some payload → ∀ k ∈ read, octets k = payload.octet k

/-- The others do not disturb what was read. -/
lemma Got.later {t : Handoff} {read : List ℕ} {octets : ℕ → UInt8}
    (h : Got minted i pid read octets s) (hrely : Rely i s t) :
    Got minted i pid read octets t where
  traced := h.traced
  epoch := by
    rw [hrely.opened]
    exact Nat.le_trans h.epoch (hrely.epoch pid)
  exact := by
    rintro hsame ⟨hnobody, hclear⟩ payload hlookup k hk
    rw [hrely.opened] at hsame
    have hfirst := h.epoch
    have hsecond := hrely.epoch pid
    obtain ⟨hwriting, hmixed, hmapping⟩ := hrely.quiet pid (by omega)
    rw [hwriting] at hnobody
    rw [hmixed] at hclear
    rw [hmapping] at hlookup
    exact h.exact (by omega) ⟨hnobody, hclear⟩ payload hlookup k hk

/-- Nothing is read yet. -/
lemma got_nil (h : s.watch.opened i ≤ s.watch.epoch pid) : Got minted i pid [] zeros s where
  traced _ := Or.inl rfl
  epoch := h
  exact _ _ _ _ := nofun

/-- The section of a process is opened, if it is there and that is granted. -/
lemma relies_openMapping (granted : Bool) :
    (ask (.openMapping i pid granted)).Relies exec (promises minted) i
      (fun t mapping => Got minted i pid [] zeros t ∧
        ∀ h, mapping = some h → Holds i pid h t) s := by
  refine relies_section fun t hs _ => ?_
  have hopened : Function.update t.watch.opened i (t.watch.epoch pid) i ≤ t.watch.epoch pid := by
    rw [Function.update_self]
  have hothers (j : ThreadId) (hj : j ≠ i) :
      Function.update t.watch.opened i (t.watch.epoch pid) j = t.watch.opened j :=
    Function.update_of_ne hj _ _
  have hsame : Sound minted { t with watch := observe t.watch (.openMapping i pid granted) none } ∧
      ∀ j, j ≠ i →
        Rely j t { t with watch := observe t.watch (.openMapping i pid granted) none } :=
    ⟨hs.sections rfl rfl (fun pid' h hkept => (hs.kept pid' h hkept).1) (fun _ _ _ _ => rfl)
      hs.octets, fun j hj => rely_sections rfl rfl rfl (hothers j hj) (fun _ h => h.1)
        fun _ _ _ _ _ _ => rfl⟩
  cases granted with
  | false => exact ⟨hsame.1, hsame.2, got_nil hopened, nofun⟩
  | true =>
    rcases t.sections.openNamed_spec i (getPortMappingName pid) with
      ⟨hnone, -⟩ | ⟨o, hlookup, hmapping, hlisted, hcontents⟩
    · have hperform : perform (.openMapping i pid true) t = (none, t) := by
        simp only [perform, hnone, if_true]
      rw [after, hperform]
      exact ⟨hsame.1, hsame.2, got_nil hopened, nofun⟩
    · have hanswer : (perform (.openMapping i pid true) t).1 =
          some (t.sections.nextHandle i (getPortMappingName pid) o) := hmapping
      obtain ⟨h, hopen, hname, rfl⟩ := NamedObjects.exists_of_lookup hlookup
      have hoctets (k : ℕ) : Traced minted pid k
          ((t.sections.openNamed i (getPortMappingName pid)).1.contents h.object k) := by
        rw [hcontents]
        exact hs.octets h hopen pid hname k
      obtain ⟨hsound, hrely, hholds⟩ := opens_handle i pid hs
        (observe t.watch (.openMapping i pid true) none) hlisted
        (t.sections.nextHandle_notMem _ _ _) rfl rfl (fun _ _ => congrFun hcontents _) hoctets
        rfl rfl rfl hothers
      rw [hanswer]
      refine ⟨hsound, hrely, got_nil hopened, ?_⟩
      rintro _ ⟨⟩
      exact hholds

/-- The section is viewed for reading, if that is granted. -/
lemma relies_mapForReading {mapping : Mapping} (hholds : Holds i pid mapping s) (granted : Bool)
    (hgot : Got minted i pid [] zeros s) :
    (ask (.mapForReading mapping granted)).Relies exec (promises minted) i
      (fun t view => (view = none ∨ view = some mapping.object) ∧ Holds i pid mapping t ∧
        Got minted i pid [] zeros t) s := by
  refine relies_section fun t hs hrely => ?_
  refine ⟨hs, fun j _ => rely_refl j t, ?_, hholds.later hrely, hgot.later hrely⟩
  rw [perform]
  dsimp only
  split_ifs
  · exact Or.inr rfl
  · exact Or.inl rfl

/-- One octet is read. -/
lemma relies_peek {mapping : Mapping} {read : List ℕ} {octets : ℕ → UInt8}
    (hholds : Holds i pid mapping s) (hgot : Got minted i pid read octets s) {k : ℕ}
    (hk : k < getPortMappingPayloadSize) :
    (ask (.peek mapping.object k)).Relies exec (promises minted) i
      (fun t octet => Holds i pid mapping t ∧
        Got minted i pid (k :: read) (Function.update octets k octet) t) s := by
  refine relies_section fun t hs hrely => ?_
  obtain ⟨⟨hopen, hopener, hnotkept⟩, hname⟩ := hholds.later hrely
  have hgot' := hgot.later hrely
  refine ⟨hs, fun j _ => rely_refl j t, ⟨⟨hopen, hopener, hnotkept⟩, hname⟩, ⟨fun k' => ?_,
    hgot'.epoch, fun hsame hsettled payload hlookup k' hk' => ?_⟩⟩
  · rw [Function.update_apply]
    split_ifs with hk'
    · rw [hk']
      exact hs.octets mapping hopen pid hname k
    · exact hgot'.traced k'
  · rw [Function.update_apply]
    split_ifs with hlast
    · have hsome : (t.handles pid).isSome := by
        rw [← hs.recorded, ← AList.lookup_isSome]
        exact Option.isSome_iff_exists.mpr ⟨payload, hlookup⟩
      obtain ⟨h, hkept⟩ := Option.isSome_iff_exists.mp hsome
      obtain ⟨hopen', hname'⟩ := hs.kept pid h hkept
      have hobject := (t.sections.name_iff h hopen' mapping hopen).mp (hname'.trans hname.symm)
      have hoctet := hs.settled pid payload h hlookup hkept hsettled k hk
      rw [hobject] at hoctet
      rw [hlast]
      exact hoctet
    · rcases List.mem_cons.mp hk' with rfl | hold
      · exact absurd rfl hlast
      · exact hgot'.exact hsame hsettled payload hlookup k' hold

/-- The octets are read one after the other. -/
lemma relies_readOctets {mapping : Mapping} (rest : List ℕ)
    (hrest : ∀ k ∈ rest, k < getPortMappingPayloadSize) {read : List ℕ} {octets : ℕ → UInt8}
    (hholds : Holds i pid mapping s) (hgot : Got minted i pid read octets s) :
    (readOctets mapping.object rest octets).Relies exec (promises minted) i
      (fun t octets => Holds i pid mapping t ∧
        ∃ all, (∀ k, k ∈ all ↔ k ∈ rest ∨ k ∈ read) ∧ Got minted i pid all octets t) s := by
  induction rest generalizing s read octets with
  | nil => exact ⟨hholds, read, by simp, hgot⟩
  | cons k rest ih =>
    refine Prog.relies_bind (relies_peek hholds hgot (hrest k List.mem_cons_self)) ?_
    rintro s octet ⟨hholds, hgot⟩
    refine (ih (fun k' hk' => hrest k' (List.mem_cons_of_mem _ hk')) hholds hgot).weaken ?_
    rintro t octets ⟨hholds, all, hall, hgot⟩
    refine ⟨hholds, all, fun k' => ?_, hgot⟩
    rw [hall k', List.mem_cons, List.mem_cons, ← or_assoc, @or_comm (k' ∈ rest)]

variable (minted) in
/-- The payload that was found, unless it names no port: its octets were published for the process,
and where nobody has touched the bootstrap since the mapping was opened, it is the record. -/
structure Found (i : ThreadId) (pid : DWORD) (payload : PortMappingPayload) (s : Handoff) :
    Prop where
  traced : ∀ k, Traced minted pid k (payload.octet k)
  epoch : s.watch.opened i ≤ s.watch.epoch pid
  exact : payload.port ≠ 0 → s.watch.epoch pid = s.watch.opened i → s.Settled pid →
    ∀ recorded, s.injector.mappings.lookup pid = some recorded → payload = recorded

/-- What is not found names no port. -/
lemma Got.notFound {read : List ℕ} {octets : ℕ → UInt8} (h : Got minted i pid read octets s) :
    Found minted i pid Capsule.noPayload s where
  traced := by
    intro k
    refine Or.inl ?_
    match k with
    | 0 => rfl
    | 1 => rfl
    | k + 2 =>
      rw [PortMappingPayload.octet, Capsule.noPayload, Vector.toList_replicate, List.getD,
        List.getElem?_replicate]
      split_ifs <;> rfl
  epoch := h.epoch
  exact hport := absurd rfl hport

/-- What was read is found. -/
lemma Got.found {read : List ℕ} {octets : ℕ → UInt8} (h : Got minted i pid read octets s)
    (hread : ∀ k < getPortMappingPayloadSize, k ∈ read) :
    Found minted i pid (.ofOctets octets) s where
  traced := by
    intro k
    by_cases hk : k < getPortMappingPayloadSize
    · rw [PortMappingPayload.octet_ofOctets octets hk]
      exact h.traced k
    · refine Or.inl ?_
      obtain ⟨k, rfl⟩ := Nat.exists_eq_add_of_le' (show 2 ≤ k by
        rw [getPortMappingPayloadSize] at hk
        omega)
      have hlong : ¬k < portMappingTokenSize := by
        rw [getPortMappingPayloadSize] at hk
        omega
      simp [PortMappingPayload.octet, hlong]
  epoch := h.epoch
  exact _ hsame hsettled recorded hlookup := PortMappingPayload.ofOctets_eq fun k hk =>
    h.exact hsame hsettled recorded hlookup k (hread k hk)

/-- A thread that has read closes its handle. -/
lemma relies_closeHandle_got {mapping : Mapping} {read : List ℕ} {octets : ℕ → UInt8}
    (hholds : Holds i pid mapping s) (hgot : Got minted i pid read octets s) :
    (ask (.closeHandle mapping)).Relies exec (promises minted) i
      (fun t _ => Got minted i pid read octets t) s := by
  refine relies_closeHandle hholds.1 fun t hrely => ?_
  obtain ⟨htraced, hepoch, hexact⟩ := hgot.later hrely
  exact ⟨htraced, hepoch, hexact⟩

/-- `get_ipc_payload` finds what there is. -/
lemma relies_getIpcPayload (host : AttachHost) (attempt : ℕ) :
    (getIpcPayload i pid host attempt).Relies exec (promises minted) i
      (fun t payload => Found minted i pid payload t) s := by
  unfold getIpcPayload
  refine Prog.relies_bind (relies_openMapping (host.opens attempt)) ?_
  rintro s mapping ⟨hgot, hholds⟩
  cases mapping with
  | none => exact hgot.notFound
  | some mapping =>
    refine Prog.relies_bind (relies_mapForReading (hholds mapping rfl) (host.views attempt) hgot) ?_
    rintro s view ⟨rfl | rfl, hholds, hgot⟩
    · exact Prog.relies_bind (relies_closeHandle_got hholds hgot) fun _ _ hgot => hgot.notFound
    · refine Prog.relies_bind (relies_readOctets _ (fun k => List.mem_range.mp) hholds hgot) ?_
      rintro s octets ⟨hholds, all, hall, hgot⟩
      refine Prog.relies_bind (relies_closeHandle_got hholds hgot) fun _ _ hgot => ?_
      exact hgot.found fun k hk => (hall k).mpr (Or.inl (List.mem_range.mpr hk))

/-- `get_ipc_payload_waiting` finds what there is, or nothing. -/
lemma relies_getIpcPayloadWaiting (host : AttachHost) {payload : PortMappingPayload}
    (hfound : Found minted i pid payload s) (attempts : List ℕ) :
    (getIpcPayloadWaiting i pid host attempts).Relies exec (promises minted) i
      (fun t payload => Found minted i pid payload t) s := by
  induction attempts generalizing s payload with
  | nil => exact (show Got minted i pid [] zeros s from got_nil hfound.epoch).notFound
  | cons attempt rest ih =>
    refine Prog.relies_bind (relies_getIpcPayload host attempt) fun s payload hfound => ?_
    split_ifs
    · exact hfound
    · exact ih hfound

/-- The others do not disturb what was found. -/
lemma Found.later {t : Handoff} {payload : PortMappingPayload}
    (h : Found minted i pid payload s) (hrely : Rely i s t) : Found minted i pid payload t where
  traced := h.traced
  epoch := by
    rw [hrely.opened]
    exact Nat.le_trans h.epoch (hrely.epoch pid)
  exact := by
    rintro hport hsame ⟨hnobody, hclear⟩ recorded hlookup
    rw [hrely.opened] at hsame
    have hfirst := h.epoch
    have hsecond := hrely.epoch pid
    obtain ⟨hwriting, hmixed, hmapping⟩ := hrely.quiet pid (by omega)
    rw [hwriting] at hnobody
    rw [hmixed] at hclear
    rw [hmapping] at hlookup
    exact h.exact hport (by omega) ⟨hnobody, hclear⟩ recorded hlookup

/-- The hello of a capsule with what it has found. -/
lemma relies_hello {payload : PortMappingPayload} (hfound : Found minted i pid payload s)
    (hport : payload.port ≠ 0) :
    (ask (.hello i pid payload)).Relies exec (promises minted) i (fun _ _ => True) s := by
  refine relies_section fun t hs hrely => ?_
  have hfound' := hfound.later hrely
  refine ⟨⟨hs.kept, hs.recorded, hs.token, hs.settled, hs.crowd, hs.octets, ?_⟩, fun j _ => ?_,
    trivial⟩
  · intro hello hmem
    rcases List.mem_append.mp hmem with hold | hnew
    · exact hs.hellos hello hold
    obtain rfl := List.mem_singleton.mp hnew
    refine ⟨fun hundisturbed => ?_, hfound'.traced⟩
    obtain ⟨hsame, hsettled, hmem'⟩ := of_decide_eq_true hundisturbed
    rw [t.injector.agree, ← AList.lookup_isSome] at hmem'
    obtain ⟨recorded, hlookup⟩ := Option.isSome_iff_exists.mp hmem'
    obtain rfl := hfound'.exact hport hsame hsettled recorded hlookup
    obtain ⟨htoken, hminted⟩ := hs.token pid payload hlookup
    exact ⟨Injector.tokenMatches_of_lookup htoken, hminted⟩
  · exact ⟨fun _ h => h, fun _ => Iff.rfl, fun _ _ _ _ _ h => ⟨h, rfl⟩, fun _ => Nat.le_refl _,
      fun _ _ => ⟨rfl, rfl, rfl⟩, rfl⟩

/-- A capsule keeps to what is promised. -/
lemma relies_attach (host : AttachHost) :
    (attach i pid host).Relies exec (promises minted) i (fun _ _ => True) s := by
  refine Prog.relies_bind (relies_getIpcPayload host 0) fun s first hfirst => ?_
  refine Prog.relies_bind (Q := fun t payload => Found minted i pid payload t) ?_
    fun s payload hfound => ?_
  · split_ifs
    · exact relies_getIpcPayloadWaiting host hfirst _
    · exact hfirst
  · split_ifs with hport
    · trivial
    · exact relies_hello hfound hport

/-- A thread keeps to what is promised in everything that it is given to do. -/
lemma relies_work {todo : List Job} (hminted : ∀ pid port host token,
      .inject pid port host ∈ todo → host.random = some token → minted pid { port, token }) :
    (work i todo).Relies exec (promises minted) i (fun _ _ => True) s := by
  induction todo generalizing s with
  | nil => trivial
  | cons job rest ih =>
    have hrest (s : Handoff) :
        (work i rest).Relies exec (promises minted) i (fun _ _ => True) s :=
      ih fun pid port host token hmem => hminted pid port host token (List.mem_cons_of_mem _ hmem)
    cases job with
    | inject pid port host =>
      exact Prog.relies_bind (relies_inject fun token hrandom =>
        hminted pid port host token List.mem_cons_self hrandom) fun s _ _ => hrest s
    | forget pid => exact Prog.relies_bind (relies_forgetToken pid) fun s _ _ => hrest s
    | attach pid host => exact Prog.relies_bind (relies_attach host) fun s _ _ => hrest s

end Steps

/-- The threads keep to what they promise each other. -/
lemma crew_keeps (jobs : ThreadId → List Job) :
    (crew jobs).Keeps exec (promises (Minted jobs)) where
  inv := {
    kept := nofun
    recorded pid := iff_of_false (AList.notMem_empty pid) nofun
    token pid payload hlookup := by
      change (∅ : AList fun _ : DWORD => PortMappingPayload).lookup pid = some payload at hlookup
      rw [AList.lookup_empty] at hlookup
      cases hlookup
    settled _ _ _ _ := nofun
    crowd pid i j hi := absurd hi (Finset.notMem_empty i)
    octets := nofun
    hellos := nofun }
  relies i := relies_work fun pid port host token hmem hrandom => ⟨i, host, hmem, hrandom⟩

/-! ## The results -/

/-- After every interleaving: a process has a token if and only if a handle on its section is kept.
That handle is open under the name of the process, the name stands for its section, and the section
spells the record unless a publish is under way or the last ones overlapped.  Whatever is in a
section was published for its process, octet by octet. -/
theorem section_of_record (jobs : ThreadId → List Job) (schedule : List ThreadId) (pid : DWORD) :
    let s := ((crew jobs).run exec schedule).state
    (pid ∈ s.injector.tokens ↔ (s.handles pid).isSome) ∧
      (∀ token, s.injector.tokens.lookup pid = some token → ∃ mapping payload,
        s.handles pid = some mapping ∧ mapping ∈ s.sections.opened ∧
          mapping.name = getPortMappingName pid ∧
          s.sections.lookup (getPortMappingName pid) = some mapping.object ∧
          s.injector.mappings.lookup pid = some payload ∧ payload.injectionToken = token ∧
          Minted jobs pid payload ∧
          (s.Settled pid → .ofOctets (s.sections.contents mapping.object) = payload)) ∧
      ∀ object, s.sections.lookup (getPortMappingName pid) = some object →
        ∀ k, Traced (Minted jobs) pid k (s.sections.contents object k) := by
  intro s
  have hs : Sound (Minted jobs) s := (Crew.run_keeps (crew_keeps jobs) schedule).inv
  refine ⟨(s.injector.agree pid).trans (hs.recorded pid), fun token htoken => ?_,
    fun object hlookup => ?_⟩
  · have hmem : pid ∈ s.injector.mappings := by
      rw [← s.injector.agree, ← AList.lookup_isSome]
      exact Option.isSome_iff_exists.mpr ⟨token, htoken⟩
    obtain ⟨mapping, hkept⟩ := Option.isSome_iff_exists.mp ((hs.recorded pid).mp hmem)
    rw [← AList.lookup_isSome] at hmem
    obtain ⟨payload, hpayload⟩ := Option.isSome_iff_exists.mp hmem
    obtain ⟨hopen, hname⟩ := hs.kept pid mapping hkept
    obtain ⟨htoken', hminted⟩ := hs.token pid payload hpayload
    refine ⟨mapping, payload, hkept, hopen, hname, ?_, hpayload,
      Option.some.inj (htoken'.symm.trans htoken), hminted, fun hsettled => ?_⟩
    · rw [← hname]
      exact NamedObjects.lookup_eq hopen
    · exact PortMappingPayload.ofOctets_eq (hs.settled pid payload mapping hpayload hkept hsettled)
  · obtain ⟨mapping, hopen, hname, rfl⟩ := NamedObjects.exists_of_lookup hlookup
    exact hs.octets mapping hopen pid hname

/-- What every thread is given to do, if only the first ones are given anything. -/
def givenTo (work : List (List Job)) (thread : ThreadId) : List Job := work.getD thread []

/-- The answers to an injection that succeeds with this token. -/
def publishingHost (octet : UInt8) : InjectHost where
  process := true
  isWow64 := some false
  resident := false
  injectee := true
  random := some (Vector.replicate portMappingTokenSize octet)
  mapping := true
  view := true
  load := .exited (some 1)

/-- A capsule that is granted what it asks for. -/
def grantingHost : AttachHost where
  opens _ := true
  views _ := true

/-- Process 5 is injected, and then its capsule reads its bootstrap. -/
def injectedThenAttached : ThreadId → List Job :=
  givenTo [[.inject 5 1080 (publishingHost 7)], [.attach 5 grantingHost]]

/-- After every interleaving: a capsule that said hello for its process is accepted, with a payload
that was published for the process as a whole, if the process has a record at that hello and the
bootstrap was left alone since the capsule opened it.  And every octet of every hello was published
for its process, or is zero. -/
theorem hello_accepted (jobs : ThreadId → List Job) (schedule : List ThreadId) :
    ∀ hello ∈ ((crew jobs).run exec schedule).state.hellos,
      (hello.undisturbed = true →
        hello.accepted = true ∧ Minted jobs hello.pid hello.payload) ∧
      ∀ k, Traced (Minted jobs) hello.pid k (hello.payload.octet k) :=
  (Crew.run_keeps (crew_keeps jobs) schedule).inv.hellos

/-- A capsule whose process was injected before. -/
theorem hello_accepted_alone : Minted injectedThenAttached 5
    ⟨1080, Vector.replicate portMappingTokenSize 7⟩ :=
  ((hello_accepted injectedThenAttached (List.replicate 13 0 ++ List.replicate 14 1)
    ⟨5, ⟨1080, Vector.replicate portMappingTokenSize 7⟩, true, true⟩ (by decide +kernel)).1 rfl).2

-- Two threads inject process 5.  The one that writes last is the first to record, so the section
-- has its token and the record has the other one: the capsule is refused.
example : ((crew (givenTo [[.inject 5 1080 (publishingHost 7)], [.inject 5 1080 (publishingHost 8)],
    [.attach 5 grantingHost]])).run exec (List.replicate 2 0 ++ List.replicate 12 1 ++
      List.replicate 10 0 ++ [0, 1] ++ List.replicate 14 2)).state.hellos =
        [⟨5, ⟨1080, Vector.replicate portMappingTokenSize 7⟩, false, false⟩] := by
  decide +kernel

end Handoff

end Encapsule
