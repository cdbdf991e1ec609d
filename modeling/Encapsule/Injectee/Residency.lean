import Encapsule.Foundation.Reliance
import Encapsule.Injector.Injector

/-!
# The capsule in its host process

`DllMain` of `injectee.cpp` creates the hooks, all of them or none, enables them and starts the
thread of the client, which binds the objects that the detours read; or it has the image unloaded.
The threads of the victim run into the detours at any time.

* `dllMainAttach`, `doClient`, `unload`, `victim`: the threads, with the sections that touch what
  they share.  `exec` carries a section out, and records a fault where a thread runs in an image
  that is gone, calls an original that was not created or uses an object that was freed.
* `promises`: what the threads leave alone, and what always holds.
* `resident`: no schedule of the threads has a fault.
* `bound_for_good`: what is bound stays bound.
-/

namespace Encapsule

open Interaction

/-! ## The threads and what they share -/

/-- A function that is hooked. -/
inductive HookedApi where
  | connect | wsaConnect | wsaConnectByList | wsaConnectByNameA | wsaConnectByNameW
  | createProcessA | createProcessW | ioctlsocket | wsaAsyncSelect | wsaEventSelect | closesocket
  | connectEx
  deriving DecidableEq

/-- The hooks in the order in which `hook_create_all` creates them. -/
def hookOrder : List HookedApi :=
  [.connect, .wsaConnect, .wsaConnectByList, .wsaConnectByNameA, .wsaConnectByNameW,
    .createProcessA, .createProcessW, .ioctlsocket, .wsaAsyncSelect, .wsaEventSelect, .closesocket,
    .connectEx]

/-- The globals that the detours read. -/
inductive Slot where
  | queue | config | nbioMap
  deriving DecidableEq

/-- What `DllMain` has installed. -/
structure Installation where
  /-- `DllMain` runs, and holds the loader lock. -/
  loading : Bool := true
  mapped : Bool := true
  initialized : Bool := false
  /-- The hooks that have an original, in the order of their creation. -/
  created : List HookedApi := []
  enabled : List HookedApi := []
  wsaStarted : Bool := false
  /-- The calls of `WSAStartup` that no `WSACleanup` has answered. -/
  startups : ℕ := 0
  /-- The thread of the client, with the payload it is handed. -/
  client : Option PortMappingPayload := none
  /-- The thread that frees the image. -/
  unloader : Bool := false
  deriving DecidableEq

/-- What the client has bound. -/
structure Bindings where
  begun : Bool := false
  allocated : ℕ := 0
  live : List ℕ := []
  slots : Slot → Option ℕ := fun _ => none
  dialled : Option PortMappingPayload := none

/-- What the threads share. -/
structure Capsule where
  install : Installation := {}
  bindings : Bindings := {}
  /-- The reads of the mapping. -/
  reads : ℕ := 0
  faulted : Bool := false

/-- How the client's `io_context` comes back. -/
inductive ClientEnd where
  | returned
  | threw

/-- What the threads ask of MinHook, winsock, the system and each other. -/
inductive CapsuleCall where
  | mhInit
  /-- `MH_CreateHook`, of a target that may be null. -/
  | mhCreateHook (api : HookedApi) (target : Bool)
  | mhRemoveHook (api : HookedApi)
  | mhEnableAll
  | mhDisableAll
  | mhDeinit
  | wsaStartup
  /-- `WSAIoctl` for the pointer of `ConnectEx`. -/
  | wsaIoctl
  /-- `hook_cleanup_wsa`. -/
  | cleanupWsa
  /-- The mapping is opened and viewed, if it is there. -/
  | openMapping
  | startClient (payload : PortMappingPayload)
  | startUnloader
  | leaveDllMain
  | beginClient
  | beginUnloader
  /-- The loader calls `DllMain` to detach. -/
  | beginDetach
  | unmap
  | sleep (ms : ℕ)
  | allocate
  | store (slot : Slot) (value : Option ℕ)
  | free (object : ℕ)
  /-- The client connects to the port with the token. -/
  | dial (payload : PortMappingPayload)
  | runClient
  /-- A sleep that is slept again and again. -/
  | park
  /-- A victim's thread calls a function: whether it runs into the detour. -/
  | enter (api : HookedApi)
  | load (slot : Slot)
  | touch (object : ℕ)
  | callOriginal (api : HookedApi)

/-- What these calls answer. -/
abbrev CapsuleCall.Answer : CapsuleCall → Type
  | .mhCreateHook _ _ => Bool
  | .wsaStartup => Bool
  | .wsaIoctl => Bool
  | .openMapping => Option PortMappingPayload
  | .beginClient => PortMappingPayload
  | .allocate => ℕ
  | .runClient => ClientEnd
  | .park => Empty
  | .enter _ => Bool
  | .load _ => Option ℕ
  | _ => Unit

/-- A part of a thread. -/
abbrev Thread (α : Type) : Type := Prog CapsuleCall.Answer α

namespace Capsule

/-- A section. -/
def ask (c : CapsuleCall) : Thread c.Answer := Prog.ask c

/-! ## `DllMain` -/

/-- `hook_ConnectEx::GetConnectEx`: whether it finds a pointer. -/
def getConnectEx : Thread Bool := do
  let started : Bool ← ask .wsaStartup
  if started then ask .wsaIoctl else return false

/-- `create` of a hook: whether it is created. -/
def create (api : HookedApi) : Thread Bool :=
  if api = .connectEx then do
    let target ← getConnectEx
    ask (.mhCreateHook api target)
  else ask (.mhCreateHook api true)

/-- `create_hooks`: whether all of them are created. -/
def createHooks : List HookedApi → Thread Bool
  | [] => return true
  | api :: rest => do
    let created ← create api
    if created then
      let all ← createHooks rest
      if all then return true
      else
        let _ : Unit ← ask (.mhRemoveHook api)
        return false
    else return false

/-- `hook_create_all`. -/
def hookCreateAll : Thread Bool := createHooks hookOrder

/-- The payload of a mapping that is not there. -/
def noPayload : PortMappingPayload where
  port := 0
  token := Vector.replicate portMappingTokenSize 0

/-- `get_ipc_payload`. -/
def getIpcPayload : Thread PortMappingPayload := do
  let payload : Option PortMappingPayload ← ask .openMapping
  return payload.getD noPayload

/-- `DllMain` with `DLL_PROCESS_ATTACH`. -/
def dllMainAttach : Thread Unit := do
  let _ : Unit ← ask .mhInit
  let created ← hookCreateAll
  if created then
    let _ : Unit ← ask .mhEnableAll
    let payload ← getIpcPayload
    let _ : Unit ← ask (.startClient payload)
    ask .leaveDllMain
  else
    let _ : Unit ← ask .startUnloader
    ask .leaveDllMain

/-- `DllMain` with `DLL_PROCESS_DETACH`. -/
def dllMainDetach : Thread Unit := do
  let _ : Unit ← ask .mhDisableAll
  let _ : Unit ← ask .mhDeinit
  ask .cleanupWsa

/-- The thread of `FreeLibraryAndExitThread`. -/
def unload : Thread Unit := do
  let _ : Unit ← ask .beginUnloader
  let _ : Unit ← ask .beginDetach
  dllMainDetach
  ask .unmap

/-! ## The client -/

/-- `kMappingProbeTries`. -/
def kMappingProbeTries : ℕ := 20

/-- `kMappingProbeDelay`, in milliseconds. -/
def kMappingProbeDelay : ℕ := 250

/-- The loop of `get_ipc_payload_waiting`, with so many tries left. -/
def probeMapping : ℕ → Thread PortMappingPayload
  | 0 => return noPayload
  | tries + 1 => do
    let _ : Unit ← ask (.sleep kMappingProbeDelay)
    let payload ← getIpcPayload
    if payload.port ≠ 0 then return payload else probeMapping tries

/-- `get_ipc_payload_waiting`. -/
def getIpcPayloadWaiting : Thread PortMappingPayload := probeMapping (kMappingProbeTries - 1)

/-- `stay_resident`, from which nothing comes back. -/
def stayResident : Thread Empty := ask .park

/-- The scope of `do_client` in which the globals are bound, with the destructors behind the call
that does not return. -/
def bindAndRun (ipc : PortMappingPayload) : Thread Unit := do
  let queue : ℕ ← ask .allocate
  let config : ℕ ← ask .allocate
  let nbioMap : ℕ ← ask .allocate
  let _ : Unit ← ask (.store .queue (some queue))
  let _ : Unit ← ask (.store .config (some config))
  let _ : Unit ← ask (.store .nbioMap (some nbioMap))
  let _ : Unit ← ask (.dial ipc)
  -- An exception is caught where it comes from, so both ends go on to the same call.
  let _ : ClientEnd ← ask .runClient
  let _ ← stayResident
  let _ : Unit ← ask (.store .nbioMap none)
  let _ : Unit ← ask (.store .config none)
  let _ : Unit ← ask (.store .queue none)
  let _ : Unit ← ask (.free nbioMap)
  let _ : Unit ← ask (.free config)
  ask (.free queue)

/-- `do_client`. -/
def doClient : Thread Unit := do
  let first : PortMappingPayload ← ask .beginClient
  let ipc ← (if first.port = 0 then getIpcPayloadWaiting else pure first)
  if ipc.port = 0 then return () else bindAndRun ipc

/-! ## The victim -/

/-- What a detour turns to once it has a route. -/
inductive Visit where
  /-- A report is pushed, if there is a queue. -/
  | report
  /-- `nbio_store`, `nbio_load` or `nbio_erase`. -/
  | nbio
  /-- An original is called. -/
  | original (api : HookedApi)

/-- A call of the victim, with what its detour comes to do. -/
structure VictimCall where
  api : HookedApi
  /-- The arguments and the answer of the original let the detour act. -/
  acts : Bool
  visits : List Visit

/-- An object is used, if there is one. -/
def touchIfBound : Option ℕ → Thread Unit
  | some object => ask (.touch object)
  | none => return ()

/-- What `nbio_store`, `nbio_load` and `nbio_erase` do with the map. -/
def touchNbioMap : Thread Unit := do
  let map : Option ℕ ← ask (.load .nbioMap)
  touchIfBound map

/-- The visits of a detour, with the queue that it has read. -/
def visitAll (queue : Option ℕ) : List Visit → Thread Unit
  | [] => return ()
  | .report :: rest => do
    touchIfBound queue
    visitAll queue rest
  | .nbio :: rest => do
    touchNbioMap
    visitAll queue rest
  | .original api :: rest => do
    let _ : Unit ← ask (.callOriginal api)
    visitAll queue rest

/-- The part of a detour that has a configuration: the route is read, then the queue. -/
def followRoute (config : ℕ) (visits : List Visit) : Thread Unit := do
  let _ : Unit ← ask (.touch config)
  let queue : Option ℕ ← ask (.load .queue)
  visitAll queue visits

/-- A detour, as far as it touches what the threads share. -/
def detour (call : VictimCall) : Thread Unit :=
  match call.api with
  | .ioctlsocket | .wsaAsyncSelect | .wsaEventSelect | .closesocket => do
    if call.acts then touchNbioMap
    ask (.callOriginal call.api)
  | .createProcessA | .createProcessW => do
    let _ : Unit ← ask (.callOriginal call.api)
    let bound : Option ℕ ← ask (.load .config)
    match bound with
    | some config => if call.acts then followRoute config call.visits else return ()
    | none => return ()
  | _ => do
    let bound : Option ℕ ← ask (.load .config)
    match bound with
    | some config =>
      if call.acts then followRoute config call.visits else ask (.callOriginal call.api)
    | none => ask (.callOriginal call.api)

/-- A thread of the victim. -/
def victim : List VictimCall → Thread Unit
  | [] => return ()
  | call :: rest => do
    let entered : Bool ← ask (.enter call.api)
    if entered then detour call
    victim rest

/-! ## What the sections do -/

/-- What the threads do not decide. -/
structure Environment where
  initializes : Bool
  winsock : Bool
  connectEx : Bool
  creates : HookedApi → Bool
  enables : HookedApi → Bool
  /-- What the mapping holds when it is read for the `n`-th time. -/
  mapping : ℕ → Option PortMappingPayload
  /-- How the client's `io_context` comes back, if it does. -/
  ends : Option ClientEnd

/-- A section as it is carried out in an image that is there. -/
def perform (env : Environment) : (c : CapsuleCall) → Capsule → Option (c.Answer × Capsule)
  | .mhInit, s =>
    some ((), { s with install := { s.install with initialized := env.initializes } })
  | .mhCreateHook api target, s =>
    if s.install.initialized ∧ target ∧ api ∉ s.install.created ∧ env.creates api then
      some (true, { s with install := { s.install with created := s.install.created ++ [api] } })
    else some (false, s)
  | .mhRemoveHook api, s =>
    some ((), { s with
      install := { s.install with
        created := s.install.created.erase api, enabled := s.install.enabled.erase api } })
  | .mhEnableAll, s =>
    some ((), { s with
      install := { s.install with enabled := s.install.created.filter env.enables } })
  | .mhDisableAll, s => some ((), { s with install := { s.install with enabled := [] } })
  | .mhDeinit, s =>
    some ((), { s with install := { s.install with initialized := false, created := [] } })
  | .wsaStartup, s =>
    if env.winsock then
      some (true, { s with
        install := { s.install with wsaStarted := true, startups := s.install.startups + 1 } })
    else some (false, s)
  | .wsaIoctl, s => some (env.connectEx, s)
  | .cleanupWsa, s =>
    if s.install.wsaStarted then
      some ((), { s with
        install := { s.install with wsaStarted := false, startups := s.install.startups - 1 } })
    else some ((), s)
  | .openMapping, s => some (env.mapping s.reads, { s with reads := s.reads + 1 })
  | .startClient payload, s =>
    some ((), { s with install := { s.install with client := some payload } })
  | .startUnloader, s => some ((), { s with install := { s.install with unloader := true } })
  | .leaveDllMain, s => some ((), { s with install := { s.install with loading := false } })
  | .beginClient, s =>
    s.install.client.map fun payload =>
      (payload, { s with bindings := { s.bindings with begun := true } })
  | .beginUnloader, s => if s.install.unloader then some ((), s) else none
  | .beginDetach, s => if s.install.loading then none else some ((), s)
  | .unmap, s => some ((), { s with install := { s.install with mapped := false } })
  | .sleep _, s => some ((), s)
  | .allocate, s =>
    some (s.bindings.allocated, { s with
      bindings := { s.bindings with
        allocated := s.bindings.allocated + 1, live := s.bindings.allocated :: s.bindings.live } })
  | .store slot value, s =>
    some ((), { s with
      bindings := { s.bindings with slots := Function.update s.bindings.slots slot value } })
  | .free object, s =>
    some ((), { s with bindings := { s.bindings with live := s.bindings.live.erase object } })
  | .dial payload, s =>
    some ((), { s with bindings := { s.bindings with dialled := some payload } })
  | .runClient, s => env.ends.map fun how => (how, s)
  | .park, _ => none
  | .enter api, s => some (decide (api ∈ s.install.enabled), s)
  | .load slot, s => some (s.bindings.slots slot, s)
  | .touch object, s =>
    some ((), if object ∈ s.bindings.live then s else { s with faulted := true })
  | .callOriginal api, s =>
    some ((), if api ∈ s.install.created then s else { s with faulted := true })

/-- A section that does not run in the image: a call that is not hooked. -/
def outside (s : Capsule) : CapsuleCall → Bool
  | .enter api => decide (api ∉ s.install.enabled)
  | _ => false

/-- A section, which is a fault in an image that is gone. -/
def exec (env : Environment) (c : CapsuleCall) (s : Capsule) : Option (c.Answer × Capsule) :=
  (perform env c s).map fun (x, s') =>
    (x, if s.install.mapped ∨ s.outside c then s' else { s' with faulted := true })

/-- The threads of the process. -/
inductive Role where
  | loader
  | client
  | unloader
  | victim (n : ℕ)
  deriving DecidableEq

/-- The process as the image is loaded into it. -/
def loaded (calls : ℕ → List VictimCall) : Crew Role CapsuleCall.Answer Capsule where
  state := {}
  threads
    | .loader => dllMainAttach
    | .client => doClient
    | .unloader => unload
    | .victim n => victim (calls n)

/-! ## What always holds -/

/-- The payload that the `n`-th read of the mapping gives. -/
def payloadAt (env : Environment) (n : ℕ) : PortMappingPayload := (env.mapping n).getD noPayload

/-- The hook can be created. -/
structure CanCreate (env : Environment) (initialized : Bool) (api : HookedApi) : Prop where
  initialized : initialized = true
  creates : env.creates api = true
  target : api = .connectEx → env.winsock = true ∧ env.connectEx = true

/-- Every hook can be created. -/
def Willing (env : Environment) : Prop := ∀ api ∈ hookOrder, CanCreate env env.initializes api

/-- What holds of the installation. -/
structure Installed (env : Environment) (i : Installation) : Prop where
  startups : i.startups = if i.wsaStarted then 1 else 0
  /-- The image is unloaded only when no hook is left. -/
  shut : i.unloader = true → i.created = [] ∧ i.enabled = [] ∧ i.client = none ∧ ¬Willing env
  unmapped : i.mapped = false → i.unloader = true ∧ i.loading = false ∧ i.wsaStarted = false
  /-- No part of the hooks goes live. -/
  enabled : i.enabled ≠ [] → i.created = hookOrder ∧ i.wsaStarted = true
  client : ∀ payload, i.client = some payload → i.created = hookOrder ∧ i.wsaStarted = true ∧
    Willing env ∧ payload = payloadAt env 0
  returned : i.loading = false → i.client ≠ none ∨ i.unloader = true

/-- The payload is that of the first read that names a port. -/
def FirstPort (env : Environment) (payload : PortMappingPayload) : Prop :=
  ∃ n < kMappingProbeTries, payload = payloadAt env n ∧ payload.port ≠ 0 ∧
    ∀ m < n, (payloadAt env m).port = 0

/-- What holds of what the client has bound. -/
structure Bound (env : Environment) (b : Bindings) : Prop where
  live : ∀ slot object, b.slots slot = some object → object ∈ b.live
  queue_of_config : b.slots .config ≠ none → b.slots .queue ≠ none
  config_of_nbioMap : b.slots .nbioMap ≠ none → b.slots .config ≠ none
  begun : ∀ slot, b.slots slot ≠ none → b.begun = true
  dialled : ∀ payload, b.dialled = some payload → FirstPort env payload

/-- What always holds. -/
structure Sound (env : Environment) (s : Capsule) : Prop where
  not_faulted : s.faulted = false
  installed : Installed env s.install
  bound : Bound env s.bindings
  begun : s.bindings.begun = true → s.install.client ≠ none
  handed : s.install.client ≠ none → s.bindings.begun = false → s.reads = 1
  reads : s.reads ≤ kMappingProbeTries

/-! ## What the threads leave alone -/

/-- What a thread relies on the others to leave alone. -/
def Rely : Role → Capsule → Capsule → Prop
  | .loader, s, s' => s.install.loading = true →
    s'.install = s.install ∧ (s.install.client = none → s'.reads = s.reads)
  | .client, s, s' => s'.bindings = s.bindings ∧
    (s.install.client ≠ none → s'.install.client = s.install.client ∧ s'.reads = s.reads)
  | .unloader, s, s' => s'.install.mapped = s.install.mapped ∧
    (s.install.unloader = true → s'.install.unloader = true) ∧
    (s.install.loading = false → s'.install = s.install)
  | .victim _, s, s' =>
    (s.install.enabled ≠ [] → s'.install.enabled ≠ []) ∧ s.bindings.live ⊆ s'.bindings.live

/-- A step of the loader's thread. -/
structure LoaderStep (s s' : Capsule) : Prop where
  loading : s.install.loading = true
  mapped : s'.install.mapped = s.install.mapped
  unloader : s.install.unloader = true → s'.install.unloader = true
  bindings : s'.bindings = s.bindings
  client : s.install.client ≠ none → s'.install.client = s.install.client ∧ s'.reads = s.reads
  enabled : s.install.enabled ≠ [] → s'.install.enabled ≠ []

/-- A step of the client's thread. -/
structure ClientStep (s s' : Capsule) : Prop where
  install : s'.install = s.install
  client : s.install.client ≠ none
  live : s.bindings.live ⊆ s'.bindings.live
  slots : ∀ slot object, s.bindings.slots slot = some object →
    s'.bindings.slots slot = some object

/-- A step of the thread that frees the image, once it has something to do. -/
structure UnloaderStep (s s' : Capsule) : Prop where
  loading : s.install.loading = false
  unloader : s.install.unloader = true
  bindings : s'.bindings = s.bindings
  reads : s'.reads = s.reads
  client : s'.install.client = s.install.client

/-- What a thread does itself. -/
def Guarantee : Role → Capsule → Capsule → Prop
  | .loader, s, s' => LoaderStep s s'
  | .client, s, s' => ClientStep s s'
  | .unloader, s, s' => s' = s ∨ UnloaderStep s s'
  | .victim _, s, s' => s' = s

/-- Nothing is left alone by doing nothing. -/
lemma rely_refl (i : Role) (s : Capsule) : Rely i s s := by
  cases i with
  | loader => exact fun _ => ⟨rfl, fun _ => rfl⟩
  | client => exact ⟨rfl, fun _ => ⟨rfl, rfl⟩⟩
  | unloader => exact ⟨rfl, id, fun _ => rfl⟩
  | victim n => exact ⟨id, List.Subset.refl _⟩

/-- What is left alone twice is left alone. -/
lemma rely_trans {i : Role} {s s' s'' : Capsule} (h : Rely i s s') (h' : Rely i s' s'') :
    Rely i s s'' := by
  cases i with
  | loader =>
    intro hloading
    obtain ⟨hinstall, hreads⟩ := h hloading
    obtain ⟨hinstall', hreads'⟩ := h' (by rw [hinstall]; exact hloading)
    refine ⟨hinstall'.trans hinstall, fun hclient => ?_⟩
    exact (hreads' (by rw [hinstall]; exact hclient)).trans (hreads hclient)
  | client =>
    refine ⟨h'.1.trans h.1, fun hclient => ?_⟩
    obtain ⟨hsame, hreads⟩ := h.2 hclient
    obtain ⟨hsame', hreads'⟩ := h'.2 (by rw [hsame]; exact hclient)
    exact ⟨hsame'.trans hsame, hreads'.trans hreads⟩
  | unloader =>
    refine ⟨h'.1.trans h.1, h'.2.1 ∘ h.2.1, fun hreturned => ?_⟩
    have hinstall := h.2.2 hreturned
    exact (h'.2.2 (by rw [hinstall]; exact hreturned)).trans hinstall
  | victim n => exact ⟨h'.1 ∘ h.1, List.Subset.trans h.2 h'.2⟩

/-- What a thread does leaves alone what the others rely on. -/
lemma rely_of_guarantee {env : Environment} {i j : Role} {s s' : Capsule} (hij : i ≠ j)
    (hs : Sound env s) (h : Guarantee i s s') : Rely j s s' := by
  cases i with
  | loader =>
    obtain ⟨hloading, hmapped, hunloader, hbindings, hclient, henabled⟩ := h
    cases j with
    | loader => exact absurd rfl hij
    | client => exact ⟨hbindings, hclient⟩
    | unloader =>
      refine ⟨hmapped, hunloader, fun hreturned => ?_⟩
      rw [hloading] at hreturned
      cases hreturned
    | victim n => exact ⟨henabled, by rw [hbindings]; exact List.Subset.refl _⟩
  | client =>
    obtain ⟨hinstall, hclient, hlive, -⟩ := h
    cases j with
    | loader => exact fun _ => ⟨hinstall, fun hnone => absurd hnone hclient⟩
    | client => exact absurd rfl hij
    | unloader => rw [Rely, hinstall]; exact ⟨rfl, id, fun _ => rfl⟩
    | victim n => exact ⟨fun henabled => by rw [hinstall]; exact henabled, hlive⟩
  | unloader =>
    rcases h with rfl | ⟨hreturned, hunloader, hbindings, hreads, hclient⟩
    · exact rely_refl j s'
    cases j with
    | loader =>
      intro hloading
      rw [hreturned] at hloading
      cases hloading
    | client => exact ⟨hbindings, fun _ => ⟨hclient, hreads⟩⟩
    | unloader => exact absurd rfl hij
    | victim n =>
      refine ⟨fun henabled => ?_, by rw [hbindings]; exact List.Subset.refl _⟩
      exact absurd (hs.installed.shut hunloader).2.1 henabled
  | victim n =>
    obtain rfl : s' = s := h
    exact rely_refl j s'

/-- What the threads promise each other. -/
def promises (env : Environment) : Pact Role Capsule where
  inv := Sound env
  rely := Rely
  guarantee := Guarantee
  refl := rely_refl
  trans := rely_trans
  kept hij hs _ h := rely_of_guarantee hij hs h

/-! ## The thread of the loader -/

section Loader

variable {env : Environment} {s : Capsule}

/-- In an image that is there, a section does what it does. -/
lemma perform_of_exec {c : CapsuleCall} {x : c.Answer} {s' : Capsule}
    (h : exec env c s = some (x, s')) (hmapped : s.install.mapped = true) :
    perform env c s = some (x, s') := by
  rw [exec, Option.map_eq_some_iff] at h
  obtain ⟨⟨y, t⟩, hperform, heq⟩ := h
  dsimp only at heq
  rw [hmapped, if_pos (Or.inl rfl)] at heq
  rw [hperform, ← heq]

/-- The installation while hooks are created. -/
def installing (initialized : Bool) (created : List HookedApi) (wsaStarted : Bool) :
    Installation where
  initialized := initialized
  created := created
  wsaStarted := wsaStarted
  startups := if wsaStarted then 1 else 0

/-- Nothing is amiss while hooks are created. -/
lemma installed_installing (env : Environment) (initialized : Bool) (created : List HookedApi)
    (wsaStarted : Bool) : Installed env (installing initialized created wsaStarted) where
  startups := rfl
  shut := nofun
  unmapped := nofun
  enabled := nofun
  client := nofun
  returned := nofun

/-- The loader's thread has this installation, and nobody has begun. -/
def Loading (install : Installation) (reads : ℕ) (s : Capsule) : Prop :=
  s.install = install ∧ s.reads = reads

/-- A section of the loader's thread before the client is started. -/
lemma relies_loader {c : CapsuleCall} {Q : Capsule → c.Answer → Prop} {install : Installation}
    {reads : ℕ} (hs : Loading install reads s) (hloading : install.loading = true)
    (hmapped : install.mapped = true) (hclient : install.client = none)
    (hstep : ∀ t x t', Loading install reads t → perform env c t = some (x, t') →
      t'.bindings = t.bindings ∧ t'.faulted = t.faulted ∧ Installed env t'.install ∧
        t'.install.mapped = true ∧ (t.install.unloader = true → t'.install.unloader = true) ∧
        (t.install.enabled ≠ [] → t'.install.enabled ≠ []) ∧
        (t'.install.client ≠ none → t'.reads = 1) ∧ t'.reads ≤ kMappingProbeTries ∧ Q t' x) :
    (ask c).Relies (exec env) (promises env) .loader Q s := by
  obtain ⟨rfl, rfl⟩ := hs
  refine Prog.relies_ask fun t x t' hsound hrely hexec => ?_
  obtain ⟨hinstall, hreads⟩ := hrely hloading
  have ht : Loading s.install s.reads t := ⟨hinstall, hreads hclient⟩
  have hperform := perform_of_exec hexec (by rw [hinstall]; exact hmapped)
  obtain ⟨hbindings, hfaulted, hinstalled, hmapped', hunloader, henabled, hone, hfew, hQ⟩ :=
    hstep t x t' ht hperform
  have hclient' : t.install.client = none := by rw [hinstall]; exact hclient
  have hnotbegun : t.bindings.begun = false := by
    by_contra hbegun
    exact hsound.begun (eq_true_of_ne_false hbegun) hclient'
  refine ⟨⟨by rw [hfaulted]; exact hsound.not_faulted, hinstalled, by rw [hbindings]; exact
    hsound.bound, ?_, fun hsome _ => hone hsome, hfew⟩, ?_, hQ⟩
  · rw [hbindings, hnotbegun]
    exact nofun
  · exact ⟨by rw [hinstall]; exact hloading, by rw [hmapped', hinstall, hmapped], hunloader,
      hbindings, fun hsome => absurd hclient' hsome, henabled⟩

/-- A section of the loader's thread while hooks are created. -/
lemma relies_installing {c : CapsuleCall} {Q : Capsule → c.Answer → Prop} {initialized : Bool}
    {created : List HookedApi} {wsaStarted : Bool}
    (hs : Loading (installing initialized created wsaStarted) 0 s)
    (hstep : ∀ t x t', t.install = installing initialized created wsaStarted →
      perform env c t = some (x, t') → t'.bindings = t.bindings ∧ t'.faulted = t.faulted ∧
        t'.reads = t.reads ∧ (∃ initialized' created' wsaStarted',
          t'.install = installing initialized' created' wsaStarted') ∧
        (Loading t'.install 0 t' → Q t' x)) :
    (ask c).Relies (exec env) (promises env) .loader Q s := by
  refine relies_loader hs rfl rfl rfl fun t x t' ht hperform => ?_
  obtain ⟨hbindings, hfaulted, hreads, ⟨initialized', created', wsaStarted', hinstall⟩, hQ⟩ :=
    hstep t x t' ht.1 hperform
  have hzero : t'.reads = 0 := hreads.trans ht.2
  refine ⟨hbindings, hfaulted, ?_, ?_, ?_, ?_, ?_, ?_, hQ ⟨rfl, hzero⟩⟩
  · rw [hinstall]
    exact installed_installing env _ _ _
  · rw [hinstall]
    rfl
  · rw [ht.1]
    exact nofun
  · rw [ht.1]
    exact fun hne => absurd rfl hne
  · rw [hinstall]
    exact fun hne => absurd rfl hne
  · rw [hzero]
    exact Nat.zero_le _

/-- How a hook is created: the loader's thread has one more then, or none. -/
lemma relies_mhCreateHook {initialized : Bool} {created : List HookedApi} {wsaStarted : Bool}
    (hs : Loading (installing initialized created wsaStarted) 0 s) (api : HookedApi)
    (target : Bool) (hnew : api ∉ created) :
    (ask (.mhCreateHook api target)).Relies (exec env) (promises env) .loader (fun t ok =>
      (ok = true ∧ Loading (installing initialized (created ++ [api]) wsaStarted) 0 t ∧
          initialized = true ∧ env.creates api = true ∧ target = true ∨
        ok = false ∧ Loading (installing initialized created wsaStarted) 0 t ∧
          ¬(initialized = true ∧ env.creates api = true ∧ target = true))) s := by
  refine relies_installing hs fun t ok t' hinstall hperform => ?_
  have hcan : (t.install.initialized = true ∧ target = true ∧ api ∉ t.install.created ∧
      env.creates api = true) ↔ initialized = true ∧ env.creates api = true ∧ target = true := by
    rw [hinstall]
    exact ⟨fun h => ⟨h.1, h.2.2.2, h.2.1⟩, fun h => ⟨h.1, h.2.2, hnew, h.2.1⟩⟩
  rw [perform] at hperform
  split_ifs at hperform with hwilling
  · obtain ⟨rfl, rfl⟩ := Prod.mk.inj (Option.some.inj hperform)
    rw [hinstall]
    refine ⟨rfl, rfl, rfl, ⟨initialized, created ++ [api], wsaStarted, rfl⟩, fun hload => ?_⟩
    exact Or.inl ⟨rfl, hload, hcan.mp hwilling⟩
  · obtain ⟨rfl, rfl⟩ := Prod.mk.inj (Option.some.inj hperform)
    refine ⟨rfl, rfl, rfl, ⟨_, _, _, hinstall⟩, fun hload => ?_⟩
    rw [hinstall] at hload
    exact Or.inr ⟨rfl, hload, fun hcreates => hwilling (hcan.mpr hcreates)⟩

/-- What comes of the attempt to create hooks. -/
def Outcome (env : Environment) (initialized : Bool) (created : List HookedApi)
    (apis : List HookedApi) (wsaStarted : Bool) (t : Capsule) (ok : Bool) : Prop :=
  ∃ wsaStarted', (.connectEx ∉ apis → wsaStarted' = wsaStarted) ∧
    (ok = true ∧ Loading (installing initialized (created ++ apis) wsaStarted') 0 t ∧
        (.connectEx ∈ apis → wsaStarted' = true) ∧ (∀ api ∈ apis, CanCreate env initialized api) ∨
      ok = false ∧ Loading (installing initialized created wsaStarted') 0 t ∧
        ¬∀ api ∈ apis, CanCreate env initialized api)

/-- One hook is created, or it could not be. -/
lemma relies_create {initialized : Bool} {created : List HookedApi} {wsaStarted : Bool}
    (hs : Loading (installing initialized created wsaStarted) 0 s) {api : HookedApi}
    (hnew : api ∉ created) (hwsa : api = .connectEx → wsaStarted = false) :
    (create api).Relies (exec env) (promises env) .loader
      (Outcome env initialized created [api] wsaStarted) s := by
  unfold create
  split_ifs with hapi
  case neg =>
    have hother : .connectEx ∉ [api] := fun hmem => hapi (List.mem_singleton.mp hmem).symm
    refine (relies_mhCreateHook hs api true hnew).weaken fun t ok hok => ?_
    refine ⟨wsaStarted, fun _ => rfl, ?_⟩
    rw [List.forall_mem_singleton]
    rcases hok with ⟨rfl, hload, hinit, hcreates, -⟩ | ⟨rfl, hload, hnot⟩
    · refine Or.inl ⟨rfl, hload, fun hmem => absurd hmem hother, hinit, hcreates, ?_⟩
      exact fun heq => absurd heq hapi
    · exact Or.inr ⟨rfl, hload, fun hcan => hnot ⟨hcan.initialized, hcan.creates, rfl⟩⟩
  subst hapi
  obtain rfl := hwsa rfl
  have hmem : HookedApi.connectEx ∈ [HookedApi.connectEx] := List.mem_singleton.mpr rfl
  -- The pointer of `ConnectEx` is found, or winsock is started for nothing, or not even that.
  have hpointer : getConnectEx.Relies (exec env) (promises env) .loader (fun t found =>
      ∃ wsaStarted', Loading (installing initialized created wsaStarted') 0 t ∧
        (found = true ↔ env.winsock = true ∧ env.connectEx = true) ∧
        (found = true → wsaStarted' = true)) s := by
    refine Prog.relies_bind (Q := fun t started =>
      Loading (installing initialized created started) 0 t ∧ started = env.winsock) ?_ ?_
    · refine relies_installing hs fun t started t' hinstall hperform => ?_
      rw [perform] at hperform
      split_ifs at hperform with hwinsock
      · obtain ⟨rfl, rfl⟩ := Prod.mk.inj (Option.some.inj hperform)
        rw [hinstall]
        exact ⟨rfl, rfl, rfl, ⟨initialized, created, true, rfl⟩,
          fun hload => ⟨hload, hwinsock.symm⟩⟩
      · obtain ⟨rfl, rfl⟩ := Prod.mk.inj (Option.some.inj hperform)
        refine ⟨rfl, rfl, rfl, ⟨_, _, _, hinstall⟩, fun hload => ?_⟩
        rw [hinstall] at hload
        exact ⟨hload, (eq_false_of_ne_true hwinsock).symm⟩
    · rintro t started ⟨hload, hstarted⟩
      cases started with
      | false =>
        refine ⟨false, hload, ?_, nofun⟩
        rw [← hstarted]
        exact ⟨nofun, fun h => h.1⟩
      | true =>
        refine relies_installing hload fun t found t' hinstall hperform => ?_
        obtain ⟨rfl, rfl⟩ := Prod.mk.inj (Option.some.inj hperform)
        refine ⟨rfl, rfl, rfl, ⟨_, _, _, hinstall⟩, fun hload => ⟨true, ?_, ?_, fun _ => rfl⟩⟩
        · rw [← hinstall]
          exact hload
        · rw [← hstarted]
          exact ⟨fun h => ⟨rfl, h⟩, fun h => h.2⟩
  refine Prog.relies_bind hpointer ?_
  rintro t found ⟨wsaStarted', hload, hfound, hstarted⟩
  refine (relies_mhCreateHook hload .connectEx found hnew).weaken fun t' ok hok => ?_
  refine ⟨wsaStarted', fun hnot => absurd hmem hnot, ?_⟩
  rw [List.forall_mem_singleton]
  rcases hok with ⟨rfl, hload', hinit, hcreates, htarget⟩ | ⟨rfl, hload', hnot⟩
  · refine Or.inl ⟨rfl, hload', fun _ => hstarted htarget, hinit, hcreates, ?_⟩
    exact fun _ => hfound.mp htarget
  · refine Or.inr ⟨rfl, hload', fun hcan => hnot ⟨hcan.initialized, hcan.creates, ?_⟩⟩
    exact hfound.mpr (hcan.target rfl)

/-- All the hooks are created, or none is left. -/
lemma relies_createHooks {initialized : Bool} {apis created : List HookedApi} {wsaStarted : Bool}
    (hs : Loading (installing initialized created wsaStarted) 0 s) (hnew : (created ++ apis).Nodup)
    (hwsa : .connectEx ∈ apis → wsaStarted = false) :
    (createHooks apis).Relies (exec env) (promises env) .loader
      (Outcome env initialized created apis wsaStarted) s := by
  induction apis generalizing s created wsaStarted with
  | nil =>
    refine ⟨wsaStarted, fun _ => rfl, Or.inl ⟨rfl, ?_, nofun, nofun⟩⟩
    rw [List.append_nil]
    exact hs
  | cons api rest ih =>
    have hapi : api ∉ created := fun hmem =>
      (List.nodup_append.mp hnew).2.2 api hmem api List.mem_cons_self rfl
    have hrest : api ∉ rest := (List.nodup_cons.mp (List.nodup_append.mp hnew).2.1).1
    have hnone : .connectEx ∉ api :: rest → .connectEx ∉ [api] ∧ .connectEx ∉ rest := by
      rw [List.mem_singleton, List.mem_cons]
      exact not_or.mp
    refine Prog.relies_bind (relies_create hs hapi fun heq => hwsa (by rw [heq]; simp)) ?_
    rintro t ok ⟨wsa, hwsame, ⟨rfl, hload, hwone, hcan⟩ | ⟨rfl, hload, hnot⟩⟩
    case inr =>
      refine ⟨wsa, fun hout => hwsame (hnone hout).1, Or.inr ⟨rfl, hload, fun hall => ?_⟩⟩
      exact hnot (List.forall_mem_singleton.mpr (hall api List.mem_cons_self))
    rw [List.forall_mem_singleton] at hcan
    have hother : .connectEx ∈ rest → .connectEx ∉ [api] := fun hmem heq =>
      hrest (by rw [← List.mem_singleton.mp heq]; exact hmem)
    have hnewrest : (created ++ [api] ++ rest).Nodup := by
      rw [List.append_assoc]
      exact hnew
    refine Prog.relies_bind (ih hload hnewrest fun hmem => ?_) ?_
    · rw [hwsame (hother hmem)]
      exact hwsa (List.mem_cons_of_mem _ hmem)
    rintro t' all ⟨wsa', hwsame', ⟨rfl, hload', hwone', hcan'⟩ | ⟨rfl, hload', hnot'⟩⟩
    · rw [List.append_assoc] at hload'
      refine ⟨wsa', fun hout => ?_, Or.inl ⟨rfl, hload', fun hmem => ?_, ?_⟩⟩
      · rw [hwsame' (hnone hout).2]
        exact hwsame (hnone hout).1
      · by_cases hin : .connectEx ∈ rest
        · exact hwone' hin
        · rw [hwsame' hin]
          exact hwone (List.mem_singleton.mpr ((List.mem_cons.mp hmem).resolve_right hin))
      · exact List.forall_mem_cons.mpr ⟨hcan, hcan'⟩
    · -- The hooks behind this one are gone again, and this one goes too.
      refine Prog.relies_bind (Q := fun t'' _ =>
        Loading (installing initialized created wsa') 0 t'') ?_ ?_
      · refine relies_installing hload' fun u x u' hinstall hperform => ?_
        obtain ⟨rfl, rfl⟩ := Prod.mk.inj (Option.some.inj hperform)
        have herase : (created ++ [api]).erase api = created := by
          rw [List.erase_append_right _ hapi, List.erase_cons_head, List.append_nil]
        rw [hinstall]
        dsimp only [installing]
        rw [herase]
        exact ⟨rfl, rfl, rfl, ⟨initialized, created, wsa', rfl⟩, id⟩
      · rintro t'' - hload''
        refine ⟨wsa', fun hout => ?_, Or.inr ⟨rfl, hload'', fun hall => ?_⟩⟩
        · rw [hwsame' (hnone hout).2]
          exact hwsame (hnone hout).1
        · exact hnot' fun api' hmem => hall api' (List.mem_cons_of_mem _ hmem)

/-- `DllMain` returns, with a client to come or an image to be freed. -/
lemma relies_leaveDllMain {install : Installation} (hs : s.install = install)
    (hloading : install.loading = true) (hmapped : install.mapped = true)
    (hreturned : install.client ≠ none ∨ install.unloader = true) :
    (ask .leaveDllMain).Relies (exec env) (promises env) .loader (fun _ _ => True) s := by
  subst hs
  refine Prog.relies_ask fun t x t' hsound hrely hexec => ?_
  have hinstall := (hrely hloading).1
  have hperform := perform_of_exec hexec (by rw [hinstall]; exact hmapped)
  obtain ⟨rfl, rfl⟩ := Prod.mk.inj (Option.some.inj hperform)
  rw [← hinstall] at hloading hmapped hreturned
  have hinst := hsound.installed
  refine ⟨⟨hsound.not_faulted, ⟨hinst.startups, hinst.shut, fun hgone => ?_, hinst.enabled,
    hinst.client, fun _ => hreturned⟩, hsound.bound, hsound.begun, hsound.handed, hsound.reads⟩,
    ⟨hloading, rfl, id, rfl, fun _ => ⟨rfl, rfl⟩, id⟩, trivial⟩
  rw [hmapped] at hgone
  cases hgone

/-- The installation once all hooks are created. -/
def hooked (env : Environment) (client : Option PortMappingPayload) : Installation :=
  { installing env.initializes hookOrder true with
    enabled := hookOrder.filter env.enables, client := client }

/-- Nothing is amiss once all hooks are created. -/
lemma installed_hooked {client : Option PortMappingPayload} (hwilling : Willing env)
    (hclient : ∀ payload, client = some payload → payload = payloadAt env 0) :
    Installed env (hooked env client) where
  startups := rfl
  shut := nofun
  unmapped := nofun
  enabled _ := ⟨rfl, rfl⟩
  client payload hsome := ⟨rfl, rfl, hwilling, hclient payload hsome⟩
  returned := nofun

/-- `DllMain` keeps to the pact. -/
lemma relies_dllMainAttach (hs : Loading {} 0 s) :
    dllMainAttach.Relies (exec env) (promises env) .loader (fun _ _ => True) s := by
  have hstart : Loading (installing false [] false) 0 s := hs
  refine Prog.relies_bind (Q := fun t _ =>
    Loading (installing env.initializes [] false) 0 t) ?_ ?_
  · refine relies_installing hstart fun t x t' hinstall hperform => ?_
    obtain ⟨rfl, rfl⟩ := Prod.mk.inj (Option.some.inj hperform)
    rw [hinstall]
    exact ⟨rfl, rfl, rfl, ⟨env.initializes, [], false, rfl⟩, id⟩
  rintro s - hs
  refine Prog.relies_bind (relies_createHooks hs (by decide) fun _ => rfl) ?_
  rintro s created ⟨wsaStarted, -, ⟨rfl, hs, hstarted, hwilling⟩ | ⟨rfl, hs, hunwilling⟩⟩
  · obtain rfl := hstarted (by decide)
    refine Prog.relies_bind (Q := fun t _ => Loading (hooked env none) 0 t) ?_ ?_
    · refine relies_loader hs rfl rfl rfl fun t x t' ht hperform => ?_
      obtain ⟨rfl, rfl⟩ := Prod.mk.inj (Option.some.inj hperform)
      rw [ht.1, ht.2]
      refine ⟨rfl, rfl, installed_hooked hwilling nofun, rfl, nofun, fun hne => absurd rfl hne,
        ?_, Nat.zero_le _, rfl, rfl⟩
      exact fun hne => absurd rfl hne
    rintro s - hs
    refine Prog.relies_bind (Q := fun t payload => Loading (hooked env none) 1 t ∧
      payload = payloadAt env 0) ?_ ?_
    · refine Prog.relies_bind (Q := fun t payload => Loading (hooked env none) 1 t ∧
        payload = env.mapping 0) ?_ ?_
      · refine relies_loader hs rfl rfl rfl fun t x t' ht hperform => ?_
        obtain ⟨rfl, rfl⟩ := Prod.mk.inj (Option.some.inj hperform)
        rw [ht.1, ht.2]
        have hfew : 0 + 1 ≤ kMappingProbeTries := by decide
        exact ⟨rfl, rfl, installed_hooked hwilling nofun, rfl, nofun, id, fun _ => rfl, hfew,
          ⟨rfl, rfl⟩, rfl⟩
      · rintro t payload ⟨ht, rfl⟩
        exact ⟨ht, rfl⟩
    rintro s payload ⟨hs, rfl⟩
    refine Prog.relies_bind (Q := fun t _ =>
      t.install = hooked env (some (payloadAt env 0))) ?_ ?_
    · refine relies_loader hs rfl rfl rfl fun t x t' ht hperform => ?_
      obtain ⟨rfl, rfl⟩ := Prod.mk.inj (Option.some.inj hperform)
      rw [ht.1, ht.2]
      have hfew : 1 ≤ kMappingProbeTries := by decide
      exact ⟨rfl, rfl, installed_hooked hwilling fun _ h => (Option.some.inj h).symm, rfl, nofun,
        id, fun _ => rfl, hfew, rfl⟩
    · rintro t - ht
      exact relies_leaveDllMain ht rfl rfl (Or.inl (Option.some_ne_none _))
  · refine Prog.relies_bind (Q := fun t _ => t.install =
      { installing env.initializes [] wsaStarted with unloader := true }) ?_ ?_
    · refine relies_loader hs rfl rfl rfl fun t x t' ht hperform => ?_
      obtain ⟨rfl, rfl⟩ := Prod.mk.inj (Option.some.inj hperform)
      rw [ht.1, ht.2]
      exact ⟨rfl, rfl, ⟨rfl, fun _ => ⟨rfl, rfl, rfl, hunwilling⟩, nofun, nofun, nofun, nofun⟩, rfl,
        fun _ => rfl, id, fun hne => absurd rfl hne, Nat.zero_le _, rfl⟩
    · rintro t - ht
      exact relies_leaveDllMain ht rfl rfl (Or.inr rfl)

end Loader

/-! ## The thread that frees the image -/

section Unloader

variable {env : Environment} {s : Capsule}

/-- The image is there, and `DllMain` has returned after it left no hook. -/
structure Detaching (i : Installation) : Prop where
  loading : i.loading = false
  mapped : i.mapped = true
  unloader : i.unloader = true

/-- A section of the detachment. -/
lemma relies_detaching {c : CapsuleCall} {Q : Capsule → c.Answer → Prop}
    (hs : Detaching s.install)
    (hstep : ∀ t x t', t.install = s.install → Detaching t.install → Installed env t.install →
      perform env c t = some (x, t') → t'.bindings = t.bindings ∧ t'.reads = t.reads ∧
        t'.faulted = t.faulted ∧ t'.install.client = t.install.client ∧
        Installed env t'.install ∧ Q t' x) :
    (ask c).Relies (exec env) (promises env) .unloader Q s := by
  refine Prog.relies_ask fun t x t' hsound hrely hexec => ?_
  have hinstall := hrely.2.2 hs.loading
  rw [← hinstall] at hs
  obtain ⟨hbindings, hreads, hfaulted, hclient, hinstalled, hQ⟩ :=
    hstep t x t' hinstall hs hsound.installed (perform_of_exec hexec hs.mapped)
  refine ⟨⟨by rw [hfaulted]; exact hsound.not_faulted, hinstalled, ?_, ?_, ?_, ?_⟩,
    Or.inr ⟨hs.loading, hs.unloader, hbindings, hreads, hclient⟩, hQ⟩
  · rw [hbindings]
    exact hsound.bound
  · rw [hbindings, hclient]
    exact hsound.begun
  · rw [hbindings, hclient, hreads]
    exact hsound.handed
  · rw [hreads]
    exact hsound.reads

/-- The detachment leaves winsock as it was found. -/
lemma relies_dllMainDetach (hs : Detaching s.install) :
    dllMainDetach.Relies (exec env) (promises env) .unloader
      (fun t _ => Detaching t.install ∧ t.install.wsaStarted = false) s := by
  refine Prog.relies_bind (Q := fun t _ => Detaching t.install) ?_ ?_
  · refine relies_detaching hs fun t x t' _ ht hinst hperform => ?_
    obtain ⟨-, rfl⟩ := Prod.mk.inj (Option.some.inj hperform)
    obtain ⟨hcreated, -, hnone⟩ := hinst.shut ht.unloader
    exact ⟨rfl, rfl, rfl, rfl, ⟨hinst.startups, fun _ => ⟨hcreated, rfl, hnone⟩, hinst.unmapped,
      fun hne => absurd rfl hne, hinst.client, hinst.returned⟩, ht.loading, ht.mapped, ht.unloader⟩
  rintro s - hs
  refine Prog.relies_bind (Q := fun t _ => Detaching t.install) ?_ ?_
  · refine relies_detaching hs fun t x t' _ ht hinst hperform => ?_
    obtain ⟨-, rfl⟩ := Prod.mk.inj (Option.some.inj hperform)
    obtain ⟨-, henabled, hclient, hunwilling⟩ := hinst.shut ht.unloader
    refine ⟨rfl, rfl, rfl, rfl, ⟨hinst.startups, fun _ => ⟨rfl, henabled, hclient, hunwilling⟩,
      hinst.unmapped, fun hne => absurd henabled hne, fun payload hsome => ?_, hinst.returned⟩,
      ht.loading, ht.mapped, ht.unloader⟩
    rw [hclient] at hsome
    cases hsome
  rintro s - hs
  refine relies_detaching hs fun t x t' _ ht hinst hperform => ?_
  rw [perform] at hperform
  split_ifs at hperform with hstarted
  · obtain ⟨-, rfl⟩ := Prod.mk.inj (Option.some.inj hperform)
    obtain ⟨-, henabled, hclient, -⟩ := hinst.shut ht.unloader
    have hone : t.install.startups - 1 = 0 := by
      rw [hinst.startups, hstarted]
      rfl
    refine ⟨rfl, rfl, rfl, rfl, ⟨hone, hinst.shut, fun hgone => ?_, fun hne => absurd henabled hne,
      fun payload hsome => ?_, hinst.returned⟩, ⟨ht.loading, ht.mapped, ht.unloader⟩, rfl⟩
    · exact ⟨ht.unloader, ht.loading, rfl⟩
    · rw [hclient] at hsome
      cases hsome
  · obtain ⟨-, rfl⟩ := Prod.mk.inj (Option.some.inj hperform)
    exact ⟨rfl, rfl, rfl, rfl, hinst, ht, eq_false_of_ne_true hstarted⟩

/-- The thread that frees the image keeps to the pact. -/
lemma relies_unload (hs : s.install.mapped = true) :
    unload.Relies (exec env) (promises env) .unloader (fun _ _ => True) s := by
  refine Prog.relies_bind (Q := fun t _ => t.install.mapped = true ∧
    t.install.unloader = true) ?_ ?_
  · refine Prog.relies_ask fun t x t' hsound hrely hexec => ?_
    have hmapped : t.install.mapped = true := hrely.1.trans hs
    have hperform := perform_of_exec hexec hmapped
    rw [perform] at hperform
    split_ifs at hperform with hunloader
    obtain ⟨-, rfl⟩ := Prod.mk.inj (Option.some.inj hperform)
    exact ⟨hsound, Or.inl rfl, hmapped, hunloader⟩
  rintro s - ⟨hmapped, hunloader⟩
  refine Prog.relies_bind (Q := fun t _ => Detaching t.install) ?_ ?_
  · refine Prog.relies_ask fun t x t' hsound hrely hexec => ?_
    have hmapped' : t.install.mapped = true := hrely.1.trans hmapped
    have hperform := perform_of_exec hexec hmapped'
    rw [perform] at hperform
    split_ifs at hperform with hloading
    obtain ⟨-, rfl⟩ := Prod.mk.inj (Option.some.inj hperform)
    exact ⟨hsound, Or.inl rfl, eq_false_of_ne_true hloading, hmapped', hrely.2.1 hunloader⟩
  rintro s - hs
  refine Prog.relies_bind (relies_dllMainDetach hs) ?_
  rintro s - ⟨hs, hstarted⟩
  refine relies_detaching hs fun t x t' hinstall ht hinst hperform => ?_
  obtain ⟨-, rfl⟩ := Prod.mk.inj (Option.some.inj hperform)
  rw [← hinstall] at hstarted
  exact ⟨rfl, rfl, rfl, rfl, ⟨hinst.startups, hinst.shut,
    fun _ => ⟨ht.unloader, ht.loading, hstarted⟩, hinst.enabled, hinst.client, hinst.returned⟩,
    trivial⟩

end Unloader

/-! ## The thread of the client -/

section Client

variable {env : Environment} {s : Capsule}

/-- The image stays for the client. -/
lemma Sound.mapped_of_client (hs : Sound env s) (hclient : s.install.client ≠ none) :
    s.install.mapped = true := by
  by_contra hgone
  have hunloader := (hs.installed.unmapped (eq_false_of_ne_true hgone)).1
  exact hclient (hs.installed.shut hunloader).2.2.1

/-- The client has begun, has bound this and has read the mapping that often. -/
structure Client (b : Bindings) (reads : ℕ) (s : Capsule) : Prop where
  bindings : s.bindings = b
  client : s.install.client ≠ none
  reads : s.reads = reads

/-- A section of the client's thread. -/
lemma relies_client {c : CapsuleCall} {Q : Capsule → c.Answer → Prop} {b : Bindings} {reads : ℕ}
    (hs : Client b reads s)
    (hstep : ∀ t x t', Client b reads t → perform env c t = some (x, t') →
      t'.install = t.install ∧ t'.faulted = t.faulted ∧ t'.bindings.begun = true ∧
        (Bound env b → Bound env t'.bindings) ∧ b.live ⊆ t'.bindings.live ∧
        (∀ slot object, b.slots slot = some object → t'.bindings.slots slot = some object) ∧
        (t'.reads = t.reads ∨ t'.reads ≤ kMappingProbeTries) ∧ Q t' x) :
    (ask c).Relies (exec env) (promises env) .client Q s := by
  obtain ⟨rfl, hclient, rfl⟩ := hs
  refine Prog.relies_ask fun t x t' hsound hrely hexec => ?_
  obtain ⟨hbindings, hsame⟩ := hrely
  obtain ⟨hclient', hreads⟩ := hsame hclient
  have ht : Client s.bindings s.reads t := ⟨hbindings, by rw [hclient']; exact hclient, hreads⟩
  have hperform := perform_of_exec hexec (hsound.mapped_of_client ht.client)
  obtain ⟨hinstall, hfaulted, hbegun, hbound, hlive, hslots, hfew, hQ⟩ := hstep t x t' ht hperform
  rw [← hbindings] at hbound hlive hslots
  refine ⟨⟨by rw [hfaulted]; exact hsound.not_faulted, by rw [hinstall]; exact hsound.installed,
    hbound hsound.bound, ?_, ?_, ?_⟩, ⟨hinstall, ht.client, hlive, hslots⟩, hQ⟩
  · rw [hinstall]
    exact fun _ => ht.client
  · rw [hbegun]
    exact nofun
  · exact hfew.elim (fun hsame => hsame ▸ hsound.reads) id

/-- The client is begun by `DllMain`, which has read the mapping once. -/
lemma relies_beginClient (hs : s.bindings = {}) :
    (ask .beginClient).Relies (exec env) (promises env) .client
      (fun t payload => Client { begun := true } 1 t ∧ payload = payloadAt env 0) s := by
  refine Prog.relies_ask fun t payload t' hsound hrely hexec => ?_
  have hbindings : t.bindings = {} := hrely.1.trans hs
  cases hclient : t.install.client with
  | none =>
    rw [exec, perform, hclient] at hexec
    cases hexec
  | some handed =>
    have hsome : t.install.client ≠ none := by
      rw [hclient]
      exact Option.some_ne_none _
    have hperform := perform_of_exec hexec (hsound.mapped_of_client hsome)
    rw [perform, hclient] at hperform
    obtain ⟨rfl, rfl⟩ := Prod.mk.inj (Option.some.inj hperform)
    have hone : t.reads = 1 := hsound.handed hsome (by rw [hbindings])
    rw [hbindings]
    refine ⟨⟨hsound.not_faulted, hsound.installed, ⟨nofun, ?_, ?_, fun _ _ => rfl, nofun⟩,
      fun _ => hsome, nofun, hsound.reads⟩, ⟨rfl, hsome, ?_, ?_⟩, ⟨rfl, hsome, hone⟩, ?_⟩
    · exact fun hne => absurd rfl hne
    · exact fun hne => absurd rfl hne
    · rw [hbindings]
      exact List.Subset.refl _
    · rw [hbindings]
      exact nofun
    · exact (hsound.installed.client handed hclient).2.2.2

/-- The client reads the mapping. -/
lemma relies_getIpcPayload {b : Bindings} {reads : ℕ} (hs : Client b reads s)
    (hbegun : b.begun = true) (hfew : reads < kMappingProbeTries) :
    getIpcPayload.Relies (exec env) (promises env) .client
      (fun t payload => Client b (reads + 1) t ∧ payload = payloadAt env reads) s := by
  refine Prog.relies_bind (Q := fun t payload => Client b (reads + 1) t ∧
    payload = env.mapping reads) ?_ ?_
  · refine relies_client hs fun t x t' ht hperform => ?_
    obtain ⟨rfl, rfl⟩ := Prod.mk.inj (Option.some.inj hperform)
    obtain ⟨rfl, hclient, rfl⟩ := ht
    exact ⟨rfl, rfl, hbegun, id, List.Subset.refl _, fun _ _ h => h, Or.inr hfew,
      ⟨rfl, hclient, rfl⟩, rfl⟩
  · rintro t payload ⟨ht, rfl⟩
    exact ⟨ht, rfl⟩

/-- The client waits for the first read that names a port. -/
lemma relies_probeMapping {b : Bindings} (hbegun : b.begun = true) (tries : ℕ) {reads : ℕ}
    (hs : Client b reads s) (hfew : reads + tries = kMappingProbeTries)
    (hclosed : ∀ m < reads, (payloadAt env m).port = 0) :
    (probeMapping tries).Relies (exec env) (promises env) .client
      (fun t payload => (∃ reads, Client b reads t) ∧
        (payload.port ≠ 0 → FirstPort env payload)) s := by
  induction tries generalizing s reads with
  | zero => exact ⟨⟨reads, hs⟩, fun hport => absurd rfl hport⟩
  | succ tries ih =>
    refine Prog.relies_bind (Q := fun t _ => Client b reads t) ?_ ?_
    · refine relies_client hs fun t x t' ht hperform => ?_
      obtain ⟨-, rfl⟩ := Prod.mk.inj (Option.some.inj hperform)
      obtain ⟨rfl, hclient, rfl⟩ := ht
      exact ⟨rfl, rfl, hbegun, id, List.Subset.refl _, fun _ _ h => h, Or.inl rfl,
        ⟨rfl, hclient, rfl⟩⟩
    rintro t - ht
    refine Prog.relies_bind (relies_getIpcPayload ht hbegun (by omega)) ?_
    rintro t payload ⟨ht, rfl⟩
    split_ifs with hport
    · exact ⟨⟨_, ht⟩, fun _ => ⟨reads, by omega, rfl, hport, hclosed⟩⟩
    · refine ih ht (by omega) fun m hm => ?_
      rcases Nat.lt_succ_iff_lt_or_eq.mp hm with hlt | rfl
      · exact hclosed m hlt
      · exact not_not.mp hport

/-- The client has one more object. -/
lemma relies_allocate {b : Bindings} {reads : ℕ} (hs : Client b reads s) (hbegun : b.begun = true) :
    (ask .allocate).Relies (exec env) (promises env) .client (fun t object =>
      Client { b with allocated := b.allocated + 1, live := b.allocated :: b.live } reads t ∧
        object = b.allocated) s := by
  refine relies_client hs fun t x t' ht hperform => ?_
  obtain ⟨rfl, rfl⟩ := Prod.mk.inj (Option.some.inj hperform)
  obtain ⟨rfl, hclient, rfl⟩ := ht
  refine ⟨rfl, rfl, hbegun, fun hb => ?_, List.subset_cons_self _ _, fun _ _ h => h, Or.inl rfl,
    ⟨rfl, hclient, rfl⟩, rfl⟩
  exact ⟨fun slot object h => List.mem_cons_of_mem _ (hb.live slot object h), hb.queue_of_config,
    hb.config_of_nbioMap, hb.begun, hb.dialled⟩

/-- The client binds an object to a slot that is free, after the slots in front of it. -/
lemma relies_store {b : Bindings} {reads : ℕ} (hs : Client b reads s) (hbegun : b.begun = true)
    {slot : Slot} {object : ℕ} (hfree : b.slots slot = none) (hlive : object ∈ b.live)
    (hqueue : slot = .config → b.slots .queue ≠ none)
    (hconfig : slot = .nbioMap → b.slots .config ≠ none) :
    (ask (.store slot (some object))).Relies (exec env) (promises env) .client (fun t _ =>
      Client { b with slots := Function.update b.slots slot (some object) } reads t) s := by
  refine relies_client hs fun t x t' ht hperform => ?_
  obtain ⟨-, rfl⟩ := Prod.mk.inj (Option.some.inj hperform)
  obtain ⟨rfl, hclient, rfl⟩ := ht
  have hkept {slot' : Slot} {object' : ℕ} (h : t.bindings.slots slot' = some object') :
      Function.update t.bindings.slots slot (some object) slot' = some object' := by
    have hother : slot' ≠ slot := by
      rintro rfl
      rw [hfree] at h
      cases h
    rw [Function.update_of_ne hother]
    exact h
  have hbound {slot' : Slot} (h : t.bindings.slots slot' ≠ none) :
      Function.update t.bindings.slots slot (some object) slot' ≠ none := by
    obtain ⟨object', h'⟩ := Option.ne_none_iff_exists'.mp h
    rw [hkept h']
    exact Option.some_ne_none _
  refine ⟨rfl, rfl, hbegun, fun hb => ⟨fun slot' object' h => ?_, fun h => ?_, fun h => ?_,
    fun _ _ => hbegun, hb.dialled⟩, List.Subset.refl _, fun _ _ => hkept, Or.inl rfl,
    ⟨rfl, hclient, rfl⟩⟩
  · by_cases hslot : slot' = slot
    · subst hslot
      dsimp only at h
      rw [Function.update_self] at h
      rw [← Option.some.inj h]
      exact hlive
    · dsimp only at h
      rw [Function.update_of_ne hslot] at h
      exact hb.live slot' object' h
  · by_cases hslot : .config = slot
    · exact hbound (hqueue hslot.symm)
    · dsimp only at h
      rw [Function.update_of_ne hslot] at h
      exact hbound (hb.queue_of_config h)
  · by_cases hslot : .nbioMap = slot
    · exact hbound (hconfig hslot.symm)
    · dsimp only at h
      rw [Function.update_of_ne hslot] at h
      exact hbound (hb.config_of_nbioMap h)

/-- The client connects to a port that it has read. -/
lemma relies_dial {b : Bindings} {reads : ℕ} (hs : Client b reads s) (hbegun : b.begun = true)
    {ipc : PortMappingPayload} (hport : FirstPort env ipc) :
    (ask (.dial ipc)).Relies (exec env) (promises env) .client
      (fun t _ => Client { b with dialled := some ipc } reads t) s := by
  refine relies_client hs fun t x t' ht hperform => ?_
  obtain ⟨-, rfl⟩ := Prod.mk.inj (Option.some.inj hperform)
  obtain ⟨rfl, hclient, rfl⟩ := ht
  refine ⟨rfl, rfl, hbegun, fun hb => ?_, List.Subset.refl _, fun _ _ h => h, Or.inl rfl,
    ⟨rfl, hclient, rfl⟩⟩
  refine ⟨hb.live, hb.queue_of_config, hb.config_of_nbioMap, hb.begun, fun payload hsome => ?_⟩
  rw [← Option.some.inj hsome]
  exact hport

/-- The `io_context` of the client may come back. -/
lemma relies_runClient {b : Bindings} {reads : ℕ} (hs : Client b reads s)
    (hbegun : b.begun = true) :
    (ask .runClient).Relies (exec env) (promises env) .client (fun t _ => Client b reads t) s := by
  refine relies_client hs fun t x t' ht hperform => ?_
  rw [perform, Option.map_eq_some_iff] at hperform
  obtain ⟨how, -, hsame⟩ := hperform
  obtain ⟨-, rfl⟩ := Prod.mk.inj hsame
  obtain ⟨rfl, hclient, rfl⟩ := ht
  exact ⟨rfl, rfl, hbegun, id, List.Subset.refl _, fun _ _ h => h, Or.inl rfl, ⟨rfl, hclient, rfl⟩⟩

/-- A client that has a port binds its objects for good. -/
lemma relies_bindAndRun {reads : ℕ} (hs : Client { begun := true } reads s)
    {ipc : PortMappingPayload} (hport : FirstPort env ipc) :
    (bindAndRun ipc).Relies (exec env) (promises env) .client (fun _ _ => True) s := by
  refine Prog.relies_bind (relies_allocate hs rfl) ?_
  rintro s queue ⟨hs, rfl⟩
  refine Prog.relies_bind (relies_allocate hs rfl) ?_
  rintro s config ⟨hs, rfl⟩
  refine Prog.relies_bind (relies_allocate hs rfl) ?_
  rintro s nbioMap ⟨hs, rfl⟩
  refine Prog.relies_bind (relies_store hs rfl rfl (by simp) nofun nofun) ?_
  rintro s - hs
  refine Prog.relies_bind (relies_store hs rfl rfl (by simp) (fun _ => nofun) nofun) ?_
  rintro s - hs
  refine Prog.relies_bind (relies_store hs rfl rfl (by simp) nofun fun _ => nofun) ?_
  rintro s - hs
  refine Prog.relies_bind (relies_dial hs rfl hport) ?_
  rintro s - hs
  refine Prog.relies_bind (relies_runClient hs rfl) ?_
  rintro s how hs
  -- Nothing comes back from here.
  exact fun t x => x.elim

/-- The thread of the client keeps to the pact. -/
lemma relies_doClient (hs : s.bindings = {}) :
    doClient.Relies (exec env) (promises env) .client (fun _ _ => True) s := by
  refine Prog.relies_bind (relies_beginClient hs) ?_
  rintro s first ⟨hs, rfl⟩
  refine Prog.relies_bind (Q := fun t payload => (∃ reads, Client { begun := true } reads t) ∧
    (payload.port ≠ 0 → FirstPort env payload)) ?_ ?_
  · split_ifs with hport
    · refine relies_probeMapping rfl _ hs rfl fun m hm => ?_
      rw [Nat.lt_one_iff.mp hm]
      exact hport
    · exact ⟨⟨1, hs⟩, fun _ => ⟨0, by decide, rfl, hport, nofun⟩⟩
  rintro s ipc ⟨⟨reads, hs⟩, hfirst⟩
  split_ifs with hport
  · trivial
  · exact relies_bindAndRun hs (hfirst hport)

end Client

/-! ## The threads of the victim -/

section Victim

variable {env : Environment} {s : Capsule} {n : ℕ}

/-- The thread is in a detour, and the objects that it holds are there. -/
structure Inside (held : List ℕ) (s : Capsule) : Prop where
  enabled : s.install.enabled ≠ []
  held : held ⊆ s.bindings.live

/-- In a detour, the image and the originals are there. -/
lemma Sound.of_enabled (hs : Sound env s) (henabled : s.install.enabled ≠ []) :
    s.install.mapped = true ∧ ∀ api, api ∈ s.install.created := by
  constructor
  · by_contra hgone
    have hunloader := (hs.installed.unmapped (eq_false_of_ne_true hgone)).1
    exact henabled (hs.installed.shut hunloader).2.1
  · intro api
    rw [(hs.installed.enabled henabled).1]
    cases api <;> decide

/-- A section of a detour, which changes nothing. -/
lemma relies_inside {c : CapsuleCall} {Q : Capsule → c.Answer → Prop} {held : List ℕ}
    (hs : Inside held s)
    (hstep : ∀ t x t', Sound env t → Inside held t → perform env c t = some (x, t') →
      t' = t ∧ Q t x) :
    (ask c).Relies (exec env) (promises env) (.victim n) Q s := by
  refine Prog.relies_ask fun t x t' hsound hrely hexec => ?_
  have ht : Inside held t := ⟨hrely.1 hs.enabled, List.Subset.trans hs.held hrely.2⟩
  obtain ⟨rfl, hQ⟩ :=
    hstep t x t' hsound ht (perform_of_exec hexec (hsound.of_enabled ht.enabled).1)
  exact ⟨hsound, rfl, hQ⟩

/-- A detour uses an object that it holds. -/
lemma relies_touchIfBound {object : Option ℕ} {held : List ℕ}
    (hs : Inside (object.toList ++ held) s) :
    (touchIfBound object).Relies (exec env) (promises env) (.victim n)
      (fun t _ => Inside (object.toList ++ held) t) s := by
  cases object with
  | none => exact hs
  | some object =>
    refine relies_inside hs fun t x t' hsound ht hperform => ?_
    obtain ⟨-, rfl⟩ := Prod.mk.inj (Option.some.inj hperform)
    exact ⟨if_pos (ht.held List.mem_cons_self), ht⟩

/-- A detour reads one of the globals, and holds what it has read. -/
lemma relies_load {held : List ℕ} (hs : Inside held s) (slot : Slot) :
    (ask (.load slot)).Relies (exec env) (promises env) (.victim n)
      (fun t (value : Option ℕ) => Inside (value.toList ++ held) t) s := by
  refine relies_inside hs fun t x t' hsound ht hperform => ?_
  obtain ⟨rfl, rfl⟩ := Prod.mk.inj (Option.some.inj hperform)
  refine ⟨rfl, ht.enabled, List.append_subset.mpr ⟨fun object hobject => ?_, ht.held⟩⟩
  exact hsound.bound.live slot object (Option.mem_toList.mp hobject)

/-- A detour calls an original. -/
lemma relies_callOriginal {held : List ℕ} (hs : Inside held s) (api : HookedApi) :
    (ask (.callOriginal api)).Relies (exec env) (promises env) (.victim n)
      (fun t _ => Inside held t) s := by
  refine relies_inside hs fun t x t' hsound ht hperform => ?_
  obtain ⟨-, rfl⟩ := Prod.mk.inj (Option.some.inj hperform)
  exact ⟨if_pos ((hsound.of_enabled ht.enabled).2 api), ht⟩

/-- What is held need not be held any longer. -/
lemma Inside.release {object : Option ℕ} {held : List ℕ}
    (hs : Inside (object.toList ++ held) s) : Inside held s :=
  ⟨hs.enabled, (List.append_subset.mp hs.held).2⟩

/-- A detour uses the map, and still holds what it held. -/
lemma relies_touchNbioMap {held : List ℕ} (hs : Inside held s) :
    touchNbioMap.Relies (exec env) (promises env) (.victim n) (fun t _ => Inside held t) s := by
  refine Prog.relies_bind (relies_load hs .nbioMap) fun s map hs => ?_
  exact (relies_touchIfBound hs).weaken fun _ _ hs => hs.release

/-- A detour makes its visits. -/
lemma relies_visitAll {queue : Option ℕ} (visits : List Visit)
    (hs : Inside (queue.toList ++ []) s) :
    (visitAll queue visits).Relies (exec env) (promises env) (.victim n)
      (fun t _ => Inside [] t) s := by
  induction visits generalizing s with
  | nil => exact hs.release
  | cons visit rest ih =>
    cases visit with
    | report => exact Prog.relies_bind (relies_touchIfBound hs) fun _ _ hs => ih hs
    | nbio => exact Prog.relies_bind (relies_touchNbioMap hs) fun _ _ hs => ih hs
    | original api => exact Prog.relies_bind (relies_callOriginal hs api) fun _ _ hs => ih hs

/-- A detour that has a configuration follows its route. -/
lemma relies_followRoute {config : ℕ} (visits : List Visit)
    (hs : Inside ((some config).toList ++ []) s) :
    (followRoute config visits).Relies (exec env) (promises env) (.victim n)
      (fun t _ => Inside [] t) s := by
  refine Prog.relies_bind (relies_touchIfBound hs) fun s _ hs => ?_
  refine Prog.relies_bind (relies_load hs.release .queue) fun s queue hs => ?_
  exact relies_visitAll visits hs

/-- A detour keeps to the pact. -/
lemma relies_detour (call : VictimCall) (hs : Inside [] s) :
    (detour call).Relies (exec env) (promises env) (.victim n) (fun t _ => Inside [] t) s := by
  obtain ⟨api, acts, visits⟩ := call
  have hmode : Prog.Relies (exec env) (promises env) (.victim n) (fun t _ => Inside [] t) s (do
      if acts then touchNbioMap
      ask (.callOriginal api)) := by
    cases acts with
    | false => exact relies_callOriginal hs api
    | true =>
      exact Prog.relies_bind (relies_touchNbioMap hs) fun _ _ hs => relies_callOriginal hs api
  have hcreate : Prog.Relies (exec env) (promises env) (.victim n) (fun t _ => Inside [] t) s (do
      let _ : Unit ← ask (.callOriginal api)
      let bound : Option ℕ ← ask (.load .config)
      match bound with
      | some config => if acts then followRoute config visits else return ()
      | none => return ()) := by
    refine Prog.relies_bind (relies_callOriginal hs api) fun s _ hs => ?_
    refine Prog.relies_bind (relies_load hs .config) fun s bound hs => ?_
    cases bound with
    | none => exact hs
    | some config =>
      cases acts with
      | false => exact hs.release
      | true => exact relies_followRoute visits hs
  have hroute : Prog.Relies (exec env) (promises env) (.victim n) (fun t _ => Inside [] t) s (do
      let bound : Option ℕ ← ask (.load .config)
      match bound with
      | some config =>
        if acts then followRoute config visits else ask (.callOriginal api)
      | none => ask (.callOriginal api)) := by
    refine Prog.relies_bind (relies_load hs .config) fun s bound hs => ?_
    cases bound with
    | none => exact relies_callOriginal hs api
    | some config =>
      cases acts with
      | false => exact relies_callOriginal hs.release api
      | true => exact relies_followRoute visits hs
  cases api <;> first | exact hroute | exact hcreate | exact hmode

/-- The threads of the victim keep to the pact. -/
lemma relies_victim (calls : List VictimCall) (s : Capsule) :
    (victim calls).Relies (exec env) (promises env) (.victim n) (fun _ _ => True) s := by
  induction calls generalizing s with
  | nil => trivial
  | cons call rest ih =>
    refine Prog.relies_bind (Q := fun t entered => entered = true → Inside [] t) ?_ ?_
    · refine Prog.relies_ask fun t entered t' hsound hrely hexec => ?_
      rw [exec, perform, Option.map_some] at hexec
      obtain ⟨rfl, rfl⟩ := Prod.mk.inj (Option.some.inj hexec)
      by_cases hentered : call.api ∈ t.install.enabled
      · have henabled : t.install.enabled ≠ [] := List.ne_nil_of_mem hentered
        rw [if_pos (Or.inl (hsound.of_enabled henabled).1)]
        exact ⟨hsound, rfl, fun _ => ⟨henabled, List.nil_subset _⟩⟩
      · have houtside : t.outside (.enter call.api) = true := decide_eq_true hentered
        rw [if_pos (Or.inr houtside)]
        exact ⟨hsound, rfl, fun h => absurd (of_decide_eq_true h) hentered⟩
    intro s entered hs
    cases entered with
    | false => exact ih s
    | true => exact Prog.relies_bind (relies_detour call (hs rfl)) fun s _ _ => ih s

end Victim

/-! ## The process -/

section Process

variable (env : Environment) (calls : ℕ → List VictimCall)

/-- The threads of the process keep to the pact. -/
lemma keeps_loaded : (loaded calls).Keeps (exec env) (promises env) where
  inv :=
    { not_faulted := rfl
      installed := installed_installing env false [] false
      bound := ⟨nofun, fun hne => absurd rfl hne, fun hne => absurd rfl hne,
        fun _ hne => absurd rfl hne, nofun⟩
      begun := nofun
      handed := fun hne => absurd rfl hne
      reads := Nat.zero_le _ }
  relies
    | .loader => relies_dllMainAttach ⟨rfl, rfl⟩
    | .client => relies_doClient rfl
    | .unloader => relies_unload rfl
    | .victim n => relies_victim (calls n) _

/-- A step leaves what is bound as it is. -/
lemma slots_of_guaranteed {s s' : Capsule} {slot : Slot} {object : ℕ}
    (hsteps : Relation.ReflTransGen (Crew.Guaranteed (promises env)) s s')
    (hbound : s.bindings.slots slot = some object) : s'.bindings.slots slot = some object := by
  induction hsteps with
  | refl => exact hbound
  | tail _ hstep ih =>
    obtain ⟨-, -, i, hguarantee⟩ := hstep
    cases i with
    | loader => rw [LoaderStep.bindings hguarantee]; exact ih
    | client => exact ClientStep.slots hguarantee slot object ih
    | unloader =>
      rcases hguarantee with rfl | hguarantee
      · exact ih
      · rw [hguarantee.bindings]; exact ih
    | victim n =>
      obtain rfl := hguarantee
      exact ih

/-- **No thread is left without what it runs on.** Whatever MinHook, winsock and the loader answer
and however the threads are scheduled, no thread runs in an image that is gone, calls an original
that was not created or uses an object that was freed.  Hooks are live only when all of them were
created and winsock is started; once `DllMain` has returned, all of them are created if they can
be, and otherwise none is left; and the image goes only then, with winsock as it was found. -/
theorem resident (schedule : List Role) :
    let s := ((loaded calls).run (exec env) schedule).state
    s.faulted = false ∧
      (s.install.enabled ≠ [] → s.install.mapped = true ∧ s.install.created = hookOrder ∧
        s.install.startups = 1) ∧
      (s.install.loading = false → if s.install.client = none then
          ¬Willing env ∧ s.install.created = [] ∧ s.install.enabled = []
        else Willing env ∧ s.install.created = hookOrder ∧ s.install.mapped = true) ∧
      (s.install.mapped = false → s.install.client = none ∧ s.install.loading = false ∧
        s.install.startups = 0 ∧ ∀ slot, s.bindings.slots slot = none) := by
  intro s
  have hs : Sound env s := (Crew.run_keeps (keeps_loaded env calls) schedule).inv
  have hinst := hs.installed
  refine ⟨hs.not_faulted, fun henabled => ?_, fun hreturned => ?_, fun hgone => ?_⟩
  · obtain ⟨hcreated, hstarted⟩ := hinst.enabled henabled
    refine ⟨(hs.of_enabled henabled).1, hcreated, ?_⟩
    rw [hinst.startups, hstarted]
    rfl
  · split_ifs with hclient
    · obtain ⟨hcreated, henabled, -, hunwilling⟩ :=
        hinst.shut ((hinst.returned hreturned).resolve_left fun hne => hne hclient)
      exact ⟨hunwilling, hcreated, henabled⟩
    · obtain ⟨payload, hsome⟩ := Option.ne_none_iff_exists'.mp hclient
      obtain ⟨hcreated, -, hwilling, -⟩ := hinst.client payload hsome
      exact ⟨hwilling, hcreated, hs.mapped_of_client hclient⟩
  · obtain ⟨hunloader, hreturned, hstarted⟩ := hinst.unmapped hgone
    obtain ⟨-, -, hclient, -⟩ := hinst.shut hunloader
    refine ⟨hclient, hreturned, ?_, fun slot => ?_⟩
    · rw [hinst.startups, hstarted]
      rfl
    · by_contra hbound
      exact hs.begun (hs.bound.begun slot hbound) hclient

/-- **What is bound stays bound.** Whatever is scheduled before and after, a global that is bound
keeps its object, which stays alive; the configuration is bound only after the queue and the map
only after the configuration; and the client connects only to what the first read of the mapping
names that names a port, within `kMappingProbeTries` reads. -/
theorem bound_for_good (schedule later : List Role) :
    let s := ((loaded calls).run (exec env) schedule).state
    let s' := ((loaded calls).run (exec env) (schedule ++ later)).state
    (∀ slot object, s.bindings.slots slot = some object →
        s'.bindings.slots slot = some object ∧ object ∈ s'.bindings.live) ∧
      (s.bindings.slots .nbioMap ≠ none → s.bindings.slots .config ≠ none) ∧
      (s.bindings.slots .config ≠ none → s.bindings.slots .queue ≠ none) ∧
      (∀ payload, s.bindings.dialled = some payload → FirstPort env payload) ∧
      s.reads ≤ kMappingProbeTries := by
  intro s s'
  have hkeeps := Crew.run_keeps (keeps_loaded env calls) schedule
  have hs : Sound env s := hkeeps.inv
  have hs' : Sound env s' := (Crew.run_keeps (keeps_loaded env calls) (schedule ++ later)).inv
  have hsteps : Relation.ReflTransGen (Crew.Guaranteed (promises env)) s s' := by
    have hrun := Crew.run_guarantees hkeeps later
    rw [Crew.run, Crew.run, ← Mealy.run_append] at hrun
    exact hrun
  refine ⟨fun slot object hbound => ?_, hs.bound.config_of_nbioMap, hs.bound.queue_of_config,
    hs.bound.dialled, hs.reads⟩
  have hbound' := slots_of_guaranteed env hsteps hbound
  exact ⟨hbound', hs'.bound.live slot object hbound'⟩

/-- A port that is there at the second read: the client binds its objects. -/
example :
    let env : Environment := {
      initializes := true, winsock := true, connectEx := true, creates := fun _ => true,
      enables := fun _ => true, ends := none,
      mapping := fun n => if n = 1 then some { noPayload with port := 80 } else none }
    let s := ((loaded fun _ => []).run (exec env)
      (List.replicate 19 .loader ++ List.replicate 10 .client)).state
    s.install.loading = false ∧ s.bindings.slots .nbioMap = some 2 ∧ s.reads = 2 := by
  decide

/-- A function that cannot be hooked: the image goes again. -/
example :
    let env : Environment := {
      initializes := true, winsock := true, connectEx := true, ends := none,
      creates := fun api => decide (api ≠ .connectEx), enables := fun _ => true,
      mapping := fun _ => none }
    let s := ((loaded fun _ => []).run (exec env)
      (List.replicate 28 .loader ++ List.replicate 6 .unloader)).state
    s.install.mapped = false := by
  decide

end Process

end Capsule

end Encapsule
