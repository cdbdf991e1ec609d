import Encapsule.Foundation.Threads
import Encapsule.Injector.Session

/-!
# The threads of the tool

The functions of `server.hpp` and the injection of `injector.hpp` as programs whose calls are the
sections that another thread cannot break up: a test or a change of the table, of the record of kept
bootstraps, of the tokens, an access to `opened_`, a frame on a socket.  The front end and the
io thread run any number of them over one state, and nothing is assumed about which thread goes
next; `config_mutex` is a section that waits.

* `ControlPlane.exec`: what one section does.
* `PlaneThread.body`: the programs that enter, and what they are made of.
* `Plane.Does`: what a program does when it is left alone.  `does_inject`, `does_stop` and
  `does_process`: what `InjectorServer` and `InjecteeSession` do in one step.  `run_message`: so
  does the thread of a message, in the pool.
-/

namespace Encapsule

open Interaction

/-- The members of a session that more than one thread uses. -/
structure Peer where
  pid : DWORD := 0
  opened : Bool := false
  closed : Bool := false
  deriving DecidableEq

/-- The state of the tool: the server, its sessions and the work that is posted. -/
structure ControlPlane where
  server : InjectorServer := {}
  peers : SessionId → Peer := fun _ => {}
  /-- `config_mutex` is held. -/
  held : Bool := false
  /-- The pushes that `co_spawn` was given and that are not begun. -/
  posted : List (SessionId × InjectorConfig) := []

/-- A section. -/
inductive PlaneCall where
  | setPort (port : UInt16)
  /-- The first test of `injector_server::inject`. -/
  | started (pid : DWORD)
  | port
  /-- `injector_clients::insert`. -/
  | insert (pid : DWORD) (session : SessionId)
  /-- `injector_clients::contains`. -/
  | contains (pid : DWORD)
  /-- `injector_clients::find`. -/
  | find (pid : DWORD)
  /-- `injector_clients::erase`. -/
  | erase (pid : DWORD)
  /-- `injector_clients::snapshot`. -/
  | snapshot
  /-- `kept_bootstraps::keep`. -/
  | keep (pid : DWORD)
  /-- `kept_bootstraps::drop`. -/
  | drop (pid : DWORD)
  /-- `config_mutex` is locked, when it is free. -/
  | lock
  | unlock
  /-- A setter writes into `config_`. -/
  | write (call : ConfigSetter)
  /-- `config_` is copied. -/
  | config
  /-- `token_matches`, for the hello of a session. -/
  | tokenMatches (session : SessionId) (pid : DWORD) (presented : Option Bytes)
  | publish (pid : DWORD) (port : UInt16) (host : InjectHost)
  | forgetBootstrap (pid : DWORD) (token : Bytes)
  | forgetToken (pid : DWORD)
  /-- The socket of a session is closed. -/
  | closeSocket (session : SessionId)
  | storePid (session : SessionId) (pid : DWORD)
  | pid (session : SessionId)
  | storeOpened (session : SessionId) (opened : Bool)
  /-- `opened_.exchange(false)`. -/
  | exchangeOpened (session : SessionId)
  /-- `co_spawn` of one push. -/
  | post (session : SessionId) (cfg : InjectorConfig)
  /-- The io thread begins a push, when it is posted. -/
  | begin (session : SessionId) (cfg : InjectorConfig)
  /-- A configuration is written to the socket of a session, which may fail. -/
  | send (session : SessionId) (cfg : InjectorConfig) (written : Bool)
  /-- What a session shows the front end. -/
  | effect (session : SessionId) (shown : SessionEffect)
  deriving DecidableEq

/-- What a section answers. -/
abbrev PlaneCall.Answer : PlaneCall → Type
  | .started _ | .insert _ _ | .contains _ | .tokenMatches _ _ _ | .forgetBootstrap _ _
  | .exchangeOpened _ | .send _ _ _ => Bool
  | .port => UInt16
  | .find _ => Option SessionId
  | .snapshot => List SessionId
  | .keep _ => Option DWORD
  | .config => InjectorConfig
  | .publish _ _ _ => Option Bytes
  | .pid _ => DWORD
  | .setPort _ | .erase _ | .drop _ | .lock | .unlock | .write _ | .forgetToken _ | .closeSocket _
  | .storePid _ _ | .storeOpened _ _ | .post _ _ | .begin _ _ | .effect _ _ => Unit

namespace ControlPlane

/-- Something about one session changes. -/
def setPeer (s : ControlPlane) (session : SessionId) (peer : Peer) : ControlPlane :=
  { s with peers := Function.update s.peers session peer }

/-- What a section does to the state, and what it answers, unless it has to wait. -/
def exec : (c : PlaneCall) → ControlPlane → Option (c.Answer × ControlPlane)
  | .setPort port, s => some ((), { s with server := { s.server with port } })
  | .started _, s => some (decide (s.server.port ≠ noPort), s)
  | .port, s => some (s.server.port, s)
  | .insert pid session, s =>
    if pid ∈ s.server.clients then some (false, s)
    else
      some (true,
        { s with server := { s.server with clients := s.server.clients.insert pid session } })
  | .contains pid, s => some (decide (pid ∈ s.server.clients), s)
  | .find pid, s => some (s.server.clients.lookup pid, s)
  | .erase pid, s =>
    some ((), { s with server := { s.server with clients := s.server.clients.erase pid } })
  | .snapshot, s => some (s.server.snapshot, s)
  | .keep pid, s =>
    some ((s.server.kept.keep pid).2,
      { s with server := { s.server with kept := (s.server.kept.keep pid).1 } })
  | .drop pid, s =>
    some ((), { s with server := { s.server with kept := s.server.kept.drop pid } })
  | .lock, s => if s.held then none else some ((), { s with held := true })
  | .unlock, s => some ((), { s with held := false })
  | .write call, s =>
    some ((), { s with server := { s.server with config := call.write s.server.config } })
  | .config, s => some (s.server.config, s)
  | .tokenMatches _ pid presented, s => some (s.server.injector.tokenMatches pid presented, s)
  | .publish pid port host, s =>
    some ((s.server.injector.publish pid port host).2,
      { s with
        server := { s.server with injector := (s.server.injector.publish pid port host).1 } })
  | .forgetBootstrap pid token, s =>
    some ((s.server.injector.forgetBootstrap pid token).2,
      { s with
        server := { s.server with
          injector := (s.server.injector.forgetBootstrap pid token).1 } })
  | .forgetToken pid, s =>
    some ((), { s with
      server := { s.server with injector := s.server.injector.forgetToken pid } })
  | .closeSocket session, s =>
    some ((), s.setPeer session { s.peers session with closed := true })
  | .storePid session pid, s => some ((), s.setPeer session { s.peers session with pid })
  | .pid session, s => some ((s.peers session).pid, s)
  | .storeOpened session opened, s =>
    some ((), s.setPeer session { s.peers session with opened })
  | .exchangeOpened session, s =>
    some ((s.peers session).opened, s.setPeer session { s.peers session with opened := false })
  | .post session cfg, s => some ((), { s with posted := s.posted ++ [(session, cfg)] })
  | .begin session cfg, s =>
    if (session, cfg) ∈ s.posted then
      some ((), { s with posted := s.posted.erase (session, cfg) })
    else none
  | .send session _ written, s => some (written && !(s.peers session).closed, s)
  | .effect _ _, s => some ((), s)

end ControlPlane

/-- A program of the tool. -/
abbrev Plane (α : Type) : Type := Prog PlaneCall.Answer α

namespace Plane

/-- One section. -/
def atomic (c : PlaneCall) : Plane c.Answer := Prog.ask c

/-! ## The injection -/

/-- `load_into`. -/
def loadInto (pid : DWORD) (token : Bytes) (host : InjectHost) (alreadyEncapsulated : Bool) :
    Plane (Bool × Bool) :=
  let failed : Plane (Bool × Bool) := do
    let _ ← atomic (.forgetBootstrap pid token)
    return (false, alreadyEncapsulated)
  match host.load with
  | .noMemory => failed
  | .notWritten => failed
  | .noLoadLibrary => failed
  | .noThread => failed
  | .late resident => if resident then return (true, true) else failed
  | .exited none => failed
  | .exited (some moduleHandle) =>
    if moduleHandle = 0 then failed else return (true, alreadyEncapsulated)

/-- `injector::inject`. -/
def injectorInject (pid : DWORD) (port : UInt16) (host : InjectHost) : Plane (Bool × Bool) :=
  if !host.process then return (false, false)
  else
    match host.isWow64 with
    | none => return (false, false)
    | some _ =>
      if host.injectee then do
        match ← atomic (.publish pid port host) with
        | none => return (false, host.resident)
        | some token => loadInto pid token host host.resident
      else return (false, host.resident)

/-- `injector_server::inject`. -/
def inject (pid : DWORD) (host : InjectHost) : Plane InjectVerdict := do
  let started : Bool ← atomic (.started pid)
  if !started then return .notStarted
  else do
    let contained : Bool ← atomic (.contains pid)
    if contained then return .alreadyRegistered
    else do
      let port : UInt16 ← atomic .port
      let (ok, resident) ← injectorInject pid port host
      if !ok then return .failed
      else do
        let _ ← atomic (.drop pid)
        return if resident then .alreadyEncapsulated else .attached

/-! ## The server -/

/-- `open`. -/
def «open» (pid : DWORD) (session : SessionId) : Plane Bool := do
  let inserted : Bool ← atomic (.insert pid session)
  if !inserted then return false
  else do
    let _ ← atomic (.drop pid)
    return true

/-- `remove`. -/
def remove (pid : DWORD) : SessionEnd → Plane Unit
  | .retired => do
    let _ ← atomic (.drop pid)
    let _ ← atomic (.forgetToken pid)
    atomic (.erase pid)
  | .lost => do
    let stale : Option DWORD ← atomic (.keep pid)
    match stale with
    | none => atomic (.erase pid)
    | some stale => do
      let _ ← atomic (.forgetToken stale)
      atomic (.erase pid)

/-- The loop of `broadcast_config` over a snapshot. -/
def postAll (cfg : InjectorConfig) : List SessionId → Plane Unit
  | [] => return ()
  | session :: sessions => do
    let _ ← atomic (.post session cfg)
    postAll cfg sessions

/-- `broadcast_config`. -/
def broadcastConfig : Plane Unit := do
  let cfg : InjectorConfig ← atomic .config
  let sessions : List SessionId ← atomic .snapshot
  postAll cfg sessions

/-- A setter of the configuration. -/
def set (call : ConfigSetter) : Plane Unit := do
  let _ ← atomic .lock
  let _ ← atomic (.write call)
  broadcastConfig
  atomic .unlock

/-- `get_config`. -/
def getConfig : Plane InjectorConfig := do
  let _ ← atomic .lock
  let cfg : InjectorConfig ← atomic .config
  let _ ← atomic .unlock
  return cfg

/-! ## The sessions -/

/-- `stop`. -/
def stop (session : SessionId) (ending : SessionEnd) : Plane Unit := do
  let _ ← atomic (.closeSocket session)
  let opened : Bool ← atomic (.exchangeOpened session)
  if !opened then return ()
  else do
    let pid : DWORD ← atomic (.pid session)
    remove pid ending
    let pid : DWORD ← atomic (.pid session)
    atomic (.effect session (.processClose pid))

/-- `close`. -/
def close (pid : DWORD) : Plane Bool := do
  let client : Option SessionId ← atomic (.find pid)
  match client with
  | none => return false
  | some session => do
    stop session .retired
    return true

/-- The loop over `enumerate_child_pids`. -/
def injectAll : List (DWORD × InjectHost) → Plane Unit
  | [] => return ()
  | (pid, host) :: children => do
    let _ ← inject pid host
    injectAll children

/-- The end of the `pid` branch of `process`: the configuration is sent, and the front end is told.
-/
def sendConfig (session : SessionId) (cfg : InjectorConfig) (written : Bool) : Plane Unit := do
  let sent : Bool ← atomic (.send session cfg written)
  if !sent then return ()
  else do
    let pid : DWORD ← atomic (.pid session)
    atomic (.effect session (.processPid pid))

/-- The accepted `pid` branch of `process`. -/
def greet (session : SessionId) (host : MessageHost) (pid : DWORD) : Plane Unit := do
  let _ ← atomic (.storePid session pid)
  let opened ← «open» pid session
  let _ ← atomic (.storeOpened session opened)
  let cfg ← getConfig
  injectAll (if cfg.subprocess = some true then host.children else [])
  sendConfig session cfg host.written

/-- The `pid` branch of `process`. -/
def processHello (session : SessionId) (host : MessageHost) (pid : DWORD) (token : Option Bytes) :
    Plane Unit := do
  let accepted : Bool ← atomic (.tokenMatches session pid token)
  if !accepted then do
    let _ ← atomic (.effect session (.refused pid))
    stop session .lost
  else greet session host pid

/-- `process`. -/
def process (session : SessionId) (host : MessageHost) (msg : InjecteeMessage) : Plane Unit :=
  match compareMessage "pid" msg.opcode msg.pid with
  | some v => processHello session host v msg.token
  | none =>
    match compareMessage "connect" msg.opcode msg.connect with
    | some report => atomic (.effect session (.processConnect report))
    | none =>
      match compareMessage "subpid" msg.opcode msg.subpid with
      | some v => do
        let verdict ← inject v host.subpid
        atomic (.effect session (.processSubpid v.toUInt16 verdict.ok))
      | none => return ()

/-- A push that `broadcast_config` has posted. -/
def push (session : SessionId) (cfg : InjectorConfig) (written : Bool) : Plane Unit := do
  let _ ← atomic (.begin session cfg)
  let _ ← atomic (.send session cfg written)

end Plane

/-- What enters the pool: the calls of the front end, and the work of the io thread. -/
inductive PlaneThread where
  | setPort (port : UInt16)
  | inject (pid : DWORD) (host : InjectHost)
  | close (pid : DWORD)
  | set (call : ConfigSetter)
  | message (session : SessionId) (host : MessageHost) (msg : InjecteeMessage)
  /-- The reader of a session fails. -/
  | lost (session : SessionId)
  | push (session : SessionId) (cfg : InjectorConfig) (written : Bool)
  deriving DecidableEq

/-- The program of a thread. -/
def PlaneThread.body : PlaneThread → Plane Unit
  | .setPort port => Plane.atomic (.setPort port)
  | .inject pid host => do
    let _ ← Plane.inject pid host
  | .close pid => do
    let _ ← Plane.close pid
  | .set call => Plane.set call
  | .message session host msg => Plane.process session host msg
  | .lost session => Plane.stop session .lost
  | .push session cfg written => Plane.push session cfg written

/-- The tool with its threads. -/
abbrev ControlPlane.Pool : Type := Interaction.Pool PlaneCall.Answer ControlPlane

/-- The tool after a schedule, begun with a server and no session. -/
def ControlPlane.after (server : InjectorServer) (schedule : List (Turn PlaneThread)) :
    ControlPlane.Pool :=
  Mealy.run (Pool.step ControlPlane.exec PlaneThread.body) { state := { server } } schedule

namespace Plane

/-! ## Bookkeeping -/

section Bookkeeping

variable {α β : Type} {pid : DWORD}

/-- The section is about the table, the record of kept bootstraps or the tokens, and registers
nobody. -/
def Bookkeeping : PlaneCall → Prop
  | .started _ | .port | .contains _ | .erase _ | .keep _ | .drop _ | .publish _ _ _
  | .forgetBootstrap _ _ | .forgetToken _ => True
  | _ => False

/-- The program does nothing but bookkeeping. -/
abbrev Bookkeeps (p : Plane α) : Prop :=
  p.Guarantees (fun _ => True) Bookkeeping fun _ => True

lemma bookkeeps_step {c : PlaneCall} {f : c.Answer → Plane α} (hc : Bookkeeping c)
    (hrest : ∀ x, Bookkeeps (f x)) : Bookkeeps ((atomic c).bind f) := ⟨hc, fun x _ => hrest x⟩

lemma bookkeeps_last {c : PlaneCall} (hc : Bookkeeping c) : Bookkeeps (atomic c) :=
  ⟨hc, fun _ _ => trivial⟩

lemma bookkeeps_bind {p : Plane β} {f : β → Plane α} (hp : Bookkeeps p)
    (hf : ∀ a, Bookkeeps (f a)) : Bookkeeps (p.bind f) := Prog.guarantees_bind hp fun a _ => hf a

/-- A load only keeps the books. -/
lemma bookkeeps_loadInto {token : Bytes} {host : InjectHost} {already : Bool} :
    Bookkeeps (loadInto pid token host already) := by
  have hfailed :
      Bookkeeps ((atomic (.forgetBootstrap pid token)).bind fun _ => Prog.ret (false, already)) :=
    bookkeeps_step trivial fun _ => trivial
  unfold loadInto
  cases host.load with
  | late resident =>
    cases resident with
    | false => exact hfailed
    | true => trivial
  | exited moduleHandle =>
    cases moduleHandle with
    | none => exact hfailed
    | some moduleHandle =>
      dsimp only
      split_ifs
      · exact hfailed
      · trivial
  | _ => exact hfailed

/-- The injector only keeps the books. -/
lemma bookkeeps_injectorInject {port : UInt16} {host : InjectHost} :
    Bookkeeps (injectorInject pid port host) := by
  unfold injectorInject
  cases host.process with
  | false => trivial
  | true =>
    cases host.isWow64 with
    | none => trivial
    | some isWow64 =>
      cases host.injectee with
      | false => trivial
      | true =>
        refine bookkeeps_step trivial fun token => ?_
        cases token with
        | none => trivial
        | some token => exact bookkeeps_loadInto

/-- An injection only keeps the books. -/
lemma bookkeeps_inject {host : InjectHost} : Bookkeeps (inject pid host) := by
  refine bookkeeps_step trivial fun started => ?_
  cases started with
  | false => trivial
  | true =>
    refine bookkeeps_step trivial fun contained => ?_
    cases contained with
    | true => trivial
    | false =>
      refine bookkeeps_step trivial fun port => ?_
      refine bookkeeps_bind bookkeeps_injectorInject fun end_ => ?_
      obtain ⟨ok, resident⟩ := end_
      cases ok with
      | false => trivial
      | true => exact bookkeeps_step trivial fun _ => trivial

/-- So does the removal of a session. -/
lemma bookkeeps_remove {ending : SessionEnd} : Bookkeeps (remove pid ending) := by
  cases ending with
  | retired =>
    exact bookkeeps_step trivial fun _ => bookkeeps_step trivial fun _ =>
      bookkeeps_last trivial
  | lost =>
    refine bookkeeps_step trivial fun stale => ?_
    cases stale with
    | none => exact bookkeeps_last trivial
    | some stale =>
      exact bookkeeps_step trivial fun _ => bookkeeps_last trivial

/-- And so do injections in a row. -/
lemma bookkeeps_injectAll {children : List (DWORD × InjectHost)} :
    Bookkeeps (injectAll children) := by
  induction children with
  | nil => trivial
  | cons child children ih => exact bookkeeps_bind bookkeeps_inject fun _ => ih

end Bookkeeping

/-! ## The programs alone -/

/-- What a session shows along the way, in the words of `InjecteeSession`. -/
def shown (t : List (Event PlaneCall.Answer)) : List SessionEffect :=
  t.filterMap fun
    | ⟨.started pid, _⟩ => some (.inject pid)
    | ⟨.send _ cfg _, sent⟩ => if sent then some (.config cfg) else none
    | ⟨.effect _ shown, _⟩ => some shown
    | _ => none

/-- Left alone, the program leads from one state to another, with a value and effects. -/
def Does {α : Type} (p : Plane α) (s : ControlPlane) (a : α) (s' : ControlPlane)
    (effects : List SessionEffect) : Prop :=
  ∃ t, p.alone ControlPlane.exec s = some (a, s', t) ∧ shown t = effects

section Does

variable {α β : Type} {s s' s'' : ControlPlane} {effects effects' : List SessionEffect}

lemma does_ret (a : α) : Does (Prog.ret a) s a s [] := ⟨[], rfl, rfl⟩

/-- A section, followed by the rest. -/
lemma does_step {c : PlaneCall} {f : c.Answer → Plane β} {x : c.Answer} {b : β}
    (hexec : ControlPlane.exec c s = some (x, s')) (hrest : Does (f x) s' b s'' effects) :
    Does ((atomic c).bind f) s b s'' (shown [⟨c, x⟩] ++ effects) := by
  obtain ⟨t, halone, rfl⟩ := hrest
  refine ⟨⟨c, x⟩ :: t, Prog.alone_bind (Prog.alone_ask hexec) halone, ?_⟩
  exact @List.filterMap_append _ _ [⟨c, x⟩] t _

lemma does_last {c : PlaneCall} {x : c.Answer} (hexec : ControlPlane.exec c s = some (x, s')) :
    Does (atomic c) s x s' (shown [⟨c, x⟩]) := ⟨_, Prog.alone_ask hexec, rfl⟩

/-- One program after the other. -/
lemma does_bind {p : Plane α} {f : α → Plane β} {a : α} {b : β} (hp : Does p s a s' effects)
    (hf : Does (f a) s' b s'' effects') : Does (p.bind f) s b s'' (effects ++ effects') := by
  obtain ⟨t, hleft, rfl⟩ := hp
  obtain ⟨t', hright, rfl⟩ := hf
  exact ⟨t ++ t', Prog.alone_bind hleft hright, List.filterMap_append⟩

/-- The state and the effects may be written in another way. -/
lemma Does.congr {p : Plane α} {a : α} (hp : Does p s a s' effects) (hs : s' = s'')
    (heffects : effects = effects') : Does p s a s'' effects' := hs ▸ heffects ▸ hp

end Does

/-- The state with another server. -/
abbrev withServer (s : ControlPlane) (server : InjectorServer) : ControlPlane := { s with server }

/-- Left alone, `load_into` does what it does in one step. -/
lemma does_loadInto (s : ControlPlane) (pid : DWORD) (token : Bytes) (host : InjectHost)
    (already : Bool) :
    Does (loadInto pid token host already) s (s.server.injector.loadInto pid token host already).2
      (withServer s { s.server with
        injector := (s.server.injector.loadInto pid token host already).1 }) [] := by
  have hfailed : Does
      ((atomic (.forgetBootstrap pid token)).bind fun _ => Prog.ret (false, already)) s
      (false, already)
      (withServer s { s.server with
        injector := (s.server.injector.forgetBootstrap pid token).1 }) [] :=
    does_step rfl (does_ret _)
  unfold loadInto Injector.loadInto
  cases host.load with
  | late resident =>
    cases resident with
    | false => exact hfailed
    | true => exact does_ret _
  | exited moduleHandle =>
    cases moduleHandle with
    | none => exact hfailed
    | some moduleHandle =>
      dsimp only
      split_ifs
      · exact hfailed
      · exact does_ret _
  | _ => exact hfailed

/-- Left alone, the injector injects in one step. -/
lemma does_injectorInject (s : ControlPlane) (pid : DWORD) (port : UInt16) (host : InjectHost) :
    Does (injectorInject pid port host) s (s.server.injector.inject pid port host).2
      (withServer s { s.server with injector := (s.server.injector.inject pid port host).1 })
      [] := by
  unfold injectorInject Injector.inject
  cases host.process with
  | false => exact does_ret _
  | true =>
    cases host.isWow64 with
    | none => exact does_ret _
    | some isWow64 =>
      cases host.injectee with
      | false => exact does_ret _
      | true =>
        simp only [Bool.not_true, if_true, Bool.false_eq_true, if_false]
        rcases hpublish : s.server.injector.publish pid port host with ⟨injector, token⟩
        have hexec : ControlPlane.exec (.publish pid port host) s =
            some (token, withServer s { s.server with injector }) := by
          simp only [ControlPlane.exec, hpublish]
        cases token with
        | none => exact does_step hexec (does_ret _)
        | some token => exact does_step hexec (does_loadInto _ pid token host host.resident)

/-- Left alone, the server injects in one step. -/
lemma does_inject (s : ControlPlane) (pid : DWORD) (host : InjectHost) :
    Does (inject pid host) s (s.server.inject pid host).2
      (withServer s (s.server.inject pid host).1) [.inject pid] := by
  unfold InjectorServer.inject
  by_cases hport : s.server.port = noPort
  · have hstarted : ControlPlane.exec (.started pid) s = some (false, s) := by
      simp [ControlPlane.exec, hport]
    rw [if_pos hport]
    exact does_step hstarted (does_ret _)
  have hstarted : ControlPlane.exec (.started pid) s = some (true, s) := by
    simp [ControlPlane.exec, hport]
  rw [if_neg hport]
  by_cases hmem : pid ∈ s.server.clients
  · have hcontains : ControlPlane.exec (.contains pid) s = some (true, s) := by
      simp [ControlPlane.exec, hmem]
    rw [if_pos hmem]
    exact does_step hstarted (does_step hcontains (does_ret _))
  have hcontains : ControlPlane.exec (.contains pid) s = some (false, s) := by
    simp [ControlPlane.exec, hmem]
  rw [if_neg hmem]
  refine does_step hstarted (does_step hcontains (does_step rfl ?_))
  have hinner := does_injectorInject s pid s.server.port host
  rcases hinject : s.server.injector.inject pid s.server.port host with ⟨injector, ok, resident⟩
  rw [hinject] at hinner
  cases ok with
  | false => exact does_bind hinner (does_ret _)
  | true => exact does_bind hinner (does_step rfl (does_ret _))

/-- Left alone, a session is registered in one step. -/
lemma does_open (s : ControlPlane) (pid : DWORD) (session : SessionId) :
    Does («open» pid session) s (s.server.open pid session).2
      (withServer s (s.server.open pid session).1) [] := by
  unfold InjectorServer.open
  by_cases hmem : pid ∈ s.server.clients
  · have hinsert : ControlPlane.exec (.insert pid session) s = some (false, s) := if_pos hmem
    rw [if_pos hmem]
    exact does_step hinsert (does_ret _)
  · have hinsert : ControlPlane.exec (.insert pid session) s = some (true,
        withServer s { s.server with clients := s.server.clients.insert pid session }) :=
      if_neg hmem
    rw [if_neg hmem]
    exact does_step hinsert (does_step rfl (does_ret _))

/-- Left alone, a session is taken off the server in one step. -/
lemma does_remove (s : ControlPlane) (pid : DWORD) (ending : SessionEnd) :
    Does (remove pid ending) s () (withServer s (s.server.remove pid ending)) [] := by
  cases ending with
  | retired => exact does_step rfl (does_step rfl (does_last rfl))
  | lost =>
    unfold InjectorServer.remove
    rcases hkeep : s.server.kept.keep pid with ⟨kept, stale⟩
    have hexec : ControlPlane.exec (.keep pid) s =
        some (stale, withServer s { s.server with kept }) := by
      simp only [ControlPlane.exec, hkeep]
    cases stale with
    | none => exact does_step hexec (does_last rfl)
    | some stale => exact does_step hexec (does_step rfl (does_last rfl))

/-- Left alone, the children are injected one after the other. -/
lemma does_injectAll (s : ControlPlane) (children : List (DWORD × InjectHost)) :
    Does (injectAll children) s () (withServer s (s.server.injectAll children))
      (children.map fun child => .inject child.1) := by
  induction children generalizing s with
  | nil => exact does_ret _
  | cons child children ih => exact does_bind (does_inject s child.1 child.2) (ih _)

end Plane

/-- A session, as `InjecteeSession` has it. -/
def ControlPlane.session (s : ControlPlane) (id : SessionId) : InjecteeSession where
  id := id
  server := s.server
  pid := (s.peers id).pid
  opened := (s.peers id).opened
  closed := (s.peers id).closed

/-- What a session has done to itself and to the server. -/
def ControlPlane.put (s : ControlPlane) (session : InjecteeSession) : ControlPlane :=
  { s.setPeer session.id
      { pid := session.pid, opened := session.opened, closed := session.closed } with
    server := session.server }

namespace Plane

/-- Left alone, a session stops in one step. -/
lemma does_stop (s : ControlPlane) (id : SessionId) (ending : SessionEnd) :
    Does (stop id ending) s () (s.put ((s.session id).stop ending).1)
      ((s.session id).stop ending).2 := by
  have hexchange : ControlPlane.exec (.exchangeOpened id)
      (s.setPeer id { s.peers id with closed := true }) =
      some ((s.peers id).opened,
        s.setPeer id { s.peers id with closed := true, opened := false }) := by
    simp [ControlPlane.exec, ControlPlane.setPeer]
  unfold InjecteeSession.stop
  cases hopened : (s.peers id).opened with
  | false =>
    have hsession : (s.session id).opened = false := hopened
    rw [hopened] at hexchange
    rw [hsession]
    exact does_step rfl (does_step hexchange (does_ret _))
  | true =>
    have hsession : (s.session id).opened = true := hopened
    rw [hopened] at hexchange
    rw [hsession]
    refine (does_step rfl (does_step hexchange (does_step rfl (does_bind (does_remove _ _ ending)
      (does_step rfl (does_last rfl)))))).congr ?_ ?_
    · simp [ControlPlane.setPeer, ControlPlane.put, ControlPlane.session]
    · simp [shown, ControlPlane.setPeer, ControlPlane.session]

/-- Left alone, the configuration is read in one step. -/
lemma does_getConfig {s : ControlPlane} (hheld : s.held = false) :
    Does getConfig s s.server.config s [] := by
  have hlock : ControlPlane.exec .lock s = some ((), { s with held := true }) := by
    simp [ControlPlane.exec, hheld]
  have hsame : { s with held := false } = s := by
    rw [← hheld]
  have hunlock : ControlPlane.exec .unlock { s with held := true } = some ((), s) :=
    congrArg (fun s => some ((), s)) hsame
  exact does_step hlock (does_step rfl (does_step hunlock (does_ret _)))

/-- Left alone, the peer gets the configuration and the front end its process, unless the frame is
not written. -/
lemma does_sendConfig (s : ControlPlane) (id : SessionId) (cfg : InjectorConfig) (written : Bool) :
    Does (sendConfig id cfg written) s () s
      (if written && !(s.peers id).closed then [.config cfg, .processPid (s.peers id).pid]
        else []) := by
  have hsend : ControlPlane.exec (.send id cfg written) s =
      some (written && !(s.peers id).closed, s) := rfl
  cases hsent : written && !(s.peers id).closed with
  | false =>
    rw [hsent] at hsend
    exact does_step hsend (does_ret _)
  | true =>
    rw [hsent] at hsend
    exact does_step hsend (does_step rfl (does_last rfl))

/-- Left alone, an accepted hello is handled in one step. -/
lemma does_greet {s : ControlPlane} (hheld : s.held = false) {id : SessionId} {host : MessageHost}
    {pid : DWORD} {token : Option Bytes}
    (haccepted : s.server.injector.tokenMatches pid token = true) :
    Does (greet id host pid) s () (s.put ((s.session id).processHello host pid token).1)
      ((s.session id).processHello host pid token).2 := by
  have hsession : (s.session id).server.injector.tokenMatches pid token = true := haccepted
  unfold InjecteeSession.processHello
  rw [hsession]
  refine (does_step rfl (does_bind (does_open _ pid id) (does_step rfl (does_bind
    (does_getConfig ?_) (does_bind (does_injectAll _ _) (does_sendConfig _ _ _ _)))))).congr ?_ ?_
  · exact hheld
  · simp [ControlPlane.setPeer, ControlPlane.put, ControlPlane.session]
  · simp [shown, ControlPlane.setPeer, ControlPlane.session]

/-- Left alone, a hello is handled in one step. -/
lemma does_processHello {s : ControlPlane} (hheld : s.held = false) (id : SessionId)
    (host : MessageHost) (pid : DWORD) (token : Option Bytes) :
    Does (processHello id host pid token) s ()
      (s.put ((s.session id).processHello host pid token).1)
      ((s.session id).processHello host pid token).2 := by
  have hexec : ControlPlane.exec (.tokenMatches id pid token) s =
      some (s.server.injector.tokenMatches pid token, s) := rfl
  cases haccepted : s.server.injector.tokenMatches pid token with
  | true =>
    rw [haccepted] at hexec
    exact does_step hexec (does_greet hheld haccepted)
  | false =>
    rw [haccepted] at hexec
    have hsession : (s.session id).server.injector.tokenMatches pid token = false := haccepted
    unfold InjecteeSession.processHello
    rw [hsession]
    exact does_step hexec (does_step rfl (does_stop s id .lost))

/-- Left alone, a message is handled in one step. -/
theorem does_process {s : ControlPlane} (hheld : s.held = false) (id : SessionId)
    (host : MessageHost) (msg : InjecteeMessage) :
    Does (process id host msg) s () (s.put ((s.session id).process host msg).1)
      ((s.session id).process host msg).2 := by
  have hput : s.put (s.session id) = s := by
    simp [ControlPlane.put, ControlPlane.session, ControlPlane.setPeer]
  unfold process InjecteeSession.process
  cases compareMessage "pid" msg.opcode msg.pid with
  | some v => exact does_processHello hheld id host v msg.token
  | none =>
    cases compareMessage "connect" msg.opcode msg.connect with
    | some report =>
      rw [hput]
      exact does_last rfl
    | none =>
      cases compareMessage "subpid" msg.opcode msg.subpid with
      | none =>
        rw [hput]
        exact does_ret _
      | some v =>
        refine (does_bind (does_inject s v host.subpid) (does_last rfl)).congr ?_ rfl
        simp [ControlPlane.setPeer, ControlPlane.put, ControlPlane.session]

/-- The thread of a message that is scheduled until it ends handles it in one step. -/
theorem run_message {pool : ControlPlane.Pool} (hheld : pool.state.held = false) (id : SessionId)
    (host : MessageHost) (msg : InjecteeMessage) {i : ℕ}
    (hthread : pool.threads[i]? = some (PlaneThread.message id host msg).body) :
    ∃ t, Mealy.run (Pool.step ControlPlane.exec PlaneThread.body) pool
        (List.replicate t.length (.go i)) =
          { state := pool.state.put ((pool.state.session id).process host msg).1
            threads := pool.threads.set i (.ret ())
            history := pool.history ++ t } ∧
      shown t = ((pool.state.session id).process host msg).2 := by
  obtain ⟨t, halone, hshown⟩ := does_process hheld id host msg
  exact ⟨t, Pool.run_alone hthread halone, hshown⟩

end Plane

/-- The answers to an injection that succeeds. -/
def attachingHost : InjectHost where
  process := true
  isWow64 := some false
  resident := false
  injectee := true
  random := some (Vector.replicate 8 7)
  mapping := true
  view := true
  load := .exited (some 1)

/-- Process 5 is injected, says hello on session 0 and is registered. -/
def helloSchedule : List (Turn PlaneThread) :=
  [.enter (.inject 5 attachingHost), .go 0, .go 0, .go 0, .go 0, .go 0,
    .enter (.message 0 { children := [], subpid := attachingHost, written := true }
      { opcode := some "pid", pid := some 5, token := some (List.replicate 8 7) }),
    .go 1, .go 1, .go 1]

end Encapsule
