import Encapsule.Foundation.Mealy
import Encapsule.Injector.Server

/-!
# The session of a control connection

`injectee_session` of `server.hpp`: what the tool does with the messages of one control connection.
The token is checked when the peer introduces itself with a `pid` message, and only then, so that
what a peer can do before depends on the messages it sends (`effectsAuthenticated_iff`).

* `InjecteeSession.process`: what one message does.
* `InjecteeSession.step`: a message, the end of the connection, or the work of other threads.
-/

namespace Encapsule

/-- What a session does besides changing the records of the server. -/
inductive SessionEffect where
  /-- The line on the error stream about a refused hello. -/
  | refused (pid : DWORD)
  /-- A call of `injector_server::inject`. -/
  | inject (pid : DWORD)
  /-- The configuration is sent to the peer. -/
  | config (cfg : InjectorConfig)
  | processPid (pid : DWORD)
  | processConnect (report : InjecteeConnect)
  | processSubpid (pid : UInt16) (result : Bool)
  | processClose (pid : DWORD)
  deriving DecidableEq

/-- What the operating system answers while a message is handled. -/
structure MessageHost where
  /-- The child processes that `enumerate_child_pids` lists, each with the answers to its
  injection. -/
  children : List (DWORD × InjectHost)
  /-- The answers to the injection that a `subpid` message asks for. -/
  subpid : InjectHost
  /-- Whether the configuration can be written to the socket. -/
  written : Bool
  deriving DecidableEq

/-- `injectee_session`, with the server it belongs to. -/
structure InjecteeSession where
  id : SessionId
  server : InjectorServer
  pid : DWORD := 0
  opened : Bool := false
  closed : Bool := false

namespace InjecteeSession

/-- `stop`. -/
def stop (s : InjecteeSession) (ending : SessionEnd) : InjecteeSession × List SessionEffect :=
  let closed := { s with closed := true, opened := false }
  if !s.opened then (closed, [])
  else ({ closed with server := s.server.remove s.pid ending }, [.processClose s.pid])

/-- The `pid` branch of `process`. -/
def processHello (s : InjecteeSession) (host : MessageHost) (pid : DWORD) (token : Option Bytes) :
    InjecteeSession × List SessionEffect :=
  if !s.server.injector.tokenMatches pid token then
    let (s, effects) := s.stop .lost
    (s, .refused pid :: effects)
  else
    let (server, opened) := s.server.open pid s.id
    let cfg := server.config
    let children := if cfg.subprocess = some true then host.children else []
    let greeted := if host.written && !s.closed then [.config cfg, .processPid pid] else []
    ({ s with server := server.injectAll children, pid, opened },
      children.map (fun child => .inject child.1) ++ greeted)

/-- `close` of the server stops the session of the process. -/
lemma server_close {s : InjecteeSession} {pid : DWORD}
    (h : s.server.clients.lookup pid = some s.id) :
    s.server.close pid (fun _ => if s.opened then some s.pid else none) =
      ((s.stop .retired).1.server, true) := by
  unfold InjectorServer.close stop
  rw [h]
  cases s.opened with
  | false => rfl
  | true => rfl

/-- `process`. -/
def process (s : InjecteeSession) (host : MessageHost) (msg : InjecteeMessage) :
    InjecteeSession × List SessionEffect :=
  match compareMessage "pid" msg.opcode msg.pid with
  | some v => s.processHello host v msg.token
  | none =>
    match compareMessage "connect" msg.opcode msg.connect with
    | some report => (s, [.processConnect report])
    | none =>
      match compareMessage "subpid" msg.opcode msg.subpid with
      | some v =>
        let (server, verdict) := s.server.inject v host.subpid
        ({ s with server }, [.inject v, .processSubpid v.toUInt16 verdict.ok])
      | none => (s, [])

end InjecteeSession

/-- What happens to a session. -/
inductive SessionEvent where
  /-- A message arrives. -/
  | message (host : MessageHost) (msg : InjecteeMessage)
  /-- The connection is lost, or the front end closes it. -/
  | stop (ending : SessionEnd)
  /-- Other threads and other sessions have changed the records of the server. -/
  | others (server : InjectorServer)

namespace InjecteeSession

/-- One event, and its effects. -/
def step (s : InjecteeSession) : SessionEvent → InjecteeSession × List SessionEffect
  | .message host msg => s.process host msg
  | .stop ending => s.stop ending
  | .others server => ({ s with server }, [])

/-! ## Effects before the hello -/

/-- The message is a hello with the token of the process it names. -/
def accepts (s : InjecteeSession) (msg : InjecteeMessage) : Bool :=
  match compareMessage "pid" msg.opcode msg.pid with
  | some v => s.server.injector.tokenMatches v msg.token
  | none => false

/-- The message asks for a report or for an injection. -/
def commands (msg : InjecteeMessage) : Bool :=
  (compareMessage "connect" msg.opcode msg.connect).isSome ||
    (compareMessage "subpid" msg.opcode msg.subpid).isSome

/-- The message makes the tool inject a process, report a connection or register a client. -/
def HasEffect (s : InjecteeSession) (host : MessageHost) (msg : InjecteeMessage) : Prop :=
  (∃ pid, .inject pid ∈ (s.process host msg).2) ∨
    (∃ report, .processConnect report ∈ (s.process host msg).2) ∨
    ∃ pid, pid ∉ s.server.clients ∧ pid ∈ (s.process host msg).1.server.clients

/-- One of the messages was an accepted hello when it arrived. -/
def Authenticated (s : InjecteeSession) (events : List SessionEvent) : Prop :=
  ∃ pre host msg post, events = pre ++ .message host msg :: post ∧
    (Mealy.run step s pre).accepts msg = true

/-- No message has an effect on the tool without an accepted hello. -/
def EffectsAuthenticated (s : InjecteeSession) (events : List SessionEvent) : Prop :=
  ∀ pre host msg post, events = pre ++ .message host msg :: post →
    (Mealy.run step s pre).HasEffect host msg → s.Authenticated (pre ++ [.message host msg])

/-- No message asks for a report or an injection before an accepted hello. -/
def CommandsAuthenticated (s : InjecteeSession) (events : List SessionEvent) : Prop :=
  ∀ pre host msg post, events = pre ++ .message host msg :: post → commands msg = true →
    s.Authenticated pre

variable {s : InjecteeSession} {host : MessageHost} {msg : InjecteeMessage}

/-- The end of a session is no effect on the tool, and registers nobody. -/
lemma stop_effects (s : InjecteeSession) (ending : SessionEnd) :
    (∀ pid, SessionEffect.inject pid ∉ (s.stop ending).2) ∧
      (∀ report, SessionEffect.processConnect report ∉ (s.stop ending).2) ∧
      ∀ pid ∈ (s.stop ending).1.server.clients, pid ∈ s.server.clients := by
  unfold stop
  split_ifs
  · exact ⟨by simp, by simp, fun pid h => h⟩
  · exact ⟨by simp, by simp, fun pid h => InjectorServer.mem_clients_of_mem_remove h⟩

/-- A refused message that asks for nothing has no effect. -/
lemma not_hasEffect (haccepts : s.accepts msg = false) (hcommands : commands msg = false) :
    ¬ s.HasEffect host msg := by
  unfold commands at hcommands
  rw [Bool.or_eq_false_iff, Option.isSome_eq_false_iff, Option.isSome_eq_false_iff,
    Option.isNone_iff_eq_none, Option.isNone_iff_eq_none] at hcommands
  obtain ⟨hconnect, hsubpid⟩ := hcommands
  unfold accepts at haccepts
  unfold HasEffect process
  cases hpid : compareMessage "pid" msg.opcode msg.pid with
  | none =>
    simp only [hconnect, hsubpid]
    rintro (⟨pid, h⟩ | ⟨report, h⟩ | ⟨pid, hnew, hold⟩)
    · cases h
    · cases h
    · exact hnew hold
  | some v =>
    simp only [hpid] at haccepts
    obtain ⟨hinject, hreport, hclients⟩ := s.stop_effects .lost
    simp only [processHello, haccepts, Bool.not_false, if_true, List.mem_cons, reduceCtorEq,
      false_or]
    rintro (⟨pid, h⟩ | ⟨report, h⟩ | ⟨pid, hnew, hold⟩)
    · exact hinject pid h
    · exact hreport report h
    · exact hnew (hclients pid hold)

/-- A message that asks for a report or an injection gets it, accepted hello or not. -/
lemma hasEffect_of_commands (hcommands : commands msg = true) :
    s.HasEffect host msg ∧ s.accepts msg = false := by
  have hopcode : msg.opcode = some "connect" ∨ msg.opcode = some "subpid" := by
    simp only [commands, compareMessage, Bool.or_eq_true] at hcommands
    rcases hcommands with h | h
    · split_ifs at h with hconnect
      · exact Or.inl hconnect
      · cases h
    · split_ifs at h with hsubpid
      · exact Or.inr hsubpid
      · cases h
  have hpid : compareMessage "pid" msg.opcode msg.pid = none := by
    rcases hopcode with h | h <;> simp [compareMessage, h]
  refine ⟨?_, by simp only [accepts, hpid]⟩
  unfold HasEffect process
  simp only [hpid]
  cases hconnect : compareMessage "connect" msg.opcode msg.connect with
  | some report => exact Or.inr (Or.inl ⟨report, List.mem_singleton.mpr rfl⟩)
  | none =>
    cases hsubpid : compareMessage "subpid" msg.opcode msg.subpid with
    | some v => exact Or.inl ⟨v, List.mem_cons_self⟩
    | none => simp [commands, hconnect, hsubpid] at hcommands

/-- What is authenticated stays so. -/
lemma Authenticated.append {pre : List SessionEvent} (h : s.Authenticated pre)
    (post : List SessionEvent) : s.Authenticated (pre ++ post) := by
  obtain ⟨pre', host, msg, post', rfl, haccepts⟩ := h
  exact ⟨pre', host, msg, post' ++ post, by simp, haccepts⟩

/-- A message that is no accepted hello authenticates nothing. -/
lemma authenticated_of_concat {pre : List SessionEvent}
    (haccepts : (Mealy.run step s pre).accepts msg = false)
    (h : s.Authenticated (pre ++ [.message host msg])) : s.Authenticated pre := by
  obtain ⟨pre', host', msg', post', heq, haccepts'⟩ := h
  rcases List.eq_nil_or_concat post' with rfl | ⟨post'', last, rfl⟩
  · obtain ⟨rfl, hlast⟩ := List.append_inj' heq rfl
    obtain ⟨rfl, rfl⟩ := SessionEvent.message.inj (List.head_eq_of_cons_eq hlast)
    rw [haccepts] at haccepts'
    cases haccepts'
  · have hassoc : pre' ++ .message host' msg' :: (post'' ++ [last]) =
        (pre' ++ .message host' msg' :: post'') ++ [last] := by simp
    rw [List.concat_eq_append, hassoc] at heq
    obtain ⟨rfl, -⟩ := List.append_inj' heq rfl
    exact ⟨pre', host', msg', post'', rfl, haccepts'⟩

/-- In every run of a session, nothing has an effect on the tool without an accepted hello, exactly
when nothing asks for a report or an injection before one. -/
theorem effectsAuthenticated_iff (id : SessionId) (server : InjectorServer)
    (events : List SessionEvent) :
    EffectsAuthenticated { id, server } events ↔ CommandsAuthenticated { id, server } events := by
  constructor
  · intro h pre host msg post hevents hcommands
    obtain ⟨heffect, haccepts⟩ := hasEffect_of_commands hcommands
    exact authenticated_of_concat haccepts (h pre host msg post hevents heffect)
  · intro h pre host msg post hevents heffect
    by_cases haccepts : (Mealy.run step { id, server } pre).accepts msg = true
    · exact ⟨pre, host, msg, [], rfl, haccepts⟩
    · by_cases hcommands : commands msg = true
      · exact (h pre host msg post hevents hcommands).append _
      · rw [Bool.not_eq_true] at haccepts hcommands
        exact absurd heffect (not_hasEffect haccepts hcommands)

/-- A peer whose first message is a `subpid` message has a process of its choice injected. -/
theorem not_effectsAuthenticated_subpid :
    let session : InjecteeSession := { id := 0, server := { port := 40000 } }
    let inject : InjectHost :=
      { process := true, isWow64 := some false, resident := false, injectee := true,
        random := some (Vector.replicate 8 7), mapping := true, view := true,
        load := .exited (some 1) }
    let host : MessageHost := { children := [], subpid := inject, written := true }
    let msg : InjecteeMessage := { opcode := some "subpid", subpid := some 5 }
    ¬ session.EffectsAuthenticated [.message host msg] ∧
      (session.process host msg).2 = [.inject 5, .processSubpid 5 true] := by
  intro session inject host msg
  have hprocess : (session.process host msg).2 = [.inject 5, .processSubpid 5 true] := by
    decide
  refine ⟨fun h => ?_, hprocess⟩
  have heffect : session.HasEffect host msg := Or.inl ⟨5, by simp [hprocess]⟩
  obtain ⟨pre, host', msg', post, hevents, haccepts⟩ := h [] host msg [] rfl heffect
  obtain ⟨rfl, hmsg⟩ : pre = [] ∧ SessionEvent.message host msg = .message host' msg' := by
    cases pre with
    | nil => exact ⟨rfl, List.head_eq_of_cons_eq hevents⟩
    | cons e pre => simp at hevents
  obtain ⟨rfl, rfl⟩ := SessionEvent.message.inj hmsg
  cases haccepts

end InjecteeSession

end Encapsule
