import Encapsule.Injectee.Routing
import Encapsule.Injector.ControlPlane

/-!
# What the sessions are sent

A setter writes into `config_`, and a copy of it is sent later: by the setter through a push that
waits on the io thread, or by a hello that has read it.  In between the configuration may have
changed, and a session may be sent an old one.  It is never sent one that the tool did not have:
every frame is the configuration after some beginning of the history of the setters
(`ControlPlane.frame_was_config`).

So what all setters keep, all frames have.  With a proxy from the start that nobody clears, the
capsules never see a configuration without one, and their hooks connect to nothing but a proxy
(`ControlPlane.proxied_from_the_start`).
-/

namespace Encapsule

open Interaction

/-- The writes of the setters, in order. -/
def writes (h : List (Event PlaneCall.Answer)) : List ConfigSetter :=
  h.filterMap fun
    | ⟨.write call, _⟩ => some call
    | _ => none

/-- The configuration after the writes of a history. -/
def configAfter (cfg : InjectorConfig) (h : List (Event PlaneCall.Answer)) : InjectorConfig :=
  (writes h).foldl ConfigSetter.write cfg

/-- The configurations that the sessions were sent, in order. -/
def framesSent (h : List (Event PlaneCall.Answer)) : List (SessionId × InjectorConfig) :=
  h.filterMap fun
    | ⟨.send session cfg _, sent⟩ => if sent then some (session, cfg) else none
    | _ => none

/-- The tool had this configuration once. -/
def WasConfig (start : InjectorConfig) (h : List (Event PlaneCall.Answer))
    (cfg : InjectorConfig) : Prop := ∃ earlier, earlier <+: h ∧ cfg = configAfter start earlier

/-- A frame, or a push that will be one, carries a configuration that the tool has had, and a write
is that of an admitted setter. -/
def FrameWasConfig (start : InjectorConfig) (admitted : ConfigSetter → Prop)
    (h : List (Event PlaneCall.Answer)) : Event PlaneCall.Answer → Prop
  | ⟨.send _ cfg _, _⟩ | ⟨.post _ cfg, _⟩ => WasConfig start h cfg
  | ⟨.write call, _⟩ => admitted call
  | _ => True

/-- The configuration is what the setters have made of it, and so was every one on its way. -/
structure Traced (start : InjectorConfig) (admitted : ConfigSetter → Prop)
    (h : List (Event PlaneCall.Answer)) (s : ControlPlane) : Prop where
  config : s.server.config = configAfter start h
  posted : ∀ push ∈ s.posted, WasConfig start h push.2
  frames : Chronicle (FrameWasConfig start admitted) h

variable {start cfg : InjectorConfig} {admitted : ConfigSetter → Prop}
  {h h' : List (Event PlaneCall.Answer)} {s s' : ControlPlane}

/-- What the tool had once, it had. -/
lemma WasConfig.later (hcfg : WasConfig start h cfg) (hpre : h <+: h') :
    WasConfig start h' cfg := by
  obtain ⟨earlier, hearlier, rfl⟩ := hcfg
  exact ⟨earlier, hearlier.trans hpre, rfl⟩

/-- A section that is no write leaves the configuration as it is. -/
lemma configAfter_concat_of_ne {e : Event PlaneCall.Answer} (he : ∀ call, e.1 ≠ .write call) :
    configAfter start (h ++ [e]) = configAfter start h := by
  have hnone : writes [e] = [] := by
    obtain ⟨c, x⟩ := e
    cases c with
    | write call => exact absurd rfl (he call)
    | _ => rfl
  unfold configAfter writes at *
  rw [List.filterMap_append, hnone, List.append_nil]

/-- A section that is no write and posts nothing may be added to the past. -/
lemma Traced.extend (hs : Traced start admitted h s) {e : Event PlaneCall.Answer}
    (he : FrameWasConfig start admitted h e) (hwrite : ∀ call, e.1 ≠ .write call)
    (hconfig : s'.server.config = s.server.config) (hposted : ∀ push ∈ s'.posted, push ∈ s.posted) :
    Traced start admitted (h ++ [e]) s' where
  config := by
    rw [configAfter_concat_of_ne hwrite, hconfig]
    exact hs.config
  posted push hpush := (hs.posted push (hposted push hpush)).later (List.prefix_append _ _)
  frames := chronicle_concat.mpr ⟨hs.frames, he⟩

/-- Every section keeps track, if the configuration that it sends or posts was had. -/
lemma Traced.step (hs : Traced start admitted h s) {c : PlaneCall} {x : c.Answer}
    (hexec : ControlPlane.exec c s = some (x, s')) (he : FrameWasConfig start admitted h ⟨c, x⟩) :
    Traced start admitted (h ++ [⟨c, x⟩]) s' := by
  cases c with
  | write call =>
    obtain ⟨-, rfl⟩ := Prod.mk.inj (Option.some.inj hexec)
    refine ⟨?_, fun push hpush => ?_, chronicle_concat.mpr ⟨hs.frames, he⟩⟩
    · have hwrites : writes (h ++ [⟨.write call, x⟩]) = writes h ++ [call] :=
        List.filterMap_append
      unfold configAfter
      rw [hwrites, List.foldl_append, List.foldl_cons, List.foldl_nil]
      exact congrArg (fun cfg => call.write cfg) hs.config
    · exact (hs.posted push hpush).later (List.prefix_append _ _)
  | post session cfg =>
    obtain ⟨-, rfl⟩ := Prod.mk.inj (Option.some.inj hexec)
    have hrest : Traced start admitted (h ++ [⟨.post session cfg, x⟩]) s :=
      hs.extend he (fun _ => PlaneCall.noConfusion) rfl fun _ hpush => hpush
    refine { hrest with posted := fun push hpush => ?_ }
    rcases List.mem_append.mp hpush with hold | hlast
    · exact hrest.posted push hold
    · rw [List.mem_singleton.mp hlast]
      exact WasConfig.later he (List.prefix_append _ _)
  | begin session cfg =>
    dsimp only [ControlPlane.exec] at hexec
    split_ifs at hexec
    obtain ⟨-, rfl⟩ := Prod.mk.inj (Option.some.inj hexec)
    exact hs.extend he (fun _ => PlaneCall.noConfusion) rfl fun _ hpush =>
      List.mem_of_mem_erase hpush
  | lock | insert _ _ =>
    dsimp only [ControlPlane.exec] at hexec
    split_ifs at hexec
    all_goals
      obtain ⟨-, rfl⟩ := Prod.mk.inj (Option.some.inj hexec)
      exact hs.extend he (fun _ => PlaneCall.noConfusion) rfl fun _ hpush => hpush
  | _ =>
    obtain ⟨-, rfl⟩ := Prod.mk.inj (Option.some.inj hexec)
    exact hs.extend he (fun _ => PlaneCall.noConfusion) rfl fun _ hpush => hpush

namespace Plane

variable {α β : Type} {session : SessionId} {pid : DWORD}

/-- The section sends, posts and writes no configuration. -/
def Unsent : PlaneCall → Prop
  | .send _ _ _ | .post _ _ | .write _ => False
  | _ => True

/-- The program sends and posts only what the tool has had, and returns what `Q` relates to the
history. -/
abbrev Tracks (start : InjectorConfig) (admitted : ConfigSetter → Prop)
    (Q : List (Event PlaneCall.Answer) → α → Prop) (h : List (Event PlaneCall.Answer))
    (p : Plane α) : Prop :=
  p.Upholds ControlPlane.exec (Traced start admitted) Q h

/-- A program that sends and posts nothing need not look. -/
lemma tracks_of_unsent {p : Plane α} (hp : p.Guarantees (fun _ => True) Unsent fun _ => True) :
    Tracks start admitted (fun _ _ => True) h p := by
  refine Prog.upholds_of_guarantees hp fun h s c x s' hc hs hexec => hs.step hexec ?_
  cases c with
  | send _ _ _ | post _ _ | write _ => exact hc.elim
  | _ => trivial

/-- Bookkeeping sends and posts nothing. -/
lemma unsent_of_bookkeeping {p : Plane α} (hp : Bookkeeps p) :
    p.Guarantees (fun _ => True) Unsent fun _ => True := by
  refine hp.mono (fun _ _ => trivial) (fun c hc => ?_) fun _ _ => trivial
  cases c with
  | send _ _ _ | post _ _ | write _ => exact hc.elim
  | _ => trivial

/-- A section whose frame the tool has had, and what follows. -/
lemma tracks_step {Q : List (Event PlaneCall.Answer) → α → Prop} {c : PlaneCall}
    {f : c.Answer → Plane α}
    (hstep : ∀ h' s x s', h <+: h' → Traced start admitted h' s →
      ControlPlane.exec c s = some (x, s') →
        FrameWasConfig start admitted h' ⟨c, x⟩ ∧ Tracks start admitted Q (h' ++ [⟨c, x⟩]) (f x)) :
    Tracks start admitted Q h ((atomic c).bind f) := by
  intro h' s x s' hpre hs hexec
  obtain ⟨he, hrest⟩ := hstep h' s x s' hpre hs hexec
  exact ⟨hs.step hexec he, hrest⟩

/-- The last section. -/
lemma tracks_last {c : PlaneCall} (hc : Unsent c) :
    Tracks start admitted (fun _ _ => True) h (atomic c) :=
  tracks_of_unsent ⟨hc, fun _ _ => trivial⟩

/-- One program after the other. -/
lemma tracks_bind {Q : List (Event PlaneCall.Answer) → α → Prop} {p : Plane α} {f : α → Plane β}
    (hp : Tracks start admitted Q h p)
    (hf : ∀ h' a, h <+: h' → Q h' a → Tracks start admitted (fun _ _ => True) h' (f a)) :
    Tracks start admitted (fun _ _ => True) h (p.bind f) :=
  Prog.upholds_bind hp.since fun h' a hsince => hf h' a hsince.1 hsince.2

/-- A copy of the configuration is one that the tool has had. -/
lemma wasConfig_read {cfg : InjectorConfig} (hs : Traced start admitted h s)
    (hexec : ControlPlane.exec .config s = some (cfg, s')) : WasConfig start h cfg := by
  obtain ⟨rfl, -⟩ := Prod.mk.inj (Option.some.inj hexec)
  exact ⟨h, List.prefix_refl _, hs.config⟩

/-- A broadcast posts what it has copied. -/
lemma tracks_postAll {sessions : List SessionId} (hcfg : WasConfig start h cfg) :
    Tracks start admitted (fun _ _ => True) h (postAll cfg sessions) := by
  induction sessions generalizing h with
  | nil => trivial
  | cons session sessions ih =>
    refine tracks_step fun h' _ _ _ hpre _ _ => ⟨hcfg.later hpre, ih (hcfg.later ?_)⟩
    exact hpre.trans (List.prefix_append _ _)

/-- A setter posts what it has made of the configuration. -/
lemma tracks_set {call : ConfigSetter} (hcall : admitted call) :
    Tracks start admitted (fun _ _ => True) h (set call) := by
  refine tracks_step fun h₁ _ _ _ _ _ _ => ⟨trivial, ?_⟩
  refine tracks_step fun h₂ _ _ _ _ _ _ => ⟨hcall, ?_⟩
  refine tracks_bind (Q := fun _ _ => True) ?_ fun h₃ _ _ _ => tracks_last trivial
  refine tracks_step fun h₄ _ cfg _ _ hs hexec => ⟨trivial, ?_⟩
  have hcfg : WasConfig start h₄ cfg := wasConfig_read hs hexec
  refine tracks_step fun h₅ _ sessions _ hpre _ _ => ⟨trivial, tracks_postAll (hcfg.later ?_)⟩
  exact ((List.prefix_append _ _).trans hpre).trans (List.prefix_append _ _)

/-- A hello reads a configuration that the tool has had. -/
lemma tracks_getConfig : Tracks start admitted (WasConfig start) h getConfig := by
  refine tracks_step fun h₁ _ _ _ _ _ _ => ⟨trivial, ?_⟩
  refine tracks_step fun h₂ _ cfg _ _ hs hexec => ⟨trivial, ?_⟩
  have hcfg : WasConfig start h₂ cfg := wasConfig_read hs hexec
  refine tracks_step fun h₃ _ _ _ hpre _ _ => ⟨trivial, hcfg.later ?_⟩
  exact ((List.prefix_append _ _).trans hpre).trans (List.prefix_append _ _)

/-- A hello sends what it has read. -/
lemma tracks_sendConfig {written : Bool} (hcfg : WasConfig start h cfg) :
    Tracks start admitted (fun _ _ => True) h (sendConfig session cfg written) := by
  refine tracks_step fun h₁ _ sent _ hpre _ _ => ⟨hcfg.later hpre, ?_⟩
  cases sent with
  | false => trivial
  | true => exact tracks_step fun _ _ _ _ _ _ _ => ⟨trivial, tracks_last trivial⟩

/-- A registration sends nothing. -/
lemma tracks_open : Tracks start admitted (fun _ _ => True) h («open» pid session) := by
  refine tracks_step fun _ _ inserted _ _ _ _ => ⟨trivial, ?_⟩
  cases inserted with
  | false => trivial
  | true => exact tracks_step fun _ _ _ _ _ _ _ => ⟨trivial, trivial⟩

/-- An accepted hello sends what it has read. -/
lemma tracks_greet {host : MessageHost} :
    Tracks start admitted (fun _ _ => True) h (greet session host pid) := by
  refine tracks_step fun _ _ _ _ _ _ _ => ⟨trivial, ?_⟩
  refine tracks_bind tracks_open fun _ opened _ _ => ?_
  refine tracks_step fun _ _ _ _ _ _ _ => ⟨trivial, ?_⟩
  refine tracks_bind tracks_getConfig fun h₁ cfg _ hcfg => ?_
  refine tracks_bind (tracks_of_unsent (unsent_of_bookkeeping bookkeeps_injectAll))
    fun h₂ _ hpre _ => tracks_sendConfig (hcfg.later hpre)

/-- The end of a session sends nothing. -/
lemma tracks_stop {ending : SessionEnd} :
    Tracks start admitted (fun _ _ => True) h (stop session ending) := by
  refine tracks_step fun _ _ _ _ _ _ _ => ⟨trivial, ?_⟩
  refine tracks_step fun _ _ taken _ _ _ _ => ⟨trivial, ?_⟩
  cases taken with
  | false => trivial
  | true =>
    refine tracks_step fun _ _ _ _ _ _ _ => ⟨trivial, ?_⟩
    refine tracks_bind (tracks_of_unsent (unsent_of_bookkeeping bookkeeps_remove)) fun _ _ _ _ => ?_
    exact tracks_step fun _ _ _ _ _ _ _ => ⟨trivial, tracks_last trivial⟩

/-- A message is answered with a configuration that the tool has had. -/
lemma tracks_process {host : MessageHost} {msg : InjecteeMessage} :
    Tracks start admitted (fun _ _ => True) h (process session host msg) := by
  unfold process
  cases compareMessage "pid" msg.opcode msg.pid with
  | some v =>
    refine tracks_step fun _ _ accepted _ _ _ _ => ⟨trivial, ?_⟩
    cases accepted with
    | true => exact tracks_greet
    | false => exact tracks_step fun _ _ _ _ _ _ _ => ⟨trivial, tracks_stop⟩
  | none =>
    cases compareMessage "connect" msg.opcode msg.connect with
    | some report => exact tracks_last trivial
    | none =>
      cases compareMessage "subpid" msg.opcode msg.subpid with
      | none => trivial
      | some v =>
        exact tracks_bind (tracks_of_unsent (unsent_of_bookkeeping bookkeeps_inject))
          fun _ _ _ _ => tracks_last trivial

/-- A push sends what was posted. -/
lemma tracks_push {written : Bool} :
    Tracks start admitted (fun _ _ => True) h (push session cfg written) := by
  refine tracks_step fun h₁ s _ s' _ hs hexec => ⟨trivial, ?_⟩
  have hmem : (session, cfg) ∈ s.posted := by
    dsimp only [ControlPlane.exec] at hexec
    split_ifs at hexec with hmem
    exact hmem
  refine tracks_step fun h₂ _ _ _ hpre _ _ => ⟨?_, trivial⟩
  exact WasConfig.later (hs.posted _ hmem) ((List.prefix_append _ _).trans hpre)

/-- Every thread sends and posts only what the tool has had. -/
lemma tracks_body {thread : PlaneThread} (hset : ∀ call, thread = .set call → admitted call) :
    Tracks start admitted (fun _ _ => True) h thread.body := by
  cases thread with
  | setPort port => exact tracks_last trivial
  | inject pid host =>
    exact tracks_bind (tracks_of_unsent (unsent_of_bookkeeping bookkeeps_inject))
      fun _ _ _ _ => trivial
  | set call => exact tracks_set (hset call rfl)
  | message session host msg => exact tracks_process
  | lost session => exact tracks_stop
  | push session cfg written => exact tracks_push
  | close pid =>
    refine tracks_bind (Q := fun _ _ => True) ?_ fun _ _ _ _ => trivial
    refine tracks_step fun _ _ client _ _ _ _ => ⟨trivial, ?_⟩
    cases client with
    | none => trivial
    | some session => exact tracks_bind tracks_stop fun _ _ _ _ => trivial

end Plane

namespace ControlPlane

/-- Every configuration that is posted or sent to a session is one that the tool has had: what it
was begun with, after the writes of some beginning of the history of the setters that were called.
-/
theorem frame_was_config (server : InjectorServer) (schedule : List (Turn PlaneThread)) :
    Chronicle (FrameWasConfig server.config fun call => .enter (.set call) ∈ schedule)
      (after server schedule).history := by
  have hinit : Traced server.config (fun call => .enter (.set call) ∈ schedule) [] { server } :=
    ⟨rfl, by simp, chronicle_nil⟩
  refine (Pool.run_upholds (s := { state := { server } }) ⟨hinit, by simp⟩
    fun thread hthread => Plane.tracks_body fun call hcall => ?_).holds.frames
  rw [← hcall]
  exact hthread

/-- What the configuration has from the start and every setter that is called keeps, every frame
has. -/
lemma frame_of_kept {good : InjectorConfig → Prop} {server : InjectorServer}
    {schedule : List (Turn PlaneThread)} (hstart : good server.config)
    (hkept : ∀ call, .enter (.set call) ∈ schedule → ∀ cfg, good cfg → good (call.write cfg))
    {session : SessionId} {cfg : InjectorConfig}
    (hframe : (session, cfg) ∈ framesSent (after server schedule).history) : good cfg := by
  have hall := frame_was_config server schedule
  obtain ⟨e, hmem, he⟩ := List.mem_filterMap.mp hframe
  obtain ⟨pre, post, heq⟩ := List.append_of_mem hmem
  obtain ⟨earlier, hearlier, rfl⟩ : WasConfig server.config pre cfg := by
    have hlast := hall pre e post heq
    obtain ⟨c, x⟩ := e
    cases c with
    | send session' cfg' written =>
      dsimp only at he
      split_ifs at he
      obtain ⟨-, rfl⟩ := Prod.mk.inj (Option.some.inj he)
      exact hlast
    | _ => cases he
  have hpre : earlier <+: (after server schedule).history := by
    rw [heq]
    exact hearlier.trans (List.prefix_append _ _)
  have hcalled : ∀ call ∈ writes earlier,
      Turn.enter (PlaneThread.set call) ∈ schedule := by
    intro call hcall
    obtain ⟨e, he, hwrite⟩ := List.mem_filterMap.mp hcall
    obtain ⟨before, after, rfl⟩ := List.append_of_mem he
    have hadmitted := hall.start hpre before e after rfl
    obtain ⟨c, x⟩ := e
    cases c with
    | write call' =>
      obtain rfl : call' = call := Option.some.inj hwrite
      exact hadmitted
    | _ => cases hwrite
  unfold configAfter
  generalize writes earlier = calls at hcalled
  induction calls using List.reverseRecOn with
  | nil => exact hstart
  | append_singleton calls call ih =>
    rw [List.foldl_append]
    have hlast : Turn.enter (PlaneThread.set call) ∈ schedule := hcalled call (by simp)
    exact hkept call hlast _ (ih fun call' hcall' => hcalled call' (by simp [hcall']))

/-- The configuration has a proxy that can be dialled. -/
def Proxied (cfg : InjectorConfig) : Prop := ∃ proxy, cfg.addr = some proxy ∧ proxy.IsEndpoint

/-- Every setter but `clear_proxy` leaves a proxy. -/
lemma Proxied.write {cfg : InjectorConfig} {call : ConfigSetter} (hcfg : Proxied cfg)
    (hcall : call ≠ .clearProxy) : Proxied (call.write cfg) := by
  cases call with
  | setProxy addr port =>
    refine ⟨fromAsio addr port.toUInt16, rfl, ?_⟩
    cases addr with
    | v4 addr => exact ⟨Or.inl rfl, rfl⟩
    | v6 octets => exact ⟨Or.inr ⟨octets.toList, rfl, by simp⟩, rfl⟩
  | clearProxy => exact absurd rfl hcall
  | _ => exact hcfg

/-- With a proxy from the start that nobody clears, the hooks of a capsule that has been sent a
configuration connect to nothing but a proxy, whatever sessions its frames came on, whether its
session is lost, and whatever else the tool does meanwhile. -/
theorem proxied_from_the_start (server : InjectorServer) (hproxy : Proxied server.config)
    (schedule : List (Turn PlaneThread)) (hkeep : .enter (.set .clearProxy) ∉ schedule)
    (deliveries : List ConfigEvent)
    (hsent : ∀ cfg, .set cfg ∈ deliveries →
      ∃ session, (session, cfg) ∈ framesSent (after server schedule).history)
    (hsome : ∃ cfg, .set cfg ∈ deliveries) :
    let bound := Mealy.run InjecteeConfig.step {} deliveries
    ∃ proxy addr, bound.get.proxy = some proxy ∧ toSockaddr proxy = .ok addr ∧
      ∀ serviceMap queue call, HookedCall.Routable addr call →
        ∀ t c, (∀ e ∈ t, NotRuledOut e) →
          ((detour serviceMap ⟨some bound, queue⟩ call).expand DetourCall.carryOut).Issues t
            (.original c) →
          ∃ api, c = .sockaddr api call.socket addr addr.length := by
  intro bound
  obtain ⟨cfg, hlast⟩ : ∃ cfg, InjecteeConfig.lastDelivered deliveries = some cfg := by
    obtain ⟨cfg, hcfg⟩ := hsome
    refine Option.isSome_iff_exists.mp (List.getLast?_isSome.mpr ?_)
    exact List.ne_nil_of_mem (List.mem_filterMap.mpr ⟨ConfigEvent.set cfg, hcfg, rfl⟩)
  have hmem : .set cfg ∈ deliveries := by
    obtain ⟨event, hevent, heq⟩ := List.mem_filterMap.mp (List.mem_of_getLast? hlast)
    cases event with
    | set cfg' =>
      obtain rfl : cfg' = cfg := Option.some.inj heq
      exact hevent
    | drop => cases heq
  obtain ⟨session, hframe⟩ := hsent cfg hmem
  obtain ⟨proxy, haddr, hendpoint⟩ : Proxied cfg :=
    frame_of_kept hproxy (fun call hcall cfg hcfg => hcfg.write fun heq => hkeep (heq ▸ hcall))
      hframe
  obtain ⟨addr, hok⟩ := exists_toSockaddr_eq_ok hendpoint
  have hget : bound.get.proxy = some proxy := by
    have hrun : bound.get = InjecteeConfig.routeOf cfg := by
      rw [InjecteeConfig.get_run, hlast, Option.getD_some]
    rw [hrun]
    exact haddr
  have hroute : ProxyRoute bound.get addr := by
    refine ⟨by rw [hget]; rfl, fun proxy' hproxy' => ?_⟩
    obtain rfl : proxy = proxy' := Option.some.inj (hget.symm.trans hproxy')
    exact hok
  refine ⟨proxy, addr, hget, hok, fun serviceMap queue call hcall t c ht hissues => ?_⟩
  exact (guarantees_detour hroute serviceMap queue hcall).issues hissues ht

/-- A capsule that got its configuration in the answer to its hello, and lost its session. -/
theorem proxied_from_the_start_hello :
    let proxy : IpAddr := { v4Addr := some 0x0a000001, port := some 1080 }
    let bound := Mealy.run InjecteeConfig.step {} [.set { addr := some proxy }, .drop]
    ∃ proxy addr, bound.get.proxy = some proxy ∧ toSockaddr proxy = .ok addr ∧
      ∀ serviceMap queue call, HookedCall.Routable addr call →
        ∀ t c, (∀ e ∈ t, NotRuledOut e) →
          ((detour serviceMap ⟨some bound, queue⟩ call).expand DetourCall.carryOut).Issues t
            (.original c) →
          ∃ api, c = .sockaddr api call.socket addr addr.length := by
  intro proxy
  refine proxied_from_the_start { port := 40000, config := { addr := some proxy } }
    ⟨proxy, rfl, Or.inl rfl, rfl⟩
    (helloSchedule ++ [.go 1, .go 1, .go 1, .go 1, .go 1, .go 1]) (by decide)
    [.set { addr := some proxy }, .drop] (fun cfg hcfg => ⟨0, ?_⟩) ⟨_, List.mem_cons_self⟩
  obtain rfl : cfg = { addr := some proxy } := by simpa using hcfg
  decide

end ControlPlane

end Encapsule
