import Encapsule.Injectee.Hook

/-!
# Where the connect hooks connect to

While the configuration that was delivered last has a proxy, the detours call no original connect
API except with the address of the proxy, whatever winsock and the proxy answer
(`original_aimed_at_proxy`).
-/

namespace Encapsule

open Interaction Detour

/-- The answer does not say that a socket is no stream. -/
def NotRuledOut : Event SystemCall.Answer → Prop
  | ⟨.getsockoptType _, some type⟩ => type = sockStream
  | _ => True

/-- The call is no call of an original connect API, except on the socket `s` and with the address
`addr`. -/
def AimedAt (s : SOCKET) (addr : Sockaddr) : SystemCall → Prop
  | .original c => ∃ api, c = .sockaddr api s addr addr.length
  | _ => True

/-- `NotRuledOut` for the calls of a detour. -/
def NotRuledOutStep : Event DetourCall.Answer → Prop
  | ⟨.system c, x⟩ => NotRuledOut ⟨c, x⟩
  | _ => True

/-- `AimedAt` for the calls of a detour. -/
def AimedAtStep (s : SOCKET) (addr : Sockaddr) : DetourCall → Prop
  | .system c => AimedAt s addr c
  | .dial c => AimedAt s addr (.original c)
  | _ => True

/-- As long as the socket is not ruled out, the program calls original connect APIs only with the
address of the proxy. -/
def Routed {α : Type} (s : SOCKET) (addr : Sockaddr) (p : Detour α) : Prop :=
  p.Guarantees NotRuledOutStep (AimedAtStep s addr) fun _ => True

variable {s : SOCKET} {addr name : Sockaddr} {α β : Type}

/-! ## The helpers -/

lemma routed_ret (a : α) : Routed s addr (Prog.ret a) := trivial

/-- Routed programs compose. -/
lemma Routed.bind {p : Detour α} {f : α → Detour β} (hp : Routed s addr p)
    (hf : ∀ a, Routed s addr (f a)) : Routed s addr (p >>= f) :=
  Prog.guarantees_bind hp fun a _ => hf a

/-- Any system call but an original connect is routed. -/
lemma routed_system {c : SystemCall} (h : AimedAt s addr c) : Routed s addr (system c) :=
  ⟨h, fun _ _ => trivial⟩

lemma routed_stop (why : DetourStop) : Routed s addr (stop why : Detour α) :=
  (routed_system (by trivial)).bind fun never : Empty => never.elim

/-- The report is routed. -/
lemma routed_report (scope : HookScope) (route : InjecteeRoute) (v : IpAddr) (syscall : String) :
    Routed s addr (scope.report route s v syscall) := by
  unfold HookScope.report
  split_ifs
  · exact routed_system (by trivial)
  · exact routed_ret ()

/-- A blocking scope is as routed as its body. -/
lemma routed_blockingScope {body : Detour α} (h : Routed s addr body) :
    Routed s addr (blockingScope s body) := by
  have henter : Routed s addr (enterBlockingScope s) := by
    refine (routed_system (by trivial)).bind fun _ => (routed_system (by trivial)).bind fun _ => ?_
    refine (routed_system (by trivial)).bind fun _ => (routed_system (by trivial)).bind fun _ => ?_
    exact (routed_system (by trivial)).bind fun _ => routed_ret _
  have hleave (saved : DWORD × DWORD) : Routed s addr (leaveBlockingScope s saved) := by
    refine (routed_system (by trivial)).bind fun _ => (routed_system (by trivial)).bind fun _ => ?_
    refine (routed_system (by trivial)).bind fun _ => ?_
    exact (routed_system (by trivial)).bind fun _ => routed_ret _
  exact henter.bind fun saved => h.bind fun res => (hleave saved).bind fun _ => routed_ret res

/-- The refusal is routed. -/
lemma routed_failProxiedConnect (ret : ℤ) : Routed s addr (failProxiedConnect s ret) := by
  refine (routed_system (by trivial)).bind fun _ => (routed_system (by trivial)).bind fun _ => ?_
  exact (routed_system (by trivial)).bind fun _ => routed_ret ret

/-- A socket that is not ruled out is a stream or unknown. -/
lemma guarantees_socketStreamType : (socketStreamType s).Guarantees NotRuledOutStep
    (AimedAtStep s addr) fun verdict => verdict ≠ .notStream := by
  refine ⟨trivial, fun type htype => ?_⟩
  cases type with
  | none => exact ⟨trivial, fun _ _ => SocketStreamVerdict.noConfusion⟩
  | some type =>
    have hstream : type = sockStream := htype
    simp [hstream]

/-- With a proxy, the branch on the type of the socket is as routed as what follows it. -/
lemma routed_typeGate {asked : Bool} {refusal : ℤ} {direct next : Detour ℤ}
    (h : Routed s addr next) : Routed s addr (typeGate asked true s refusal direct next) := by
  unfold typeGate
  cases asked with
  | false => exact h
  | true =>
    refine Prog.guarantees_bind guarantees_socketStreamType fun verdict hv => ?_
    cases verdict with
    | notStream => exact absurd rfl hv
    | unknown => exact routed_failProxiedConnect refusal
    | stream => exact h

/-- The address of a proxy that has one. -/
lemma proxySockaddr_eq {proxy : IpAddr} (h : toSockaddr proxy = .ok addr) :
    proxySockaddr proxy = Prog.ret addr := by
  simp only [proxySockaddr, h, Prog.pure_eq_ret]

/-- The proxied path is routed. -/
lemma routed_tunnel (api : ConnectApi) (creds : Socks5Credentials) (target : RequestTarget) :
    Routed s addr (tunnel (.sockaddr api s addr addr.length) s creds target) := by
  have hdial : Routed s addr
      (Prog.ask (DetourCall.dial (.sockaddr api s addr addr.length)) : Detour ℤ) :=
    ⟨⟨api, rfl⟩, fun _ _ => trivial⟩
  have hhandshake : Routed s addr
      (Prog.ask (DetourCall.socks5Handshake s creds) : Detour Bool) := ⟨trivial, fun _ _ => trivial⟩
  have hrequest : Routed s addr
      (Prog.ask (DetourCall.socks5Request s target) : Detour UInt8) := ⟨trivial, fun _ _ => trivial⟩
  refine hdial.bind fun ret => ?_
  split_ifs
  · exact routed_ret _
  · refine hhandshake.bind fun greeted => ?_
    split_ifs
    · exact routed_ret _
    · refine hrequest.bind fun rep => ?_
      split_ifs
      · exact routed_ret _
      · exact routed_ret _

/-- Filling in an address parameter is routed. -/
lemma routed_copyOut (param : AddressParam) (room : Option ℕ) (octets : Bytes) :
    Routed s addr (copyOut param room octets) := by
  cases room with
  | none => exact routed_stop _
  | some room => exact routed_system (by trivial)

/-! ## The detours -/

/-- What a detour is routed by, when the configuration has a proxy with the address `addr`. -/
structure ProxyRoute (route : InjecteeRoute) (addr : Sockaddr) : Prop where
  isSome : route.proxy.isSome = true
  sockaddr : ∀ proxy ∈ route.proxy, toSockaddr proxy = .ok addr

variable {route : InjecteeRoute}

/-- The proxy of a route that has one. -/
lemma ProxyRoute.exists_proxy (h : ProxyRoute route addr) :
    ∃ proxy, route.proxy = some proxy ∧ proxySockaddr proxy = Prog.ret addr := by
  obtain ⟨proxy, hproxy⟩ := Option.isSome_iff_exists.mp h.isSome
  exact ⟨proxy, hproxy, proxySockaddr_eq (h.sockaddr proxy hproxy)⟩

/-- `connect` and `WSAConnect`. -/
lemma routed_hookConnectFn {bound : InjecteeConfig} (hroute : ProxyRoute bound.get addr)
    (hinet : isInet name = true) (hlocal : isLocalhost name = false)
    (hne : sockequal addr name = false) (queue : Bool) (api : ConnectApi) (namelen : ℤ) :
    Routed s addr (hookConnectFn ⟨some bound, queue⟩ api s name namelen) := by
  obtain ⟨proxy, hproxy, haddr⟩ := hroute.exists_proxy
  obtain ⟨v, hv⟩ := exists_toIpAddr_of_isInet hinet
  simp only [hookConnectFn, hinet, hlocal, hv, hproxy, haddr, Option.isSome_some,
    Bool.not_false, Bool.and_self, if_true]
  refine routed_typeGate ((routed_report _ _ _ _).bind fun _ => ?_)
  simp only [Prog.bind_eq_bind, Prog.ret_bind, hne, Bool.false_eq_true, if_false]
  refine routed_blockingScope ((routed_tunnel api _ _).bind fun outcome => ?_)
  cases outcome with
  | unreachable ret => exact routed_ret ret
  | refused => exact routed_failProxiedConnect _
  | established => exact routed_ret 0

/-- `ConnectEx`. -/
lemma routed_hookConnectEx {bound : InjecteeConfig} (hroute : ProxyRoute bound.get addr)
    (hinet : isInet name = true) (hlocal : isLocalhost name = false)
    (hne : sockequal addr name = false) (queue : Bool) (namelen : ℤ) (sendBuffer : Option Bytes)
    (bytesSent : Bool) :
    Routed s addr (hookConnectEx ⟨some bound, queue⟩ s name namelen sendBuffer bytesSent) := by
  obtain ⟨proxy, hproxy, haddr⟩ := hroute.exists_proxy
  obtain ⟨v, hv⟩ := exists_toIpAddr_of_isInet hinet
  have hsend : Routed s addr (sendFirstOctets s bytesSent sendBuffer) := by
    cases sendBuffer with
    | none => exact routed_ret 1
    | some buf =>
      refine (routed_system (by trivial)).bind fun len => ?_
      split_ifs
      · exact (routed_system (by trivial)).bind fun _ => routed_ret 0
      · exact (routed_system (by trivial)).bind fun _ => routed_ret 1
      · exact routed_stop _
  simp only [hookConnectEx, hinet, hlocal, hv, hproxy, haddr, Option.isSome_some,
    Bool.not_false, Bool.and_self, if_true]
  refine routed_typeGate ((routed_report _ _ _ _).bind fun _ => ?_)
  simp only [Prog.bind_eq_bind, Prog.ret_bind, hne, Bool.false_eq_true, if_false]
  refine routed_blockingScope ((routed_tunnel .connect _ _).bind fun outcome => ?_)
  cases outcome with
  | unreachable ret => exact routed_ret ret
  | refused => exact routed_failProxiedConnect _
  | established => exact hsend

/-- The loop of `WSAConnectByList`: one address, then by induction the rest. -/
lemma routed_connectByListLoop (hroute : ProxyRoute route addr) (scope : HookScope)
    (localRoom remoteRoom : Option ℕ) (direct : Detour ℤ) (names : List Sockaddr) :
    Routed s addr (connectByListLoop scope route s localRoom remoteRoom direct names) := by
  obtain ⟨proxy, hproxy, haddr⟩ := hroute.exists_proxy
  induction names with
  | nil =>
    rw [connectByListLoop, if_pos hroute.isSome]
    exact routed_ret 0
  | cons name names ih =>
    unfold connectByListLoop
    rw [hroute.isSome]
    dsimp only
    split_ifs
    · refine routed_typeGate ?_
      cases toIpAddr name with
      | none => exact ih
      | some v =>
        refine (routed_report _ _ _ _).bind fun _ => ?_
        simp only [hproxy, haddr, Prog.bind_eq_bind, Prog.ret_bind]
        split_ifs
        · exact ih
        · refine (routed_blockingScope ?_).bind fun res => ?_
          · refine (routed_tunnel .connect _ _).bind fun outcome => ?_
            cases outcome with
            | unreachable ret => exact routed_ret _
            | refused => exact (routed_failProxiedConnect 0).bind fun _ => routed_ret _
            | established =>
              refine (routed_copyOut _ _ _).bind fun _ => ?_
              refine (routed_system (by trivial)).bind fun _ => ?_
              exact (routed_copyOut _ _ _).bind fun _ => routed_ret _
          · cases res with
            | some ret => exact routed_ret ret
            | none => exact ih
    · exact ih

/-- A call that only resolves a name. -/
def IsLookup : DetourCall → Prop
  | .system (.getservbyname _) => True
  | .system (.makeAddress _) => True
  | .system (.utf8Encode _) => True
  | _ => False

/-- The names are resolved by nothing else. -/
lemma guarantees_endpointOfNames (serviceMap : Bytes → Option UInt16)
    (nodename servicename : Option NameText) :
    (endpointOfNames serviceMap nodename servicename).Guarantees (fun _ => True) IsLookup
      fun _ => True := by
  have hencode (text : NameText) :
      (encodeName text).Guarantees (fun _ => True) IsLookup fun _ => True := by
    cases text with
    | narrow text => trivial
    | wide text => exact ⟨trivial, fun _ _ => trivial⟩
  have htable (servicename : Bytes) : (serviceToPort serviceMap servicename).Guarantees
      (fun _ => True) IsLookup fun _ => True := by
    unfold serviceToPort
    dsimp only
    split_ifs
    · trivial
    all_goals
      cases serviceMap (servicename.map foldUpper) with
      | none => exact ⟨trivial, fun _ _ => trivial⟩
      | some port => trivial
  have hname (nodename servicename : Bytes) :
      (ipaddrFromName serviceMap nodename servicename).Guarantees (fun _ => True) IsLookup
        fun _ => True := by
    refine Prog.guarantees_bind (htable servicename) fun port _ => ?_
    cases port with
    | none => trivial
    | some port =>
      refine ⟨trivial, fun address _ => ?_⟩
      change Option IpAddress at address
      cases address with
      | none => trivial
      | some address => trivial
  cases nodename with
  | none => trivial
  | some nodename =>
    cases servicename with
    | none => trivial
    | some servicename =>
      refine Prog.guarantees_bind (hencode nodename) fun nodename _ => ?_
      exact Prog.guarantees_bind (hencode servicename) fun servicename _ => hname _ _

/-- The names are resolved without a connect. -/
lemma routed_endpointOfNames (serviceMap : Bytes → Option UInt16)
    (nodename servicename : Option NameText) :
    Routed s addr (endpointOfNames serviceMap nodename servicename) := by
  refine (guarantees_endpointOfNames serviceMap nodename servicename).mono (fun _ _ => trivial)
    (fun call hlookup => ?_) fun _ _ => trivial
  cases call with
  | system call =>
    cases call with
    | original => exact hlookup.elim
    | _ => trivial
  | _ => exact hlookup.elim

/-- What a name connect does when its tunnel ended. -/
lemma routed_nameOutcome (localRoom remoteRoom : Option ℕ) (outcome : TunnelOutcome) :
    Routed s addr (match outcome with
      | .unreachable ret => (return ret : Detour ℤ)
      | .refused => failProxiedConnect s 0
      | .established => do
        let peer : Bytes ← system (.getsockname s)
        copyOut .remoteAddress remoteRoom peer
        let localName : Bytes ← system (.getsockname s)
        copyOut .localAddress localRoom localName
        return 1) := by
  cases outcome with
  | unreachable ret => exact routed_ret ret
  | refused => exact routed_failProxiedConnect 0
  | established =>
    refine (routed_system (by trivial)).bind fun _ => (routed_copyOut _ _ _).bind fun _ => ?_
    refine (routed_system (by trivial)).bind fun _ => ?_
    exact (routed_copyOut _ _ _).bind fun _ => routed_ret 1

/-- `WSAConnectByNameA` and `WSAConnectByNameW`. -/
lemma routed_hookWSAConnectByName {bound : InjecteeConfig} (hroute : ProxyRoute bound.get addr)
    (serviceMap : Bytes → Option UInt16) (queue : Bool) (api : ConnectByNameApi)
    (nodename servicename : Option NameText) (localRoom remoteRoom : Option ℕ) :
    Routed s addr (hookWSAConnectByName serviceMap ⟨some bound, queue⟩ api s nodename servicename
      localRoom remoteRoom) := by
  obtain ⟨proxy, hproxy, haddr⟩ := hroute.exists_proxy
  simp only [hookWSAConnectByName, hproxy, Option.isSome_some]
  refine routed_typeGate ((routed_endpointOfNames _ _ _).bind fun target => ?_)
  cases target with
  | none => exact routed_failProxiedConnect 0
  | some target =>
    refine (routed_report _ _ _ _).bind fun _ => ?_
    simp only [haddr, Prog.bind_eq_bind, Prog.ret_bind]
    exact routed_blockingScope ((routed_tunnel .connect _ _).bind
      (routed_nameOutcome localRoom remoteRoom))

/-- The socket of a hooked call. -/
def HookedCall.socket : HookedCall → SOCKET
  | .connect _ s _ _ => s
  | .connectByList s _ _ _ => s
  | .connectByName _ s _ _ _ _ => s
  | .connectEx s _ _ _ _ => s

/-- The destination of a hooked call is to be routed through a proxy with the address `addr`: it is
an internet address, not the loopback and not the proxy.  Lists and names always are. -/
def HookedCall.Routable (addr : Sockaddr) : HookedCall → Prop
  | .connect _ _ name _ =>
    isInet name = true ∧ isLocalhost name = false ∧ sockequal addr name = false
  | .connectEx _ name _ _ _ =>
    isInet name = true ∧ isLocalhost name = false ∧ sockequal addr name = false
  | _ => True

/-- Every detour, down to its system calls. -/
lemma guarantees_detour {bound : InjecteeConfig} (hroute : ProxyRoute bound.get addr)
    (serviceMap : Bytes → Option UInt16) (queue : Bool) {call : HookedCall}
    (hcall : call.Routable addr) :
    ((detour serviceMap ⟨some bound, queue⟩ call).expand DetourCall.carryOut).Guarantees
      NotRuledOut (AimedAt call.socket addr) fun _ => True := by
  have hrouted : Routed call.socket addr (detour serviceMap ⟨some bound, queue⟩ call) := by
    cases call with
    | connect api s name namelen =>
      exact routed_hookConnectFn hroute hcall.1 hcall.2.1 hcall.2.2 queue api namelen
    | connectByList s addresses localRoom remoteRoom =>
      exact routed_connectByListLoop hroute _ _ _ _ _
    | connectByName api s nodename servicename localRoom remoteRoom =>
      exact routed_hookWSAConnectByName hroute _ _ _ _ _ _ _
    | connectEx s name namelen sendBuffer bytesSent =>
      exact routed_hookConnectEx hroute hcall.1 hcall.2.1 hcall.2.2 _ _ _ _
  have hsocket {α : Type} (p : Prog SocketCall.Answer α) :
      (p.expand fun c => Prog.ask (SystemCall.socket c)).Guarantees NotRuledOut
        (AimedAt call.socket addr) fun _ => True := by
    have hfree : p.Guarantees (fun _ => True) (fun _ => True) fun _ => True := by
      induction p with
      | ret a => trivial
      | call c k ih => exact ⟨trivial, fun x _ => ih x⟩
    exact Prog.guarantees_expand _ hfree fun c _ => ⟨trivial, fun _ _ => trivial⟩
  refine Prog.guarantees_expand _ hrouted fun c hc => ?_
  cases c with
  | system c => exact ⟨hc, fun x hx => hx⟩
  | dial c => exact ⟨hc, fun x _ => trivial⟩
  | socks5Handshake s creds => exact hsocket _
  | socks5Request s target => exact hsocket _

/-- While the configuration that was delivered last has a proxy, a detour calls original connect
APIs only with the address of the proxy, unless winsock says that the socket is no stream.  The
routes depend on that configuration alone, so the loss of the session changes nothing. -/
theorem original_aimed_at_proxy (history : List ConfigEvent) (cfg : InjectorConfig)
    (proxy : IpAddr) (hlast : InjecteeConfig.lastDelivered history = some cfg)
    (hproxy : cfg.addr = some proxy) (hendpoint : proxy.IsEndpoint) :
    let bound := Mealy.run InjecteeConfig.step {} history
    (Mealy.run InjecteeConfig.step {} (history ++ [.drop])).get = bound.get ∧
      ∃ addr, toSockaddr proxy = .ok addr ∧
        ∀ serviceMap queue call, HookedCall.Routable addr call →
          ∀ t c, (∀ e ∈ t, NotRuledOut e) →
            ((detour serviceMap ⟨some bound, queue⟩ call).expand DetourCall.carryOut).Issues t
              (.original c) →
            ∃ api, c = .sockaddr api call.socket addr addr.length := by
  intro bound
  have hget : bound.get = InjecteeConfig.routeOf cfg := by
    rw [InjecteeConfig.get_run, hlast, Option.getD_some]
  have hdrop : (Mealy.run InjecteeConfig.step {} (history ++ [.drop])).get = bound.get := by
    rw [InjecteeConfig.get_run, InjecteeConfig.lastDelivered_drop, ← InjecteeConfig.get_run]
  obtain ⟨addr, haddr⟩ := exists_toSockaddr_eq_ok hendpoint
  have hroute : ProxyRoute bound.get addr := by
    rw [hget]
    refine ⟨?_, fun proxy' hproxy' => ?_⟩
    · simp [InjecteeConfig.routeOf, hproxy]
    · obtain rfl : proxy = proxy' := Option.some.inj (hproxy.symm.trans hproxy')
      exact haddr
  refine ⟨hdrop, addr, haddr, fun serviceMap queue call hcall t c ht hissues => ?_⟩
  exact (guarantees_detour hroute serviceMap queue hcall).issues hissues ht

/-- A `connect` after the loss of the session that delivered the proxy 10.0.0.1:1080. -/
theorem original_aimed_at_proxy_after_drop :
    let proxy : IpAddr := { v4Addr := some 0x0a000001, port := some 1080 }
    let history : List ConfigEvent := [.set { addr := some proxy }, .drop]
    let bound := Mealy.run InjecteeConfig.step {} history
    let call : HookedCall := .connect .connect 4 (sockaddrIn [10, 0, 0, 2] 80) 16
    ∀ t c, (∀ e ∈ t, NotRuledOut e) →
      ((detour (fun _ => none) ⟨some bound, true⟩ call).expand DetourCall.carryOut).Issues t
        (.original c) →
      ∃ api, c = .sockaddr api 4 (sockaddrIn [10, 0, 0, 1] 1080) 16 := by
  intro proxy history bound call t c ht hissues
  obtain ⟨-, addr, haddr, hcalls⟩ := original_aimed_at_proxy history { addr := some proxy } proxy
    rfl rfl ⟨Or.inl rfl, rfl⟩
  have hok : toSockaddr proxy = .ok (sockaddrIn [10, 0, 0, 1] 1080) := by rfl
  obtain rfl : addr = sockaddrIn [10, 0, 0, 1] 1080 := Except.ok.inj (haddr.symm.trans hok)
  have hroutable : HookedCall.Routable (sockaddrIn [10, 0, 0, 1] 1080) call := by
    refine ⟨?_, ?_, ?_⟩ <;> decide
  exact hcalls (fun _ => none) true call hroutable t c ht hissues

end Encapsule
