import Mathlib.Data.List.GetD
import Encapsule.Injectee.AskType
import Encapsule.Injectee.ProxiedConnect

/-!
# The advertised length of an address

The detours of `connect`, `WSAConnect` and `ConnectEx` get a pointer to a `sockaddr` and the number
of octets that the victim says are there.  They hand the number on to the original call and never
look at it themselves: the family, the port and the address are read wherever they are, and reach
reports and the proxy.

What is seen of a detour are its system calls (`Detour.observed`); of an address that goes to the
original call winsock sees the octets within the length.  `honoursLength_iff` says for which
configurations, buffers and lengths the rest of the buffer makes no difference.
-/

namespace Encapsule

open Interaction Detour

/-! ## What is seen of a detour -/

/-- What winsock sees of a call: of an address with a length, the octets within it. -/
def SystemCall.advertised : (c : SystemCall) → Prog SystemCall.Answer c.Answer
  | .original (.sockaddr api s name namelen) =>
    Prog.ask (SystemCall.original (.sockaddr api s (octetsAt name 0 namelen.toNat) namelen))
  | .original (.connectEx s name namelen sendBuffer) =>
    Prog.ask
      (SystemCall.original (.connectEx s (octetsAt name 0 namelen.toNat) namelen sendBuffer))
  | c => Prog.ask c

/-- The system calls of a detour, as they are seen. -/
def Detour.observed {α : Type} (p : Detour α) : Prog SystemCall.Answer α :=
  (p.expand DetourCall.carryOut).expand SystemCall.advertised

/-- The calls with a pointer to a socket address and its length, with their other arguments. -/
inductive SockaddrApi where
  | connect (api : ConnectApi)
  | connectEx (sendBuffer : Option Bytes) (bytesSent : Bool)

namespace SockaddrApi

/-- The detour of the call. -/
def detour (scope : HookScope) (s : SOCKET) (name : Sockaddr) (namelen : ℤ) :
    SockaddrApi → Detour ℤ
  | .connect api => hookConnectFn scope api s name namelen
  | .connectEx sendBuffer bytesSent => hookConnectEx scope s name namelen sendBuffer bytesSent

/-- The original call. -/
def call (s : SOCKET) (name : Sockaddr) (namelen : ℤ) : SockaddrApi → ConnectCall
  | .connect api => .sockaddr api s name namelen
  | .connectEx sendBuffer _ => .connectEx s name namelen sendBuffer

/-- What a refused call returns. -/
def refusal : SockaddrApi → ℤ
  | .connect _ => socketError
  | .connectEx _ _ => 0

/-- The name in a report. -/
def syscall : SockaddrApi → String
  | .connect api => api.syscall
  | .connectEx _ _ => "ConnectEx"

/-- The API that dials the proxy. -/
def dialApi : SockaddrApi → ConnectApi
  | .connect api => api
  | .connectEx _ _ => .connect

/-- What is done when the tunnel has ended. -/
def finish (s : SOCKET) : SockaddrApi → TunnelOutcome → Detour ℤ
  | .connect _ => fun
    | .unreachable ret => return ret
    | .refused => failProxiedConnect s socketError
    | .established => return 0
  | .connectEx sendBuffer bytesSent => fun
    | .unreachable ret => return ret
    | .refused => failProxiedConnect s 0
    | .established => sendFirstOctets s bytesSent sendBuffer

/-- The detours in these terms. -/
lemma detour_eq (api : SockaddrApi) (scope : HookScope) (s : SOCKET) (name : Sockaddr)
    (namelen : ℤ) :
    api.detour scope s name namelen =
      routedConnect scope s api.refusal api.syscall (original (api.call s name namelen))
        (fun addr => .sockaddr api.dialApi s addr addr.length) (api.finish s) name := by
  cases api with
  | connect api => exact hookConnectFn_eq scope api s name namelen
  | connectEx sendBuffer bytesSent => exact hookConnectEx_eq scope s name namelen _ _

end SockaddrApi

/-- With the scope, the detour of the call is the same on every buffer with the same octets within
the length, whatever the answers are. -/
def HonoursLength (scope : HookScope) (api : SockaddrApi) (s : SOCKET) (name : Sockaddr)
    (namelen : ℤ) : Prop :=
  ∀ name' : Sockaddr, octetsAt name 0 namelen.toNat = octetsAt name' 0 namelen.toNat →
    observed (api.detour scope s name namelen) = observed (api.detour scope s name' namelen)

/-! ## Scopes and lengths -/

/-- With the scope every call is passed on: there is no configuration, or one without a proxy in a
process that does not report. -/
def HookScope.Silent (scope : HookScope) : Prop :=
  ∀ bound ∈ scope.config, scope.asks bound.get = false

/-- The configuration names a proxy that is not an endpoint, and nothing is reported: a detour ends
before it looks at the address that it routes. -/
def HookScope.Undialable (scope : HookScope) : Prop :=
  ∃ bound ∈ scope.config, scope.reports bound.get = false ∧ ∃ proxy ∈ bound.get.proxy,
    toSockaddr proxy = .error .badOptionalAccess ∨ toSockaddr proxy = .error .outOfBounds

/-- The octets within the length say whether the address is routed: its family, and that it is not a
loopback one. -/
structure LengthRoutes (name : Sockaddr) (n : ℕ) : Prop where
  /-- One octet of the family is enough where no routed family has it. -/
  family : n < 2 → n = 1 ∧ octetAt name 0 ≠ 2 ∧ octetAt name 0 ≠ 23
  v4 : 2 ≤ n → name.saFamily = afInet → 5 ≤ n
  /-- The loopback address has zeros in front of its last octet. -/
  v6 : 2 ≤ n → name.saFamily = afInet6 → 24 ≤ n ∨ ∃ i, 8 ≤ i ∧ i < 23 ∧ i < n ∧ octetAt name i ≠ 0

/-- They also spell the endpoint of an address that is routed. -/
structure LengthSuffices (name : Sockaddr) (n : ℕ) : Prop extends LengthRoutes name n where
  v4_end : 2 ≤ n → name.saFamily = afInet → octetAt name 4 ≠ 127 → 8 ≤ n
  v6_end : 2 ≤ n → name.saFamily = afInet6 → 24 ≤ n

variable {α β : Type} {name name' : Sockaddr} {namelen : ℤ}

/-- The parts of a detour are seen one by one. -/
lemma observed_bind (p : Detour α) (f : α → Detour β) :
    observed (p.bind f) = (observed p).bind fun a => observed (f a) := by
  simp only [observed, Prog.expand_bind]

/-- Detours with parts that look the same look the same. -/
lemma observed_bind_congr {p p' : Detour α} {f f' : α → Detour β} (hp : observed p = observed p')
    (hf : ∀ a, observed (f a) = observed (f' a)) :
    observed (p.bind f) = observed (p'.bind f') := by
  rw [observed_bind, observed_bind, hp]
  exact congrArg _ (funext hf)

/-- The check of the type looks the same where both of its continuations do. -/
lemma observed_typeGate_congr {direct direct' next next' : Detour ℤ}
    (hdirect : observed direct = observed direct') (hnext : observed next = observed next')
    (asked proxied : Bool) (s : SOCKET) (refusal : ℤ) :
    observed (typeGate asked proxied s refusal direct next) =
      observed (typeGate asked proxied s refusal direct' next') := by
  unfold typeGate
  cases asked with
  | false => exact hnext
  | true =>
    refine observed_bind_congr rfl fun type => ?_
    cases type with
    | stream => exact hnext
    | notStream => exact hdirect
    | unknown =>
      cases proxied with
      | true => rfl
      | false => exact hdirect

/-- A blocking scope looks the same where its body does. -/
lemma observed_blockingScope_congr {body body' : Detour α} (h : observed body = observed body')
    (s : SOCKET) : observed (blockingScope s body) = observed (blockingScope s body') :=
  observed_bind_congr rfl fun _ => observed_bind_congr h fun _ => rfl

/-! ## Buffers with the same endpoint -/

/-- The request for a socket address holds its endpoint. -/
lemma SameEndpoint.socks5Request_eq (h : SameEndpoint name name') (s : SOCKET) :
    socks5Request s (.sockaddr name) = socks5Request s (.sockaddr name') := by
  have hbuild (out : Bytes) :
      socks5BuildRequestFromSockaddr name out = socks5BuildRequestFromSockaddr name' out := by
    unfold socks5BuildRequestFromSockaddr socks5BuildRequestFromSockaddrCmd
    rw [h.family, h.port]
    split_ifs with h4 h6
    · rw [h.v4 h4]
    · rw [h.v6 h6]
    · rfl
  unfold socks5Request
  dsimp only
  rw [hbuild]

lemma SameEndpoint.isInet_eq (h : SameEndpoint name name') : isInet name = isInet name' := by
  rw [isInet, isInet, h.family]

/-- One stands for the endpoint that the other stands for. -/
lemma SameEndpoint.isEndpoint {addr : IpAddress} {port : UInt16} (h : SameEndpoint name name')
    (hname' : name'.IsEndpoint addr port) : name.IsEndpoint addr port := by
  obtain ⟨hport, haddr⟩ := hname'
  refine ⟨h.port.trans hport, ?_⟩
  cases addr with
  | v4 v => exact ⟨h.family.trans haddr.1, (h.v4 haddr.1).trans haddr.2⟩
  | v6 bytes => exact ⟨h.family.trans haddr.1, (h.v6 haddr.1).trans haddr.2⟩

/-- A proxy is equal to both or to none. -/
lemma SameEndpoint.sockequal_eq (h : SameEndpoint name name') (addr : Sockaddr) :
    sockequal addr name = sockequal addr name' := by
  unfold sockequal
  rw [octetsAt_sinPort name, octetsAt_sinPort name', h.family, h.port]
  split_ifs with hfamily h4 h6
  · rw [h.v4 (hfamily ▸ h4)]
  · rw [h.v6 (hfamily ▸ h6)]
  · rfl
  · rfl

/-- Two buffers are treated alike: none of them is routed, or they stand for one endpoint. -/
def TreatedAlike (name name' : Sockaddr) : Prop :=
  (¬name.IsRoutable ∧ ¬name'.IsRoutable) ∨
    (name.IsRoutable ∧ name'.IsRoutable ∧ SameEndpoint name name')

/-- Buffers with the same endpoint are treated alike. -/
lemma SameEndpoint.treatedAlike (h : SameEndpoint name name') : TreatedAlike name name' := by
  have hinet := h.isInet_eq
  by_cases hname' : isInet name' = true
  · obtain ⟨addr, port, hendpoint⟩ := exists_isEndpoint hname'
    have hlocal : isLocalhost name = isLocalhost name' :=
      isLocalhost_eq (h.isEndpoint hendpoint) hendpoint
    by_cases hroutable : name'.IsRoutable
    · refine Or.inr ⟨?_, hroutable, h⟩
      rwa [Sockaddr.IsRoutable, hinet, hlocal]
    · refine Or.inl ⟨?_, hroutable⟩
      rwa [Sockaddr.IsRoutable, hinet, hlocal]
  · refine Or.inl ⟨fun hroutable => hname' ?_, fun hroutable => hname' hroutable.1⟩
    rw [← hinet]
    exact hroutable.1

/-- They have one message. -/
lemma SameEndpoint.toIpAddr_eq (h : SameEndpoint name name') (hinet : isInet name' = true) :
    toIpAddr name = toIpAddr name' := by
  obtain ⟨addr, port, hendpoint⟩ := exists_isEndpoint hinet
  rw [hendpoint.toIpAddr, (h.isEndpoint hendpoint).toIpAddr]

/-- One message is that of one endpoint. -/
lemma sameEndpoint_of_toIpAddr_eq (hname : isInet name = true) (hname' : isInet name' = true)
    (h : toIpAddr name = toIpAddr name') : SameEndpoint name name' := by
  obtain ⟨addr, port, hendpoint⟩ := exists_isEndpoint hname
  obtain ⟨addr', port', hendpoint'⟩ := exists_isEndpoint hname'
  rw [hendpoint.toIpAddr, hendpoint'.toIpAddr, Option.some_inj, reportAddr_inj] at h
  obtain ⟨rfl, rfl⟩ := h
  exact SameEndpoint.of_isEndpoint hendpoint hendpoint'

/-! ## The parts of a detour -/

/-- What the detours do behind the report of a routed address. -/
def routedTunnel (route : InjecteeRoute) (s : SOCKET) (direct : Detour ℤ)
    (dial : Sockaddr → ConnectCall) (finish : TunnelOutcome → Detour ℤ) (name : Sockaddr) :
    Detour ℤ :=
  match route.proxy with
  | none => direct
  | some proxy => do
    let addr ← proxySockaddr proxy
    if sockequal addr name then direct
    else blockingScope s do
      let outcome ← tunnel (dial addr) s route.creds (.sockaddr name)
      finish outcome

/-- An address that is not routed goes to the original call. -/
lemma routedConnect_of_not_isRoutable (hname : ¬name.IsRoutable) (scope : HookScope) (s : SOCKET)
    (refusal : ℤ) (syscall : String) (direct : Detour ℤ) (dial : Sockaddr → ConnectCall)
    (finish : TunnelOutcome → Detour ℤ) :
    routedConnect scope s refusal syscall direct dial finish name = direct := by
  unfold routedConnect
  cases scope.config with
  | none => rfl
  | some bound => exact if_neg (mt isRoutable_iff.mp hname)

/-- An address that is routed passes the check of the type and is reported. -/
lemma exists_routedConnect_eq (hname : name.IsRoutable) :
    ∃ v, toIpAddr name = some v ∧ ∀ (scope : HookScope) (bound : InjecteeConfig),
      scope.config = some bound → ∀ (s : SOCKET) (refusal : ℤ) (syscall : String)
        (direct : Detour ℤ) (dial : Sockaddr → ConnectCall) (finish : TunnelOutcome → Detour ℤ),
        routedConnect scope s refusal syscall direct dial finish name =
          typeGate (scope.asks bound.get) bound.get.proxy.isSome s refusal direct
            ((scope.report bound.get s v syscall).bind fun _ =>
              routedTunnel bound.get s direct dial finish name) := by
  obtain ⟨v, hv⟩ := exists_toIpAddr_of_isInet hname.1
  refine ⟨v, hv, fun scope bound hbound s refusal syscall direct dial finish => ?_⟩
  unfold routedConnect
  rw [hbound]
  dsimp only
  rw [if_pos (isRoutable_iff.mpr hname), hv]
  rfl

/-! ## Detours on buffers that are treated alike -/

/-- The original call sees the octets within the length. -/
lemma observed_original (api : SockaddrApi) (s : SOCKET) (name : Sockaddr) (namelen : ℤ) :
    observed (original (api.call s name namelen)) =
      Prog.call (SystemCall.original (api.call s (octetsAt name 0 namelen.toNat) namelen))
        Prog.ret := by
  cases api <;> rfl

/-- A tunnel to one endpoint looks the same. -/
lemma observed_tunnel_eq (h : SameEndpoint name name') (call : ConnectCall) (s : SOCKET)
    (creds : Socks5Credentials) :
    observed (tunnel call s creds (.sockaddr name)) =
      observed (tunnel call s creds (.sockaddr name')) := by
  refine observed_bind_congr rfl fun ret => ?_
  split_ifs
  · rfl
  refine observed_bind_congr rfl fun greeted => ?_
  split_ifs
  · rfl
  refine observed_bind_congr ?_ fun rep => rfl
  simp only [observed, Prog.ask, Prog.expand_call, DetourCall.carryOut, h.socks5Request_eq s]

/-- The detours look the same on buffers that are treated alike. -/
lemma observed_routedConnect_congr (h : TreatedAlike name name') {direct direct' : Detour ℤ}
    (hdirect : observed direct = observed direct') (scope : HookScope) (s : SOCKET) (refusal : ℤ)
    (syscall : String) (dial : Sockaddr → ConnectCall) (finish : TunnelOutcome → Detour ℤ) :
    observed (routedConnect scope s refusal syscall direct dial finish name) =
      observed (routedConnect scope s refusal syscall direct' dial finish name') := by
  rcases h with ⟨hname, hname'⟩ | ⟨hname, hname', hsame⟩
  · rw [routedConnect_of_not_isRoutable hname, routedConnect_of_not_isRoutable hname']
    exact hdirect
  · cases hbound : scope.config with
    | none =>
      unfold routedConnect
      rw [hbound]
      exact hdirect
    | some bound =>
      obtain ⟨v, hv, heq⟩ := exists_routedConnect_eq hname
      obtain ⟨v', hv', heq'⟩ := exists_routedConnect_eq hname'
      obtain rfl : v = v' :=
        Option.some.inj (hv.symm.trans ((hsame.toIpAddr_eq hname'.1).trans hv'))
      rw [heq scope bound hbound, heq' scope bound hbound]
      refine observed_typeGate_congr hdirect (observed_bind_congr rfl fun _ => ?_) _ _ _ _
      unfold routedTunnel
      cases bound.get.proxy with
      | none => exact hdirect
      | some proxy =>
        refine observed_bind_congr rfl fun addr => ?_
        rw [hsame.sockequal_eq addr]
        split_ifs
        · exact hdirect
        · exact observed_blockingScope_congr
            (observed_bind_congr (observed_tunnel_eq hsame _ _ _) fun _ => rfl) s

/-- With a silent scope the call goes on as it came. -/
lemma routedConnect_of_silent {scope : HookScope} (hscope : scope.Silent) (s : SOCKET)
    (refusal : ℤ) (syscall : String) (direct : Detour ℤ) (dial : Sockaddr → ConnectCall)
    (finish : TunnelOutcome → Detour ℤ) (name : Sockaddr) :
    routedConnect scope s refusal syscall direct dial finish name = direct := by
  by_cases hname : name.IsRoutable
  · cases hbound : scope.config with
    | none =>
      unfold routedConnect
      rw [hbound]
    | some bound =>
      have hasks := hscope bound hbound
      obtain ⟨hproxy, hreports⟩ : bound.get.proxy = none ∧ scope.reports bound.get = false := by
        simpa [HookScope.asks] using hasks
      obtain ⟨v, -, heq⟩ := exists_routedConnect_eq hname
      rw [heq scope bound hbound, typeGate, hasks, HookScope.report, hreports, routedTunnel, hproxy]
      rfl
  · exact routedConnect_of_not_isRoutable hname _ _ _ _ _ _ _

/-- A proxy that is not an endpoint ends the detour. -/
lemma proxySockaddr_bind {proxy : IpAddr} (hproxy : toSockaddr proxy = .error .badOptionalAccess ∨
    toSockaddr proxy = .error .outOfBounds) :
    ∃ why, ∀ f : Sockaddr → Detour α, (proxySockaddr proxy).bind f = stop why := by
  rcases hproxy with hproxy | hproxy
  · refine ⟨.exception, fun f => ?_⟩
    rw [proxySockaddr, hproxy]
    exact congrArg (Prog.call _) (funext fun never => never.elim)
  · refine ⟨.outOfBounds, fun f => ?_⟩
    rw [proxySockaddr, hproxy]
    exact congrArg (Prog.call _) (funext fun never => never.elim)

/-- Where the proxy is not an endpoint, and nothing is reported, only that an address is routed
makes a difference. -/
lemma observed_routedConnect_of_undialable {scope : HookScope} (hscope : scope.Undialable)
    (hroute : name.IsRoutable ↔ name'.IsRoutable) {direct direct' : Detour ℤ}
    (hdirect : observed direct = observed direct') (s : SOCKET) (refusal : ℤ) (syscall : String)
    (dial : Sockaddr → ConnectCall) (finish : TunnelOutcome → Detour ℤ) :
    observed (routedConnect scope s refusal syscall direct dial finish name) =
      observed (routedConnect scope s refusal syscall direct' dial finish name') := by
  by_cases hname : name.IsRoutable
  · obtain ⟨bound, hbound, hreports, proxy, hproxy, hfault⟩ := hscope
    obtain ⟨why, hstop⟩ := proxySockaddr_bind (α := ℤ) hfault
    have hend (buf : Sockaddr) (direct : Detour ℤ) :
        routedTunnel bound.get s direct dial finish buf = stop why := by
      rw [routedTunnel, show bound.get.proxy = some proxy from hproxy]
      exact hstop _
    obtain ⟨v, -, heq⟩ := exists_routedConnect_eq hname
    obtain ⟨v', -, heq'⟩ := exists_routedConnect_eq (hroute.mp hname)
    rw [heq scope bound hbound, heq' scope bound hbound, HookScope.report, HookScope.report,
      hreports, hend, hend]
    exact observed_typeGate_congr hdirect rfl _ _ _ _
  · rw [routedConnect_of_not_isRoutable hname,
      routedConnect_of_not_isRoutable (mt hroute.mpr hname)]
    exact hdirect

/-- A length is honoured where each buffer that agrees within it looks the same to what the detours
have in common. -/
lemma honoursLength_of_routedConnect {scope : HookScope} {api : SockaddrApi} {s : SOCKET}
    (h : ∀ name' : Sockaddr, octetsAt name 0 namelen.toNat = octetsAt name' 0 namelen.toNat →
      ∀ direct direct' : Detour ℤ, observed direct = observed direct' →
        observed (routedConnect scope s api.refusal api.syscall direct
            (fun addr => .sockaddr api.dialApi s addr addr.length) (api.finish s) name) =
          observed (routedConnect scope s api.refusal api.syscall direct'
            (fun addr => .sockaddr api.dialApi s addr addr.length) (api.finish s) name')) :
    HonoursLength scope api s name namelen := by
  intro name' hagree
  rw [api.detour_eq, api.detour_eq]
  refine h name' hagree _ _ ?_
  rw [observed_original, observed_original, hagree]

/-! ## Lengths that suffice -/

/-- The octets of a block are the same where the block is. -/
lemma octetAt_of_agree {n i : ℕ} (h : octetsAt name 0 n = octetsAt name' 0 n) (hi : i < n) :
    octetAt name i = octetAt name' i := by
  have hblock (buf : Sockaddr) : octetAt (octetsAt buf 0 n) i = octetAt buf i := by
    rw [octetAt_octetsAt hi, Nat.zero_add]
  rw [← hblock name, ← hblock name', h]

/-- A block within a block is the same where the block is. -/
lemma octetsAt_of_agree {n i m : ℕ} (h : octetsAt name 0 n = octetsAt name' 0 n) (hi : i + m ≤ n) :
    octetsAt name i m = octetsAt name' i m := by
  apply List.map_congr_left
  intro j hj
  rw [List.mem_range] at hj
  exact octetAt_of_agree h (by omega)

/-- The family is in the first two octets. -/
lemma saFamily_of_agree {n : ℕ} (h : octetsAt name 0 n = octetsAt name' 0 n) (hn : 2 ≤ n) :
    name.saFamily = name'.saFamily := by
  rw [Sockaddr.saFamily, Sockaddr.saFamily, octetAt_of_agree h (by omega : 0 < n),
    octetAt_of_agree h (by omega : 1 < n)]

/-- The port is in the two octets behind them. -/
lemma sinPort_of_agree {n : ℕ} (h : octetsAt name 0 n = octetsAt name' 0 n) (hn : 4 ≤ n) :
    name.sinPort = name'.sinPort := by
  rw [Sockaddr.sinPort, Sockaddr.sinPort, octetAt_of_agree h (by omega : 2 < n),
    octetAt_of_agree h (by omega : 3 < n)]

/-- The first octet of a family that is routed. -/
lemma octetAt_zero_of_isInet (h : isInet name = true) :
    octetAt name 0 = 2 ∨ octetAt name 0 = 23 := by
  have hlow := (octetAt name 0).toNat_lt
  have hhigh := (octetAt name 1).toNat_lt
  have hfamily : name.saFamily.toNat = (octetAt name 1).toNat * 256 + (octetAt name 0).toNat :=
    UInt16.toNat_ofNat_of_lt (by simp only [UInt16.size]; omega)
  simp only [isInet, Bool.or_eq_true, beq_iff_eq] at h
  rcases h with h | h
  · left
    have htwo : name.saFamily.toNat = 2 := by rw [h]; rfl
    exact UInt8.toNat_inj.mp (show (octetAt name 0).toNat = 2 by omega)
  · right
    have hfamily6 : name.saFamily.toNat = 23 := by rw [h]; rfl
    exact UInt8.toNat_inj.mp (show (octetAt name 0).toNat = 23 by omega)

/-- A v4 address is routed unless it is in `127.0.0.0/8`. -/
lemma isRoutable_of_v4 (h4 : name.saFamily = afInet) :
    name.IsRoutable ↔ octetAt name 4 ≠ 127 := by
  have hinet : isInet name = true := by
    rw [isInet, h4]
    rfl
  rw [Sockaddr.IsRoutable, isLocalhost, if_pos h4]
  simp [hinet]

/-- A v6 address is routed unless it is `::1`. -/
lemma isRoutable_of_v6 (h6 : name.saFamily = afInet6) :
    name.IsRoutable ↔ name.sin6Addr ≠ List.replicate 15 0 ++ [1] := by
  have hne : afInet6 ≠ afInet := by decide
  have hinet : isInet name = true := by
    rw [isInet, h6]
    rfl
  rw [Sockaddr.IsRoutable, isLocalhost, h6, if_neg hne, if_pos rfl]
  simp [hinet]

/-- An address of another family is not routed. -/
lemma not_isRoutable_of_family (h4 : name.saFamily ≠ afInet) (h6 : name.saFamily ≠ afInet6) :
    ¬name.IsRoutable := by
  rintro ⟨hinet, -⟩
  simp [isInet, h4, h6] at hinet

/-- A v6 address with another octet than zero in front of its last is not `::1`. -/
lemma isRoutable_of_octetAt_ne_zero (h6 : name.saFamily = afInet6) {i : ℕ} (hlo : 8 ≤ i)
    (hhi : i < 23) (hi : octetAt name i ≠ 0) : name.IsRoutable := by
  rw [isRoutable_of_v6 h6]
  intro hloop
  have hoctet : octetAt name.sin6Addr (i - 8) = octetAt name i := by
    rw [Sockaddr.sin6Addr, octetAt_octetsAt (by omega)]
    congr 1
    omega
  rw [hloop, octetAt_append_left (by rw [List.length_replicate]; omega)] at hoctet
  apply hi
  rw [← hoctet]
  exact List.getD_replicate 0 (by omega)

/-- Within a length that covers what is looked at the buffer decides whether it is routed. -/
lemma LengthRoutes.isRoutable_iff {n : ℕ} (h : LengthRoutes name n)
    (hagree : octetsAt name 0 n = octetsAt name' 0 n) : name.IsRoutable ↔ name'.IsRoutable := by
  by_cases hn : n < 2
  · obtain ⟨rfl, h4, h6⟩ := h.family hn
    have hfirst := octetAt_of_agree hagree Nat.one_pos
    refine iff_of_false (fun hname => ?_) fun hname' => ?_
    · rcases octetAt_zero_of_isInet hname.1 with hzero | hzero
      · exact h4 hzero
      · exact h6 hzero
    · rw [hfirst] at h4 h6
      rcases octetAt_zero_of_isInet hname'.1 with hzero | hzero
      · exact h4 hzero
      · exact h6 hzero
  · have hn' : 2 ≤ n := by omega
    have hfamily := saFamily_of_agree hagree hn'
    by_cases h4 : name.saFamily = afInet
    · have h5 := h.v4 hn' h4
      rw [isRoutable_of_v4 h4, isRoutable_of_v4 (hfamily ▸ h4), octetAt_of_agree hagree h5]
    · by_cases h6 : name.saFamily = afInet6
      · have h6' : name'.saFamily = afInet6 := hfamily ▸ h6
        rcases h.v6 hn' h6 with h24 | ⟨i, hlo, hhi, hi, hoctet⟩
        · have haddr : name.sin6Addr = name'.sin6Addr := octetsAt_of_agree hagree (by omega)
          rw [isRoutable_of_v6 h6, isRoutable_of_v6 h6', haddr]
        · have hoctet' : octetAt name' i ≠ 0 := octetAt_of_agree hagree hi ▸ hoctet
          exact iff_of_true (isRoutable_of_octetAt_ne_zero h6 hlo hhi hoctet)
            (isRoutable_of_octetAt_ne_zero h6' hlo hhi hoctet')
      · exact iff_of_false (not_isRoutable_of_family h4 h6)
          (not_isRoutable_of_family (hfamily ▸ h4) (hfamily ▸ h6))

/-- Within a length that suffices the buffer decides how it is treated. -/
lemma LengthSuffices.treatedAlike {n : ℕ} (h : LengthSuffices name n)
    (hagree : octetsAt name 0 n = octetsAt name' 0 n) : TreatedAlike name name' := by
  have hroute := h.isRoutable_iff hagree
  by_cases hname : name.IsRoutable
  · refine Or.inr ⟨hname, hroute.mp hname, ?_⟩
    have hn : 2 ≤ n := by
      by_contra hlt
      obtain ⟨-, h4, h6⟩ := h.family (by omega)
      rcases octetAt_zero_of_isInet hname.1 with hzero | hzero
      · exact h4 hzero
      · exact h6 hzero
    have hfamily := saFamily_of_agree hagree hn
    by_cases h4 : name.saFamily = afInet
    · have h8 := h.v4_end hn h4 ((isRoutable_of_v4 h4).mp hname)
      refine ⟨hfamily, fun _ => octetsAt_of_agree hagree (by omega), fun h6 => ?_,
        sinPort_of_agree hagree (by omega)⟩
      rw [← hfamily, h4] at h6
      cases h6
    · by_cases h6 : name.saFamily = afInet6
      · have h24 := h.v6_end hn h6
        refine ⟨hfamily, fun h4' => ?_, fun _ => octetsAt_of_agree hagree (by omega),
          sinPort_of_agree hagree (by omega)⟩
        exact absurd (hfamily.trans h4') h4
      · exact absurd hname (not_isRoutable_of_family h4 h6)
  · exact Or.inl ⟨hname, mt hroute.mpr hname⟩

/-! ## Lengths that do not suffice -/

/-- A buffer with another octet, and zeros behind it. -/
def withOctet (name : Sockaddr) (i : ℕ) (c : UInt8) : Sockaddr := octetsAt name 0 i ++ [c]

/-- The octets in front of the other one are as they were. -/
lemma octetAt_withOctet {i j : ℕ} (hj : j < i) (c : UInt8) :
    octetAt (withOctet name i c) j = octetAt name j := by
  rw [withOctet, octetAt_append_left (by rwa [length_octetsAt]), octetAt_octetsAt hj, Nat.zero_add]

/-- The other octet. -/
lemma octetAt_withOctet_self (name : Sockaddr) (i : ℕ) (c : UInt8) :
    octetAt (withOctet name i c) i = c := by
  simp [withOctet, octetAt]

/-- The family of such a buffer. -/
lemma saFamily_withOctet {i : ℕ} (hi : 2 ≤ i) (c : UInt8) :
    (withOctet name i c).saFamily = name.saFamily := by
  have hfirst : octetAt (withOctet name i c) 0 = octetAt name 0 := octetAt_withOctet (by omega) c
  have hsecond : octetAt (withOctet name i c) 1 = octetAt name 1 := octetAt_withOctet (by omega) c
  rw [Sockaddr.saFamily, Sockaddr.saFamily, hfirst, hsecond]

/-- Within a length in front of the other octet nothing is changed. -/
lemma agree_withOctet {n i : ℕ} (hn : n ≤ i) (c : UInt8) :
    octetsAt name 0 n = octetsAt (withOctet name i c) 0 n := by
  apply List.map_congr_left
  intro j hj
  rw [List.mem_range] at hj
  exact (octetAt_withOctet (by omega) c).symm

/-- An address that ends with the other octet. -/
lemma octetsAt_withOctet (name : Sockaddr) (i m : ℕ) (c : UInt8) :
    octetsAt (withOctet name (i + m) c) i (m + 1) = octetsAt name i m ++ [c] := by
  have hfront : octetsAt (withOctet name (i + m) c) i m = octetsAt name i m := by
    apply List.map_congr_left
    intro j hj
    rw [List.mem_range] at hj
    exact octetAt_withOctet (by omega) c
  have hlast : octetsAt (withOctet name (i + m) c) (i + m) 1 = [c] := by
    simp [octetsAt, octetAt_withOctet_self]
  rw [octetsAt_add, hfront, hlast]

/-- All buffers with the same octets within the length are routed, or none of them is. -/
def RouteDecided (name : Sockaddr) (n : ℕ) : Prop :=
  ∀ name' : Sockaddr, octetsAt name 0 n = octetsAt name' 0 n →
    (name.IsRoutable ↔ name'.IsRoutable)

variable {n : ℕ}

/-- Two buffers that agree with the given one agree with each other. -/
lemma RouteDecided.variants (h : RouteDecided name n) {i : ℕ} (hi : n ≤ i) (c d : UInt8) :
    (withOctet name i c).IsRoutable ↔ (withOctet name i d).IsRoutable :=
  (h _ (agree_withOctet hi c)).symm.trans (h _ (agree_withOctet hi d))

/-- Without the first octet the family may be any, and with that of a routed family alone it may be
another. -/
lemma RouteDecided.family (h : RouteDecided name n) (hn : n < 2) :
    n = 1 ∧ octetAt name 0 ≠ 2 ∧ octetAt name 0 ≠ 23 := by
  have hpos : n ≠ 0 := by
    rintro rfl
    have hbuf (c : UInt8) : withOctet name 0 c = [c] := rfl
    have hiff := h.variants le_rfl 0 2
    rw [hbuf, hbuf] at hiff
    exact absurd (hiff.mpr (by decide)) (by decide)
  obtain rfl : n = 1 := by omega
  have hbuf {c : UInt8} (hfirst : octetAt name 0 = c) (d : UInt8) :
      withOctet name 1 d = [c, d] := by
    rw [← hfirst]
    rfl
  refine ⟨rfl, fun hfirst => ?_, fun hfirst => ?_⟩
  · have hiff := h.variants le_rfl 1 0
    rw [hbuf hfirst, hbuf hfirst] at hiff
    exact absurd (hiff.mpr (by decide)) (by decide)
  · have hiff := h.variants le_rfl 1 0
    rw [hbuf hfirst, hbuf hfirst] at hiff
    exact absurd (hiff.mpr (by decide)) (by decide)

/-- Without the first octet of a v4 address it may be a loopback one. -/
lemma RouteDecided.five_le (h : RouteDecided name n) (h4 : name.saFamily = afInet) : 5 ≤ n := by
  by_contra hlt
  have hiff := h.variants (show n ≤ 4 by omega) 127 1
  have hroute (c : UInt8) : (withOctet name 4 c).IsRoutable ↔ c ≠ 127 := by
    rw [isRoutable_of_v4 (by rw [saFamily_withOctet (by omega), h4]), octetAt_withOctet_self]
  rw [hroute, hroute] at hiff
  exact absurd (hiff.mpr (by decide)) (by decide)

/-- The octets in front of a v6 address, and zeros up to its last octet. -/
lemma sin6Addr_withOctet_zeros (name : Sockaddr) (c : UInt8) :
    (withOctet (octetsAt name 0 8) 23 c).sin6Addr = List.replicate 15 0 ++ [c] := by
  rw [Sockaddr.sin6Addr, octetsAt_withOctet (octetsAt name 0 8) 8 15 c]
  rfl

/-- Where all octets of a v6 address within the length are zero it may be the loopback one. -/
lemma RouteDecided.exists_octetAt_ne_zero (h : RouteDecided name n)
    (h6 : name.saFamily = afInet6) (hlt : n < 24) :
    ∃ i, 8 ≤ i ∧ i < 23 ∧ i < n ∧ octetAt name i ≠ 0 := by
  by_contra! hzero
  have hagree (c : UInt8) : octetsAt name 0 n =
      octetsAt (withOctet (octetsAt name 0 8) 23 c) 0 n := by
    apply List.map_congr_left
    intro j hj
    rw [List.mem_range] at hj
    rw [Nat.zero_add, octetAt_withOctet (by omega)]
    by_cases hj8 : j < 8
    · rw [octetAt_octetsAt hj8, Nat.zero_add]
    · rw [hzero j (by omega) (by omega) hj, octetAt,
        List.getD_eq_default _ _ (by rw [length_octetsAt]; omega)]
  have hfamily (c : UInt8) : (withOctet (octetsAt name 0 8) 23 c).saFamily = afInet6 := by
    have hfront : octetsAt (octetsAt name 0 8) 0 8 = octetsAt name 0 8 :=
      octetsAt_octetsAt (by omega)
    rw [saFamily_withOctet (by omega), saFamily_of_agree hfront (by omega), h6]
  have hroute (c : UInt8) : (withOctet (octetsAt name 0 8) 23 c).IsRoutable ↔ c ≠ 1 := by
    rw [isRoutable_of_v6 (hfamily c), sin6Addr_withOctet_zeros]
    simp
  have hiff := (h _ (hagree 1)).symm.trans (h _ (hagree 2))
  rw [hroute, hroute] at hiff
  exact absurd (hiff.mpr (by decide)) (by decide)

/-- The octets within a length that decide whether the address is routed. -/
lemma routeDecided_iff : RouteDecided name n ↔ LengthRoutes name n := by
  constructor
  · intro h
    refine ⟨h.family, fun _ => h.five_le, fun _ h6 => ?_⟩
    by_cases h24 : 24 ≤ n
    · exact Or.inl h24
    · exact Or.inr (h.exists_octetAt_ne_zero h6 (by omega))
  · intro h name' hagree
    exact h.isRoutable_iff hagree

/-- All buffers with the same octets within the length are treated alike. -/
def EndpointDecided (name : Sockaddr) (n : ℕ) : Prop :=
  ∀ name' : Sockaddr, octetsAt name 0 n = octetsAt name' 0 n → TreatedAlike name name'

/-- Buffers that are treated alike are routed alike. -/
lemma TreatedAlike.isRoutable_iff (h : TreatedAlike name name') :
    name.IsRoutable ↔ name'.IsRoutable := by
  rcases h with ⟨hname, hname'⟩ | ⟨hname, hname', -⟩
  · exact iff_of_false hname hname'
  · exact iff_of_true hname hname'

/-- A buffer that is routed has the endpoint of the given one. -/
lemma EndpointDecided.sameEndpoint (h : EndpointDecided name n) {i : ℕ} (hi : n ≤ i) {c : UInt8}
    (hc : (withOctet name i c).IsRoutable) : SameEndpoint name (withOctet name i c) := by
  rcases h _ (agree_withOctet hi c) with ⟨-, hnot⟩ | ⟨-, -, hsame⟩
  · exact absurd hc hnot
  · exact hsame

/-- Without the last octet of a v4 address it may be another. -/
lemma EndpointDecided.eight_le (h : EndpointDecided name n) (h4 : name.saFamily = afInet)
    (hlocal : octetAt name 4 ≠ 127) : 8 ≤ n := by
  by_contra hlt
  have hfamily (c : UInt8) : (withOctet name 7 c).saFamily = afInet := by
    rw [saFamily_withOctet (by omega), h4]
  have hroutable (c : UInt8) : (withOctet name 7 c).IsRoutable := by
    rw [isRoutable_of_v4 (hfamily c), octetAt_withOctet (by omega)]
    exact hlocal
  have haddr (c : UInt8) : name.sinAddr = octetsAt name 4 3 ++ [c] :=
    ((h.sameEndpoint (by omega) (hroutable c)).v4 (hfamily c)).trans
      (octetsAt_withOctet name 4 3 c)
  have hequal := (haddr 0).symm.trans (haddr 1)
  simp at hequal

/-- Without the last octet of a v6 address it may be another. -/
lemma EndpointDecided.twentyFour_le (h : EndpointDecided name n) (h6 : name.saFamily = afInet6) :
    24 ≤ n := by
  by_contra hlt
  have hfamily (c : UInt8) : (withOctet name 23 c).saFamily = afInet6 := by
    rw [saFamily_withOctet (by omega), h6]
  have hlast (c : UInt8) : (withOctet name 23 c).sin6Addr = octetsAt name 8 15 ++ [c] :=
    octetsAt_withOctet name 8 15 c
  have hroutable {c : UInt8} (hc : c ≠ 1) : (withOctet name 23 c).IsRoutable := by
    rw [isRoutable_of_v6 (hfamily c), hlast]
    intro hloop
    have hend := congrArg List.getLast? hloop
    simp [hc] at hend
  have haddr {c : UInt8} (hc : c ≠ 1) : name.sin6Addr = octetsAt name 8 15 ++ [c] :=
    ((h.sameEndpoint (by omega) (hroutable hc)).v6 (hfamily c)).trans (hlast c)
  have hequal := (haddr (show (2 : UInt8) ≠ 1 by decide)).symm.trans (haddr (show 3 ≠ 1 by decide))
  simp at hequal

/-- The octets within a length that decide how the address is treated. -/
lemma endpointDecided_iff : EndpointDecided name n ↔ LengthSuffices name n := by
  constructor
  · intro h
    have hroute : RouteDecided name n := fun name' hagree => (h name' hagree).isRoutable_iff
    exact { routeDecided_iff.mp hroute with
      v4_end := fun _ => h.eight_le
      v6_end := fun _ => h.twentyFour_le }
  · intro h name' hagree
    exact h.treatedAlike hagree

/-! ## What a detour shows of an address -/

/-- Detours with a common first part look the same behind it, with each value that it returns. -/
lemma observed_cancel {p : Detour α} {f g : α → Detour β} {a : α}
    (hr : ∃ t, (observed p).Runs t a) (h : observed (p.bind f) = observed (p.bind g)) :
    observed (f a) = observed (g a) := by
  obtain ⟨t, hr⟩ := hr
  rw [observed_bind, observed_bind] at h
  exact Prog.bind_cancel hr h

/-- A socket may be a stream. -/
lemma runs_socketStreamType (s : SOCKET) :
    ∃ t, (observed (socketStreamType s)).Runs t .stream :=
  ⟨[⟨.getsockoptType s, some sockStream⟩], _, [], rfl, rfl, rfl⟩

/-- A blocking scope may be entered. -/
lemma runs_enterBlockingScope (s : SOCKET) :
    ∃ t, (observed (enterBlockingScope s)).Runs t (0, 0) :=
  ⟨[⟨.getsockoptTimeout s .rcvtimeo, none⟩, ⟨.getsockoptTimeout s .sndtimeo, none⟩,
    ⟨.setsockoptTimeout s .rcvtimeo socksHandshakeTimeoutMs, 0⟩,
    ⟨.setsockoptTimeout s .sndtimeo socksHandshakeTimeoutMs, 0⟩, ⟨.ioctlsocket s false, 0⟩],
    _, _, rfl, _, _, rfl, _, _, rfl, _, _, rfl, _, _, rfl, rfl, rfl⟩

/-- A proxy may be reached. -/
lemma runs_dial (api : ConnectApi) (s : SOCKET) (addr : Sockaddr) (namelen : ℤ) :
    ∃ t, (observed (Prog.ask (DetourCall.dial (.sockaddr api s addr namelen)))).Runs t (0 : ℤ) :=
  ⟨[⟨.original (.sockaddr api s (octetsAt addr 0 namelen.toNat) namelen), (0 : ℤ)⟩], _, _, rfl, rfl,
    rfl⟩

/-- A proxy that is an endpoint, or memory that was never written, is a socket address. -/
lemma exists_runs_proxySockaddr {proxy : IpAddr}
    (hproxy : ¬(toSockaddr proxy = .error .badOptionalAccess ∨
      toSockaddr proxy = .error .outOfBounds)) :
    ∃ addr t, (observed (proxySockaddr proxy)).Runs t addr := by
  unfold proxySockaddr
  cases hok : toSockaddr proxy with
  | ok addr => exact ⟨addr, [], rfl, rfl⟩
  | error fault =>
    cases fault with
    | badOptionalAccess => exact absurd (Or.inl hok) hproxy
    | outOfBounds => exact absurd (Or.inr hok) hproxy
    | uninitialised => exact ⟨[], [⟨.uninitialisedSockaddr proxy, []⟩], _, _, rfl, rfl, rfl⟩

/-- A proxy may ask for no login. -/
lemma runs_socks5Handshake (s : SOCKET) (creds : Socks5Credentials) :
    ∃ t, (observed (Prog.ask (DetourCall.socks5Handshake s creds))).Runs t true := by
  obtain ⟨rest, hbuilt⟩ := buildGreeting_eq creds
  refine ⟨[⟨.socket (.send s (greetingFrame creds)), ((greetingFrame creds).length : ℤ)⟩,
    ⟨.socket (.recv s 2), some [socksVersion, socksNoAuthentication]⟩], ?_⟩
  have hne : (greetingFrame creds).length ≠ 0 :=
    fun hzero => greetingFrame_ne_nil creds (List.length_eq_zero_iff.mp hzero)
  simp only [observed, Prog.ask, Prog.expand_call, DetourCall.carryOut, socks5Handshake,
    Prog.bind_eq_bind, hbuilt, List.take_left, if_neg hne]
  refine ⟨_, _, rfl, ?_⟩
  simp only [Prog.ret_bind, ne_eq, not_true_eq_false, if_false]
  exact ⟨_, _, rfl, rfl, rfl⟩

/-- The request shows the endpoint. -/
lemma observed_socks5Request {ip : IpAddress} {port : UInt16} (hname : name.IsEndpoint ip port)
    (s : SOCKET) :
    ∃ k, observed (Prog.ask (DetourCall.socks5Request s (.sockaddr name))) =
      Prog.call (SystemCall.socket (.send s (requestFrame ip.onWire port))) k := by
  have hne : (requestFrame ip.onWire port).length ≠ 0 := by
    rw [requestFrame, WireAddress.length_frame]
    exact Nat.succ_ne_zero _
  have hroom : socksRequestMaxSize ≤ (List.replicate socksRequestMaxSize (0 : UInt8)).length := by
    rw [List.length_replicate]
  simp only [observed, Prog.ask, Prog.expand_call, DetourCall.carryOut, socks5Request,
    fromSockaddr_of_isEndpoint _ hname, buildRequest_requestFrame ip port hroom, if_neg hne,
    socks5RequestEx, take_overwrite_zero]
  exact ⟨_, rfl⟩

/-- Endpoints with the same request are the same. -/
lemma requestFrame_inj {ip ip' : IpAddress} {port port' : UInt16}
    (h : requestFrame ip.onWire port = requestFrame ip'.onWire port') :
    ip = ip' ∧ port = port' := by
  have hbody := List.append_cancel_left h
  injection hbody with hatyp hrest
  cases ip with
  | v4 v =>
    cases ip' with
    | v4 v' =>
      obtain ⟨haddr, hport⟩ := List.append_inj hrest rfl
      exact ⟨congrArg _ (toBytes_v4_inj.mp haddr), htons_inj.mp hport⟩
    | v6 bytes' => exact absurd hatyp (by change ¬socksIpv4 = socksIpv6; decide)
  | v6 bytes =>
    cases ip' with
    | v4 v' => exact absurd hatyp (by change ¬socksIpv6 = socksIpv4; decide)
    | v6 bytes' =>
      obtain ⟨haddr, hport⟩ := List.append_inj hrest
        (bytes.length_toList.trans bytes'.length_toList.symm)
      exact ⟨congrArg _ (Vector.toList_inj.mp haddr), htons_inj.mp hport⟩

variable {scope : HookScope} {api : SockaddrApi} {s : SOCKET}

/-- The first call of a detour that asks shows whether the address is routed. -/
lemma nextCall_asking {bound : InjecteeConfig} (hbound : scope.config = some bound)
    (hasks : scope.asks bound.get = true) (api : SockaddrApi) (s : SOCKET) (name : Sockaddr)
    (namelen : ℤ) :
    (observed (api.detour scope s name namelen)).nextCall [] =
      some (if name.IsRoutable then .getsockoptType s
        else .original (api.call s (octetsAt name 0 namelen.toNat) namelen)) := by
  rw [api.detour_eq]
  by_cases hname : name.IsRoutable
  · obtain ⟨v, -, heq⟩ := exists_routedConnect_eq hname
    rw [heq scope bound hbound, hasks, if_pos hname]
    rfl
  · rw [routedConnect_of_not_isRoutable hname, if_neg hname, observed_original]
    rfl

/-- A detour that asks honours only a length that decides whether the address is routed. -/
lemma HonoursLength.routeDecided (h : HonoursLength scope api s name namelen)
    {bound : InjecteeConfig} (hbound : scope.config = some bound)
    (hasks : scope.asks bound.get = true) : RouteDecided name namelen.toNat := by
  intro name' hagree
  have hfirst := congrArg (fun p => p.nextCall []) (h name' hagree)
  rw [nextCall_asking hbound hasks, nextCall_asking hbound hasks] at hfirst
  by_cases hname : name.IsRoutable
  · by_cases hname' : name'.IsRoutable
    · exact iff_of_true hname hname'
    · simp [hname, hname'] at hfirst
  · by_cases hname' : name'.IsRoutable
    · simp [hname, hname'] at hfirst
    · exact iff_of_false hname hname'

/-- A proxy that is equal to both addresses is the endpoint of both. -/
lemma sameEndpoint_of_sockequal {addr : Sockaddr} (hname : isInet name = true)
    (hname' : isInet name' = true) (h : sockequal addr name = true)
    (h' : sockequal addr name' = true) : SameEndpoint name name' := by
  have hfamily : addr.saFamily = name.saFamily := by
    by_contra hne
    rw [sockequal, if_neg hne] at h
    cases h
  have haddr : isInet addr = true := by
    rw [isInet, hfamily]
    exact hname
  obtain ⟨ip, port, hendpoint⟩ := exists_isEndpoint haddr
  obtain ⟨ip₁, port₁, hendpoint₁⟩ := exists_isEndpoint hname
  obtain ⟨ip₂, port₂, hendpoint₂⟩ := exists_isEndpoint hname'
  obtain ⟨rfl, rfl⟩ := (sockequal_iff hendpoint hendpoint₁).mp h
  obtain ⟨rfl, rfl⟩ := (sockequal_iff hendpoint hendpoint₂).mp h'
  exact SameEndpoint.of_isEndpoint hendpoint₁ hendpoint₂

/-- What is dialled and asked of the proxy shows the endpoint. -/
lemma sameEndpoint_of_observed_tunnel (hname : isInet name = true) (hname' : isInet name' = true)
    {api : ConnectApi} {addr : Sockaddr} {creds : Socks5Credentials}
    {finish : TunnelOutcome → Detour ℤ}
    (h : observed (blockingScope s do
        let outcome ← tunnel (.sockaddr api s addr addr.length) s creds (.sockaddr name)
        finish outcome) =
      observed (blockingScope s do
        let outcome ← tunnel (.sockaddr api s addr addr.length) s creds (.sockaddr name')
        finish outcome)) : SameEndpoint name name' := by
  obtain ⟨ip, port, hendpoint⟩ := exists_isEndpoint hname
  obtain ⟨ip', port', hendpoint'⟩ := exists_isEndpoint hname'
  have hbody := observed_cancel (runs_enterBlockingScope s) h
  simp only [Prog.bind_eq_bind, tunnel, Prog.bind_assoc] at hbody
  have hdialled := observed_cancel (runs_dial api s addr addr.length) hbody
  simp only [ne_eq, not_true_eq_false, if_false, Prog.bind_assoc] at hdialled
  have hgreeted := observed_cancel (runs_socks5Handshake s creds) hdialled
  simp only [Bool.not_true, Bool.false_eq_true, if_false, Prog.bind_assoc] at hgreeted
  obtain ⟨k, hfirst⟩ := observed_socks5Request hendpoint s
  obtain ⟨k', hfirst'⟩ := observed_socks5Request hendpoint' s
  rw [observed_bind, observed_bind, hfirst, hfirst', Prog.call_bind, Prog.call_bind] at hgreeted
  injection hgreeted with hcall _
  rw [SystemCall.socket.injEq, SocketCall.send.injEq] at hcall
  obtain ⟨rfl, rfl⟩ := requestFrame_inj hcall.2
  exact SameEndpoint.of_isEndpoint hendpoint hendpoint'

/-- A detour that asks, and does not end at the proxy's address, shows the endpoint that it
routes. -/
lemma HonoursLength.sameEndpoint (h : HonoursLength scope api s name namelen)
    {bound : InjecteeConfig} (hbound : scope.config = some bound)
    (hasks : scope.asks bound.get = true) (hdial : ¬scope.Undialable) (hname : name.IsRoutable)
    (hname' : name'.IsRoutable)
    (hagree : octetsAt name 0 namelen.toNat = octetsAt name' 0 namelen.toNat) :
    SameEndpoint name name' := by
  have hsame := h name' hagree
  obtain ⟨v, hv, heq⟩ := exists_routedConnect_eq hname
  obtain ⟨v', hv', heq'⟩ := exists_routedConnect_eq hname'
  rw [api.detour_eq, api.detour_eq, heq scope bound hbound, heq' scope bound hbound, typeGate,
    typeGate, hasks] at hsame
  have hstream := observed_cancel (runs_socketStreamType s) hsame
  dsimp only at hstream
  cases hreports : scope.reports bound.get with
  | true =>
    -- The report shows the message of the address.
    rw [HookScope.report, HookScope.report, hreports] at hstream
    injection hstream with hpush _
    simp only [createConnectMessage, SystemCall.push.injEq, InjecteeMessage.mk.injEq,
      InjecteeConnect.mk.injEq, Option.some.injEq, true_and, and_true] at hpush
    exact sameEndpoint_of_toIpAddr_eq hname.1 hname'.1 (by rw [hv, hv', hpush])
  | false =>
    rw [HookScope.report, HookScope.report, hreports] at hstream
    obtain ⟨proxy, hproxy⟩ : ∃ proxy, bound.get.proxy = some proxy := by
      simpa [HookScope.asks, hreports, Option.isSome_iff_exists] using hasks
    have hok : ¬(toSockaddr proxy = .error .badOptionalAccess ∨
        toSockaddr proxy = .error .outOfBounds) := fun hfault =>
      hdial ⟨bound, hbound, hreports, proxy, hproxy, hfault⟩
    obtain ⟨addr, hruns⟩ := exists_runs_proxySockaddr hok
    have hpath : observed (routedTunnel bound.get s _ _ _ name) =
        observed (routedTunnel bound.get s _ _ _ name') := hstream
    rw [routedTunnel, routedTunnel, hproxy] at hpath
    have htunnel := observed_cancel hruns hpath
    by_cases hequal : sockequal addr name = true
    · by_cases hequal' : sockequal addr name' = true
      · exact sameEndpoint_of_sockequal hname.1 hname'.1 hequal hequal'
      · rw [if_pos hequal, if_neg hequal', observed_original] at htunnel
        injection htunnel with hcall _
        cases hcall
    · by_cases hequal' : sockequal addr name' = true
      · rw [if_neg hequal, if_pos hequal', observed_original] at htunnel
        injection htunnel with hcall _
        cases hcall
      · rw [if_neg hequal, if_neg hequal'] at htunnel
        exact sameEndpoint_of_observed_tunnel hname.1 hname'.1 htunnel

/-- **The advertised length.** With a scope, the detour of a call of `connect`, `WSAConnect` or
`ConnectEx` does the same on every buffer with the same octets within the advertised length exactly
where the scope lets every call pass, or these octets spell the endpoint (8 octets of a v4 address,
24 of a v6 address) or already show that it is not routed; where the proxy is not an endpoint and
nothing is reported, it is enough that they show whether it is routed.  Any shorter length is not
looked at: the octets behind it are read, reported and sent to the proxy. -/
theorem honoursLength_iff (scope : HookScope) (api : SockaddrApi) (s : SOCKET) (name : Sockaddr)
    (namelen : ℤ) :
    HonoursLength scope api s name namelen ↔
      scope.Silent ∨ scope.Undialable ∧ LengthRoutes name namelen.toNat ∨
        LengthSuffices name namelen.toNat := by
  constructor
  · intro h
    by_cases hsilent : scope.Silent
    · exact Or.inl hsilent
    unfold HookScope.Silent at hsilent
    push Not at hsilent
    obtain ⟨bound, hbound, hasks⟩ := hsilent
    rw [ne_eq, Bool.not_eq_false] at hasks
    have hroute := h.routeDecided hbound hasks
    by_cases hdial : scope.Undialable
    · exact Or.inr (Or.inl ⟨hdial, routeDecided_iff.mp hroute⟩)
    · refine Or.inr (Or.inr (endpointDecided_iff.mp fun name' hagree => ?_))
      by_cases hname : name.IsRoutable
      · have hname' := (hroute name' hagree).mp hname
        exact Or.inr ⟨hname, hname', h.sameEndpoint hbound hasks hdial hname hname' hagree⟩
      · exact Or.inl ⟨hname, mt (hroute name' hagree).mpr hname⟩
  · rintro (hsilent | ⟨hdial, hroute⟩ | hsuffices)
    · refine honoursLength_of_routedConnect fun name' _ direct direct' hdirect => ?_
      rw [routedConnect_of_silent hsilent, routedConnect_of_silent hsilent]
      exact hdirect
    · exact honoursLength_of_routedConnect fun name' hagree direct direct' hdirect =>
        observed_routedConnect_of_undialable hdial (hroute.isRoutable_iff hagree) hdirect _ _ _ _ _
    · exact honoursLength_of_routedConnect fun name' hagree direct direct' hdirect =>
        observed_routedConnect_congr (hsuffices.treatedAlike hagree) hdirect _ _ _ _ _ _

/-- With a configuration that asks for reports, of `10.0.0.1` and `10.0.0.2` with a length of four
octets the one is reported and the other. -/
theorem not_honoursLength_four :
    octetsAt [2, 0, 0, 80, 10, 0, 0, 1] 0 4 = octetsAt [2, 0, 0, 80, 10, 0, 0, 2] 0 4 ∧
      ¬HonoursLength { config := some (.set { log := some true }), queue := true }
        (.connect .connect) 0 [2, 0, 0, 80, 10, 0, 0, 1] 4 := by
  refine ⟨by decide, fun h => ?_⟩
  have hsame := h [2, 0, 0, 80, 10, 0, 0, 2] (by decide)
  have hreport := congrArg (fun p => p.nextCall [⟨.getsockoptType 0, some sockStream⟩]) hsame
  exact absurd hreport (by decide)

end Encapsule
