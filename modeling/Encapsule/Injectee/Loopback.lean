import Encapsule.Injectee.Routing

/-!
# Loopback destinations

By policy a loopback destination is left alone: the detour makes the original call of the caller and
returns its result (`Exempt`).  `connect`, `WSAConnect` and `ConnectEx` look at the destination
before anything else.  `WSAConnectByList` skips the loopback entries of its list, but then refuses a
list without another entry while there is a proxy; `WSAConnectByName` does not look at the address
at all.  `exempt_iff` says where the policy holds.

What winsock says of the type of a socket, the address parser of asio and the conversion of wide
names are the answers of a `Provider`; all other answers are free.
-/

namespace Encapsule

open Interaction Detour

/-! ## The policy -/

/-- The answers that the fate of a loopback destination hangs on. -/
structure Provider where
  /-- `getsockopt` for the `SO_TYPE` of the socket of the call. -/
  soType : Option ℤ
  makeAddress : Bytes → Option IpAddress
  utf8Encode : List UInt16 → Bytes

/-- The answer is that of the provider, where the provider has one. -/
def Provider.Answers (env : Provider) : Event DetourCall.Answer → Prop
  | ⟨.system (.getsockoptType _), type⟩ => type = env.soType
  | ⟨.system (.makeAddress text), address⟩ => address = env.makeAddress text
  | ⟨.system (.utf8Encode text), octets⟩ => octets = env.utf8Encode text
  | _ => True

/-- The call connects, talks to a proxy, or refuses. -/
def DetourCall.outward : DetourCall → Bool
  | .dial _ => true
  | .socks5Handshake _ _ => true
  | .socks5Request _ _ => true
  | .system (.original _) => true
  | .system (.socket _) => true
  | .system (.shutdown _) => true
  | .system (.wsaSetLastError _) => true
  | .system (.stop _) => true
  | .system _ => false

/-- The program calls the original API as it was called, returns the result, and does nothing else
outward: so it is in every finished run, and no run stops. -/
structure Exempt (env : Provider) (c : ConnectCall) (p : Detour ℤ) : Prop where
  runs : ∀ t r, (∀ e ∈ t, env.Answers e) → p.Runs t r →
    t.filter (fun e => e.1.outward) = [⟨.system (.original c), r⟩]
  not_stop : ∀ t why, (∀ e ∈ t, env.Answers e) → ¬p.Issues t (.system (.stop why))

/-- The call of the original API that a hooked call stands for. -/
def HookedCall.original : HookedCall → ConnectCall
  | .connect api s name namelen => .sockaddr api s name namelen
  | .connectByList s addresses _ _ => .byList s addresses
  | .connectByName api s nodename servicename _ _ => .byName api s nodename servicename
  | .connectEx s name namelen sendBuffer _ => .connectEx s name namelen sendBuffer

/-- 127.0.0.0/8, or `::1`. -/
def IpAddress.IsLoopback : IpAddress → Prop
  | .v4 addr => addr.toNat / 2 ^ 24 = 127
  | .v6 bytes => bytes.toList = List.replicate 15 0 ++ [1]

instance : (addr : IpAddress) → Decidable addr.IsLoopback
  | .v4 _ => inferInstanceAs (Decidable (_ = _))
  | .v6 _ => inferInstanceAs (Decidable (_ = _))

/-- A name as the parser of addresses gets it. -/
def Provider.encode (env : Provider) : NameText → Bytes
  | .narrow text => text
  | .wide text => env.utf8Encode text

/-- Every internet destination of the call is loopback. -/
def HookedCall.Loopback (env : Provider) : HookedCall → Prop
  | .connect _ _ name _ => isInet name = true → isLocalhost name = true
  | .connectByList _ addresses _ _ =>
    ∀ name ∈ addresses, isInet name = true → isLocalhost name = true
  | .connectByName _ _ nodename _ _ _ =>
    ∃ text address, nodename = some text ∧ env.makeAddress (env.encode text) = some address ∧
      address.IsLoopback
  | .connectEx _ name _ _ _ => isInet name = true → isLocalhost name = true

/-- The process has no configuration, or one without a proxy. -/
def HookScope.Unproxied (scope : HookScope) : Prop :=
  ∀ bound, scope.config = some bound → bound.get.proxy = none

/-- Winsock says that the socket is no stream. -/
def Provider.RulesOut (env : Provider) : Prop :=
  ∃ type, env.soType = some type ∧ type ≠ sockStream

/-- Where loopback destinations are left alone. -/
def HookedCall.Spared (scope : HookScope) (env : Provider) : HookedCall → Prop
  | .connect _ _ _ _ => True
  | .connectByList _ _ _ _ => scope.Unproxied
  | .connectByName _ _ _ _ _ _ => scope.Unproxied ∨ env.RulesOut
  | .connectEx _ _ _ _ _ => True

variable {env : Provider} {c : ConnectCall} {s : SOCKET} {α : Type}

/-! ## Programs that are exempt -/

/-- The call is nothing outward. -/
def Inward (call : DetourCall) : Prop := call.outward = false

/-- The original call is exempt. -/
lemma exempt_original (env : Provider) (c : ConnectCall) : Exempt env c (original c) := by
  constructor
  · rintro t r - ⟨x, t', rfl, rfl, rfl⟩
    rfl
  · rintro (_ | ⟨e, t⟩) why - hissues
    · cases hissues
    · obtain ⟨x, -, hissues⟩ := hissues
      exact hissues.elim

/-- An inward call may come before. -/
lemma exempt_call {call : DetourCall} {k : call.Answer → Detour ℤ} (hinward : Inward call)
    (hk : ∀ x, env.Answers ⟨call, x⟩ → Exempt env c (k x)) : Exempt env c (.call call k) := by
  constructor
  · rintro t r ht ⟨x, t', rfl, hruns⟩
    have hrest := (hk x (ht _ List.mem_cons_self)).runs t' r
      (fun e he => ht e (List.mem_cons_of_mem _ he)) hruns
    rw [List.filter_cons_of_neg (by rw [hinward]; exact Bool.false_ne_true), hrest]
  · rintro (_ | ⟨e, t⟩) why ht hissues
    · obtain rfl : DetourCall.system (.stop why) = call := hissues
      cases hinward
    · obtain ⟨x, rfl, hissues⟩ := hissues
      exact (hk x (ht _ List.mem_cons_self)).not_stop t why
        (fun e he => ht e (List.mem_cons_of_mem _ he)) hissues

/-- A program without outward calls may come before. -/
lemma exempt_bind {Q : α → Prop} {p : Detour α} {f : α → Detour ℤ}
    (hp : p.Guarantees env.Answers Inward Q) (hf : ∀ a, Q a → Exempt env c (f a)) :
    Exempt env c (p >>= f) := by
  change Exempt env c (p.bind f)
  induction p with
  | ret a => exact hf a hp
  | call call k ih => exact exempt_call hp.1 fun x hx => ih x (hp.2 x hx)

/-! ## The helpers -/

/-- The report is inward. -/
lemma inward_report (scope : HookScope) (route : InjecteeRoute) (s : SOCKET) (v : IpAddr)
    (syscall : String) :
    (scope.report route s v syscall).Guarantees env.Answers Inward fun _ => True := by
  unfold HookScope.report
  split_ifs
  · exact ⟨rfl, fun _ _ => trivial⟩
  · trivial

/-- The query for the type of a socket is inward, and knows the sockets that are ruled out. -/
lemma inward_socketStreamType (env : Provider) (s : SOCKET) :
    (socketStreamType s).Guarantees env.Answers Inward fun verdict =>
      env.RulesOut → verdict = .notStream := by
  refine ⟨rfl, fun type htype => ?_⟩
  obtain rfl : type = env.soType := htype
  cases hstype : env.soType with
  | none =>
    refine ⟨rfl, fun _ _ hout => ?_⟩
    obtain ⟨type, htype, -⟩ := hout
    rw [hstype] at htype
    cases htype
  | some type =>
    refine fun ⟨other, hother, hne⟩ => ?_
    rw [hstype] at hother
    cases hother
    exact if_neg hne

/-- Where there is no proxy, or the socket is ruled out, the branch on the type of the socket makes
the direct call, or goes on if the socket may be a stream. -/
lemma exempt_typeGate {asked proxied : Bool} {refusal : ℤ} {next : Detour ℤ}
    (hspared : proxied = false ∨ asked = true ∧ env.RulesOut)
    (hnext : proxied = false → Exempt env c next) :
    Exempt env c (typeGate asked proxied s refusal (original c) next) := by
  unfold typeGate
  cases asked with
  | false =>
    obtain hproxied | ⟨hasked, -⟩ := hspared
    · exact hnext hproxied
    · cases hasked
  | true =>
    apply exempt_bind (inward_socketStreamType env s)
    intro verdict hverdict
    rcases hspared with rfl | ⟨-, hout⟩
    · cases verdict with
      | notStream => exact exempt_original env c
      | unknown => exact exempt_original env c
      | stream => exact hnext rfl
    · rw [hverdict hout]
      exact exempt_original env c

/-- The resolution of a name is inward. -/
lemma inward_endpointOfNames (env : Provider) (serviceMap : Bytes → Option UInt16)
    (nodename servicename : Option NameText) :
    (endpointOfNames serviceMap nodename servicename).Guarantees env.Answers Inward
      fun _ => True := by
  refine (guarantees_endpointOfNames serviceMap nodename servicename).mono (fun _ _ => trivial)
    (fun call hlookup => ?_) fun _ _ => trivial
  cases call with
  | system call =>
    cases call with
    | getservbyname => rfl
    | makeAddress => rfl
    | utf8Encode => rfl
    | _ => exact hlookup.elim
  | _ => exact hlookup.elim

/-! ## Where the policy holds -/

variable {scope : HookScope} {name : Sockaddr}

/-- A destination that the gate does not let through. -/
lemma gate_of_loopback (h : isInet name = true → isLocalhost name = true) :
    (isInet name && !isLocalhost name) = false := by
  cases hinet : isInet name with
  | false => rfl
  | true => rw [h hinet]; rfl

/-- `connect` and `WSAConnect`. -/
lemma hookConnectFn_of_loopback (h : isInet name = true → isLocalhost name = true)
    (scope : HookScope) (api : ConnectApi) (s : SOCKET) (namelen : ℤ) :
    hookConnectFn scope api s name namelen = original (.sockaddr api s name namelen) := by
  unfold hookConnectFn
  rw [gate_of_loopback h]
  cases scope.config <;> rfl

/-- `ConnectEx`. -/
lemma hookConnectEx_of_loopback (h : isInet name = true → isLocalhost name = true)
    (scope : HookScope) (s : SOCKET) (namelen : ℤ) (sendBuffer : Option Bytes)
    (bytesSent : Bool) :
    hookConnectEx scope s name namelen sendBuffer bytesSent =
      original (.connectEx s name namelen sendBuffer) := by
  unfold hookConnectEx
  rw [gate_of_loopback h]
  cases scope.config <;> rfl

/-- The loop of `WSAConnectByList` skips all entries. -/
lemma connectByListLoop_of_loopback {names : List Sockaddr}
    (h : ∀ name ∈ names, isInet name = true → isLocalhost name = true) (scope : HookScope)
    (route : InjecteeRoute) (s : SOCKET) (localRoom remoteRoom : Option ℕ)
    (direct : Detour ℤ) :
    connectByListLoop scope route s localRoom remoteRoom direct names =
      if route.proxy.isSome then Prog.ret 0 else direct := by
  induction names with
  | nil => rfl
  | cons name names ih =>
    unfold connectByListLoop
    rw [gate_of_loopback (h name List.mem_cons_self)]
    exact ih fun other hother => h other (List.mem_cons_of_mem name hother)

/-- `WSAConnectByNameA` and `WSAConnectByNameW`, without a proxy or on a socket that is ruled
out. -/
lemma exempt_hookWSAConnectByName (hspared : scope.Unproxied ∨ env.RulesOut)
    (serviceMap : Bytes → Option UInt16) (api : ConnectByNameApi)
    (nodename servicename : Option NameText) (localRoom remoteRoom : Option ℕ) :
    Exempt env (.byName api s nodename servicename)
      (hookWSAConnectByName serviceMap scope api s nodename servicename localRoom remoteRoom) := by
  unfold hookWSAConnectByName
  dsimp only
  cases hconfig : scope.config with
  | none => exact exempt_original env _
  | some bound =>
    dsimp only
    refine exempt_typeGate ?_ fun hproxied => ?_
    · rcases hspared with hunproxied | hout
      · rw [hunproxied bound hconfig]
        exact Or.inl rfl
      · cases hproxy : bound.get.proxy with
        | none => exact Or.inl rfl
        | some proxy => exact Or.inr ⟨by simp [HookScope.asks, hproxy], hout⟩
    · have hproxy : bound.get.proxy = none := by simpa using hproxied
      rw [hproxy]
      refine exempt_bind (inward_endpointOfNames env serviceMap nodename servicename)
        fun target _ => ?_
      cases target with
      | none => exact exempt_original env _
      | some target =>
        exact exempt_bind (inward_report scope _ s target _) fun _ _ => exempt_original env _

/-! ## Where it does not -/

/-- The call is no call of an original connect API by name. -/
def ByAddress : DetourCall → Prop
  | .system (.original (.byName _ _ _ _)) => False
  | _ => True

/-- An API that is aimed at an address is not called by name. -/
lemma byAddress_of_aimedAtStep {addr : Sockaddr} {call : DetourCall}
    (h : AimedAtStep s addr call) : ByAddress call := by
  cases call with
  | system call =>
    cases call with
    | original c =>
      obtain ⟨api, rfl⟩ := h
      trivial
    | _ => trivial
  | _ => trivial

/-- What is routed calls no original API by name. -/
lemma Routed.byAddress {addr : Sockaddr} {p : Detour α} (h : Routed s addr p) :
    p.Guarantees NotRuledOutStep ByAddress fun _ => True :=
  h.mono (fun _ hR => hR) (fun _ => byAddress_of_aimedAtStep) fun _ _ => trivial

/-- With a proxy, whatever its address is, a name connect on a socket that is not ruled out calls no
original API by name. -/
lemma byAddress_hookWSAConnectByName {bound : InjecteeConfig} (hconfig : scope.config = some bound)
    {proxy : IpAddr} (hproxy : bound.get.proxy = some proxy) (serviceMap : Bytes → Option UInt16)
    (api : ConnectByNameApi) (nodename servicename : Option NameText)
    (localRoom remoteRoom : Option ℕ) :
    (hookWSAConnectByName serviceMap scope api s nodename servicename localRoom
      remoteRoom).Guarantees NotRuledOutStep ByAddress fun _ => True := by
  have hasked : scope.asks bound.get = true := by simp [HookScope.asks, hproxy]
  have hverdict : (socketStreamType s).Guarantees NotRuledOutStep ByAddress
      fun verdict => verdict ≠ .notStream :=
    (guarantees_socketStreamType (s := s)).mono (fun _ hR => hR)
      (fun _ => @byAddress_of_aimedAtStep s [] _) fun _ hQ => hQ
  have hfail : Routed s [] (failProxiedConnect s 0) := routed_failProxiedConnect 0
  have hstop (why : DetourStop) : Routed s [] (stop why : Detour Sockaddr) := routed_stop why
  have hnames : Routed s [] (endpointOfNames serviceMap nodename servicename) :=
    routed_endpointOfNames serviceMap nodename servicename
  have hreport (target : IpAddr) :
      Routed s [] (scope.report bound.get s target api.syscall) :=
    routed_report scope bound.get target api.syscall
  have hproxySockaddr : (proxySockaddr proxy).Guarantees NotRuledOutStep ByAddress
      fun _ => True := by
    unfold proxySockaddr
    cases toSockaddr proxy with
    | ok addr => trivial
    | error fault =>
      cases fault with
      | uninitialised => exact ⟨trivial, fun _ _ => trivial⟩
      | badOptionalAccess => exact (hstop _).byAddress
      | outOfBounds => exact (hstop _).byAddress
  unfold hookWSAConnectByName
  dsimp only
  rw [hconfig]
  dsimp only
  unfold typeGate
  rw [hasked, if_pos rfl, hproxy]
  apply Prog.guarantees_bind hverdict
  intro verdict hv
  cases verdict with
  | notStream => exact absurd rfl hv
  | unknown => exact hfail.byAddress
  | stream =>
    apply Prog.guarantees_bind hnames.byAddress
    intro target _
    cases target with
    | none => exact hfail.byAddress
    | some target =>
      apply Prog.guarantees_bind (hreport target).byAddress
      intro _ _
      apply Prog.guarantees_bind hproxySockaddr
      intro addr _
      exact (routed_blockingScope ((routed_tunnel .connect _ _).bind
        (routed_nameOutcome localRoom remoteRoom))).byAddress

/-- Every call but a stop can be answered as the provider does. -/
lemma exists_answer (env : Provider) (call : DetourCall) :
    (∃ why, call = .system (.stop why)) ∨ ∃ x : call.Answer, env.Answers ⟨call, x⟩ := by
  cases call with
  | system call =>
    cases call with
    | getsockoptType s => exact Or.inr ⟨env.soType, rfl⟩
    | makeAddress text => exact Or.inr ⟨env.makeAddress text, rfl⟩
    | utf8Encode text => exact Or.inr ⟨env.utf8Encode text, rfl⟩
    | stop why => exact Or.inl ⟨why, rfl⟩
    | socket c =>
      cases c with
      | send s buf => exact Or.inr ⟨(0 : ℤ), trivial⟩
      | recv s len => exact Or.inr ⟨(none : Option Bytes), trivial⟩
    | _ => exact Or.inr ⟨default, trivial⟩
  | dial c => exact Or.inr ⟨(0 : ℤ), trivial⟩
  | socks5Handshake s creds => exact Or.inr ⟨false, trivial⟩
  | socks5Request s target => exact Or.inr ⟨(0 : UInt8), trivial⟩

/-- Where the provider does not rule the socket out, its answers do not. -/
lemma notRuledOutStep_of_answers (hout : ¬env.RulesOut) {e : Event DetourCall.Answer}
    (h : env.Answers e) : NotRuledOutStep e := by
  obtain ⟨call, x⟩ := e
  cases call with
  | system call =>
    cases call with
    | getsockoptType s =>
      obtain rfl : x = env.soType := h
      change NotRuledOut ⟨.getsockoptType s, env.soType⟩
      cases htype : env.soType with
      | none => trivial
      | some type =>
        by_contra hne
        exact hout ⟨type, htype, hne⟩
    | _ => trivial
  | _ => trivial

/-- What calls no original API by name is not exempt, when it is a name connect. -/
lemma not_exempt_of_byAddress (hout : ¬env.RulesOut) {p : Detour ℤ}
    (hp : p.Guarantees NotRuledOutStep ByAddress fun _ => True) (api : ConnectByNameApi)
    (s : SOCKET) (nodename servicename : Option NameText) :
    ¬Exempt env (.byName api s nodename servicename) p := by
  intro hexempt
  obtain ⟨t, ht, ⟨r, hruns⟩ | ⟨call, ⟨why, rfl⟩, hissues⟩⟩ :=
    Prog.exists_runs_or_issues (exists_answer env) p
  · have houtward := hexempt.runs t r ht hruns
    have hmem : (⟨.system (.original (.byName api s nodename servicename)), r⟩ :
        Event DetourCall.Answer) ∈ t := by
      refine List.mem_of_mem_filter (p := fun e => e.1.outward) ?_
      rw [houtward]
      exact List.mem_singleton_self _
    exact (hp.runs hruns fun e he => notRuledOutStep_of_answers hout (ht e he)).1 _ hmem
  · exact hexempt.not_stop t why ht hissues

/-- `WSAConnectByList` makes the original call where there is no proxy; otherwise it refuses the
list without any call. -/
lemma exempt_hookWSAConnectByList_iff {addresses : List Sockaddr}
    (h : ∀ name ∈ addresses, isInet name = true → isLocalhost name = true)
    (localRoom remoteRoom : Option ℕ) :
    Exempt env (.byList s addresses)
      (hookWSAConnectByList scope s addresses localRoom remoteRoom) ↔ scope.Unproxied := by
  unfold hookWSAConnectByList
  dsimp only
  cases hconfig : scope.config with
  | none =>
    constructor
    · intro _ bound hbound
      rw [hconfig] at hbound
      cases hbound
    · intro _
      exact exempt_original env _
  | some bound =>
    dsimp only
    rw [connectByListLoop_of_loopback h]
    constructor
    · intro hexempt other hother
      rw [hconfig] at hother
      cases hother
      cases hproxy : bound.get.proxy with
      | none => rfl
      | some proxy =>
        -- The run without calls is not exempt.
        rw [hproxy] at hexempt
        have houtward := hexempt.runs [] 0 (by simp) ⟨rfl, rfl⟩
        cases houtward
    · intro hunproxied
      rw [hunproxied bound hconfig]
      exact exempt_original env _

/-- `WSAConnectByName` makes the original call where there is no proxy, or the socket is ruled
out. -/
lemma exempt_hookWSAConnectByName_iff (serviceMap : Bytes → Option UInt16) (api : ConnectByNameApi)
    (nodename servicename : Option NameText) (localRoom remoteRoom : Option ℕ) :
    Exempt env (.byName api s nodename servicename)
      (hookWSAConnectByName serviceMap scope api s nodename servicename localRoom remoteRoom) ↔
        scope.Unproxied ∨ env.RulesOut := by
  constructor
  · intro hexempt
    by_contra hspared
    rw [not_or] at hspared
    obtain ⟨hproxied, hout⟩ := hspared
    simp only [HookScope.Unproxied, not_forall] at hproxied
    obtain ⟨bound, hconfig, hsome⟩ := hproxied
    obtain ⟨proxy, hproxy⟩ := Option.ne_none_iff_exists'.mp hsome
    exact not_exempt_of_byAddress hout (byAddress_hookWSAConnectByName hconfig hproxy serviceMap
      api nodename servicename localRoom remoteRoom) api s nodename servicename hexempt
  · intro hspared
    exact exempt_hookWSAConnectByName hspared serviceMap api nodename servicename localRoom
      remoteRoom

/-- **Loopback is exempt.** A hooked call whose internet destinations are all loopback is left alone
exactly where it is `connect`, `WSAConnect` or `ConnectEx`, or there is no proxy, or it is a name
connect on a socket that winsock says is no stream. -/
theorem exempt_iff (serviceMap : Bytes → Option UInt16) (scope : HookScope) (env : Provider)
    (call : HookedCall) (hloopback : call.Loopback env) :
    Exempt env call.original (detour serviceMap scope call) ↔ call.Spared scope env := by
  cases call with
  | connect api s name namelen =>
    have hexempt : Exempt env (.sockaddr api s name namelen)
        (hookConnectFn scope api s name namelen) := by
      rw [hookConnectFn_of_loopback hloopback]
      exact exempt_original env _
    exact ⟨fun _ => trivial, fun _ => hexempt⟩
  | connectEx s name namelen sendBuffer bytesSent =>
    have hexempt : Exempt env (.connectEx s name namelen sendBuffer)
        (hookConnectEx scope s name namelen sendBuffer bytesSent) := by
      rw [hookConnectEx_of_loopback hloopback]
      exact exempt_original env _
    exact ⟨fun _ => trivial, fun _ => hexempt⟩
  | connectByList s addresses localRoom remoteRoom =>
    exact exempt_hookWSAConnectByList_iff hloopback localRoom remoteRoom
  | connectByName api s nodename servicename localRoom remoteRoom =>
    exact exempt_hookWSAConnectByName_iff serviceMap api nodename servicename localRoom remoteRoom

/-- The process has the proxy 10.0.0.1:1080. -/
def proxiedScope : HookScope :=
  { config := some (.set { addr := some { v4Addr := some 0x0a000001, port := some 1080 } })
    queue := true }

/-- A provider of streams that reads one address. -/
def streamProvider : Provider where
  soType := some sockStream
  makeAddress text :=
    if text = [49, 50, 55, 46, 48, 46, 48, 46, 49] then some (.v4 0x7f000001) else none
  utf8Encode _ := []

/-- A `connect` to 127.0.0.1:80 is left alone. -/
theorem exempt_iff_connect :
    Exempt streamProvider (.sockaddr .connect 4 (sockaddrIn [127, 0, 0, 1] 80) 16)
      (detour (fun _ => none) proxiedScope
        (.connect .connect 4 (sockaddrIn [127, 0, 0, 1] 80) 16)) :=
  (exempt_iff (fun _ => none) proxiedScope streamProvider
    (.connect .connect 4 (sockaddrIn [127, 0, 0, 1] 80) 16) (fun _ => by decide)).mpr trivial

/-- With a proxy, a list connect to 127.0.0.1:80 is refused without any call. -/
theorem not_exempt_list :
    let call : HookedCall := .connectByList 4 [sockaddrIn [127, 0, 0, 1] 80] (some 16) (some 16)
    call.Loopback streamProvider ∧ (detour (fun _ => none) proxiedScope call).Runs [] 0 ∧
      ¬Exempt streamProvider call.original (detour (fun _ => none) proxiedScope call) := by
  intro call
  have hloopback : call.Loopback streamProvider := by
    intro name hname _
    obtain rfl := List.mem_singleton.mp hname
    decide
  have hruns : (detour (fun _ => none) proxiedScope call).Runs [] 0 := ⟨rfl, rfl⟩
  refine ⟨hloopback, hruns, fun hexempt => ?_⟩
  have houtward := hexempt.runs [] 0 (by simp) hruns
  cases houtward

end Encapsule
