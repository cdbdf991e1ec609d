import Encapsule.Foundation.Worlds
import Encapsule.Injectee.ReplyStream
import Encapsule.Injectee.RoundTrip
import Encapsule.Injectee.Routing
import Encapsule.Injectee.Tunnel

/-!
# A proxied connect on the wire

The whole of a routed `connect`, `WSAConnect` or `ConnectEx`, with any winsock around it
(`ProxyWorld`) of which only this is known: the socket is a stream, an original connect of it
succeeds, and then it takes what it is sent and answers with the octets of one stream.

The calls that do not talk to the server leave the wire alone (`Hushed`), so the detour does on the
wire what the handshake and the request do one after the other.  `proxied_connect_wire`: the stream
alone decides how the call ends, and what has been sent by then.
-/

namespace Encapsule

open Interaction Detour

variable {α β σ : Type} {s : SOCKET}

/-! ## A stream server in a world -/

/-- Of `s`, the world says that it is a stream, that it connects to whatever it is told to, and that
it is served as the wire shows. -/
structure ProxyWorld (world : σ → Event SystemCall.Answer → Option σ) (wire : σ → Wire)
    (s : SOCKET) : Prop where
  stream {w w' : σ} {type : Option ℤ} :
    world w ⟨.getsockoptType s, type⟩ = some w' → type = some sockStream
  connects {w w' : σ} {api : ConnectApi} {addr : Sockaddr} {namelen ret : ℤ} :
    world w ⟨.original (.sockaddr api s addr namelen), ret⟩ = some w' → ret = 0
  serves {w w' : σ} {c : SocketCall} {x : c.Answer} :
    world w ⟨.socket c, x⟩ = some w' → (x, wire w') = streamServer c (wire w)
  leaves {w w' : σ} {c : SystemCall} {x : c.Answer} :
    (∀ talk, c ≠ .socket talk) → world w ⟨c, x⟩ = some w' → wire w' = wire w

/-- Where the program ends, `Q` relates the wire before, the value and the wire after. -/
def Conveys (world : σ → Event SystemCall.Answer → Option σ) (wire : σ → Wire) (p : Detour α)
    (Q : Wire → α → Wire → Prop) : Prop :=
  ∀ w a w', (p.expand DetourCall.carryOut).Ends world w a w' → Q (wire w) a (wire w')

/-- The call does not talk to the server. -/
def IsHushed : DetourCall → Prop
  | .system c => ∀ talk, c ≠ .socket talk
  | .dial _ => True
  | _ => False

/-- The program does not talk to the server. -/
def Hushed (p : Detour α) : Prop := p.Guarantees (fun _ => True) IsHushed fun _ => True

variable {world : σ → Event SystemCall.Answer → Option σ} {wire : σ → Wire}

/-- A value leaves the wire alone. -/
lemma conveys_ret {a : α} {Q : Wire → α → Wire → Prop} (h : ∀ before, Q before a before) :
    Conveys world wire (Prog.ret a) Q := by
  rintro w b w' ⟨rfl, rfl⟩
  exact h (wire w')

/-- A composition conveys what its second part makes of the wire in the middle. -/
lemma Conveys.bind {p : Detour α} {f : α → Detour β} {Q : Wire → α → Wire → Prop}
    {R : Wire → β → Wire → Prop} (hp : Conveys world wire p Q)
    (hf : ∀ a, Conveys world wire (f a)
      fun mid b after => ∀ before, Q before a mid → R before b after) :
    Conveys world wire (p.bind f) R := by
  intro w b w' hends
  rw [Prog.expand_bind] at hends
  obtain ⟨a, mid, hfirst, hsecond⟩ := Prog.ends_bind.mp hends
  exact hf a mid b w' hsecond (wire w) (hp w a mid hfirst)

/-- What is conveyed may be weakened. -/
lemma Conveys.mono {p : Detour α} {Q Q' : Wire → α → Wire → Prop} (hp : Conveys world wire p Q)
    (hQ : ∀ before a after, Q before a after → Q' before a after) : Conveys world wire p Q' :=
  fun w a w' hends => hQ _ _ _ (hp w a w' hends)

lemma Hushed.bind {p : Detour α} {f : α → Detour β} (hp : Hushed p) (hf : ∀ a, Hushed (f a)) :
    Hushed (p.bind f) := Prog.guarantees_bind hp fun a _ => hf a

lemma hushed_ret (a : α) : Hushed (Prog.ret a) := trivial

/-- A system call that is no talk. -/
lemma hushed_system {c : SystemCall} (hc : ∀ talk, c ≠ .socket talk) : Hushed (system c) :=
  ⟨hc, fun _ _ => trivial⟩

/-- Who does not talk leaves the wire alone: by induction, one call at a time. -/
lemma ProxyWorld.hushed (hworld : ProxyWorld world wire s) {p : Detour α} (hp : Hushed p) :
    Conveys world wire p fun before _ after => after = before := by
  induction p with
  | ret a => exact conveys_ret fun _ => rfl
  | call c k ih =>
    intro w a w' hends
    obtain ⟨x, mid, hfirst, hsecond⟩ := Prog.ends_bind.mp hends
    have hafter : wire w' = wire mid := ih x (hp.2 x trivial) mid a w' hsecond
    have hcall : wire mid = wire w := by
      cases c with
      | system c => exact hworld.leaves hp.1 (Prog.ends_ask.mp hfirst)
      | dial c => exact hworld.leaves (fun _ => SystemCall.noConfusion) (Prog.ends_ask.mp hfirst)
      | socks5Handshake s creds => exact hp.1.elim
      | socks5Request s target => exact hp.1.elim
    rw [hafter, hcall]

/-- A conversation is the one with the stream. -/
lemma ProxyWorld.conversation (hworld : ProxyWorld world wire s) {p : Prog SocketCall.Answer α}
    {w w' : σ} {a : α}
    (hends : (p.expand fun c => Prog.ask (SystemCall.socket c)).Ends world w a w') :
    (a, wire w') = p.interp streamServer (wire w) := by
  induction p generalizing w with
  | ret b =>
    obtain ⟨rfl, rfl⟩ := hends
    rfl
  | call c k ih =>
    obtain ⟨x, mid, hfirst, hsecond⟩ := Prog.ends_bind.mp hends
    have hanswer : (x, wire mid) = streamServer c (wire w) :=
      hworld.serves (Prog.ends_ask.mp hfirst)
    rw [ih x hsecond, Prog.interp_call, ← hanswer]

/-- What was sent before does not matter to a conversation. -/
lemma interp_streamServer_sent (p : Prog SocketCall.Answer α) (sent : List Bytes) (input : Bytes) :
    p.interp streamServer { sent, input } =
      ((p.interp streamServer { sent := [], input }).1,
        { sent := sent ++ (p.interp streamServer { sent := [], input }).2.sent
          input := (p.interp streamServer { sent := [], input }).2.input }) := by
  induction p generalizing sent input with
  | ret a => simp
  | call c k ih =>
    cases c with
    | send s buf =>
      simp only [Prog.interp_call, streamServer, List.nil_append]
      rw [ih _ (sent ++ [buf]), ih _ [buf]]
      simp
    | recv s len =>
      simp only [Prog.interp_call, streamServer]
      rw [ih _ sent]

/-! ## The request -/

/-- The request with a server that answers with the octets of `stream`. -/
def requestOn (s : SOCKET) (target : RequestTarget) (stream : Bytes) : UInt8 × Wire :=
  (socks5Request s target).interp streamServer { sent := [], input := stream }

/-- An address as a frame carries it. -/
def IpAddress.onWire : IpAddress → WireAddress
  | .v4 v => .ipv4 ⟨(htonl v).toArray, rfl⟩
  | .v6 bytes => .ipv6 bytes

/-- The CONNECT request for an address and a port. -/
def requestFrame (a : WireAddress) (port : UInt16) : Bytes :=
  a.frame [socksVersion, socksConnect, 0] port

/-- The builder lays down the frame of an endpoint. -/
lemma buildRequest_requestFrame (ip : IpAddress) (port : UInt16) {out : Bytes}
    (hroom : socksRequestMaxSize ≤ out.length) :
    socks5BuildRequest ip.atyp ip.toBytes port out =
      ((requestFrame ip.onWire port).length, overwrite out 0 (requestFrame ip.onWire port)) := by
  have hroom' : 262 ≤ out.length := hroom
  have hfree : ip.onWire.NulFree := by
    cases ip with
    | v4 v => exact fun h : socksIpv4 = socksDomainname => absurd h (by decide)
    | v6 bytes => exact fun h : socksIpv6 = socksDomainname => absurd h (by decide)
  have hmemory : ip.onWire.memory = ip.toBytes := by
    cases ip <;> rfl
  have hatyp : ip.onWire.atyp = ip.atyp := by
    cases ip <;> rfl
  have hfield : ip.onWire.field.length ≤ 16 := by
    cases ip with
    | v4 v => exact (by decide : 4 ≤ 16)
    | v6 bytes => exact le_of_eq bytes.length_toList
  have hlen : (requestFrame ip.onWire port).length = ip.onWire.field.length + 6 := by
    rw [requestFrame, WireAddress.length_frame, List.length_cons, List.length_cons,
      List.length_singleton]
    omega
  have hspace : ip.onWire.field.length + 6 ≤ out.length := by omega
  have hbuilt := WireAddress.buildFrame_wire hfree [] port
    (rfl : [socksVersion, socksConnect, 0].length = 3) hspace
  rw [List.append_nil, hmemory, hatyp] at hbuilt
  rw [hlen]
  exact hbuilt

/-- The reader of the reply sends nothing. -/
lemma replyOn_sent (s : SOCKET) (stream : Bytes) : (replyOn s stream).2.sent = [] := by
  have hrelay (atyp : UInt8) (named : Bool) (field : ℕ) (rest : Bytes) :
      (relayAnswer atyp named field rest).2.sent = [] := by
    unfold relayAnswer
    split_ifs <;> rfl
  by_cases hlen : stream.length < 4
  · rw [replyOn_of_length_lt s hlen]
  obtain ⟨ver, rep, rsv, atyp, rest, rfl⟩ := exists_fixed hlen
  rw [replyOn_cons]
  split_ifs
  · rfl
  · rfl
  · exact hrelay _ _ _ _
  · exact hrelay _ _ _ _
  · unfold namedAnswer
    split_ifs
    · rfl
    · exact hrelay _ _ _ _
  · rfl

/-- The whole request: one frame, and the verdict on the reply. -/
lemma requestOn_eq {name : Sockaddr} {ip : IpAddress} {port : UInt16}
    (hname : name.IsEndpoint ip port) (s : SOCKET) (stream : Bytes) :
    requestOn s (.sockaddr name) stream =
      ((match (replyOn s stream).1.1 with
        | .ok => socksSuccess
        | .refusedRep => (replyOn s stream).1.2.1.getD socksGeneralFailure
        | _ => socksGeneralFailure),
        { sent := [requestFrame ip.onWire port], input := (replyOn s stream).2.input }) := by
  have hne : (requestFrame ip.onWire port).length ≠ 0 := by
    rw [requestFrame, WireAddress.length_frame]
    exact Nat.succ_ne_zero _
  have hroom : socksRequestMaxSize ≤ (List.replicate socksRequestMaxSize (0 : UInt8)).length := by
    rw [List.length_replicate]
  simp only [requestOn, socks5Request, fromSockaddr_of_isEndpoint _ hname,
    buildRequest_requestFrame ip port hroom, if_neg hne, socks5RequestEx, take_overwrite_zero]
  simp only [Prog.bind_eq_bind, Prog.interp_bind, interp_sendAll, ne_eq, not_true_eq_false,
    if_false, List.nil_append]
  have hreply : (socks5ReadReply s).interp streamServer { sent := [], input := stream } =
      replyOn s stream := rfl
  rw [interp_streamServer_sent (socks5ReadReply s), hreply, replyOn_sent]
  cases (replyOn s stream).1.1 <;> rfl

/-- A request is granted where the reply is. -/
lemma requestOn_eq_success_iff {name : Sockaddr} {ip : IpAddress} {port : UInt16}
    (hname : name.IsEndpoint ip port) (s : SOCKET) (stream : Bytes) :
    (requestOn s (.sockaddr name) stream).1 = socksSuccess ↔ (replyOn s stream).1.1 = .ok := by
  have hgeneral : socksGeneralFailure ≠ socksSuccess := by decide
  rw [requestOn_eq hname]
  cases hverdict : (replyOn s stream).1.1 with
  | ok => exact iff_of_true rfl rfl
  | refusedRep =>
    obtain ⟨rep, -, -, hrep, hoctet, -⟩ := exists_refused hverdict
    refine iff_of_false ?_ nofun
    rw [hoctet]
    exact hrep
  | protocolError => exact iff_of_false hgeneral nofun
  | truncated => exact iff_of_false hgeneral nofun
  | bndIsAName => exact iff_of_false hgeneral nofun

/-! ## The tunnel -/

/-- The proxied path with a server that answers with the octets of `stream`. -/
def tunnelOn (s : SOCKET) (creds : Socks5Credentials) (target : RequestTarget) (stream : Bytes) :
    TunnelOutcome × Wire :=
  let greeted := handshakeOn s creds stream
  let granted := requestOn s target greeted.2.input
  if greeted.1 then
    (if granted.1 = socksSuccess then .established else .refused,
      { sent := greeted.2.sent ++ granted.2.sent, input := granted.2.input })
  else
    (.refused, greeted.2)

/-- A handshake of a detour is the one with the stream. -/
lemma ProxyWorld.socks5Handshake (hworld : ProxyWorld world wire s) (creds : Socks5Credentials) :
    Conveys world wire (Prog.ask (DetourCall.socks5Handshake s creds)) fun before ok after =>
      (ok, after) = (Encapsule.socks5Handshake s creds).interp streamServer before := by
  intro w ok w' hends
  obtain ⟨_, _, hfirst, rfl, rfl⟩ := Prog.ends_bind.mp hends
  exact hworld.conversation hfirst

/-- A request of a detour is the one with the stream. -/
lemma ProxyWorld.socks5Request (hworld : ProxyWorld world wire s) (target : RequestTarget) :
    Conveys world wire (Prog.ask (DetourCall.socks5Request s target)) fun before rep after =>
      (rep, after) = (Encapsule.socks5Request s target).interp streamServer before := by
  intro w rep w' hends
  obtain ⟨_, _, hfirst, rfl, rfl⟩ := Prog.ends_bind.mp hends
  exact hworld.conversation hfirst

/-- The original connect of `s` succeeds, and nothing is sent yet. -/
lemma ProxyWorld.dial (hworld : ProxyWorld world wire s) (api : ConnectApi) (addr : Sockaddr)
    (namelen : ℤ) :
    Conveys world wire (Prog.ask (DetourCall.dial (.sockaddr api s addr namelen)))
      fun before ret after => ret = 0 ∧ after = before := by
  intro w ret w' hends
  obtain ⟨_, _, hfirst, rfl, rfl⟩ := Prog.ends_bind.mp hends
  have hcall := Prog.ends_ask.mp hfirst
  exact ⟨hworld.connects hcall, hworld.leaves (fun _ => SystemCall.noConfusion) hcall⟩

/-- The proxied path of a detour is the one with the stream. -/
lemma ProxyWorld.tunnel (hworld : ProxyWorld world wire s) (api : ConnectApi) (addr : Sockaddr)
    (namelen : ℤ) (creds : Socks5Credentials) (target : RequestTarget) :
    Conveys world wire (tunnel (.sockaddr api s addr namelen) s creds target)
      fun before outcome after => ∀ stream, before = { sent := [], input := stream } →
        (outcome, after) = tunnelOn s creds target stream := by
  refine (hworld.dial api addr namelen).bind fun ret => ?_
  by_cases hret : ret = 0
  case neg =>
    rw [if_pos hret]
    exact conveys_ret fun _ _ h => absurd h.1 hret
  rw [if_neg (not_not.mpr hret)]
  refine (hworld.socks5Handshake creds).bind fun ok => ?_
  cases ok with
  | false =>
    refine conveys_ret fun after mid hgreet before hdial stream hbefore => ?_
    rw [hdial.2, hbefore] at hgreet
    have hfirst : handshakeOn s creds stream = (false, after) := hgreet.symm
    simp [tunnelOn, hfirst]
  | true =>
    refine (hworld.socks5Request target).bind fun rep => ?_
    have hends (outcome : TunnelOutcome)
        (houtcome : outcome = if rep = socksSuccess then .established else .refused) :
        Conveys world wire (Prog.ret outcome) fun last outcome after => ∀ mid,
          (rep, last) = (Encapsule.socks5Request s target).interp streamServer mid →
          ∀ mid', (true, mid) = (Encapsule.socks5Handshake s creds).interp streamServer mid' →
          ∀ before, ret = 0 ∧ mid' = before → ∀ stream, before = { sent := [], input := stream } →
            (outcome, after) = tunnelOn s creds target stream := by
      refine conveys_ret fun after mid hreq mid' hgreet before hdial stream hbefore => ?_
      rw [hdial.2, hbefore] at hgreet
      have hfirst : handshakeOn s creds stream = (true, mid) := hgreet.symm
      rw [interp_streamServer_sent] at hreq
      obtain ⟨rfl, rfl⟩ := Prod.mk.inj hreq
      simp only [tunnelOn, hfirst, if_true, houtcome]
      rfl
    by_cases hrep : rep = socksSuccess
    · rw [if_neg (not_not.mpr hrep)]
      exact hends .established (if_pos hrep).symm
    · rw [if_pos hrep]
      exact hends .refused (if_neg hrep).symm

/-! ## The detours -/

/-- A blocking scope conveys what its body does: its own calls do not talk. -/
lemma ProxyWorld.blockingScope (hworld : ProxyWorld world wire s) {body : Detour α}
    {Q : Wire → α → Wire → Prop} (hbody : Conveys world wire body Q) :
    Conveys world wire (blockingScope s body) Q := by
  have henter : Hushed (enterBlockingScope s) := by
    refine (hushed_system fun _ => SystemCall.noConfusion).bind fun _ => ?_
    refine (hushed_system fun _ => SystemCall.noConfusion).bind fun _ => ?_
    refine (hushed_system fun _ => SystemCall.noConfusion).bind fun _ => ?_
    refine (hushed_system fun _ => SystemCall.noConfusion).bind fun _ => ?_
    exact (hushed_system fun _ => SystemCall.noConfusion).bind fun _ => hushed_ret _
  have hleave (saved : DWORD × DWORD) : Hushed (leaveBlockingScope s saved) := by
    refine (hushed_system fun _ => SystemCall.noConfusion).bind fun _ => ?_
    refine (hushed_system fun _ => SystemCall.noConfusion).bind fun _ => ?_
    refine (hushed_system fun _ => SystemCall.noConfusion).bind fun _ => ?_
    exact (hushed_system fun _ => SystemCall.noConfusion).bind fun _ => hushed_ret _
  refine (hworld.hushed henter).bind fun saved => hbody.bind fun res => ?_
  refine (hworld.hushed (hleave saved)).bind fun _ => conveys_ret ?_
  rintro after mid rfl mid' hres before rfl
  exact hres

/-- The refusal leaves the wire alone and returns what it is told to. -/
lemma ProxyWorld.failProxiedConnect (hworld : ProxyWorld world wire s) (ret : ℤ) :
    Conveys world wire (failProxiedConnect s ret)
      fun before res after => res = ret ∧ after = before := by
  refine (hworld.hushed (hushed_system fun _ => SystemCall.noConfusion)).bind fun err => ?_
  refine (hworld.hushed (hushed_system fun _ => SystemCall.noConfusion)).bind fun _ => ?_
  refine (hworld.hushed (hushed_system fun _ => SystemCall.noConfusion)).bind fun _ => ?_
  refine conveys_ret ?_
  rintro after mid rfl mid' rfl before rfl
  exact ⟨rfl, rfl⟩

/-- The socket is asked for its type, and it is a stream. -/
lemma ProxyWorld.socketStreamType (hworld : ProxyWorld world wire s) :
    Conveys world wire (socketStreamType s)
      fun before verdict after => verdict = .stream ∧ after = before := by
  have htype : Conveys world wire (system (.getsockoptType s))
      fun before type after => type = some sockStream ∧ after = before := by
    intro w type w' hends
    obtain ⟨_, _, hfirst, rfl, rfl⟩ := Prog.ends_bind.mp hends
    have hcall := Prog.ends_ask.mp hfirst
    exact ⟨hworld.stream hcall, hworld.leaves (fun _ => SystemCall.noConfusion) hcall⟩
  refine htype.bind fun type => ?_
  cases type with
  | none =>
    refine (hworld.hushed (hushed_system fun _ => SystemCall.noConfusion)).bind fun _ => ?_
    exact conveys_ret fun _ _ _ _ h => nomatch h.1
  | some type =>
    refine conveys_ret fun after before htype => ⟨?_, htype.2⟩
    exact if_pos (Option.some.inj htype.1)

/-- A stream passes the branch on the type of the socket. -/
lemma ProxyWorld.typeGate (hworld : ProxyWorld world wire s) {asked proxied : Bool} {refusal : ℤ}
    {direct next : Detour ℤ} {Q : Wire → ℤ → Wire → Prop} (hnext : Conveys world wire next Q) :
    Conveys world wire (typeGate asked proxied s refusal direct next) Q := by
  unfold Detour.typeGate
  cases asked with
  | false => exact hnext
  | true =>
    refine hworld.socketStreamType.bind fun verdict => ?_
    cases verdict with
    | notStream => exact fun _ _ _ _ _ h => nomatch h.1
    | unknown => exact fun _ _ _ _ _ h => nomatch h.1
    | stream =>
      refine hnext.mono fun mid ret after hQ before h => ?_
      rwa [← h.2]

/-- A routed connect conveys what the tunnel does on the stream, and how the call is finished. -/
lemma ProxyWorld.routedConnect (hworld : ProxyWorld world wire s) {bound : InjecteeConfig}
    {addr name : Sockaddr} (hroute : ProxyRoute bound.get addr) (hinet : isInet name = true)
    (hlocal : isLocalhost name = false) (hne : sockequal addr name = false) (queue : Bool)
    (refusal : ℤ) (syscall : String) (direct : Detour ℤ) (api : ConnectApi)
    {finish : TunnelOutcome → Detour ℤ} {Q : TunnelOutcome → Wire → ℤ → Wire → Prop}
    (hfinish : ∀ outcome, Conveys world wire (finish outcome) (Q outcome)) :
    Conveys world wire
      (routedConnect ⟨some bound, queue⟩ s refusal syscall direct
        (fun addr => .sockaddr api s addr addr.length) finish name)
      fun before ret after => ∀ stream, before = { sent := [], input := stream } →
        Q (tunnelOn s bound.get.creds (.sockaddr name) stream).1
          (tunnelOn s bound.get.creds (.sockaddr name) stream).2 ret after := by
  obtain ⟨proxy, hproxy, haddr⟩ := hroute.exists_proxy
  obtain ⟨v, hv⟩ := exists_toIpAddr_of_isInet hinet
  have hreport : Hushed (HookScope.report ⟨some bound, queue⟩ bound.get s v syscall) := by
    unfold HookScope.report
    split_ifs
    · exact hushed_system fun _ => SystemCall.noConfusion
    · exact hushed_ret ()
  simp only [Encapsule.routedConnect, hinet, hlocal, hv, hproxy, haddr, Option.isSome_some,
    Bool.not_false, Bool.and_self, if_true]
  refine hworld.typeGate ((hworld.hushed hreport).bind fun _ => ?_)
  simp only [Prog.bind_eq_bind, Prog.ret_bind, hne, Bool.false_eq_true, if_false]
  refine hworld.blockingScope ((hworld.tunnel api addr addr.length bound.get.creds
    (.sockaddr name)).bind fun outcome => ?_)
  refine (hfinish outcome).mono fun last ret after hQ mid htunnel before hmid stream hbefore => ?_
  rw [← htunnel stream (hmid.trans hbefore)]
  exact hQ

/-! ## How the call ends -/

/-- The server waives the login or accepts it, and then grants the request with a numeric address;
`tail` is what comes behind. -/
def Granted (creds : Socks5Credentials) (stream tail : Bytes) : Prop :=
  ∃ (a : WireAddress) (rsv : UInt8) (port : UInt16), a.named = false ∧
    (stream = [5, 0] ++ (a.reply rsv port ++ tail) ∨
      creds.enabled = true ∧ creds.Fits ∧ stream = [5, 2, 1, 0] ++ (a.reply rsv port ++ tail))

/-- What the client sends before the tunnel is there, when it gets that far. -/
def openingFrames (creds : Socks5Credentials) (stream request : Bytes) : List Bytes :=
  (if LoginSent creds stream then [greetingFrame creds, loginFrame creds]
    else [greetingFrame creds]) ++ [request]

/-- A granted stream leads to a tunnel, and what comes behind is left on it. -/
lemma tunnelOn_of_granted {creds : Socks5Credentials} {stream tail : Bytes} {name : Sockaddr}
    {ip : IpAddress} {port : UInt16} (hname : name.IsEndpoint ip port)
    (hgranted : Granted creds stream tail) :
    tunnelOn s creds (.sockaddr name) stream =
      (.established,
        { sent := openingFrames creds stream (requestFrame ip.onWire port), input := tail }) := by
  obtain ⟨a, rsv, bound, hnumeric, hstream⟩ := hgranted
  have hok : a.verdict = .ok := WireAddress.verdict_eq_ok.mpr hnumeric
  have hgreeted : handshakeOn s creds stream =
      (true, { sent := (handshakeOn s creds stream).2.sent,
               input := a.reply rsv bound ++ tail }) := by
    have htrue : (handshakeOn s creds stream).1 = true := by
      rw [handshakeOn_eq_true_iff]
      rcases hstream with rfl | ⟨he, hfit, rfl⟩
      · exact Or.inl (List.prefix_append _ _)
      · exact Or.inr ⟨he, hfit, List.prefix_append _ _⟩
    have hinput : (handshakeOn s creds stream).2.input = a.reply rsv bound ++ tail := by
      rcases hstream with rfl | ⟨he, hfit, rfl⟩
      · simp [handshakeOn_cons_cons]
      · simp [handshakeOn_cons_cons, he, hfit]
    rw [← htrue, ← hinput]
  have hreq : requestOn s (.sockaddr name) (a.reply rsv bound ++ tail) =
      (socksSuccess, { sent := [requestFrame ip.onWire port], input := tail }) := by
    rw [requestOn_eq hname, replyOn_reply, hok]
  have hinput := congrArg (fun res => res.2.input) hgreeted
  have htrue := congrArg Prod.fst hgreeted
  dsimp only at hinput htrue
  simp only [tunnelOn, hinput, htrue, hreq, if_true, handshakeOn_sent, openingFrames]

/-- There is a tunnel only on a granted stream. -/
lemma exists_granted {creds : Socks5Credentials} {stream : Bytes} {name : Sockaddr}
    {ip : IpAddress} {port : UInt16} (hname : name.IsEndpoint ip port)
    (htunnel : (tunnelOn s creds (.sockaddr name) stream).1 = .established) :
    ∃ tail, Granted creds stream tail := by
  unfold tunnelOn at htunnel
  by_cases hgreeted : (handshakeOn s creds stream).1 = true
  case neg => simp [hgreeted] at htunnel
  have hgranted : (requestOn s (.sockaddr name) (handshakeOn s creds stream).2.input).1 =
      socksSuccess := by
    by_contra hrep
    simp [hgreeted, hrep] at htunnel
  rw [requestOn_eq_success_iff hname] at hgranted
  obtain ⟨a, rsv, bound, tail, hinput⟩ := exists_reply (Or.inl hgranted)
  rw [hinput, replyOn_reply] at hgranted
  have hnumeric : a.named = false := WireAddress.verdict_eq_ok.mp hgranted
  have hcourse := handshakeOn_consumed s creds stream hgreeted
  rw [hinput] at hcourse
  refine ⟨tail, a, rsv, bound, hnumeric, hcourse.imp_right fun hlogin => ?_⟩
  rcases (handshakeOn_eq_true_iff s creds stream).mp hgreeted with hwaived | ⟨he, hfit, -⟩
  · rw [hlogin] at hwaived
    simp at hwaived
  · exact ⟨he, hfit, hlogin⟩

/-- Whatever the stream, nothing is sent but the opening frames in their order. -/
lemma tunnelOn_sent_prefix {creds : Socks5Credentials} {stream : Bytes} {name : Sockaddr}
    {ip : IpAddress} {port : UInt16} (hname : name.IsEndpoint ip port) :
    (tunnelOn s creds (.sockaddr name) stream).2.sent <+:
      openingFrames creds stream (requestFrame ip.onWire port) := by
  unfold tunnelOn openingFrames
  rw [← handshakeOn_sent s]
  by_cases hgreeted : (handshakeOn s creds stream).1 = true
  · simp only [hgreeted, if_true, requestOn_eq hname]
    exact List.prefix_rfl
  · simp only [hgreeted]
    exact List.prefix_append _ _

/-- The address that a call with a socket address names. -/
def HookedCall.name : HookedCall → Option Sockaddr
  | .connect _ _ name _ => some name
  | .connectEx _ name _ _ _ => some name
  | _ => none

/-- The octets that a call sends once it is connected. -/
def HookedCall.firstOctets : HookedCall → List Bytes
  | .connectEx _ _ _ sendBuffer _ => sendBuffer.toList
  | _ => []

/-- How a call ends when its tunnel did, and what it leaves on the wire: the first octets go out
on a tunnel only. -/
def HookedCall.Concludes (call : HookedCall) (outcome : TunnelOutcome) (before : Wire) (ret : ℤ)
    (after : Wire) : Prop :=
  (outcome = .refused → ¬call.convention.Succeeds ret ∧ after = before) ∧
    (outcome = .established → call.convention.Succeeds ret ∧
      after = { before with sent := before.sent ++ call.firstOctets })

/-- The tunnel is refused. -/
lemma concludes_refused {call : HookedCall} {before : Wire} {ret : ℤ}
    (hret : ¬call.convention.Succeeds ret) : call.Concludes .refused before ret before :=
  ⟨fun _ => ⟨hret, rfl⟩, nofun⟩

/-- What `ConnectEx` sends first goes out whole. -/
lemma ProxyWorld.sendFirstOctets (hworld : ProxyWorld world wire s) (bytesSent : Bool)
    (sendBuffer : Option Bytes) :
    Conveys world wire (sendFirstOctets s bytesSent sendBuffer) fun before ret after =>
      ret = 1 ∧ after = { before with sent := before.sent ++ sendBuffer.toList } := by
  cases sendBuffer with
  | none =>
    refine conveys_ret fun before => ⟨rfl, ?_⟩
    simp
  | some buf =>
    have hsend : Conveys world wire (system (.socket (.send s buf))) fun before len after =>
        (len, after) = ((buf.length : ℤ), { before with sent := before.sent ++ [buf] }) := by
      intro w len w' hends
      obtain ⟨_, _, hfirst, rfl, rfl⟩ := Prog.ends_bind.mp hends
      exact hworld.serves (Prog.ends_ask.mp hfirst)
    refine hsend.bind fun len => ?_
    by_cases hlen : len = socketError
    · rw [if_pos hlen]
      have hneg : socketError ≠ (buf.length : ℤ) := by
        unfold socketError
        omega
      exact fun _ _ _ _ before h => absurd (hlen.symm.trans (Prod.mk.inj h).1) hneg
    rw [if_neg hlen]
    cases bytesSent with
    | false =>
      rintro w ret w' hends
      obtain ⟨never, -⟩ := Prog.ends_bind.mp hends
      exact never.elim
    | true =>
      refine (hworld.hushed (hushed_system fun _ => SystemCall.noConfusion)).bind fun _ => ?_
      refine conveys_ret ?_
      rintro after mid rfl before h
      exact ⟨rfl, (Prod.mk.inj h).2⟩

/-- How the calls with a socket address end. -/
lemma ProxyWorld.detour (hworld : ProxyWorld world wire s) {bound : InjecteeConfig}
    {addr name : Sockaddr} (hroute : ProxyRoute bound.get addr)
    (serviceMap : Bytes → Option UInt16) (queue : Bool) {call : HookedCall}
    (hsocket : call.socket = s) (hcall : call.Routable addr) (hname : call.name = some name) :
    Conveys world wire (detour serviceMap ⟨some bound, queue⟩ call)
      fun before ret after => ∀ stream, before = { sent := [], input := stream } →
        call.Concludes (tunnelOn s bound.get.creds (.sockaddr name) stream).1
          (tunnelOn s bound.get.creds (.sockaddr name) stream).2 ret after := by
  cases call with
  | connect api s' name' namelen =>
    obtain rfl : s' = s := hsocket
    obtain rfl : name' = name := Option.some.inj hname
    obtain ⟨hinet, hlocal, hne⟩ := hcall
    change Conveys world wire (hookConnectFn ⟨some bound, queue⟩ api s' name' namelen) _
    rw [hookConnectFn_eq]
    refine hworld.routedConnect hroute hinet hlocal hne queue _ _ _ api fun outcome => ?_
    cases outcome with
    | unreachable ret => exact conveys_ret fun _ => ⟨nofun, nofun⟩
    | refused =>
      refine (hworld.failProxiedConnect socketError).mono ?_
      rintro before ret after ⟨rfl, rfl⟩
      exact concludes_refused not_succeeds_socketError
    | established =>
      refine conveys_ret fun before => ⟨nofun, fun _ => ⟨rfl, ?_⟩⟩
      simp [HookedCall.firstOctets]
  | connectEx s' name' namelen sendBuffer bytesSent =>
    obtain rfl : s' = s := hsocket
    obtain rfl : name' = name := Option.some.inj hname
    obtain ⟨hinet, hlocal, hne⟩ := hcall
    change Conveys world wire
      (hookConnectEx ⟨some bound, queue⟩ s' name' namelen sendBuffer bytesSent) _
    rw [hookConnectEx_eq]
    refine hworld.routedConnect hroute hinet hlocal hne queue _ _ _ .connect fun outcome => ?_
    cases outcome with
    | unreachable ret => exact conveys_ret fun _ => ⟨nofun, nofun⟩
    | refused =>
      refine (hworld.failProxiedConnect 0).mono ?_
      rintro before ret after ⟨rfl, rfl⟩
      exact concludes_refused not_succeeds_false
    | established =>
      refine (hworld.sendFirstOctets bytesSent sendBuffer).mono ?_
      rintro before ret after ⟨rfl, hafter⟩
      exact ⟨nofun, fun _ => ⟨succeeds_true, hafter⟩⟩
  | _ => nomatch hname

/-- **A proxied connect on the wire.** In any world in which `s` is a stream that connects to the
proxy, a routed `connect`, `WSAConnect` or `ConnectEx` that returns has succeeded if and only if the
octets of the server waive or accept the login and then grant the request with a numeric address.
Then the server was sent the greeting, the login where it was selected, the request for the very
endpoint that the caller named, and the first octets of a `ConnectEx`, and nothing else; and what
the server says behind its reply is left for the caller to read.  Otherwise it was sent no more than
the beginning of that, without any octet of the caller. -/
theorem proxied_connect_wire (hworld : ProxyWorld world wire s) (bound : InjecteeConfig)
    (addr name : Sockaddr) (ip : IpAddress) (port : UInt16) (hroute : ProxyRoute bound.get addr)
    (serviceMap : Bytes → Option UInt16) (queue : Bool) (call : HookedCall)
    (hsocket : call.socket = s) (hcall : call.Routable addr) (hname : call.name = some name)
    (hendpoint : name.IsEndpoint ip port) (w w' : σ) (ret : ℤ) (stream : Bytes)
    (hfresh : wire w = { sent := [], input := stream })
    (hends : ((detour serviceMap ⟨some bound, queue⟩ call).expand DetourCall.carryOut).Ends
      world w ret w') :
    let frames := openingFrames bound.get.creds stream (requestFrame ip.onWire port)
    (call.convention.Succeeds ret ↔ ∃ tail, Granted bound.get.creds stream tail) ∧
      (∀ tail, Granted bound.get.creds stream tail →
        wire w' = { sent := frames ++ call.firstOctets, input := tail }) ∧
      ((¬∃ tail, Granted bound.get.creds stream tail) → (wire w').sent <+: frames) := by
  intro frames
  have hconcludes := hworld.detour hroute serviceMap queue hsocket hcall hname w ret w' hends
    stream hfresh
  by_cases hgranted : ∃ tail, Granted bound.get.creds stream tail
  · obtain ⟨tail, htail⟩ := hgranted
    have hafter (tail : Bytes) (h : Granted bound.get.creds stream tail) :
        call.convention.Succeeds ret ∧
          wire w' = { sent := frames ++ call.firstOctets, input := tail } := by
      rw [tunnelOn_of_granted hendpoint h] at hconcludes
      exact hconcludes.2 rfl
    exact ⟨iff_of_true (hafter tail htail).1 ⟨tail, htail⟩, fun tail h => (hafter tail h).2,
      fun hnot => absurd ⟨tail, htail⟩ hnot⟩
  · have hrefused : (tunnelOn s bound.get.creds (.sockaddr name) stream).1 = .refused := by
      have hnot : (tunnelOn s bound.get.creds (.sockaddr name) stream).1 ≠ .established :=
        fun htunnel => hgranted (exists_granted hendpoint htunnel)
      unfold tunnelOn at hnot ⊢
      dsimp only at hnot ⊢
      split_ifs at hnot ⊢
      · exact absurd rfl hnot
      · rfl
      · rfl
    obtain ⟨hfails, hwire⟩ := hconcludes.1 hrefused
    refine ⟨iff_of_false hfails hgranted, fun tail h => absurd ⟨tail, h⟩ hgranted, fun _ => ?_⟩
    rw [hwire]
    exact tunnelOn_sent_prefix hendpoint

/-- Winsock with nothing but the wire. -/
def wireWorld : Wire → Event SystemCall.Answer → Option Wire
  | w, ⟨.getsockoptType _, type⟩ => if type = some sockStream then some w else none
  | w, ⟨.original _, ret⟩ => if ret = 0 then some w else none
  | w, ⟨.socket (.send _ buf), len⟩ =>
    if len = (buf.length : ℤ) then some { w with sent := w.sent ++ [buf] } else none
  | w, ⟨.socket (.recv _ len), got⟩ =>
    if got = some (w.input.take len) then some { w with input := w.input.drop len } else none
  | w, _ => some w

/-- It is a world with a stream server. -/
lemma proxyWorld_wireWorld (s : SOCKET) : ProxyWorld wireWorld id s where
  stream {w w' type} h := by
    simp only [wireWorld] at h
    split_ifs at h with htype
    exact htype
  connects {w w' api addr namelen ret} h := by
    simp only [wireWorld] at h
    split_ifs at h with hret
    exact hret
  serves {w w' c x} h := by
    cases c with
    | send s buf =>
      simp only [wireWorld] at h
      split_ifs at h with hlen
      rw [← Option.some.inj h]
      exact congrArg₂ Prod.mk hlen rfl
    | recv s len =>
      simp only [wireWorld] at h
      split_ifs at h with hgot
      rw [← Option.some.inj h]
      exact congrArg₂ Prod.mk hgot rfl
  leaves {w w' c x} hhushed h := by
    cases c with
    | socket talk => exact absurd rfl (hhushed talk)
    | getsockoptType s' =>
      simp only [wireWorld] at h
      split_ifs at h
      exact (Option.some.inj h).symm
    | original c =>
      simp only [wireWorld] at h
      split_ifs at h
      exact (Option.some.inj h).symm
    | _ => exact (Option.some.inj h).symm

/-- The run of a `ConnectEx` with two first octets to 10.0.0.2:80, through the proxy 10.0.0.1:1080,
which waives the login, grants the request and goes on with an octet of its own. -/
theorem proxied_connect_wire_granted :
    let proxy : IpAddr := { v4Addr := some 0x0a000001, port := some 1080 }
    let bound := InjecteeConfig.set { addr := some proxy }
    let call : HookedCall := .connectEx 4 (sockaddrIn [10, 0, 0, 2] 80) 16 (some [0x68, 0x69]) true
    let reply : Bytes := [5, 0, 0, 1, 127, 0, 0, 1, 0x10, 0]
    ∃ w' : Wire, ((detour (fun _ => none) ⟨some bound, false⟩ call).expand DetourCall.carryOut).Ends
        wireWorld { sent := [], input := [5, 0] ++ (reply ++ [0x21]) } 1 w' ∧
      w' = { sent := [[5, 1, 0], [5, 1, 0, 1, 10, 0, 0, 2, 0, 80], [0x68, 0x69]],
             input := [0x21] } := by
  intro proxy bound call reply
  let w : Wire := { sent := [], input := [5, 0] ++ (reply ++ [0x21]) }
  let t : List (Event SystemCall.Answer) :=
    [⟨.getsockoptType 4, some sockStream⟩, ⟨.getsockoptTimeout 4 .rcvtimeo, some 0⟩,
      ⟨.getsockoptTimeout 4 .sndtimeo, some 0⟩, ⟨.setsockoptTimeout 4 .rcvtimeo 3000, (0 : ℤ)⟩,
      ⟨.setsockoptTimeout 4 .sndtimeo 3000, (0 : ℤ)⟩, ⟨.ioctlsocket 4 false, (0 : ℤ)⟩,
      ⟨.original (.sockaddr .connect 4 (sockaddrIn [10, 0, 0, 1] 1080) 16), (0 : ℤ)⟩,
      ⟨.socket (.send 4 [5, 1, 0]), (3 : ℤ)⟩, ⟨.socket (.recv 4 2), some [5, 0]⟩,
      ⟨.socket (.send 4 [5, 1, 0, 1, 10, 0, 0, 2, 0, 80]), (10 : ℤ)⟩,
      ⟨.socket (.recv 4 4), some [5, 0, 0, 1]⟩,
      ⟨.socket (.recv 4 6), some [127, 0, 0, 1, 0x10, 0]⟩,
      ⟨.socket (.send 4 [0x68, 0x69]), (2 : ℤ)⟩, ⟨.storeBytesSent 2, ()⟩,
      ⟨.nbioLoad 4, none⟩, ⟨.ioctlsocket 4 false, (0 : ℤ)⟩,
      ⟨.setsockoptTimeout 4 .rcvtimeo 0, (0 : ℤ)⟩, ⟨.setsockoptTimeout 4 .sndtimeo 0, (0 : ℤ)⟩]
  have hreplay : ((detour (fun _ => none) ⟨some bound, false⟩ call).expand
      DetourCall.carryOut).replay t = some 1 := by decide
  have hworld : (t.foldlM wireWorld w).isSome = true := by decide
  obtain ⟨w', hw'⟩ := Option.isSome_iff_exists.mp hworld
  have hends := Prog.ends_of_replay hreplay hw'
  have hroute : ProxyRoute bound.get (sockaddrIn [10, 0, 0, 1] 1080) :=
    ⟨rfl, fun proxy hproxy => by obtain rfl := Option.some.inj hproxy; rfl⟩
  have hgranted : Granted bound.get.creds w.input [0x21] :=
    ⟨.ipv4 #v[127, 0, 0, 1], 0, 0x1000, rfl, Or.inl (by decide)⟩
  have hwire := proxied_connect_wire (proxyWorld_wireWorld 4) bound _ _ (.v4 0x0a000002) 80 hroute
    _ false call rfl ⟨by decide, by decide, by decide⟩ rfl
    ⟨by decide, by decide, by decide⟩ w w' 1 w.input rfl hends
  exact ⟨w', hends, hwire.2.1 _ hgranted⟩

end Encapsule
