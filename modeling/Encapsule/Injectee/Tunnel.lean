import Encapsule.Injectee.Hook

/-!
# What the connect hooks report

An observer of a detour sees the original connects to the proxy, the two conversations with it and
the first octets that `ConnectEx` sends, and knows from them whether there is a tunnel to the
address the detour returns on.  Where the return value of a failed `connect` leaves the detour of an
API that returns a `BOOL`, it reads as success (`succeeds_iff_hasTunnel_iff`).
-/

namespace Encapsule

open Interaction Detour

/-- How far the tunnel to the current address is. -/
inductive TunnelStage where
  | closed
  | dialled
  | greeted
  | established
  deriving DecidableEq

/-- What a call and its answer mean for the tunnel. -/
def TunnelStage.next : TunnelStage → Event DetourCall.Answer → TunnelStage
  | _, ⟨.dial _, ret⟩ => if ret = 0 then .dialled else .closed
  | stage, ⟨.socks5Handshake _ _, ok⟩ => if stage = .dialled ∧ ok = true then .greeted else .closed
  | stage, ⟨.socks5Request _ _, rep⟩ =>
    if stage = .greeted ∧ rep = socksSuccess then .established else .closed
  | stage, ⟨.system (.socket (.send _ _)), len⟩ => if len = socketError then .closed else stage
  | stage, _ => stage

/-- The original connect to the proxy. -/
def isDial : Event DetourCall.Answer → Bool
  | ⟨.dial _, _⟩ => true
  | _ => false

/-- An original connect to the proxy that failed. -/
def isUnreachable : Event DetourCall.Answer → Bool
  | ⟨.dial _, ret⟩ => decide (ret ≠ 0)
  | _ => false

/-- An original connect API called as the caller called the hook. -/
def isPassThrough : Event DetourCall.Answer → Bool
  | ⟨.system (.original _), _⟩ => true
  | _ => false

/-- The run takes the proxied path: it connects to the proxy, and hands nothing to the original. -/
def TakesProxiedPath (t : List (Event DetourCall.Answer)) : Prop :=
  t.any isDial = true ∧ t.any isPassThrough = false

/-- There is a tunnel at the end of the run: the last connect to the proxy returned 0, the handshake
on it succeeded, the request was granted, and sending on it did not fail. -/
def HasTunnel (t : List (Event DetourCall.Answer)) : Prop :=
  t.foldl TunnelStage.next .closed = .established

/-- Whether an API returns an error code or a `BOOL`. -/
inductive ReturnConvention where
  | errorCode
  | bool
  deriving DecidableEq

/-- The return value means success. -/
def ReturnConvention.Succeeds : ReturnConvention → ℤ → Prop
  | .errorCode, ret => ret = 0
  | .bool, ret => ret ≠ 0

/-- `SOCKET_ERROR` is a failure of an API that returns an error code. -/
lemma not_succeeds_socketError : ¬ ReturnConvention.errorCode.Succeeds socketError := by
  unfold ReturnConvention.Succeeds
  decide

lemma not_succeeds_false : ¬ ReturnConvention.bool.Succeeds 0 := not_not.mpr rfl

/-- `TRUE` is a success of an API that returns a `BOOL`. -/
lemma succeeds_true : ReturnConvention.bool.Succeeds 1 := by
  unfold ReturnConvention.Succeeds
  decide

/-- The convention of a hooked API. -/
def HookedCall.convention : HookedCall → ReturnConvention
  | .connect _ _ _ _ => .errorCode
  | _ => .bool

/-! ## The observer -/

/-- What the observer of a detour knows. -/
structure TunnelWatch where
  dialled : Bool := false
  passed : Bool := false
  unreachable : Bool := false
  stage : TunnelStage := .closed

namespace TunnelWatch

/-- The observer sees a call and its answer. -/
def see (w : TunnelWatch) (e : Event DetourCall.Answer) : TunnelWatch where
  dialled := w.dialled || isDial e
  passed := w.passed || isPassThrough e
  unreachable := w.unreachable || isUnreachable e
  stage := w.stage.next e

/-- What the observer knows at the end of a run. -/
lemma foldl_see (w : TunnelWatch) (t : List (Event DetourCall.Answer)) :
    t.foldl see w =
      { dialled := w.dialled || t.any isDial
        passed := w.passed || t.any isPassThrough
        unreachable := w.unreachable || t.any isUnreachable
        stage := t.foldl TunnelStage.next w.stage } := by
  induction t generalizing w with
  | nil => simp
  | cons e t ih => simp [ih, see, Bool.or_assoc]

/-- The observer sees an original connect to the proxy. -/
lemma see_dial (w : TunnelWatch) (c : ConnectCall) (ret : ℤ) :
    w.see ⟨.dial c, ret⟩ =
      { dialled := true
        passed := w.passed
        unreachable := w.unreachable || decide (ret ≠ 0)
        stage := if ret = 0 then .dialled else .closed } := by
  change TunnelWatch.mk (w.dialled || true) (w.passed || false) _ _ = _
  rw [Bool.or_true, Bool.or_false]
  rfl

/-- The observer sees something that only matters to the stage of the tunnel. -/
lemma see_stage (w : TunnelWatch) (stage : TunnelStage) :
    TunnelWatch.mk (w.dialled || false) (w.passed || false) (w.unreachable || false) stage =
      { w with stage } := by
  simp only [Bool.or_false]

/-- The observer sees a handshake. -/
lemma see_socks5Handshake (w : TunnelWatch) (s : SOCKET) (creds : Socks5Credentials) (ok : Bool) :
    w.see ⟨.socks5Handshake s creds, ok⟩ =
      { w with stage := if w.stage = .dialled ∧ ok = true then .greeted else .closed } :=
  see_stage w _

/-- The observer sees a request. -/
lemma see_socks5Request (w : TunnelWatch) (s : SOCKET) (target : RequestTarget) (rep : UInt8) :
    w.see ⟨.socks5Request s target, rep⟩ =
      { w with stage := if w.stage = .greeted ∧ rep = socksSuccess then .established
                        else .closed } :=
  see_stage w _

/-- The observer sees octets being sent. -/
lemma see_send (w : TunnelWatch) (s : SOCKET) (buf : Bytes) (len : ℤ) :
    w.see ⟨.system (.socket (.send s buf)), len⟩ =
      { w with stage := if len = socketError then .closed else w.stage } :=
  see_stage w _

/-- Nothing is open, and no connect to the proxy has failed. -/
def Idle (w : TunnelWatch) : Prop := w.unreachable = false ∧ w.stage = .closed

/-- What the observer knows after the proxied path to one address. -/
def after (w : TunnelWatch) : TunnelOutcome → TunnelWatch
  | .unreachable _ => { w with dialled := true, unreachable := true, stage := .closed }
  | .refused => { w with dialled := true, stage := .closed }
  | .established => { w with dialled := true, stage := .established }

/-- On the proxied path, the return value tells whether there is a tunnel, except that a failed
connect to the proxy is told apart from success only by an error code. -/
def Judges (conv : ReturnConvention) (w : TunnelWatch) (ret : ℤ) : Prop :=
  w.passed = false → w.dialled = true →
    ((conv.Succeeds ret ↔ w.stage = .established) ↔ conv = .errorCode ∨ w.unreachable = false)

variable {w : TunnelWatch} {conv : ReturnConvention} {ret : ℤ}

/-- A refusal is judged right. -/
lemma judges_refusal (h : w.stage = .closed) (hreach : w.unreachable = false)
    (hret : ¬ conv.Succeeds ret) : Judges conv w ret := by
  intro _ _
  simp [h, hreach, hret]

/-- A success is judged right. -/
lemma judges_success (h : w.stage = .established) (hreach : w.unreachable = false)
    (hret : conv.Succeeds ret) : Judges conv w ret := by
  intro _ _
  simp [h, hreach, hret]

/-- What is handed to the original is not judged. -/
lemma judges_passed (h : w.passed = true) : Judges conv w ret := by
  intro hpassed
  rw [h] at hpassed
  cases hpassed

/-- The return value of a failed connect to the proxy is a success to a `BOOL` API. -/
lemma judges_unreachable (h : ret ≠ 0) : Judges conv (w.after (.unreachable ret)) ret := by
  intro _ _
  cases conv <;> simp [after, ReturnConvention.Succeeds, h]

end TunnelWatch

open TunnelWatch

/-! ## The helpers -/

/-- The system call says nothing about a tunnel. -/
def SystemCall.IsQuiet : SystemCall → Prop
  | .socket _ => False
  | .original _ => False
  | _ => True

variable {w : TunnelWatch} {s : SOCKET} {α β : Type} {conv : ReturnConvention}

/-- The observer learns nothing from a quiet system call. -/
lemma see_quiet {c : SystemCall} (h : c.IsQuiet) (x : c.Answer) : w.see ⟨.system c, x⟩ = w := by
  cases c with
  | socket c => exact h.elim
  | original c => exact h.elim
  | _ => exact see_stage w w.stage

/-- The observer learns nothing from the program. -/
def Quiet (p : Detour α) : Prop := ∀ w, p.Tracks see (fun w' _ => w' = w) w

lemma quiet_ret (a : α) : Quiet (Prog.ret a) := fun _ => rfl

lemma quiet_system {c : SystemCall} (h : c.IsQuiet) : Quiet (system c) :=
  fun _ x => see_quiet h x

lemma quiet_stop (why : DetourStop) : Quiet (stop why : Detour α) :=
  fun _ never => never.elim

/-- What a program that follows a quiet one tracks. -/
lemma Quiet.tracks_bind {p : Detour α} {f : α → Detour β} {Q : TunnelWatch → β → Prop}
    (hp : Quiet p) (hf : ∀ a, (f a).Tracks see Q w) : (p >>= f).Tracks see Q w := by
  refine Prog.tracks_bind (hp w) fun w' a hw => ?_
  rw [hw]
  exact hf a

/-- Quiet programs compose. -/
lemma Quiet.bind {p : Detour α} {f : α → Detour β} (hp : Quiet p) (hf : ∀ a, Quiet (f a)) :
    Quiet (p >>= f) :=
  fun w => hp.tracks_bind fun a => hf a w

/-- The report is quiet. -/
lemma quiet_report (scope : HookScope) (route : InjecteeRoute) (v : IpAddr) (syscall : String) :
    Quiet (scope.report route s v syscall) := by
  unfold HookScope.report
  split_ifs
  · exact quiet_system (by trivial)
  · exact quiet_ret ()

/-- The construction of a blocking scope is quiet. -/
lemma quiet_enterBlockingScope (s : SOCKET) : Quiet (enterBlockingScope s) := by
  refine (quiet_system (by trivial)).bind fun _ => (quiet_system (by trivial)).bind fun _ => ?_
  refine (quiet_system (by trivial)).bind fun _ => (quiet_system (by trivial)).bind fun _ => ?_
  exact (quiet_system (by trivial)).bind fun _ => quiet_ret _

/-- The destruction of a blocking scope is quiet. -/
lemma quiet_leaveBlockingScope (s : SOCKET) (saved : DWORD × DWORD) :
    Quiet (leaveBlockingScope s saved) := by
  refine (quiet_system (by trivial)).bind fun _ => (quiet_system (by trivial)).bind fun _ => ?_
  refine (quiet_system (by trivial)).bind fun _ => ?_
  exact (quiet_system (by trivial)).bind fun _ => quiet_ret _

/-- A blocking scope tracks what its body tracks. -/
lemma tracks_blockingScope {body : Detour α} {Q : TunnelWatch → α → Prop}
    (h : body.Tracks see Q w) : (blockingScope s body).Tracks see Q w := by
  refine (quiet_enterBlockingScope s).tracks_bind fun saved => ?_
  refine Prog.tracks_bind h fun w' res hres => ?_
  exact (quiet_leaveBlockingScope s saved).tracks_bind fun _ => hres

/-- The refusal is quiet and returns what it is told to. -/
lemma tracks_failProxiedConnect {Q : TunnelWatch → ℤ → Prop} {ret : ℤ} (h : Q w ret) :
    (failProxiedConnect s ret).Tracks see Q w := by
  refine (quiet_system (by trivial)).tracks_bind fun _ => ?_
  refine (quiet_system (by trivial)).tracks_bind fun _ => ?_
  exact (quiet_system (by trivial)).tracks_bind fun _ => h

/-- The query for the type of a socket is quiet. -/
lemma quiet_socketStreamType (s : SOCKET) : Quiet (socketStreamType s) := by
  refine (quiet_system (by trivial)).bind fun type => ?_
  cases type with
  | none => exact (quiet_system (by trivial)).bind fun _ => quiet_ret _
  | some type => exact quiet_ret _

/-- What is handed to the original is not judged. -/
lemma tracks_original (c : ConnectCall) : (original c).Tracks see (Judges conv) w := by
  intro ret
  exact judges_passed (Bool.or_true w.passed)

/-- The branch on the type of the socket: it refuses, hands over to the original, or goes on. -/
lemma tracks_typeGate {asked proxied : Bool} {refusal : ℤ} {c : ConnectCall} {next : Detour ℤ}
    (hidle : w.Idle) (hrefusal : ¬ conv.Succeeds refusal)
    (h : next.Tracks see (Judges conv) w) :
    (typeGate asked proxied s refusal (original c) next).Tracks see (Judges conv) w := by
  unfold typeGate
  cases asked with
  | false => exact h
  | true =>
    refine (quiet_socketStreamType s).tracks_bind fun verdict => ?_
    cases verdict with
    | notStream => exact tracks_original c
    | unknown =>
      cases proxied with
      | false => exact tracks_original c
      | true => exact tracks_failProxiedConnect (judges_refusal hidle.2 hidle.1 hrefusal)
    | stream => exact h

/-- The address of the proxy is found quietly. -/
lemma quiet_proxySockaddr (proxy : IpAddr) : Quiet (proxySockaddr proxy) := by
  unfold proxySockaddr
  cases toSockaddr proxy with
  | ok addr => exact quiet_ret addr
  | error fault =>
    cases fault with
    | badOptionalAccess => exact quiet_stop _
    | outOfBounds => exact quiet_stop _
    | uninitialised => exact quiet_system (by trivial)

/-- Filling in an address parameter is quiet. -/
lemma quiet_copyOut (param : AddressParam) (room : Option ℕ) (octets : Bytes) :
    Quiet (copyOut param room octets) := by
  cases room with
  | none => exact quiet_stop _
  | some room => exact quiet_system (by trivial)

/-- The proxied path to one address: what the observer knows is what its outcome says. -/
lemma tracks_tunnel (call : ConnectCall) (creds : Socks5Credentials) (target : RequestTarget)
    {Q : TunnelWatch → TunnelOutcome → Prop}
    (hunreachable : ∀ ret, ret ≠ 0 → Q (w.after (.unreachable ret)) (.unreachable ret))
    (hrefused : Q (w.after .refused) .refused)
    (hestablished : Q (w.after .established) .established) :
    (tunnel call s creds target).Tracks see Q w := by
  refine Prog.tracks_bind (R := fun w' ret => w' = w.see ⟨.dial call, ret⟩) (fun _ => rfl) ?_
  rintro _ ret rfl
  rw [see_dial]
  by_cases hret : ret = 0
  · have hreached : (w.unreachable || decide (ret ≠ 0)) = w.unreachable := by
      rw [decide_eq_false (not_not.mpr hret), Bool.or_false]
    rw [if_neg (not_not.mpr hret), if_pos hret, hreached]
    refine Prog.tracks_bind (R := fun w' ok => w' = if ok = true then
      { w with dialled := true, stage := .greeted } else w.after .refused) ?_ ?_
    · intro ok
      rw [see_socks5Handshake]
      cases ok with
      | false => rfl
      | true => rfl
    · rintro _ ok rfl
      cases ok with
      | false => exact hrefused
      | true =>
        refine Prog.tracks_bind (R := fun w' rep => w' = if rep = socksSuccess then
          w.after .established else w.after .refused) ?_ ?_
        · intro rep
          rw [if_pos rfl, see_socks5Request]
          change _ = if rep = socksSuccess then w.after .established else w.after .refused
          by_cases hrep : rep = socksSuccess
          · rw [if_pos ⟨rfl, hrep⟩, if_pos hrep]
            rfl
          · rw [if_neg fun h => hrep h.2, if_neg hrep]
            rfl
        · rintro _ rep rfl
          by_cases hrep : rep = socksSuccess
          · rw [if_neg (not_not.mpr hrep), if_pos hrep]
            exact hestablished
          · rw [if_pos hrep, if_neg hrep]
            exact hrefused
  · have hfailed : (w.unreachable || decide (ret ≠ 0)) = true := by
      rw [decide_eq_true hret, Bool.or_true]
    rw [if_pos hret, if_neg hret, hfailed]
    exact hunreachable ret hret

/-- After a tunnel was asked for the watch shows how that ended; an unreachable proxy is reported
with an error. -/
lemma tracks_tunnel_after (call : ConnectCall) (creds : Socks5Credentials)
    (target : RequestTarget) :
    (tunnel call s creds target).Tracks see (fun w' outcome => w' = w.after outcome ∧
      ∀ ret, outcome = .unreachable ret → ret ≠ 0) w := by
  apply tracks_tunnel call creds target
  · intro ret hret
    refine ⟨rfl, ?_⟩
    intro ret' h
    rwa [← TunnelOutcome.unreachable.inj h]
  · exact ⟨rfl, fun ret h => TunnelOutcome.noConfusion h⟩
  · exact ⟨rfl, fun ret h => TunnelOutcome.noConfusion h⟩

/-- The proxied path of a detour: the three ways it ends. -/
lemma tracks_proxiedPath {call : ConnectCall} {creds : Socks5Credentials} {target : RequestTarget}
    {refusal : ℤ} {success : Detour ℤ} (hidle : w.Idle) (hrefusal : ¬ conv.Succeeds refusal)
    (hsuccess : success.Tracks see (Judges conv) (w.after .established)) :
    (blockingScope s do
      match ← tunnel call s creds target with
      | .unreachable ret => return ret
      | .refused => failProxiedConnect s refusal
      | .established => success).Tracks see (Judges conv) w := by
  apply tracks_blockingScope
  apply Prog.tracks_bind (tracks_tunnel_after call creds target)
  rintro _ outcome ⟨rfl, hret⟩
  cases outcome with
  | unreachable ret => exact judges_unreachable (hret ret rfl)
  | refused => exact tracks_failProxiedConnect (judges_refusal rfl hidle.1 hrefusal)
  | established => exact hsuccess

/-! ## The detours -/

/-- `connect` and `WSAConnect`. -/
lemma tracks_hookConnectFn (hidle : w.Idle) (scope : HookScope) (api : ConnectApi)
    (name : Sockaddr) (namelen : ℤ) :
    (hookConnectFn scope api s name namelen).Tracks see (Judges .errorCode) w := by
  unfold hookConnectFn
  cases scope.config with
  | none => exact tracks_original _
  | some bound =>
    dsimp only
    split_ifs
    · refine tracks_typeGate hidle not_succeeds_socketError ?_
      cases toIpAddr name with
      | none => exact tracks_original _
      | some v =>
        refine (quiet_report _ _ _ _).tracks_bind fun _ => ?_
        cases bound.get.proxy with
        | none => exact tracks_original _
        | some proxy =>
          refine (quiet_proxySockaddr _).tracks_bind fun addr => ?_
          split_ifs
          · exact tracks_original _
          · exact tracks_proxiedPath hidle not_succeeds_socketError
              (judges_success rfl hidle.1 rfl)
    · exact tracks_original _

/-- What `ConnectEx` does on a tunnel. -/
lemma tracks_sendFirstOctets (hestablished : w.stage = .established)
    (hreach : w.unreachable = false) (bytesSent : Bool) (sendBuffer : Option Bytes) :
    (sendFirstOctets s bytesSent sendBuffer).Tracks see (Judges .bool) w := by
  cases sendBuffer with
  | none => exact judges_success hestablished hreach succeeds_true
  | some buf =>
    refine Prog.tracks_bind (R := fun w' len => w' = if len = socketError then
      { w with stage := .closed } else w) ?_ ?_
    · intro len
      rw [see_send]
      change _ = if len = socketError then { w with stage := .closed } else w
      by_cases hlen : len = socketError
      · rw [if_pos hlen, if_pos hlen]
      · rw [if_neg hlen, if_neg hlen]
    · rintro _ len rfl
      by_cases hlen : len = socketError
      · rw [if_pos hlen, if_pos hlen]
        exact (quiet_system (by trivial)).tracks_bind fun _ =>
          judges_refusal rfl hreach not_succeeds_false
      · rw [if_neg hlen, if_neg hlen]
        split_ifs
        · exact (quiet_system (by trivial)).tracks_bind fun _ =>
            judges_success hestablished hreach succeeds_true
        · exact fun never => never.elim

/-- `ConnectEx`. -/
lemma tracks_hookConnectEx (hidle : w.Idle) (scope : HookScope) (name : Sockaddr) (namelen : ℤ)
    (sendBuffer : Option Bytes) (bytesSent : Bool) :
    (hookConnectEx scope s name namelen sendBuffer bytesSent).Tracks see (Judges .bool) w := by
  unfold hookConnectEx
  cases scope.config with
  | none => exact tracks_original _
  | some bound =>
    dsimp only
    split_ifs
    · refine tracks_typeGate hidle not_succeeds_false ?_
      cases toIpAddr name with
      | none => exact tracks_original _
      | some v =>
        refine (quiet_report _ _ _ _).tracks_bind fun _ => ?_
        cases bound.get.proxy with
        | none => exact tracks_original _
        | some proxy =>
          refine (quiet_proxySockaddr _).tracks_bind fun addr => ?_
          split_ifs
          · exact tracks_original _
          · have hstage : (w.after .established).stage = .established := rfl
            have hreach : (w.after .established).unreachable = false := hidle.1
            exact tracks_proxiedPath hidle not_succeeds_false
              (tracks_sendFirstOctets hstage hreach bytesSent sendBuffer)
    · exact tracks_original _

/-- The names are resolved quietly. -/
lemma quiet_endpointOfNames (serviceMap : Bytes → Option UInt16)
    (nodename servicename : Option NameText) :
    Quiet (endpointOfNames serviceMap nodename servicename) := by
  have hencode (text : NameText) : Quiet (encodeName text) := by
    cases text with
    | narrow text => exact quiet_ret text
    | wide text => exact quiet_system (by trivial)
  have htable (servicename : Bytes) : Quiet (serviceToPort serviceMap servicename) := by
    unfold serviceToPort
    dsimp only
    split_ifs
    · exact quiet_ret _
    all_goals
      cases serviceMap (servicename.map foldUpper) with
      | none => exact (quiet_system (by trivial)).bind fun _ => quiet_ret _
      | some port => exact quiet_ret _
  have hname (nodename servicename : Bytes) :
      Quiet (ipaddrFromName serviceMap nodename servicename) := by
    refine (htable servicename).bind fun port => ?_
    cases port with
    | none => exact quiet_ret none
    | some port =>
      refine (quiet_system (by trivial)).bind fun address => ?_
      cases address with
      | none => exact quiet_ret _
      | some address => exact quiet_ret _
  cases nodename with
  | none => exact quiet_ret none
  | some nodename =>
    cases servicename with
    | none => exact quiet_ret none
    | some servicename =>
      exact (hencode _).bind fun _ => (hencode _).bind fun _ => hname _ _

/-- `WSAConnectByNameA` and `WSAConnectByNameW`. -/
lemma tracks_hookWSAConnectByName (hidle : w.Idle) (serviceMap : Bytes → Option UInt16)
    (scope : HookScope) (api : ConnectByNameApi) (nodename servicename : Option NameText)
    (localRoom remoteRoom : Option ℕ) :
    (hookWSAConnectByName serviceMap scope api s nodename servicename localRoom
      remoteRoom).Tracks see (Judges .bool) w := by
  unfold hookWSAConnectByName
  cases scope.config with
  | none => exact tracks_original _
  | some bound =>
    refine tracks_typeGate hidle not_succeeds_false ?_
    refine (quiet_endpointOfNames _ _ _).tracks_bind fun target => ?_
    cases target with
    | none =>
      cases bound.get.proxy with
      | none => exact tracks_original _
      | some proxy =>
        exact tracks_failProxiedConnect (judges_refusal hidle.2 hidle.1 not_succeeds_false)
    | some target =>
      cases bound.get.proxy with
      | none => exact (quiet_report _ _ _ _).tracks_bind fun _ => tracks_original _
      | some proxy =>
        refine (quiet_report _ _ _ _).tracks_bind fun _ => ?_
        refine (quiet_proxySockaddr _).tracks_bind fun addr => ?_
        refine tracks_proxiedPath hidle not_succeeds_false ?_
        refine (quiet_system (by trivial)).tracks_bind fun peer => ?_
        refine (quiet_copyOut _ _ _).tracks_bind fun _ => ?_
        refine (quiet_system (by trivial)).tracks_bind fun _ => ?_
        exact (quiet_copyOut _ _ _).tracks_bind fun _ =>
          judges_success rfl hidle.1 succeeds_true

/-- What is known after one address of a list: a value to return is judged right, and otherwise
nothing is open. -/
def Entered (w : TunnelWatch) : Option ℤ → Prop
  | some ret => Judges .bool w ret
  | none => w.Idle

/-- One address of a list. -/
lemma tracks_connectByListEntry (hidle : w.Idle) (route : InjecteeRoute)
    (localRoom remoteRoom : Option ℕ) (addr name : Sockaddr) :
    (connectByListEntry route s localRoom remoteRoom addr name).Tracks see Entered w := by
  apply Prog.tracks_bind (tracks_tunnel_after _ _ _)
  rintro _ outcome ⟨rfl, hret⟩
  cases outcome with
  | unreachable ret => exact judges_unreachable (hret ret rfl)
  | refused =>
    have hrefused : (w.after .refused).Idle := ⟨hidle.1, rfl⟩
    exact Prog.tracks_bind (tracks_failProxiedConnect (Q := fun w' _ => w'.Idle) hrefused)
      fun _ _ h => h
  | established =>
    refine (quiet_copyOut _ _ _).tracks_bind fun _ => ?_
    refine (quiet_system (by trivial)).tracks_bind fun _ => ?_
    have hjudges : Judges .bool (w.after .established) 1 :=
      judges_success rfl hidle.1 succeeds_true
    exact (quiet_copyOut _ _ _).tracks_bind fun _ => hjudges

/-- The loop of `WSAConnectByList`: one address, then by induction the rest. -/
lemma tracks_connectByListLoop (hidle : w.Idle) (scope : HookScope) (route : InjecteeRoute)
    (localRoom remoteRoom : Option ℕ) (c : ConnectCall) (names : List Sockaddr) :
    (connectByListLoop scope route s localRoom remoteRoom (original c) names).Tracks see
      (Judges .bool) w := by
  induction names generalizing w with
  | nil =>
    unfold connectByListLoop
    split_ifs
    · exact judges_refusal hidle.2 hidle.1 not_succeeds_false
    · exact tracks_original c
  | cons name names ih =>
    unfold connectByListLoop
    dsimp only
    split_ifs
    · refine tracks_typeGate hidle not_succeeds_false ?_
      cases toIpAddr name with
      | none => exact ih hidle
      | some v =>
        refine (quiet_report _ _ _ _).tracks_bind fun _ => ?_
        cases route.proxy with
        | none => exact ih hidle
        | some proxy =>
          refine (quiet_proxySockaddr _).tracks_bind fun addr => ?_
          split_ifs
          · exact ih hidle
          · refine Prog.tracks_bind (tracks_blockingScope
              (tracks_connectByListEntry hidle route localRoom remoteRoom addr name)) ?_
            intro w' res hres
            cases res with
            | some ret => exact hres
            | none => exact ih hres
    · exact ih hidle

/-- `WSAConnectByList`. -/
lemma tracks_hookWSAConnectByList (hidle : w.Idle) (scope : HookScope)
    (addresses : List Sockaddr) (localRoom remoteRoom : Option ℕ) :
    (hookWSAConnectByList scope s addresses localRoom remoteRoom).Tracks see (Judges .bool) w := by
  unfold hookWSAConnectByList
  cases scope.config with
  | none => exact tracks_original _
  | some bound => exact tracks_connectByListLoop hidle _ _ _ _ _ _

/-- Every detour. -/
lemma tracks_detour (serviceMap : Bytes → Option UInt16) (scope : HookScope) (call : HookedCall) :
    (detour serviceMap scope call).Tracks see (Judges call.convention) {} := by
  have hidle : Idle {} := ⟨rfl, rfl⟩
  cases call with
  | connect api s name namelen => exact tracks_hookConnectFn hidle _ _ _ _
  | connectByList s addresses localRoom remoteRoom =>
    exact tracks_hookWSAConnectByList hidle _ _ _ _
  | connectByName api s nodename servicename localRoom remoteRoom =>
    exact tracks_hookWSAConnectByName hidle _ _ _ _ _ _ _
  | connectEx s name namelen sendBuffer bytesSent =>
    exact tracks_hookConnectEx hidle _ _ _ _ _

/-! ## What is reported -/

/-- On the proxied path of every detour, whatever the original connects, the handshakes and the
requests answer: the return value means success exactly when there is a tunnel, if and only if the
API returns an error code or no connect to the proxy failed. -/
theorem succeeds_iff_hasTunnel_iff (serviceMap : Bytes → Option UInt16) (scope : HookScope)
    (call : HookedCall) (t : List (Event DetourCall.Answer)) (ret : ℤ)
    (hruns : (detour serviceMap scope call).Runs t ret) (hpath : TakesProxiedPath t) :
    (call.convention.Succeeds ret ↔ HasTunnel t) ↔
      call.convention = .errorCode ∨ t.any isUnreachable = false := by
  have hjudges := (tracks_detour serviceMap scope call).runs hruns
  rw [foldl_see] at hjudges
  exact hjudges hpath.2 hpath.1

/-- The run of a `ConnectEx` on socket 4 by way of a proxy, around what the proxy answers. -/
def connectExRun (answers : List (Event DetourCall.Answer)) : List (Event DetourCall.Answer) :=
  [⟨.system (.getsockoptType 4), some sockStream⟩,
    ⟨.system (.getsockoptTimeout 4 .rcvtimeo), some 0⟩,
    ⟨.system (.getsockoptTimeout 4 .sndtimeo), some 0⟩,
    ⟨.system (.setsockoptTimeout 4 .rcvtimeo socksHandshakeTimeoutMs), (0 : ℤ)⟩,
    ⟨.system (.setsockoptTimeout 4 .sndtimeo socksHandshakeTimeoutMs), (0 : ℤ)⟩,
    ⟨.system (.ioctlsocket 4 false), (0 : ℤ)⟩] ++ answers ++
  [⟨.system (.nbioLoad 4), none⟩,
    ⟨.system (.ioctlsocket 4 false), (0 : ℤ)⟩,
    ⟨.system (.setsockoptTimeout 4 .rcvtimeo 0), (0 : ℤ)⟩,
    ⟨.system (.setsockoptTimeout 4 .sndtimeo 0), (0 : ℤ)⟩]

/-- A `ConnectEx` to 10.0.0.2:80 through the proxy 10.0.0.1:1080, which grants it. -/
theorem succeeds_iff_hasTunnel_iff_granted :
    let proxy : IpAddr := { v4Addr := some 0x0a000001, port := some 1080 }
    let scope : HookScope := ⟨some (InjecteeConfig.set { addr := some proxy }), false⟩
    let target := sockaddrIn [10, 0, 0, 2] 80
    let call : HookedCall := .connectEx 4 target 16 none false
    let t := connectExRun
      [⟨.dial (.sockaddr .connect 4 (sockaddrIn [10, 0, 0, 1] 1080) 16), (0 : ℤ)⟩,
        ⟨.socks5Handshake 4 ⟨[], []⟩, true⟩, ⟨.socks5Request 4 (.sockaddr target), socksSuccess⟩]
    (detour (fun _ => none) scope call).Runs t 1 ∧
      (call.convention.Succeeds 1 ↔ HasTunnel t) := by
  intro proxy scope target call t
  have hreplay : (detour (fun _ => none) scope call).replay t = some 1 := by decide
  have hdial : t.any isDial = true := by decide
  have hpass : t.any isPassThrough = false := by decide
  have hreached : t.any isUnreachable = false := by decide
  clear_value t call scope
  have hruns := Prog.runs_of_replay hreplay
  exact ⟨hruns, (succeeds_iff_hasTunnel_iff _ scope call t 1 hruns ⟨hdial, hpass⟩).mpr
    (Or.inr hreached)⟩

/-- The same `ConnectEx` when the proxy cannot be reached: it returns `SOCKET_ERROR`, which is not
`FALSE`, and there is no tunnel. -/
theorem not_succeeds_iff_hasTunnel_unreachable :
    let proxy : IpAddr := { v4Addr := some 0x0a000001, port := some 1080 }
    let scope : HookScope := ⟨some (InjecteeConfig.set { addr := some proxy }), false⟩
    let call : HookedCall := .connectEx 4 (sockaddrIn [10, 0, 0, 2] 80) 16 none false
    let t := connectExRun
      [⟨.dial (.sockaddr .connect 4 (sockaddrIn [10, 0, 0, 1] 1080) 16), socketError⟩]
    (detour (fun _ => none) scope call).Runs t socketError ∧ TakesProxiedPath t ∧
      ¬ (call.convention.Succeeds socketError ↔ HasTunnel t) := by
  intro proxy scope call t
  have hnonzero : socketError ≠ 0 := by decide
  have hsuccess : call.convention.Succeeds socketError := hnonzero
  have hnoTunnel : ¬ HasTunnel t := by
    unfold HasTunnel
    decide
  have hreplay : (detour (fun _ => none) scope call).replay t = some socketError := by
    decide
  refine ⟨Prog.runs_of_replay hreplay, ⟨?_, ?_⟩, fun h => hnoTunnel (h.mp hsuccess)⟩
  · decide
  · decide

end Encapsule
