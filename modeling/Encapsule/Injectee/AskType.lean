import Encapsule.Injectee.Loopback

/-!
# The type of the socket in a list connect

`hook_WSAConnectByList::detour` keeps the answer about the type of the socket in a
`std::optional` that `ask_type` fills when it is empty.  Here the detour is modelled with that
optional: how it is written and read are calls of their own (`SlotCall`), so that a run shows
whether the optional held a value.  Without them it is the detour of the connect hooks
(`expand_listDetour`).

`ask_type` fills the optional through `*verdict`, which does not make an empty one hold a value.
`asksOnce_iff` says which calls of the detour do not come to that.
-/

namespace Encapsule

open Interaction Detour

/-! ## The optional -/

/-- A `std::optional<socket_stream_verdict>`: whether it holds a value, and its storage. -/
structure VerdictSlot where
  engaged : Bool := false
  storage : SocketStreamVerdict := .unknown

/-- The calls of a detour, and the uses of `*verdict`. -/
inductive SlotCall where
  | detour (c : DetourCall)
  /-- `*verdict = value`, and whether the optional holds a value. -/
  | assign (engaged : Bool) (value : SocketStreamVerdict)
  /-- `*verdict` is read. -/
  | read (engaged : Bool) (value : SocketStreamVerdict)
  deriving DecidableEq

/-- What these calls answer. -/
abbrev SlotCall.Answer : SlotCall → Type
  | .detour c => c.Answer
  | .assign _ _ => Unit
  | .read _ _ => Unit

/-- A program of a detour that shows the uses of the optional. -/
abbrev ListDetour (α : Type) : Type := Prog SlotCall.Answer α

/-- A part of the detour without the optional. -/
def Detour.shown {α : Type} (p : Detour α) : ListDetour α :=
  p.expand fun c => Prog.ask (SlotCall.detour c)

/-- The uses of the optional are passed over. -/
def SlotCall.passOver : (c : SlotCall) → Detour c.Answer
  | .detour c => Prog.ask c
  | .assign _ _ => return ()
  | .read _ _ => return ()

namespace ListDetour

/-- The type is asked if the optional is empty.  An assignment through an empty optional writes its
storage, and leaves it empty. -/
def fill (s : SOCKET) (slot : VerdictSlot) : ListDetour VerdictSlot :=
  if slot.engaged then return slot
  else do
    let type ← (socketStreamType s).shown
    let _ ← Prog.ask (SlotCall.assign slot.engaged type)
    return { slot with storage := type }

/-- `ask_type`. -/
def askType (s : SOCKET) (slot : VerdictSlot) : ListDetour (VerdictSlot × SocketStreamVerdict) := do
  let slot ← fill s slot
  let _ ← Prog.ask (SlotCall.read slot.engaged slot.storage)
  return (slot, slot.storage)

/-- What the loop does for an address behind the check of the type. -/
def entry (scope : HookScope) (route : InjecteeRoute) (s : SOCKET) (localRoom remoteRoom : Option ℕ)
    (name : Sockaddr) (next : ListDetour ℤ) : ListDetour ℤ :=
  match toIpAddr name with
  | none => next
  | some v => do
    (scope.report route s v "WSAConnectByList").shown
    match route.proxy with
    | none => next
    | some proxy =>
      let addr ← (proxySockaddr proxy).shown
      if sockequal addr name then next
      else
        match ← (blockingScope s
          (connectByListEntry route s localRoom remoteRoom addr name)).shown with
        | some ret => return ret
        | none => next

/-- The loop of `hook_WSAConnectByList::detour`. -/
def loop (scope : HookScope) (route : InjecteeRoute) (s : SOCKET) (localRoom remoteRoom : Option ℕ)
    (direct : Detour ℤ) : List Sockaddr → VerdictSlot → ListDetour ℤ
  | [], _ => if route.proxy.isSome then return 0 else direct.shown
  | name :: names, slot =>
    let next := loop scope route s localRoom remoteRoom direct names
    if isInet name && !isLocalhost name then
      if scope.asks route then do
        let (slot, type) ← askType s slot
        match type with
        | .notStream => direct.shown
        | .unknown =>
          if route.proxy.isSome then (failProxiedConnect s 0).shown else direct.shown
        | .stream => entry scope route s localRoom remoteRoom name (next slot)
      else entry scope route s localRoom remoteRoom name (next slot)
    else next slot

end ListDetour

/-- `hook_WSAConnectByList::detour`, with the optional. -/
def listDetour (scope : HookScope) (s : SOCKET) (addresses : List Sockaddr)
    (localRoom remoteRoom : Option ℕ) : ListDetour ℤ :=
  let direct := original (.byList s addresses)
  match scope.config with
  | none => direct.shown
  | some bound => ListDetour.loop scope bound.get s localRoom remoteRoom direct addresses {}

variable {α : Type} {scope : HookScope} {route : InjecteeRoute} {s : SOCKET}
  {localRoom remoteRoom : Option ℕ} {direct : Detour ℤ}

/-! ## The detour without the optional -/

/-- What is shown of a detour is the detour. -/
@[simp] lemma expand_shown (p : Detour α) : p.shown.expand SlotCall.passOver = p := by
  unfold Detour.shown
  rw [Prog.expand_expand]
  exact Prog.expand_ask p

/-- An empty optional stays empty, and the type is asked. -/
lemma expand_askType {slot : VerdictSlot} (hempty : slot.engaged = false) :
    (ListDetour.askType s slot).expand SlotCall.passOver =
      (socketStreamType s).bind fun type => return ({ slot with storage := type }, type) := by
  unfold ListDetour.askType ListDetour.fill
  rw [hempty]
  simp [Prog.expand_bind, SlotCall.passOver, Prog.ask, Prog.bind_assoc]

/-- An address behind the check of the type. -/
lemma expand_entry (name : Sockaddr) {next : ListDetour ℤ} {next' : Detour ℤ}
    (hnext : next.expand SlotCall.passOver = next') :
    (ListDetour.entry scope route s localRoom remoteRoom name next).expand SlotCall.passOver =
      (match toIpAddr name with
      | none => next'
      | some v => do
        scope.report route s v "WSAConnectByList"
        match route.proxy with
        | none => next'
        | some proxy =>
          let addr ← proxySockaddr proxy
          if sockequal addr name then next'
          else
            match ← blockingScope s
              (connectByListEntry route s localRoom remoteRoom addr name) with
            | some ret => return ret
            | none => next') := by
  subst hnext
  unfold ListDetour.entry
  cases toIpAddr name with
  | none => rfl
  | some v =>
    simp only [Prog.bind_eq_bind, Prog.expand_bind, expand_shown]
    congr 1
    funext _
    cases route.proxy with
    | none => rfl
    | some proxy =>
      simp only [Prog.expand_bind, expand_shown]
      congr 1
      funext addr
      split_ifs
      · rfl
      · rw [Prog.expand_bind, expand_shown]
        congr 1
        funext ret
        cases ret <;> rfl

/-- The loop without the optional. -/
lemma expand_loop {slot : VerdictSlot} (hempty : slot.engaged = false) (names : List Sockaddr) :
    (ListDetour.loop scope route s localRoom remoteRoom direct names slot).expand
        SlotCall.passOver =
      connectByListLoop scope route s localRoom remoteRoom direct names := by
  induction names generalizing slot with
  | nil =>
    unfold ListDetour.loop connectByListLoop
    split_ifs
    · rfl
    · exact expand_shown direct
  | cons name names ih =>
    unfold ListDetour.loop connectByListLoop typeGate
    dsimp only
    by_cases hinet : (isInet name && !isLocalhost name) = true
    · rw [if_pos hinet, if_pos hinet]
      by_cases hasks : scope.asks route = true
      · rw [if_pos hasks, if_pos hasks]
        simp only [Prog.bind_eq_bind, Prog.expand_bind, expand_askType hempty, Prog.bind_assoc]
        congr 1
        funext type
        cases type with
        | notStream => exact expand_shown direct
        | unknown =>
          cases route.proxy with
          | none => exact expand_shown direct
          | some proxy => exact expand_shown _
        | stream =>
          have hnext : (ListDetour.loop scope route s localRoom remoteRoom direct names
              { slot with storage := .stream }).expand SlotCall.passOver = _ := ih hempty
          simp only [Prog.pure_eq_ret, Prog.ret_bind]
          exact expand_entry name hnext
      · rw [if_neg hasks, if_neg hasks]
        exact expand_entry name (ih hempty)
    · rw [if_neg hinet, if_neg hinet]
      exact ih hempty

/-- Without the uses of the optional, the detour is that of the connect hooks. -/
theorem expand_listDetour (scope : HookScope) (s : SOCKET) (addresses : List Sockaddr)
    (localRoom remoteRoom : Option ℕ) :
    (listDetour scope s addresses localRoom remoteRoom).expand SlotCall.passOver =
      hookWSAConnectByList scope s addresses localRoom remoteRoom := by
  unfold listDetour hookWSAConnectByList
  cases scope.config with
  | none => exact expand_shown _
  | some bound => exact expand_loop rfl addresses

/-! ## One answer for the list -/

/-- The verdict on an answer about the type of a socket. -/
def SocketStreamVerdict.ofType : Option ℤ → SocketStreamVerdict
  | some type => if type = sockStream then .stream else .notStream
  | none => .unknown

/-- The type of a socket is asked. -/
def SlotCall.asksType : SlotCall → Bool
  | .detour (.system (.getsockoptType _)) => true
  | _ => false

/-- `*verdict` is used only while the optional holds a value. -/
def SlotCall.Engaged : SlotCall → Prop
  | .detour _ => True
  | .assign engaged _ => engaged = true
  | .read engaged _ => engaged = true

/-- The type is asked at most once, every decision is made by that answer, and the optional is never
used while it is empty. -/
structure AsksOnce (p : ListDetour ℤ) : Prop where
  once : ∀ t c, p.Issues t c → (t.map Sigma.fst ++ [c]).countP SlotCall.asksType ≤ 1
  decided : ∀ t engaged value, p.Issues t (.read engaged value) →
    ∃ s type, ⟨.detour (.system (.getsockoptType s)), type⟩ ∈ t ∧ value = .ofType type
  engaged : ∀ t c, p.Issues t c → c.Engaged

/-- An address that the loop checks the type of the socket for. -/
def Sockaddr.IsRoutable (name : Sockaddr) : Prop := isInet name = true ∧ isLocalhost name = false

instance (name : Sockaddr) : Decidable name.IsRoutable := inferInstanceAs (Decidable (_ ∧ _))

/-- The condition of the loop. -/
lemma isRoutable_iff {name : Sockaddr} :
    (isInet name && !isLocalhost name) = true ↔ name.IsRoutable := by
  simp [Sockaddr.IsRoutable]

lemma asksOnce_ret (a : ℤ) : AsksOnce (Prog.ret a) :=
  ⟨fun _ _ h => h.elim, fun _ _ _ h => h.elim, fun _ _ h => h.elim⟩

/-- Nothing is asked for the original call. -/
lemma asksOnce_original (c : ConnectCall) : AsksOnce (original c).shown := by
  have honly (t : List (Event SlotCall.Answer)) (call : SlotCall)
      (h : (original c).shown.Issues t call) :
      t = [] ∧ call = .detour (.system (.original c)) := by
    cases t with
    | nil => exact ⟨rfl, h⟩
    | cons e t =>
      obtain ⟨x, -, hnone⟩ := h
      exact hnone.elim
  refine ⟨fun t call h => ?_, fun t engaged value h => ?_, fun t call h => ?_⟩
  · obtain ⟨rfl, rfl⟩ := honly t call h
    exact Nat.zero_le 1
  · obtain ⟨-, hcall⟩ := honly t _ h
    cases hcall
  · obtain ⟨-, rfl⟩ := honly t call h
    trivial

namespace ListDetour

/-- A route that needs no type leaves every address to the original call. -/
lemma entry_of_not_asks (hasks : scope.asks route = false) (name : Sockaddr)
    (next : ListDetour ℤ) : entry scope route s localRoom remoteRoom name next = next := by
  simp only [HookScope.asks, Bool.or_eq_false_iff, Option.isSome_eq_false_iff,
    Option.isNone_iff_eq_none] at hasks
  unfold entry HookScope.report
  rw [hasks.1, hasks.2]
  cases toIpAddr name <;> rfl

/-- Without an address to check the type for, the loop comes to its end. -/
lemma loop_of_not_routable {names : List Sockaddr}
    (h : scope.asks route = true → ∀ name ∈ names, ¬name.IsRoutable) (slot : VerdictSlot) :
    loop scope route s localRoom remoteRoom direct names slot =
      if route.proxy.isSome then return 0 else direct.shown := by
  induction names with
  | nil => rfl
  | cons name names ih =>
    have hrest := ih fun hasks other hother => h hasks other (List.mem_cons_of_mem _ hother)
    unfold loop
    dsimp only
    by_cases hname : name.IsRoutable
    · have hasks : scope.asks route = false :=
        Bool.eq_false_iff.mpr fun hasks => h hasks name List.mem_cons_self hname
      rw [if_pos (isRoutable_iff.mpr hname), if_neg (by rw [hasks]; exact Bool.false_ne_true),
        entry_of_not_asks hasks, hrest]
    · rw [if_neg (mt isRoutable_iff.mp hname), hrest]

/-- At the first address to check the type for, the answer is assigned through the empty
optional. -/
lemma issues_assign {names : List Sockaddr} (hasks : scope.asks route = true)
    (h : ∃ name ∈ names, name.IsRoutable) {slot : VerdictSlot} (hempty : slot.engaged = false)
    (type : ℤ) :
    (loop scope route s localRoom remoteRoom direct names slot).Issues
      [⟨.detour (.system (.getsockoptType s)), some type⟩]
      (.assign false (.ofType (some type))) := by
  induction names with
  | nil =>
    obtain ⟨name, hname, -⟩ := h
    cases hname
  | cons name names ih =>
    unfold loop
    dsimp only
    by_cases hname : name.IsRoutable
    · rw [if_pos (isRoutable_iff.mpr hname), if_pos hasks]
      unfold askType fill
      rw [hempty]
      exact ⟨some type, rfl, rfl⟩
    · rw [if_neg (mt isRoutable_iff.mp hname)]
      obtain ⟨other, hmem, hother⟩ := h
      rcases List.mem_cons.mp hmem with rfl | hmem
      · exact absurd hother hname
      · exact ih ⟨other, hmem, hother⟩

end ListDetour

/-- **One answer for the list.** A list connect asks for the type at most once and never uses an
empty optional, if and only if it does not ask at all: there is no configuration, the route needs no
type, or there is no address to route. -/
theorem asksOnce_iff (scope : HookScope) (s : SOCKET) (addresses : List Sockaddr)
    (localRoom remoteRoom : Option ℕ) :
    AsksOnce (listDetour scope s addresses localRoom remoteRoom) ↔
      ∀ bound, scope.config = some bound → scope.asks bound.get = true →
        ∀ name ∈ addresses, ¬name.IsRoutable := by
  unfold listDetour
  cases scope.config with
  | none =>
    refine ⟨fun _ bound hbound => ?_, fun _ => asksOnce_original _⟩
    cases hbound
  | some bound =>
    constructor
    · rintro honce _ ⟨rfl⟩ hasks name hname hroutable
      have hassign : (ListDetour.loop scope bound.get s localRoom remoteRoom
          (original (.byList s addresses)) addresses {}).Issues
            [⟨.detour (.system (.getsockoptType s)), some 0⟩] (.assign false .notStream) :=
        ListDetour.issues_assign hasks ⟨name, hname, hroutable⟩ rfl 0
      have hengaged := honce.engaged _ _ hassign
      cases hengaged
    · intro h
      dsimp only
      rw [ListDetour.loop_of_not_routable (h bound rfl)]
      split_ifs
      · exact asksOnce_ret 0
      · exact asksOnce_original _

/-- The answers about the type of socket 4 and to the attempt to reach an address that comes to a
proxy which refuses the handshake. -/
def refusedEntry : List (Event SlotCall.Answer) :=
  [⟨.detour (.system (.getsockoptType 4)), some sockStream⟩, ⟨.assign false .stream, ()⟩,
    ⟨.read false .stream, ()⟩,
    ⟨.detour (.system (.getsockoptTimeout 4 .rcvtimeo)), some 0⟩,
    ⟨.detour (.system (.getsockoptTimeout 4 .sndtimeo)), some 0⟩,
    ⟨.detour (.system (.setsockoptTimeout 4 .rcvtimeo socksHandshakeTimeoutMs)), (0 : ℤ)⟩,
    ⟨.detour (.system (.setsockoptTimeout 4 .sndtimeo socksHandshakeTimeoutMs)), (0 : ℤ)⟩,
    ⟨.detour (.system (.ioctlsocket 4 false)), (0 : ℤ)⟩,
    ⟨.detour (.dial (.sockaddr .connect 4 (sockaddrIn [10, 0, 0, 1] 1080) 16)), (0 : ℤ)⟩,
    ⟨.detour (.socks5Handshake 4 ⟨[], []⟩), false⟩,
    ⟨.detour (.system .wsaGetLastError), (0 : ℤ)⟩,
    ⟨.detour (.system (.shutdown 4)), (0 : ℤ)⟩,
    ⟨.detour (.system (.wsaSetLastError wsaeConnRefused)), ()⟩,
    ⟨.detour (.system (.nbioLoad 4)), none⟩,
    ⟨.detour (.system (.ioctlsocket 4 false)), (0 : ℤ)⟩,
    ⟨.detour (.system (.setsockoptTimeout 4 .rcvtimeo 0)), (0 : ℤ)⟩,
    ⟨.detour (.system (.setsockoptTimeout 4 .sndtimeo 0)), (0 : ℤ)⟩]

/-- A list of two addresses, with a proxy that refuses the handshake: the type is asked for each of
them, and the first answer is assigned through the empty optional. -/
theorem not_asksOnce_two_addresses :
    let p := listDetour proxiedScope 4 [sockaddrIn [10, 0, 0, 2] 80, sockaddrIn [10, 0, 0, 3] 80]
      (some 16) (some 16)
    p.Issues (refusedEntry.take 1) (.assign false .stream) ∧
      p.Issues refusedEntry (.detour (.system (.getsockoptType 4))) ∧ ¬AsksOnce p := by
  intro p
  have hassign : p.nextCall (refusedEntry.take 1) = some (.assign false .stream) := by decide
  have hagain : p.nextCall refusedEntry = some (.detour (.system (.getsockoptType 4))) := by decide
  refine ⟨Prog.issues_of_nextCall hassign, Prog.issues_of_nextCall hagain, fun honce => ?_⟩
  exact absurd (honce.once _ _ (Prog.issues_of_nextCall hagain)) (by decide)

end Encapsule
