import Mathlib.Logic.Function.Basic
import Encapsule.Foundation.Worlds
import Encapsule.Injectee.Hook

/-!
# The blocking mode of the caller

A proxied connect makes the socket block for the handshake, and `blocking_scope` of `hook.hpp` then
gives it the mode that `nbio_map` remembers.  The map is kept by the detours of `ioctlsocket`,
`WSAAsyncSelect`, `WSAEventSelect` and `closesocket`, which record what the call asks for and then
make the call, whatever comes of it.

* `ModeState`: what winsock holds for the open sockets, and the map.  `ModeState.served` and
  `ModeState.answered` say how the calls of the detours act on it: an original that the victim has
  called may fail at any time, and `FIONBIO` is refused for a socket that would have to block while
  a selection is in effect.
* `WinsockLaws`: what is used of winsock.
* `ModeRun`: the runs of a victim, with sockets that are opened and closed and whose values are
  used again; `applied` is the mode that the victim has set last.
* `modes_restored`: what a scope restores, and when.
-/

namespace Encapsule

open Interaction Detour

/-! ## The detours that keep the map -/

/-- `FIONBIO`. -/
def fionbio : UInt32 := 0x8004667E

/-- What these detours call. -/
inductive ModeCall where
  | nbioStore (s : SOCKET) (nb : Bool)
  | nbioErase (s : SOCKET)
  /-- The original `ioctlsocket`, with the number that its argument points to. -/
  | ioctlsocket (s : SOCKET) (cmd arg : UInt32)
  | wsaAsyncSelect (s : SOCKET) (hWnd : UInt64) (wMsg : UInt32) (lEvent : ℤ)
  | wsaEventSelect (s : SOCKET) (hEventObject : UInt64) (lNetworkEvents : ℤ)
  | closesocket (s : SOCKET)
  deriving DecidableEq

/-- What these calls answer. -/
abbrev ModeCall.Answer : ModeCall → Type
  | .nbioStore _ _ => Unit
  | .nbioErase _ => Unit
  | .ioctlsocket _ _ _ => ℤ
  | .wsaAsyncSelect _ _ _ _ => ℤ
  | .wsaEventSelect _ _ _ => ℤ
  | .closesocket _ => ℤ

/-- A call of the victim that one of these detours is for. -/
inductive ModeHook where
  | ioctlsocket (s : SOCKET) (cmd arg : UInt32)
  | asyncSelect (s : SOCKET) (hWnd : UInt64) (wMsg : UInt32) (lEvent : ℤ)
  | eventSelect (s : SOCKET) (hEventObject : UInt64) (lNetworkEvents : ℤ)
  | closesocket (s : SOCKET)
  deriving DecidableEq

/-- `hook_ioctlsocket::detour`. -/
def hookIoctlsocket (s : SOCKET) (cmd arg : UInt32) : Prog ModeCall.Answer ℤ := do
  if cmd = fionbio then
    let _ : Unit ← Prog.ask (ModeCall.nbioStore s (arg ≠ 0))
  Prog.ask (ModeCall.ioctlsocket s cmd arg)

/-- `hook_WSAAsyncSelect::detour`. -/
def hookWSAAsyncSelect (s : SOCKET) (hWnd : UInt64) (wMsg : UInt32) (lEvent : ℤ) :
    Prog ModeCall.Answer ℤ := do
  let _ : Unit ← Prog.ask (ModeCall.nbioStore s true)
  Prog.ask (ModeCall.wsaAsyncSelect s hWnd wMsg lEvent)

/-- `hook_WSAEventSelect::detour`. -/
def hookWSAEventSelect (s : SOCKET) (hEventObject : UInt64) (lNetworkEvents : ℤ) :
    Prog ModeCall.Answer ℤ := do
  let _ : Unit ← Prog.ask (ModeCall.nbioStore s true)
  Prog.ask (ModeCall.wsaEventSelect s hEventObject lNetworkEvents)

/-- `hook_closesocket::detour`. -/
def hookClosesocket (s : SOCKET) : Prog ModeCall.Answer ℤ := do
  let _ : Unit ← Prog.ask (ModeCall.nbioErase s)
  Prog.ask (ModeCall.closesocket s)

/-- The detour of a call. -/
def ModeHook.detour : ModeHook → Prog ModeCall.Answer ℤ
  | .ioctlsocket s cmd arg => hookIoctlsocket s cmd arg
  | .asyncSelect s hWnd wMsg lEvent => hookWSAAsyncSelect s hWnd wMsg lEvent
  | .eventSelect s hEventObject lNetworkEvents => hookWSAEventSelect s hEventObject lNetworkEvents
  | .closesocket s => hookClosesocket s

/-! ## Winsock -/

/-- How a socket blocks. -/
inductive BlockingMode where
  | blocking
  | nonblocking
  /-- A `WSAAsyncSelect` or `WSAEventSelect` is in effect, so the socket does not block. -/
  | selecting
  deriving DecidableEq

namespace BlockingMode

/-- Calls return at once. -/
def isNonblocking : BlockingMode → Bool
  | .blocking => false
  | .nonblocking => true
  | .selecting => true

/-- `FIONBIO`, where it is granted: no socket blocks while it is selected on. -/
def fionbio : BlockingMode → Bool → Option BlockingMode
  | .selecting, nb => if nb then some .selecting else none
  | _, nb => some (if nb then .nonblocking else .blocking)

/-- The mode that a `FIONBIO` leaves behind, granted or not. -/
def force (mode : BlockingMode) (nb : Bool) : BlockingMode := (mode.fionbio nb).getD mode

/-- The mode after a selection; one of no events ends the one in effect. -/
def ofSelect (events : ℤ) : BlockingMode := if events = 0 then .nonblocking else .selecting

end BlockingMode

/-- What winsock holds for an open socket. -/
structure KernelSocket where
  mode : BlockingMode := .blocking
  rcvtimeo : DWORD := 0
  sndtimeo : DWORD := 0
  deriving DecidableEq

namespace KernelSocket

/-- `getsockopt` for a timeout. -/
def timeout (k : KernelSocket) : TimeoutOption → DWORD
  | .rcvtimeo => k.rcvtimeo
  | .sndtimeo => k.sndtimeo

/-- `setsockopt` for a timeout. -/
def setTimeout (k : KernelSocket) (value : DWORD) : TimeoutOption → KernelSocket
  | .rcvtimeo => { k with rcvtimeo := value }
  | .sndtimeo => { k with sndtimeo := value }

end KernelSocket

/-- What winsock holds for the socket values, and the map of the detours. -/
structure ModeState where
  kernel : SOCKET → Option KernelSocket := fun _ => none
  nbio : SOCKET → Option Bool := fun _ => none

namespace ModeState

/-- An open socket is changed. -/
def modify (σ : ModeState) (s : SOCKET) (f : KernelSocket → KernelSocket) : ModeState :=
  { σ with kernel := Function.update σ.kernel s ((σ.kernel s).map f) }

/-- How the calls of a connect detour are answered.  On an open socket the calls of a scope succeed,
but for a `FIONBIO` that is refused; no other call has to do with modes and timeouts. -/
def served (σ : ModeState) : Event SystemCall.Answer → Option ModeState
  | ⟨.getsockoptTimeout s opt, x⟩ =>
    if x = (σ.kernel s).map (·.timeout opt) then some σ else none
  | ⟨.setsockoptTimeout s opt value, x⟩ =>
    if x = 0 ↔ (σ.kernel s).isSome then some (σ.modify s (·.setTimeout value opt)) else none
  | ⟨.ioctlsocket s nb, x⟩ =>
    if x = 0 ↔ ((σ.kernel s).bind (·.mode.fionbio nb)).isSome then
      some (σ.modify s fun k => { k with mode := k.mode.force nb })
    else none
  | ⟨.nbioLoad s, x⟩ => if x = σ.nbio s then some σ else none
  | _ => some σ

/-- How the calls of the detours that keep the map are answered: with zero where the original
succeeds, which it does not on a value that is no open socket. -/
def answered (σ : ModeState) : Event ModeCall.Answer → Option ModeState
  | ⟨.nbioStore s nb, _⟩ => some { σ with nbio := Function.update σ.nbio s (some nb) }
  | ⟨.nbioErase s, _⟩ => some { σ with nbio := Function.update σ.nbio s none }
  | ⟨.ioctlsocket s cmd arg, x⟩ =>
    if x ≠ 0 then some σ
    else if cmd = Encapsule.fionbio then
      ((σ.kernel s).bind (·.mode.fionbio (arg ≠ 0))).map fun mode =>
        σ.modify s ({ · with mode })
    else (σ.kernel s).map fun _ => σ
  | ⟨.wsaAsyncSelect s _ _ lEvent, x⟩ =>
    if x ≠ 0 then some σ
    else (σ.kernel s).map fun _ => σ.modify s ({ · with mode := .ofSelect lEvent })
  | ⟨.wsaEventSelect s _ lNetworkEvents, x⟩ =>
    if x ≠ 0 then some σ
    else (σ.kernel s).map fun _ => σ.modify s ({ · with mode := .ofSelect lNetworkEvents })
  | ⟨.closesocket s, x⟩ =>
    if x ≠ 0 then some σ
    else (σ.kernel s).map fun _ => { σ with kernel := Function.update σ.kernel s none }

end ModeState

/-! ## Runs -/

/-- A step of the victim. -/
inductive ModeStep where
  /-- A detour that keeps the map returns. -/
  | hooked (call : ModeHook) (ret : ℤ)
  /-- A connect detour returns. -/
  | connect (scope : HookScope) (call : HookedCall) (ret : ℤ)
  /-- A socket is opened, or inherited from a listening one. -/
  | opened (s : SOCKET) (start : KernelSocket)
  /-- The victim sets a timeout, which is not hooked. -/
  | setTimeout (s : SOCKET) (opt : TimeoutOption) (value : DWORD)

variable (serviceMap : Bytes → Option UInt16)

/-- What the steps do. -/
def ModeStep.Takes (σ σ' : ModeState) : ModeStep → Prop
  | .hooked call ret => call.detour.Ends ModeState.answered σ ret σ'
  | .connect scope call ret =>
    ((detour serviceMap scope call).expand DetourCall.carryOut).Ends ModeState.served σ ret σ'
  | .opened s start =>
    σ.kernel s = none ∧ σ' = { σ with kernel := Function.update σ.kernel s (some start) }
  | .setTimeout s opt value =>
    (σ.kernel s).isSome ∧ σ' = σ.modify s (·.setTimeout value opt)

/-- The runs, from a map without records, whose steps are all allowed. -/
inductive ModeRun (Allowed : ModeState → ModeStep → Prop) : List ModeStep → ModeState → Prop
  | start : ModeRun Allowed [] {}
  | step {history : List ModeStep} {σ σ' : ModeState} {e : ModeStep}
      (run : ModeRun Allowed history σ) (allowed : Allowed σ e) (takes : e.Takes serviceMap σ σ') :
      ModeRun Allowed (history ++ [e]) σ'

/-- What a call that succeeded says of the mode; nothing is said of a socket that did not start
blocking. -/
def ModeHook.applied (modes : SOCKET → Option Bool) : ModeHook → SOCKET → Option Bool
  | .ioctlsocket s cmd arg =>
    if cmd = fionbio then Function.update modes s ((modes s).map fun _ => decide (arg ≠ 0))
    else modes
  | .asyncSelect s _ _ _ => Function.update modes s ((modes s).map fun _ => true)
  | .eventSelect s _ _ => Function.update modes s ((modes s).map fun _ => true)
  | .closesocket s => Function.update modes s none

/-- What a step says of the modes. -/
def ModeStep.applied (modes : SOCKET → Option Bool) : ModeStep → SOCKET → Option Bool
  | .hooked call ret => if ret = 0 then call.applied modes else modes
  | .connect _ _ _ => modes
  | .opened s start =>
    Function.update modes s (if start.mode = .blocking then some false else none)
  | .setTimeout _ _ _ => modes

/-- For every open socket that started blocking, whether the last call that set its mode made it
nonblocking; it blocks where there is none. -/
def applied (history : List ModeStep) : SOCKET → Option Bool :=
  history.foldl ModeStep.applied fun _ => none

/-- The sockets that started blocking have the modes that the victim gave them. -/
def ModeState.HasModes (σ : ModeState) (modes : SOCKET → Option Bool) : Prop :=
  ∀ s nb, modes s = some nb → ∃ k, σ.kernel s = some k ∧ k.mode.isNonblocking = nb

/-- The sockets that are open before and after have the same timeouts. -/
def ModeState.SameTimeouts (σ σ' : ModeState) : Prop :=
  ∀ s k k', σ.kernel s = some k → σ'.kernel s = some k' →
    k'.rcvtimeo = k.rcvtimeo ∧ k'.sndtimeo = k.sndtimeo

/-- A detour has returned. -/
def ModeStep.IsDetour : ModeStep → Prop
  | .hooked _ _ => True
  | .connect _ _ _ => True
  | .opened _ _ => False
  | .setTimeout _ _ _ => False

/-- The socket that a call makes a record of, and whether a later scope makes it nonblocking. -/
def ModeHook.recorded : ModeHook → Option (SOCKET × Bool)
  | .ioctlsocket s cmd arg => if cmd = fionbio then some (s, decide (arg ≠ 0)) else none
  | .asyncSelect s _ _ _ => some (s, true)
  | .eventSelect s _ _ => some (s, true)
  | .closesocket s => some (s, false)

/-- A value has this mode; a value that is no socket will block when it is opened. -/
def ModeState.modeAt (σ : ModeState) (s : SOCKET) : BlockingMode :=
  ((σ.kernel s).map (·.mode)).getD .blocking

/-- A call that fails has recorded the mode that the socket has, or a selection is in effect and
the record is not used. -/
def ModeStep.Harmless (σ : ModeState) : ModeStep → Prop
  | .hooked call ret => ret ≠ 0 → ∀ s nb, call.recorded = some (s, nb) →
    σ.modeAt s = .selecting ∨ (σ.modeAt s).isNonblocking = nb
  | .connect _ _ _ => True
  | .opened _ _ => True
  | .setTimeout _ _ _ => True

/-! ## Changing one socket -/

namespace ModeState

variable {σ σ' : ModeState} {s t : SOCKET} {f g : KernelSocket → KernelSocket}

@[simp] lemma nbio_modify : (σ.modify s f).nbio = σ.nbio := rfl

@[simp] lemma kernel_modify_self : (σ.modify s f).kernel s = (σ.kernel s).map f := by
  simp [modify]

@[simp] lemma kernel_modify_of_ne (h : t ≠ s) : (σ.modify s f).kernel t = σ.kernel t := by
  simp [modify, h]

lemma modify_modify : (σ.modify s f).modify s g = σ.modify s (g ∘ f) := by
  simp [modify]

/-! ## What a connect detour leaves behind -/

/-- A later scope restores the mode that the socket has. -/
def RecordedAt (σ : ModeState) (s : SOCKET) : Prop :=
  σ.modeAt s = .selecting ∨ (σ.nbio s).getD false = (σ.modeAt s).isNonblocking

/-- The map and the timeouts are as before, and so are the sockets with a record of their mode. -/
structure Restored (σ σ' : ModeState) : Prop where
  nbio : σ'.nbio = σ.nbio
  timeouts : ∀ s, (σ'.kernel s).map (fun k => (k.rcvtimeo, k.sndtimeo)) =
    (σ.kernel s).map fun k => (k.rcvtimeo, k.sndtimeo)
  kernel : ∀ s, σ.RecordedAt s → σ'.kernel s = σ.kernel s

lemma Restored.refl (σ : ModeState) : Restored σ σ := ⟨rfl, fun _ => rfl, fun _ _ => rfl⟩

lemma Restored.trans (σ mid σ' : ModeState) (h : Restored σ mid) (h' : Restored mid σ') :
    Restored σ σ' := by
  refine ⟨h'.nbio.trans h.nbio, fun s => (h'.timeouts s).trans (h.timeouts s), fun s hs => ?_⟩
  have hmid : mid.RecordedAt s := by
    rw [RecordedAt, modeAt, h.kernel s hs, h.nbio]
    exact hs
  exact (h'.kernel s hmid).trans (h.kernel s hs)

/-- The timeouts of the open sockets are the same. -/
lemma Restored.sameTimeouts (h : Restored σ σ') : σ.SameTimeouts σ' := by
  intro s k k' hk hk'
  have heq := h.timeouts s
  rw [hk, hk', Option.map_some, Option.map_some, Option.some_inj, Prod.mk.injEq] at heq
  exact heq

end ModeState

/-- A call that has not to do with modes and timeouts. -/
def DetourCall.IsQuiet : DetourCall → Prop
  | .system (.setsockoptTimeout _ _ _) => False
  | .system (.ioctlsocket _ _) => False
  | _ => True

/-- What winsock documents of the calls that have to do with modes and timeouts: those of a scope,
and the originals that the victim calls. -/
structure WinsockLaws (serve : ModeState → Event SystemCall.Answer → Option ModeState)
    (answer : ModeState → Event ModeCall.Answer → Option ModeState) : Prop where
  /-- `getsockopt` tells the timeout of an open socket. -/
  getsockopt : ∀ {σ σ' s opt x}, serve σ ⟨.getsockoptTimeout s opt, x⟩ = some σ' →
    x = (σ.kernel s).map (·.timeout opt) ∧ σ' = σ
  /-- `setsockopt` sets the timeout of an open socket, and fails on any other value. -/
  setsockopt : ∀ {σ σ' s opt value} {x : ℤ},
    serve σ ⟨.setsockoptTimeout s opt value, x⟩ = some σ' →
      (x = 0 ↔ (σ.kernel s).isSome) ∧ σ' = σ.modify s (·.setTimeout value opt)
  /-- `FIONBIO` sets the mode of an open socket, unless a selection is in the way. -/
  fionbio : ∀ {σ σ' s nb} {x : ℤ}, serve σ ⟨.ioctlsocket s nb, x⟩ = some σ' →
    (x = 0 ↔ ((σ.kernel s).bind (·.mode.fionbio nb)).isSome) ∧
      σ' = σ.modify s fun k => { k with mode := k.mode.force nb }
  /-- No other call of a connect detour has to do with modes and timeouts. -/
  quiet : ∀ {σ σ' c x}, (DetourCall.system c).IsQuiet → serve σ ⟨c, x⟩ = some σ' → σ' = σ
  /-- A `FIONBIO` that succeeds sets the mode of an open socket. -/
  ioctlsocket : ∀ {σ σ' s arg} {x : ℤ},
    answer σ ⟨.ioctlsocket s Encapsule.fionbio arg, x⟩ = some σ' →
      x ≠ 0 ∧ σ' = σ ∨ x = 0 ∧ ∃ k mode, σ.kernel s = some k ∧
        k.mode.fionbio (arg ≠ 0) = some mode ∧ σ' = σ.modify s ({ · with mode })
  /-- No other `ioctlsocket` has to do with the mode. -/
  ioctlsocket_other : ∀ {σ σ' s cmd arg} {x : ℤ}, cmd ≠ Encapsule.fionbio →
    answer σ ⟨.ioctlsocket s cmd arg, x⟩ = some σ' → σ' = σ
  /-- A selection that succeeds sets the mode of an open socket. -/
  asyncSelect : ∀ {σ σ' s hWnd wMsg lEvent} {x : ℤ},
    answer σ ⟨.wsaAsyncSelect s hWnd wMsg lEvent, x⟩ = some σ' →
      x ≠ 0 ∧ σ' = σ ∨
        x = 0 ∧ (σ.kernel s).isSome ∧ σ' = σ.modify s ({ · with mode := .ofSelect lEvent })
  eventSelect : ∀ {σ σ' s hEventObject lNetworkEvents} {x : ℤ},
    answer σ ⟨.wsaEventSelect s hEventObject lNetworkEvents, x⟩ = some σ' →
      x ≠ 0 ∧ σ' = σ ∨
        x = 0 ∧ (σ.kernel s).isSome ∧ σ' = σ.modify s ({ · with mode := .ofSelect lNetworkEvents })
  /-- A `closesocket` that succeeds closes an open socket. -/
  closesocket : ∀ {σ σ' s} {x : ℤ}, answer σ ⟨.closesocket s, x⟩ = some σ' →
    x ≠ 0 ∧ σ' = σ ∨ x = 0 ∧ (σ.kernel s).isSome ∧
      σ' = { σ with kernel := Function.update σ.kernel s none }

/-- A call that is answered truly leaves one state. -/
lemma ModeState.eq_of_served {σ σ' : ModeState} {answer : Prop} [Decidable answer]
    (h : (if answer then some σ else none) = some σ') : answer ∧ σ' = σ := by
  obtain ⟨hanswer, h⟩ := Option.ite_none_right_eq_some.mp h
  exact ⟨hanswer, (Option.some.inj h).symm⟩

/-- A call that fails changes nothing, and one that succeeds finds what it is about. -/
lemma ModeState.cases_of_answered {σ σ' : ModeState} {α : Type} {found : Option α} {x : ℤ}
    {f : α → ModeState} (h : (if x ≠ 0 then some σ else found.map f) = some σ') :
    x ≠ 0 ∧ σ' = σ ∨ x = 0 ∧ ∃ a, found = some a ∧ σ' = f a := by
  split_ifs at h with hx
  · exact Or.inl ⟨hx, (Option.some.inj h).symm⟩
  · obtain ⟨a, ha, rfl⟩ := Option.map_eq_some_iff.mp h
    exact Or.inr ⟨not_not.mp hx, a, ha, rfl⟩

/-- Where only that it is found matters. -/
lemma ModeState.cases_of_answered_isSome {σ σ' τ : ModeState} {α : Type} {found : Option α} {x : ℤ}
    (h : (if x ≠ 0 then some σ else found.map fun _ => τ) = some σ') :
    x ≠ 0 ∧ σ' = σ ∨ x = 0 ∧ found.isSome ∧ σ' = τ := by
  rcases cases_of_answered h with hfailed | ⟨hx, a, ha, hτ⟩
  · exact Or.inl hfailed
  · exact Or.inr ⟨hx, Option.isSome_of_eq_some ha, hτ⟩

/-- The answers that were said to be those of winsock keep its laws. -/
lemma winsockLaws : WinsockLaws ModeState.served ModeState.answered where
  getsockopt h := ModeState.eq_of_served h
  setsockopt h := ModeState.eq_of_served h
  fionbio h := ModeState.eq_of_served h
  quiet {σ σ' c x} hc h := by
    cases c with
    | setsockoptTimeout => exact hc.elim
    | ioctlsocket => exact hc.elim
    | getsockoptTimeout => exact (ModeState.eq_of_served h).2
    | nbioLoad => exact (ModeState.eq_of_served h).2
    | _ => exact (Option.some.inj h).symm
  ioctlsocket h := by
    simp only [ModeState.answered, if_true] at h
    rcases ModeState.cases_of_answered h with hfailed | ⟨hx, mode, hmode, rfl⟩
    · exact Or.inl hfailed
    · obtain ⟨k, hk, hmode⟩ := Option.bind_eq_some_iff.mp hmode
      exact Or.inr ⟨hx, k, mode, hk, hmode, rfl⟩
  ioctlsocket_other hcmd h := by
    simp only [ModeState.answered, if_neg hcmd] at h
    rcases ModeState.cases_of_answered_isSome h with ⟨-, hsame⟩ | ⟨-, -, hsame⟩
    · exact hsame
    · exact hsame
  asyncSelect h := ModeState.cases_of_answered_isSome h
  eventSelect h := ModeState.cases_of_answered_isSome h
  closesocket h := ModeState.cases_of_answered_isSome h

/-- A connect detour leads from states to related ones. -/
abbrev Detour.Leads {α : Type} (R : ModeState → ModeState → Prop) (p : Detour α) : Prop :=
  (p.expand DetourCall.carryOut).Leads ModeState.served R

namespace Detour

variable {α β : Type} {R : ModeState → ModeState → Prop}

/-- The conversation with the proxy has not to do with modes and timeouts. -/
lemma leads_socket (p : Prog SocketCall.Answer α) :
    (p.expand fun c => Prog.ask (SystemCall.socket c)).Leads ModeState.served Eq := by
  refine Prog.leads_expand (fun _ => rfl) (fun _ _ _ => Eq.trans) (fun c => ?_) p
  exact Prog.leads_ask fun x σ σ' h => (winsockLaws.quiet (c := .socket c) trivial h).symm

/-- A call is carried out by itself. -/
lemma leads_system {c : SystemCall} (h : ∀ x σ σ', ModeState.served σ ⟨c, x⟩ = some σ' → R σ σ') :
    Detour.Leads R (system c) := by
  intro σ a σ' hends
  obtain ⟨x, mid, hcall, hret⟩ := Prog.ends_bind.mp hends
  obtain ⟨-, rfl⟩ := Prog.ends_ret.mp hret
  exact h x σ σ' (Prog.ends_ask.mp hcall)

/-- A quiet call changes nothing. -/
lemma leads_ask {c : DetourCall} (hc : c.IsQuiet) :
    Detour.Leads Eq (Prog.ask c : Detour c.Answer) := by
  cases c with
  | system c =>
    exact leads_system fun x σ σ' h => (winsockLaws.quiet hc h).symm
  | dial call =>
    exact Prog.leads_bind (R := Eq) (fun _ _ _ => Eq.trans)
      (Prog.leads_ask fun x σ σ' h => (winsockLaws.quiet (c := .original call) trivial h).symm)
      fun x => Prog.leads_ret (fun _ => rfl) x
  | socks5Handshake s creds =>
    exact Prog.leads_bind (R := Eq) (fun _ _ _ => Eq.trans) (leads_socket _)
      fun x => Prog.leads_ret (fun _ => rfl) x
  | socks5Request s target =>
    exact Prog.leads_bind (R := Eq) (fun _ _ _ => Eq.trans) (leads_socket _)
      fun x => Prog.leads_ret (fun _ => rfl) x

/-- Quiet parts make a quiet detour. -/
lemma leads_eq_bind {p : Detour α} {f : α → Detour β} (hp : Detour.Leads Eq p)
    (hf : ∀ a, Detour.Leads Eq (f a)) : Detour.Leads Eq (p.bind f) := by
  unfold Detour.Leads
  rw [Prog.expand_bind]
  exact Prog.leads_bind (R := Eq) (fun _ _ _ => Eq.trans) hp hf

/-- Parts that restore what they change make a detour that does. -/
lemma leads_restored_bind {p : Detour α} {f : α → Detour β}
    (hp : Detour.Leads ModeState.Restored p) (hf : ∀ a, Detour.Leads ModeState.Restored (f a)) :
    Detour.Leads ModeState.Restored (p.bind f) := by
  unfold Detour.Leads
  rw [Prog.expand_bind]
  exact Prog.leads_bind ModeState.Restored.trans hp hf

/-- A quiet detour has nothing to restore. -/
lemma Leads.restored {p : Detour α} (hp : Detour.Leads Eq p) :
    Detour.Leads ModeState.Restored p := by
  refine Prog.Leads.mono hp ?_
  rintro σ _ rfl
  exact ModeState.Restored.refl σ

lemma leads_pure (a : α) : Detour.Leads Eq (Prog.ret a : Detour α) :=
  Prog.leads_ret (fun _ => rfl) a

/-- A detour that stops does not return. -/
lemma leads_stop (why : DetourStop) : Detour.Leads R (stop why : Detour α) := by
  intro σ a σ' hends
  obtain ⟨x, -, -, -⟩ := hends
  exact x.elim

/-! ## The parts of a connect detour -/

lemma leads_failProxiedConnect (s : SOCKET) (ret : ℤ) :
    Detour.Leads Eq (failProxiedConnect s ret) :=
  leads_eq_bind (leads_ask trivial) fun _ => leads_eq_bind (leads_ask trivial) fun _ =>
    leads_eq_bind (leads_ask trivial) fun _ => leads_pure _

lemma leads_socketStreamType (s : SOCKET) : Detour.Leads Eq (socketStreamType s) := by
  refine leads_eq_bind (leads_ask trivial) fun type => ?_
  cases type with
  | some type => exact leads_pure _
  | none => exact leads_eq_bind (leads_ask trivial) fun _ => leads_pure _

lemma leads_typeGate (asked proxied : Bool) (s : SOCKET) (refusal : ℤ) {direct next : Detour ℤ}
    (hdirect : Detour.Leads ModeState.Restored direct)
    (hnext : Detour.Leads ModeState.Restored next) :
    Detour.Leads ModeState.Restored (typeGate asked proxied s refusal direct next) := by
  unfold typeGate
  cases asked with
  | false => exact hnext
  | true =>
    refine leads_restored_bind (leads_socketStreamType s).restored fun type => ?_
    cases type with
    | stream => exact hnext
    | notStream => exact hdirect
    | unknown =>
      cases proxied with
      | true => exact (leads_failProxiedConnect s refusal).restored
      | false => exact hdirect

lemma leads_proxySockaddr (proxy : IpAddr) : Detour.Leads Eq (proxySockaddr proxy) := by
  unfold proxySockaddr
  cases toSockaddr proxy with
  | ok addr => exact leads_pure addr
  | error fault =>
    cases fault with
    | badOptionalAccess => exact leads_stop _
    | outOfBounds => exact leads_stop _
    | uninitialised => exact leads_ask trivial

lemma leads_tunnel (call : ConnectCall) (s : SOCKET) (creds : Socks5Credentials)
    (target : RequestTarget) : Detour.Leads Eq (tunnel call s creds target) := by
  refine leads_eq_bind (leads_ask trivial) fun ret => ?_
  split_ifs
  · exact leads_pure _
  refine leads_eq_bind (leads_ask trivial) fun greeted => ?_
  split_ifs
  · exact leads_pure _
  refine leads_eq_bind (leads_ask trivial) fun rep => ?_
  split_ifs
  · exact leads_pure _
  · exact leads_pure _

lemma leads_copyOut (param : AddressParam) (room : Option ℕ) (octets : Bytes) :
    Detour.Leads Eq (copyOut param room octets) := by
  cases room with
  | none => exact leads_stop _
  | some room => exact leads_ask trivial

lemma leads_report (scope : HookScope) (route : InjecteeRoute) (s : SOCKET) (addr : IpAddr)
    (syscall : String) : Detour.Leads Eq (scope.report route s addr syscall) := by
  unfold HookScope.report
  split_ifs
  · exact leads_ask trivial
  · exact leads_pure _

lemma leads_original (call : ConnectCall) : Detour.Leads ModeState.Restored (original call) :=
  Leads.restored (leads_ask trivial)

/-! ## The blocking scope -/

variable {σ σ' : ModeState} {s : SOCKET}

/-- A system call and what comes behind it. -/
lemma ends_system_bind {c : SystemCall} {f : c.Answer → Detour α} {a : α} :
    (((system c).bind f).expand DetourCall.carryOut).Ends ModeState.served σ a σ' ↔
      ∃ x mid, ModeState.served σ ⟨c, x⟩ = some mid ∧
        ((f x).expand DetourCall.carryOut).Ends ModeState.served mid a σ' := Iff.rfl

/-- The map tells what was recorded. -/
lemma served_nbioLoad {x : Option Bool} (h : ModeState.served σ ⟨.nbioLoad s, x⟩ = some σ') :
    x = σ.nbio s ∧ σ' = σ := ModeState.eq_of_served h

/-- In a scope an open socket blocks, with the timeouts of the handshake. -/
lemma ends_enterBlockingScope {saved : DWORD × DWORD}
    (h : ((enterBlockingScope s).expand DetourCall.carryOut).Ends ModeState.served σ saved σ') :
    saved = (((σ.kernel s).map (·.rcvtimeo)).getD 0, ((σ.kernel s).map (·.sndtimeo)).getD 0) ∧
      σ' = σ.modify s fun k =>
        ⟨k.mode.force false, socksHandshakeTimeoutMs, socksHandshakeTimeoutMs⟩ := by
  obtain ⟨rcv, _, hrcv, h⟩ := ends_system_bind.mp h
  obtain ⟨snd, _, hsnd, h⟩ := ends_system_bind.mp h
  obtain ⟨_, _, hsetRcv, h⟩ := ends_system_bind.mp h
  obtain ⟨_, _, hsetSnd, h⟩ := ends_system_bind.mp h
  obtain ⟨_, _, hforce, h⟩ := ends_system_bind.mp h
  obtain ⟨rfl, rfl⟩ := Prog.ends_ret.mp h
  obtain ⟨rfl, rfl⟩ := winsockLaws.getsockopt hrcv
  obtain ⟨rfl, rfl⟩ := winsockLaws.getsockopt hsnd
  obtain ⟨-, rfl⟩ := winsockLaws.setsockopt hsetRcv
  obtain ⟨-, rfl⟩ := winsockLaws.setsockopt hsetSnd
  obtain ⟨-, rfl⟩ := winsockLaws.fionbio hforce
  refine ⟨rfl, ?_⟩
  rw [ModeState.modify_modify, ModeState.modify_modify]
  rfl

/-- At the end of a scope an open socket gets the recorded mode and the saved timeouts. -/
lemma ends_leaveBlockingScope {saved : DWORD × DWORD}
    (h : ((leaveBlockingScope s saved).expand DetourCall.carryOut).Ends ModeState.served σ () σ') :
    σ' = σ.modify s fun k => ⟨k.mode.force ((σ.nbio s).getD false), saved.1, saved.2⟩ := by
  obtain ⟨nb, _, hload, h⟩ := ends_system_bind.mp h
  obtain ⟨_, _, hforce, h⟩ := ends_system_bind.mp h
  obtain ⟨_, _, hsetRcv, h⟩ := ends_system_bind.mp h
  obtain ⟨_, _, hsetSnd, h⟩ := ends_system_bind.mp h
  obtain ⟨-, rfl⟩ := Prog.ends_ret.mp h
  obtain ⟨rfl, rfl⟩ := served_nbioLoad hload
  obtain ⟨-, rfl⟩ := winsockLaws.fionbio hforce
  obtain ⟨-, rfl⟩ := winsockLaws.setsockopt hsetRcv
  obtain ⟨-, rfl⟩ := winsockLaws.setsockopt hsetSnd
  rw [ModeState.modify_modify, ModeState.modify_modify]
  rfl

/-- Around a quiet body a scope changes the mode to what the map says, and nothing else. -/
lemma ends_blockingScope {body : Detour α} (hbody : Detour.Leads Eq body) {a : α}
    (h : ((blockingScope s body).expand DetourCall.carryOut).Ends ModeState.served σ a σ') :
    σ' = σ.modify s fun k =>
      { k with mode := (k.mode.force false).force ((σ.nbio s).getD false) } := by
  have hparts : ((blockingScope s body).expand DetourCall.carryOut) =
      ((enterBlockingScope s).expand DetourCall.carryOut).bind fun saved =>
        (body.expand DetourCall.carryOut).bind fun a =>
          ((leaveBlockingScope s saved).expand DetourCall.carryOut).bind fun _ => Prog.ret a := by
    unfold blockingScope
    simp only [Prog.bind_eq_bind, Prog.expand_bind]
    rfl
  rw [hparts] at h
  obtain ⟨saved, mid, henter, h⟩ := Prog.ends_bind.mp h
  obtain ⟨b, mid', hmid, h⟩ := Prog.ends_bind.mp h
  obtain ⟨u, last, hleave, h⟩ := Prog.ends_bind.mp h
  obtain ⟨rfl, rfl⟩ := Prog.ends_ret.mp h
  obtain rfl := hbody mid _ mid' hmid
  obtain ⟨rfl, rfl⟩ := ends_enterBlockingScope henter
  obtain rfl := ends_leaveBlockingScope hleave
  rw [ModeState.modify_modify, ModeState.nbio_modify]
  unfold ModeState.modify
  cases hk : σ.kernel s <;> rfl

/-- What a scope leaves is restored. -/
lemma leads_blockingScope {body : Detour α} (hbody : Detour.Leads Eq body) (s : SOCKET) :
    Detour.Leads ModeState.Restored (blockingScope s body) := by
  intro σ a σ' hends
  obtain rfl := ends_blockingScope hbody hends
  refine ⟨rfl, fun t => ?_, fun t ht => ?_⟩
  · by_cases heq : t = s
    · subst heq
      rw [ModeState.kernel_modify_self, Option.map_map]
      rfl
    · rw [ModeState.kernel_modify_of_ne heq]
  · by_cases heq : t = s
    · subst heq
      rw [ModeState.kernel_modify_self]
      unfold ModeState.RecordedAt ModeState.modeAt at ht
      cases hk : σ.kernel t with
      | none => rfl
      | some k =>
        obtain ⟨mode, rcvtimeo, sndtimeo⟩ := k
        rw [hk] at ht
        cases mode with
        | blocking =>
          have hrecord : (σ.nbio t).getD false = false := by
            simpa [BlockingMode.isNonblocking] using ht
          rw [Option.map_some, hrecord]
          rfl
        | nonblocking =>
          have hrecord : (σ.nbio t).getD false = true := by
            simpa [BlockingMode.isNonblocking] using ht
          rw [Option.map_some, hrecord]
          rfl
        | selecting => cases (σ.nbio t).getD false <;> rfl
    · rw [ModeState.kernel_modify_of_ne heq]

/-! ## The connect detours -/

/-- A detour with a socket address restores what it changes, where its end is quiet. -/
lemma leads_routedConnect (scope : HookScope) (s : SOCKET) (refusal : ℤ) (syscall : String)
    {direct : Detour ℤ} (hdirect : Detour.Leads ModeState.Restored direct)
    (dial : Sockaddr → ConnectCall) {finish : TunnelOutcome → Detour ℤ}
    (hfinish : ∀ outcome, Detour.Leads Eq (finish outcome)) (name : Sockaddr) :
    Detour.Leads ModeState.Restored
      (routedConnect scope s refusal syscall direct dial finish name) := by
  unfold routedConnect
  cases scope.config with
  | none => exact hdirect
  | some bound =>
    dsimp only
    split_ifs
    · refine leads_typeGate _ _ s _ hdirect ?_
      cases toIpAddr name with
      | none => exact hdirect
      | some v =>
        refine leads_restored_bind (leads_report _ _ _ _ _).restored fun _ => ?_
        cases bound.get.proxy with
        | none => exact hdirect
        | some proxy =>
          refine leads_restored_bind (leads_proxySockaddr proxy).restored fun addr => ?_
          split_ifs
          · exact hdirect
          · exact leads_blockingScope (leads_eq_bind (leads_tunnel _ _ _ _) hfinish) s
    · exact hdirect

lemma leads_sendFirstOctets (s : SOCKET) (bytesSent : Bool) (sendBuffer : Option Bytes) :
    Detour.Leads Eq (sendFirstOctets s bytesSent sendBuffer) := by
  cases sendBuffer with
  | none => exact leads_pure _
  | some buf =>
    refine leads_eq_bind (leads_ask trivial) fun len => ?_
    split_ifs
    · exact leads_eq_bind (leads_ask trivial) fun _ => leads_pure _
    · exact leads_eq_bind (leads_ask trivial) fun _ => leads_pure _
    · exact leads_stop _

lemma leads_connectByListEntry (route : InjecteeRoute) (s : SOCKET)
    (localRoom remoteRoom : Option ℕ) (addr name : Sockaddr) :
    Detour.Leads Eq (connectByListEntry route s localRoom remoteRoom addr name) := by
  refine leads_eq_bind (leads_tunnel _ _ _ _) fun outcome => ?_
  cases outcome with
  | unreachable ret => exact leads_pure _
  | refused => exact leads_eq_bind (leads_failProxiedConnect _ _) fun _ => leads_pure _
  | established =>
    exact leads_eq_bind (leads_copyOut _ _ _) fun _ => leads_eq_bind (leads_ask trivial) fun _ =>
      leads_eq_bind (leads_copyOut _ _ _) fun _ => leads_pure _

/-- Every scope of a list connect restores what it changes before the next begins. -/
lemma leads_connectByListLoop (scope : HookScope) (route : InjecteeRoute) (s : SOCKET)
    (localRoom remoteRoom : Option ℕ) {direct : Detour ℤ}
    (hdirect : Detour.Leads ModeState.Restored direct) (names : List Sockaddr) :
    Detour.Leads ModeState.Restored
      (connectByListLoop scope route s localRoom remoteRoom direct names) := by
  induction names with
  | nil =>
    unfold connectByListLoop
    split_ifs
    · exact (leads_pure 0).restored
    · exact hdirect
  | cons name names ih =>
    unfold connectByListLoop
    dsimp only
    split_ifs
    · refine leads_typeGate _ _ s _ hdirect ?_
      cases toIpAddr name with
      | none => exact ih
      | some v =>
        refine leads_restored_bind (leads_report _ _ _ _ _).restored fun _ => ?_
        cases route.proxy with
        | none => exact ih
        | some proxy =>
          refine leads_restored_bind (leads_proxySockaddr proxy).restored fun addr => ?_
          split_ifs
          · exact ih
          · refine leads_restored_bind
              (leads_blockingScope (leads_connectByListEntry _ _ _ _ _ _) s) fun ret => ?_
            cases ret with
            | some ret => exact (leads_pure ret).restored
            | none => exact ih
    · exact ih

lemma leads_serviceToPort (serviceMap : Bytes → Option UInt16) (servicename : Bytes) :
    Detour.Leads Eq (serviceToPort serviceMap servicename) := by
  unfold serviceToPort
  cases serviceMap (servicename.map foldUpper) with
  | some port =>
    dsimp only
    split_ifs <;> exact leads_pure _
  | none =>
    dsimp only
    split_ifs
    · exact leads_pure _
    · exact leads_eq_bind (leads_ask trivial) fun entry => leads_pure _
    · exact leads_eq_bind (leads_ask trivial) fun entry => leads_pure _

lemma leads_endpointOfNames (serviceMap : Bytes → Option UInt16)
    (nodename servicename : Option NameText) :
    Detour.Leads Eq (endpointOfNames serviceMap nodename servicename) := by
  have hencode (name : NameText) : Detour.Leads Eq (encodeName name) := by
    cases name with
    | narrow text => exact leads_pure text
    | wide text => exact leads_ask trivial
  cases nodename with
  | none => exact leads_pure _
  | some nodename =>
    cases servicename with
    | none => exact leads_pure _
    | some servicename =>
      refine leads_eq_bind (hencode nodename) fun node => ?_
      refine leads_eq_bind (hencode servicename) fun service => ?_
      refine leads_eq_bind (leads_serviceToPort serviceMap service) fun port => ?_
      cases port with
      | none => exact leads_pure _
      | some port =>
        refine leads_eq_bind (leads_ask trivial) fun addr => ?_
        cases addr with
        | none => exact leads_pure _
        | some addr => exact leads_pure _

lemma leads_hookWSAConnectByName (serviceMap : Bytes → Option UInt16) (scope : HookScope)
    (api : ConnectByNameApi) (s : SOCKET) (nodename servicename : Option NameText)
    (localRoom remoteRoom : Option ℕ) :
    Detour.Leads ModeState.Restored (hookWSAConnectByName serviceMap scope api s nodename
      servicename localRoom remoteRoom) := by
  unfold hookWSAConnectByName
  cases scope.config with
  | none => exact leads_original _
  | some bound =>
    dsimp only
    refine leads_typeGate _ _ s _ (leads_original _) ?_
    refine leads_restored_bind (leads_endpointOfNames _ _ _).restored fun target => ?_
    cases target with
    | none =>
      cases bound.get.proxy with
      | none => exact leads_original _
      | some proxy => exact (leads_failProxiedConnect _ _).restored
    | some target =>
      cases bound.get.proxy with
      | none =>
        exact leads_restored_bind (leads_report _ _ _ _ _).restored fun _ => leads_original _
      | some proxy =>
        refine leads_restored_bind (leads_report _ _ _ _ _).restored fun _ => ?_
        refine leads_restored_bind (leads_proxySockaddr proxy).restored fun addr => ?_
        refine leads_blockingScope (leads_eq_bind (leads_tunnel _ _ _ _) fun outcome => ?_) s
        cases outcome with
        | unreachable ret => exact leads_pure _
        | refused => exact leads_failProxiedConnect _ _
        | established =>
          exact leads_eq_bind (leads_ask trivial) fun _ => leads_eq_bind (leads_copyOut _ _ _)
            fun _ => leads_eq_bind (leads_ask trivial) fun _ =>
              leads_eq_bind (leads_copyOut _ _ _) fun _ => leads_pure _

/-- Every connect detour restores what it changes. -/
lemma leads_detour (serviceMap : Bytes → Option UInt16) (scope : HookScope) (call : HookedCall) :
    Detour.Leads ModeState.Restored (detour serviceMap scope call) := by
  cases call with
  | connect api s name namelen =>
    change Detour.Leads _ (hookConnectFn scope api s name namelen)
    rw [hookConnectFn_eq]
    refine leads_routedConnect _ _ _ _ (leads_original _) _ (fun outcome => ?_) _
    cases outcome with
    | unreachable ret => exact leads_pure _
    | refused => exact leads_failProxiedConnect _ _
    | established => exact leads_pure _
  | connectByList s addresses localRoom remoteRoom =>
    change Detour.Leads _ (hookWSAConnectByList scope s addresses localRoom remoteRoom)
    unfold hookWSAConnectByList
    cases scope.config with
    | none => exact leads_original _
    | some bound => exact leads_connectByListLoop _ _ _ _ _ (leads_original _) _
  | connectByName api s nodename servicename localRoom remoteRoom =>
    exact leads_hookWSAConnectByName _ _ _ _ _ _ _ _
  | connectEx s name namelen sendBuffer bytesSent =>
    change Detour.Leads _ (hookConnectEx scope s name namelen sendBuffer bytesSent)
    rw [hookConnectEx_eq]
    refine leads_routedConnect _ _ _ _ (leads_original _) _ (fun outcome => ?_) _
    cases outcome with
    | unreachable ret => exact leads_pure _
    | refused => exact leads_failProxiedConnect _ _
    | established => exact leads_sendFirstOctets _ _ _

end Detour

/-! ## The effect of a call -/

/-- A record is made, or erased. -/
def ModeState.record (σ : ModeState) (s : SOCKET) (nb : Option Bool) : ModeState :=
  { σ with nbio := Function.update σ.nbio s nb }

/-- A socket is closed, and its record erased. -/
def ModeState.close (σ : ModeState) (s : SOCKET) : ModeState where
  kernel := Function.update σ.kernel s none
  nbio := Function.update σ.nbio s none

section

variable {σ : ModeState} {s t : SOCKET} {nb : Option Bool}

@[simp] lemma ModeState.modeAt_record : (σ.record s nb).modeAt t = σ.modeAt t := rfl

@[simp] lemma ModeState.nbio_record_self : (σ.record s nb).nbio s = nb := Function.update_self ..

@[simp] lemma ModeState.kernel_close_self : (σ.close s).kernel s = none := Function.update_self ..

@[simp] lemma ModeState.kernel_close_of_ne (h : t ≠ s) : (σ.close s).kernel t = σ.kernel t :=
  Function.update_of_ne h ..

end

/-- What a call of the victim does, with its record. -/
inductive HookEffect (σ : ModeState) (call : ModeHook) (ret : ℤ) : ModeState → Prop
  /-- The call has not to do with the mode. -/
  | unrelated (recorded : call.recorded = none) (applied : ∀ modes, call.applied modes = modes) :
      HookEffect σ call ret σ
  /-- The record is all that is done. -/
  | failed (s : SOCKET) (nb : Option Bool) (fails : ret ≠ 0)
      (recorded : call.recorded = some (s, nb.getD false)) : HookEffect σ call ret (σ.record s nb)
  /-- The mode is set. -/
  | set (s : SOCKET) (nb : Bool) (k : KernelSocket) (mode : BlockingMode) (succeeds : ret = 0)
      (isOpen : σ.kernel s = some k) (mode_eq : mode.isNonblocking = nb)
      (applied : ∀ modes,
        call.applied modes = Function.update modes s ((modes s).map fun _ => nb)) :
      HookEffect σ call ret ((σ.record s (some nb)).modify s ({ · with mode }))
  /-- The socket is closed. -/
  | closed (s : SOCKET) (succeeds : ret = 0)
      (applied : ∀ modes, call.applied modes = Function.update modes s none) :
      HookEffect σ call ret (σ.close s)

variable {σ σ' : ModeState} {call : ModeHook} {ret : ℤ} {s : SOCKET}

/-- A granted `FIONBIO` sets the mode that it asks for. -/
lemma BlockingMode.isNonblocking_of_fionbio {mode mode' : BlockingMode} {nb : Bool}
    (h : mode.fionbio nb = some mode') : mode'.isNonblocking = nb := by
  cases mode <;> cases nb <;> cases h <;> rfl

/-- A selection makes the socket nonblocking. -/
lemma BlockingMode.isNonblocking_ofSelect (events : ℤ) :
    (BlockingMode.ofSelect events).isNonblocking = true := by
  unfold ofSelect
  split_ifs <;> rfl

/-- What a detour does once it has changed the record. -/
lemma ends_of_nbioStore {nb : Bool} {p : Prog ModeCall.Answer ℤ}
    (h : ((Prog.ask (ModeCall.nbioStore s nb)).bind fun _ => p).Ends ModeState.answered σ ret σ') :
    p.Ends ModeState.answered (σ.record s (some nb)) ret σ' := by
  obtain ⟨_, mid, hstore, hp⟩ := h
  obtain rfl := Option.some.inj hstore
  exact hp

/-- The effect of `hook_ioctlsocket`. -/
lemma hookEffect_ioctlsocket {cmd arg : UInt32}
    (h : (hookIoctlsocket s cmd arg).Ends ModeState.answered σ ret σ') :
    HookEffect σ (.ioctlsocket s cmd arg) ret σ' := by
  unfold hookIoctlsocket at h
  by_cases hcmd : cmd = fionbio
  · subst hcmd
    rw [if_pos rfl] at h
    obtain ⟨x, last, hcall, rfl, rfl⟩ := ends_of_nbioStore h
    rcases winsockLaws.ioctlsocket hcall with ⟨hret, rfl⟩ | ⟨hret, k, mode, hk, hmode, rfl⟩
    · exact .failed s (some (decide (arg ≠ 0))) hret (by rw [ModeHook.recorded, if_pos rfl]; rfl)
    · exact .set s (decide (arg ≠ 0)) k mode hret hk (BlockingMode.isNonblocking_of_fionbio hmode)
        fun modes => by rw [ModeHook.applied, if_pos rfl]
  · rw [if_neg hcmd] at h
    obtain ⟨x, last, hcall, rfl, rfl⟩ := h
    obtain rfl := winsockLaws.ioctlsocket_other hcmd hcall
    exact .unrelated (by rw [ModeHook.recorded, if_neg hcmd])
      fun modes => by rw [ModeHook.applied, if_neg hcmd]

/-- The effect of a record and a selection. -/
lemma hookEffect_select (events : ℤ) (hrecorded : call.recorded = some (s, true))
    (happlied : ∀ modes,
      call.applied modes = Function.update modes s ((modes s).map fun _ => true))
    (h : ret ≠ 0 ∧ σ' = σ.record s (some true) ∨
      ret = 0 ∧ (σ.kernel s).isSome ∧
        σ' = (σ.record s (some true)).modify s ({ · with mode := .ofSelect events })) :
    HookEffect σ call ret σ' := by
  rcases h with ⟨hret, rfl⟩ | ⟨hret, hopen, rfl⟩
  · exact .failed s (some true) hret hrecorded
  · obtain ⟨k, hk⟩ := Option.isSome_iff_exists.mp hopen
    exact .set s true k _ hret hk (BlockingMode.isNonblocking_ofSelect events) happlied

/-- The effect of a call is one of these. -/
lemma hookEffect_of_ends (h : call.detour.Ends ModeState.answered σ ret σ') :
    HookEffect σ call ret σ' := by
  cases call with
  | ioctlsocket s cmd arg => exact hookEffect_ioctlsocket h
  | asyncSelect s hWnd wMsg lEvent =>
    obtain ⟨x, last, hcall, rfl, rfl⟩ := ends_of_nbioStore h
    exact hookEffect_select lEvent rfl (fun _ => rfl) (winsockLaws.asyncSelect hcall)
  | eventSelect s hEventObject lNetworkEvents =>
    obtain ⟨x, last, hcall, rfl, rfl⟩ := ends_of_nbioStore h
    exact hookEffect_select lNetworkEvents rfl (fun _ => rfl) (winsockLaws.eventSelect hcall)
  | closesocket s =>
    obtain ⟨_, mid, hstore, x, last, hcall, rfl, rfl⟩ := h
    obtain rfl := Option.some.inj hstore
    rcases winsockLaws.closesocket hcall with ⟨hret, rfl⟩ | ⟨hret, -, rfl⟩
    · exact .failed s none hret rfl
    · exact .closed s hret fun _ => rfl

/-! ## The invariant -/

/-- The socket that started blocking has the mode that was set last, and the record of this socket,
or of a value that is no socket, is what a later scope restores. -/
structure ModeState.TrackedAt (σ : ModeState) (modes : SOCKET → Option Bool) (s : SOCKET) :
    Prop where
  mode : ∀ nb, modes s = some nb → ∃ k, σ.kernel s = some k ∧ k.mode.isNonblocking = nb
  recorded : (modes s).isSome ∨ σ.kernel s = none → σ.RecordedAt s

variable {modes modes' : SOCKET → Option Bool}

/-- What happens to other sockets does not matter. -/
lemma ModeState.TrackedAt.congr (h : σ.TrackedAt modes s) (hkernel : σ'.kernel s = σ.kernel s)
    (hnbio : σ'.nbio s = σ.nbio s) (hmodes : modes' s = modes s) : σ'.TrackedAt modes' s := by
  constructor
  · rw [hmodes, hkernel]
    exact h.mode
  · rw [hmodes, hkernel, RecordedAt, modeAt, hkernel, hnbio]
    exact h.recorded

/-- An effect on a socket that has been recorded truly, or has succeeded, keeps the invariant. -/
lemma trackedAt_of_hookEffect (h : ∀ s, σ.TrackedAt modes s) (heffect : HookEffect σ call ret σ')
    (hharmless : (ModeStep.hooked call ret).Harmless σ) (t : SOCKET) :
    σ'.TrackedAt ((ModeStep.hooked call ret).applied modes) t := by
  change σ'.TrackedAt (if ret = 0 then call.applied modes else modes) t
  cases heffect with
  | unrelated recorded applied =>
    rw [applied modes, ite_self]
    exact h t
  | failed s nb fails recorded =>
    rw [if_neg fails]
    by_cases heq : t = s
    · subst heq
      refine ⟨(h t).mode, fun _ => ?_⟩
      rcases hharmless fails t _ recorded with hselecting | hmode
      · exact Or.inl hselecting
      · refine Or.inr ?_
        rw [ModeState.nbio_record_self, ModeState.modeAt_record]
        exact hmode.symm
    · exact (h t).congr rfl (Function.update_of_ne heq _ _) rfl
  | set s nb k mode succeeds isOpen mode_eq applied =>
    rw [if_pos succeeds, applied modes]
    by_cases heq : t = s
    · subst heq
      have hkernel : ((σ.record t (some nb)).modify t ({ · with mode })).kernel t =
          some { k with mode } := by
        rw [ModeState.kernel_modify_self]
        exact congrArg (Option.map _) isOpen
      refine ⟨fun nb' hnb' => ⟨_, hkernel, ?_⟩, fun _ => Or.inr ?_⟩
      · rw [Function.update_self, Option.map_eq_some_iff] at hnb'
        obtain ⟨-, -, rfl⟩ := hnb'
        exact mode_eq
      · rw [ModeState.modeAt, hkernel, ModeState.nbio_modify, ModeState.nbio_record_self]
        exact mode_eq.symm
    · exact (h t).congr (ModeState.kernel_modify_of_ne heq) (Function.update_of_ne heq _ _)
        (Function.update_of_ne heq _ _)
  | closed s succeeds applied =>
    rw [if_pos succeeds, applied modes]
    by_cases heq : t = s
    · subst heq
      refine ⟨fun nb hnb => ?_, fun _ => Or.inr ?_⟩
      · rw [Function.update_self] at hnb
        cases hnb
      · simp [ModeState.modeAt, ModeState.close, BlockingMode.isNonblocking]
    · exact (h t).congr (Function.update_of_ne heq _ _) (Function.update_of_ne heq _ _)
        (Function.update_of_ne heq _ _)

/-- No call of the victim that keeps the map changes a timeout. -/
lemma sameTimeouts_of_hookEffect (heffect : HookEffect σ call ret σ') : σ.SameTimeouts σ' := by
  intro t k k' hk hk'
  cases heffect with
  | unrelated =>
    rw [hk] at hk'
    cases hk'
    exact ⟨rfl, rfl⟩
  | failed s nb =>
    have hsame : some k = some k' := hk.symm.trans hk'
    cases hsame
    exact ⟨rfl, rfl⟩
  | set s nb l mode =>
    by_cases heq : t = s
    · subst heq
      have hkernel : (σ.kernel t).map ({ · with mode }) = some k' := by
        rw [← hk', ModeState.kernel_modify_self]
        rfl
      rw [hk] at hkernel
      cases hkernel
      exact ⟨rfl, rfl⟩
    · have hsame := (ModeState.kernel_modify_of_ne heq).symm.trans hk'
      rw [ModeState.record, hk] at hsame
      cases hsame
      exact ⟨rfl, rfl⟩
  | closed s =>
    by_cases heq : t = s
    · subst heq
      rw [ModeState.kernel_close_self] at hk'
      cases hk'
    · rw [ModeState.kernel_close_of_ne heq, hk] at hk'
      cases hk'
      exact ⟨rfl, rfl⟩

/-- A connect detour keeps the invariant. -/
lemma trackedAt_of_restored (h : σ.TrackedAt modes s) (hrestored : ModeState.Restored σ σ') :
    σ'.TrackedAt modes s := by
  have hnbio : σ'.nbio s = σ.nbio s := by rw [hrestored.nbio]
  by_cases hcase : (modes s).isSome ∨ σ.kernel s = none
  · exact h.congr (hrestored.kernel s (h.recorded hcase)) hnbio rfl
  · rw [not_or, Option.not_isSome_iff_eq_none] at hcase
    refine ⟨fun nb hnb => ?_, fun hcase' => ?_⟩
    · rw [hcase.1] at hnb
      cases hnb
    · have hopen := hrestored.timeouts s
      rcases hcase' with hmodes | hnone
      · rw [hcase.1] at hmodes
        cases hmodes
      · rw [hnone, Option.map_none, eq_comm, Option.map_eq_none_iff] at hopen
        exact absurd hopen hcase.2

/-- A step that is harmless keeps the invariant. -/
lemma trackedAt_step {serviceMap : Bytes → Option UInt16} {e : ModeStep}
    (h : ∀ s, σ.TrackedAt modes s) (hharmless : e.Harmless σ) (htakes : e.Takes serviceMap σ σ') :
    ∀ s, σ'.TrackedAt (e.applied modes) s := by
  intro t
  cases e with
  | hooked call ret => exact trackedAt_of_hookEffect h (hookEffect_of_ends htakes) hharmless t
  | connect scope call ret =>
    exact trackedAt_of_restored (h t) (leads_detour serviceMap scope call σ ret σ' htakes)
  | opened s start =>
    obtain ⟨hnone, rfl⟩ := htakes
    by_cases heq : t = s
    · subst heq
      have hkernel : ({ σ with kernel := Function.update σ.kernel t (some start) } :
          ModeState).kernel t = some start := Function.update_self _ _ _
      have hrecord : (σ.nbio t).getD false = false := by
        have hrecorded := (h t).recorded (Or.inr hnone)
        rw [ModeState.RecordedAt, ModeState.modeAt, hnone] at hrecorded
        simpa [BlockingMode.isNonblocking] using hrecorded
      refine ⟨fun nb hnb => ⟨start, hkernel, ?_⟩, fun hcase => Or.inr ?_⟩
      · change Function.update modes t _ t = some nb at hnb
        rw [Function.update_self] at hnb
        split_ifs at hnb with hblocking
        rw [hblocking, ← Option.some.inj hnb]
        rfl
      · change (Function.update modes t _ t).isSome ∨ _ at hcase
        rw [Function.update_self, hkernel] at hcase
        have hblocking : start.mode = .blocking := by
          by_contra hne
          simp [hne] at hcase
        rw [ModeState.modeAt, hkernel, hrecord, Option.map_some, Option.getD_some, hblocking]
        rfl
    · exact (h t).congr (Function.update_of_ne heq _ _) rfl (Function.update_of_ne heq _ _)
  | setTimeout s opt value =>
    obtain ⟨hopen, rfl⟩ := htakes
    by_cases heq : t = s
    · subst heq
      have hmode (k : KernelSocket) : (k.setTimeout value opt).mode = k.mode := by cases opt <;> rfl
      constructor
      · intro nb hnb
        obtain ⟨k, hk, hnb⟩ := (h t).mode nb hnb
        exact ⟨k.setTimeout value opt, by rw [ModeState.kernel_modify_self, hk]; rfl,
          by rw [hmode, hnb]⟩
      · intro hcase
        rw [ModeState.kernel_modify_self, Option.map_eq_none_iff] at hcase
        have hrecorded := (h t).recorded hcase
        have hsame : (σ.modify t (·.setTimeout value opt)).modeAt t = σ.modeAt t := by
          rw [ModeState.modeAt, ModeState.modeAt, ModeState.kernel_modify_self, Option.map_map]
          exact congrArg (fun f => ((σ.kernel t).map f).getD .blocking) (funext hmode)
        rw [ModeState.RecordedAt, hsame]
        exact hrecorded
    · exact (h t).congr (ModeState.kernel_modify_of_ne heq) rfl rfl

/-- The invariant of the runs whose steps are harmless. -/
lemma trackedAt_run {serviceMap : Bytes → Option UInt16} {history : List ModeStep}
    (hrun : ModeRun serviceMap ModeStep.Harmless history σ) :
    ∀ s, σ.TrackedAt (applied history) s := by
  induction hrun with
  | start =>
    intro s
    exact ⟨fun nb hnb => (nomatch hnb), fun _ => Or.inr rfl⟩
  | step run allowed takes ih =>
    rw [applied, List.foldl_concat]
    exact trackedAt_step ih allowed takes

/-- No detour changes a timeout for good. -/
lemma sameTimeouts_of_takes {serviceMap : Bytes → Option UInt16} {e : ModeStep}
    (hdetour : e.IsDetour) (htakes : e.Takes serviceMap σ σ') : σ.SameTimeouts σ' := by
  cases e with
  | hooked call ret => exact sameTimeouts_of_hookEffect (hookEffect_of_ends htakes)
  | connect scope call ret =>
    exact (leads_detour serviceMap scope call σ ret σ' htakes).sameTimeouts
  | opened s start => exact hdetour.elim
  | setTimeout s opt value => exact hdetour.elim

/-- **The blocking mode of the caller.** In every run in which a call that fails has recorded no
other mode than the socket has, every open socket that started blocking has the mode that the victim
set last, and no detour changes a timeout for good. -/
theorem modes_restored (serviceMap : Bytes → Option UInt16) (history : List ModeStep)
    (σ : ModeState) (hrun : ModeRun serviceMap ModeStep.Harmless history σ) :
    σ.HasModes (applied history) ∧
      ∀ (e : ModeStep) (σ' : ModeState), e.IsDetour → e.Takes serviceMap σ σ' →
        σ.SameTimeouts σ' :=
  ⟨fun s nb hnb => (trackedAt_run hrun s).mode nb hnb,
    fun _ _ hdetour htakes => sameTimeouts_of_takes hdetour htakes⟩

/-! ## Two runs -/

/-- The process has the proxy 10.0.0.1:1080 and reports nothing. -/
def quietScope : HookScope :=
  { config := some (.set { addr := some { v4Addr := some 0x0a000001, port := some 1080 } })
    queue := false }

/-- A `connect` to 203.0.113.7:80. -/
def anyConnect : HookedCall := .connect .connect 7 (sockaddrIn [203, 0, 113, 7] 80) 16

/-- Its calls where the record says that the socket does not block, and nobody listens at the
proxy. -/
def refusedDial : List (Event SystemCall.Answer) :=
  [⟨.getsockoptType 7, some sockStream⟩, ⟨.getsockoptTimeout 7 .rcvtimeo, some 0⟩,
    ⟨.getsockoptTimeout 7 .sndtimeo, some 0⟩, ⟨.setsockoptTimeout 7 .rcvtimeo 3000, (0 : ℤ)⟩,
    ⟨.setsockoptTimeout 7 .sndtimeo 3000, (0 : ℤ)⟩, ⟨.ioctlsocket 7 false, (0 : ℤ)⟩,
    ⟨.original (.sockaddr .connect 7 (sockaddrIn [10, 0, 0, 1] 1080) 16), (-1 : ℤ)⟩,
    ⟨.nbioLoad 7, some true⟩, ⟨.ioctlsocket 7 true, (0 : ℤ)⟩,
    ⟨.setsockoptTimeout 7 .rcvtimeo 0, (0 : ℤ)⟩, ⟨.setsockoptTimeout 7 .sndtimeo 0, (0 : ℤ)⟩]

/-- The `connect` is a step from wherever these calls are answered so. -/
lemma takes_anyConnect (h : refusedDial.foldlM ModeState.served σ = some σ') :
    (ModeStep.connect quietScope anyConnect (-1)).Takes (fun _ => none) σ σ' :=
  Prog.ends_of_replay (by decide) h

/-- A blocking socket has been opened. -/
def openedState : ModeState := { kernel := Function.update (fun _ => none) 7 (some {}) }

/-- The mode of a socket that an `ioctlsocket` has made nonblocking is restored. -/
theorem modes_restored_ioctlsocket :
    let history : List ModeStep :=
      [.opened 7 {}, .hooked (.ioctlsocket 7 fionbio 1) 0, .connect quietScope anyConnect (-1)]
    ∃ σ, ModeRun (fun _ => none) ModeStep.Harmless history σ ∧ σ.HasModes (applied history) := by
  intro history
  have hopened : ModeRun (fun _ => none) ModeStep.Harmless [.opened 7 {}] openedState :=
    .step .start trivial ⟨rfl, rfl⟩
  have hset : ModeRun (fun _ => none) ModeStep.Harmless
      [.opened 7 {}, .hooked (.ioctlsocket 7 fionbio 1) 0]
      ((openedState.record 7 (some true)).modify 7 ({ · with mode := .nonblocking })) :=
    .step hopened (fun hfails => absurd rfl hfails) ⟨(), _, rfl, 0, _, rfl, rfl, rfl⟩
  obtain ⟨σ, hσ⟩ := Option.isSome_iff_exists.mp (show (refusedDial.foldlM ModeState.served
    ((openedState.record 7 (some true)).modify 7 ({ · with mode := .nonblocking }))).isSome by
      decide)
  have hrun : ModeRun (fun _ => none) ModeStep.Harmless history σ :=
    .step hset trivial (takes_anyConnect hσ)
  exact ⟨σ, hrun, (modes_restored _ _ _ hrun).1⟩

/-- A `WSAEventSelect` that fails makes a blocking socket nonblocking at the next connect. -/
theorem not_modes_restored_eventSelect :
    ¬∀ (serviceMap : Bytes → Option UInt16) (history : List ModeStep) (σ : ModeState),
      ModeRun serviceMap (fun _ _ => True) history σ → σ.HasModes (applied history) := by
  intro hclaim
  have hopened : ModeRun (fun _ => none) (fun _ _ => True) [.opened 7 {}] openedState :=
    .step .start trivial ⟨rfl, rfl⟩
  have hfailed : ModeRun (fun _ => none) (fun _ _ => True)
      [.opened 7 {}, .hooked (.eventSelect 7 0 16) (-1)] (openedState.record 7 (some true)) :=
    .step hopened trivial ⟨(), _, rfl, -1, _, rfl, rfl, rfl⟩
  obtain ⟨σ, hσ⟩ := Option.isSome_iff_exists.mp (show (refusedDial.foldlM ModeState.served
    (openedState.record 7 (some true))).isSome by decide)
  have hrun : ModeRun (fun _ => none) (fun _ _ => True)
      [.opened 7 {}, .hooked (.eventSelect 7 0 16) (-1), .connect quietScope anyConnect (-1)] σ :=
    .step hfailed trivial (takes_anyConnect hσ)
  obtain ⟨k, hk, hblocks⟩ := hclaim _ _ _ hrun 7 false rfl
  have hmode : (refusedDial.foldlM ModeState.served (openedState.record 7 (some true))).bind
      (fun σ => (σ.kernel 7).map (·.mode)) = some .nonblocking := by decide
  rw [hσ, Option.bind_some, hk, Option.map_some, Option.some_inj] at hmode
  rw [hmode] at hblocks
  cases hblocks

end Encapsule
