import Mathlib.Data.List.AList
import Encapsule.Common.Schema

/-!
# The injector

The static part of `injector.hpp`: the tokens of the injected processes and the sections that carry
them, and the two steps of an injection.  What the operating system answers along the way is an
argument.

* `Injector.tokenMatches`: whether a presented token is the one that was published for a process.
* `Injector.publish`, `Injector.loadInto`: the two steps; `Injector.inject` does both.
-/

namespace Encapsule

/-- `port_mapping_token_size`. -/
abbrev portMappingTokenSize : ℕ := 8

/-- `port_mapping_payload`: what an injectee finds in its section. -/
structure PortMappingPayload where
  port : UInt16
  token : Vector UInt8 portMappingTokenSize
  deriving DecidableEq

/-- `token_of`. -/
def PortMappingPayload.injectionToken (payload : PortMappingPayload) : Bytes := payload.token.toList

/-- The records of the injector.  A process is in `tokens` exactly when it is in `mappings`. -/
structure Injector where
  tokens : AList fun _ : DWORD => Bytes := ∅
  mappings : AList fun _ : DWORD => PortMappingPayload := ∅
  agree : ∀ pid, pid ∈ tokens ↔ pid ∈ mappings := by simp

/-- How far the remote load got, and what it was answered last. -/
inductive LoadAnswer where
  | noMemory
  | notWritten
  | noLoadLibrary
  | noThread
  /-- The remote thread did not end within the time limit. -/
  | late (resident : Bool)
  /-- The remote thread ended, with this exit code if it can be read. -/
  | exited (moduleHandle : Option DWORD)
  deriving DecidableEq

/-- What the operating system answers to one injection. -/
structure InjectHost where
  /-- `OpenProcess`. -/
  process : Bool
  /-- `IsWow64Process`, if it can tell. -/
  isWow64 : Option Bool
  /-- `module_resident`, before the load. -/
  resident : Bool
  /-- `find_injectee`. -/
  injectee : Bool
  /-- The random octets of `get_port_mapping_payload`. -/
  random : Option (Vector UInt8 portMappingTokenSize)
  /-- `create_mapping`. -/
  mapping : Bool
  /-- The view of the section. -/
  view : Bool
  /-- The remote load. -/
  load : LoadAnswer
  deriving DecidableEq

/-- The injection comes to the critical section of `publish`. -/
def InjectHost.Publishes (host : InjectHost) : Prop :=
  host.process = true ∧ host.isWow64.isSome = true ∧ host.injectee = true ∧
    host.random.isSome = true ∧ host.mapping = true ∧ host.view = true

instance (host : InjectHost) : Decidable host.Publishes :=
  inferInstanceAs (Decidable (_ ∧ _ ∧ _ ∧ _ ∧ _ ∧ _))

namespace Injector

/-- `token_matches`. -/
def tokenMatches (s : Injector) (pid : DWORD) (presented : Option Bytes) : Bool :=
  match presented with
  | none => false
  | some got =>
    match s.tokens.lookup pid with
    | none => false
    | some expected => expected.length == got.length && expected == got

/-- `forget_token`. -/
def forgetToken (s : Injector) (pid : DWORD) : Injector where
  tokens := s.tokens.erase pid
  mappings := s.mappings.erase pid
  agree := by simp [s.agree]

/-- `forget_bootstrap`: takes a publish back, unless another one has replaced it. -/
def forgetBootstrap (s : Injector) (pid : DWORD) (token : Bytes) : Injector × Bool :=
  if s.tokens.lookup pid = some token then (s.forgetToken pid, true) else (s, false)

/-- The critical section of `publish`. -/
def record (s : Injector) (pid : DWORD) (payload : PortMappingPayload) : Injector where
  tokens := s.tokens.insert pid payload.injectionToken
  mappings := s.mappings.insert pid payload
  agree := by simp [s.agree]

/-- `publish`. -/
def publish (s : Injector) (pid : DWORD) (port : UInt16) (host : InjectHost) :
    Injector × Option Bytes :=
  match host.random with
  | none => (s, none)
  | some token =>
    let payload : PortMappingPayload := { port, token }
    if !host.mapping then (s, none)
    else if !host.view then (s, none)
    else (s.record pid payload, some payload.injectionToken)

/-- `load_into`: whether the capsule is loaded, and what it leaves in `already_encapsulated`. -/
def loadInto (s : Injector) (pid : DWORD) (token : Bytes) (host : InjectHost)
    (alreadyEncapsulated : Bool) : Injector × Bool × Bool :=
  let failed := ((s.forgetBootstrap pid token).1, false, alreadyEncapsulated)
  match host.load with
  | .noMemory => failed
  | .notWritten => failed
  | .noLoadLibrary => failed
  | .noThread => failed
  | .late resident => if resident then (s, true, true) else failed
  | .exited none => failed
  | .exited (some moduleHandle) =>
    if moduleHandle = 0 then failed else (s, true, alreadyEncapsulated)

/-- `inject`: whether it succeeded, and `already_encapsulated`. -/
def inject (s : Injector) (pid : DWORD) (port : UInt16) (host : InjectHost) :
    Injector × Bool × Bool :=
  if !host.process then (s, false, false)
  else
    match host.isWow64 with
    | none => (s, false, false)
    | some _ =>
      if host.injectee then
        match s.publish pid port host with
        | (s, none) => (s, false, host.resident)
        | (s, some token) => s.loadInto pid token host host.resident
      else
        (s, false, host.resident)

/-- The token of the process that is recorded. -/
lemma lookup_record (s : Injector) (pid : DWORD) (payload : PortMappingPayload) :
    (s.record pid payload).tokens.lookup pid = some payload.injectionToken :=
  AList.lookup_insert _

/-- The token of any other process. -/
lemma lookup_record_ne {s : Injector} {pid pid' : DWORD} {payload : PortMappingPayload}
    (h : pid ≠ pid') : (s.record pid' payload).tokens.lookup pid = s.tokens.lookup pid :=
  AList.lookup_insert_ne h

/-- The tokens after a process was recorded. -/
lemma lookup_record_iff {s : Injector} {pid pid' : DWORD} {payload : PortMappingPayload}
    {token : Bytes} : (s.record pid' payload).tokens.lookup pid = some token ↔
      (pid = pid' ∧ token = payload.injectionToken) ∨
        (pid ≠ pid' ∧ s.tokens.lookup pid = some token) := by
  by_cases h : pid = pid'
  · subst h
    rw [lookup_record]
    simp [eq_comm]
  · rw [lookup_record_ne h]
    simp [h]

/-- The tokens after a process was forgotten. -/
lemma lookup_forgetToken_iff {s : Injector} {pid pid' : DWORD} {token : Bytes} :
    (s.forgetToken pid').tokens.lookup pid = some token ↔
      pid ≠ pid' ∧ s.tokens.lookup pid = some token := by
  unfold forgetToken
  by_cases h : pid = pid'
  · subst h
    simp
  · rw [AList.lookup_erase_ne h]
    simp [h]

/-- The tokens after a publish was taken back. -/
lemma lookup_forgetBootstrap_iff {s : Injector} {pid pid' : DWORD} {token token' : Bytes} :
    (s.forgetBootstrap pid' token').1.tokens.lookup pid = some token ↔
      ¬ (pid = pid' ∧ token = token') ∧ s.tokens.lookup pid = some token := by
  unfold forgetBootstrap
  split_ifs with hcurrent
  · rw [lookup_forgetToken_iff]
    refine and_congr_left fun hlookup => ?_
    constructor
    · rintro hne ⟨rfl, -⟩
      exact hne rfl
    · rintro hne rfl
      exact hne ⟨rfl, Option.some.inj (hlookup.symm.trans hcurrent)⟩
  · refine (and_iff_right_of_imp fun hlookup => ?_).symm
    rintro ⟨rfl, rfl⟩
    exact hcurrent hlookup

/-- A publish fails and leaves the records alone, or records its token. -/
lemma publish_cases (s : Injector) (pid : DWORD) (port : UInt16) (host : InjectHost) :
    s.publish pid port host = (s, none) ∨ ∃ payload : PortMappingPayload,
      s.publish pid port host = (s.record pid payload, some payload.injectionToken) := by
  unfold publish
  cases host.random with
  | none => exact Or.inl rfl
  | some token =>
    cases host.mapping with
    | false => exact Or.inl rfl
    | true =>
      cases host.view with
      | false => exact Or.inl rfl
      | true => exact Or.inr ⟨{ port, token }, rfl⟩

/-- The token that is published is the one that is recorded. -/
lemma lookup_publish {s : Injector} {pid : DWORD} {port : UInt16} {host : InjectHost}
    {token : Bytes} (h : (s.publish pid port host).2 = some token) :
    (s.publish pid port host).1.tokens.lookup pid = some token := by
  rcases s.publish_cases pid port host with hpublish | ⟨payload, hpublish⟩
  · rw [hpublish] at h
    cases h
  · rw [hpublish] at h ⊢
    rw [lookup_record]
    exact h

/-- A load succeeds and leaves the records alone, or fails and takes the publish back. -/
lemma loadInto_cases (s : Injector) (pid : DWORD) (token : Bytes) (host : InjectHost)
    (resident : Bool) :
    ((s.loadInto pid token host resident).1 = s ∧
        (s.loadInto pid token host resident).2.1 = true) ∨
      ((s.loadInto pid token host resident).1 = (s.forgetBootstrap pid token).1 ∧
        (s.loadInto pid token host resident).2.1 = false) := by
  unfold loadInto
  cases host.load with
  | late resident =>
    cases resident with
    | false => exact Or.inr ⟨rfl, rfl⟩
    | true => exact Or.inl ⟨rfl, rfl⟩
  | exited moduleHandle =>
    cases moduleHandle with
    | none => exact Or.inr ⟨rfl, rfl⟩
    | some moduleHandle =>
      dsimp only
      split_ifs
      · exact Or.inr ⟨rfl, rfl⟩
      · exact Or.inl ⟨rfl, rfl⟩
  | _ => exact Or.inr ⟨rfl, rfl⟩

/-- A load that succeeds leaves the records alone. -/
lemma loadInto_of_ok {s : Injector} {pid : DWORD} {token : Bytes} {host : InjectHost}
    {resident : Bool} (h : (s.loadInto pid token host resident).2.1 = true) :
    (s.loadInto pid token host resident).1 = s := by
  rcases s.loadInto_cases pid token host resident with ⟨hsame, -⟩ | ⟨-, hfailed⟩
  · exact hsame
  · rw [h] at hfailed
    cases hfailed

/-- A load that fails takes the publish back. -/
lemma loadInto_of_failed {s : Injector} {pid : DWORD} {token : Bytes} {host : InjectHost}
    {resident : Bool} (h : (s.loadInto pid token host resident).2.1 = false) :
    (s.loadInto pid token host resident).1 = (s.forgetBootstrap pid token).1 := by
  rcases s.loadInto_cases pid token host resident with ⟨-, hok⟩ | ⟨hrollback, -⟩
  · rw [h] at hok
    cases hok
  · exact hrollback

/-- An injection that does not come to its critical section fails, and leaves the records alone. -/
lemma inject_of_not_publishes (s : Injector) (pid : DWORD) (port : UInt16) {host : InjectHost}
    (h : ¬ host.Publishes) :
    (s.inject pid port host).1 = s ∧ (s.inject pid port host).2.1 = false := by
  unfold InjectHost.Publishes at h
  unfold inject publish
  cases hprocess : host.process with
  | false => exact ⟨rfl, rfl⟩
  | true =>
    cases hwow64 : host.isWow64 with
    | none => exact ⟨rfl, rfl⟩
    | some isWow64 =>
      cases hinjectee : host.injectee with
      | false => exact ⟨rfl, rfl⟩
      | true =>
        cases hrandom : host.random with
        | none => exact ⟨rfl, rfl⟩
        | some random =>
          cases hmapping : host.mapping with
          | false => exact ⟨rfl, rfl⟩
          | true =>
            cases hview : host.view with
            | false => exact ⟨rfl, rfl⟩
            | true => simp [hprocess, hwow64, hinjectee, hrandom, hmapping, hview] at h

/-- An injection that comes to its critical section records a token and loads the capsule. -/
lemma inject_eq_of_publishes (s : Injector) (pid : DWORD) (port : UInt16) {host : InjectHost}
    (h : host.Publishes) : ∃ payload : PortMappingPayload,
      s.publish pid port host = (s.record pid payload, some payload.injectionToken) ∧
        s.inject pid port host =
          (s.record pid payload).loadInto pid payload.injectionToken host host.resident := by
  obtain ⟨hprocess, hwow64, hinjectee, hrandom, hmapping, hview⟩ := h
  obtain ⟨isWow64, hwow64⟩ := Option.isSome_iff_exists.mp hwow64
  obtain ⟨token, hrandom⟩ := Option.isSome_iff_exists.mp hrandom
  refine ⟨{ port, token }, ?_, ?_⟩
  · simp [publish, hrandom, hmapping, hview]
  · simp [inject, publish, hprocess, hwow64, hinjectee, hrandom, hmapping, hview]

/-- What was recorded last is taken back. -/
lemma forgetBootstrap_record (s : Injector) (pid : DWORD) (payload : PortMappingPayload) :
    (s.record pid payload).forgetBootstrap pid payload.injectionToken =
      ((s.record pid payload).forgetToken pid, true) := if_pos (lookup_record _ _ _)

/-- An injection that comes to its critical section succeeds and leaves what it has recorded, or
fails and forgets it. -/
lemma inject_of_publishes (s : Injector) (pid : DWORD) (port : UInt16) {host : InjectHost}
    (h : host.Publishes) : ∃ payload : PortMappingPayload,
      ((s.inject pid port host).1 = s.record pid payload ∧
          (s.inject pid port host).2.1 = true) ∨
        ((s.inject pid port host).1 = (s.record pid payload).forgetToken pid ∧
          (s.inject pid port host).2.1 = false) := by
  obtain ⟨payload, -, hinject⟩ := s.inject_eq_of_publishes pid port h
  rw [hinject]
  rcases (s.record pid payload).loadInto_cases pid payload.injectionToken host host.resident with
    ⟨hsame, hok⟩ | ⟨hrollback, hfailed⟩
  · exact ⟨payload, Or.inl ⟨hsame, hok⟩⟩
  · rw [forgetBootstrap_record] at hrollback
    exact ⟨payload, Or.inr ⟨hrollback, hfailed⟩⟩

lemma lookup_forgetToken {s : Injector} {pid pid' : DWORD} (h : pid ≠ pid') :
    (s.forgetToken pid').tokens.lookup pid = s.tokens.lookup pid := AList.lookup_erase_ne h

/-- The token that is recorded is accepted, and no other one. -/
lemma tokenMatches_iff {s : Injector} {pid : DWORD} {presented : Option Bytes} :
    s.tokenMatches pid presented = true ↔
      ∃ token, presented = some token ∧ s.tokens.lookup pid = some token := by
  unfold tokenMatches
  cases presented with
  | none => simp
  | some got =>
    cases s.tokens.lookup pid with
    | none => simp
    | some expected =>
      simp only [Bool.and_eq_true, beq_iff_eq, Option.some.injEq, exists_eq_left']
      exact ⟨fun h => h.2, fun h => ⟨congrArg List.length h, h⟩⟩

/-- A token that is recorded is accepted. -/
lemma tokenMatches_of_lookup {s : Injector} {pid : DWORD} {token : Bytes}
    (h : s.tokens.lookup pid = some token) : s.tokenMatches pid (some token) = true :=
  tokenMatches_iff.mpr ⟨token, rfl, h⟩

end Injector

end Encapsule
