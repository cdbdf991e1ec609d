import Encapsule.Foundation.Mealy
import Encapsule.Injector.Kept

/-!
# A fresh bootstrap and the record of old ones

`inject` of the front end against the io thread, where sessions are lost and registered.  An
injection publishes a token, loads the capsule, and only then drops its process from the record of
kept bootstraps.  A loss on the io thread may make the record give back its oldest process, and the
token of that process is forgotten after the lock of the record is released.  So an entry that is
left from before the injection can still cost the new token (`outlives_of_undisturbed`).
-/

namespace Encapsule

/-- Where the front end is in `inject`. -/
inductive InjectThread where
  | idle
  /-- After the tests of `inject`. -/
  | checked
  /-- After `publish`, which made this token. -/
  | published (token : Bytes)
  /-- After the remote load. -/
  | loaded (token : Bytes)
  /-- After `kept.drop`: `inject` has succeeded. -/
  | done (token : Bytes)
  | failed
  /-- The process was retired, or lost and evicted, since. -/
  | ended
  deriving DecidableEq

/-- The token that an injection has made. -/
def InjectThread.token : InjectThread → Option Bytes
  | .published token | .loaded token | .done token => some token
  | _ => none

/-- The token is made and the process is not dropped from the record. -/
def InjectThread.underway : InjectThread → Bool
  | .published _ | .loaded _ => true
  | _ => false

/-- What is left to say of an injection when its process loses its bootstrap. -/
def InjectThread.lose : InjectThread → InjectThread
  | .done _ => .ended
  | inject => inject

/-- Where the io thread is. -/
inductive IoThread where
  | idle
  /-- In `open`, after `clients.insert`. -/
  | opening (pid : DWORD)
  /-- In `remove` of a lost session, after `kept.keep`, which gave back `stale`. -/
  | keeping (pid : DWORD) (stale : Option DWORD)
  /-- After `forget_token`. -/
  | erasing (pid : DWORD)
  deriving DecidableEq

/-- The process whose token the io thread is going to forget. -/
def IoThread.stale : IoThread → Option DWORD
  | .keeping _ stale => stale
  | _ => none

/-- The server and the two threads. -/
structure Bootstrapping where
  server : InjectorServer
  inject : InjectThread := .idle
  io : IoThread := .idle

/-- A step of one of the threads. -/
inductive BootstrapAction where
  /-- The tests of `inject`. -/
  | check
  | publish (host : InjectHost)
  | load (host : InjectHost)
  | drop
  /-- `close` of a registered session. -/
  | retire (pid : DWORD)
  | insert (pid : DWORD) (session : SessionId)
  | dropOpened
  | keep (pid : DWORD)
  | forget
  | erase

namespace Bootstrapping

variable (pid : DWORD)

/-- `inject` goes on if the server has a port and the process no session. -/
def check (s : Bootstrapping) : Bootstrapping :=
  match s.inject with
  | .idle =>
    if s.server.port = noPort then { s with inject := .failed }
    else if pid ∈ s.server.clients then { s with inject := .failed }
    else { s with inject := .checked }
  | _ => s

/-- `injector::inject` up to `publish`. -/
def publish (s : Bootstrapping) (host : InjectHost) : Bootstrapping :=
  match s.inject with
  | .checked =>
    if host.process && host.isWow64.isSome && host.injectee then
      let (injector, token) := s.server.injector.publish pid s.server.port host
      { s with
        server := { s.server with injector }
        inject := match token with
          | none => .failed
          | some token => .published token }
    else { s with inject := .failed }
  | _ => s

/-- `load_into`. -/
def load (s : Bootstrapping) (host : InjectHost) : Bootstrapping :=
  match s.inject with
  | .published token =>
    let (injector, ok, _) := s.server.injector.loadInto pid token host host.resident
    { s with
      server := { s.server with injector }
      inject := if ok then .loaded token else .failed }
  | _ => s

/-- `kept.drop` of `inject`. -/
def drop (s : Bootstrapping) : Bootstrapping :=
  match s.inject with
  | .loaded token =>
    { s with
      server := { s.server with kept := s.server.kept.drop pid }
      inject := .done token }
  | _ => s

/-- `close` takes down the session of a process, when the front end is not injecting. -/
def retire (s : Bootstrapping) (q : DWORD) : Bootstrapping :=
  match s.inject with
  | .checked | .published _ | .loaded _ => s
  | inject =>
    { s with
      server := s.server.remove q .retired
      inject := if q = pid then inject.lose else inject }

/-- `clients.insert` of `open`. -/
def insert (s : Bootstrapping) (q : DWORD) (session : SessionId) : Bootstrapping :=
  match s.io with
  | .idle =>
    if q ∈ s.server.clients then s
    else
      { s with
        server := { s.server with clients := s.server.clients.insert q session }
        io := .opening q }
  | _ => s

/-- `kept.drop` of `open`. -/
def dropOpened (s : Bootstrapping) : Bootstrapping :=
  match s.io with
  | .opening q =>
    { s with server := { s.server with kept := s.server.kept.drop q }, io := .idle }
  | _ => s

/-- `kept.keep` of `remove`.  An injection that has succeeded has nothing to do with what a later
loss costs. -/
def keep (s : Bootstrapping) (q : DWORD) : Bootstrapping :=
  match s.io with
  | .idle =>
    let (kept, stale) := s.server.kept.keep q
    { server := { s.server with kept }
      inject := if stale = some pid then s.inject.lose else s.inject
      io := .keeping q stale }
  | _ => s

/-- `forget_token` of `remove`, if the record gave back a process. -/
def forget (s : Bootstrapping) : Bootstrapping :=
  match s.io with
  | .keeping q stale =>
    { s with
      server := { s.server with
        injector := match stale with
          | none => s.server.injector
          | some stale => s.server.injector.forgetToken stale }
      io := .erasing q }
  | _ => s

/-- `clients.erase` of `remove`. -/
def erase (s : Bootstrapping) : Bootstrapping :=
  match s.io with
  | .erasing q =>
    { s with server := { s.server with clients := s.server.clients.erase q }, io := .idle }
  | _ => s

/-- One step.  A step that is not the next one of its thread changes nothing. -/
def step (s : Bootstrapping) : BootstrapAction → Bootstrapping × Unit
  | .check => (s.check pid, ())
  | .publish host => (s.publish pid host, ())
  | .load host => (s.load pid host, ())
  | .drop => (s.drop pid, ())
  | .retire q => (s.retire pid q, ())
  | .insert q session => (s.insert q session, ())
  | .dropOpened => (s.dropOpened, ())
  | .keep q => (s.keep pid q, ())
  | .forget => (s.forget, ())
  | .erase => (s.erase, ())

variable {pid} {s : Bootstrapping}

/-! ## The threads alone -/

/-- Undisturbed, the front end injects a process with `inject`. -/
lemma inject_alone (server : InjectorServer) (host : InjectHost) :
    let s := Mealy.run (step pid) { server } [.check, .publish host, .load host, .drop]
    s.server = (server.inject pid host).1 ∧
      ((∃ token, s.inject = .done token) ↔ (server.inject pid host).2.ok = true) := by
  unfold InjectorServer.inject Injector.inject
  by_cases hport : server.port = noPort
  · simp [step, check, publish, load, drop, hport, InjectVerdict.ok]
  by_cases hmem : pid ∈ server.clients
  · simp [step, check, publish, load, drop, hport, hmem, InjectVerdict.ok]
  have hcheck : (({ server } : Bootstrapping).check pid) = { server, inject := .checked } := by
    simp [check, hport, hmem]
  simp only [Mealy.run_cons, Mealy.run_nil, step, hcheck, hport, hmem, if_false]
  by_cases hhost : (host.process && host.isWow64.isSome && host.injectee) = true
  · obtain ⟨⟨hprocess, hwow⟩, hinjectee⟩ : (host.process = true ∧ host.isWow64.isSome = true) ∧
        host.injectee = true := by
      simpa using hhost
    obtain ⟨wow, hwow⟩ := Option.isSome_iff_exists.mp hwow
    rcases hpublish : server.injector.publish pid server.port host with ⟨injector, _ | token⟩
    · simp [publish, load, drop, hprocess, hwow, hinjectee, hpublish, InjectVerdict.ok]
    · rcases hload : injector.loadInto pid token host host.resident with ⟨injector, ok, resident⟩
      cases ok with
      | false =>
        simp [publish, load, drop, hprocess, hwow, hinjectee, hpublish, hload, InjectVerdict.ok]
      | true =>
        cases resident <;>
          simp [publish, load, drop, hprocess, hwow, hinjectee, hpublish, hload, InjectVerdict.ok]
  · cases hprocess : host.process with
    | false => simp [publish, load, drop, hprocess, InjectVerdict.ok]
    | true =>
      cases hwow : host.isWow64 with
      | none => simp [publish, load, drop, hprocess, hwow, InjectVerdict.ok]
      | some wow =>
        have hinjectee : host.injectee = false := by
          simpa [hprocess, hwow] using hhost
        simp [publish, load, drop, hprocess, hwow, hinjectee, InjectVerdict.ok]

/-- Undisturbed, the io thread registers a session with `open`. -/
lemma open_alone (hio : s.io = .idle) (q : DWORD) (session : SessionId) :
    Mealy.run (step pid) s [.insert q session, .dropOpened] =
      { s with server := (s.server.open q session).1 } := by
  obtain ⟨server, inject, io⟩ := s
  obtain rfl : io = .idle := hio
  by_cases hmem : q ∈ server.clients
  · simp [step, insert, dropOpened, InjectorServer.open, hmem]
  · simp [step, insert, dropOpened, InjectorServer.open, hmem]

/-- Undisturbed, the io thread takes down a session it has lost with `remove`. -/
lemma loss_alone (hio : s.io = .idle) (q : DWORD) :
    (Mealy.run (step pid) s [.keep q, .forget, .erase]).server = s.server.remove q .lost := by
  simp only [Mealy.run_cons, Mealy.run_nil, step, keep, forget, erase, hio]
  rfl

/-! ## Fresh tokens -/

/-- The token of an injection that has succeeded is accepted, unless the process was retired or its
bootstrap evicted by a later loss. -/
def Outlives (pid : DWORD) (s : Bootstrapping) : Prop :=
  ∀ token, s.inject = .done token → s.server.injector.tokenMatches pid (some token) = true

/-- The process is not published while the io thread is about to forget its token, and no loss
evicts it between `publish` and `kept.drop`. -/
def Undisturbed (pid : DWORD) (s : Bootstrapping) : BootstrapAction → Prop
  | .publish _ => s.inject = .checked → s.io.stale ≠ some pid
  | .keep q => s.inject.underway = true → ¬ s.server.kept.Evicts q pid
  | _ => True

instance (s : Bootstrapping) : (action : BootstrapAction) → Decidable (s.Undisturbed pid action)
  | .publish _ => inferInstanceAs (Decidable (_ → _))
  | .keep _ => inferInstanceAs (Decidable (_ → _))
  | .check | .load _ | .drop | .retire _ | .insert _ _ | .dropOpened | .forget | .erase =>
    instDecidableTrue

/-- The token that an injection has made is recorded, and the io thread is not about to forget it.
-/
def Safe (pid : DWORD) (s : Bootstrapping) : Prop :=
  ∀ token, s.inject.token = some token →
    s.server.injector.tokens.lookup pid = some token ∧ s.io.stale ≠ some pid

/-- An injection that has lost its process has no token, and any other one the token it had. -/
lemma token_lose {inject : InjectThread} {token : Bytes} (h : inject.lose.token = some token) :
    inject.token = some token ∧ inject.underway = true := by
  cases inject with
  | published token' => exact ⟨h, rfl⟩
  | loaded token' => exact ⟨h, rfl⟩
  | _ => cases h

/-- A publication makes a token that is safe. -/
lemma Safe.publish (h : s.Safe pid) {host : InjectHost}
    (hcalm : s.Undisturbed pid (.publish host)) : (s.publish pid host).Safe pid := by
  unfold Bootstrapping.publish
  cases hinject : s.inject with
  | checked =>
    dsimp only
    split_ifs
    · intro token htoken
      cases hpublish : (s.server.injector.publish pid s.server.port host).2 with
      | none =>
        rw [hpublish] at htoken
        cases htoken
      | some token' =>
        rw [hpublish] at htoken
        obtain rfl := Option.some.inj htoken
        exact ⟨Injector.lookup_publish hpublish, hcalm hinject⟩
    · intro token htoken
      cases htoken
  | _ => exact h

/-- A load that succeeds keeps the token safe. -/
lemma Safe.load (h : s.Safe pid) (host : InjectHost) : (s.load pid host).Safe pid := by
  unfold Bootstrapping.load
  cases hinject : s.inject with
  | published token =>
    intro token' htoken
    cases hload : (s.server.injector.loadInto pid token host host.resident).2.1 with
    | false =>
      simp only [hload, Bool.false_eq_true, if_false] at htoken
      cases htoken
    | true =>
      simp only [hload, if_true] at htoken
      have hold := h token' (by rw [hinject]; exact htoken)
      simp only [Injector.loadInto_of_ok hload]
      exact hold
  | _ => exact h

/-- The end of an injection keeps the token safe. -/
lemma Safe.drop (h : s.Safe pid) : (s.drop pid).Safe pid := by
  unfold Bootstrapping.drop
  cases hinject : s.inject with
  | loaded token => exact fun token' htoken => h token' (by rw [hinject]; exact htoken)
  | _ => exact h

/-- Another process may be retired. -/
lemma Safe.retire (h : s.Safe pid) (q : DWORD) : (s.retire pid q).Safe pid := by
  unfold Bootstrapping.retire
  have hother (inject : InjectThread) (hinject : s.inject = inject)
      (hidle : inject.underway = false) :
      Safe pid { s with
        server := s.server.remove q .retired
        inject := if q = pid then inject.lose else inject } := by
    intro token htoken
    by_cases hq : q = pid
    · simp only [hq, if_true] at htoken
      rw [(token_lose htoken).2] at hidle
      cases hidle
    · simp only [hq, if_false] at htoken
      obtain ⟨hlookup, hstale⟩ := h token (hinject ▸ htoken)
      exact ⟨(Injector.lookup_forgetToken (Ne.symm hq)).trans hlookup, hstale⟩
  cases hinject : s.inject with
  | checked => exact h
  | published token => exact h
  | loaded token => exact h
  | idle => exact hother _ hinject rfl
  | done token => exact hother _ hinject rfl
  | failed => exact hother _ hinject rfl
  | ended => exact hother _ hinject rfl

/-- A loss that evicts the process comes after the injection. -/
lemma Safe.keep (h : s.Safe pid) {q : DWORD} (hcalm : s.Undisturbed pid (.keep q)) :
    (s.keep pid q).Safe pid := by
  unfold Bootstrapping.keep
  cases hio : s.io with
  | idle =>
    intro token htoken
    by_cases hstale : (s.server.kept.keep q).2 = some pid
    · simp only [hstale, if_true] at htoken
      exact absurd (KeptBootstraps.keep_evicts.mp hstale) (hcalm (token_lose htoken).2)
    · simp only [hstale, if_false] at htoken
      exact ⟨(h token htoken).1, hstale⟩
  | _ => exact h

/-- The token that is forgotten is not the safe one. -/
lemma Safe.forget (h : s.Safe pid) : s.forget.Safe pid := by
  unfold Bootstrapping.forget
  cases hio : s.io with
  | keeping q stale =>
    intro token htoken
    obtain ⟨hlookup, hstale⟩ := h token htoken
    rw [hio] at hstale
    refine ⟨?_, Option.some_ne_none pid ∘ Eq.symm⟩
    cases stale with
    | none => exact hlookup
    | some stale =>
      have hne : pid ≠ stale := fun heq => hstale (congrArg some heq.symm)
      exact (Injector.lookup_forgetToken hne).trans hlookup
  | _ => exact h

/-- What a step keeps safe, if it is undisturbed. -/
lemma Safe.step {action : BootstrapAction} (hcalm : s.Undisturbed pid action) (h : s.Safe pid) :
    (s.step pid action).1.Safe pid := by
  cases action with
  | check =>
    unfold Bootstrapping.step check
    cases hinject : s.inject with
    | idle =>
      dsimp only
      split_ifs <;> exact fun token htoken => by cases htoken
    | _ => exact h
  | publish host => exact h.publish hcalm
  | load host => exact h.load host
  | drop => exact h.drop
  | retire q => exact h.retire q
  | insert q session =>
    unfold Bootstrapping.step insert
    cases hio : s.io with
    | idle =>
      dsimp only
      split_ifs
      · exact h
      · exact fun token htoken => ⟨(h token htoken).1, Option.some_ne_none pid ∘ Eq.symm⟩
    | _ => exact h
  | dropOpened =>
    unfold Bootstrapping.step dropOpened
    cases hio : s.io with
    | opening q =>
      exact fun token htoken => ⟨(h token htoken).1, Option.some_ne_none pid ∘ Eq.symm⟩
    | _ => exact h
  | keep q => exact h.keep hcalm
  | forget => exact h.forget
  | erase =>
    unfold Bootstrapping.step erase
    cases hio : s.io with
    | erasing q =>
      exact fun token htoken => ⟨(h token htoken).1, Option.some_ne_none pid ∘ Eq.symm⟩
    | _ => exact h

/-- In every run in which the process is not published while its token is about to be forgotten, and
not evicted between `publish` and `kept.drop`, the token of a successful injection is accepted until
the process is retired, or lost and evicted later. -/
theorem outlives_of_undisturbed (pid : DWORD) (server : InjectorServer) (io : IoThread)
    (actions : List BootstrapAction)
    (h : Mealy.Along (step pid) (Undisturbed pid) { server, io } actions) :
    Outlives pid (Mealy.run (step pid) { server, io } actions) := by
  have hstart : Safe pid { server, io } := fun token htoken => by cases htoken
  have hsafe := Mealy.run_invariant_of (fun _ _ => Safe.step) hstart h
  intro token hdone
  exact Injector.tokenMatches_of_lookup (hsafe token (by rw [hdone]; rfl)).1

/-- The answers to an injection that succeeds. -/
def injectableHost : InjectHost :=
  { process := true, isWow64 := some false, resident := false, injectee := true
    random := some (Vector.replicate 8 9), mapping := true, view := true
    load := .exited (some 1) }

/-- With an empty record the token of an injection is accepted after a loss of another process. -/
theorem outlives_of_undisturbed_empty_record :
    Outlives 5 (Mealy.run (step 5) { server := { port := 40000 } }
      [.check, .publish injectableHost, .keep 6, .forget, .erase, .load injectableHost, .drop]) :=
  outlives_of_undisturbed 5 { port := 40000 } .idle _ (by decide)

/-- A loss that evicts a process costs it a token that was published before the loss, and one that
is published before the io thread has forgotten the old one. -/
lemma not_outlives_of_evicts (kept : KeptBootstraps) (injector : Injector) (pid q : DWORD)
    (hevicts : kept.Evicts q pid) :
    ¬ Outlives pid (Mealy.run (step pid) { server := { port := 40000, kept, injector } }
        [.check, .publish injectableHost, .keep q, .forget, .erase, .load injectableHost, .drop]) ∧
      ¬ Outlives pid (Mealy.run (step pid) { server := { port := 40000, kept, injector } }
        [.keep q, .check, .publish injectableHost, .load injectableHost, .drop, .forget,
          .erase]) := by
  have hport : (40000 : UInt16) ≠ noPort := by decide
  have hload : ¬ (1 : DWORD) = 0 := by decide
  rcases hkeep : kept.keep q with ⟨kept', stale⟩
  obtain rfl : stale = some pid := by
    rw [← KeptBootstraps.keep_evicts.mpr hevicts, hkeep]
  constructor
  · intro h
    have hlast := h (List.replicate portMappingTokenSize 9)
    simp [step, check, publish, keep, forget, erase, load, drop, hkeep, hport, hload,
      injectableHost, Injector.publish, Injector.loadInto, Injector.tokenMatches,
      Injector.forgetToken, PortMappingPayload.injectionToken, InjectThread.lose] at hlast
  · intro h
    have hlast := h (List.replicate portMappingTokenSize 9)
    simp [step, check, publish, keep, forget, erase, load, drop, hkeep, hport, hload,
      injectableHost, Injector.publish, Injector.loadInto, Injector.tokenMatches,
      Injector.forgetToken, PortMappingPayload.injectionToken, InjectThread.lose] at hlast

/-- Processes 3 to 4097. -/
def laterPids : List DWORD := (List.range 4095).map fun i => UInt32.ofNat (i + 3)

/-- The server of process 5 when processes 2 to 4097 were injected and have lost their sessions, in
this order. -/
def serverOfLost : InjectorServer :=
  { serverOf5 with
    kept := serverOf5.kept.keepAll (2 :: laterPids)
    injector := (2 :: laterPids).foldl
      (fun s pid => s.record pid { port := 40000, token := Vector.replicate 8 7 })
      serverOf5.injector }

/-- Process 2 is injected again while the session of process 5000 is lost.  Whether the loss is
recorded after `publish`, or before it and the token forgotten at the end, the injection succeeds
and its token is not accepted. -/
theorem not_outlives_full_record :
    ¬ Outlives 2 (Mealy.run (step 2) { server := serverOfLost }
        [.check, .publish injectableHost, .keep 5000, .forget, .erase, .load injectableHost,
          .drop]) ∧
      ¬ Outlives 2 (Mealy.run (step 2) { server := serverOfLost }
        [.keep 5000, .check, .publish injectableHost, .load injectableHost, .drop, .forget,
          .erase]) := by
  have hnodup : (5000 :: 2 :: laterPids).Nodup := by
    have hnumbers : 5000 :: 2 :: laterPids =
        (5000 :: 2 :: (List.range 4095).map (· + 3)).map UInt32.ofNat := by
      rw [List.map_cons, List.map_cons, List.map_map]
      rfl
    rw [hnumbers]
    refine nodup_map_ofNat ?_ fun n hn => ?_
    · rw [List.nodup_cons, List.nodup_cons]
      refine ⟨?_, ?_, List.nodup_range.map fun i j h => Nat.add_right_cancel h⟩
      · simp
      · simp
    · simp only [List.mem_cons, List.mem_map, List.mem_range] at hn
      omega
  have hlength : (2 :: laterPids).length = keptCap := by
    rw [List.length_cons, laterPids, List.length_map, List.length_range]
    rfl
  exact not_outlives_of_evicts _ _ 2 5000 (KeptBootstraps.evicts_keepAll hnodup hlength)

end Bootstrapping

end Encapsule
