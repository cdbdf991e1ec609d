import Encapsule.Foundation.Mealy
import Encapsule.Injector.Kept

/-!
# Un-injecting a process

`close` of the front end against the io thread that registers the session of the same process and
later loses its connection.  Both threads run `stop`, and the exchange of `opened_` lets one of them
take the session down: `close` retires the bootstrap of the process, the loss of the connection
keeps it.  The session is in the table before `opened_` says so, and so `close` can come too early
for the exchange, or too late (`uninject_iff`).
-/

namespace Encapsule

/-- Where the io thread is with the hello of a session. -/
inductive HelloThread where
  /-- The hello is read. -/
  | arrived
  /-- Its token was not accepted, and the session is over. -/
  | refused
  | admitted
  /-- After `clients.insert`. -/
  | inserted
  /-- After `kept.drop`. -/
  | dropped
  /-- `opened_` is stored. -/
  | serving
  /-- The reader has failed, and its `stop` takes the session down. -/
  | losing
  /-- After `kept.keep`, which gave back `stale`. -/
  | kept (stale : Option DWORD)
  /-- After `forget_token`. -/
  | forgotten
  | finished
  deriving DecidableEq

/-- Where the front end is in `close`. -/
inductive CloseThread where
  | called
  /-- After `clients.find`. -/
  | found
  /-- Its `stop` takes the session down. -/
  | retiring
  /-- After `kept.drop`. -/
  | dropped
  /-- After `forget_token`. -/
  | forgotten
  | returned (result : Bool)
  deriving DecidableEq

/-- The server and a session, with the two threads. -/
structure Uninjecting where
  server : InjectorServer
  opened : Bool := false
  hello : HelloThread := .arrived
  close : CloseThread := .called

/-- The thread that takes the next step. -/
inductive Racer where
  | hello
  | close
  deriving DecidableEq

namespace Uninjecting

variable (pid : DWORD) (token : Option Bytes) (session : SessionId)

/-- The next step of the io thread. -/
def helloStep (s : Uninjecting) : Uninjecting :=
  match s.hello with
  | .arrived =>
    if s.server.injector.tokenMatches pid token then { s with hello := .admitted }
    else { s with hello := .refused }
  | .refused => s
  | .admitted =>
    if pid ∈ s.server.clients then { s with opened := false, hello := .serving }
    else
      { s with
        server := { s.server with clients := s.server.clients.insert pid session }
        hello := .inserted }
  | .inserted =>
    { s with server := { s.server with kept := s.server.kept.drop pid }, hello := .dropped }
  | .dropped => { s with opened := true, hello := .serving }
  | .serving => { s with opened := false, hello := if s.opened then .losing else .finished }
  | .losing =>
    let (kept, stale) := s.server.kept.keep pid
    { s with server := { s.server with kept }, hello := .kept stale }
  | .kept stale =>
    { s with
      server := { s.server with
        injector := match stale with
          | none => s.server.injector
          | some stale => s.server.injector.forgetToken stale }
      hello := .forgotten }
  | .forgotten =>
    { s with
      server := { s.server with clients := s.server.clients.erase pid }
      hello := .finished }
  | .finished => s

/-- The next step of the front end. -/
def closeStep (s : Uninjecting) : Uninjecting :=
  match s.close with
  | .called => { s with close := if pid ∈ s.server.clients then .found else .returned false }
  | .found => { s with opened := false, close := if s.opened then .retiring else .returned true }
  | .retiring =>
    { s with server := { s.server with kept := s.server.kept.drop pid }, close := .dropped }
  | .dropped =>
    { s with
      server := { s.server with injector := s.server.injector.forgetToken pid }
      close := .forgotten }
  | .forgotten =>
    { s with
      server := { s.server with clients := s.server.clients.erase pid }
      close := .returned true }
  | .returned _ => s

/-- One step of one of the threads. -/
def step (s : Uninjecting) : Racer → Uninjecting × Unit
  | .hello => (s.helloStep pid token session, ())
  | .close => (s.closeStep pid, ())

/-! ## The threads alone -/

variable {pid token session} {s : Uninjecting}

/-- Undisturbed, the io thread registers a session with `open`. -/
lemma hello_alone (server : InjectorServer) (hnew : pid ∉ server.clients)
    (htoken : server.injector.tokenMatches pid token = true) :
    Mealy.run (step pid token session) { server } [.hello, .hello, .hello, .hello] =
      { server := (server.open pid session).1, opened := (server.open pid session).2
        hello := .serving } := by
  simp [step, helloStep, InjectorServer.open, htoken, hnew]

/-- Undisturbed, the io thread takes down the session it has lost with `remove`. -/
lemma loss_alone (hhello : s.hello = .serving) (hopened : s.opened = true) :
    Mealy.run (step pid token session) s [.hello, .hello, .hello, .hello] =
      { s with server := s.server.remove pid .lost, opened := false, hello := .finished } := by
  simp only [Mealy.run_cons, Mealy.run_nil, step, helloStep, hhello, hopened, if_true]
  rfl

/-- Undisturbed, the front end takes down the session with `remove`. -/
lemma close_alone (hclose : s.close = .found) (hopened : s.opened = true) :
    Mealy.run (step pid token session) s [.close, .close, .close, .close] =
      { s with server := s.server.remove pid .retired, opened := false
               close := .returned true } := by
  simp only [Mealy.run_cons, Mealy.run_nil, step, closeStep, hclose, hopened, if_true]
  rfl

/-! ## The exchange of the front end -/

/-- If the step is the exchange of the front end, the session is registered and not lost. -/
def InTime (s : Uninjecting) (racer : Racer) : Prop :=
  racer = .close → s.close = .found → s.opened = true

instance (s : Uninjecting) (racer : Racer) : Decidable (s.InTime racer) :=
  inferInstanceAs (Decidable (_ → _ → _))

/-- What is known of a session while `close` has not reached its exchange. -/
def Early (pid : DWORD) (s : Uninjecting) : Prop :=
  match s.hello with
  | .arrived | .admitted | .refused =>
    s.opened = false ∧ pid ∉ s.server.clients ∧ s.close = .called
  | .inserted | .dropped | .losing => s.opened = false
  | .serving => s.opened = true
  | .kept _ | .forgotten | .finished => s.opened = false ∧ pid ∈ s.server.kept.node

/-- What is known of a session that `close` takes down. -/
def Retiring (pid : DWORD) (s : Uninjecting) : Prop :=
  s.opened = false ∧ (s.hello = .serving ∨ s.hello = .finished) ∧
    match s.close with
    | .called | .found | .returned false => False
    | .retiring => True
    | .dropped => ¬ s.server.kept.Remembers pid
    | .forgotten => ¬ s.server.kept.Remembers pid ∧ s.server.injector.tokens.lookup pid = none
    | .returned true =>
      ¬ s.server.kept.Remembers pid ∧ s.server.injector.tokens.lookup pid = none ∧
        pid ∉ s.server.clients

/-- What is known of a session if the exchange of `close` came before it was registered, or after
it was lost. -/
def Missed (pid : DWORD) (s : Uninjecting) : Prop :=
  s.close = .returned true ∧
    match s.hello with
    | .arrived | .admitted | .refused => False
    | .inserted | .dropped | .losing => True
    | .serving => s.opened = true
    | .kept _ | .forgotten | .finished => pid ∈ s.server.kept.node

/-- The record is valid, and `close` is before its exchange, has found nothing, or takes the session
down. -/
structure Sound (pid : DWORD) (s : Uninjecting) : Prop where
  valid : s.server.kept.Valid
  stage : ((s.close = .called ∨ s.close = .found) ∧ s.Early pid) ∨ s.close = .returned false ∨
    s.Retiring pid

/-- No step makes the record invalid. -/
lemma valid_step (h : s.server.kept.Valid) (racer : Racer) :
    (s.step pid token session racer).1.server.kept.Valid := by
  cases racer with
  | hello =>
    unfold step helloStep
    cases s.hello with
    | arrived => split_ifs <;> exact h
    | refused => exact h
    | admitted => split_ifs <;> exact h
    | inserted => exact h.drop pid
    | dropped => exact h
    | serving => exact h
    | losing => exact h.keep pid
    | kept stale => exact h
    | forgotten => exact h
    | finished => exact h
  | close =>
    unfold step closeStep
    cases s.close with
    | called => exact h
    | found => exact h
    | retiring => exact h.drop pid
    | dropped => exact h
    | forgotten => exact h
    | returned result => exact h

/-- The io thread does not touch the stage of the front end. -/
lemma helloStep_close (s : Uninjecting) : (s.helloStep pid token session).close = s.close := by
  unfold helloStep
  cases s.hello with
  | arrived => split_ifs <;> rfl
  | admitted => split_ifs <;> rfl
  | _ => rfl

/-- Once `close` has returned the front end does nothing more. -/
lemma closeStep_returned {result : Bool} (h : s.close = .returned result) :
    s.closeStep pid = s := by
  unfold closeStep
  simp only [h]

/-- A session before the exchange of `close`, after a step of the io thread. -/
lemma Early.hello (hvalid : s.server.kept.Valid) (h : s.Early pid) :
    (s.helloStep pid token session).Early pid := by
  unfold helloStep
  unfold Early at h
  cases hhello : s.hello with
  | arrived =>
    rw [hhello] at h
    split_ifs <;> exact h
  | refused =>
    unfold Early
    rw [hhello] at h ⊢
    exact h
  | admitted =>
    rw [hhello] at h
    rw [if_neg h.2.1]
    exact h.1
  | inserted =>
    rw [hhello] at h
    exact h
  | dropped => rfl
  | serving =>
    rw [hhello] at h
    simp only [h, if_true]
    rfl
  | losing =>
    rw [hhello] at h
    exact ⟨h, hvalid.mem_keep pid⟩
  | kept stale =>
    rw [hhello] at h
    exact h
  | forgotten =>
    rw [hhello] at h
    exact h
  | finished =>
    unfold Early
    rw [hhello] at h ⊢
    exact h

/-- A session that was missed, after a step of the io thread. -/
lemma Missed.hello (hvalid : s.server.kept.Valid) (h : s.Missed pid) :
    (s.helloStep pid token session).Missed pid := by
  obtain ⟨hclose, h⟩ := h
  refine ⟨s.helloStep_close.trans hclose, ?_⟩
  unfold helloStep
  cases hhello : s.hello with
  | arrived => simp only [hhello] at h
  | refused => simp only [hhello] at h
  | admitted => simp only [hhello] at h
  | inserted => trivial
  | dropped => rfl
  | serving =>
    simp only [hhello] at h
    simp only [h, if_true]
  | losing => exact hvalid.mem_keep pid
  | kept stale =>
    simp only [hhello] at h
    exact h
  | forgotten =>
    simp only [hhello] at h
    exact h
  | finished =>
    simp only [hhello] at h ⊢
    exact h

/-- A session that `close` takes down, after a step of the io thread. -/
lemma Retiring.hello (h : s.Retiring pid) : (s.helloStep pid token session).Retiring pid := by
  obtain ⟨hopened, hhello, hclose⟩ := h
  unfold helloStep
  rcases hhello with hhello | hhello
  · simp only [hhello, hopened, Bool.false_eq_true, if_false]
    exact ⟨rfl, Or.inr rfl, hclose⟩
  · simp only [hhello]
    exact ⟨hopened, Or.inr hhello, hclose⟩

/-- A session that `close` takes down, after a step of the front end. -/
lemma Retiring.close (hvalid : s.server.kept.Valid) (h : s.Retiring pid) :
    (s.closeStep pid).Retiring pid := by
  obtain ⟨hopened, hhello, h⟩ := h
  unfold closeStep
  cases hclose : s.close with
  | called => simp only [hclose] at h
  | found => simp only [hclose] at h
  | retiring => exact ⟨hopened, hhello, hvalid.not_remembers_drop pid⟩
  | dropped =>
    simp only [hclose] at h
    exact ⟨hopened, hhello, h, AList.lookup_erase _ _⟩
  | forgotten =>
    simp only [hclose] at h
    exact ⟨hopened, hhello, h.1, h.2, fun hmem => (AList.mem_erase.mp hmem).1 rfl⟩
  | returned result => exact ⟨hopened, hhello, h⟩

/-- A session that is found is in the table. -/
lemma Early.found (h : s.Early pid) (hmem : pid ∈ s.server.clients) :
    ({ s with close := .found } : Uninjecting).Early pid := by
  unfold Early at h ⊢
  cases hhello : s.hello with
  | arrived => exact absurd hmem (by simp only [hhello] at h; exact h.2.1)
  | refused => exact absurd hmem (by simp only [hhello] at h; exact h.2.1)
  | admitted => exact absurd hmem (by simp only [hhello] at h; exact h.2.1)
  | _ => simpa only [hhello] using h

/-- A session whose `opened_` is set is registered. -/
lemma Early.serving (h : s.Early pid) (hopened : s.opened = true) : s.hello = .serving := by
  unfold Early at h
  cases hhello : s.hello with
  | serving => rfl
  | _ =>
    simp only [hhello, hopened, Bool.true_eq_false, false_and] at h

/-- A session that is found while `opened_` is not set is on its way to be registered, or lost. -/
lemma Early.missed (h : s.Early pid) (hclose : s.close = .found) (hopened : s.opened = false) :
    (s.closeStep pid).Missed pid := by
  unfold closeStep
  simp only [hclose, hopened, Bool.false_eq_true, if_false]
  refine ⟨rfl, ?_⟩
  unfold Early at h
  cases hhello : s.hello with
  | arrived => simp only [hhello, hclose, reduceCtorEq, and_false] at h
  | refused => simp only [hhello, hclose, reduceCtorEq, and_false] at h
  | admitted => simp only [hhello, hclose, reduceCtorEq, and_false] at h
  | inserted => trivial
  | dropped => trivial
  | losing => trivial
  | serving => simp only [hhello, hopened, Bool.false_eq_true] at h
  | kept stale =>
    simp only [hhello] at h
    exact h.2
  | forgotten =>
    simp only [hhello] at h
    exact h.2
  | finished =>
    simp only [hhello] at h
    exact h.2

/-- What a step keeps sound, if the exchange of the front end is in time. -/
lemma Sound.step {racer : Racer} (hintime : s.InTime racer) (h : s.Sound pid) :
    (s.step pid token session racer).1.Sound pid := by
  refine ⟨valid_step h.valid racer, ?_⟩
  cases racer with
  | hello =>
    have hstage : (s.helloStep pid token session).close = s.close := s.helloStep_close
    rcases h.stage with ⟨hclose, hearly⟩ | hclose | hretiring
    · exact Or.inl ⟨hclose.imp hstage.trans hstage.trans, hearly.hello h.valid⟩
    · exact Or.inr (Or.inl (hstage.trans hclose))
    · exact Or.inr (Or.inr hretiring.hello)
  | close =>
    unfold Uninjecting.step
    rcases h.stage with ⟨hclose | hclose, hearly⟩ | hclose | hretiring
    · unfold closeStep
      simp only [hclose]
      split_ifs with hmem
      · exact Or.inl ⟨Or.inr rfl, hearly.found hmem⟩
      · exact Or.inr (Or.inl rfl)
    · have hopened := hintime rfl hclose
      unfold closeStep
      simp only [hclose, hopened, if_true]
      exact Or.inr (Or.inr ⟨rfl, Or.inl (hearly.serving hopened), trivial⟩)
    · rw [closeStep_returned hclose]
      exact Or.inr (Or.inl hclose)
    · exact Or.inr (Or.inr (hretiring.close h.valid))

/-- What a step keeps missed. -/
lemma Missed.step (hvalid : s.server.kept.Valid) (h : s.Missed pid) (racer : Racer) :
    (s.step pid token session racer).1.Missed pid := by
  cases racer with
  | hello => exact h.hello hvalid
  | close =>
    unfold Uninjecting.step
    rw [closeStep_returned h.1]
    exact h

/-- An exchange that is not in time misses the session. -/
lemma Sound.missed {racer : Racer} (hlate : ¬ s.InTime racer) (h : s.Sound pid) :
    (s.step pid token session racer).1.Missed pid := by
  obtain ⟨rfl, hfound, hopened⟩ : racer = .close ∧ s.close = .found ∧ s.opened = false := by
    simpa [InTime] using hlate
  have hearly : s.Early pid := by
    rcases h.stage with ⟨-, hearly⟩ | hclose | ⟨-, -, hclose⟩
    · exact hearly
    · simp [hfound] at hclose
    · simp only [hfound] at hclose
  exact hearly.missed hfound hopened

/-- A session is missed from the exchange on that is not in time. -/
lemma missed_run (h : s.Sound pid) {schedule : List Racer}
    (hlate : ¬ Mealy.Along (step pid token session) InTime s schedule) :
    (Mealy.run (step pid token session) s schedule).Missed pid := by
  have hrun := Mealy.run_of_not_along (P := Sound pid)
    (Q := fun s => s.server.kept.Valid ∧ s.Missed pid) (fun s racer => Sound.step)
    (fun s racer hlate h => ⟨valid_step h.valid racer, h.missed hlate⟩)
    (fun s racer h => ⟨valid_step h.1 racer, h.2.step h.1 racer⟩) h hlate
  exact hrun.2

/-! ## The end -/

/-- The process is un-injected: no token of it is accepted, and it is in no record. -/
def Uninjected (pid : DWORD) (server : InjectorServer) : Prop :=
  (∀ token, server.injector.tokenMatches pid token = false) ∧ pid ∉ server.clients ∧
    ¬ server.kept.Remembers pid

/-- The io thread has finished with the session. -/
def HelloThread.Over (hello : HelloThread) : Prop := hello = .refused ∨ hello = .finished

/-- Whatever the order of the two threads, once both have finished with the session and `close` has
returned true, the process is un-injected if and only if the exchange of `close` found the session
registered and not lost. -/
theorem uninject_iff (pid : DWORD) (token : Option Bytes) (session : SessionId)
    (server : InjectorServer) (hvalid : server.kept.Valid) (hnew : pid ∉ server.clients)
    (schedule : List Racer) :
    let s := Mealy.run (step pid token session) { server } schedule
    HelloThread.Over s.hello → s.close = .returned true →
      (Uninjected pid s.server ↔
        Mealy.Along (step pid token session) InTime { server } schedule) := by
  intro s hover hreturned
  have hstart : Sound pid { server } := ⟨hvalid, Or.inl ⟨Or.inl rfl, rfl, hnew, rfl⟩⟩
  constructor
  · intro huninjected
    by_contra halong
    -- the exchange that was not in time leaves the bootstrap of the process behind
    have hmissed : s.Missed pid := missed_run hstart halong
    obtain ⟨-, hmissed⟩ := hmissed
    rcases hover with hrefused | hfinished
    · simp only [hrefused] at hmissed
    · simp only [hfinished] at hmissed
      exact huninjected.2.2 (Or.inl hmissed)
  · intro halong
    have hsound : s.Sound pid := Mealy.run_invariant_of (fun _ _ => Sound.step) hstart halong
    rcases hsound.stage with ⟨hclose, -⟩ | hclose | ⟨-, -, hretired⟩
    · simp [hreturned] at hclose
    · simp [hreturned] at hclose
    · simp only [hreturned] at hretired
      obtain ⟨hkept, htoken, hclients⟩ := hretired
      refine ⟨fun token => ?_, hclients, hkept⟩
      cases token with
      | none => rfl
      | some got => simp only [Injector.tokenMatches, htoken]

/-- A process whose session is closed before its connection is lost is un-injected. -/
theorem uninject_iff_before_loss :
    let schedule : List Racer := List.replicate 4 .hello ++ [.close, .close, .hello] ++
      List.replicate 3 .close
    Uninjected 5 (Mealy.run (step 5 (some (List.replicate 8 7)) 0) { server := serverOf5 }
      schedule).server := by
  intro schedule
  have hrun := uninject_iff 5 (some (List.replicate 8 7)) 0 serverOf5 KeptBootstraps.valid_empty
    (by decide) schedule
  exact (hrun (Or.inr (by decide)) (by decide)).mpr (by decide)

/-- If the front end closes the session between `clients.insert` and the store to `opened_`, or
after the connection is lost, `close` returns true and the token of the process is still accepted.
-/
theorem not_uninjected_early_late :
    let early := Mealy.run (step 5 (some (List.replicate 8 7)) 0) { server := serverOf5 }
      (List.replicate 3 .hello ++ [.close, .close] ++ List.replicate 6 .hello)
    let late := Mealy.run (step 5 (some (List.replicate 8 7)) 0) { server := serverOf5 }
      (List.replicate 5 .hello ++ [.close, .close] ++ List.replicate 3 .hello)
    (early.hello = .finished ∧ early.close = .returned true ∧ ¬ Uninjected 5 early.server) ∧
      late.hello = .finished ∧ late.close = .returned true ∧ ¬ Uninjected 5 late.server := by
  intro early late
  have hearly : early.server.injector.tokenMatches 5 (some (List.replicate 8 7)) = true := by
    decide
  have hlate : late.server.injector.tokenMatches 5 (some (List.replicate 8 7)) = true := by
    decide
  refine ⟨⟨by decide, by decide, fun h => ?_⟩, by decide, by decide, fun h => ?_⟩
  · rw [h.1] at hearly
    cases hearly
  · rw [h.1] at hlate
    cases hlate

end Uninjecting

end Encapsule
