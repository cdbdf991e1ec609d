import Encapsule.Foundation.Mutex
import Encapsule.Injector.ControlPlane

/-!
# `config_mutex`

The front end writes `config_` and the io thread reads it.  Both do it under `config_mutex`, and a
setter holds the mutex until it has posted what it has written to all sessions.  No thread waits for
anything while it holds the mutex.

* `ControlPlane.config_race_free`: no two threads are at the configuration at the same time, and
  what is posted is the configuration of the moment.
* `ControlPlane.never_stuck`: whatever the schedule, a thread can go on, or all have ended but for
  pushes that nobody has posted.
-/

namespace Encapsule

open Interaction

/-- `config_mutex`, with the configuration that it guards.  A broadcast posts under it. -/
def configMutex : Mutex PlaneCall ControlPlane InjectorConfig where
  lock := fun
    | .lock => true
    | _ => false
  unlock := fun
    | .unlock => true
    | _ => false
  touches := fun
    | .write _ | .config | .post _ _ => true
    | _ => false
  waits := fun
    | .begin _ _ => true
    | _ => false
  held := ControlPlane.held
  guarded s := s.server.config

/-- What is posted is the configuration. -/
def PostsCurrent (cfg : InjectorConfig) : PlaneCall → Prop
  | .post _ posted => posted = cfg
  | _ => True

/-- The sections do to the mutex and to the configuration what their kinds say. -/
lemma lawful_configMutex : configMutex.Lawful ControlPlane.exec where
  locked c s x s' hlock hexec := by
    cases c with
    | lock =>
      dsimp only [ControlPlane.exec] at hexec
      split_ifs at hexec with hheld
      obtain ⟨-, rfl⟩ := Prod.mk.inj (Option.some.inj hexec)
      exact ⟨Bool.eq_false_iff.mpr hheld, rfl, rfl⟩
    | _ => cases hlock
  unlocked c s x s' hunlock hexec := by
    cases c with
    | unlock =>
      obtain ⟨-, rfl⟩ := Prod.mk.inj (Option.some.inj hexec)
      exact ⟨rfl, rfl⟩
    | _ => cases hunlock
  other c s x s' hlock hunlock hexec := by
    cases c with
    | lock => cases hlock
    | unlock => cases hunlock
    | write call =>
      obtain ⟨-, rfl⟩ := Prod.mk.inj (Option.some.inj hexec)
      exact ⟨rfl, fun h => by cases h⟩
    | insert _ _ | begin _ _ =>
      dsimp only [ControlPlane.exec] at hexec
      split_ifs at hexec
      all_goals
        obtain ⟨-, rfl⟩ := Prod.mk.inj (Option.some.inj hexec)
        exact ⟨rfl, fun _ => rfl⟩
    | _ =>
      obtain ⟨-, rfl⟩ := Prod.mk.inj (Option.some.inj hexec)
      exact ⟨rfl, fun _ => rfl⟩
  goes c s hwaits hlock := by
    cases c with
    | lock =>
      have hfree : s.held = false := hlock rfl
      simp [ControlPlane.exec, hfree]
    | insert pid session =>
      dsimp only [ControlPlane.exec]
      split_ifs <;> rfl
    | begin _ _ => cases hwaits
    | _ => rfl

namespace Plane

variable {α : Type} {session : SessionId} {pid : DWORD}

/-- The section is no business of the mutex. -/
def Apart (c : PlaneCall) : Prop :=
  configMutex.touches c = false ∧ configMutex.unlock c = false ∧ configMutex.lock c = false

/-- The program stays away from the mutex. -/
abbrev StaysApart (p : Plane α) : Prop := p.Guarantees (fun _ => True) Apart fun _ => True

/-- The program keeps the discipline of the mutex. -/
abbrev KeepsMutex (p : Plane α) : Prop :=
  configMutex.Leaves ControlPlane.exec PostsCurrent none p

/-- Bookkeeping stays away from the mutex. -/
lemma apart_of_bookkeeping {p : Plane α} (hp : Bookkeeps p) : StaysApart p := by
  refine hp.mono (fun _ _ => trivial) (fun c hc => ?_) fun _ _ => trivial
  cases c with
  | lock | unlock | write _ | config | post _ _ => exact hc.elim
  | _ => exact ⟨rfl, rfl, rfl⟩

lemma apart_step {c : PlaneCall} {f : c.Answer → Plane α} (hc : Apart c)
    (hrest : ∀ x, StaysApart (f x)) : StaysApart ((atomic c).bind f) := ⟨hc, fun x _ => hrest x⟩

lemma apart_last {c : PlaneCall} (hc : Apart c) : StaysApart (atomic c) := ⟨hc, fun _ _ => trivial⟩

/-- A registration stays away from the mutex. -/
lemma apart_open : StaysApart («open» pid session) := by
  refine apart_step ⟨rfl, rfl, rfl⟩ fun inserted => ?_
  cases inserted with
  | false => trivial
  | true => exact apart_step ⟨rfl, rfl, rfl⟩ fun _ => trivial

/-- So does the end of a session. -/
lemma apart_stop {ending : SessionEnd} : StaysApart (stop session ending) := by
  refine apart_step ⟨rfl, rfl, rfl⟩ fun _ => apart_step ⟨rfl, rfl, rfl⟩ fun taken => ?_
  cases taken with
  | false => trivial
  | true =>
    refine apart_step ⟨rfl, rfl, rfl⟩ fun pid => ?_
    refine Prog.guarantees_bind (apart_of_bookkeeping bookkeeps_remove) fun _ _ => ?_
    exact apart_step ⟨rfl, rfl, rfl⟩ fun _ => apart_last ⟨rfl, rfl, rfl⟩

/-- And the answer to a hello, once the configuration is read. -/
lemma apart_sendConfig {cfg : InjectorConfig} {written : Bool} :
    StaysApart (sendConfig session cfg written) := by
  refine apart_step ⟨rfl, rfl, rfl⟩ fun sent => ?_
  cases sent with
  | false => trivial
  | true => exact apart_step ⟨rfl, rfl, rfl⟩ fun _ => apart_last ⟨rfl, rfl, rfl⟩

lemma StaysApart.keeps {p : Plane α} (hp : StaysApart p) : KeepsMutex p :=
  Mutex.leaves_of_guarantees hp

/-- The configuration is read under the mutex. -/
lemma keepsMutex_getConfig : KeepsMutex getConfig := by
  refine ⟨rfl, rfl, fun _ => ⟨fun _ cfg => ?_, fun h => by cases h⟩⟩
  refine ⟨rfl, rfl, trivial, fun s read s' _ _ => ?_⟩
  exact ⟨rfl, rfl, trivial, fun _ _ _ _ _ => rfl⟩

/-- A broadcast posts under the mutex, and leaves the configuration alone. -/
lemma keepsMutex_postAll {cfg : InjectorConfig} (sessions : List SessionId) :
    configMutex.Disciplined ControlPlane.exec PostsCurrent (fun inside _ => inside = some cfg)
      (some cfg) (postAll cfg sessions) := by
  induction sessions with
  | nil => exact rfl
  | cons session sessions ih =>
    refine ⟨rfl, rfl, rfl, fun s _ s' hs hexec => ?_⟩
    obtain ⟨-, rfl⟩ := Prod.mk.inj (Option.some.inj hexec)
    have hsame : configMutex.guarded { s with posted := s.posted ++ [(session, cfg)] } = cfg := hs
    rw [hsame]
    exact ih

/-- A setter writes, copies and posts under the mutex. -/
lemma keepsMutex_set {call : ConfigSetter} : KeepsMutex (set call) := by
  refine ⟨rfl, rfl, fun _ => ⟨fun _ cfg => ?_, fun h => by cases h⟩⟩
  refine ⟨rfl, rfl, trivial, fun s₁ _ s₁' _ _ => ?_⟩
  refine ⟨rfl, rfl, trivial, fun s₂ copied s₂' hs₂ hexec => ?_⟩
  obtain ⟨hcopied, rfl⟩ := Prod.mk.inj (Option.some.inj hexec)
  refine ⟨rfl, rfl, trivial, fun s₃ sessions s₃' hs₃ hexec => ?_⟩
  obtain ⟨-, rfl⟩ := Prod.mk.inj (Option.some.inj hexec)
  have hsame : configMutex.guarded s₃ = copied := hs₃.trans hcopied
  rw [hsame]
  refine Mutex.disciplined_bind (keepsMutex_postAll sessions) fun inside _ hinside => ?_
  rw [hinside]
  exact ⟨rfl, rfl, trivial, fun _ _ _ _ _ => rfl⟩

/-- An accepted hello reads the configuration under the mutex, and sends it after. -/
lemma keepsMutex_greet {host : MessageHost} : KeepsMutex (greet session host pid) := by
  refine Mutex.disciplined_bind (p := atomic (.storePid session pid))
    (StaysApart.keeps (apart_last ⟨rfl, rfl, rfl⟩)) fun inside _ hinside => ?_
  rw [hinside]
  refine Mutex.disciplined_bind apart_open.keeps fun inside opened hinside => ?_
  rw [hinside]
  refine Mutex.disciplined_bind (p := atomic (.storeOpened session opened))
    (StaysApart.keeps (apart_last ⟨rfl, rfl, rfl⟩)) fun inside _ hinside => ?_
  rw [hinside]
  refine Mutex.disciplined_bind keepsMutex_getConfig fun inside cfg hinside => ?_
  rw [hinside]
  refine StaysApart.keeps ?_
  exact Prog.guarantees_bind (apart_of_bookkeeping bookkeeps_injectAll) fun _ _ => apart_sendConfig

/-- A message is handled with discipline. -/
lemma keepsMutex_process {host : MessageHost} {msg : InjecteeMessage} :
    KeepsMutex (process session host msg) := by
  unfold process
  cases compareMessage "pid" msg.opcode msg.pid with
  | some v =>
    refine Mutex.disciplined_bind (p := atomic (.tokenMatches session v msg.token))
      (StaysApart.keeps (apart_last ⟨rfl, rfl, rfl⟩)) fun inside accepted hinside => ?_
    rw [hinside]
    cases accepted with
    | true => exact keepsMutex_greet
    | false => exact StaysApart.keeps (apart_step ⟨rfl, rfl, rfl⟩ fun _ => apart_stop)
  | none =>
    cases compareMessage "connect" msg.opcode msg.connect with
    | some report => exact StaysApart.keeps (apart_last ⟨rfl, rfl, rfl⟩)
    | none =>
      cases compareMessage "subpid" msg.opcode msg.subpid with
      | none => exact rfl
      | some v =>
        exact StaysApart.keeps (Prog.guarantees_bind (apart_of_bookkeeping bookkeeps_inject)
          fun _ _ => apart_last ⟨rfl, rfl, rfl⟩)

/-- Every thread keeps the discipline of the mutex. -/
lemma keepsMutex_body (thread : PlaneThread) : KeepsMutex thread.body := by
  cases thread with
  | setPort port => exact StaysApart.keeps (apart_last ⟨rfl, rfl, rfl⟩)
  | set call => exact keepsMutex_set
  | message session host msg => exact keepsMutex_process
  | lost session => exact apart_stop.keeps
  | inject pid host =>
    exact StaysApart.keeps (Prog.guarantees_bind (apart_of_bookkeeping bookkeeps_inject)
      fun _ _ => trivial)
  | push session cfg written =>
    exact StaysApart.keeps (apart_step ⟨rfl, rfl, rfl⟩ fun _ => apart_step ⟨rfl, rfl, rfl⟩
      fun _ => trivial)
  | close pid =>
    have hclose : StaysApart (close pid) := by
      refine apart_step ⟨rfl, rfl, rfl⟩ fun client => ?_
      cases client with
      | none => trivial
      | some session => exact Prog.guarantees_bind apart_stop fun _ _ => trivial
    exact StaysApart.keeps (Prog.guarantees_bind hclose fun _ _ => trivial)

end Plane

namespace ControlPlane

/-- No two threads are about to touch the configuration, and what a thread is about to post is the
configuration as it is. -/
def RaceFree (s : ControlPlane.Pool) : Prop :=
  (∀ (i j : ℕ) (c d : PlaneCall) (k : c.Answer → Plane Unit) (l : d.Answer → Plane Unit),
      s.threads[i]? = some (.call c k) → s.threads[j]? = some (.call d l) →
      configMutex.touches c = true → configMutex.touches d = true → i = j) ∧
    ∀ (i : ℕ) (session : SessionId) (cfg : InjectorConfig) (k : Unit → Plane Unit),
      s.threads[i]? = some (.call (.post session cfg) k) → cfg = s.state.server.config

/-- Some thread can carry out its next section, or all threads have ended but for pushes that wait
to be posted. -/
def NotStuck (s : ControlPlane.Pool) : Prop :=
  (∃ (i : ℕ) (c : PlaneCall) (k : c.Answer → Plane Unit),
      s.threads[i]? = some (.call c k) ∧ (exec c s.state).isSome) ∨
    ∀ p ∈ s.threads, p = .ret () ∨
      ∃ (session : SessionId) (cfg : InjectorConfig) (k : Unit → Plane Unit),
        p = .call (.begin session cfg) k ∧ (session, cfg) ∉ s.state.posted

/-- Every schedule respects the mutex. -/
lemma respected_after (server : InjectorServer) (schedule : List (Turn PlaneThread)) :
    configMutex.Respected exec PostsCurrent (after server schedule) := by
  have hinit : configMutex.Owned exec PostsCurrent none
      ({ state := { server } } : ControlPlane.Pool) := by
    refine ⟨rfl, fun i hi => ?_, fun i p hp => ?_⟩
    · simp at hi
    · simp at hp
  exact Mutex.run_respected lawful_configMutex ⟨none, hinit⟩ Plane.keepsMutex_body

/-- Whatever the front end and the io thread do, two threads never touch `config_` at once, and each
broadcast posts the configuration as it is. -/
theorem config_race_free (server : InjectorServer) (schedule : List (Turn PlaneThread)) :
    RaceFree (after server schedule) := by
  have hrespected := respected_after server schedule
  refine ⟨fun i j c d k l hi hj hc hd => hrespected.exclusive hi hj hc hd, ?_⟩
  exact fun i session cfg k hi => hrespected.admitted hi rfl

/-- Whatever the front end and the io thread do, they never wait for each other for ever. -/
theorem never_stuck (server : InjectorServer) (schedule : List (Turn PlaneThread)) :
    NotStuck (after server schedule) := by
  rcases (respected_after server schedule).progress lawful_configMutex with hgoes | hwaits
  · exact Or.inl hgoes
  by_cases hpush : ∃ p ∈ (after server schedule).threads, ∃ (session : SessionId)
      (cfg : InjectorConfig) (k : Unit → Plane Unit), p = .call (.begin session cfg) k ∧
        (session, cfg) ∈ (after server schedule).state.posted
  · obtain ⟨p, hp, session, cfg, k, rfl, hposted⟩ := hpush
    obtain ⟨i, hi⟩ := List.getElem?_of_mem hp
    refine Or.inl ⟨i, .begin session cfg, k, hi, ?_⟩
    dsimp only [exec]
    rw [if_pos hposted]
    rfl
  · refine Or.inr fun p hp => ?_
    rcases hwaits p hp with hended | ⟨c, k, rfl, hc⟩
    · exact Or.inl hended
    · cases c with
      | begin session cfg =>
        refine Or.inr ⟨session, cfg, k, rfl, fun hposted => hpush ?_⟩
        exact ⟨_, hp, session, cfg, k, rfl, hposted⟩
      | _ => cases hc

end ControlPlane

end Encapsule
