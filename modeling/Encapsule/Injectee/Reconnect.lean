import Mathlib.Algebra.BigOperators.Group.Finset.Basic
import Mathlib.Algebra.Order.BigOperators.Group.Finset
import Encapsule.Foundation.Mealy
import Encapsule.Injectee.Client

/-!
# Reconnecting

The part of `injectee_client` of `client.hpp` that decides when it connects: `begin_reconnect`,
`arm`, `attempt` and `give_up`, on the steady clock.  Any coroutine may notice a loss at any time.
How long an attempt takes, and how it ends, is up to the environment, and so is what the injector
does with a session that an attempt has opened.

An episode begins when a loss is noticed and ends when an attempt opens a session or the client
gives up.

* `Reconnection.step`: an event, and what the client does on it.
* `Reconnection.episode_shape`: the delays, the attempts and the end of an episode.
* `Reconnection.budget_bounds`: how late an attempt can be, if no session that an attempt opened is
  lost again.
-/

namespace Encapsule

/-- Milliseconds, in nanoseconds. -/
def milliseconds (n : ℕ) : ℕ := n * 1000000

/-- `kBackoffStart`. -/
def kBackoffStart : ℕ := milliseconds 1000

/-- `kBackoffCap`. -/
def kBackoffCap : ℕ := milliseconds 10000

/-- `kReconnectBudget`. -/
def kReconnectBudget : ℕ := milliseconds 60000

/-- The schedule of an `injectee_client`. -/
structure Reconnection where
  now : ℕ := 0
  backoff : ℕ := kBackoffStart
  deadline : ℕ := 0
  reconnecting : Bool := false
  /-- When the waits on the timer end whose handlers have not run yet. -/
  waits : List ℕ := []
  /-- How many `attempt`s are under way. -/
  attempts : ℕ := 0
  config : InjecteeConfig := {}
  deriving DecidableEq

/-- What happens to the schedule. -/
inductive ReconnectEvent where
  /-- Time passes.  A handler does not wait longer than the timer. -/
  | elapse (duration : ℕ)
  /-- A coroutine notices that the session is lost, or that there is none. -/
  | lose
  /-- The handler of a wait that has ended runs. -/
  | fire
  /-- `open_session` throws in an attempt. -/
  | refused
  /-- `open_session` returns in an attempt. -/
  | opened
  /-- A configuration arrives. -/
  | config (cfg : InjectorConfig)
  deriving DecidableEq

/-- What the client does on an event. -/
inductive ReconnectAct where
  | armed (delay : ℕ)
  | attempted (time : ℕ)
  | gaveUp (time : ℕ)
  deriving DecidableEq

namespace Reconnection

/-! ## The functions of the client -/

/-- The waits that can no longer be cancelled, since they have ended. -/
def ended (s : Reconnection) : List ℕ := s.waits.filter (· ≤ s.now)

/-- `arm`. -/
def arm (s : Reconnection) (delay : ℕ) : Reconnection × Option ReconnectAct :=
  ({ s with waits := s.ended ++ [s.now + delay] }, some (.armed delay))

/-- `begin_reconnect`. -/
def beginReconnect (s : Reconnection) : Reconnection × Option ReconnectAct :=
  if s.reconnecting then (s, none)
  else
    ({ s with
      reconnecting := true
      backoff := kBackoffStart
      deadline := s.now + kReconnectBudget } : Reconnection).arm kBackoffStart

/-- `stop`, as far as the schedule and the configuration go. -/
def stop (s : Reconnection) : Reconnection := { s with config := s.config.drop }

/-- `give_up`. -/
def giveUp (s : Reconnection) : Reconnection × Option ReconnectAct :=
  ({ s with waits := s.ended }, some (.gaveUp s.now))

/-- `attempt`, when its `open_session` throws. -/
def attemptFailed (s : Reconnection) : Reconnection × Option ReconnectAct :=
  if s.deadline ≤ s.now then s.giveUp
  else
    let backoff := min (s.backoff * 2) kBackoffCap
    ({ s with backoff } : Reconnection).arm backoff

/-- `attempt`, when its `open_session` returns. -/
def attemptOpened (s : Reconnection) : Reconnection :=
  { s with reconnecting := false, backoff := kBackoffStart }

/-- An event, and what the client does on it.  What is not possible changes nothing. -/
def step (s : Reconnection) : ReconnectEvent → Reconnection × Option ReconnectAct
  | .elapse duration =>
    if s.waits.all (s.now + duration ≤ ·) then ({ s with now := s.now + duration }, none)
    else (s, none)
  | .lose => s.stop.beginReconnect
  | .fire =>
    match s.ended with
    | [] => (s, none)
    | wait :: _ =>
      ({ s with waits := s.waits.erase wait, attempts := s.attempts + 1 },
        some (.attempted s.now))
  | .refused =>
    if s.attempts = 0 then (s, none)
    else ({ s with attempts := s.attempts - 1 } : Reconnection).attemptFailed
  | .opened =>
    if s.attempts = 0 then (s, none)
    else (({ s with attempts := s.attempts - 1 } : Reconnection).attemptOpened, none)
  | .config cfg => ({ s with config := .set cfg }, none)

/-- What a client does in a run. -/
def acts (s : Reconnection) (events : List ReconnectEvent) : List ReconnectAct :=
  (Mealy.log step s events).filterMap Prod.snd

/-- The delays that were armed. -/
def delays (acts : List ReconnectAct) : List ℕ :=
  acts.filterMap fun
    | .armed delay => some delay
    | _ => none

/-- When the attempts were begun. -/
def attemptTimes (acts : List ReconnectAct) : List ℕ :=
  acts.filterMap fun
    | .attempted time => some time
    | _ => none

@[simp] lemma delays_append (acts acts' : List ReconnectAct) :
    delays (acts ++ acts') = delays acts ++ delays acts' := List.filterMap_append

@[simp] lemma attemptTimes_append (acts acts' : List ReconnectAct) :
    attemptTimes (acts ++ acts') = attemptTimes acts ++ attemptTimes acts' :=
  List.filterMap_append

/-! ## Delays -/

/-- The delays of an episode, in order: they double up to the cap. -/
def delayAt (k : ℕ) : ℕ := min (milliseconds (1000 * 2 ^ k)) kBackoffCap

/-- How long a client that is refused at once waits for as many attempts. -/
def waited (n : ℕ) : ℕ := ∑ k ∈ Finset.range n, delayAt k

/-- The next delay is twice the one before it, or the cap. -/
lemma delayAt_succ (k : ℕ) : delayAt (k + 1) = min (delayAt k * 2) kBackoffCap := by
  unfold delayAt milliseconds kBackoffCap milliseconds
  rw [pow_succ]
  omega

lemma delayAt_le_cap (k : ℕ) : delayAt k ≤ kBackoffCap := min_le_right _ _

lemma delayAt_zero : delayAt 0 = kBackoffStart := by decide

lemma waited_succ (n : ℕ) : waited (n + 1) = waited n + delayAt n := Finset.sum_range_succ _ _

/-- Nine delays take longer than the budget. -/
lemma le_of_waited_lt {n : ℕ} (h : waited n < kReconnectBudget) : n ≤ 8 := by
  by_contra hmany
  have hmono : waited 9 ≤ waited n :=
    Finset.sum_le_sum_of_subset (Finset.range_subset_range.mpr (by omega))
  have hnine : kReconnectBudget ≤ waited 9 := by decide
  omega

/-! ## Episodes -/

variable {s : Reconnection} {past : List ReconnectAct} {begun n : ℕ} {event : ReconnectEvent}

/-- The latest time at which an attempt of an episode can begin. -/
def lastStart (begun : ℕ) : ℕ := begun + kReconnectBudget + kBackoffCap

/-- Where the client is in an episode in which `n + 1` delays were armed: it waits for the timer, or
an attempt is under way, or it has given up. -/
inductive Stage (begun n : ℕ) (s : Reconnection) : Prop where
  | waiting (wait : ℕ) (hwaits : s.waits = [wait]) (hattempts : s.attempts = 0)
    (hnow : s.now ≤ wait) (hdue : begun + waited (n + 1) ≤ wait) (hcap : wait ≤ lastStart begun)
  | attempting (hwaits : s.waits = []) (hattempts : s.attempts = 1)
    (hnow : begun + waited (n + 1) ≤ s.now)
  | parked (hwaits : s.waits = []) (hattempts : s.attempts = 0)
    (hnow : begun + kReconnectBudget ≤ s.now)

/-- The client is in the episode that began at the time `begun`, and what it has done in it. -/
structure Episode (begun n : ℕ) (past : List ReconnectAct) (s : Reconnection) : Prop where
  reconnecting : s.reconnecting = true
  deadline : s.deadline = begun + kReconnectBudget
  backoff : s.backoff = delayAt n
  few : n ≤ 8
  delays_eq : delays past = (List.range (n + 1)).map delayAt
  attempts_eq : (attemptTimes past).length + s.waits.length = n + 1
  soon : ∀ time ∈ attemptTimes past, time ≤ lastStart begun
  late : ∀ time, .gaveUp time ∈ past → begun + kReconnectBudget ≤ time
  stage : Stage begun n s

/-- The client is not reconnecting. -/
structure Idle (s : Reconnection) : Prop where
  reconnecting : s.reconnecting = false
  waits : s.waits = []
  attempts : s.attempts = 0

lemma idle_initial : Idle {} := ⟨rfl, rfl, rfl⟩

/-- The loss of a session begins an episode. -/
lemma Idle.lose (h : s.Idle) :
    Episode s.now 0 (s.step .lose).2.toList (s.step .lose).1 := by
  have hstep : s.step .lose =
      ({ s.stop with
          reconnecting := true
          backoff := kBackoffStart
          deadline := s.now + kReconnectBudget
          waits := [s.now + kBackoffStart] },
        some (.armed kBackoffStart)) := by
    simp [step, beginReconnect, stop, arm, ended, h.reconnecting, h.waits]
  rw [hstep]
  refine
    { reconnecting := rfl, deadline := rfl, backoff := delayAt_zero.symm, few := by omega
      delays_eq := rfl, attempts_eq := rfl, soon := by simp [attemptTimes], late := by simp
      stage := .waiting (s.now + kBackoffStart) rfl h.attempts (by dsimp only [stop]; omega) ?_ ?_ }
  · rw [waited_succ, delayAt_zero]
    exact le_rfl
  · have hle : kBackoffStart ≤ kReconnectBudget + kBackoffCap := by decide
    unfold lastStart
    omega

/-- Time passes in an episode. -/
lemma Stage.elapse {duration : ℕ} (h : Stage begun n s)
    (hwaits : s.waits.all (s.now + duration ≤ ·) = true) :
    Stage begun n { s with now := s.now + duration } := by
  cases h with
  | waiting wait hwait hattempts hnow hdue hcap =>
    have hreached : s.now + duration ≤ wait := by simpa [hwait] using hwaits
    exact .waiting wait hwait hattempts hreached hdue hcap
  | attempting hwait hattempts hnow => exact .attempting hwait hattempts (by dsimp only; omega)
  | parked hwait hattempts hnow => exact .parked hwait hattempts (by dsimp only; omega)

/-- The configuration says nothing about where the client is. -/
lemma Stage.config (h : Stage begun n s) (config : InjecteeConfig) :
    Stage begun n { s with config } := by
  cases h with
  | waiting wait hwait hattempts hnow hdue hcap =>
    exact .waiting wait hwait hattempts hnow hdue hcap
  | attempting hwait hattempts hnow => exact .attempting hwait hattempts hnow
  | parked hwait hattempts hnow => exact .parked hwait hattempts hnow

/-- The timer of an episode ends when it is due, and an attempt begins. -/
lemma Episode.fire (h : Episode begun n past s) :
    Episode begun n (past ++ (s.step .fire).2.toList) (s.step .fire).1 := by
  cases hended : s.ended with
  | nil =>
    have hstep : s.step .fire = (s, none) := by simp [step, hended]
    rw [hstep]
    simpa using h
  | cons wait rest =>
    have hmem : wait ∈ s.waits ∧ wait ≤ s.now := by
      have hmem : wait ∈ s.ended := by rw [hended]; exact List.mem_cons_self
      simpa [ended] using hmem
    have hstep : s.step .fire =
        ({ s with waits := s.waits.erase wait, attempts := s.attempts + 1 },
          some (.attempted s.now)) := by
      simp [step, hended]
    rw [hstep]
    cases hstage : h.stage with
    | waiting wait' hwaits hattempts hnow hdue hcap =>
      rw [hwaits, List.mem_singleton] at hmem
      obtain ⟨rfl, hreached⟩ := hmem
      have hnone : s.waits.erase wait = [] := by simp [hwaits]
      have hcount := h.attempts_eq
      rw [hwaits, List.length_singleton] at hcount
      refine { h with
        delays_eq := ?_, attempts_eq := ?_, soon := ?_, late := ?_, stage := ?_ }
      · simpa [delays] using h.delays_eq
      · simpa [attemptTimes, hnone] using hcount
      · intro time htime
        rw [attemptTimes_append, List.mem_append] at htime
        rcases htime with htime | htime
        · exact h.soon time htime
        · obtain rfl : time = s.now := by simpa [attemptTimes] using htime
          omega
      · intro time htime
        exact h.late time (by simpa using htime)
      · exact .attempting hnone (by simp [hattempts]) (hdue.trans hreached)
    | attempting hwaits => simp [hwaits] at hmem
    | parked hwaits => simp [hwaits] at hmem

/-- An attempt of an episode is under way in one stage only. -/
lemma Stage.of_attempts_ne_zero (h : Stage begun n s) (hattempts : s.attempts ≠ 0) :
    s.waits = [] ∧ s.attempts = 1 ∧ begun + waited (n + 1) ≤ s.now := by
  cases h with
  | waiting _ _ hnone => exact absurd hnone hattempts
  | attempting hwaits hone hnow => exact ⟨hwaits, hone, hnow⟩
  | parked _ hnone => exact absurd hnone hattempts

/-- Until the deadline the client waits for the timer, or an attempt is under way. -/
lemma Stage.outstanding (h : Stage begun n s) (hearly : s.now < begun + kReconnectBudget) :
    s.waits.length + s.attempts = 1 := by
  cases h with
  | waiting wait hwaits hattempts => rw [hwaits, hattempts, List.length_singleton]
  | attempting hwaits hattempts => rw [hwaits, hattempts, List.length_nil]
  | parked _ _ hnow => exact absurd hnow (Nat.not_le.mpr hearly)

/-- The client gives up behind the deadline. -/
lemma Episode.gaveUp (h : Episode begun n past s) (hwaits : s.waits = [])
    (hlate : s.deadline ≤ s.now) :
    Episode begun n (past ++ [.gaveUp s.now]) { s with attempts := 0, waits := [] } := by
  have hcount := h.attempts_eq
  rw [hwaits, List.length_nil, Nat.add_zero] at hcount
  have hover : begun + kReconnectBudget ≤ s.now := h.deadline ▸ hlate
  refine { h with
    delays_eq := ?_, attempts_eq := ?_, soon := ?_, late := ?_, stage := .parked rfl rfl hover }
  · simpa [delays] using h.delays_eq
  · simpa [attemptTimes] using hcount
  · intro time htime
    exact h.soon time (by simpa [attemptTimes] using htime)
  · intro time htime
    rw [List.mem_append] at htime
    rcases htime with htime | htime
    · exact h.late time htime
    · obtain rfl : time = s.now := by simpa using htime
      exact hover

/-- In front of the deadline the client arms the next delay. -/
lemma Episode.armed (h : Episode begun n past s) (hwaits : s.waits = [])
    (hnow : begun + waited (n + 1) ≤ s.now) (hearly : s.now < s.deadline) :
    Episode begun (n + 1) (past ++ [.armed (delayAt (n + 1))])
      { s with
        attempts := 0
        backoff := delayAt (n + 1)
        waits := [s.now + delayAt (n + 1)] } := by
  have hcount := h.attempts_eq
  rw [hwaits, List.length_nil, Nat.add_zero] at hcount
  rw [h.deadline] at hearly
  have hcap := delayAt_le_cap (n + 1)
  refine { h with
    backoff := rfl, few := ?_, delays_eq := ?_, attempts_eq := ?_, soon := ?_, late := ?_
    stage := .waiting _ rfl rfl ?_ ?_ ?_ }
  · exact le_of_waited_lt (by omega)
  · rw [delays_append, h.delays_eq, List.range_succ (n := n + 1), List.map_append]
    rfl
  · simpa [attemptTimes] using hcount
  · intro time htime
    exact h.soon time (by simpa [attemptTimes] using htime)
  · intro time htime
    exact h.late time (by simpa using htime)
  · exact Nat.le_add_right _ _
  · rw [waited_succ]
    omega
  · unfold lastStart
    omega

/-- An attempt that fails is followed by the next delay, or it is the last one. -/
lemma Episode.refused (h : Episode begun n past s) :
    ∃ n', Episode begun n' (past ++ (s.step .refused).2.toList) (s.step .refused).1 := by
  by_cases hattempts : s.attempts = 0
  · have hstep : s.step .refused = (s, none) := if_pos hattempts
    rw [hstep, Option.toList_none, List.append_nil]
    exact ⟨n, h⟩
  · obtain ⟨hwaits, hone, hnow⟩ := h.stage.of_attempts_ne_zero hattempts
    by_cases hlate : s.deadline ≤ s.now
    · have hstep : s.step .refused =
          ({ s with attempts := 0, waits := [] }, some (.gaveUp s.now)) := by
        simp [step, attemptFailed, giveUp, ended, hone, hlate, hwaits]
      rw [hstep]
      exact ⟨n, h.gaveUp hwaits hlate⟩
    · have hbackoff : min (s.backoff * 2) kBackoffCap = delayAt (n + 1) := by
        rw [h.backoff, delayAt_succ]
      have hstep : s.step .refused =
          ({ s with
              attempts := 0
              backoff := delayAt (n + 1)
              waits := [s.now + delayAt (n + 1)] },
            some (.armed (delayAt (n + 1)))) := by
        simp [step, attemptFailed, arm, ended, hone, hlate, hwaits, hbackoff]
      rw [hstep]
      exact ⟨n + 1, h.armed hwaits hnow (Nat.lt_of_not_le hlate)⟩

/-- An episode goes on until an attempt opens a session. -/
lemma Episode.step (h : Episode begun n past s) (hevent : event ≠ .opened) :
    ∃ n', Episode begun n' (past ++ (s.step event).2.toList) (s.step event).1 := by
  cases event with
  | elapse duration =>
    refine ⟨n, ?_⟩
    by_cases hwaits : s.waits.all (s.now + duration ≤ ·) = true
    · have hstep : s.step (.elapse duration) = ({ s with now := s.now + duration }, none) :=
        if_pos hwaits
      rw [hstep, Option.toList_none, List.append_nil]
      exact { h with stage := h.stage.elapse hwaits }
    · have hstep : s.step (.elapse duration) = (s, none) := if_neg hwaits
      rw [hstep, Option.toList_none, List.append_nil]
      exact h
  | lose =>
    have hstep : s.step .lose = (s.stop, none) := if_pos h.reconnecting
    rw [hstep, Option.toList_none, List.append_nil]
    exact ⟨n, { h with stage := h.stage.config _ }⟩
  | fire => exact ⟨n, h.fire⟩
  | refused => exact h.refused
  | opened => exact absurd rfl hevent
  | config cfg =>
    have hstep : s.step (.config cfg) = ({ s with config := .set cfg }, none) := rfl
    rw [hstep, Option.toList_none, List.append_nil]
    exact ⟨n, { h with stage := h.stage.config _ }⟩

/-- The attempt that opens a session ends the episode. -/
lemma Episode.opened (h : Episode begun n past s) :
    s.step .opened = (s, none) ∨ (s.step .opened).1.Idle ∧ (s.step .opened).2 = none := by
  by_cases hattempts : s.attempts = 0
  · exact Or.inl (if_pos hattempts)
  · have hstep : s.step .opened =
        (({ s with attempts := s.attempts - 1 } : Reconnection).attemptOpened, none) :=
      if_neg hattempts
    rw [hstep]
    refine Or.inr ⟨?_, rfl⟩
    cases h.stage with
    | waiting _ _ hnone => exact absurd hnone hattempts
    | attempting hwaits hone => exact ⟨rfl, hwaits, by simp [attemptOpened, hone]⟩
    | parked _ hnone => exact absurd hnone hattempts

/-- A client that is not reconnecting does nothing until a loss is noticed. -/
lemma Idle.step (h : s.Idle) (hevent : event ≠ .lose) :
    (s.step event).1.Idle ∧ (s.step event).2 = none := by
  cases event with
  | elapse duration =>
    have hstep : s.step (.elapse duration) = ({ s with now := s.now + duration }, none) :=
      if_pos (by rw [h.waits]; rfl)
    rw [hstep]
    exact ⟨⟨h.reconnecting, h.waits, h.attempts⟩, rfl⟩
  | lose => exact absurd rfl hevent
  | fire =>
    have hstep : s.step .fire = (s, none) := by simp [Reconnection.step, ended, h.waits]
    rw [hstep]
    exact ⟨h, rfl⟩
  | refused =>
    have hstep : s.step .refused = (s, none) := if_pos h.attempts
    rw [hstep]
    exact ⟨h, rfl⟩
  | opened =>
    have hstep : s.step .opened = (s, none) := if_pos h.attempts
    rw [hstep]
    exact ⟨h, rfl⟩
  | config cfg => exact ⟨⟨h.reconnecting, h.waits, h.attempts⟩, rfl⟩

/-! ## Runs -/

/-- The client is not reconnecting, or it is in an episode. -/
def Scheduled (s : Reconnection) : Prop := s.Idle ∨ ∃ begun n past, Episode begun n past s

/-- Every event keeps the schedule. -/
lemma Scheduled.step (h : s.Scheduled) (event : ReconnectEvent) : (s.step event).1.Scheduled := by
  rcases h with h | ⟨begun, n, past, h⟩
  · by_cases hevent : event = .lose
    · subst hevent
      exact Or.inr ⟨_, _, _, h.lose⟩
    · exact Or.inl (h.step hevent).1
  · by_cases hevent : event = .opened
    · subst hevent
      rcases h.opened with hstep | ⟨hidle, -⟩
      · rw [hstep]
        exact Or.inr ⟨begun, n, past, h⟩
      · exact Or.inl hidle
    · obtain ⟨n', h'⟩ := h.step hevent
      exact Or.inr ⟨begun, n', _, h'⟩

/-- Every client keeps to the schedule. -/
lemma scheduled_run (events : List ReconnectEvent) : (Mealy.run step {} events).Scheduled :=
  Mealy.run_invariant (P := Scheduled) (fun _ event h => h.step event) (Or.inl idle_initial) events

/-- A client that keeps to the schedule waits for one thing at a time. -/
lemma Scheduled.one_outstanding (h : s.Scheduled) : s.waits.length + s.attempts ≤ 1 := by
  rcases h with h | ⟨begun, n, past, h⟩
  · simp [h.waits, h.attempts]
  · cases h.stage with
    | waiting wait hwaits hattempts => simp [hwaits, hattempts]
    | attempting hwaits hattempts => simp [hwaits, hattempts]
    | parked hwaits hattempts => simp [hwaits, hattempts]

/-- A client that keeps to the schedule and is not reconnecting waits for nothing. -/
lemma Scheduled.idle (h : s.Scheduled) (hup : s.reconnecting = false) : s.Idle := by
  rcases h with h | ⟨begun, n, past, h⟩
  · exact h
  · rw [h.reconnecting] at hup
    cases hup

/-- What a client does in a run that begins with a loss. -/
lemma acts_cons (s : Reconnection) (event : ReconnectEvent) (events : List ReconnectEvent) :
    s.acts (event :: events) =
      (s.step event).2.toList ++ (s.step event).1.acts events := by
  unfold acts
  rw [Mealy.log_cons, List.filterMap_cons]
  cases (s.step event).2 <;> rfl

/-- An episode lasts as long as no attempt opens a session. -/
lemma Episode.run (h : Episode begun n past s) {events : List ReconnectEvent}
    (hevents : .opened ∉ events) :
    ∃ n', Episode begun n' (past ++ s.acts events) (Mealy.run Reconnection.step s events) := by
  induction events generalizing n past s with
  | nil => exact ⟨n, by simpa [Reconnection.acts] using h⟩
  | cons event events ih =>
    rw [List.mem_cons, not_or] at hevents
    obtain ⟨n', h'⟩ := h.step (Ne.symm hevents.1)
    rw [acts_cons, ← List.append_assoc, Mealy.run_cons]
    exact ih h' hevents.2

/-- **The shape of an episode.** The client waits for one timer or one attempt at a time.  From the
loss of a session until an attempt opens one, `begin_reconnect` changes nothing, the delays double
from one second up to ten, there is an attempt after each delay, at most nine of them, and within
the first minute the client does not give up: it always waits for the timer or for an attempt. -/
theorem episode_shape :
    (∀ events, (Mealy.run step {} events).waits.length +
      (Mealy.run step {} events).attempts ≤ 1) ∧
    ∀ before after, (Mealy.run step {} before).reconnecting = false → .opened ∉ after →
      let s := Mealy.run step {} before
      let t := Mealy.run step s (.lose :: after)
      let acts := s.acts (.lose :: after)
      t.beginReconnect = (t, none) ∧
      delays acts = (List.range (delays acts).length).map (fun k =>
        min (milliseconds (1000 * 2 ^ k)) (milliseconds 10000)) ∧
      (attemptTimes acts).length + t.waits.length = (delays acts).length ∧
      (∀ time, .gaveUp time ∈ acts → s.now + milliseconds 60000 ≤ time) ∧
      (t.now < s.now + milliseconds 60000 → t.waits.length + t.attempts = 1) ∧
      (attemptTimes acts).length ≤ 9 := by
  refine ⟨fun events => (scheduled_run events).one_outstanding, ?_⟩
  intro before after hup hopened s t acts
  have hbegun : Episode s.now 0 (s.step .lose).2.toList (s.step .lose).1 :=
    ((scheduled_run before).idle hup).lose
  obtain ⟨n, h⟩ := hbegun.run hopened
  rw [← acts_cons] at h
  have hlength : (delays acts).length = n + 1 := by
    rw [show delays acts = _ from h.delays_eq, List.length_map, List.length_range]
  refine ⟨if_pos h.reconnecting, ?_, ?_, h.late, h.stage.outstanding, ?_⟩
  · rw [hlength]
    exact h.delays_eq
  · rw [hlength]
    exact h.attempts_eq
  · have hcount : (attemptTimes acts).length + t.waits.length = n + 1 := h.attempts_eq
    have hfew := h.few
    omega

/-- A client that is refused at once each time makes nine attempts. -/
theorem episode_shape_refused :
    let after : List ReconnectEvent :=
      [1000, 2000, 4000, 8000, 10000, 10000, 10000, 10000, 10000].flatMap fun delay =>
        [.elapse (milliseconds delay), .fire, .refused]
    let past := Reconnection.acts {} (.lose :: after)
    (attemptTimes past).length = 9 ∧
      ∀ time, .gaveUp time ∈ past → milliseconds 60000 ≤ time := by
  intro after past
  have hlate := (episode_shape.2 [] after rfl (by decide)).2.2.2.1
  refine ⟨by decide, fun time htime => ?_⟩
  have hbudget := hlate time htime
  rwa [show (Mealy.run step {} []).now = 0 from rfl, Nat.zero_add] at hbudget

/-! ## The budget of an outage -/

/-- A loss is noticed only while the client is reconnecting: no session that an attempt has opened
is lost again. -/
def NotLostAgain (s : Reconnection) (event : ReconnectEvent) : Prop :=
  event = .lose → s.reconnecting = true

instance (s : Reconnection) (event : ReconnectEvent) : Decidable (s.NotLostAgain event) :=
  inferInstanceAs (Decidable (_ → _))

/-- What the client has done in an outage that began at the time `begun`, unless a session that an
attempt has opened is lost again. -/
def InBudget (begun : ℕ) (past : List ReconnectAct) (s : Reconnection) : Prop :=
  (∃ n, Episode begun n past s) ∨
    s.Idle ∧ (attemptTimes past).length ≤ 9 ∧ ∀ time ∈ attemptTimes past, time ≤ lastStart begun

/-- There are at most nine attempts in an episode. -/
lemma Episode.length_attemptTimes_le (h : Episode begun n past s) :
    (attemptTimes past).length ≤ 9 := by
  have hcount := h.attempts_eq
  have hfew := h.few
  omega

/-- An outage stays in its budget with every event that does not lose another session. -/
lemma InBudget.step (h : InBudget begun past s) (hevent : s.NotLostAgain event) :
    InBudget begun (past ++ (s.step event).2.toList) (s.step event).1 := by
  rcases h with ⟨n, h⟩ | ⟨hidle, hfew, hsoon⟩
  · by_cases hopened : event = .opened
    · subst hopened
      rcases h.opened with hstep | ⟨hidle, hnothing⟩
      · rw [hstep, Option.toList_none, List.append_nil]
        exact Or.inl ⟨n, h⟩
      · rw [hnothing, Option.toList_none, List.append_nil]
        exact Or.inr ⟨hidle, h.length_attemptTimes_le, h.soon⟩
    · exact Or.inl (h.step hopened)
  · have hlose : event ≠ .lose := by
      rintro rfl
      have hreconnecting := hevent rfl
      rw [hidle.reconnecting] at hreconnecting
      cases hreconnecting
    obtain ⟨hidle', hnothing⟩ := hidle.step hlose
    rw [hnothing, Option.toList_none, List.append_nil]
    exact Or.inr ⟨hidle', hfew, hsoon⟩

/-- An outage in which no other session is lost stays in its budget. -/
lemma InBudget.run (h : InBudget begun past s) {events : List ReconnectEvent}
    (hevents : Mealy.Along Reconnection.step NotLostAgain s events) :
    InBudget begun (past ++ s.acts events) (Mealy.run Reconnection.step s events) := by
  induction events generalizing past s with
  | nil => simpa [Reconnection.acts] using h
  | cons event events ih =>
    rw [acts_cons, ← List.append_assoc, Mealy.run_cons]
    exact ih (h.step hevents.1) hevents.2

/-- **The budget of an outage.** A client that has lost its session begins at most nine attempts,
and none later than the budget and one longest delay after the loss, if no session that an attempt
has opened is lost again. -/
theorem budget_bounds (before after : List ReconnectEvent)
    (hup : (Mealy.run step {} before).reconnecting = false)
    (hafter : Mealy.Along step NotLostAgain
      ((Mealy.run step {} before).step .lose).1 after) :
    let s := Mealy.run step {} before
    let attempts := attemptTimes (s.acts (.lose :: after))
    attempts.length ≤ 9 ∧ ∀ time ∈ attempts, time ≤ s.now + kReconnectBudget + kBackoffCap := by
  intro s attempts
  have hbegun : InBudget s.now (s.step .lose).2.toList (s.step .lose).1 :=
    Or.inl ⟨0, ((scheduled_run before).idle hup).lose⟩
  have h := hbegun.run hafter
  rw [← acts_cons] at h
  rcases h with ⟨n, h⟩ | ⟨-, hfew, hsoon⟩
  · exact ⟨h.length_attemptTimes_le, h.soon⟩
  · exact ⟨hfew, hsoon⟩

/-- A client whose only attempt opens a session that lasts. -/
theorem budget_bounds_back :
    let attempts := attemptTimes
      (Reconnection.acts {} [.lose, .elapse kBackoffStart, .fire, .opened, .elapse 7])
    attempts.length ≤ 9 ∧ ∀ time ∈ attempts, time ≤ 0 + kReconnectBudget + kBackoffCap :=
  budget_bounds [] [.elapse kBackoffStart, .fire, .opened, .elapse 7] rfl (by decide)

/-! ## Sessions that are closed at once -/

/-- A client whose session was lost at the time `now`. -/
def lostAt (now : ℕ) : Reconnection :=
  { now, deadline := now + kReconnectBudget, reconnecting := true, waits := [now + kBackoffStart] }

/-- An attempt opens a session, which is closed at once. -/
def closedAtOnce : List ReconnectEvent := [.elapse kBackoffStart, .fire, .opened, .lose]

/-- What a client does in two stretches of a run. -/
lemma acts_append (s : Reconnection) (events events' : List ReconnectEvent) :
    s.acts (events ++ events') = s.acts events ++ (Mealy.run step s events).acts events' := by
  unfold acts
  rw [Mealy.log_append, List.filterMap_append]

/-- The client waits for the timer, and an attempt begins. -/
lemma step_elapse_fire {delay : ℕ} (hwaits : s.waits = [s.now + delay]) :
    s.step (.elapse delay) = ({ s with now := s.now + delay }, none) ∧
      step { s with now := s.now + delay } .fire =
        ({ s with now := s.now + delay, waits := [], attempts := s.attempts + 1 },
          some (.attempted (s.now + delay))) := by
  constructor
  · simp [step, hwaits]
  · simp [step, ended, hwaits]

/-- A session that is closed at once leaves the client where it was, one second later. -/
lemma run_closedAtOnce (now : ℕ) :
    Mealy.run step (lostAt now) closedAtOnce = lostAt (now + kBackoffStart) ∧
      (lostAt now).acts closedAtOnce =
        [.attempted (now + kBackoffStart), .armed kBackoffStart] := by
  have helapse : (lostAt now).step (.elapse kBackoffStart) =
      ({ lostAt now with now := now + kBackoffStart }, none) := (step_elapse_fire rfl).1
  have hfire : step { lostAt now with now := now + kBackoffStart } .fire =
      ({ lostAt now with now := now + kBackoffStart, waits := [], attempts := 1 },
        some (.attempted (now + kBackoffStart))) :=
    (step_elapse_fire (s := lostAt now) rfl).2
  have hopened : step { lostAt now with
        now := now + kBackoffStart, waits := [], attempts := 1 } .opened =
      ({ now := now + kBackoffStart, deadline := now + kReconnectBudget }, none) := rfl
  have hlose : step { now := now + kBackoffStart, deadline := now + kReconnectBudget } .lose =
      (lostAt (now + kBackoffStart), some (.armed kBackoffStart)) := rfl
  constructor
  · rw [closedAtOnce, Mealy.run_cons, helapse, Mealy.run_cons, hfire, Mealy.run_cons, hopened,
      Mealy.run_cons, hlose, Mealy.run_nil]
  · rw [closedAtOnce, acts_cons, helapse, acts_cons, hfire, acts_cons, hopened, acts_cons, hlose]
    rfl

/-- With sessions that are closed at once the attempts go on. -/
lemma attempted_closedAtOnce (now rounds : ℕ) :
    now + (rounds + 1) * kBackoffStart ∈
      attemptTimes ((lostAt now).acts (List.replicate (rounds + 1) closedAtOnce).flatten) := by
  induction rounds generalizing now with
  | zero =>
    rw [List.replicate_one, List.flatten_singleton, (run_closedAtOnce now).2]
    simp [attemptTimes]
  | succ rounds ih =>
    obtain ⟨hrun, hacts⟩ := run_closedAtOnce now
    have hlater := ih (now + kBackoffStart)
    rw [List.replicate_succ, List.flatten_cons, acts_append, hrun, attemptTimes_append,
      List.mem_append]
    refine Or.inr ?_
    rwa [show now + (rounds + 1 + 1) * kBackoffStart =
      now + kBackoffStart + (rounds + 1) * kBackoffStart by ring]

/-- A client whose sessions are closed at once, as those with a token that is refused, makes an
attempt 71 seconds after the loss. -/
theorem not_budget_bounds_closedAtOnce :
    let after := (List.replicate 71 closedAtOnce).flatten
    (∀ cfg, .config cfg ∉ after) ∧
      ¬ ∀ time ∈ attemptTimes (Reconnection.acts {} (.lose :: after)),
        time ≤ 0 + kReconnectBudget + kBackoffCap := by
  intro after
  refine ⟨fun cfg hmem => ?_, fun hbound => ?_⟩
  · obtain ⟨round, hround, hcfg⟩ := List.mem_flatten.mp hmem
    rw [List.eq_of_mem_replicate hround] at hcfg
    simp [closedAtOnce] at hcfg
  · have hlost : (step {} .lose).1 = lostAt 0 := by decide
    have hmem : 0 + (70 + 1) * kBackoffStart ∈
        attemptTimes (Reconnection.acts {} (.lose :: after)) := by
      rw [acts_cons, attemptTimes_append, hlost]
      exact List.mem_append_right _ (attempted_closedAtOnce 0 70)
    have hlate := hbound _ hmem
    exact absurd hlate (by decide)

end Reconnection

end Encapsule
