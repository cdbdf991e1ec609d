import Encapsule.Injectee.Reconnect
import Encapsule.Injectee.ReportClient

/-!
# The client on its clock

The coroutines of `injectee_client` keep to the schedule of `Reconnection`: of what is under way on
the io thread, `InjecteeClient.standing` counts what the schedule is about, and every step of a
client does to it what its events do to the schedule (`InjecteeClient.follows_step`).  So what is
proved about every run of the schedule holds of every run of a client whose attempts read the clock
(`TimedRun`).
-/

namespace Encapsule

/-! ## What is under way -/

/-- What operations and handlers belong to. -/
inductive Activity where
  /-- A `reader` or a `writer`. -/
  | coroutine
  | timer
  | openSession
  deriving DecidableEq

/-- What an operation belongs to. -/
def SocketOp.activity : SocketOp → Activity
  | .read => .coroutine
  | .write _ _ => .coroutine
  | .openSession _ => .openSession

/-- What a handler belongs to. -/
def Task.activity : Task → Option Activity
  | .send => none
  | .reader _ => some .coroutine
  | .writer _ _ => some .coroutine
  | .timer => some .timer
  | .openSession _ _ => some .openSession

@[simp] lemma SocketOp.activity_openSession (stage : OpenStage) :
    (SocketOp.openSession stage).activity = .openSession := rfl

@[simp] lemma Task.activity_timer : Task.timer.activity = some .timer := rfl

@[simp] lemma Task.activity_send : Task.send.activity = none := rfl

@[simp] lemma Task.activity_writer (w : PopId) (wake : Wake) :
    (Task.writer w wake).activity = some .coroutine := rfl

@[simp] lemma SocketOp.activity_task (op : SocketOp) (outcome : Option InjectorMessage) :
    (op.task outcome).activity = some op.activity := by
  cases op <;> rfl

/-- What a handler does to the schedule of a client that is reconnecting, or is not. -/
def Task.events (reconnecting : Bool) : Task → List ReconnectEvent
  | .send => []
  | .reader none => [.lose]
  | .reader (some msg) => (compareMessage "config" msg.opcode msg.config).toList.map .config
  | .writer _ .cancelled => [.lose]
  | .writer _ (.written _ false) => [.lose]
  | .writer _ _ => []
  | .timer => [.fire]
  | .openSession .body true => if reconnecting then [.opened] else []
  | .openSession _ true => []
  | .openSession _ false => if reconnecting then [.refused] else [.lose]

/-- What decides about reconnecting. -/
@[ext]
structure Standing where
  reconnecting : Bool
  armed : Bool
  config : InjecteeConfig
  running : Activity → ℕ

namespace Standing

/-- Something begins. -/
def add (v : Standing) (a : Activity) : Standing :=
  { v with running := fun b => v.running b + if a = b then 1 else 0 }

/-- What a handler belongs to begins. -/
def addAll (v : Standing) (a : Option Activity) : Standing := a.elim v v.add

/-- The session is lost. -/
def lose (v : Standing) : Standing where
  reconnecting := true
  armed := v.armed || !v.reconnecting
  config := v.config.drop
  running := v.running

/-- What a handler does, when its activity is no longer under way. -/
def handle (v : Standing) (late : Bool) : Task → Standing
  | .send => v
  | .reader none => v.lose
  | .reader (some msg) =>
    match compareMessage "config" msg.opcode msg.config with
    | some cfg => ({ v with config := .set cfg } : Standing).add .coroutine
    | none => v.add .coroutine
  | .writer _ .cancelled => v.lose
  | .writer _ (.written _ false) => v.lose
  | .writer _ _ => v.add .coroutine
  | .timer => v.add .openSession
  | .openSession .body true =>
    (({ v with reconnecting := false } : Standing).add .coroutine).add .coroutine
  | .openSession _ true => v.add .openSession
  | .openSession _ false => if v.reconnecting then { v with armed := !late } else v.lose

end Standing

namespace InjecteeClient

variable {α : Type*} {s : InjecteeClient α}

/-- How much of an activity is under way; a writer that waits for a token is. -/
def running (s : InjecteeClient α) (a : Activity) : ℕ :=
  s.pending.countP (·.activity = a) + s.ready.countP (·.activity = some a) +
    if a = .coroutine then s.queue.receives.length else 0

/-- What decides about reconnecting in a client. -/
def standing (s : InjecteeClient α) : Standing where
  reconnecting := s.reconnecting
  armed := s.armed
  config := s.config
  running := s.running

/-! ## The parts of a step -/

/-- The handlers of many operations that fail. -/
lemma countP_map_task (ops : List SocketOp) (a : Activity) :
    (ops.map (SocketOp.task none)).countP (·.activity = some a) =
      ops.countP (·.activity = a) := by
  rw [List.countP_map]
  congr 1
  funext op
  simp

/-- A push is not part of the schedule. -/
lemma standing_push (s : InjecteeClient α) (item : α) : (s.push item).standing = s.standing := by
  unfold push BlockingQueue.pushItem
  split_ifs
  · rfl
  · refine Standing.ext rfl rfl rfl (funext fun a => ?_)
    simp [standing, running]

/-- Many pushes are not part of the schedule. -/
lemma standing_pushAll (s : InjecteeClient α) (items : List α) :
    (items.foldl push s).standing = s.standing := by
  induction items generalizing s with
  | nil => rfl
  | cons item items ih => rw [List.foldl_cons, ih, standing_push]

/-- An operation is under way, or its handler is. -/
lemma standing_startOp (s : InjecteeClient α) (op : SocketOp) :
    (s.startOp op).standing = s.standing.add op.activity := by
  unfold startOp
  split_ifs
  · refine Standing.ext rfl rfl rfl (funext fun a => ?_)
    simp only [standing, Standing.add, running, List.countP_append, List.countP_singleton,
      decide_eq_true_eq]
    omega
  · refine Standing.ext rfl rfl rfl (funext fun a => ?_)
    simp only [standing, Standing.add, running, List.countP_append, List.countP_singleton,
      SocketOp.activity_task, Option.some_inj, decide_eq_true_eq]
    omega

/-- A writer gets a token or waits. -/
lemma standing_receive (s : InjecteeClient α) (w : PopId) :
    (s.receive w).standing = s.standing.add .coroutine := by
  unfold receive
  rcases s.queue.asyncReceive_cases w with ⟨-, -, heq⟩ | ⟨tokens, sends, -, heq⟩
  · rw [heq]
    refine Standing.ext rfl rfl rfl (funext fun a => ?_)
    cases a <;> simp [standing, Standing.add, running, Nat.add_assoc]
  · rw [heq]
    refine Standing.ext rfl rfl rfl (funext fun a => ?_)
    simp only [standing, Standing.add, running, List.countP_append, List.countP_singleton,
      Task.activity_writer, Option.some_inj, decide_eq_true_eq, if_true]
    omega

/-- The handlers of the operations on a socket that is closed run later. -/
lemma standing_closeSocket (s : InjecteeClient α) : s.closeSocket.standing = s.standing := by
  refine Standing.ext rfl rfl rfl (funext fun a => ?_)
  simp only [closeSocket, standing, running, List.countP_append, countP_map_task, List.countP_nil]
  omega

/-- The writers whose receives are aborted run later. -/
lemma standing_cancel (s : InjecteeClient α) (between : List α) :
    (s.cancel between).standing = s.standing := by
  have hpushes := standing_pushAll
    ({ s with
      queue := s.queue.abort.1
      ready := s.ready ++ s.queue.abort.2.map (.writer · .cancelled) } : InjecteeClient α) between
  refine Eq.trans ?_ (hpushes.trans ?_)
  · rfl
  · refine Standing.ext rfl rfl rfl (funext fun a => ?_)
    cases a <;> simp [standing, running, BlockingQueue.channelLaws.cancel_aborts, List.countP_map,
      Function.comp_def, Nat.add_assoc]

/-- A session is lost. -/
lemma standing_lose (s : InjecteeClient α) (between : List α) :
    (s.lose between).standing = s.standing.lose := by
  have hstop : (s.stop between).standing = { s.standing with config := s.config.drop } := by
    refine (standing_closeSocket _).trans ?_
    rw [← s.standing_cancel between]
    refine Standing.ext rfl rfl ?_ rfl
    exact congrArg (fun v => v.config.drop) (s.standing_cancel between)
  have hreconnecting : (s.stop between).reconnecting = s.reconnecting :=
    congrArg Standing.reconnecting hstop
  unfold lose beginReconnect Standing.lose
  cases hdown : s.reconnecting with
  | true =>
    rw [if_pos (hreconnecting.trans hdown), hstop]
    simp [standing, hdown]
  | false =>
    rw [hdown] at hreconnecting
    rw [hreconnecting, if_neg Bool.false_ne_true]
    change { (s.stop between).standing with reconnecting := true, armed := true } = _
    rw [hstop]
    simp [standing, hdown]

/-- An attempt begins. -/
lemma standing_attempt (s : InjecteeClient α) :
    s.attempt.standing = s.standing.add .openSession := by
  rw [← s.standing_closeSocket]
  refine Standing.ext rfl rfl rfl (funext fun a => ?_)
  cases a <;> simp [attempt, closeSocket, standing, Standing.add, running, Nat.add_comm]

/-- An operation that completes leaves its handler. -/
lemma standing_complete (s : InjecteeClient α) (i : ℕ) (outcome : Option InjectorMessage) :
    (s.complete i outcome).standing = s.standing := by
  unfold complete
  cases hop : s.pending[i]? with
  | none => rfl
  | some op =>
    refine Standing.ext rfl rfl rfl (funext fun a => ?_)
    obtain ⟨hi, rfl⟩ := List.getElem?_eq_some_iff.mp hop
    have hperm := (List.getElem_cons_eraseIdx_perm hi).countP_eq (·.activity = a)
    simp only [List.countP_cons, decide_eq_true_eq] at hperm
    simp only [standing, running, List.countP_append, List.countP_singleton,
      SocketOp.activity_task, Option.some_inj, decide_eq_true_eq]
    omega

/-- A session begins. -/
lemma standing_startSession (s : InjecteeClient α) :
    s.startSession.standing =
      ({ s.standing with reconnecting := false }.add .coroutine).add .coroutine := by
  unfold startSession
  rw [standing_receive, standing_startOp]
  rfl

/-- The first handler that is ready. -/
lemma standing_of_ready {task : Task} {ready : List Task} (hready : s.ready = task :: ready) :
    s.standing = ({ s with ready } : InjecteeClient α).standing.addAll task.activity := by
  cases hactivity : task.activity with
  | none =>
    refine Standing.ext rfl rfl rfl (funext fun a => ?_)
    simp [standing, Standing.addAll, running, hready, hactivity]
  | some b =>
    refine Standing.ext rfl rfl rfl (funext fun a => ?_)
    simp only [standing, Standing.addAll, Standing.add, Option.elim_some, running, hready,
      List.countP_cons, hactivity, Option.some_inj, decide_eq_true_eq]
    omega

/-- What a handler does. -/
lemma standing_runTask (s : InjecteeClient α) (late : Bool) (between : List α) (task : Task) :
    (s.runTask late between task).standing = s.standing.handle late task := by
  cases task with
  | send =>
    unfold runTask
    refine Standing.ext rfl rfl rfl (funext fun a => ?_)
    rcases s.queue.asyncSend_cases with ⟨w, receives, hreceives, heq⟩ | ⟨-, tokens, sends, -, heq⟩
    · rw [heq]
      cases a with
      | coroutine =>
        simp only [standing, Standing.handle, running, hreceives, Option.toList_some,
          List.map_singleton, List.countP_append, List.countP_singleton, Task.activity_writer,
          List.length_cons, decide_true, if_true]
        omega
      | timer => simp [standing, Standing.handle, running]
      | openSession => simp [standing, Standing.handle, running]
    · rw [heq]
      simp [standing, Standing.handle, running]
  | timer => exact s.standing_attempt
  | reader msg =>
    cases msg with
    | none => exact s.standing_lose between
    | some msg =>
      unfold runTask process Standing.handle
      rw [standing_startOp]
      dsimp only
      cases compareMessage "config" msg.opcode msg.config <;> rfl
  | writer w wake =>
    cases wake with
    | token =>
      unfold runTask runWriter BlockingQueue.takeItem
      cases s.queue.items with
      | nil => exact s.standing_receive w
      | cons item items => exact standing_startOp _ _
    | cancelled => exact s.standing_lose between
    | written part ok =>
      cases ok with
      | false => cases part <;> exact s.standing_lose between
      | true =>
        cases part with
        | length => exact s.standing_startOp _
        | body => exact s.standing_receive w
  | openSession stage ok =>
    cases ok with
    | false =>
      have hfailed : (s.openFailed late between).standing =
          if s.reconnecting then { s.standing with armed := !late } else s.standing.lose := by
        unfold openFailed
        split_ifs
        · rw [← s.standing_closeSocket]
          rfl
        · exact s.standing_lose between
      cases stage <;> exact hfailed
    | true =>
      cases stage with
      | connect => exact s.standing_startOp _
      | length => exact s.standing_startOp _
      | body => exact s.standing_startSession

end InjecteeClient

/-! ## Following the schedule -/

namespace Standing

variable {v : Standing} {r : Reconnection}

/-- The client is where the schedule says.  The first `open_session` is not an attempt; until it
returns there is no session that could be lost. -/
structure Follows (v : Standing) (r : Reconnection) : Prop where
  scheduled : r.Scheduled
  reconnecting : r.reconnecting = v.reconnecting
  config : r.config = v.config
  waits : r.waits.length = v.armed.toNat + v.running .timer
  rung : v.running .timer ≠ 0 → ∀ wait ∈ r.waits, wait ≤ r.now
  attempts : v.reconnecting = true → r.attempts = v.running .openSession
  first : v.reconnecting = false →
    v.running .openSession = 0 ∨ v.running .openSession = 1 ∧ v.running .coroutine = 0

/-- A client that is reconnecting waits for one thing at a time. -/
lemma Follows.one_outstanding (h : v.Follows r) (hdown : v.reconnecting = true) :
    v.armed.toNat + v.running .timer + v.running .openSession ≤ 1 := by
  have hone := h.scheduled.one_outstanding
  rw [h.waits, h.attempts hdown] at hone
  exact hone

/-- A client that is not reconnecting has no timer. -/
lemma Follows.idle (h : v.Follows r) (hup : v.reconnecting = false) :
    r.Idle ∧ v.armed = false ∧ v.running .timer = 0 := by
  have hidle := h.scheduled.idle (h.reconnecting.trans hup)
  have hwaits := h.waits
  rw [hidle.waits, List.length_nil, eq_comm, Nat.add_eq_zero_iff, Bool.toNat_eq_zero] at hwaits
  exact ⟨hidle, hwaits⟩

/-- Time passes. -/
lemma Follows.elapse (h : v.Follows r) (duration : ℕ) :
    v.Follows (r.step (.elapse duration)).1 := by
  have hscheduled := h.scheduled.step (.elapse duration)
  unfold Reconnection.step at hscheduled ⊢
  dsimp only at hscheduled ⊢
  split_ifs at hscheduled ⊢
  · exact { h with
      scheduled := hscheduled
      rung := fun htimer wait hwait => (h.rung htimer wait hwait).trans (Nat.le_add_right _ _) }
  · exact h

/-- A configuration arrives. -/
lemma Follows.set (h : v.Follows r) (cfg : InjectorConfig) :
    ({ v with config := .set cfg } : Standing).Follows (r.step (.config cfg)).1 :=
  { h with scheduled := h.scheduled.step (.config cfg), config := rfl }

/-- A client with a timer is reconnecting, and waits for the timer only. -/
lemma Follows.waiting (h : v.Follows r) (hwaits : v.armed = true ∨ v.running .timer ≠ 0) :
    v.reconnecting = true ∧ v.armed.toNat + v.running .timer = 1 ∧ v.running .openSession = 0 ∧
      ∃ wait, r.waits = [wait] ∧ r.now ≤ wait := by
  have hdown : v.reconnecting = true := by
    by_contra hup
    obtain ⟨-, harmed, htimer⟩ := h.idle (Bool.eq_false_iff.mpr hup)
    rcases hwaits with hwaits | hwaits
    · rw [harmed] at hwaits
      cases hwaits
    · exact hwaits htimer
  have hone := h.one_outstanding hdown
  have hsome : 1 ≤ v.armed.toNat + v.running .timer := by
    rcases hwaits with hwaits | hwaits
    · rw [hwaits, Bool.toNat_true]
      omega
    · omega
  refine ⟨hdown, by omega, by omega, ?_⟩
  have hlength := h.waits
  rcases h.scheduled with hidle | ⟨begun, n, past, hepisode⟩
  · rw [hidle.waits, List.length_nil] at hlength
    omega
  · cases hepisode.stage with
    | waiting wait hwait hattempts hnow => exact ⟨wait, hwait, hnow⟩
    | attempting hnone =>
      rw [hnone, List.length_nil] at hlength
      omega
    | parked hnone =>
      rw [hnone, List.length_nil] at hlength
      omega

/-- The timer expires when the time has passed for which it was armed. -/
lemma Follows.fire (h : v.Follows r) (harmed : v.armed = true) :
    (({ v with armed := false } : Standing).add .timer).Follows
      (Mealy.run Reconnection.step r (r.waits.map fun wait => .elapse (wait - r.now))) := by
  obtain ⟨hdown, hone, hopen, wait, hwait, hnow⟩ := h.waiting (Or.inl harmed)
  have hstep : r.step (.elapse (wait - r.now)) = ({ r with now := wait }, none) := by
    simp [Reconnection.step, hwait, Nat.add_sub_cancel' hnow]
  have hscheduled := h.scheduled.step (.elapse (wait - r.now))
  rw [hwait, List.map_singleton, Mealy.run_cons, Mealy.run_nil]
  rw [hstep] at hscheduled ⊢
  rw [harmed, Bool.toNat_true] at hone
  refine { h with
    scheduled := hscheduled
    waits := ?_
    rung := fun _ wait' hwait' => ?_
    attempts := fun hdown => h.attempts hdown
    first := fun hup => h.first hup }
  · have htimer : v.running .timer = 0 := by omega
    simp [add, hwait, htimer]
  · rw [show r.waits = [wait] from hwait, List.mem_singleton] at hwait'
    exact hwait'.le

/-- The handler of the timer runs, and an attempt begins. -/
lemma Follows.attempt (h : (v.add .timer).Follows r) :
    (v.add .openSession).Follows (r.step .fire).1 := by
  have htimer : (v.add .timer).running .timer ≠ 0 := Nat.succ_ne_zero _
  obtain ⟨hdown, hone, hopen, wait, hwait, -⟩ := h.waiting (Or.inr htimer)
  have hrung : wait ≤ r.now := h.rung htimer wait (by rw [hwait]; exact List.mem_cons_self)
  have hstep : r.step .fire =
      ({ r with waits := [], attempts := r.attempts + 1 }, some (.attempted r.now)) := by
    simp [Reconnection.step, Reconnection.ended, hwait, hrung]
  have hscheduled := h.scheduled.step .fire
  rw [hstep] at hscheduled ⊢
  have hnone : v.armed.toNat + v.running .timer = 0 := Nat.succ.inj hone
  refine { h with
    scheduled := hscheduled
    waits := hnone.symm
    rung := fun _ wait' hwait' => absurd hwait' List.not_mem_nil
    attempts := fun hdown => congrArg (· + 1) (h.attempts hdown)
    first := fun hup => ?_ }
  cases hdown.symm.trans hup

/-- An attempt under way is all there is. -/
lemma Follows.attempting (h : (v.add .openSession).Follows r) (hdown : v.reconnecting = true) :
    r.attempts = 1 ∧ r.waits = [] ∧ v.armed = false ∧ v.running .timer = 0 ∧
      v.running .openSession = 0 := by
  have hone := h.one_outstanding hdown
  have hattempts := h.attempts hdown
  have hopen : (v.add .openSession).running .openSession = v.running .openSession + 1 := rfl
  have htimer : (v.add .openSession).running .timer = v.running .timer := rfl
  have hwaits := h.waits
  rw [hopen, htimer] at hone
  rw [hopen] at hattempts
  rw [htimer] at hwaits
  change v.armed.toNat + _ + _ ≤ 1 at hone
  change _ = v.armed.toNat + _ at hwaits
  refine ⟨by omega, List.eq_nil_of_length_eq_zero (by omega), Bool.toNat_eq_zero.mp (by omega),
    by omega, by omega⟩

/-- An attempt opens a session. -/
lemma Follows.opened (h : (v.add .openSession).Follows r) (hdown : v.reconnecting = true) :
    ({ v with reconnecting := false } : Standing).Follows (r.step .opened).1 := by
  obtain ⟨hattempts, hwaits, harmed, htimer, hopen⟩ := h.attempting hdown
  have hscheduled := h.scheduled.step .opened
  have hstep : r.step .opened =
      (({ r with attempts := 0 } : Reconnection).attemptOpened, none) := by
    simp [Reconnection.step, hattempts]
  rw [hstep] at hscheduled ⊢
  refine
    { scheduled := hscheduled, reconnecting := rfl, config := h.config
      waits := ?_
      rung := fun htimer' => absurd htimer htimer'
      attempts := fun hdown => by cases hdown
      first := fun _ => Or.inl hopen }
  simp [Reconnection.attemptOpened, hwaits, harmed, htimer]

/-- An attempt fails; whether the deadline has passed decides about the next. -/
lemma Follows.refused (h : (v.add .openSession).Follows r) (hdown : v.reconnecting = true) :
    ({ v with armed := !decide (r.deadline ≤ r.now) } : Standing).Follows (r.step .refused).1 := by
  obtain ⟨hattempts, hwaits, harmed, htimer, hopen⟩ := h.attempting hdown
  have hscheduled := h.scheduled.step .refused
  by_cases hlate : r.deadline ≤ r.now
  · have hstep : (r.step .refused).1 = { r with attempts := 0 } := by
      simp [Reconnection.step, Reconnection.attemptFailed, Reconnection.giveUp, Reconnection.ended,
        hattempts, hwaits, hlate]
    rw [hstep] at hscheduled ⊢
    exact
      { scheduled := hscheduled, reconnecting := h.reconnecting, config := h.config
        waits := by simp [hwaits, hlate, htimer]
        rung := fun htimer' => absurd htimer htimer'
        attempts := fun _ => hopen.symm
        first := fun hup => by cases hdown.symm.trans hup }
  · have hstep : (r.step .refused).1 =
        { r with
          attempts := 0
          backoff := min (r.backoff * 2) kBackoffCap
          waits := [r.now + min (r.backoff * 2) kBackoffCap] } := by
      simp [Reconnection.step, Reconnection.attemptFailed, Reconnection.arm, Reconnection.ended,
        hattempts, hwaits, hlate]
    rw [hstep] at hscheduled ⊢
    exact
      { scheduled := hscheduled, reconnecting := h.reconnecting, config := h.config
        waits := by simp [hlate, htimer]
        rung := fun htimer' => absurd htimer htimer'
        attempts := fun _ => hopen.symm
        first := fun hup => by cases hdown.symm.trans hup }


/-- Only the first `open_session` is in the way of a `reader` or a `writer`. -/
lemma Follows.add_coroutine (h : v.Follows r)
    (hlater : v.reconnecting = false → v.running .openSession = 0) :
    (v.add .coroutine).Follows r :=
  { h with first := fun hup => Or.inl (hlater hup) }

/-- While there is a `reader` or a `writer`, the first `open_session` has returned. -/
lemma Follows.of_add_coroutine (h : (v.add .coroutine).Follows r) :
    v.Follows r ∧ (v.reconnecting = false → v.running .openSession = 0) := by
  have hlater (hup : v.reconnecting = false) : v.running .openSession = 0 := by
    rcases h.first hup with hnone | ⟨-, hnone⟩
    · exact hnone
    · cases hnone
  exact ⟨{ h with first := fun hup => Or.inl (hlater hup) }, hlater⟩

/-- A session is lost. -/
lemma Follows.lose (h : v.Follows r)
    (hlater : v.reconnecting = false → v.running .openSession = 0) :
    v.lose.Follows (r.step .lose).1 := by
  have hscheduled := h.scheduled.step .lose
  cases hdown : v.reconnecting with
  | true =>
    have hstep : r.step .lose = (r.stop, none) := if_pos (h.reconnecting.trans hdown)
    rw [hstep] at hscheduled ⊢
    refine { h with
      scheduled := hscheduled
      reconnecting := h.reconnecting.trans hdown
      config := congrArg InjecteeConfig.drop h.config
      waits := ?_
      attempts := fun _ => h.attempts hdown
      first := fun hup => by cases hup }
    simpa [Standing.lose, Reconnection.stop, hdown] using h.waits
  | false =>
    obtain ⟨hidle, harmed, htimer⟩ := h.idle hdown
    have hstep : (r.step .lose).1 =
        { r.stop with
          reconnecting := true
          backoff := kBackoffStart
          deadline := r.now + kReconnectBudget
          waits := [r.now + kBackoffStart] } := by
      simp [Reconnection.step, Reconnection.beginReconnect, Reconnection.stop, Reconnection.arm,
        Reconnection.ended, hidle.reconnecting, hidle.waits]
    rw [hstep] at hscheduled ⊢
    exact
      { scheduled := hscheduled, reconnecting := rfl
        config := congrArg InjecteeConfig.drop h.config
        waits := by simp [Standing.lose, hdown, harmed, htimer]
        rung := fun htimer' => absurd htimer htimer'
        attempts := fun _ => hidle.attempts.trans (hlater hdown).symm
        first := fun hup => by cases hup }

/-- The first `open_session` returns. -/
lemma Follows.of_add_openSession (h : (v.add .openSession).Follows r)
    (hup : v.reconnecting = false) : v.Follows r ∧ v.running .openSession = 0 := by
  have hopen : v.running .openSession = 0 := by
    rcases h.first hup with hnone | ⟨hone, -⟩
    · cases hnone
    · exact Nat.succ.inj hone
  refine ⟨{ h with attempts := fun hdown => ?_, first := fun _ => Or.inl hopen }, hopen⟩
  cases hdown.symm.trans hup

/-- What a handler does, its events do to the schedule. -/
lemma Follows.handle {task : Task} {late : Bool} (h : (v.addAll task.activity).Follows r)
    (hlate : late = decide (r.deadline ≤ r.now)) :
    (v.handle late task).Follows (Mealy.run Reconnection.step r (task.events v.reconnecting)) := by
  have hlose (h : (v.add .coroutine).Follows r) : v.lose.Follows (r.step .lose).1 :=
    h.of_add_coroutine.1.lose h.of_add_coroutine.2
  cases task with
  | send => exact h
  | timer => exact h.attempt
  | reader msg =>
    cases msg with
    | none => exact hlose h
    | some msg =>
      unfold Standing.handle Task.events
      dsimp only
      cases compareMessage "config" msg.opcode msg.config with
      | none => exact h
      | some cfg => exact h.set cfg
  | writer w wake =>
    cases wake with
    | token => exact h
    | cancelled => exact hlose h
    | written part ok =>
      cases ok with
      | true => cases part <;> exact h
      | false => cases part <;> exact hlose h
  | openSession stage ok =>
    cases hdown : v.reconnecting with
    | true =>
      cases ok with
      | false =>
        have hrefused := h.refused hdown
        rw [← hlate] at hrefused
        cases stage <;> simpa [Standing.handle, Task.events, hdown] using hrefused
      | true =>
        cases stage with
        | connect => exact h
        | length => exact h
        | body =>
          have hopen := (h.attempting hdown).2.2.2.2
          exact ((h.opened hdown).add_coroutine fun _ => hopen).add_coroutine fun _ => hopen
    | false =>
      cases ok with
      | false =>
        obtain ⟨hfirst, hopen⟩ := Follows.of_add_openSession h hdown
        have hlost := hfirst.lose fun _ => hopen
        cases stage <;> simpa [Standing.handle, Task.events, hdown] using hlost
      | true =>
        cases stage with
        | connect => exact h
        | length => exact h
        | body =>
          obtain ⟨hfirst, hopen⟩ := Follows.of_add_openSession h hdown
          have hsame : ({ v with reconnecting := false } : Standing) = v := by rw [← hdown]
          unfold Standing.handle
          rw [hsame]
          exact (hfirst.add_coroutine fun _ => hopen).add_coroutine fun _ => hopen

end Standing

/-! ## Runs on a clock -/

namespace InjecteeClient

variable {α : Type*} {s : InjecteeClient α} {r : Reconnection}

/-- What a step of a client does to its schedule. -/
def events (s : InjecteeClient α) (r : Reconnection) : ClientAction α → List ReconnectEvent
  | .push _ => []
  | .complete _ _ => []
  | .fire => if s.armed then r.waits.map fun wait => .elapse (wait - r.now) else []
  | .run _ _ =>
    match s.ready with
    | [] => []
    | task :: _ => task.events s.reconnecting

/-- An attempt that fails reads the clock. -/
def ReadsClock (r : Reconnection) : ClientAction α → Prop
  | .run late _ => late = decide (r.deadline ≤ r.now)
  | _ => True

/-- A client keeps to its schedule, step by step. -/
lemma follows_step (h : s.standing.Follows r) {action : ClientAction α}
    (hclock : ReadsClock r action) :
    (s.step action).1.standing.Follows
      (Mealy.run Reconnection.step r (s.events r action)) := by
  cases action with
  | push item =>
    have hpush := s.standing_push item
    exact hpush ▸ h
  | complete i outcome =>
    have hcomplete := s.standing_complete i outcome
    exact hcomplete ▸ h
  | fire =>
    unfold step fire events
    cases harmed : s.armed with
    | false => exact h
    | true =>
      have hring : ({ s with armed := false, ready := s.ready ++ [.timer] } :
          InjecteeClient α).standing =
            ({ s.standing with armed := false } : Standing).add .timer := by
        refine Standing.ext rfl rfl rfl (funext fun a => ?_)
        cases a <;> simp [standing, Standing.add, running, Nat.add_assoc]
      dsimp only
      rw [if_pos rfl, if_pos rfl, hring]
      exact h.fire harmed
  | run late between =>
    unfold step run events
    cases hready : s.ready with
    | nil => exact h
    | cons task ready =>
      rw [standing_of_ready hready] at h
      have hhandle := h.handle hclock
      dsimp only
      rw [standing_runTask]
      exact hhandle

end InjecteeClient

/-- The runs of a client on a clock, with its schedule. -/
inductive TimedRun {α : Type*} : InjecteeClient α → Reconnection → Prop where
  | start (max capacity : ℕ) : TimedRun (.start α max capacity) {}
  | elapse {s : InjecteeClient α} {r : Reconnection} (run : TimedRun s r) (duration : ℕ) :
    TimedRun s (r.step (.elapse duration)).1
  | step {s : InjecteeClient α} {r : Reconnection} (run : TimedRun s r)
    {action : ClientAction α} (clock : InjecteeClient.ReadsClock r action) :
    TimedRun (s.step action).1 (Mealy.run Reconnection.step r (s.events r action))

namespace TimedRun

variable {α : Type*} {s : InjecteeClient α} {r : Reconnection}

/-- A client keeps to its schedule. -/
theorem follows (run : TimedRun s r) : s.standing.Follows r := by
  induction run with
  | start max capacity =>
    exact
      { scheduled := Or.inl Reconnection.idle_initial, reconnecting := rfl, config := rfl
        waits := rfl
        rung := fun htimer => absurd rfl htimer
        attempts := fun hdown => by cases hdown
        first := fun _ => Or.inr ⟨rfl, rfl⟩ }
  | elapse run duration ih => exact ih.elapse duration
  | step run clock ih => exact InjecteeClient.follows_step ih clock

/-- The schedule of a client has a run of its own. -/
theorem exists_run (run : TimedRun s r) : ∃ events, Mealy.run Reconnection.step {} events = r := by
  induction run with
  | start max capacity => exact ⟨[], rfl⟩
  | elapse run duration ih =>
    obtain ⟨events, rfl⟩ := ih
    exact ⟨events ++ [.elapse duration], Mealy.run_concat _ _ _ _⟩
  | @step s r run action clock ih =>
    obtain ⟨events, rfl⟩ := ih
    exact ⟨events ++ s.events _ action, Mealy.run_append _ _ _ _⟩

/-- A client has one timer, or one handler of the timer, or one attempt under way. -/
theorem one_outstanding (run : TimedRun s r) :
    s.armed.toNat + s.running .timer +
      (if s.reconnecting then s.running .openSession else 0) ≤ 1 := by
  cases hdown : s.reconnecting with
  | true => exact run.follows.one_outstanding hdown
  | false =>
    obtain ⟨-, harmed, htimer⟩ := run.follows.idle hdown
    rw [show s.armed = false from harmed, show s.running .timer = 0 from htimer]
    exact Nat.zero_le 1

end TimedRun

end Encapsule
