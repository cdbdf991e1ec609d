import Encapsule.Injectee.ReportClient

/-!
# One writer for each session

Of the state of a client, `InjecteeClient.view` keeps what decides how many writers are alive:
those that wait, and the operations and handlers of the writers, of the timer and of
`open_session`, in order.  The steps of the client are moves of the view
(`InjecteeClient.move_step`), and the moves keep it in one of thirteen shapes (`Shape.move`), each
with at most one writer.  They rest on the order of the io thread: a writer of a session that is
over unwinds before the next attempt has connected.

The client gets there only if such a writer does not go back to wait for a token
(`InjecteeClient.one_writer`).
-/

namespace Encapsule

/-- Operations other than those of a `reader`. -/
def SocketOp.matters : SocketOp → Bool
  | .read => false
  | _ => true

/-- Handlers other than sends of tokens and those of a `reader`. -/
def Task.matters : Task → Bool
  | .send => false
  | .reader _ => false
  | _ => true

/-- The handlers of a `reader`. -/
def Task.isReader : Task → Bool
  | .reader _ => true
  | _ => false

@[simp] lemma SocketOp.matters_read : SocketOp.read.matters = false := rfl

@[simp] lemma Task.matters_send : Task.send.matters = false := rfl

@[simp] lemma Task.matters_reader (msg : Option InjectorMessage) :
    (Task.reader msg).matters = false := rfl

@[simp] lemma Task.matters_writer (w : PopId) (wake : Wake) :
    (Task.writer w wake).matters = true := rfl

@[simp] lemma Task.matters_timer : Task.timer.matters = true := rfl

@[simp] lemma SocketOp.matters_task (op : SocketOp) (outcome : Option InjectorMessage) :
    (op.task outcome).matters = op.matters := by
  cases op <;> rfl

@[simp] lemma SocketOp.isReader_task (op : SocketOp) (outcome : Option InjectorMessage) :
    (op.task outcome).isReader = !op.matters := by
  cases op <;> rfl

/-- What decides how many writers are alive. -/
structure ClientView where
  parked : List PopId
  ops : List SocketOp
  agenda : List Task
  armed : Bool
  reconnecting : Bool
  connected : Bool
  sessions : ℕ

/-- The view of a client. -/
def InjecteeClient.view {α : Type*} (s : InjecteeClient α) : ClientView where
  parked := s.queue.receives
  ops := s.pending.filter SocketOp.matters
  agenda := s.ready.filter Task.matters
  armed := s.armed
  reconnecting := s.reconnecting
  connected := s.connected
  sessions := s.sessions

namespace ClientView

/-- An operation is started. -/
def startOp (v : ClientView) (op : SocketOp) : ClientView :=
  if v.connected then { v with ops := v.ops ++ [op] }
  else { v with agenda := v.agenda ++ [op.task none] }

/-- A writer receives, and gets a token `now` or waits. -/
def receive (v : ClientView) (w : PopId) (now : Bool) : ClientView :=
  if now then { v with agenda := v.agenda ++ [.writer w .token] }
  else { v with parked := v.parked ++ [w] }

/-- The socket is closed. -/
def closeSocket (v : ClientView) : ClientView :=
  { v with connected := false, ops := [], agenda := v.agenda ++ v.ops.map (SocketOp.task none) }

/-- The session is over. -/
def lose (v : ClientView) : ClientView where
  parked := []
  ops := []
  agenda := v.agenda ++ v.parked.map (.writer · .cancelled) ++ v.ops.map (SocketOp.task none)
  armed := v.armed || !v.reconnecting
  reconnecting := true
  connected := false
  sessions := v.sessions

/-- An attempt begins to connect. -/
def attempt (v : ClientView) : ClientView :=
  { v.closeSocket with ops := [.openSession .connect] }

/-- A session begins. -/
def startSession (v : ClientView) (now : Bool) : ClientView :=
  ({ v with reconnecting := false, sessions := v.sessions + 1 } : ClientView).receive
    (v.sessions + 1) now

end ClientView

/-- What a handler may do.  A writer goes back to wait for a token only in a session that is not
over. -/
inductive Handles (v : ClientView) : Task → ClientView → Prop where
  | take (w : PopId) : Handles v (.writer w .token) (v.startOp (.write w .length))
  | again (w : PopId) (now : Bool) (hup : v.reconnecting = false) :
    Handles v (.writer w .token) (v.receive w now)
  | cancelled (w : PopId) : Handles v (.writer w .cancelled) v.lose
  | sentLength (w : PopId) :
    Handles v (.writer w (.written .length true)) (v.startOp (.write w .body))
  | sentBody (w : PopId) (now : Bool) (hup : v.reconnecting = false) :
    Handles v (.writer w (.written .body true)) (v.receive w now)
  | unsent (w : PopId) (part : WritePart) : Handles v (.writer w (.written part false)) v.lose
  | timer : Handles v .timer v.attempt
  | connected : Handles v (.openSession .connect true) (v.startOp (.openSession .length))
  | introduced : Handles v (.openSession .length true) (v.startOp (.openSession .body))
  | session (now : Bool) : Handles v (.openSession .body true) (v.startSession now)
  | failed (stage : OpenStage) (hfirst : v.reconnecting = false) :
    Handles v (.openSession stage false) v.lose
  | retry (stage : OpenStage) (late : Bool) (hup : v.reconnecting = true) :
    Handles v (.openSession stage false) { v.closeSocket with armed := !late }

/-- What may happen to the view of a client.  A session can be lost by a `reader` only after the
first one has begun. -/
inductive Move (v : ClientView) : ClientView → Prop where
  | idle : Move v v
  | wake (w : PopId) (parked : List PopId) (h : v.parked = w :: parked) :
    Move v { v with parked, agenda := v.agenda ++ [.writer w .token] }
  | complete (pre post : List SocketOp) (op : SocketOp) (outcome : Option InjectorMessage)
    (h : v.ops = pre ++ op :: post) :
    Move v { v with
      connected := v.connected || (op = .openSession .connect && outcome.isSome)
      ops := pre ++ post
      agenda := v.agenda ++ [op.task outcome] }
  | fire (h : v.armed = true) : Move v { v with armed := false, agenda := v.agenda ++ [.timer] }
  | lose (h : v.sessions ≠ 0) : Move v v.lose
  | run (task : Task) (agenda : List Task) (v' : ClientView) (h : v.agenda = task :: agenda)
    (hrun : Handles { v with agenda } task v') : Move v v'

/-! ## Shapes -/

/-- The shapes of a client.  The first five have no writer, the next three have the writer of the
session that is up, and the last five that of the session that was lost last.  In the order of the
io thread such a writer is in front of the timer, or it has failed and is in front of what the
attempt after the timer gets to. -/
inductive Shape : ClientView → Prop where
  /-- The timer runs. -/
  | resting (connected : Bool) (n : ℕ) : Shape ⟨[], [], [], true, true, connected, n⟩
  | ringing (connected : Bool) (n : ℕ) : Shape ⟨[], [], [.timer], false, true, connected, n⟩
  /-- `open_session` is under way. -/
  | opening (stage : OpenStage) (reconnecting connected : Bool) (n : ℕ)
    (hfirst : reconnecting = true ∨ n = 0) :
    Shape ⟨[], [.openSession stage], [], false, reconnecting, connected, n⟩
  | opened (stage : OpenStage) (ok reconnecting connected : Bool) (n : ℕ)
    (hfirst : reconnecting = true ∨ n = 0) :
    Shape ⟨[], [], [.openSession stage ok], false, reconnecting, connected, n⟩
  /-- The client has given up. -/
  | ended (connected : Bool) (n : ℕ) : Shape ⟨[], [], [], false, true, connected, n⟩
  /-- The writer waits for a token. -/
  | parked (connected : Bool) (n : ℕ) : Shape ⟨[n], [], [], false, false, connected, n⟩
  /-- The writer is writing. -/
  | writing (part : WritePart) (connected : Bool) (n : ℕ) :
    Shape ⟨[], [.write n part], [], false, false, connected, n⟩
  | active (wake : Wake) (connected : Bool) (n : ℕ) :
    Shape ⟨[], [], [.writer n wake], false, false, connected, n⟩
  /-- The session is lost, and the timer runs. -/
  | lost (wake : Wake) (n : ℕ) : Shape ⟨[], [], [.writer n wake], true, true, false, n⟩
  | lostFirst (wake : Wake) (n : ℕ) :
    Shape ⟨[], [], [.writer n wake, .timer], false, true, false, n⟩
  | lostLast (part : WritePart) (n : ℕ) :
    Shape ⟨[], [], [.timer, .writer n (.written part false)], false, true, false, n⟩
  /-- The attempt connects. -/
  | lostOpening (part : WritePart) (connected : Bool) (n : ℕ) :
    Shape ⟨[], [.openSession .connect], [.writer n (.written part false)], false, true, connected,
      n⟩
  | lostOpened (part : WritePart) (ok connected : Bool) (n : ℕ) :
    Shape ⟨[], [], [.writer n (.written part false), .openSession .connect ok], false, true,
      connected, n⟩

variable {v v' : ClientView}

/-- A reader that fails keeps the shape. -/
lemma Shape.lose (h : Shape v) (hsessions : v.sessions ≠ 0) : Shape v.lose := by
  cases h with
  | resting connected n => exact .resting false n
  | ringing connected n => exact .ringing false n
  | opening stage reconnecting connected n hfirst =>
    obtain rfl := hfirst.resolve_right hsessions
    exact .opened stage false true false n (Or.inl rfl)
  | opened stage ok reconnecting connected n hfirst =>
    obtain rfl := hfirst.resolve_right hsessions
    exact .opened stage ok true false n (Or.inl rfl)
  | ended connected n => exact .ended false n
  | parked connected n => exact .lost .cancelled n
  | writing part connected n => exact .lost (.written part false) n
  | active wake connected n => exact .lost wake n
  | lost wake n => exact .lost wake n
  | lostFirst wake n => exact .lostFirst wake n
  | lostLast part n => exact .lostLast part n
  | lostOpening part connected n => exact .lostOpened part false false n
  | lostOpened part ok connected n => exact .lostOpened part ok false n

/-- An operation that completes keeps the shape. -/
lemma Shape.complete (h : Shape v) {pre post : List SocketOp} {op : SocketOp}
    (outcome : Option InjectorMessage) (hops : v.ops = pre ++ op :: post) :
    Shape { v with
      connected := v.connected || (op = .openSession .connect && outcome.isSome)
      ops := pre ++ post
      agenda := v.agenda ++ [op.task outcome] } := by
  cases h with
  | opening stage reconnecting connected n hfirst =>
    obtain ⟨rfl, rfl, rfl⟩ : pre = [] ∧ op = .openSession stage ∧ post = [] := by
      simpa [eq_comm, List.append_eq_singleton_iff] using hops
    exact .opened stage _ reconnecting _ n hfirst
  | writing part connected n =>
    obtain ⟨rfl, rfl, rfl⟩ : pre = [] ∧ op = .write n part ∧ post = [] := by
      simpa [eq_comm, List.append_eq_singleton_iff] using hops
    exact .active (.written part outcome.isSome) _ n
  | lostOpening part connected n =>
    obtain ⟨rfl, rfl, rfl⟩ : pre = [] ∧ op = .openSession .connect ∧ post = [] := by
      simpa [eq_comm, List.append_eq_singleton_iff] using hops
    exact .lostOpened part _ _ n
  | _ => simp at hops

/-- The timer that expires keeps the shape. -/
lemma Shape.fire (h : Shape v) (harmed : v.armed = true) :
    Shape { v with armed := false, agenda := v.agenda ++ [.timer] } := by
  cases h with
  | resting connected n => exact .ringing connected n
  | lost wake n => exact .lostFirst wake n
  | _ => cases harmed

/-- The writer of a session that is up keeps the shape. -/
lemma Shape.handle_active {wake : Wake} {connected : Bool} {n : ℕ}
    (h : Handles ⟨[], [], [], false, false, connected, n⟩ (.writer n wake) v') : Shape v' := by
  cases h with
  | take => cases connected with
    | true => exact .writing .length true n
    | false => exact .active (.written .length false) false n
  | again w now hup => cases now with
    | true => exact .active .token connected n
    | false => exact .parked connected n
  | cancelled => exact .resting false n
  | sentLength => cases connected with
    | true => exact .writing .body true n
    | false => exact .active (.written .body false) false n
  | sentBody w now hup => cases now with
    | true => exact .active .token connected n
    | false => exact .parked connected n
  | unsent w part => exact .resting false n

/-- The writer of a session that is lost fails to write, or is gone. -/
lemma Shape.handle_lost {wake : Wake} {armed : Bool} {agenda : List Task} {n : ℕ}
    (h : Handles ⟨[], [], agenda, armed, true, false, n⟩ (.writer n wake) v') :
    (∃ part, v' = ⟨[], [], agenda ++ [.writer n (.written part false)], armed, true, false, n⟩) ∨
      v' = ⟨[], [], agenda, armed, true, false, n⟩ := by
  cases h with
  | take => exact Or.inl ⟨.length, rfl⟩
  | again w now hup => cases hup
  | cancelled => exact Or.inr (by simp [ClientView.lose])
  | sentLength => exact Or.inl ⟨.body, rfl⟩
  | sentBody w now hup => cases hup
  | unsent w part => exact Or.inr (by simp [ClientView.lose])

/-- What `open_session` does when no writer is alive keeps the shape. -/
lemma Shape.handle_opened {stage : OpenStage} {ok reconnecting connected : Bool} {n : ℕ}
    (hfirst : reconnecting = true ∨ n = 0)
    (h : Handles ⟨[], [], [], false, reconnecting, connected, n⟩ (.openSession stage ok) v') :
    Shape v' := by
  cases h with
  | connected => cases connected with
    | true => exact .opening .length reconnecting true n hfirst
    | false => exact .opened .length false reconnecting false n hfirst
  | introduced => cases connected with
    | true => exact .opening .body reconnecting true n hfirst
    | false => exact .opened .body false reconnecting false n hfirst
  | session now => cases now with
    | true => exact .active .token connected (n + 1)
    | false => exact .parked connected (n + 1)
  | failed stage hdown =>
    obtain rfl : reconnecting = false := hdown
    exact .resting false n
  | retry stage late hup =>
    obtain rfl : reconnecting = true := hup
    cases late with
    | true => exact .ended false n
    | false => exact .resting false n

/-- A handler that runs keeps the shape. -/
lemma Shape.run (h : Shape v) {task : Task} {agenda : List Task}
    (hagenda : v.agenda = task :: agenda) (hrun : Handles { v with agenda } task v') :
    Shape v' := by
  cases h with
  | ringing connected n =>
    obtain ⟨rfl, rfl⟩ := List.cons.inj hagenda
    cases hrun
    exact .opening .connect true false n (Or.inl rfl)
  | opened stage ok reconnecting connected n hfirst =>
    obtain ⟨rfl, rfl⟩ := List.cons.inj hagenda
    exact Shape.handle_opened hfirst hrun
  | active wake connected n =>
    obtain ⟨rfl, rfl⟩ := List.cons.inj hagenda
    exact Shape.handle_active hrun
  | lost wake n =>
    obtain ⟨rfl, rfl⟩ := List.cons.inj hagenda
    rcases Shape.handle_lost hrun with ⟨part, rfl⟩ | rfl
    · exact .lost (.written part false) n
    · exact .resting false n
  | lostFirst wake n =>
    obtain ⟨rfl, rfl⟩ := List.cons.inj hagenda
    rcases Shape.handle_lost hrun with ⟨part, rfl⟩ | rfl
    · exact .lostLast part n
    · exact .ringing false n
  | lostLast part n =>
    obtain ⟨rfl, rfl⟩ := List.cons.inj hagenda
    cases hrun
    exact .lostOpening part false n
  | lostOpening part connected n =>
    obtain ⟨rfl, rfl⟩ := List.cons.inj hagenda
    cases hrun
    exact .opened .connect false true false n (Or.inl rfl)
  | lostOpened part ok connected n =>
    obtain ⟨rfl, rfl⟩ := List.cons.inj hagenda
    cases hrun
    exact .opened .connect ok true false n (Or.inl rfl)
  | _ => cases hagenda

/-- Every move keeps the shape. -/
lemma Shape.move (h : Shape v) (hmove : Move v v') : Shape v' := by
  cases hmove with
  | idle => exact h
  | wake w parked hparked =>
    cases h with
    | parked connected n =>
      obtain ⟨rfl, rfl⟩ := List.cons.inj hparked
      exact .active .token connected n
    | _ => cases hparked
  | complete pre post op outcome hops => exact h.complete outcome hops
  | fire harmed => exact h.fire harmed
  | lose hsessions => exact h.lose hsessions
  | run task agenda v' hagenda hrun => exact h.run hagenda hrun

/-! ## The view of the parts of a step -/

namespace InjecteeClient

variable {α : Type*} {s : InjecteeClient α}

/-- The handlers of many operations that fail. -/
lemma filter_map_task (ops : List SocketOp) :
    (ops.map (SocketOp.task none)).filter Task.matters =
      (ops.filter SocketOp.matters).map (SocketOp.task none) := by
  rw [List.filter_map]
  congr 2
  exact funext fun op => op.matters_task none

/-- The handlers of many writers. -/
lemma filter_map_cancelled (ws : List PopId) :
    (ws.map fun w => Task.writer w .cancelled).filter Task.matters =
      ws.map (Task.writer · .cancelled) := by
  rw [List.filter_eq_self]
  intro task htask
  obtain ⟨w, -, rfl⟩ := List.mem_map.mp htask
  rfl

/-- A push does not matter before its token is sent. -/
lemma view_push (s : InjecteeClient α) (item : α) : (s.push item).view = s.view := by
  unfold push BlockingQueue.pushItem
  split_ifs with hfull
  · rfl
  · simp [view]

/-- Many pushes do not matter. -/
lemma view_pushAll (s : InjecteeClient α) (items : List α) :
    (items.foldl push s).view = s.view := by
  induction items generalizing s with
  | nil => rfl
  | cons item items ih => rw [List.foldl_cons, ih, view_push]

/-- A read that is started does not matter. -/
lemma view_startRead (s : InjecteeClient α) : (s.startOp .read).view = s.view := by
  unfold startOp
  split_ifs with hconnected
  · simp [view]
  · simp [view]

/-- Any other operation that is started. -/
lemma view_startOp (s : InjecteeClient α) {op : SocketOp} (hop : op.matters = true) :
    (s.startOp op).view = s.view.startOp op := by
  unfold startOp ClientView.startOp
  cases hconnected : s.connected with
  | true => simp [view, hconnected, hop]
  | false => simp [view, hconnected, hop]

/-- A writer gets a token or waits. -/
lemma view_receive (s : InjecteeClient α) (w : PopId) :
    ∃ now, (s.receive w).view = s.view.receive w now := by
  unfold receive ClientView.receive
  rcases s.queue.asyncReceive_cases w with ⟨-, -, heq⟩ | ⟨tokens, sends, -, heq⟩
  · exact ⟨false, by simp [heq, view]⟩
  · exact ⟨true, by simp [heq, view]⟩

/-- The socket is closed. -/
lemma view_closeSocket (s : InjecteeClient α) : s.closeSocket.view = s.view.closeSocket := by
  simp only [closeSocket, ClientView.closeSocket, view, List.filter_append, filter_map_task,
    List.filter_nil]

/-- The queue is cancelled. -/
lemma view_cancel (s : InjecteeClient α) (between : List α) : (s.cancel between).view =
    { s.view with
      parked := []
      agenda := s.view.agenda ++ s.view.parked.map (.writer · .cancelled) } := by
  have hpushes := view_pushAll
    ({ s with
      queue := s.queue.abort.1
      ready := s.ready ++ s.queue.abort.2.map (.writer · .cancelled) } : InjecteeClient α) between
  refine Eq.trans ?_ (hpushes.trans ?_)
  · rfl
  · simp only [view, BlockingQueue.channelLaws.cancel_aborts, List.filter_append,
      filter_map_cancelled]

/-- A session is lost. -/
lemma view_lose (s : InjecteeClient α) (between : List α) :
    (s.lose between).view = s.view.lose := by
  have hstop : (s.stop between).view = (s.cancel between).view.closeSocket := view_closeSocket _
  rw [view_cancel] at hstop
  have hreconnecting : (s.stop between).reconnecting = s.reconnecting :=
    congrArg ClientView.reconnecting hstop
  unfold lose beginReconnect
  cases hdown : s.reconnecting with
  | true =>
    rw [if_pos (hreconnecting.trans hdown), hstop]
    simp [ClientView.closeSocket, ClientView.lose, view, hdown]
  | false =>
    rw [hdown] at hreconnecting
    rw [hreconnecting, if_neg Bool.false_ne_true]
    change { (s.stop between).view with reconnecting := true, armed := true } = _
    rw [hstop]
    simp [ClientView.closeSocket, ClientView.lose, view, hdown]

/-- An attempt begins. -/
lemma view_attempt (s : InjecteeClient α) : s.attempt.view = s.view.attempt := by
  unfold attempt ClientView.attempt
  rw [← view_closeSocket]
  rfl

/-- A session begins. -/
lemma view_startSession (s : InjecteeClient α) :
    ∃ now, s.startSession.view = s.view.startSession now := by
  unfold startSession ClientView.startSession
  let next : InjecteeClient α := { s with reconnecting := false, sessions := s.sessions + 1 }
  obtain ⟨now, hnow⟩ := view_receive (next.startOp .read) (s.sessions + 1)
  rw [view_startRead] at hnow
  exact ⟨now, hnow⟩

/-! ## The steps are moves -/

/-- No `reader` has been started. -/
def NoReader (s : InjecteeClient α) : Prop :=
  (∀ op ∈ s.pending, op.matters = true) ∧ ∀ task ∈ s.ready, task.isReader = false

/-- The step makes a writer wait for a token while the client is reconnecting: a writer that has a
token and finds no item, or one that has written its message. -/
def waitsAgain (s : InjecteeClient α) : ClientAction α → Bool
  | .run _ _ =>
    s.reconnecting &&
      match s.ready with
      | .writer _ .token :: _ => s.queue.items.isEmpty
      | .writer _ (.written .body true) :: _ => true
      | _ => false
  | _ => false

/-- A writer that goes on does what its handlers may do. -/
lemma handles_runWriter (s : InjecteeClient α) (between : List α) (w : PopId) (wake : Wake)
    (htoken : wake = .token → s.queue.items = [] → s.reconnecting = false)
    (hbody : wake = .written .body true → s.reconnecting = false) :
    Handles s.view (.writer w wake) (s.runWriter w between wake).view := by
  cases wake with
  | token =>
    unfold runWriter BlockingQueue.takeItem
    cases hitems : s.queue.items with
    | nil =>
      obtain ⟨now, hnow⟩ := view_receive s w
      rw [hnow]
      exact .again w now (htoken rfl hitems)
    | cons item items =>
      rw [view_startOp _ rfl]
      exact .take w
  | cancelled =>
    rw [runWriter, view_lose]
    exact .cancelled w
  | written part ok =>
    cases ok with
    | false =>
      rw [runWriter, view_lose]
      exact .unsent w part
    | true =>
      cases part with
      | length =>
        rw [runWriter, view_startOp _ rfl]
        exact .sentLength w
      | body =>
        obtain ⟨now, hnow⟩ := view_receive s w
        rw [runWriter, hnow]
        exact .sentBody w now (hbody rfl)

/-- An `open_session` that has failed does what its handler may do. -/
lemma handles_openFailed (s : InjecteeClient α) (late : Bool) (between : List α)
    (stage : OpenStage) :
    Handles s.view (.openSession stage false) (s.openFailed late between).view := by
  unfold openFailed
  cases hdown : s.reconnecting with
  | false =>
    rw [if_neg Bool.false_ne_true, view_lose]
    exact .failed stage hdown
  | true =>
    rw [if_pos rfl]
    have hretry : ({ s.closeSocket with armed := !late } : InjecteeClient α).view =
        { s.view.closeSocket with armed := !late } := by
      rw [← view_closeSocket]
      rfl
    rw [hretry]
    exact .retry stage late hdown

/-- A handler that matters does what handlers may do. -/
lemma handles_runTask (s : InjecteeClient α) (late : Bool) (between : List α) {task : Task}
    (hmatters : task.matters = true)
    (htoken : ∀ w, task = .writer w .token → s.queue.items = [] → s.reconnecting = false)
    (hbody : ∀ w, task = .writer w (.written .body true) → s.reconnecting = false) :
    Handles s.view task (s.runTask late between task).view := by
  cases task with
  | send => cases hmatters
  | reader msg => cases hmatters
  | timer =>
    rw [runTask, view_attempt]
    exact .timer
  | writer w wake =>
    rw [runTask]
    exact handles_runWriter s between w wake (fun hwake => htoken w (congrArg _ hwake))
      (fun hwake => hbody w (congrArg _ hwake))
  | openSession stage ok =>
    cases ok with
    | false =>
      rw [runTask]
      exact handles_openFailed s late between stage
    | true =>
      cases stage with
      | connect =>
        rw [runTask, view_startOp _ rfl]
        exact .connected
      | length =>
        rw [runTask, view_startOp _ rfl]
        exact .introduced
      | body =>
        obtain ⟨now, hnow⟩ := s.view_startSession
        rw [runTask, hnow]
        exact .session now

/-- A handler that does not matter wakes a writer, loses a session that has a `reader`, or leaves
the view alone. -/
lemma move_runTask (s : InjecteeClient α) (late : Bool) (between : List α) {task : Task}
    (hmatters : task.matters = false) (hreader : task = .reader none → s.sessions ≠ 0) :
    Move s.view (s.runTask late between task).view := by
  cases task with
  | timer => cases hmatters
  | writer w wake => cases hmatters
  | openSession stage ok => cases hmatters
  | send =>
    unfold runTask
    rcases s.queue.asyncSend_cases with ⟨w, receives, hreceives, heq⟩ | ⟨-, tokens, sends, -, heq⟩
    · rw [heq]
      have hwake := Move.wake (v := s.view) w receives hreceives
      simpa [view, List.filter_cons] using hwake
    · rw [heq]
      have hidle : ({ s with
          queue := { s.queue with tokens, sends }
          ready := s.ready ++ [] } : InjecteeClient α).view = s.view := by
        simp [view]
      exact hidle ▸ .idle
  | reader msg =>
    cases msg with
    | none =>
      rw [runTask, view_lose]
      exact .lose (hreader rfl)
    | some msg =>
      have hprocess : (s.process msg).view = s.view := by
        unfold process
        split <;> rfl
      rw [runTask, view_startRead, hprocess]
      exact .idle

/-- A list around one of its entries. -/
lemma exists_around {β : Type*} {l : List β} {i : ℕ} {x : β} (h : l[i]? = some x) :
    ∃ pre post, l = pre ++ x :: post ∧ l.eraseIdx i = pre ++ post := by
  obtain ⟨hi, rfl⟩ := List.getElem?_eq_some_iff.mp h
  refine ⟨l.take i, l.drop (i + 1), ?_, List.eraseIdx_eq_take_drop_succ l i⟩
  rw [← List.drop_eq_getElem_cons hi, List.take_append_drop]

/-- An operation that completes is a move of the view. -/
lemma move_complete (s : InjecteeClient α) (i : ℕ) (outcome : Option InjectorMessage) :
    Move s.view (s.complete i outcome).view := by
  unfold complete
  cases hop : s.pending[i]? with
  | none => exact .idle
  | some op =>
    obtain ⟨pre, post, hpending, herase⟩ := exists_around hop
    dsimp only
    rw [herase]
    cases hmatters : op.matters with
    | true =>
      have hops : s.view.ops = pre.filter SocketOp.matters ++ op ::
          post.filter SocketOp.matters := by
        simp [view, hpending, hmatters]
      have hmove := Move.complete _ _ op outcome hops
      simpa [view, hmatters] using hmove
    | false =>
      obtain rfl : op = .read := by cases op <;> first | rfl | cases hmatters
      have hidle : ({ s with
          connected := s.connected || (SocketOp.read = .openSession .connect && outcome.isSome)
          pending := pre ++ post
          ready := s.ready ++ [SocketOp.read.task outcome] } : InjecteeClient α).view = s.view := by
        simp [view, hpending]
      rw [hidle]
      exact .idle

/-- The handler that the io thread runs makes a move of the view, unless it makes a writer of a
session that is over wait again. -/
lemma move_run (s : InjecteeClient α) (late : Bool) (between : List α)
    (hfresh : s.sessions = 0 → s.NoReader) (hcalm : s.waitsAgain (.run late between) = false) :
    Move s.view (s.run late between).view := by
  unfold run
  cases hready : s.ready with
  | nil => exact .idle
  | cons task ready =>
    cases hmatters : task.matters with
    | true =>
      have hagenda : s.view.agenda = task :: ready.filter Task.matters := by
        simp [view, hready, hmatters]
      refine .run task _ _ hagenda
        (handles_runTask ({ s with ready } : InjecteeClient α) late between hmatters ?_ ?_)
      · rintro w rfl hitems
        simp only [waitsAgain, hready, Bool.and_eq_false_iff] at hcalm
        refine hcalm.resolve_right ?_
        simp [show s.queue.items = [] from hitems]
      · rintro w rfl
        simpa [waitsAgain, hready] using hcalm
    | false =>
      have hview : ({ s with ready } : InjecteeClient α).view = s.view := by
        simp [view, hready, hmatters]
      rw [← hview]
      refine move_runTask ({ s with ready } : InjecteeClient α) late between hmatters ?_
      rintro rfl hzero
      have hreader := (hfresh hzero).2 (.reader none) (by rw [hready]; exact List.mem_cons_self)
      cases hreader

/-- Every step is a move of the view, unless it makes a writer of a session that is over wait
again. -/
theorem move_step (s : InjecteeClient α) (action : ClientAction α)
    (hfresh : s.sessions = 0 → s.NoReader) (hcalm : s.waitsAgain action = false) :
    Move s.view (s.step action).1.view := by
  cases action with
  | push item =>
    have hpush := s.view_push item
    exact hpush.symm ▸ .idle
  | complete i outcome => exact s.move_complete i outcome
  | fire =>
    unfold step fire
    cases harmed : s.armed with
    | false => exact .idle
    | true =>
      have hmove := Move.fire (v := s.view) harmed
      simpa [view, List.filter_cons] using hmove
  | run late between => exact s.move_run late between hfresh hcalm

/-! ## Readers -/

/-- Only a read that is started makes a `reader`. -/
lemma NoReader.startOp (h : s.NoReader) {op : SocketOp} (hop : op.matters = true) :
    (s.startOp op).NoReader := by
  unfold InjecteeClient.startOp
  split_ifs
  · exact ⟨List.forall_mem_append.mpr ⟨h.1, List.forall_mem_singleton.mpr hop⟩, h.2⟩
  · refine ⟨h.1, List.forall_mem_append.mpr ⟨h.2, List.forall_mem_singleton.mpr ?_⟩⟩
    rw [op.isReader_task, hop]
    rfl

/-- A writer that receives makes no `reader`. -/
lemma NoReader.receive (h : s.NoReader) (w : PopId) : (s.receive w).NoReader := by
  refine ⟨h.1, ?_⟩
  unfold InjecteeClient.receive
  dsimp only
  split_ifs
  · exact List.forall_mem_append.mpr ⟨h.2, List.forall_mem_singleton.mpr rfl⟩
  · exact h.2

/-- A socket that is closed makes no `reader`. -/
lemma NoReader.closeSocket (h : s.NoReader) : s.closeSocket.NoReader := by
  refine ⟨fun op hop => absurd hop List.not_mem_nil, List.forall_mem_append.mpr ⟨h.2, ?_⟩⟩
  intro task htask
  obtain ⟨op, hop, rfl⟩ := List.mem_map.mp htask
  rw [op.isReader_task, h.1 op hop]
  rfl

/-- Pushes make no `reader`. -/
lemma NoReader.pushAll (h : s.NoReader) (items : List α) : (items.foldl push s).NoReader := by
  induction items generalizing s with
  | nil => exact h
  | cons item items ih =>
    refine ih ⟨h.1, ?_⟩
    unfold push
    dsimp only
    split_ifs
    · exact List.forall_mem_append.mpr ⟨h.2, List.forall_mem_singleton.mpr rfl⟩
    · exact h.2

/-- A session that is lost makes no `reader`. -/
lemma NoReader.lose (h : s.NoReader) (between : List α) : (s.lose between).NoReader := by
  have haborted : ({ s with
      queue := s.queue.abort.1
      ready := s.ready ++ s.queue.abort.2.map (.writer · .cancelled) } :
        InjecteeClient α).NoReader := by
    refine ⟨h.1, List.forall_mem_append.mpr ⟨h.2, fun task htask => ?_⟩⟩
    obtain ⟨w, -, rfl⟩ := List.mem_map.mp htask
    rfl
  have hcancel : (s.cancel between).NoReader := haborted.pushAll between
  have hstop : (s.stop between).NoReader := NoReader.closeSocket hcancel
  unfold InjecteeClient.lose beginReconnect
  split_ifs
  · exact hstop
  · exact hstop

/-- An operation other than a read completes. -/
lemma NoReader.complete (h : s.NoReader) (i : ℕ) (outcome : Option InjectorMessage) :
    (s.complete i outcome).NoReader := by
  unfold InjecteeClient.complete
  cases hop : s.pending[i]? with
  | none => exact h
  | some op =>
    have hmatters := h.1 op (List.mem_of_getElem? hop)
    refine ⟨fun op' hop' => h.1 op' (List.mem_of_mem_eraseIdx hop'),
      List.forall_mem_append.mpr ⟨h.2, List.forall_mem_singleton.mpr ?_⟩⟩
    rw [op.isReader_task, hmatters]
    rfl

/-- The timer makes no `reader`. -/
lemma NoReader.fire (h : s.NoReader) : s.fire.NoReader := by
  unfold InjecteeClient.fire
  split_ifs
  · exact ⟨h.1, List.forall_mem_append.mpr ⟨h.2, List.forall_mem_singleton.mpr rfl⟩⟩
  · exact h

/-- A writer makes no `reader`. -/
lemma NoReader.runWriter (h : s.NoReader) (w : PopId) (between : List α) (wake : Wake) :
    (s.runWriter w between wake).NoReader := by
  cases wake with
  | token =>
    unfold InjecteeClient.runWriter BlockingQueue.takeItem
    cases s.queue.items with
    | nil => exact h.receive w
    | cons item items =>
      have hqueue : ({ s with queue := { s.queue with items } } : InjecteeClient α).NoReader := h
      have hstart : (InjecteeClient.startOp _ (.write w .length)).NoReader := hqueue.startOp rfl
      exact hstart
  | cancelled => exact h.lose between
  | written part ok =>
    cases ok with
    | false =>
      rw [InjecteeClient.runWriter]
      exact h.lose between
    | true => cases part with
      | length => exact h.startOp rfl
      | body => exact h.receive w

/-- A handler makes no `reader` unless it begins a session. -/
lemma NoReader.runTask (h : s.NoReader) (late : Bool) (between : List α) {task : Task}
    (htask : task.isReader = false) (hzero : (s.runTask late between task).sessions = 0) :
    (s.runTask late between task).NoReader := by
  cases task with
  | send =>
    refine ⟨h.1, List.forall_mem_append.mpr ⟨h.2, fun task htask => ?_⟩⟩
    obtain ⟨w, -, rfl⟩ := List.mem_map.mp htask
    rfl
  | reader msg => cases htask
  | writer w wake => exact h.runWriter w between wake
  | timer => exact ⟨List.forall_mem_singleton.mpr rfl, h.closeSocket.2⟩
  | openSession stage ok =>
    cases ok with
    | false =>
      rw [InjecteeClient.runTask]
      unfold openFailed
      split_ifs
      · exact h.closeSocket
      · exact h.lose between
    | true =>
      cases stage with
      | connect => exact h.startOp rfl
      | length => exact h.startOp rfl
      | body =>
        obtain ⟨now, hnow⟩ := s.view_startSession
        have hsessions : s.startSession.sessions = s.sessions + 1 := by
          have hview := congrArg ClientView.sessions hnow
          unfold ClientView.startSession ClientView.receive at hview
          cases now <;> exact hview
        exact absurd (hsessions.symm.trans hzero) (Nat.succ_ne_zero _)

/-- Before the first session there is no `reader`. -/
lemma NoReader.step (h : s.NoReader) (action : ClientAction α)
    (hzero : (s.step action).1.sessions = 0) : (s.step action).1.NoReader := by
  cases action with
  | push item => exact h.pushAll [item]
  | complete i outcome => exact h.complete i outcome
  | fire => exact h.fire
  | run late between =>
    change (s.run late between).sessions = 0 at hzero
    change (s.run late between).NoReader
    unfold run at hzero ⊢
    cases hready : s.ready with
    | nil => exact h
    | cons task ready =>
      rw [hready] at hzero
      have hrest : ({ s with ready } : InjecteeClient α).NoReader :=
        ⟨h.1, fun task' htask' => h.2 task' (by rw [hready]; exact List.mem_cons_of_mem _ htask')⟩
      exact hrest.runTask late between (h.2 task (by rw [hready]; exact List.mem_cons_self)) hzero

/-! ## Runs -/

/-- No handler takes a session back. -/
lemma sessions_le_of_handles {v v' : ClientView} {task : Task} (h : Handles v task v') :
    v.sessions ≤ v'.sessions := by
  have hstart (op : SocketOp) : v.sessions ≤ (v.startOp op).sessions := by
    unfold ClientView.startOp
    split_ifs <;> exact Nat.le_refl _
  have hreceive (v : ClientView) (w : PopId) (now : Bool) :
      v.sessions ≤ (v.receive w now).sessions := by
    unfold ClientView.receive
    split_ifs <;> exact Nat.le_refl _
  cases h with
  | take w => exact hstart _
  | again w now hup => exact hreceive _ _ _
  | cancelled w => exact Nat.le_refl _
  | sentLength w => exact hstart _
  | sentBody w now hup => exact hreceive _ _ _
  | unsent w part => exact Nat.le_refl _
  | timer => exact Nat.le_refl _
  | connected => exact hstart _
  | introduced => exact hstart _
  | session now =>
    exact Nat.le_trans (Nat.le_succ _)
      (hreceive { v with reconnecting := false, sessions := v.sessions + 1 } _ now)
  | failed stage hfirst => exact Nat.le_refl _
  | retry stage late hup => exact Nat.le_refl _

/-- No move takes a session back. -/
lemma sessions_le_of_move {v v' : ClientView} (h : Move v v') : v.sessions ≤ v'.sessions := by
  cases h with
  | run task agenda v' hagenda hrun =>
    have hle := sessions_le_of_handles hrun
    exact hle
  | _ => exact Nat.le_refl _

/-- The view is in one of the shapes, and before the first session there is no `reader`. -/
structure Orderly (s : InjecteeClient α) : Prop where
  shape : Shape s.view
  fresh : s.sessions = 0 → s.NoReader

/-- A step that makes no writer of a session that is over wait again. -/
lemma Orderly.step (h : s.Orderly) {action : ClientAction α} (hcalm : s.waitsAgain action = false) :
    (s.step action).1.Orderly := by
  have hmove := s.move_step action h.fresh hcalm
  refine ⟨h.shape.move hmove, fun hzero => ?_⟩
  have hle : s.sessions ≤ (s.step action).1.sessions := sessions_le_of_move hmove
  exact (h.fresh (by omega)).step action hzero

/-- The writers that are alive are those of the view. -/
lemma writers_eq (s : InjecteeClient α) : s.writers =
    s.view.parked ++ s.view.ops.filterMap SocketOp.writer? ++
      s.view.agenda.filterMap Task.writer? := by
  have hops : (s.pending.filter SocketOp.matters).filterMap SocketOp.writer? =
      s.pending.filterMap SocketOp.writer? := by
    rw [List.filterMap_filter]
    exact List.filterMap_congr fun op _ => by cases op <;> rfl
  have hagenda : (s.ready.filter Task.matters).filterMap Task.writer? =
      s.ready.filterMap Task.writer? := by
    rw [List.filterMap_filter]
    exact List.filterMap_congr fun task _ => by cases task <;> rfl
  unfold writers view
  rw [hops, hagenda]

/-- In each shape there is no writer, or that of the last session. -/
lemma writers_of_shape {v : ClientView} (h : Shape v) :
    v.parked ++ v.ops.filterMap SocketOp.writer? ++ v.agenda.filterMap Task.writer? = [] ∨
      v.parked ++ v.ops.filterMap SocketOp.writer? ++ v.agenda.filterMap Task.writer? =
        [v.sessions] := by
  cases h with
  | resting connected n => exact Or.inl rfl
  | ringing connected n => exact Or.inl rfl
  | opening stage reconnecting connected n hfirst => exact Or.inl rfl
  | opened stage ok reconnecting connected n hfirst => exact Or.inl rfl
  | ended connected n => exact Or.inl rfl
  | _ => exact Or.inr rfl

/-- In every run in which no writer of a session that is over waits for a token again, at most one
writer is alive, that of the session that was started last. -/
theorem one_writer (max capacity : ℕ) (actions : List (ClientAction α))
    (h : Mealy.Along step (fun s action => s.waitsAgain action = false) (start α max capacity)
      actions) :
    let s := Mealy.run step (start α max capacity) actions
    s.writers = [] ∨ s.writers = [s.sessions] := by
  intro s
  have hstart : Orderly (start α max capacity) :=
    ⟨.opening .connect false false 0 (Or.inr rfl),
      fun _ => ⟨List.forall_mem_singleton.mpr rfl, fun task htask => absurd htask List.not_mem_nil⟩⟩
  have hrun : Orderly s := Mealy.run_invariant_of (fun _ _ hcalm h => h.step hcalm) hstart h
  rw [writers_eq]
  exact writers_of_shape hrun.shape

/-- The three operations of `open_session` succeed. -/
def opens : List (ClientAction InjecteeMessage) :=
  [.complete 0 (some {}), .run false [], .complete 0 (some {}), .run false [],
    .complete 0 (some {}), .run false []]

/-- A session that is lost while its writer waits is followed by one with one writer. -/
theorem one_writer_after_loss :
    let s := Mealy.run step (start InjecteeMessage 1024 1024)
      (opens ++ [.complete 0 none, .run false [], .run false [], .fire, .run false []] ++ opens)
    s.writers = [] ∨ s.writers = [s.sessions] := by
  have hcalm : Mealy.Along step (fun s action => s.waitsAgain action = false)
      (start InjecteeMessage 1024 1024)
      (opens ++ [.complete 0 none, .run false [], .run false [], .fire, .run false []] ++
        opens) := by
    decide
  exact one_writer 1024 1024 _ hcalm

/-- A report is pushed.  If the reader fails when the writer has its token and not yet the report,
or when the body of its message is written, the writer outlives the session, and in the next one
there are two. -/
theorem not_one_writer_report :
    let token := Mealy.run step (start InjecteeMessage 1024 1024)
      (opens ++ [.push {}, .complete 0 none, .run false [], .run false [], .run false [], .fire,
        .run false []] ++ opens)
    let body := Mealy.run step (start InjecteeMessage 1024 1024)
      (opens ++ [.push {}, .run false [], .run false [], .complete 1 (some {}), .run false [],
        .complete 0 none, .complete 0 (some {}), .run false [], .run false [], .fire,
        .run false []] ++ opens)
    (token.sessions = 2 ∧ token.reconnecting = false ∧ token.writers = [1, 2]) ∧
      body.sessions = 2 ∧ body.reconnecting = false ∧ body.writers = [1, 2] := by
  intro token body
  exact ⟨⟨rfl, rfl, rfl⟩, rfl, rfl, rfl⟩

end InjecteeClient

end Encapsule
