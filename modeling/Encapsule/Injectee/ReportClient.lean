import Encapsule.Common.BlockingQueue
import Encapsule.Injectee.Client

/-!
# The client of an injectee

`injectee_client` of `client.hpp` on its single io thread.  The io thread runs the handlers that are
ready in order; operations on the socket, the timer and receives from the report queue make handlers
ready when they complete.  An operation that is aborted, or started on a socket that is not
connected, makes its handler ready at once, with a failure.  Victim threads push reports at any
time.  How long the timer runs, and whether the deadline for reconnecting has passed, is up to the
environment.

* `InjecteeClient.runTask`: what each handler does until it suspends.
* `InjecteeClient.step`: a push, the completion of an operation, or the next handler.
-/

namespace Encapsule

/-- The two writes of `async_write_message`. -/
inductive WritePart where
  | length
  | body
  deriving DecidableEq

/-- The operations of `open_session`. -/
inductive OpenStage where
  | connect
  | length
  | body
  deriving DecidableEq

/-- An operation on the socket that is in progress. -/
inductive SocketOp where
  | read
  | write (writer : PopId) (part : WritePart)
  | openSession (stage : OpenStage)
  deriving DecidableEq

/-- What resumes a `writer`. -/
inductive Wake where
  | token
  /-- Its receive was aborted. -/
  | cancelled
  | written (part : WritePart) (ok : Bool)
  deriving DecidableEq

/-- A handler that is ready. -/
inductive Task where
  /-- A token send that a `push` has asked for. -/
  | send
  /-- A `reader`, with the message it has read, if the read succeeded. -/
  | reader (msg : Option InjectorMessage)
  | writer (writer : PopId) (wake : Wake)
  | timer
  | openSession (stage : OpenStage) (ok : Bool)
  deriving DecidableEq

/-- The handler of an operation.  The outcome is what a read has read if the operation succeeded. -/
def SocketOp.task (outcome : Option InjectorMessage) : SocketOp → Task
  | .read => .reader outcome
  | .write writer part => .writer writer (.written part outcome.isSome)
  | .openSession stage => .openSession stage outcome.isSome

/-- `injectee_client`, with the report queue, the configuration, and what is under way on the io
thread.  A `writer` has the number of its session. -/
structure InjecteeClient (α : Type*) where
  queue : BlockingQueue α
  config : InjecteeConfig := {}
  reconnecting : Bool := false
  /-- The socket is connected. -/
  connected : Bool := false
  /-- The timer is running. -/
  armed : Bool := false
  pending : List SocketOp := []
  ready : List Task := []
  /-- The number of sessions that were started. -/
  sessions : ℕ := 0

/-- What happens to a client. -/
inductive ClientAction (α : Type*) where
  /-- A victim thread pushes a report. -/
  | push (item : α)
  /-- An operation completes. -/
  | complete (i : ℕ) (outcome : Option InjectorMessage)
  /-- The timer expires. -/
  | fire
  /-- The io thread runs the first handler.  `late` is whether the deadline has passed, and
  `between` what victim threads push between the two halves of a `cancel` of the handler. -/
  | run (late : Bool) (between : List α)

namespace InjecteeClient

variable {α : Type*}

/-- `push` of the report queue. -/
def push (s : InjecteeClient α) (item : α) : InjecteeClient α :=
  let (queue, tokenNeeded) := s.queue.pushItem item
  { s with queue, ready := if tokenNeeded then s.ready ++ [.send] else s.ready }

/-- An operation on the socket is started. -/
def startOp (s : InjecteeClient α) (op : SocketOp) : InjecteeClient α :=
  if s.connected then { s with pending := s.pending ++ [op] }
  else { s with ready := s.ready ++ [op.task none] }

/-- A `writer` receives from the channel in `pop`. -/
def receive (s : InjecteeClient α) (writer : PopId) : InjecteeClient α :=
  let (queue, now) := s.queue.asyncReceive writer
  { s with queue, ready := if now then s.ready ++ [.writer writer .token] else s.ready }

/-- `cancel` of the report queue. -/
def cancel (s : InjecteeClient α) (between : List α) : InjecteeClient α :=
  let (queue, aborted) := s.queue.abort
  let s := { s with queue, ready := s.ready ++ aborted.map (.writer · .cancelled) }
  let s := between.foldl push s
  let (queue, stranded) := s.queue.drain
  { s with queue := { queue with drops := queue.drops + stranded } }

/-- `close_socket`. -/
def closeSocket (s : InjecteeClient α) : InjecteeClient α :=
  { s with
    connected := false
    pending := []
    ready := s.ready ++ s.pending.map (SocketOp.task none) }

/-- `stop`. -/
def stop (s : InjecteeClient α) (between : List α) : InjecteeClient α :=
  let s := s.cancel between
  ({ s with config := s.config.drop } : InjecteeClient α).closeSocket

/-- `begin_reconnect`. -/
def beginReconnect (s : InjecteeClient α) : InjecteeClient α :=
  if s.reconnecting then s else { s with reconnecting := true, armed := true }

/-- What `reader` and `writer` do when they fail. -/
def lose (s : InjecteeClient α) (between : List α) : InjecteeClient α :=
  (s.stop between).beginReconnect

/-- `attempt`, up to its first suspension. -/
def attempt (s : InjecteeClient α) : InjecteeClient α :=
  { s.closeSocket with pending := [.openSession .connect] }

/-- `open_session` has failed: in `attempt` when the client is reconnecting, else in `start`. -/
def openFailed (s : InjecteeClient α) (late : Bool) (between : List α) : InjecteeClient α :=
  if s.reconnecting then { s.closeSocket with armed := !late } else s.lose between

/-- `open_session` has succeeded: `reader` and `writer` are started. -/
def startSession (s : InjecteeClient α) : InjecteeClient α :=
  let s := { s with reconnecting := false, sessions := s.sessions + 1 }
  (s.startOp .read).receive s.sessions

/-- `process`. -/
def process (s : InjecteeClient α) (msg : InjectorMessage) : InjecteeClient α :=
  match compareMessage "config" msg.opcode msg.config with
  | some cfg => { s with config := .set cfg }
  | none => s

/-- A `writer` goes on. -/
def runWriter (s : InjecteeClient α) (writer : PopId) (between : List α) :
    Wake → InjecteeClient α
  | .token =>
    match s.queue.takeItem with
    | (queue, some _) => ({ s with queue } : InjecteeClient α).startOp (.write writer .length)
    | (_, none) => s.receive writer
  | .cancelled => s.lose between
  | .written .length true => s.startOp (.write writer .body)
  | .written .body true => s.receive writer
  | .written _ false => s.lose between

/-- A handler runs until it suspends. -/
def runTask (s : InjecteeClient α) (late : Bool) (between : List α) : Task → InjecteeClient α
  | .send =>
    let (queue, receiver) := s.queue.asyncSend
    { s with queue, ready := s.ready ++ receiver.toList.map (.writer · .token) }
  | .reader (some msg) => (s.process msg).startOp .read
  | .reader none => s.lose between
  | .writer writer wake => s.runWriter writer between wake
  | .timer => s.attempt
  | .openSession .connect true => s.startOp (.openSession .length)
  | .openSession .length true => s.startOp (.openSession .body)
  | .openSession .body true => s.startSession
  | .openSession _ false => s.openFailed late between

/-- An operation completes. -/
def complete (s : InjecteeClient α) (i : ℕ) (outcome : Option InjectorMessage) :
    InjecteeClient α :=
  match s.pending[i]? with
  | none => s
  | some op =>
    { s with
      connected := s.connected || (op = .openSession .connect && outcome.isSome)
      pending := s.pending.eraseIdx i
      ready := s.ready ++ [op.task outcome] }

/-- The timer expires, if it is running. -/
def fire (s : InjecteeClient α) : InjecteeClient α :=
  if s.armed then { s with armed := false, ready := s.ready ++ [.timer] } else s

/-- The io thread runs the first handler. -/
def run (s : InjecteeClient α) (late : Bool) (between : List α) : InjecteeClient α :=
  match s.ready with
  | [] => s
  | task :: ready => ({ s with ready } : InjecteeClient α).runTask late between task

/-- One step. -/
def step (s : InjecteeClient α) : ClientAction α → InjecteeClient α × Unit
  | .push item => (s.push item, ())
  | .complete i outcome => (s.complete i outcome, ())
  | .fire => (s.fire, ())
  | .run late between => (s.run late between, ())

/-- A client whose `start` has begun to connect. -/
def start (α : Type*) (max capacity : ℕ) : InjecteeClient α :=
  { queue := { max, capacity }, pending := [.openSession .connect] }

end InjecteeClient

/-! ## Writers -/

/-- The `writer` that an operation belongs to. -/
def SocketOp.writer? : SocketOp → Option PopId
  | .write w _ => some w
  | _ => none

/-- The `writer` that a handler resumes. -/
def Task.writer? : Task → Option PopId
  | .writer w _ => some w
  | _ => none

namespace InjecteeClient

variable {α : Type*}

/-- The `writer` coroutines that are alive: those that wait for a token, those with a write in
progress, and those that are ready. -/
def writers (s : InjecteeClient α) : List PopId :=
  s.queue.receives ++ s.pending.filterMap SocketOp.writer? ++ s.ready.filterMap Task.writer?

end InjecteeClient

end Encapsule
