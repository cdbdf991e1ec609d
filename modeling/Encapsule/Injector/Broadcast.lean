import Encapsule.Foundation.Journal
import Encapsule.Foundation.Mealy
import Encapsule.Injector.Server

/-!
# Broadcasting the configuration

The front ends change the configuration of the server under `config_mutex` and post one push for
each session of a snapshot of the table.  A session registers on the io thread: it enters the table,
reads the configuration under the same lock and writes it to its socket, and no posted push runs in
between.  A push is taken as one frame that is delivered.

* `Broadcast.step`: the steps of the setters, of the hellos and of the ends of sessions.
* `Broadcast.converges`: once nothing is outstanding, the last configuration that was delivered to a
  registered session is that of the server.
-/

namespace Encapsule

/-- Where the setter that holds `config_mutex` is. -/
inductive SetterStage where
  /-- Nobody holds the lock. -/
  | idle
  /-- The configuration is changed. -/
  | written
  /-- `cfg` is still to be posted to these sessions. -/
  | posting (cfg : InjectorConfig) (sessions : List SessionId)
  deriving DecidableEq

/-- Where the io thread is in the `pid` branch of `process`. -/
inductive HelloStage where
  | idle
  /-- After `open`. -/
  | opened (session : SessionId)
  /-- After `get_config`. -/
  | read (session : SessionId) (cfg : InjectorConfig)
  deriving DecidableEq

/-- The server, its setters and the hello that is handled, with the pushes that are posted and the
frames that were delivered, oldest first. -/
structure Broadcast where
  server : InjectorServer
  setter : SetterStage := .idle
  hello : HelloStage := .idle
  posted : List (SessionId × InjectorConfig) := []
  delivered : List (SessionId × InjectorConfig) := []
  /-- The sessions whose socket is closed. -/
  closed : List SessionId := []

/-- A step of one of the threads. -/
inductive BroadcastAction where
  | set (call : ConfigSetter)
  | snapshot
  | post
  | unlock
  | «open» (pid : DWORD) (session : SessionId)
  | getConfig
  | config
  | push
  /-- `inject`, of the front end or of the io thread. -/
  | inject (pid : DWORD) (host : InjectHost)
  /-- The socket of a session is closed. -/
  | close (session : SessionId)
  | remove (pid : DWORD) (ending : SessionEnd)

namespace Broadcast

/-- A frame is delivered, unless the socket is closed. -/
def deliver (s : Broadcast) (session : SessionId) (cfg : InjectorConfig) : Broadcast :=
  if session ∈ s.closed then s else { s with delivered := s.delivered ++ [(session, cfg)] }

/-- A setter takes the lock and changes the configuration. -/
def set (s : Broadcast) (call : ConfigSetter) : Broadcast :=
  match s.setter with
  | .idle =>
    { s with
      setter := .written
      server := { s.server with config := call.write s.server.config } }
  | _ => s

/-- `broadcast_config` copies the configuration and the sessions. -/
def snapshot (s : Broadcast) : Broadcast :=
  match s.setter with
  | .written => { s with setter := .posting s.server.config s.server.snapshot }
  | _ => s

/-- The next `co_spawn` of `broadcast_config`. -/
def post (s : Broadcast) : Broadcast :=
  match s.setter with
  | .posting cfg (session :: sessions) =>
    { s with setter := .posting cfg sessions, posted := s.posted ++ [(session, cfg)] }
  | _ => s

/-- The setter gives the lock back. -/
def unlock (s : Broadcast) : Broadcast :=
  match s.setter with
  | .posting _ [] => { s with setter := .idle }
  | _ => s

/-- An accepted hello enters the table. -/
def «open» (s : Broadcast) (pid : DWORD) (session : SessionId) : Broadcast :=
  match s.hello with
  | .idle => { s with server := (s.server.open pid session).1, hello := .opened session }
  | _ => s

/-- The hello reads the configuration when nobody holds the lock. -/
def getConfig (s : Broadcast) : Broadcast :=
  match s.hello, s.setter with
  | .opened session, .idle => { s with hello := .read session s.server.config }
  | _, _ => s

/-- The hello writes what it read. -/
def config (s : Broadcast) : Broadcast :=
  match s.hello with
  | .read session cfg => { s.deliver session cfg with hello := .idle }
  | _ => s

/-- The io thread runs the first push that is posted. -/
def push (s : Broadcast) : Broadcast :=
  match s.hello, s.posted with
  | .idle, (session, cfg) :: posted => { s.deliver session cfg with posted }
  | _, _ => s

/-- A session that has closed its socket leaves the table. -/
def remove (s : Broadcast) (pid : DWORD) (ending : SessionEnd) : Broadcast :=
  if ∀ session ∈ s.server.clients.lookup pid, session ∈ s.closed then
    { s with server := s.server.remove pid ending }
  else s

/-- One step.  What a lock or the order of a thread does not admit changes nothing. -/
def step (s : Broadcast) : BroadcastAction → Broadcast × Unit
  | .set call => (s.set call, ())
  | .snapshot => (s.snapshot, ())
  | .post => (s.post, ())
  | .unlock => (s.unlock, ())
  | .open pid session => (s.open pid session, ())
  | .getConfig => (s.getConfig, ())
  | .config => (s.config, ())
  | .push => (s.push, ())
  | .inject pid host => ({ s with server := (s.server.inject pid host).1 }, ())
  | .close session => ({ s with closed := session :: s.closed }, ())
  | .remove pid ending => (s.remove pid ending, ())

/-! ## What is on its way -/

/-- The configuration that a hello is about to write. -/
def ownFrame (s : Broadcast) : List (SessionId × InjectorConfig) :=
  match s.hello with
  | .read session cfg => [(session, cfg)]
  | _ => []

/-- What the setter is still to post. -/
def unposted (s : Broadcast) : List (SessionId × InjectorConfig) :=
  match s.setter with
  | .posting cfg sessions => sessions.map (·, cfg)
  | _ => []

/-- The pushes that are posted or still to be. -/
def pushes (s : Broadcast) : List (SessionId × InjectorConfig) := s.posted ++ s.unposted

/-- Everything that was or will be delivered, in order. -/
def line (s : Broadcast) : List (SessionId × InjectorConfig) :=
  s.delivered ++ s.ownFrame ++ s.pushes

/-- The session is registered: it is in the table, and has not closed its socket to leave it. -/
def Live (s : Broadcast) (session : SessionId) : Prop :=
  session ∈ s.server.snapshot ∧ session ∉ s.closed

instance (s : Broadcast) (session : SessionId) : Decidable (s.Live session) :=
  inferInstanceAs (Decidable (session ∈ s.server.snapshot ∧ session ∉ s.closed))

/-- The session has the configuration of the server at the end of the line. -/
def UpToDate (s : Broadcast) (session : SessionId) : Prop :=
  Journal.latest session s.line = some s.server.config

/-- The session is about to read the configuration, and nothing is pushed to it. -/
def Reading (s : Broadcast) (session : SessionId) : Prop :=
  s.hello = .opened session ∧ Journal.latest session s.pushes = none

/-- Nothing is pushed to a session that never registered, and every session that is registered is
served unless the next snapshot will serve it. -/
structure Consistent (s : Broadcast) : Prop where
  known : ∀ push ∈ s.pushes, push.1 ∈ s.server.snapshot ∨ push.1 ∈ s.closed
  served : s.setter ≠ .written → ∀ session, s.Live session →
    s.UpToDate session ∨ s.Reading session

variable {s s' : Broadcast}

/-- A step that moves nothing on the line keeps everybody served. -/
lemma Consistent.frame (h : Consistent s) (hconfig : s'.server.config = s.server.config)
    (hsnapshot : s'.server.snapshot = s.server.snapshot) (hclosed : s'.closed = s.closed)
    (hhello : s'.hello = s.hello) (hwritten : s'.setter ≠ .written → s.setter ≠ .written)
    (hpushes : s'.pushes = s.pushes) (hline : s'.line = s.line) : Consistent s' := by
  constructor
  · rw [hpushes, hsnapshot, hclosed]
    exact h.known
  · intro hset session hlive
    unfold Live at hlive
    unfold UpToDate Reading
    rw [hsnapshot, hclosed] at hlive
    rw [hconfig, hhello, hpushes, hline]
    exact h.served (hwritten hset) session hlive

/-- A frame to another session, or to one that can receive it, is as good as delivered. -/
lemma latest_deliver {session session' : SessionId} (hopen : session' ∉ s.closed)
    (cfg : InjectorConfig) (l : List (SessionId × InjectorConfig)) :
    Journal.latest session' ((s.deliver session cfg).delivered ++ l) =
      Journal.latest session' (s.delivered ++ (session, cfg) :: l) := by
  unfold deliver
  by_cases hclosed : session ∈ s.closed
  · have hne : session' ≠ session := by
      rintro rfl
      exact hopen hclosed
    rw [if_pos hclosed, List.append_cons, Journal.latest_append, Journal.latest_append,
      Journal.latest_append, Journal.latest_singleton, if_neg hne, Option.none_or]
  · rw [if_neg hclosed]
    exact congrArg _ (List.append_cons s.delivered (session, cfg) l).symm

/-- A delivery touches nothing but the frames. -/
lemma deliver_frame (s : Broadcast) (session : SessionId) (cfg : InjectorConfig) :
    (s.deliver session cfg).server = s.server ∧ (s.deliver session cfg).setter = s.setter ∧
      (s.deliver session cfg).hello = s.hello ∧ (s.deliver session cfg).posted = s.posted ∧
      (s.deliver session cfg).closed = s.closed := by
  unfold deliver
  split_ifs <;> exact ⟨rfl, rfl, rfl, rfl, rfl⟩

/-! ## The steps -/

/-- A setter that changes the configuration has everybody served later. -/
lemma Consistent.set (h : Consistent s) (call : ConfigSetter) :
    Consistent (s.set call) := by
  unfold Broadcast.set
  cases hsetter : s.setter with
  | idle =>
    have hpushes : s.pushes = s.posted := by simp [pushes, unposted, hsetter]
    refine ⟨fun push hpush => ?_, fun hset => absurd rfl hset⟩
    have hposted : push ∈ s.posted := by simpa [pushes, unposted] using hpush
    exact h.known push (hpushes ▸ hposted)
  | written => exact h
  | posting cfg sessions => exact h

/-- A snapshot serves everybody who is registered. -/
lemma Consistent.snapshot (h : Consistent s) : Consistent s.snapshot := by
  unfold Broadcast.snapshot
  cases hsetter : s.setter with
  | idle => exact h
  | posting cfg sessions => exact h
  | written =>
    have hpushes : s.pushes = s.posted := by simp [pushes, unposted, hsetter]
    constructor
    · intro push hpush
      rcases List.mem_append.mp hpush with hposted | hnew
      · exact h.known push (hpushes ▸ hposted)
      · obtain ⟨session, hsession, rfl⟩ := List.mem_map.mp hnew
        exact Or.inl hsession
    · intro _ session hlive
      left
      unfold UpToDate line pushes unposted
      rw [Journal.latest_append, Journal.latest_append, Journal.latest_map, if_pos hlive.1]
      rfl

/-- A push that is posted stays on the line. -/
lemma Consistent.post (h : Consistent s) : Consistent s.post := by
  unfold Broadcast.post
  cases hsetter : s.setter with
  | idle => exact h
  | written => exact h
  | posting cfg sessions =>
    cases sessions with
    | nil => exact h
    | cons session sessions =>
      refine h.frame rfl rfl rfl rfl (fun _ => by simp [hsetter]) ?_ ?_
      · simp [pushes, unposted, hsetter]
      · simp [line, pushes, ownFrame, unposted, hsetter]

/-- The lock is given back when nothing is left to post. -/
lemma Consistent.unlock (h : Consistent s) : Consistent s.unlock := by
  unfold Broadcast.unlock
  cases hsetter : s.setter with
  | idle => exact h
  | written => exact h
  | posting cfg sessions =>
    cases sessions with
    | cons session sessions => exact h
    | nil =>
      refine h.frame rfl rfl rfl rfl (fun _ => by simp [hsetter]) ?_ ?_
      · simp [pushes, unposted, hsetter]
      · simp [line, pushes, ownFrame, unposted, hsetter]

/-- A session that registers reads the configuration before anything is pushed to it, unless the
next snapshot serves it. -/
lemma Consistent.open (h : Consistent s) (pid : DWORD) (session : SessionId) :
    Consistent (s.open pid session) := by
  unfold Broadcast.open
  cases hhello : s.hello with
  | opened session' => exact h
  | read session' cfg => exact h
  | idle =>
    constructor
    · intro push hpush
      exact (h.known push hpush).imp InjectorServer.mem_snapshot_open.1 id
    · intro hset session' ⟨hmem, hopen⟩
      unfold UpToDate Reading
      have hline : ({ s with
          server := (s.server.open pid session).1
          hello := .opened session } : Broadcast).line = s.line := by
        simp [line, pushes, ownFrame, unposted, hhello]
      rw [InjectorServer.config_open, hline]
      -- a session that was registered before is served already
      by_cases hbefore : session' ∈ s.server.snapshot
      · rcases h.served hset session' ⟨hbefore, hopen⟩ with huptodate | ⟨hreading, -⟩
        · exact Or.inl huptodate
        · rw [hhello] at hreading
          cases hreading
      · obtain rfl := (InjectorServer.mem_snapshot_open.2 hmem).resolve_left hbefore
        refine Or.inr ⟨rfl, Journal.latest_eq_none_iff.mpr fun push hpush heq => ?_⟩
        rcases h.known push hpush with hknown | hclosed
        · exact hbefore (heq ▸ hknown)
        · exact hopen (heq ▸ hclosed)

/-- The configuration that a hello reads is that of the server, and so is the last one that is
pushed to the session, if any is. -/
lemma Consistent.getConfig (h : Consistent s) : Consistent s.getConfig := by
  by_cases hready : (∃ session, s.hello = .opened session) ∧ s.setter = .idle
  · obtain ⟨⟨session, hhello⟩, hsetter⟩ := hready
    have hstep : s.getConfig = { s with hello := .read session s.server.config } := by
      simp [Broadcast.getConfig, hhello, hsetter]
    have hbefore : s.line = s.delivered ++ s.pushes := by simp [line, ownFrame, hhello]
    have hafter : ({ s with hello := .read session s.server.config } : Broadcast).line =
        s.delivered ++ [(session, s.server.config)] ++ s.pushes := rfl
    rw [hstep]
    refine ⟨h.known, fun hset session' hlive => Or.inl ?_⟩
    have hserved := h.served hset session' hlive
    unfold UpToDate Reading at hserved
    unfold UpToDate
    rw [hbefore, Journal.latest_append, hhello] at hserved
    rw [hafter, Journal.latest_append, Journal.latest_append, Journal.latest_singleton]
    rcases hserved with huptodate | ⟨hreading, hnone⟩
    · cases hpushes : Journal.latest session' s.pushes with
      | some cfg =>
        rw [hpushes] at huptodate
        exact huptodate
      | none =>
        rw [hpushes, Option.none_or] at huptodate
        by_cases heq : session' = session
        · rw [if_pos heq]
          rfl
        · rw [if_neg heq, Option.none_or, Option.none_or]
          exact huptodate
    · cases hreading
      rw [hnone, if_pos rfl]
      rfl
  · have hstep : s.getConfig = s := by
      unfold Broadcast.getConfig
      split
      · next session hhello hsetter => exact absurd ⟨⟨session, hhello⟩, hsetter⟩ hready
      · rfl
    rw [hstep]
    exact h

/-- A frame that is delivered was the first on the line. -/
lemma Consistent.deliver (h : Consistent s) (session : SessionId) (cfg : InjectorConfig)
    (hserver : s'.server = s.server) (hsetter : s'.setter = s.setter)
    (hclosed : s'.closed = s.closed) (hidle : s'.hello = .idle)
    (hbusy : ∀ session, s.hello ≠ .opened session)
    (hdelivered : s'.delivered = (s.deliver session cfg).delivered)
    (hpushes : ∀ push ∈ s'.pushes, push ∈ s.pushes)
    (hline : s.line = s.delivered ++ (session, cfg) :: s'.pushes) : Consistent s' := by
  constructor
  · intro push hpush
    rw [hserver, hclosed]
    exact h.known push (hpushes push hpush)
  · intro hset session' hlive
    left
    unfold Live at hlive
    rw [hserver, hclosed] at hlive
    rw [hsetter] at hset
    rcases h.served hset session' hlive with huptodate | ⟨hreading, -⟩
    · have hline' : s'.line = (s.deliver session cfg).delivered ++ s'.pushes := by
        simp [line, ownFrame, hidle, hdelivered]
      unfold UpToDate at huptodate ⊢
      rw [hserver, hline', latest_deliver hlive.2, ← hline, huptodate]
    · exact absurd hreading (hbusy session')

/-- What a hello writes was on the line. -/
lemma Consistent.config (h : Consistent s) : Consistent s.config := by
  unfold Broadcast.config
  cases hhello : s.hello with
  | idle => exact h
  | opened session => exact h
  | read session cfg =>
    obtain ⟨hserver, hsetter, -, hposted, hclosed⟩ := s.deliver_frame session cfg
    have hpushes : ({ s.deliver session cfg with hello := .idle } : Broadcast).pushes =
        s.pushes := by
      simp [pushes, unposted, hsetter, hposted]
    refine h.deliver session cfg hserver hsetter hclosed rfl ?_ rfl ?_ ?_
    · simp [hhello]
    · rw [hpushes]
      exact fun push hpush => hpush
    · rw [hpushes]
      simp [line, ownFrame, hhello]

/-- A push that is run was on the line. -/
lemma Consistent.push (h : Consistent s) : Consistent s.push := by
  by_cases hready : s.hello = .idle ∧ s.posted ≠ []
  · obtain ⟨hhello, hposted⟩ := hready
    obtain ⟨⟨session, cfg⟩, posted, hposted⟩ := List.exists_cons_of_ne_nil hposted
    have hstep : s.push = { s.deliver session cfg with posted } := by
      simp [Broadcast.push, hhello, hposted]
    obtain ⟨hserver, hsetter, hhello', -, hclosed⟩ := s.deliver_frame session cfg
    have hpushes : s.pushes = (session, cfg) ::
        ({ s.deliver session cfg with posted } : Broadcast).pushes := by
      simp [pushes, unposted, hsetter, hposted]
    rw [hstep]
    refine h.deliver session cfg hserver hsetter hclosed
      (hhello'.trans hhello) ?_ rfl ?_ ?_
    · simp [hhello]
    · intro push hpush
      rw [hpushes]
      exact List.mem_cons_of_mem _ hpush
    · simp [line, ownFrame, hhello, hpushes]
  · have hstep : s.push = s := by
      unfold Broadcast.push
      split
      · next session cfg posted hhello hposted =>
        exact absurd ⟨hhello, by rw [hposted]; exact List.cons_ne_nil _ _⟩ hready
      · rfl
    rw [hstep]
    exact h

/-- A session that leaves closes its socket first. -/
lemma Consistent.remove (h : Consistent s) (pid : DWORD) (ending : SessionEnd) :
    Consistent (s.remove pid ending) := by
  unfold Broadcast.remove
  split_ifs with hguard
  · constructor
    · intro push hpush
      rcases h.known push hpush with hknown | hclosed
      · rcases InjectorServer.mem_snapshot_remove.2 hknown with hstays | hleaves
        · exact Or.inl hstays
        · exact Or.inr (hguard _ hleaves)
      · exact Or.inr hclosed
    · intro hset session ⟨hmem, hopen⟩
      have hserved := h.served hset session ⟨InjectorServer.mem_snapshot_remove.1 hmem, hopen⟩
      unfold UpToDate at hserved ⊢
      rw [InjectorServer.config_remove]
      exact hserved
  · exact h

/-- What one step keeps consistent. -/
lemma Consistent.step (h : Consistent s) (action : BroadcastAction) :
    Consistent (s.step action).1 := by
  cases action with
  | set call => exact h.set call
  | snapshot => exact h.snapshot
  | post => exact h.post
  | unlock => exact h.unlock
  | «open» pid session => exact h.open pid session
  | getConfig => exact h.getConfig
  | config => exact h.config
  | push => exact h.push
  | inject pid host =>
    exact h.frame (InjectorServer.config_inject _ _ _) (InjectorServer.snapshot_inject _ _ _) rfl
      rfl (fun hset => hset) rfl rfl
  | close session =>
    refine ⟨fun push hpush => (h.known push hpush).imp id (List.mem_cons_of_mem _), ?_⟩
    intro hset session' ⟨hmem, hopen⟩
    exact h.served hset session' ⟨hmem, fun hclosed => hopen (List.mem_cons_of_mem _ hclosed)⟩
  | remove pid ending => exact h.remove pid ending

/-- Whatever the setters, the sessions that register and those that leave do, in whatever order,
once nothing is outstanding the last configuration that was delivered to each session that is still
registered is that of the server. -/
theorem converges (server : InjectorServer) (hempty : server.clients = ∅)
    (actions : List BroadcastAction) :
    let s := Mealy.run step { server } actions
    s.setter = .idle → s.hello = .idle → s.posted = [] → ∀ session, s.Live session →
      Journal.latest session s.delivered = some s.server.config := by
  intro s hsetter hhello hposted session hlive
  have hstart : Consistent { server } := by
    refine ⟨fun push hpush => absurd hpush List.not_mem_nil, fun _ session hlive => ?_⟩
    obtain ⟨pid, hlookup⟩ := InjectorServer.mem_snapshot.mp hlive.1
    rw [hempty] at hlookup
    cases hlookup
  have hconsistent : Consistent s :=
    Mealy.run_invariant (P := Consistent) (fun _ action h => h.step action) hstart actions
  have hset : s.setter ≠ .written := by
    rw [hsetter]
    exact SetterStage.noConfusion
  have hline : s.line = s.delivered := by
    simp [line, ownFrame, pushes, unposted, hhello, hposted, hsetter]
  rcases hconsistent.served hset session hlive with huptodate | ⟨hreading, -⟩
  · rw [← hline]
    exact huptodate
  · rw [hhello] at hreading
    cases hreading

/-- A session that registered before the log is switched on and one that registers while it is have
it on in the end. -/
theorem converges_enable_log :
    let s := Mealy.run step { server := {} }
      [.open 5 0, .getConfig, .config, .set (.enableLog true), .open 6 1, .snapshot, .post, .post,
        .unlock, .getConfig, .config, .push, .push]
    Journal.latest 0 s.delivered = some s.server.config ∧
      Journal.latest 1 s.delivered = some s.server.config := by
  intro s
  have hrun := converges {} rfl
    [.open 5 0, .getConfig, .config, .set (.enableLog true), .open 6 1, .snapshot, .post, .post,
      .unlock, .getConfig, .config, .push, .push] (by decide) (by decide) (by decide)
  exact ⟨hrun 0 (by decide), hrun 1 (by decide)⟩

end Broadcast

end Encapsule
