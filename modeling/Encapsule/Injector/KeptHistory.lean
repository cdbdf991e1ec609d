import Encapsule.Foundation.Mealy
import Encapsule.Foundation.Recency
import Encapsule.Foundation.Since
import Encapsule.Injector.Kept

/-!
# The record of kept bootstraps and the history of the server

What the record of kept bootstraps holds is decided by what has happened: the processes that are
away, which have lost their sessions and whose bootstraps have not been replaced or forgotten since.
The list of the record has them in the order of their last losses, so that the process whose
bootstrap an overflow gives back is the one that has been away longest (`kept_agrees`).
-/

namespace Encapsule

/-- What the calls of the server do. -/
inductive ServerEvent where
  | injected (pid : DWORD)
  | registered (pid : DWORD)
  | lost (pid : DWORD)
  /-- The bootstrap is forgotten because the front end asks for it. -/
  | retired (pid : DWORD)
  /-- The bootstrap is forgotten because the record is full. -/
  | evicted (pid : DWORD)
  deriving DecidableEq

/-- The process that loses its session. -/
def ServerEvent.loss : ServerEvent → Option DWORD
  | .lost pid => some pid
  | _ => none

/-- The process whose old bootstrap is no longer kept. -/
def ServerEvent.release : ServerEvent → Option DWORD
  | .lost _ => none
  | .injected pid | .registered pid | .retired pid | .evicted pid => some pid

/-- The processes that have lost their sessions, in the order of the losses. -/
def losses (history : List ServerEvent) : List DWORD := history.filterMap ServerEvent.loss

/-- The process has lost its session, and since then it was not injected or registered and its
bootstrap was not forgotten. -/
def Away (history : List ServerEvent) (pid : DWORD) : Prop :=
  Since (fun e => e.loss = some pid) (fun e => e.release = some pid) history

/-- The calls of `injector_server` that concern the record. -/
inductive ServerOp where
  | inject (pid : DWORD) (host : InjectHost)
  | «open» (pid : DWORD) (session : SessionId)
  | remove (pid : DWORD) (ending : SessionEnd)
  | close (pid : DWORD) (stop : SessionId → Option DWORD)

namespace InjectorServer

/-- One call, and what it does. -/
def step (s : InjectorServer) : ServerOp → InjectorServer × List ServerEvent
  | .inject pid host =>
    let (s, verdict) := s.inject pid host
    (s, if verdict.ok then [.injected pid] else [])
  | .open pid session =>
    let (s, registered) := s.open pid session
    (s, if registered then [.registered pid] else [])
  | .remove pid .retired => (s.remove pid .retired, [.retired pid])
  | .remove pid .lost =>
    (s.remove pid .lost, .lost pid :: ((s.kept.keep pid).2.map .evicted).toList)
  | .close pid stop =>
    ((s.close pid stop).1, ((s.clients.lookup pid >>= stop).map .retired).toList)

/-- The call is completed: an injection that is tried succeeds. -/
def Completes (s : InjectorServer) : ServerOp → Prop
  | .inject pid host => (s.inject pid host).2 ≠ .failed
  | _ => True

instance (s : InjectorServer) : (op : ServerOp) → Decidable (s.Completes op)
  | .inject pid host => inferInstanceAs (Decidable ((s.inject pid host).2 ≠ .failed))
  | .open _ _ | .remove _ _ | .close _ _ => instDecidableTrue

/-- What has happened in a run. -/
def history (s : InjectorServer) (ops : List ServerOp) : List ServerEvent :=
  (Mealy.log step s ops).flatMap Prod.snd

end InjectorServer

/-! ## The queue of the processes that are away -/

/-- The list has the processes that are away, in the order of their last losses. -/
structure Queues (history : List ServerEvent) (pids : List DWORD) : Prop where
  queued : Recency.Queued (losses history) pids
  mem_iff : ∀ pid, pid ∈ pids ↔ Away history pid

variable {history : List ServerEvent} {queue : List DWORD} {pid pid' : DWORD} {e : ServerEvent}

/-- Nobody is away before anything has happened. -/
lemma queues_nil : Queues [] [] where
  queued := Recency.queued_nil
  mem_iff _ := iff_of_false List.not_mem_nil not_since_nil

/-- A process that has lost its session is away. -/
lemma away_concat_lost : Away (history ++ [.lost pid']) pid ↔ pid = pid' ∨ Away history pid := by
  unfold Away
  rw [since_concat]
  simp [ServerEvent.loss, ServerEvent.release, eq_comm]

/-- A process whose old bootstrap is no longer kept is not away. -/
lemma away_concat_release (hrelease : e.release = some pid') :
    Away (history ++ [e]) pid ↔ pid ≠ pid' ∧ Away history pid := by
  have hloss : e.loss = none := by
    cases e with
    | lost _ => cases hrelease
    | _ => rfl
  unfold Away
  rw [since_concat, hloss, hrelease]
  simp [eq_comm]

/-- A process that has lost its session is put at the end of the queue. -/
lemma Queues.lost (h : Queues history queue) (pid : DWORD) :
    Queues (history ++ [.lost pid]) (queue.filter (· ≠ pid) ++ [pid]) := by
  have hnew : pid ∉ queue.filter (· ≠ pid) := by simp
  refine ⟨?_, fun pid' => ?_⟩
  · have hlosses : losses (history ++ [.lost pid]) = losses history ++ [pid] := by
      simp [losses, ServerEvent.loss]
    rw [hlosses]
    exact (h.queued.sublist List.filter_sublist).use hnew
  · rw [away_concat_lost, ← h.mem_iff]
    by_cases heq : pid' = pid
    · simp [heq]
    · simp [heq]

/-- A process whose old bootstrap is no longer kept leaves the queue. -/
lemma Queues.release (h : Queues history queue) (hrelease : e.release = some pid) :
    Queues (history ++ [e]) (queue.filter (· ≠ pid)) := by
  refine ⟨?_, fun pid' => ?_⟩
  · have hlosses : losses (history ++ [e]) = losses history := by
      cases e with
      | lost _ => cases hrelease
      | _ => simp [losses, ServerEvent.loss]
    rw [hlosses]
    exact h.queued.sublist List.filter_sublist
  · rw [away_concat_release hrelease, ← h.mem_iff]
    simp [and_comm]

/-- The first process of the queue is evicted. -/
lemma Queues.evicted (h : Queues history (pid :: queue)) :
    Queues (history ++ [.evicted pid]) queue := by
  have hnew := (List.nodup_cons.mp h.queued.nodup).1
  have hrest : (pid :: queue).filter (· ≠ pid) = queue := by
    rw [List.filter_cons_of_neg (by simp), List.filter_eq_self]
    intro pid' hpid'
    have hne : pid' ≠ pid := by
      rintro rfl
      exact hnew hpid'
    simpa using hne
  have hrelease := h.release (e := .evicted pid) rfl
  rwa [hrest] at hrelease

/-- The first process of the queue is the one that has been away longest. -/
lemma Queues.isOldest_iff (h : Queues history (pid' :: queue)) :
    Recency.IsOldest (losses history) (Away history) pid ↔ pid = pid' := by
  have haway : Away history = (· ∈ pid' :: queue) := funext fun pid => propext (h.mem_iff pid).symm
  rw [haway]
  exact h.queued.isOldest_iff

/-! ## The list of the record -/

namespace KeptBootstraps

variable {k : KeptBootstraps}

/-- The processes of the list, oldest first. -/
def pids (k : KeptBootstraps) : List DWORD := k.order.map Prod.snd

/-- The list and the map have the same processes. -/
lemma Valid.mem_pids (h : k.Valid) : pid ∈ k.pids ↔ pid ∈ k.node := by
  constructor
  · intro hmem
    obtain ⟨entry, hentry, rfl⟩ := List.mem_map.mp hmem
    exact h.mem_of_entry hentry
  · exact h.mem_order

/-- What is dropped leaves the list. -/
lemma Valid.pids_drop (h : k.Valid) (pid : DWORD) :
    (k.drop pid).pids = k.pids.filter (· ≠ pid) := by
  unfold pids
  by_cases hmem : pid ∈ k.node
  · obtain ⟨node, hnode⟩ := lookup_of_mem hmem
    rw [drop_of_lookup hnode, List.filter_map]
    refine congrArg (List.map Prod.snd) (List.filter_congr fun entry hentry => ?_)
    -- the places of the list stand for its processes
    have hplace : entry.1 = node ↔ entry.2 = pid := by
      have hentry := (h.listed entry.2 entry.1).mpr hentry
      constructor
      · rintro rfl
        have hnode := (h.listed pid entry.1).mp hnode
        have hentry := (h.listed entry.2 entry.1).mp hentry
        exact (Prod.mk.inj (List.inj_on_of_nodup_map h.nodup hentry hnode rfl)).2
      · rintro rfl
        exact Option.some.inj (hentry.symm.trans hnode)
    simp [hplace]
  · rw [drop_of_not_mem hmem, eq_comm, List.filter_eq_self]
    intro pid' hpid'
    have hne : pid' ≠ pid := by
      rintro rfl
      exact hmem (h.mem_pids.mp hpid')
    simpa using hne

/-- A process that is kept is put at the end of the list, and the first one of a list that is full
of others is given back. -/
lemma keep_cases (k : KeptBootstraps) (pid : DWORD) :
    ((k.drop pid).pids.length < keptCap ∧ (k.keep pid).2 = none ∧
        (k.keep pid).1.pids = (k.drop pid).pids ++ [pid]) ∨
      ∃ oldest rest, (k.drop pid).pids = oldest :: rest ∧
        keptCap ≤ (k.drop pid).pids.length ∧ (k.keep pid).2 = some oldest ∧
        (k.keep pid).1.pids = rest ++ [pid] := by
  have hlength : (k.drop pid).pids.length = (k.drop pid).order.length := List.length_map _
  by_cases hfull : keptCap ≤ (k.drop pid).order.length
  · right
    obtain ⟨node, oldest, rest, horder, hkeep⟩ := keep_of_le hfull
    refine ⟨oldest, rest.map Prod.snd, by simp [pids, horder], by rwa [hlength], ?_⟩
    rw [hkeep]
    exact ⟨rfl, by simp [pids]⟩
  · left
    have hroom := Nat.lt_of_not_le hfull
    rw [keep_of_lt hroom]
    exact ⟨by rwa [hlength], rfl, by simp [pids, append]⟩

end KeptBootstraps

/-! ## What a call does -/

namespace InjectorServer

variable {s : InjectorServer}

/-- The states and events that a completed call may lead to. -/
inductive Acts (s : InjectorServer) : InjectorServer → List ServerEvent → Prop
  | nothing : Acts s s []
  | injected (pid : DWORD) (payload : PortMappingPayload) (hnew : pid ∉ s.clients) :
      Acts s { s with injector := s.injector.record pid payload, kept := s.kept.drop pid }
        [.injected pid]
  | registered (pid : DWORD) (session : SessionId) (hnew : pid ∉ s.clients) :
      Acts s { s with clients := s.clients.insert pid session, kept := s.kept.drop pid }
        [.registered pid]
  | retired (pid : DWORD) : Acts s (s.remove pid .retired) [.retired pid]
  | lost (pid : DWORD) (hkeep : (s.kept.keep pid).2 = none) :
      Acts s { s with kept := (s.kept.keep pid).1, clients := s.clients.erase pid } [.lost pid]
  | evicted (pid oldest : DWORD) (hkeep : (s.kept.keep pid).2 = some oldest) :
      Acts s
        { s with
          kept := (s.kept.keep pid).1
          injector := s.injector.forgetToken oldest
          clients := s.clients.erase pid }
        [.lost pid, .evicted oldest]

/-- An injection that is tried and succeeds records a token, and drops the process. -/
lemma acts_inject {pid : DWORD} {host : InjectHost} (h : (s.inject pid host).2 ≠ .failed) :
    Acts s (s.inject pid host).1 (if (s.inject pid host).2.ok then [.injected pid] else []) := by
  rcases s.inject_cases pid host with ⟨-, hcase⟩ | ⟨-, hcase⟩ | ⟨hnew, ⟨-, hcase⟩ | ⟨hok, hcase⟩⟩
  · rw [hcase]
    exact Acts.nothing
  · rw [hcase]
    exact Acts.nothing
  · exact absurd (congrArg Prod.snd hcase) h
  · have hverdict : (s.inject pid host).2.ok = true := by
      rw [hcase]
      dsimp only
      split_ifs <;> rfl
    rw [if_pos hverdict, hcase]
    by_cases hpublishes : host.Publishes
    · obtain ⟨payload, ⟨hrecord, -⟩ | ⟨-, hfailed⟩⟩ :=
        s.injector.inject_of_publishes pid s.port hpublishes
      · rw [hrecord]
        exact Acts.injected pid payload hnew
      · rw [hok] at hfailed
        cases hfailed
    · have hfailed := (s.injector.inject_of_not_publishes pid s.port hpublishes).2
      rw [hok] at hfailed
      cases hfailed

/-- Every completed call acts so. -/
lemma step_acts {op : ServerOp} (h : s.Completes op) : Acts s (s.step op).1 (s.step op).2 := by
  cases op with
  | inject pid host => exact acts_inject h
  | «open» pid session =>
    by_cases hmem : pid ∈ s.clients
    · simp only [step, open_of_mem hmem]
      exact Acts.nothing
    · simp only [step, open_of_not_mem hmem]
      exact Acts.registered pid session hmem
  | remove pid ending =>
    cases ending with
    | retired => exact Acts.retired pid
    | lost =>
      simp only [step, remove]
      cases hkeep : (s.kept.keep pid).2 with
      | none => exact Acts.lost pid hkeep
      | some oldest => exact Acts.evicted pid oldest hkeep
  | close pid stop =>
    simp only [step, close]
    cases hclient : s.clients.lookup pid with
    | none => exact Acts.nothing
    | some session =>
      simp only [Option.bind_eq_bind, Option.bind_some]
      cases hstop : stop session with
      | none => exact Acts.nothing
      | some pid' => exact Acts.retired pid'

/-! ## The record of a run -/

/-- The record of a server stands for its history. -/
structure Recorded (history : List ServerEvent) (s : InjectorServer) : Prop where
  valid : s.kept.Valid
  queues : Queues history s.kept.pids
  length_le : s.kept.pids.length ≤ keptCap
  unregistered : ∀ pid ∈ s.clients, pid ∉ s.kept.pids

variable {s' : InjectorServer} {events : List ServerEvent}

/-- A process whose old bootstrap is no longer kept is dropped from the record. -/
lemma Recorded.drop (h : Recorded history s) (hrelease : e.release = some pid)
    (hkept : s'.kept = s.kept.drop pid)
    (hclients : ∀ pid' ∈ s'.clients, pid' = pid ∨ pid' ∈ s.clients) :
    Recorded (history ++ [e]) s' := by
  have hpids : s'.kept.pids = s.kept.pids.filter (· ≠ pid) := by
    rw [hkept]
    exact h.valid.pids_drop pid
  refine ⟨?_, ?_, ?_, fun pid' hpid' => ?_⟩
  · rw [hkept]
    exact h.valid.drop pid
  · rw [hpids]
    exact h.queues.release hrelease
  · rw [hpids]
    exact (List.length_filter_le _ _).trans h.length_le
  · rw [hpids, List.mem_filter, decide_eq_true_eq]
    rintro ⟨hmem, hne⟩
    exact h.unregistered pid' ((hclients pid' hpid').resolve_left hne) hmem

/-- The longer list of a loss, before the record gives a process back. -/
lemma Recorded.lost (h : Recorded history s) (pid : DWORD) :
    Queues (history ++ [.lost pid]) ((s.kept.drop pid).pids ++ [pid]) := by
  rw [h.valid.pids_drop]
  exact h.queues.lost pid

/-- A record that keeps a process that has lost its session is as long as it may be, and has nobody
in it who is registered. -/
lemma Recorded.keep {history' : List ServerEvent} (h : Recorded history s)
    (hkept : s'.kept = (s.kept.keep pid).1) (hclients : s'.clients = s.clients.erase pid)
    (hqueues : Queues history' s'.kept.pids) : Recorded history' s' := by
  have hdrop := h.valid.pids_drop pid
  have hshorter : (s.kept.drop pid).pids.length ≤ keptCap := by
    rw [hdrop]
    exact (List.length_filter_le _ _).trans h.length_le
  obtain ⟨hlength, hsub⟩ : (s.kept.keep pid).1.pids.length ≤ keptCap ∧
      ∀ pid' ∈ (s.kept.keep pid).1.pids, pid' ∈ (s.kept.drop pid).pids ∨ pid' = pid := by
    rcases s.kept.keep_cases pid with ⟨hroom, -, hpids⟩ | ⟨oldest, rest, hfirst, -, -, hpids⟩
    · rw [hpids, List.length_append, List.length_singleton]
      exact ⟨hroom, fun pid' hmem => by simpa using hmem⟩
    · rw [hfirst, List.length_cons] at hshorter
      rw [hpids, hfirst, List.length_append, List.length_singleton]
      refine ⟨hshorter, fun pid' hmem => ?_⟩
      exact (List.mem_append.mp hmem).imp (List.mem_cons_of_mem _) List.mem_singleton.mp
  refine ⟨?_, hqueues, ?_, fun pid' hpid' => ?_⟩
  · rw [hkept]
    exact h.valid.keep pid
  · rwa [hkept]
  · rw [hclients] at hpid'
    obtain ⟨hne, hregistered⟩ := AList.mem_erase.mp hpid'
    rw [hkept]
    intro hmem
    have hold := (hsub pid' hmem).resolve_right hne
    rw [hdrop] at hold
    exact h.unregistered pid' hregistered (List.mem_of_mem_filter hold)

/-- A completed call keeps the record in step with the history. -/
lemma Acts.recorded (hacts : Acts s s' events) (h : Recorded history s) :
    Recorded (history ++ events) s' := by
  cases hacts with
  | nothing => rwa [List.append_nil]
  | injected pid payload hnew => exact h.drop rfl rfl fun pid' hmem => Or.inr hmem
  | registered pid session hnew =>
    exact h.drop rfl rfl fun pid' hmem => (AList.mem_insert _).mp hmem
  | retired pid => exact h.drop rfl rfl fun pid' hmem => Or.inr (AList.mem_erase.mp hmem).2
  | lost pid hkeep =>
    refine h.keep rfl rfl ?_
    rcases s.kept.keep_cases pid with ⟨-, -, hpids⟩ | ⟨oldest, rest, -, -, hoverflow, -⟩
    · rw [hpids]
      exact h.lost pid
    · rw [hkeep] at hoverflow
      cases hoverflow
  | evicted pid oldest hkeep =>
    refine h.keep rfl rfl ?_
    rcases s.kept.keep_cases pid with ⟨-, hroom, -⟩ | ⟨oldest', rest, hfirst, -, hoverflow, hpids⟩
    · rw [hkeep] at hroom
      cases hroom
    · obtain rfl : oldest = oldest' := Option.some.inj (hkeep.symm.trans hoverflow)
      have hlost := h.lost pid
      rw [hfirst] at hlost
      have hevicted := Queues.evicted hlost
      rw [List.append_assoc] at hevicted
      rw [hpids]
      exact hevicted

/-- The record of a run stands for its history. -/
lemma recorded_run (port : UInt16) (config : InjectorConfig) (injector : Injector)
    {ops : List ServerOp}
    (hcompletes : Mealy.Along step Completes { port, config, injector } ops) :
    Recorded (InjectorServer.history { port, config, injector } ops)
      (Mealy.run step { port, config, injector } ops) := by
  refine Mealy.log_invariant_of (P := fun log s => Recorded (log.flatMap Prod.snd) s) (l := [])
    (fun log s op hcompletes h => ?_) ?_ hcompletes
  · rw [List.flatMap_append, List.flatMap_singleton]
    exact (step_acts hcompletes).recorded h
  · exact ⟨KeptBootstraps.valid_empty, queues_nil, Nat.zero_le _, fun pid hmem => by cases hmem⟩

/-! ## The tokens that are forgotten -/

/-- A completed call leaves a process without a token if it retires or evicts it. -/
lemma Acts.forgets_iff (hacts : Acts s s' events) (hmem : pid ∈ s.injector.tokens) :
    pid ∉ s'.injector.tokens ↔ .retired pid ∈ events ∨ .evicted pid ∈ events := by
  cases hacts with
  | nothing => simp [hmem]
  | injected pid' payload hnew => simp [Injector.record, hmem]
  | registered pid' session hnew => simp [hmem]
  | retired pid' =>
    have herase : pid ∉ (s.remove pid' .retired).injector.tokens ↔ pid = pid' := by
      change pid ∉ s.injector.tokens.erase pid' ↔ pid = pid'
      simp [AList.mem_erase, hmem]
    simp [herase]
  | lost pid' hkeep => simp [hmem]
  | evicted pid' oldest hkeep => simp [Injector.forgetToken, AList.mem_erase, hmem]

/-- The loss of a process makes the list of the record too long. -/
def Overflows (s : InjectorServer) (pid : DWORD) : Prop :=
  keptCap < ((s.kept.drop pid).append pid).order.length

/-- A process is evicted if a loss makes the record give it back. -/
lemma evicted_mem_step_iff {op : ServerOp} : .evicted pid ∈ (s.step op).2 ↔
    ∃ lost, op = .remove lost .lost ∧ (s.kept.keep lost).2 = some pid := by
  cases op with
  | inject pid' host =>
    simp only [step]
    split_ifs <;> simp
  | «open» pid' session =>
    simp only [step]
    split_ifs <;> simp
  | remove pid' ending =>
    cases ending with
    | retired => simp [step]
    | lost => simp [step]
  | close pid' stop =>
    simp only [step]
    cases s.clients.lookup pid' >>= stop with
    | none => simp
    | some pid'' => simp

/-- The loss of a process makes the record give back another one, if the record overflows and the
other one has been away longest. -/
lemma Recorded.keep_evicts_iff (h : Recorded history s) (lost : DWORD) :
    (s.kept.keep lost).2 = some pid ↔ s.Overflows lost ∧ pid ≠ lost ∧
      Recency.IsOldest (losses (history ++ [.lost lost])) (Away (history ++ [.lost lost])) pid := by
  have hqueues := h.lost lost
  have hlength : ((s.kept.drop lost).append lost).order.length =
      (s.kept.drop lost).pids.length + 1 := by
    simp [KeptBootstraps.append, KeptBootstraps.pids]
  unfold Overflows
  rw [hlength, Nat.lt_succ_iff]
  rcases s.kept.keep_cases lost with ⟨hroom, hkeep, -⟩ | ⟨oldest, rest, hfirst, hfull, hkeep, -⟩
  · rw [hkeep]
    exact iff_of_false (fun hsome => by cases hsome) fun hfull => Nat.not_le.mpr hroom hfull.1
  · rw [hfirst, List.cons_append] at hqueues
    have hne : oldest ≠ lost := by
      rintro rfl
      exact (List.nodup_cons.mp hqueues.queued.nodup).1 (by simp)
    rw [hkeep, Option.some.injEq, hqueues.isOldest_iff]
    constructor
    · rintro rfl
      exact ⟨hfull, hne, rfl⟩
    · rintro ⟨-, -, rfl⟩
      rfl

/-- In every run of completed calls the record has no process twice, its list and its map have the
same processes, it is never longer than its bound, and no registered process is in it; and a call
leaves a process without its token exactly if it retires it, or if it is a loss that makes the
record overflow and the process is not the one just lost but the one whose last loss lies furthest
back among those that are away. -/
theorem kept_agrees (port : UInt16) (config : InjectorConfig) (injector : Injector)
    (ops : List ServerOp)
    (hcompletes : Mealy.Along step Completes { port, config, injector } ops) :
    let s := Mealy.run step { port, config, injector } ops
    let history := InjectorServer.history { port, config, injector } ops
    (s.kept.pids.Nodup ∧ (∀ pid, pid ∈ s.kept.node ↔ pid ∈ s.kept.pids) ∧
        s.kept.pids.length ≤ keptCap ∧ ∀ pid ∈ s.clients, ¬ s.kept.Remembers pid) ∧
      ∀ op, s.Completes op → ∀ pid ∈ s.injector.tokens,
        (pid ∉ (s.step op).1.injector.tokens ↔ .retired pid ∈ (s.step op).2 ∨
          ∃ lost, op = .remove lost .lost ∧ s.Overflows lost ∧ pid ≠ lost ∧
            Recency.IsOldest (losses (history ++ [.lost lost])) (Away (history ++ [.lost lost]))
              pid) := by
  intro s history
  have h : Recorded history s := recorded_run port config injector hcompletes
  refine ⟨⟨h.queues.queued.nodup, fun pid => h.valid.mem_pids.symm, h.length_le, ?_⟩, ?_⟩
  · intro pid hregistered
    rw [h.valid.remembers_iff, ← h.valid.mem_pids]
    exact h.unregistered pid hregistered
  · intro op hop pid hmem
    rw [(step_acts hop).forgets_iff hmem, evicted_mem_step_iff]
    simp only [h.keep_evicts_iff]

/-- The capsule is loaded into the process. -/
def loadingHost : InjectHost :=
  { process := true, isWow64 := some false, resident := false, injectee := true,
    random := some (Vector.replicate 8 7), mapping := true, view := true, load := .exited (some 1) }

/-- A process that is injected again after its session was lost keeps its new token until the front
end closes its session. -/
theorem kept_agrees_injected_again :
    let ops : List ServerOp := [.inject 7 loadingHost, .open 7 0, .remove 7 .lost,
      .inject 7 loadingHost, .open 7 1]
    let s := Mealy.run step { port := 40000 } ops
    7 ∉ (s.step (.close 7 fun _ => some 7)).1.injector.tokens := by
  intro ops s
  have hagrees := (kept_agrees 40000 {} {} ops (by decide)).2 (.close 7 fun _ => some 7) trivial 7
    (by decide)
  exact hagrees.mpr (Or.inl (by decide))

/-! ## Two overflows -/

/-- The loss of a process that is not in the record. -/
lemma step_lost (hvalid : s.kept.Valid) (hnew : pid ∉ s.kept.pids) :
    (s.kept.pids.length < keptCap ∧ (s.step (.remove pid .lost)).1.kept.Valid ∧
        (s.step (.remove pid .lost)).1.kept.pids = s.kept.pids ++ [pid] ∧
        (s.step (.remove pid .lost)).1.injector = s.injector ∧
        (s.step (.remove pid .lost)).2 = [.lost pid]) ∨
      ∃ oldest rest, s.kept.pids = oldest :: rest ∧ keptCap ≤ s.kept.pids.length ∧
        (s.step (.remove pid .lost)).1.kept.Valid ∧
        (s.step (.remove pid .lost)).1.kept.pids = rest ++ [pid] ∧
        (s.step (.remove pid .lost)).1.injector = s.injector.forgetToken oldest ∧
        (s.step (.remove pid .lost)).2 = [.lost pid, .evicted oldest] := by
  have hdrop : s.kept.drop pid = s.kept :=
    KeptBootstraps.drop_of_not_mem fun hmem => hnew (hvalid.mem_pids.mpr hmem)
  have hcases := s.kept.keep_cases pid
  rw [hdrop] at hcases
  rcases hcases with ⟨hroom, hkeep, hpids⟩ | ⟨oldest, rest, hfirst, hfull, hkeep, hpids⟩
  · left
    have hstep : s.step (.remove pid .lost) =
        ({ s with kept := (s.kept.keep pid).1, clients := s.clients.erase pid }, [.lost pid]) := by
      simp only [step, remove, hkeep]
      rfl
    rw [hstep]
    exact ⟨hroom, hvalid.keep pid, hpids, rfl, rfl⟩
  · right
    have hstep : s.step (.remove pid .lost) =
        ({ s with
            kept := (s.kept.keep pid).1
            injector := s.injector.forgetToken oldest
            clients := s.clients.erase pid }, [.lost pid, .evicted oldest]) := by
      simp only [step, remove, hkeep]
      rfl
    rw [hstep]
    exact ⟨oldest, rest, hfirst, hfull, hvalid.keep pid, hpids, rfl, rfl⟩

/-- Processes that fit into the record when they lose their sessions are put at its end. -/
lemma run_losses (lostPids : List DWORD) (hvalid : s.kept.Valid)
    (hnew : (s.kept.pids ++ lostPids).Nodup)
    (hroom : s.kept.pids.length + lostPids.length ≤ keptCap) :
    (Mealy.run step s (lostPids.map (.remove · .lost))).kept.Valid ∧
      (Mealy.run step s (lostPids.map (.remove · .lost))).kept.pids = s.kept.pids ++ lostPids ∧
      (Mealy.run step s (lostPids.map (.remove · .lost))).injector = s.injector ∧
      s.history (lostPids.map (.remove · .lost)) = lostPids.map .lost := by
  induction lostPids generalizing s with
  | nil => exact ⟨hvalid, (List.append_nil _).symm, rfl, rfl⟩
  | cons pid lostPids ih =>
    have hmem : pid ∉ s.kept.pids := fun hmem =>
      (List.nodup_append.mp hnew).2.2 pid hmem pid List.mem_cons_self rfl
    rw [List.length_cons] at hroom
    rcases step_lost hvalid hmem with ⟨-, hvalid, hpids, hinjector, hevents⟩ | ⟨_, _, _, hfull, -⟩
    · have hsplit : s.kept.pids ++ pid :: lostPids = (s.kept.pids ++ [pid]) ++ lostPids := by simp
      rw [hsplit, ← hpids] at hnew ⊢
      have hlength : (s.kept.pids ++ [pid]).length = s.kept.pids.length + 1 := by simp
      obtain ⟨hvalid', hpids', hinjector', hhistory'⟩ :=
        ih hvalid hnew (by rw [hpids, hlength]; omega)
      refine ⟨hvalid', hpids', hinjector'.trans hinjector, ?_⟩
      unfold history at hhistory' ⊢
      rw [List.map_cons, Mealy.log_cons, List.flatMap_cons, hhistory', hevents]
      rfl
    · omega

/-- The process has lost its session since it was last injected or registered, whether its bootstrap
is kept or not. -/
def LostSince (history : List ServerEvent) (pid : DWORD) : Prop :=
  Since (fun e => e.loss = some pid) (fun e => e = .injected pid ∨ e = .registered pid) history

variable {first second next last : DWORD} {others : List DWORD}

/-- The history when one process too many has lost its session, and then another one. -/
def twoOverflows (first second next last : DWORD) (others : List DWORD) : List ServerEvent :=
  (first :: second :: others).map .lost ++ [.lost next, .evicted first, .lost last]

/-- The first process is still lost after two overflows, and its loss lies behind that of the second
one. -/
lemma not_isOldest_twoOverflows (hnodup : (first :: second :: (others ++ [next, last])).Nodup) :
    ¬ Recency.IsOldest (losses (twoOverflows first second next last others))
      (LostSince (twoOverflows first second next last others)) second := by
  have hlosses : losses (twoOverflows first second next last others) =
      first :: second :: (others ++ [next, last]) := by
    simp [losses, twoOverflows, ServerEvent.loss, Function.comp_def, List.filterMap_cons]
  have hlost : LostSince (twoOverflows first second next last others) first := by
    refine ⟨[], .lost first, (second :: others).map .lost ++ _, rfl, rfl, fun e he => ?_⟩
    rintro (rfl | rfl)
    · simp at he
    · simp at he
  rintro ⟨-, hoverdue⟩
  have hne : first ≠ second := by
    rintro rfl
    exact (List.nodup_cons.mp hnodup).1 List.mem_cons_self
  have hback := hoverdue first hlost hne
  rw [hlosses] at hback
  exact hback.asymm ⟨[], _, rfl, (List.nodup_cons.mp hnodup).1, List.mem_cons_self⟩

/-- At the second overflow the record gives back the process that was lost second. -/
lemma run_twoOverflows (hnodup : (first :: second :: (others ++ [next, last])).Nodup)
    (hlength : others.length + 2 = keptCap) {start : InjectorServer}
    (hvalid : start.kept.Valid) (hempty : start.kept.pids = []) :
    let ops : List ServerOp := (first :: second :: (others ++ [next])).map (.remove · .lost)
    let s := Mealy.run step start ops
    s.injector = start.injector.forgetToken first ∧
      (s.step (.remove last .lost)).1.injector = s.injector.forgetToken second ∧
      (s.step (.remove last .lost)).2 = [.lost last, .evicted second] ∧
      start.history ops ++ [.lost last] = twoOverflows first second next last others := by
  intro ops s
  obtain ⟨hbefore, hlast⟩ : (first :: second :: (others ++ [next])).Nodup ∧
      last ∉ first :: second :: (others ++ [next]) := by
    have hsplit : first :: second :: (others ++ [next, last]) =
        (first :: second :: (others ++ [next])) ++ [last] := by simp
    rwa [hsplit, ← List.concat_eq_append, List.nodup_concat, and_comm] at hnodup
  obtain ⟨hbefore, hnext⟩ : (first :: second :: others).Nodup ∧
      next ∉ first :: second :: others := by
    have hsplit : first :: second :: (others ++ [next]) =
        (first :: second :: others) ++ [next] := rfl
    rwa [hsplit, ← List.concat_eq_append, List.nodup_concat, and_comm] at hbefore
  -- the first losses fill the record
  obtain ⟨hvalid₁, hpids₁, hinjector₁, hhistory₁⟩ :=
    run_losses (s := start) (first :: second :: others) hvalid
      (by rwa [hempty, List.nil_append]) (by rw [hempty, ← hlength]; simp)
  rw [hempty, List.nil_append] at hpids₁
  have hops : ops = (first :: second :: others).map (.remove · .lost) ++ [.remove next .lost] := by
    simp [ops]
  generalize hfull : Mealy.run step start ((first :: second :: others).map (.remove · .lost)) =
    full at hvalid₁ hpids₁ hinjector₁
  have hs : s = (full.step (.remove next .lost)).1 := by
    rw [← hfull, ← Mealy.run_concat, ← hops]
  -- the next one evicts the first process
  obtain ⟨hvalid₂, hpids₂, hinjector₂, hevents₂⟩ :
      s.kept.Valid ∧ s.kept.pids = second :: (others ++ [next]) ∧
        s.injector = start.injector.forgetToken first ∧
        (full.step (.remove next .lost)).2 = [.lost next, .evicted first] := by
    rw [hs]
    rcases step_lost hvalid₁ (hpids₁ ▸ hnext) with ⟨hroom, -⟩ | ⟨_, _, hfirst, -, hvalid₂, h⟩
    · rw [hpids₁] at hroom
      simp only [List.length_cons] at hroom
      omega
    · obtain ⟨rfl, rfl⟩ := List.cons.inj (hpids₁.symm.trans hfirst)
      rw [hinjector₁] at h
      exact ⟨hvalid₂, h⟩
  have hhistory₂ : start.history ops ++ [.lost last] =
      twoOverflows first second next last others := by
    unfold history at hhistory₁ ⊢
    rw [hops, Mealy.log_concat, List.flatMap_append, hhistory₁, hfull, List.flatMap_singleton,
      hevents₂]
    simp [twoOverflows]
  -- the last one evicts the second process
  have hlast₂ : last ∉ s.kept.pids := hpids₂ ▸ List.not_mem_of_not_mem_cons hlast
  rcases step_lost hvalid₂ hlast₂ with ⟨hroom, -⟩ | ⟨_, _, hfirst, -, -, -, h⟩
  · rw [hpids₂] at hroom
    simp only [List.length_cons, List.length_append, List.length_nil] at hroom
    omega
  · obtain ⟨rfl, rfl⟩ := List.cons.inj (hpids₂.symm.trans hfirst)
    exact ⟨hinjector₂, h.1, h.2, hhistory₂⟩

/-- The second overflow takes the token of the process that was lost second, although the one that
was lost first is still lost. -/
lemma forgets_second (hnodup : (first :: second :: (others ++ [next, last])).Nodup)
    (hlength : others.length + 2 = keptCap) {payload : PortMappingPayload} :
    let start : InjectorServer := { injector := ({} : Injector).record second payload }
    let ops : List ServerOp := (first :: second :: (others ++ [next])).map (.remove · .lost)
    let s := Mealy.run step start ops
    let history := start.history ops ++ [.lost last]
    second ∈ s.injector.tokens ∧ second ∉ (s.step (.remove last .lost)).1.injector.tokens ∧
      .retired second ∉ (s.step (.remove last .lost)).2 ∧
      ¬ Recency.IsOldest (losses history) (LostSince history) second := by
  intro start ops s history
  obtain ⟨hbefore, hafter, hevents, hhistory⟩ :
      s.injector = start.injector.forgetToken first ∧
        (s.step (.remove last .lost)).1.injector = s.injector.forgetToken second ∧
        (s.step (.remove last .lost)).2 = [.lost last, .evicted second] ∧
        history = twoOverflows first second next last others :=
    run_twoOverflows hnodup hlength KeptBootstraps.valid_empty rfl
  have hne : second ≠ first := by
    rintro rfl
    exact (List.nodup_cons.mp hnodup).1 List.mem_cons_self
  refine ⟨?_, ?_, ?_, ?_⟩
  · rw [hbefore]
    exact AList.mem_erase.mpr ⟨hne, (AList.mem_insert _).mpr (Or.inl rfl)⟩
  · rw [hafter]
    simp [Injector.forgetToken, AList.mem_erase]
  · rw [hevents]
    simp
  · rw [hhistory]
    exact not_isOldest_twoOverflows hnodup

/-- Processes 2 to 4095. -/
def manyPids : List DWORD := (List.range' 2 4094).map UInt32.ofNat

/-- Processes 0 to 4097 are different ones. -/
lemma nodup_manyPids : (0 :: 1 :: (manyPids ++ [4096, 4097])).Nodup := by
  have hlast : List.range' 2 4096 = List.range' 2 4094 ++ [4096, 4097] := by
    rw [← List.range'_append_1 (s := 2) (m := 4094) (n := 2)]
    rfl
  have hnumbers : 0 :: 1 :: (manyPids ++ [4096, 4097]) =
      (List.range' 0 4098).map UInt32.ofNat := by
    rw [List.range'_succ, List.range'_succ, hlast, List.map_cons, List.map_cons, List.map_append]
    rfl
  rw [hnumbers]
  refine nodup_map_ofNat List.nodup_range' fun n hn => ?_
  have hlt := (List.mem_range'_1.mp hn).2
  omega

/-- When 4098 processes have lost their sessions the record has overflown twice.  The second
overflow takes the token of process 1, which was lost after process 0, and neither of them was
injected or registered since. -/
theorem not_furthest_second_overflow :
    let start : InjectorServer :=
      { injector := ({} : Injector).record 1 { port := 40000, token := Vector.replicate 8 7 } }
    let ops : List ServerOp := (0 :: 1 :: (manyPids ++ [4096])).map (.remove · .lost)
    let s := Mealy.run step start ops
    let history := start.history ops ++ [.lost 4097]
    1 ∈ s.injector.tokens ∧ 1 ∉ (s.step (.remove 4097 .lost)).1.injector.tokens ∧
      .retired 1 ∉ (s.step (.remove 4097 .lost)).2 ∧
      ¬ Recency.IsOldest (losses history) (LostSince history) 1 := by
  have hlength : manyPids.length + 2 = keptCap := by
    rw [manyPids, List.length_map, List.length_range']
    rfl
  exact forgets_second nodup_manyPids hlength

end InjectorServer

end Encapsule
