import Encapsule.Injector.Injector

/-!
# The control server

`injector_server` of `server.hpp` with its three records: the registered sessions, the bootstraps
kept for sessions that were lost, and the configuration that is pushed to every session.
-/

namespace Encapsule

/-- A session, as the table of clients points to it. -/
abbrev SessionId := ℕ

/-- `session_end`. -/
inductive SessionEnd where
  | lost
  | retired
  deriving DecidableEq

/-- `kept_bootstraps::cap`. -/
def keptCap : ℕ := 4096

/-- `kept_bootstraps`: a list of processes, oldest first, and the list node of each.  A node is
known by its number. -/
structure KeptBootstraps where
  order : List (ℕ × DWORD) := []
  node : AList fun _ : DWORD => ℕ := ∅
  fresh : ℕ := 0

namespace KeptBootstraps

/-- `erase_locked`, and `drop`. -/
def drop (k : KeptBootstraps) (pid : DWORD) : KeptBootstraps :=
  match k.node.lookup pid with
  | none => k
  | some node =>
    { k with order := k.order.filter fun entry => entry.1 ≠ node, node := k.node.erase pid }

/-- `keep`: remembers a process, and gives back one that no longer fits. -/
def keep (k : KeptBootstraps) (pid : DWORD) : KeptBootstraps × Option DWORD :=
  let k := k.drop pid
  let order := k.order ++ [(k.fresh, pid)]
  let node := if pid ∈ k.node then k.node else k.node.insert pid k.fresh
  if order.length ≤ keptCap then ({ order, node, fresh := k.fresh + 1 }, none)
  else
    match order with
    | [] => ({ order, node, fresh := k.fresh + 1 }, none)
    | (_, oldest) :: order =>
      ({ order, node := node.erase oldest, fresh := k.fresh + 1 }, some oldest)

end KeptBootstraps

/-- `inject_verdict`. -/
inductive InjectVerdict where
  | attached
  | alreadyEncapsulated
  | alreadyRegistered
  | notStarted
  | failed
  deriving DecidableEq

/-- `inject_result::ok`. -/
def InjectVerdict.ok : InjectVerdict → Bool
  | .attached | .alreadyEncapsulated => true
  | _ => false

/-- `injector_server::no_port`. -/
def noPort : UInt16 := 0xffff

/-- The calls of the front ends that change the configuration.  `disable_log` and
`disable_subprocess` are the calls with `false`. -/
inductive ConfigSetter where
  | setProxy (addr : IpAddress) (port : UInt32)
  | clearProxy
  | setProxyCredentials (username password : Option Bytes)
  | clearProxyCredentials
  | enableLog (enable : Bool)
  | enableSubprocess (enable : Bool)
  deriving DecidableEq

/-- What a setter writes into the configuration.  A credential that is not given is left alone. -/
def ConfigSetter.write (cfg : InjectorConfig) : ConfigSetter → InjectorConfig
  | .setProxy addr port => { cfg with addr := some (fromAsio addr port.toUInt16) }
  | .clearProxy => { cfg with addr := none }
  | .setProxyCredentials username password =>
    { cfg with username := username <|> cfg.username, password := password <|> cfg.password }
  | .clearProxyCredentials => { cfg with username := none, password := none }
  | .enableLog enable => { cfg with log := some enable }
  | .enableSubprocess enable => { cfg with subprocess := some enable }

/-- `injector_server`, with the static records of the injector. -/
structure InjectorServer where
  clients : AList fun _ : DWORD => SessionId := ∅
  kept : KeptBootstraps := {}
  config : InjectorConfig := {}
  port : UInt16 := noPort
  injector : Injector := {}

namespace InjectorServer

/-- `inject`. -/
def inject (s : InjectorServer) (pid : DWORD) (host : InjectHost) :
    InjectorServer × InjectVerdict :=
  if s.port = noPort then (s, .notStarted)
  else if pid ∈ s.clients then (s, .alreadyRegistered)
  else
    match s.injector.inject pid s.port host with
    | (injector, false, _) => ({ s with injector }, .failed)
    | (injector, true, resident) =>
      ({ s with injector, kept := s.kept.drop pid },
        if resident then .alreadyEncapsulated else .attached)

/-- `open`: registers a session, unless its process is registered already. -/
def «open» (s : InjectorServer) (pid : DWORD) (session : SessionId) : InjectorServer × Bool :=
  if pid ∈ s.clients then (s, false)
  else ({ s with clients := s.clients.insert pid session, kept := s.kept.drop pid }, true)

/-- `remove`. -/
def remove (s : InjectorServer) (pid : DWORD) : SessionEnd → InjectorServer
  | .retired =>
    { s with
      kept := s.kept.drop pid
      injector := s.injector.forgetToken pid
      clients := s.clients.erase pid }
  | .lost =>
    let (kept, stale) := s.kept.keep pid
    { s with
      kept
      injector := match stale with
        | none => s.injector
        | some stale => s.injector.forgetToken stale
      clients := s.clients.erase pid }

/-- `close`: stops the session of a process.  `stop` is what the session takes down: the process it
remembers, or nothing if it has ended before. -/
def close (s : InjectorServer) (pid : DWORD) (stop : SessionId → Option DWORD) :
    InjectorServer × Bool :=
  match s.clients.lookup pid with
  | none => (s, false)
  | some session =>
    (match stop session with
      | none => s
      | some pid => s.remove pid .retired, true)

/-- The loop over `enumerate_child_pids`: injects the children in order. -/
def injectAll (s : InjectorServer) : List (DWORD × InjectHost) → InjectorServer
  | [] => s
  | (pid, host) :: children => (s.inject pid host).1.injectAll children

lemma open_of_mem {s : InjectorServer} {pid : DWORD} {session : SessionId} (h : pid ∈ s.clients) :
    s.open pid session = (s, false) := if_pos h

/-- Any other process is registered, and dropped from the record. -/
lemma open_of_not_mem {s : InjectorServer} {pid : DWORD} {session : SessionId}
    (h : pid ∉ s.clients) : s.open pid session =
      ({ s with clients := s.clients.insert pid session, kept := s.kept.drop pid }, true) :=
  if_neg h

/-- An injection is not tried, or it is and fails, or it succeeds and drops the process from the
record. -/
lemma inject_cases (s : InjectorServer) (pid : DWORD) (host : InjectHost) :
    (s.port = noPort ∧ s.inject pid host = (s, .notStarted)) ∨
      (pid ∈ s.clients ∧ s.inject pid host = (s, .alreadyRegistered)) ∨
      pid ∉ s.clients ∧
        (((s.injector.inject pid s.port host).2.1 = false ∧
            s.inject pid host =
              ({ s with injector := (s.injector.inject pid s.port host).1 }, .failed)) ∨
          ((s.injector.inject pid s.port host).2.1 = true ∧
            s.inject pid host =
              ({ s with
                  injector := (s.injector.inject pid s.port host).1
                  kept := s.kept.drop pid },
                if (s.injector.inject pid s.port host).2.2 then .alreadyEncapsulated
                else .attached))) := by
  unfold inject
  by_cases hport : s.port = noPort
  · exact Or.inl ⟨hport, if_pos hport⟩
  by_cases hmem : pid ∈ s.clients
  · exact Or.inr (Or.inl ⟨hmem, by rw [if_neg hport, if_pos hmem]⟩)
  rw [if_neg hport, if_neg hmem]
  refine Or.inr (Or.inr ⟨hmem, ?_⟩)
  rcases s.injector.inject pid s.port host with ⟨injector, ok, resident⟩
  cases ok with
  | false => exact Or.inl ⟨rfl, rfl⟩
  | true => exact Or.inr ⟨rfl, rfl⟩

@[simp] lemma clients_inject (s : InjectorServer) (pid : DWORD) (host : InjectHost) :
    (s.inject pid host).1.clients = s.clients := by
  rcases s.inject_cases pid host with ⟨-, h⟩ | ⟨-, h⟩ | ⟨-, ⟨-, h⟩ | ⟨-, h⟩⟩ <;> rw [h]

/-- `injector_clients::snapshot`: the sessions that a broadcast is sent to. -/
def snapshot (s : InjectorServer) : List SessionId := s.clients.entries.map Sigma.snd

/-- A broadcast is sent to the registered sessions. -/
lemma mem_snapshot {s : InjectorServer} {session : SessionId} :
    session ∈ s.snapshot ↔ ∃ pid, s.clients.lookup pid = some session := by
  unfold snapshot
  rw [List.mem_map]
  constructor
  · rintro ⟨⟨pid, session⟩, hmem, rfl⟩
    exact ⟨pid, AList.mem_lookup_iff.mpr hmem⟩
  · rintro ⟨pid, hlookup⟩
    exact ⟨⟨pid, session⟩, AList.mem_lookup_iff.mp hlookup, rfl⟩

/-- A process is refused as registered only if it is in the table. -/
lemma mem_of_inject_alreadyRegistered {s : InjectorServer} {pid : DWORD} {host : InjectHost}
    (h : (s.inject pid host).2 = .alreadyRegistered) : pid ∈ s.clients := by
  rcases s.inject_cases pid host with ⟨-, hcase⟩ | ⟨hmem, -⟩ | ⟨-, ⟨-, hcase⟩ | ⟨-, hcase⟩⟩
  · rw [hcase] at h
    cases h
  · exact hmem
  · rw [hcase] at h
    cases h
  · rw [hcase] at h
    dsimp only at h
    split_ifs at h

/-- An injection that fails leaves everything but the records of the injector alone. -/
lemma inject_of_failed {s : InjectorServer} {pid : DWORD} {host : InjectHost}
    (h : (s.inject pid host).2 = .failed) :
    (s.inject pid host).1 = { s with injector := (s.injector.inject pid s.port host).1 } ∧
      (s.injector.inject pid s.port host).2.1 = false := by
  rcases s.inject_cases pid host with ⟨-, hcase⟩ | ⟨-, hcase⟩ | ⟨-, ⟨hload, hcase⟩ | ⟨-, hcase⟩⟩
  · rw [hcase] at h
    cases h
  · rw [hcase] at h
    cases h
  · rw [hcase]
    exact ⟨rfl, hload⟩
  · rw [hcase] at h
    dsimp only at h
    split_ifs at h

/-- The table after the end of a session. -/
@[simp] lemma clients_remove (s : InjectorServer) (pid : DWORD) (ending : SessionEnd) :
    (s.remove pid ending).clients = s.clients.erase pid := by
  cases ending <;> rfl

/-- Injections register no session. -/
@[simp] lemma clients_injectAll (s : InjectorServer) (children : List (DWORD × InjectHost)) :
    (s.injectAll children).clients = s.clients := by
  induction children generalizing s with
  | nil => rfl
  | cons child children ih => rw [injectAll, ih, clients_inject]

/-- The end of a session registers no session. -/
lemma mem_clients_of_mem_remove {s : InjectorServer} {pid pid' : DWORD} {ending : SessionEnd}
    (h : pid' ∈ (s.remove pid ending).clients) : pid' ∈ s.clients := by
  cases ending <;> exact (AList.mem_erase.mp h).2

@[simp] lemma config_inject (s : InjectorServer) (pid : DWORD) (host : InjectHost) :
    (s.inject pid host).1.config = s.config := by
  rcases s.inject_cases pid host with ⟨-, h⟩ | ⟨-, h⟩ | ⟨-, ⟨-, h⟩ | ⟨-, h⟩⟩ <;> rw [h]

@[simp] lemma config_open (s : InjectorServer) (pid : DWORD) (session : SessionId) :
    (s.open pid session).1.config = s.config := by
  unfold «open»
  split_ifs <;> rfl

@[simp] lemma config_remove (s : InjectorServer) (pid : DWORD) (ending : SessionEnd) :
    (s.remove pid ending).config = s.config := by
  cases ending <;> rfl

/-- An injection changes nothing about where a broadcast goes. -/
@[simp] lemma snapshot_inject (s : InjectorServer) (pid : DWORD) (host : InjectHost) :
    (s.inject pid host).1.snapshot = s.snapshot := by
  unfold snapshot
  rw [clients_inject]

/-- A broadcast after a registration goes to the sessions it went to before, and to no other one
than the new one. -/
lemma mem_snapshot_open {s : InjectorServer} {pid : DWORD} {session session' : SessionId} :
    (session' ∈ s.snapshot → session' ∈ (s.open pid session).1.snapshot) ∧
      (session' ∈ (s.open pid session).1.snapshot →
        session' ∈ s.snapshot ∨ session' = session) := by
  unfold «open»
  by_cases hmem : pid ∈ s.clients
  · rw [if_pos hmem]
    exact ⟨fun h => h, fun h => Or.inl h⟩
  · rw [if_neg hmem]
    simp only [mem_snapshot]
    constructor
    · rintro ⟨pid', hlookup⟩
      have hne : pid' ≠ pid := by
        rintro rfl
        exact hmem (AList.lookup_isSome.mp (by rw [hlookup]; rfl))
      exact ⟨pid', by rw [AList.lookup_insert_ne hne, hlookup]⟩
    · rintro ⟨pid', hlookup⟩
      by_cases hpid : pid' = pid
      · rw [hpid, AList.lookup_insert] at hlookup
        exact Or.inr (Option.some.inj hlookup).symm
      · rw [AList.lookup_insert_ne hpid] at hlookup
        exact Or.inl ⟨pid', hlookup⟩

/-- A broadcast after the end of a session goes to the sessions it went to before, but possibly not
to the one that the process was mapped to. -/
lemma mem_snapshot_remove {s : InjectorServer} {pid : DWORD} {ending : SessionEnd}
    {session : SessionId} :
    (session ∈ (s.remove pid ending).snapshot → session ∈ s.snapshot) ∧
      (session ∈ s.snapshot →
        session ∈ (s.remove pid ending).snapshot ∨ s.clients.lookup pid = some session) := by
  simp only [mem_snapshot, clients_remove]
  constructor
  · rintro ⟨pid', hlookup⟩
    by_cases hpid : pid' = pid
    · rw [hpid, AList.lookup_erase] at hlookup
      cases hlookup
    · exact ⟨pid', by rw [← AList.lookup_erase_ne hpid, hlookup]⟩
  · rintro ⟨pid', hlookup⟩
    by_cases hpid : pid' = pid
    · exact Or.inr (hpid ▸ hlookup)
    · exact Or.inl ⟨pid', by rw [AList.lookup_erase_ne hpid, hlookup]⟩

end InjectorServer

/-- A server that has injected process 5. -/
def serverOf5 : InjectorServer :=
  { port := 40000
    injector := ({} : Injector).record 5 { port := 40000, token := Vector.replicate 8 7 } }

end Encapsule
