import Encapsule.Injector.Session

/-!
# What a session leaves behind

A session is in the table of clients under the process of each hello that registered it, but it
remembers one process only, and whether the last hello registered it.  Its end removes that one
process.  So the table is free of a session that has ended exactly if no hello was accepted while
the session was registered (`teardown_iff`).
-/

namespace Encapsule

namespace InjecteeSession

/-- A message is handled. -/
def deliver (s : InjecteeSession) (msg : MessageHost × InjecteeMessage) :
    InjecteeSession × List SessionEffect := s.process msg.1 msg.2

/-- The message, if it is a hello that is accepted, comes while the session is not registered. -/
def RegistersOnce (s : InjecteeSession) (msg : MessageHost × InjecteeMessage) : Prop :=
  s.accepts msg.2 = true → s.opened = false

instance (s : InjecteeSession) (msg : MessageHost × InjecteeMessage) :
    Decidable (s.RegistersOnce msg) :=
  inferInstanceAs (Decidable (s.accepts msg.2 = true → s.opened = false))

variable {s : InjecteeSession} {before : InjectorServer}

/-! ## What the messages do -/

/-- The end of a session removes the process it remembers, if the last hello registered it. -/
lemma stop_clients (s : InjecteeSession) (ending : SessionEnd) :
    (s.stop ending).1.id = s.id ∧ (s.stop ending).1.opened = false ∧
      (s.stop ending).1.server.clients =
        if s.opened then s.server.clients.erase s.pid else s.server.clients := by
  unfold stop
  cases s.opened with
  | false => exact ⟨rfl, rfl, rfl⟩
  | true => exact ⟨rfl, rfl, InjectorServer.clients_remove _ _ _⟩

/-- A hello that is accepted registers the session, unless its process is registered already. -/
lemma deliver_accepted {msg : MessageHost × InjecteeMessage} (h : s.accepts msg.2 = true) :
    (s.deliver msg).1.id = s.id ∧
      (((s.deliver msg).1.opened = false ∧ (s.deliver msg).1.server.clients = s.server.clients) ∨
        ((s.deliver msg).1.opened = true ∧ (s.deliver msg).1.pid ∉ s.server.clients ∧
          (s.deliver msg).1.server.clients =
            s.server.clients.insert (s.deliver msg).1.pid s.id)) := by
  obtain ⟨host, msg⟩ := msg
  unfold accepts at h
  unfold deliver process
  cases hpid : compareMessage "pid" msg.opcode msg.pid with
  | none =>
    simp only [hpid] at h
    cases h
  | some v =>
    simp only [hpid] at h
    simp only [processHello, h, Bool.not_true, Bool.false_eq_true, if_false,
      InjectorServer.clients_injectAll, true_and]
    by_cases hmem : v ∈ s.server.clients
    · left
      simp [InjectorServer.open, hmem]
    · right
      simp [InjectorServer.open, hmem]

/-- Any other message leaves the registration alone, or ends the session. -/
lemma deliver_refused {msg : MessageHost × InjecteeMessage} (h : s.accepts msg.2 = false) :
    (s.deliver msg).1 = (s.stop .lost).1 ∨
      ((s.deliver msg).1.id = s.id ∧ (s.deliver msg).1.opened = s.opened ∧
        (s.deliver msg).1.pid = s.pid ∧
        (s.deliver msg).1.server.clients = s.server.clients) := by
  obtain ⟨host, msg⟩ := msg
  unfold accepts at h
  unfold deliver process
  cases hpid : compareMessage "pid" msg.opcode msg.pid with
  | some v =>
    simp only [hpid] at h
    left
    simp only [processHello, h, Bool.not_false, if_true]
  | none =>
    right
    cases compareMessage "connect" msg.opcode msg.connect with
    | some report => exact ⟨rfl, rfl, rfl, rfl⟩
    | none =>
      cases compareMessage "subpid" msg.opcode msg.subpid with
      | some v => exact ⟨rfl, rfl, rfl, InjectorServer.clients_inject _ _ _⟩
      | none => exact ⟨rfl, rfl, rfl, rfl⟩

/-! ## Nothing is left -/

/-- The table is as it was before the session, except that a registered session is in it under the
process that it remembers. -/
structure Tidy (before : InjectorServer) (s : InjecteeSession) : Prop where
  owned : ∀ pid, s.server.clients.lookup pid = some s.id → s.opened = true ∧ pid = s.pid
  known : ∀ pid ∈ s.server.clients, pid ∈ before.clients ∨ (s.opened = true ∧ pid = s.pid)

/-- The end of a session clears the table of it. -/
lemma Tidy.stop (h : Tidy before s) (ending : SessionEnd) : Tidy before (s.stop ending).1 := by
  obtain ⟨hid, hopened, hclients⟩ := s.stop_clients ending
  refine ⟨fun pid hlookup => ?_, fun pid hmem => ?_⟩
  · exfalso
    rw [hid, hclients] at hlookup
    split_ifs at hlookup with hown
    · by_cases hpid : pid = s.pid
      · rw [hpid, AList.lookup_erase] at hlookup
        cases hlookup
      · rw [AList.lookup_erase_ne hpid] at hlookup
        exact hpid (h.owned pid hlookup).2
    · exact hown (h.owned pid hlookup).1
  · left
    rw [hclients] at hmem
    split_ifs at hmem with hown
    · obtain ⟨hne, hmem⟩ := AList.mem_erase.mp hmem
      exact (h.known pid hmem).resolve_right fun hpid => hne hpid.2
    · exact (h.known pid hmem).resolve_right fun hpid => hown hpid.1

/-- A message of a session that registers once at a time keeps the table tidy. -/
lemma Tidy.deliver {msg : MessageHost × InjecteeMessage} (honce : s.RegistersOnce msg)
    (h : Tidy before s) : Tidy before (s.deliver msg).1 := by
  cases haccepts : s.accepts msg.2 with
  | true =>
    have hclosed := honce haccepts
    have hnone (pid : DWORD) : s.server.clients.lookup pid ≠ some s.id := fun hlookup => by
      have hopened := (h.owned pid hlookup).1
      rw [hclosed] at hopened
      cases hopened
    have hknown (pid : DWORD) (hmem : pid ∈ s.server.clients) : pid ∈ before.clients :=
      (h.known pid hmem).resolve_right fun hopened => by
        rw [hclosed] at hopened
        cases hopened.1
    obtain ⟨hid, ⟨-, hclients⟩ | ⟨hopened, -, hclients⟩⟩ := deliver_accepted haccepts
    · refine ⟨fun pid hlookup => ?_, fun pid hmem => ?_⟩
      · rw [hid, hclients] at hlookup
        exact absurd hlookup (hnone pid)
      · rw [hclients] at hmem
        exact Or.inl (hknown pid hmem)
    · refine ⟨fun pid hlookup => ⟨hopened, ?_⟩, fun pid hmem => ?_⟩
      · by_contra hpid
        rw [hid, hclients, AList.lookup_insert_ne hpid] at hlookup
        exact hnone pid hlookup
      · rw [hclients, AList.mem_insert] at hmem
        rcases hmem with hpid | hmem
        · exact Or.inr ⟨hopened, hpid⟩
        · exact Or.inl (hknown pid hmem)
  | false =>
    rcases deliver_refused haccepts with hstop | ⟨hid, hopened, hpid, hclients⟩
    · rw [hstop]
      exact h.stop .lost
    · refine ⟨fun pid hlookup => ?_, fun pid hmem => ?_⟩
      · rw [hid, hclients] at hlookup
        rw [hopened, hpid]
        exact h.owned pid hlookup
      · rw [hclients] at hmem
        rw [hopened, hpid]
        exact h.known pid hmem

/-! ## Something is left -/

/-- A registered session is in the table under the process it remembers. -/
def Registered (s : InjecteeSession) : Prop :=
  s.opened = true → s.server.clients.lookup s.pid = some s.id

/-- The session is in the table under a process that its end does not remove. -/
def Strays (s : InjecteeSession) : Prop :=
  ∃ pid, s.server.clients.lookup pid = some s.id ∧ (s.opened = true → pid ≠ s.pid)

/-- No message makes a session forget the process it is registered under without removing it. -/
lemma Registered.deliver (h : s.Registered) (msg : MessageHost × InjecteeMessage) :
    (s.deliver msg).1.Registered := by
  intro hopened
  cases haccepts : s.accepts msg.2 with
  | true =>
    obtain ⟨hid, ⟨hclosed, -⟩ | ⟨-, -, hclients⟩⟩ := deliver_accepted haccepts
    · rw [hclosed] at hopened
      cases hopened
    · rw [hid, hclients, AList.lookup_insert]
  | false =>
    rcases deliver_refused haccepts with hstop | ⟨hid, heq, hpid, hclients⟩
    · rw [hstop, (s.stop_clients .lost).2.1] at hopened
      cases hopened
    · rw [hid, hpid, hclients]
      exact h (heq ▸ hopened)

/-- What strays is not removed by the end of the session. -/
lemma Strays.stop (h : s.Strays) (ending : SessionEnd) : (s.stop ending).1.Strays := by
  obtain ⟨pid, hlookup, hother⟩ := h
  obtain ⟨hid, hopened, hclients⟩ := s.stop_clients ending
  refine ⟨pid, ?_, fun hcontra => ?_⟩
  · rw [hid, hclients]
    split_ifs with hown
    · rw [AList.lookup_erase_ne (hother hown)]
      exact hlookup
    · exact hlookup
  · rw [hopened] at hcontra
    cases hcontra

/-- What strays is not removed by any message. -/
lemma Strays.deliver (h : s.Strays) (msg : MessageHost × InjecteeMessage) :
    (s.deliver msg).1.Strays := by
  cases haccepts : s.accepts msg.2 with
  | true =>
    obtain ⟨pid, hlookup, -⟩ := h
    have hmem : pid ∈ s.server.clients := by
      rw [← AList.lookup_isSome, hlookup, Option.isSome_some]
    obtain ⟨hid, ⟨hclosed, hclients⟩ | ⟨hopened, hnew, hclients⟩⟩ := deliver_accepted haccepts
    · refine ⟨pid, by rw [hid, hclients, hlookup], fun hcontra => ?_⟩
      rw [hclosed] at hcontra
      cases hcontra
    · have hne : pid ≠ (s.deliver msg).1.pid := fun heq => hnew (heq ▸ hmem)
      refine ⟨pid, ?_, fun _ => hne⟩
      rw [hid, hclients, AList.lookup_insert_ne hne, hlookup]
  | false =>
    rcases deliver_refused haccepts with hstop | ⟨hid, hopened, hpid, hclients⟩
    · rw [hstop]
      exact h.stop .lost
    · obtain ⟨pid, hlookup, hother⟩ := h
      refine ⟨pid, by rw [hid, hclients, hlookup], ?_⟩
      rw [hopened, hpid]
      exact hother

/-- A hello that is accepted while the session is registered makes it stray. -/
lemma strays_of_accepted {msg : MessageHost × InjecteeMessage} (hregistered : s.Registered)
    (haccepts : s.accepts msg.2 = true) (hopened : s.opened = true) :
    (s.deliver msg).1.Strays := by
  have hlookup := hregistered hopened
  have hmem : s.pid ∈ s.server.clients := by
    rw [← AList.lookup_isSome, hlookup, Option.isSome_some]
  obtain ⟨hid, ⟨hclosed, hclients⟩ | ⟨-, hnew, hclients⟩⟩ := deliver_accepted haccepts
  · refine ⟨s.pid, by rw [hid, hclients, hlookup], fun hcontra => ?_⟩
    rw [hclosed] at hcontra
    cases hcontra
  · have hne : s.pid ≠ (s.deliver msg).1.pid := fun heq => hnew (heq ▸ hmem)
    refine ⟨s.pid, ?_, fun _ => hne⟩
    rw [hid, hclients, AList.lookup_insert_ne hne, hlookup]

/-- A session that is accepted twice at some point of a run strays from then on. -/
lemma strays_run (hregistered : s.Registered) {messages : List (MessageHost × InjecteeMessage)}
    (h : ¬ Mealy.Along deliver RegistersOnce s messages) :
    (Mealy.run deliver s messages).Strays := by
  refine Mealy.run_of_not_along (P := Registered) (Q := Strays) ?_ ?_ ?_ hregistered h
  · intro s msg _ hregistered
    exact hregistered.deliver msg
  · intro s msg htwice hregistered
    obtain ⟨haccepts, hopened⟩ := Classical.not_imp.mp htwice
    rw [Bool.not_eq_false] at hopened
    exact strays_of_accepted hregistered haccepts hopened
  · intro s msg hstrays
    exact hstrays.deliver msg

/-! ## The table after the end -/

/-- Nothing is left of a session: no process is mapped to it, no broadcast is sent to it, and a
process that nobody had registered before it can be injected. -/
def NothingLeft (before after : InjectorServer) (id : SessionId) : Prop :=
  (∀ pid, after.clients.lookup pid ≠ some id) ∧ id ∉ after.snapshot ∧
    ∀ pid host, pid ∉ before.clients → (after.inject pid host).2 ≠ .alreadyRegistered

/-- Whatever messages a session has been sent, nothing is left of it after its end, lost or closed
by the front end, if and only if no hello was accepted while the session was registered. -/
theorem teardown_iff (id : SessionId) (server : InjectorServer)
    (hfresh : ∀ pid, server.clients.lookup pid ≠ some id)
    (messages : List (MessageHost × InjecteeMessage)) (ending : SessionEnd) :
    NothingLeft server ((Mealy.run deliver { id, server } messages).stop ending).1.server id ↔
      Mealy.Along deliver RegistersOnce { id, server } messages := by
  have hid : ((Mealy.run deliver { id, server } messages).stop ending).1.id = id := by
    rw [(stop_clients _ ending).1]
    refine Mealy.run_invariant (P := fun s : InjecteeSession => s.id = id) (fun s msg hs => ?_)
      rfl messages
    cases haccepts : s.accepts msg.2 with
    | true => rw [(deliver_accepted haccepts).1, hs]
    | false =>
      rcases deliver_refused haccepts with hstop | ⟨heq, -⟩
      · rw [hstop, (s.stop_clients .lost).1, hs]
      · rw [heq, hs]
  constructor
  · intro hnothing
    by_contra honce
    have hregistered : Registered { id, server } := fun hcontra => by cases hcontra
    obtain ⟨pid, hlookup, -⟩ := (strays_run hregistered honce).stop ending
    rw [hid] at hlookup
    exact hnothing.1 pid hlookup
  · intro honce
    have htidy : Tidy server { id, server } :=
      ⟨fun pid hlookup => absurd hlookup (hfresh pid), fun pid hmem => Or.inl hmem⟩
    have htidy := (Mealy.run_invariant_of (fun s msg => Tidy.deliver) htidy honce).stop ending
    have hclosed := (stop_clients (Mealy.run deliver { id, server } messages) ending).2.1
    have hnone : ∀ pid, ((Mealy.run deliver { id, server } messages).stop
        ending).1.server.clients.lookup pid ≠ some id := by
      intro pid hlookup
      have hopened := (htidy.owned pid (by rw [hid, hlookup])).1
      rw [hclosed] at hopened
      cases hopened
    refine ⟨hnone, fun hmem => ?_, fun pid host hnew hrefused => ?_⟩
    · obtain ⟨pid, hlookup⟩ := InjectorServer.mem_snapshot.mp hmem
      exact hnone pid hlookup
    · have hmem := InjectorServer.mem_of_inject_alreadyRegistered hrefused
      rcases htidy.known pid hmem with hold | ⟨hopened, -⟩
      · exact hnew hold
      · rw [hclosed] at hopened
        cases hopened

/-- The hello of process 5, when nothing else happens. -/
def helloOf5 : MessageHost × InjecteeMessage :=
  let inject : InjectHost :=
    { process := false, isWow64 := none, resident := false, injectee := false, random := none,
      mapping := false, view := false, load := .noMemory }
  ({ children := [], subpid := inject, written := true },
    { opcode := some "pid", pid := some 5, token := some (List.replicate 8 7) })

/-- Nothing is left of a session with one hello. -/
theorem teardown_iff_one_hello :
    NothingLeft serverOf5
      ((Mealy.run deliver { id := 0, server := serverOf5 } [helloOf5]).stop .lost).1.server 0 := by
  have hfresh (pid : DWORD) : serverOf5.clients.lookup pid ≠ some 0 := fun h => by cases h
  have honce : Mealy.Along deliver RegistersOnce { id := 0, server := serverOf5 } [helloOf5] := by
    decide
  exact (teardown_iff 0 serverOf5 hfresh [helloOf5] .lost).mpr honce

/-- A session that says hello twice is in the table after its end, lost or closed. -/
theorem not_nothingLeft_two_hellos :
    let s := Mealy.run deliver { id := 0, server := serverOf5 } [helloOf5, helloOf5]
    ¬ NothingLeft serverOf5 (s.stop .lost).1.server 0 ∧
      ¬ NothingLeft serverOf5 (s.stop .retired).1.server 0 := by
  intro s
  have hlost : (s.stop .lost).1.server.clients.lookup 5 = some 0 := by decide
  have hretired : (s.stop .retired).1.server.clients.lookup 5 = some 0 := by decide
  exact ⟨fun h => h.1 5 hlost, fun h => h.1 5 hretired⟩

end InjecteeSession

end Encapsule
