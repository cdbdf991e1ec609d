import Encapsule.Injector.KeptHistory

/-!
# The verdicts of an injection

`injector_server::inject` asks three questions in turn: whether there is a control port, whether the
process is registered, and what the injector makes of it.  The answer to the first one is spelled as
a value of the port itself, so that a server whose port is that value answers as one that was never
started (`verdictsExact_iff`).
-/

namespace Encapsule

/-- What `injector::inject` reports, as a verdict: whether it succeeded, and whether the capsule was
there already. -/
def InjectVerdict.reported : Bool × Bool → InjectVerdict
  | (false, _) => .failed
  | (true, true) => .alreadyEncapsulated
  | (true, false) => .attached

/-- A call of the server: `set_port`, or one of the calls that concern its records. -/
inductive PortedOp where
  | setPort (port : UInt16)
  | call (op : ServerOp)

/-- The port of a `set_port`. -/
def PortedOp.port : PortedOp → Option UInt16
  | .setPort port => some port
  | .call _ => none

/-- The port that was set last. -/
def lastPort (ops : List PortedOp) : Option UInt16 := (ops.filterMap PortedOp.port).getLast?

namespace InjectorServer

/-- `set_port`. -/
def setPort (s : InjectorServer) (port : UInt16) : InjectorServer := { s with port }

/-- One call, and what it does. -/
def portedStep (s : InjectorServer) : PortedOp → InjectorServer × List ServerEvent
  | .setPort port => (s.setPort port, [])
  | .call op => s.step op

variable {s : InjectorServer} {pid : DWORD} {host : InjectHost} {ops : List PortedOp}

/-! ## One injection -/

/-- The three questions in their order. -/
lemma verdict_inject (s : InjectorServer) (pid : DWORD) (host : InjectHost) :
    (s.inject pid host).2 =
      if s.port = noPort then .notStarted
      else if pid ∈ s.clients then .alreadyRegistered
      else .reported (s.injector.inject pid s.port host).2 := by
  unfold inject
  split_ifs with hport hmem
  · rfl
  · rfl
  · rcases s.injector.inject pid s.port host with ⟨injector, ok, resident⟩
    cases ok with
    | false => rfl
    | true => cases resident <;> rfl

/-- The injector has no word for the two refusals. -/
lemma reported_ne (report : Bool × Bool) :
    InjectVerdict.reported report ≠ .notStarted ∧
      InjectVerdict.reported report ≠ .alreadyRegistered := by
  rcases report with ⟨_ | _, _ | _⟩ <;> decide

/-- The port decides whether the server counts as started. -/
lemma inject_notStarted_iff : (s.inject pid host).2 = .notStarted ↔ s.port = noPort := by
  rw [verdict_inject]
  split_ifs with hport hmem
  · exact iff_of_true rfl hport
  · exact iff_of_false (by decide) hport
  · exact iff_of_false (reported_ne _).1 hport

/-- The table decides whether the process counts as registered, once there is a port. -/
lemma inject_alreadyRegistered_iff :
    (s.inject pid host).2 = .alreadyRegistered ↔ s.port ≠ noPort ∧ pid ∈ s.clients := by
  rw [verdict_inject]
  split_ifs with hport hmem
  · exact iff_of_false (by decide) fun h => h.1 hport
  · exact iff_of_true rfl ⟨hport, hmem⟩
  · exact iff_of_false (reported_ne _).2 fun h => hmem h.2

/-- A refusal changes nothing. -/
lemma inject_of_refused
    (h : (s.inject pid host).2 = .notStarted ∨ (s.inject pid host).2 = .alreadyRegistered) :
    (s.inject pid host).1 = s := by
  unfold inject
  rw [inject_notStarted_iff, inject_alreadyRegistered_iff] at h
  rcases h with hport | ⟨hport, hmem⟩
  · rw [if_pos hport]
  · rw [if_neg hport, if_pos hmem]

/-! ## The port of a server with a history -/

/-- Only `set_port` changes the port. -/
@[simp] lemma port_step (s : InjectorServer) (op : ServerOp) : (s.step op).1.port = s.port := by
  have hremove (s : InjectorServer) (pid : DWORD) (ending : SessionEnd) :
      (s.remove pid ending).port = s.port := by cases ending <;> rfl
  cases op with
  | inject pid host =>
    change (s.inject pid host).1.port = s.port
    rcases s.inject_cases pid host with ⟨-, h⟩ | ⟨-, h⟩ | ⟨-, ⟨-, h⟩ | ⟨-, h⟩⟩ <;> rw [h]
  | «open» pid session =>
    change (s.open pid session).1.port = s.port
    unfold «open»
    split_ifs <;> rfl
  | remove pid ending => cases ending <;> exact hremove s pid _
  | close pid stop =>
    change (s.close pid stop).1.port = s.port
    unfold close
    cases s.clients.lookup pid with
    | none => rfl
    | some session =>
      dsimp only
      cases stop session with
      | none => rfl
      | some pid => exact hremove s pid .retired

/-- The port of a server is the one that was set last. -/
lemma port_run (ops : List PortedOp) :
    (Mealy.run portedStep {} ops).port = (lastPort ops).getD noPort := by
  unfold lastPort
  induction ops using List.reverseRecOn with
  | nil => rfl
  | append_singleton ops op ih =>
    rw [Mealy.run_concat, List.filterMap_append]
    cases op with
    | setPort port => simp [portedStep, setPort, PortedOp.port]
    | call op =>
      change ((Mealy.run portedStep {} ops).step op).1.port = _
      rw [port_step, ih]
      simp [PortedOp.port]

/-! ## The partition -/

/-- The verdicts of a server whose port was set last as `port`, if ever, say what they are named
for. -/
structure VerdictsExact (s : InjectorServer) (port : Option UInt16) : Prop where
  notStarted_iff : ∀ pid host, (s.inject pid host).2 = .notStarted ↔ port = none
  alreadyRegistered_iff : ∀ pid host,
    (s.inject pid host).2 = .alreadyRegistered ↔ port ≠ none ∧ pid ∈ s.clients
  /-- What is not refused is answered as the injector has reported. -/
  tried : ∀ pid host p, port = some p → pid ∉ s.clients →
    (s.inject pid host).2 = .reported (s.injector.inject pid p host).2
  refused : ∀ pid host,
    (s.inject pid host).2 = .notStarted ∨ (s.inject pid host).2 = .alreadyRegistered →
      (s.inject pid host).1.clients = s.clients ∧ (s.inject pid host).1.kept = s.kept ∧
        (s.inject pid host).1.injector = s.injector

/-- An injection for which the operating system answers nothing. -/
def refusingHost : InjectHost :=
  { process := false, isWow64 := none, resident := false, injectee := false, random := none
    mapping := false, view := false, load := .noMemory }

/-- **The verdicts of an injection.** After any history the verdicts partition the calls as their
names say, if and only if the port that was set last is not the one that stands for none. -/
theorem verdictsExact_iff (ops : List PortedOp) :
    (Mealy.run portedStep {} ops).VerdictsExact (lastPort ops) ↔ lastPort ops ≠ some noPort := by
  have hport := port_run ops
  generalize Mealy.run portedStep {} ops = s at hport ⊢
  constructor
  · intro hexact hlast
    rw [hlast] at hport hexact
    exact Option.some_ne_none _
      ((hexact.notStarted_iff 0 refusingHost).mp (inject_notStarted_iff.mpr hport))
  · intro hlast
    have hstarted : s.port = noPort ↔ lastPort ops = none := by
      rw [hport]
      cases hcase : lastPort ops with
      | none => simp
      | some port => simpa [hcase] using hlast
    refine ⟨fun pid host => ?_, fun pid host => ?_, fun pid host port hset hmem => ?_,
      fun pid host hrefused => ?_⟩
    · rw [inject_notStarted_iff, hstarted]
    · rw [inject_alreadyRegistered_iff, ne_eq, hstarted]
    · have hne : ¬s.port = noPort := by
        rw [hstarted, hset]
        exact Option.some_ne_none port
      have hsame : s.port = port := by
        rw [hport, hset]
        rfl
      rw [verdict_inject, if_neg hne, if_neg hmem, hsame]
    · rw [inject_of_refused hrefused]
      exact ⟨rfl, rfl, rfl⟩

/-- A server with the highest port answers that it was not started. -/
theorem not_verdictsExact_highest :
    ¬ (Mealy.run portedStep {} [.setPort 65535]).VerdictsExact (lastPort [.setPort 65535]) := by
  intro hexact
  have hanswer := (hexact.notStarted_iff 5 refusingHost).mp (by decide)
  exact absurd hanswer (by decide)

end InjectorServer

end Encapsule
