import Encapsule.Injector.ControlPlane

/-!
# Registrations and their ends

A session is taken down by the reader that loses the connection, by a hello that is refused or by
the front end that closes it, on any thread and in any order, also at the same time.  The front end
is told by `process_close`, which ends the tool when no client is left, and so it must not be told
too often.  `opened_` is stored once for each registration, every teardown takes it back with an
exchange, and the exchange takes it back only once
(`ControlPlane.teardowns_le_registrations`).
-/

namespace Encapsule

open Interaction

/-- One for a registration of the session. -/
def registrations (session : SessionId) : Event PlaneCall.Answer → ℕ
  | ⟨.insert _ registered, true⟩ => if registered = session then 1 else 0
  | _ => 0

/-- One when `opened_` of the session is set. -/
def openings (session : SessionId) : Event PlaneCall.Answer → ℕ
  | ⟨.storeOpened stored true, _⟩ => if stored = session then 1 else 0
  | _ => 0

/-- One when an exchange takes `opened_` of the session back. -/
def exchanges (session : SessionId) : Event PlaneCall.Answer → ℕ
  | ⟨.exchangeOpened taken, true⟩ => if taken = session then 1 else 0
  | _ => 0

/-- One when the front end is told that the session has ended. -/
def teardowns (session : SessionId) : Event PlaneCall.Answer → ℕ
  | ⟨.effect ended (.processClose _), _⟩ => if ended = session then 1 else 0
  | _ => 0

namespace Plane

variable {α : Type} {session : SessionId} {pid : DWORD} {n : ℕ}

/-- The section sets no `opened_`. -/
def OpensNothing : PlaneCall → Prop
  | .storeOpened _ true => False
  | _ => True

/-- The section does not tell the front end that a session has ended. -/
def EndsNothing : PlaneCall → Prop
  | .effect _ (.processClose _) => False
  | _ => True

/-- The sections of the program neither open nor end a session. -/
abbrev Quiet (p : Plane α) : Prop :=
  p.Guarantees (fun _ => True) (fun c => OpensNothing c ∧ EndsNothing c) fun _ => True

lemma quiet_step {c : PlaneCall} {f : c.Answer → Plane α} (hc : OpensNothing c ∧ EndsNothing c)
    (hrest : ∀ x, Quiet (f x)) : Quiet ((atomic c).bind f) := ⟨hc, fun x _ => hrest x⟩

lemma quiet_bind {β : Type} {p : Plane β} {f : β → Plane α} (hp : Quiet p)
    (hf : ∀ a, Quiet (f a)) : Quiet (p.bind f) := Prog.guarantees_bind hp fun a _ => hf a

/-- Bookkeeping opens and ends no session. -/
lemma quiet_of_bookkeeping {p : Plane α} (hp : Bookkeeps p) : Quiet p := by
  refine hp.mono (fun _ _ => trivial) (fun c hc => ?_) fun _ _ => trivial
  cases c with
  | storeOpened _ _ | effect _ _ => exact hc.elim
  | _ => exact ⟨trivial, trivial⟩

/-- A setter opens and ends no session. -/
lemma quiet_set {call : ConfigSetter} : Quiet (set call) := by
  have hpost : ∀ cfg sessions, Quiet (postAll cfg sessions) := by
    intro cfg sessions
    induction sessions with
    | nil => trivial
    | cons session sessions ih => exact quiet_step ⟨trivial, trivial⟩ fun _ => ih
  refine quiet_step ⟨trivial, trivial⟩ fun _ => quiet_step ⟨trivial, trivial⟩ fun _ => ?_
  refine quiet_bind (quiet_step ⟨trivial, trivial⟩ fun cfg => quiet_step ⟨trivial, trivial⟩
    fun sessions => hpost cfg sessions) fun _ => ?_
  exact ⟨⟨trivial, trivial⟩, fun _ _ => trivial⟩

lemma quiet_getConfig : Quiet getConfig := quiet_step ⟨trivial, trivial⟩ fun _ =>
  quiet_step ⟨trivial, trivial⟩ fun _ => quiet_step ⟨trivial, trivial⟩ fun _ => trivial

/-- What follows a registration opens and ends no session. -/
lemma quiet_greeting {cfg : InjectorConfig} {written : Bool}
    {children : List (DWORD × InjectHost)} :
    Quiet ((injectAll children).bind fun _ => sendConfig session cfg written) := by
  refine quiet_bind (quiet_of_bookkeeping bookkeeps_injectAll) fun _ => ?_
  refine quiet_step ⟨trivial, trivial⟩ fun sent => ?_
  cases sent with
  | false => trivial
  | true =>
    exact quiet_step ⟨trivial, trivial⟩ fun _ => ⟨⟨trivial, trivial⟩, fun _ _ => trivial⟩

/-! ## Each thread pays for what it does -/

/-- What sets no `opened_` costs no registration. -/
lemma openings_eq_zero {c : PlaneCall} (x : c.Answer) (hc : OpensNothing c) :
    openings session ⟨c, x⟩ = 0 := by
  cases c with
  | storeOpened stored opened =>
    cases opened with
    | false => rfl
    | true => exact hc.elim
  | _ => rfl

/-- What does not tell the front end of an end costs no exchange. -/
lemma teardowns_eq_zero {c : PlaneCall} (x : c.Answer) (hc : EndsNothing c) :
    teardowns session ⟨c, x⟩ = 0 := by
  cases c with
  | effect ended shown =>
    cases shown with
    | processClose pid => exact hc.elim
    | _ => rfl
  | _ => rfl

/-- Every `opened_` that the program sets is paid for by a registration. -/
abbrev PaysOpenings (session : SessionId) (n : ℕ) (p : Plane α) : Prop :=
  p.Affords (registrations session) (openings session) (fun _ _ => True) n

/-- Every end that the program tells the front end of is paid for by an exchange. -/
abbrev PaysTeardowns (session : SessionId) (n : ℕ) (p : Plane α) : Prop :=
  p.Affords (exchanges session) (teardowns session) (fun _ _ => True) n

/-- A program that opens nothing pays for its openings. -/
lemma paysOpenings_of_guarantees {p : Plane α}
    (hp : p.Guarantees (fun _ => True) OpensNothing fun _ => True) : PaysOpenings session n p :=
  (Prog.affords_of_guarantees hp fun _ x hc => openings_eq_zero x hc).weaken fun _ _ _ => trivial

/-- A program that ends nothing pays for its ends. -/
lemma paysTeardowns_of_guarantees {p : Plane α}
    (hp : p.Guarantees (fun _ => True) EndsNothing fun _ => True) : PaysTeardowns session n p :=
  (Prog.affords_of_guarantees hp fun _ x hc => teardowns_eq_zero x hc).weaken fun _ _ _ => trivial

/-- A quiet program opens nothing. -/
lemma Quiet.opens {p : Plane α} (hp : Quiet p) :
    p.Guarantees (fun _ => True) OpensNothing fun _ => True :=
  hp.mono (fun _ _ => trivial) (fun _ hc => hc.1) fun _ _ => trivial

/-- A quiet program ends nothing. -/
lemma Quiet.ends {p : Plane α} (hp : Quiet p) :
    p.Guarantees (fun _ => True) EndsNothing fun _ => True :=
  hp.mono (fun _ _ => trivial) (fun _ hc => hc.2) fun _ _ => trivial

/-- A quiet program pays for what it opens and for what it ends. -/
lemma pays_of_quiet {p : Plane α} (hp : Quiet p) :
    PaysOpenings session n p ∧ PaysTeardowns session n p :=
  ⟨paysOpenings_of_guarantees hp.opens, paysTeardowns_of_guarantees hp.ends⟩

variable {ended : SessionId} {ending : SessionEnd}

/-- A section that sets no `opened_`, and what follows. -/
lemma opensNothing_step {c : PlaneCall} {f : c.Answer → Plane α} (hc : OpensNothing c)
    (hrest : ∀ x, (f x).Guarantees (fun _ => True) OpensNothing fun _ => True) :
    ((atomic c).bind f).Guarantees (fun _ => True) OpensNothing fun _ => True :=
  ⟨hc, fun x _ => hrest x⟩

/-- A section that is no end, and what follows. -/
lemma endsNothing_step {c : PlaneCall} {f : c.Answer → Plane α} (hc : EndsNothing c)
    (hrest : ∀ x, (f x).Guarantees (fun _ => True) EndsNothing fun _ => True) :
    ((atomic c).bind f).Guarantees (fun _ => True) EndsNothing fun _ => True :=
  ⟨hc, fun x _ => hrest x⟩

/-- A section that pays for itself, and what follows. -/
lemma affords_step {earn spend : Event PlaneCall.Answer → ℕ} {Q : ℕ → α → Prop} {c : PlaneCall}
    {f : c.Answer → Plane α} (hpays : ∀ x, spend ⟨c, x⟩ ≤ n + earn ⟨c, x⟩)
    (hrest : ∀ x, (f x).Affords earn spend Q (n + earn ⟨c, x⟩ - spend ⟨c, x⟩)) :
    ((atomic c).bind f).Affords earn spend Q n := fun x => ⟨hpays x, hrest x⟩

/-- A teardown sets no `opened_`. -/
lemma opensNothing_stop :
    (stop ended ending).Guarantees (fun _ => True) OpensNothing fun _ => True := by
  refine opensNothing_step trivial fun _ => opensNothing_step trivial fun taken => ?_
  cases taken with
  | false => trivial
  | true =>
    refine opensNothing_step trivial fun pid => ?_
    refine Prog.guarantees_bind (quiet_of_bookkeeping bookkeeps_remove).opens fun _ _ => ?_
    exact opensNothing_step trivial fun _ => ⟨trivial, fun _ _ => trivial⟩

/-- A teardown tells the front end when its exchange has taken `opened_`. -/
lemma paysTeardowns_stop : PaysTeardowns session n (stop ended ending) := by
  refine affords_step (fun _ => Nat.zero_le _) fun _ => ?_
  refine affords_step (fun _ => Nat.zero_le _) fun taken => ?_
  cases taken with
  | false => trivial
  | true =>
    refine affords_step (fun _ => Nat.zero_le _) fun pid => ?_
    have hremove : Quiet (remove pid ending) := quiet_of_bookkeeping bookkeeps_remove
    refine Prog.affords_bind (Prog.affords_of_guarantees hremove.ends
      fun _ x hc => teardowns_eq_zero x hc) fun m _ hm => ?_
    have hpaid : (if ended = session then 1 else 0) ≤ m := by
      refine le_trans ?_ hm
      simp [exchanges, teardowns]
    refine affords_step (fun _ => Nat.zero_le _) fun pid' => fun _ => ⟨?_, trivial⟩
    simpa [exchanges, teardowns] using hpaid

/-- A registration leaves the credit for one `opened_`. -/
lemma affords_open : («open» pid ended).Affords (registrations session) (openings session)
    (fun m opened => opened = true → ended = session → 1 ≤ m) n := by
  refine affords_step (fun _ => Nat.zero_le _) fun inserted => ?_
  cases inserted with
  | false => exact fun h => by cases h
  | true =>
    refine affords_step (fun _ => Nat.zero_le _) fun _ _ hsession => ?_
    simp [registrations, openings, hsession]

/-- An accepted hello sets `opened_` when it has registered the session. -/
lemma paysOpenings_greet {host : MessageHost} :
    PaysOpenings session n (greet ended host pid) := by
  refine affords_step (fun _ => Nat.zero_le _) fun _ => ?_
  refine Prog.affords_bind affords_open fun m opened hm => ?_
  refine affords_step (fun _ => ?_) fun _ => paysOpenings_of_guarantees (Quiet.opens ?_)
  · cases opened with
    | false => exact Nat.zero_le _
    | true =>
      by_cases hsession : ended = session
      · simpa [openings, hsession] using Nat.le_add_right_of_le (hm rfl hsession)
      · simp [openings, hsession]
  · exact quiet_bind quiet_getConfig fun _ => quiet_greeting

/-- An accepted hello tells the front end of no end. -/
lemma endsNothing_greet {host : MessageHost} :
    (greet ended host pid).Guarantees (fun _ => True) EndsNothing fun _ => True := by
  have hopen : («open» pid ended).Guarantees (fun _ => True) EndsNothing fun _ => True := by
    refine endsNothing_step trivial fun inserted => ?_
    cases inserted with
    | false => trivial
    | true => exact endsNothing_step trivial fun _ => trivial
  refine endsNothing_step trivial fun _ => Prog.guarantees_bind hopen fun opened _ => ?_
  exact endsNothing_step trivial fun _ =>
    (quiet_bind quiet_getConfig fun _ => quiet_greeting).ends

/-- A message pays for what it opens and for what it ends. -/
lemma pays_process {host : MessageHost} {msg : InjecteeMessage} :
    PaysOpenings session 0 (process ended host msg) ∧
      PaysTeardowns session 0 (process ended host msg) := by
  unfold process
  cases compareMessage "pid" msg.opcode msg.pid with
  | some pid =>
    constructor
    · refine affords_step (fun _ => Nat.zero_le _) fun accepted => ?_
      cases accepted with
      | true => exact paysOpenings_greet
      | false =>
        exact affords_step (fun _ => Nat.zero_le _) fun _ =>
          paysOpenings_of_guarantees opensNothing_stop
    · refine affords_step (fun _ => Nat.zero_le _) fun accepted => ?_
      cases accepted with
      | true => exact paysTeardowns_of_guarantees endsNothing_greet
      | false => exact affords_step (fun _ => Nat.zero_le _) fun _ => paysTeardowns_stop
  | none =>
    cases compareMessage "connect" msg.opcode msg.connect with
    | some report => exact pays_of_quiet ⟨⟨trivial, trivial⟩, fun _ _ => trivial⟩
    | none =>
      cases compareMessage "subpid" msg.opcode msg.subpid with
      | none => exact ⟨trivial, trivial⟩
      | some pid =>
        exact pays_of_quiet (quiet_bind (quiet_of_bookkeeping bookkeeps_inject) fun _ =>
          ⟨⟨trivial, trivial⟩, fun _ _ => trivial⟩)

/-- The front end pays for what it closes. -/
lemma pays_close : PaysOpenings session n (close pid) ∧ PaysTeardowns session n (close pid) := by
  constructor
  · refine affords_step (fun _ => Nat.zero_le _) fun client => ?_
    cases client with
    | none => trivial
    | some ended =>
      exact Prog.affords_bind (paysOpenings_of_guarantees opensNothing_stop) fun _ _ _ => trivial
  · refine affords_step (fun _ => Nat.zero_le _) fun client => ?_
    cases client with
    | none => trivial
    | some ended => exact Prog.affords_bind paysTeardowns_stop fun _ _ _ => trivial

/-- Every thread pays for what it opens and for what it ends. -/
lemma pays_body (thread : PlaneThread) (session : SessionId) :
    PaysOpenings session 0 thread.body ∧ PaysTeardowns session 0 thread.body := by
  cases thread with
  | setPort port => exact pays_of_quiet ⟨⟨trivial, trivial⟩, fun _ _ => trivial⟩
  | inject pid host =>
    exact pays_of_quiet (quiet_bind (quiet_of_bookkeeping bookkeeps_inject) fun _ => trivial)
  | set call => exact pays_of_quiet quiet_set
  | push ended cfg written =>
    exact pays_of_quiet (quiet_step ⟨trivial, trivial⟩ fun _ => quiet_step ⟨trivial, trivial⟩
      fun _ => trivial)
  | lost ended => exact ⟨paysOpenings_of_guarantees opensNothing_stop, paysTeardowns_stop⟩
  | message ended host msg => exact pays_process
  | close pid =>
    exact ⟨Prog.affords_bind pays_close.1 fun _ _ _ => trivial,
      Prog.affords_bind pays_close.2 fun _ _ _ => trivial⟩

end Plane

namespace ControlPlane

/-- `opened_` is set when there was one more opening than exchanges. -/
def OpenedOnce (session : SessionId) (h : List (Event PlaneCall.Answer)) (s : ControlPlane) :
    Prop :=
  Pool.total (exchanges session) h + (if (s.peers session).opened then 1 else 0) ≤
    Pool.total (openings session) h

/-- A section sets `opened_` only as an opening, and an exchange takes it back. -/
lemma openedOnce_exec {session : SessionId} {h : List (Event PlaneCall.Answer)}
    {s s' : ControlPlane} {c : PlaneCall} {x : c.Answer} (hs : OpenedOnce session h s)
    (hexec : exec c s = some (x, s')) : OpenedOnce session (h ++ [⟨c, x⟩]) s' := by
  unfold OpenedOnce at hs ⊢
  rw [Pool.total_concat, Pool.total_concat]
  cases c with
  | exchangeOpened taken =>
    obtain ⟨rfl, rfl⟩ := Prod.mk.inj (Option.some.inj hexec)
    by_cases heq : taken = session
    · subst heq
      cases hopened : (s.peers taken).opened <;>
        simpa [setPeer, exchanges, openings, hopened] using hs
    · cases hopened : (s.peers taken).opened <;>
        simpa [setPeer, exchanges, openings, heq, Function.update_of_ne (Ne.symm heq)] using hs
  | storeOpened stored opened =>
    obtain ⟨-, rfl⟩ := Prod.mk.inj (Option.some.inj hexec)
    by_cases heq : stored = session
    · subst heq
      have hle : Pool.total (exchanges stored) h ≤ Pool.total (openings stored) h := by omega
      cases opened <;> simpa [setPeer, exchanges, openings] using hle
    · cases opened <;>
        simpa [setPeer, exchanges, openings, heq, Function.update_of_ne (Ne.symm heq)] using hs
  | closeSocket closed | storePid closed _ =>
    obtain ⟨-, rfl⟩ := Prod.mk.inj (Option.some.inj hexec)
    by_cases heq : session = closed
    · subst heq
      simpa [setPeer, exchanges, openings] using hs
    · simpa [setPeer, exchanges, openings, Function.update_of_ne heq] using hs
  | lock | insert _ _ | begin _ _ =>
    dsimp only [exec] at hexec
    split_ifs at hexec
    all_goals
      obtain ⟨-, rfl⟩ := Prod.mk.inj (Option.some.inj hexec)
      exact hs
  | _ =>
    obtain ⟨-, rfl⟩ := Prod.mk.inj (Option.some.inj hexec)
    exact hs

/-- For every session, the front end is told of at most one end for each registration, whoever takes
the session down and whatever runs in between; and a session that is open is owed one. -/
theorem teardowns_le_registrations (server : InjectorServer) (schedule : List (Turn PlaneThread))
    (session : SessionId) :
    Pool.total (teardowns session) (after server schedule).history +
        (if ((after server schedule).state.peers session).opened then 1 else 0) ≤
      Pool.total (registrations session) (after server schedule).history := by
  have hteardowns : Pool.total (teardowns session) (after server schedule).history ≤
      Pool.total (exchanges session) (after server schedule).history :=
    Pool.spent_le_earned (Pool.solvent_of_empty _) fun thread =>
      (Plane.pays_body thread session).2
  have hopenings : Pool.total (openings session) (after server schedule).history ≤
      Pool.total (registrations session) (after server schedule).history :=
    Pool.spent_le_earned (Pool.solvent_of_empty _) fun thread =>
      (Plane.pays_body thread session).1
  have hinit : OpenedOnce session [] { server } := by simp [OpenedOnce, Pool.total]
  have hopened : OpenedOnce session (after server schedule).history (after server schedule).state :=
    (Pool.run_upholds ⟨hinit, by simp⟩ fun thread _ => Prog.upholds_of_guarantees
      (Prog.guarantees_of_forall (fun _ => trivial) (fun _ => trivial) thread.body)
      fun _ _ _ _ _ _ hs hexec => openedOnce_exec hs hexec).holds
  unfold OpenedOnce at hopened
  omega

end ControlPlane

end Encapsule
