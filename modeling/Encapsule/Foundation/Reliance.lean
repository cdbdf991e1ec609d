import Mathlib.Logic.Relation
import Encapsule.Foundation.Interaction
import Encapsule.Foundation.Mealy

/-!
# Threads that rely on each other

A crew has a thread for each role, and all of them work on one state: each call is an atomic section
that `exec` carries out, or has wait.  A schedule says which thread goes next.

A thread is proved alone, against what it relies on the others to leave alone, and it guarantees in
turn what its own sections do.  A `Pact` states both for every role, together with an invariant.

* `Prog.Relies pact i Q s p`: from the state `s` on, role `i` keeps to the pact while it runs `p`,
  and ends in a state that `Q` relates to the value; `relies_bind` composes.
* `Crew.run_keeps`: a crew whose threads all keep to the pact does so under every schedule.
* `Crew.run_guarantees`: what it then does is a sequence of guaranteed steps.
-/

namespace Interaction

variable {C : Type} {A : C → Type} {α β σ ι : Type}

/-- What the threads of a crew promise each other. -/
structure Pact (ι σ : Type) where
  inv : σ → Prop
  rely : ι → σ → σ → Prop
  guarantee : ι → σ → σ → Prop
  refl : ∀ i s, rely i s s
  trans : ∀ {i s s' s''}, rely i s s' → rely i s' s'' → rely i s s''
  kept : ∀ {i j s s'}, i ≠ j → inv s → inv s' → guarantee i s s' → rely j s s'

namespace Prog

/-- From `s` on, role `i` keeps to the pact. -/
def Relies (exec : (c : C) → σ → Option (A c × σ)) (pact : Pact ι σ) (i : ι) (Q : σ → α → Prop) :
    σ → Prog A α → Prop
  | s, ret a => Q s a
  | s, call c k => ∀ s' x s'', pact.inv s' → pact.rely i s s' → exec c s' = some (x, s'') →
      pact.inv s'' ∧ pact.guarantee i s' s'' ∧ Relies exec pact i Q s'' (k x)

section Relies

variable {exec : (c : C) → σ → Option (A c × σ)} {pact : Pact ι σ} {i : ι} {s s' : σ}
  {Q : σ → α → Prop}

/-- A single section. -/
lemma relies_ask {c : C} {Q : σ → A c → Prop}
    (hstep : ∀ s' x s'', pact.inv s' → pact.rely i s s' → exec c s' = some (x, s'') →
      pact.inv s'' ∧ pact.guarantee i s' s'' ∧ Q s'' x) :
    (ask c : Prog A (A c)).Relies exec pact i Q s := hstep

/-- The parts of a thread are proved one after another. -/
lemma relies_bind {R : σ → β → Prop} {p : Prog A α} {f : α → Prog A β}
    (hp : p.Relies exec pact i Q s) (hf : ∀ s a, Q s a → (f a).Relies exec pact i R s) :
    (p.bind f).Relies exec pact i R s := by
  induction p generalizing s with
  | ret a => exact hf s a hp
  | call c k ih =>
    intro s' x s'' hinv hrely hexec
    obtain ⟨hinv', hstep, hrest⟩ := hp s' x s'' hinv hrely hexec
    exact ⟨hinv', hstep, ih x hrest⟩

/-- The condition on the end may be weakened. -/
lemma Relies.weaken {R : σ → α → Prop} {p : Prog A α} (hp : p.Relies exec pact i Q s)
    (hQ : ∀ s a, Q s a → R s a) : p.Relies exec pact i R s := by
  induction p generalizing s with
  | ret a => exact hQ s a hp
  | call c k ih =>
    intro s' x s'' hinv hrely hexec
    obtain ⟨hinv', hstep, hrest⟩ := hp s' x s'' hinv hrely hexec
    exact ⟨hinv', hstep, ih x hrest⟩

/-- What the others do does not disturb a thread. -/
lemma Relies.later {p : Prog A Unit} (hp : p.Relies exec pact i (fun _ _ => True) s)
    (hrely : pact.rely i s s') : p.Relies exec pact i (fun _ _ => True) s' := by
  cases p with
  | ret a => trivial
  | call c k => exact fun t x t' hinv hrely' => hp t x t' hinv (pact.trans hrely hrely')

end Relies

end Prog

/-- A thread for each role, over one state. -/
structure Crew (ι : Type) (A : C → Type) (σ : Type) where
  state : σ
  threads : ι → Prog A Unit

namespace Crew

variable [DecidableEq ι] (exec : (c : C) → σ → Option (A c × σ))

/-- The thread of role `i` carries out its next section, if it has one and need not wait. -/
def step (s : Crew ι A σ) (i : ι) : Crew ι A σ × Unit :=
  match s.threads i with
  | .ret _ => (s, ())
  | .call c k =>
    match exec c s.state with
    | some (x, state) => ({ state, threads := Function.update s.threads i (k x) }, ())
    | none => (s, ())

/-- The crew after a schedule. -/
abbrev run (s : Crew ι A σ) (schedule : List ι) : Crew ι A σ := Mealy.run (step exec) s schedule

/-- The invariant holds, and every thread keeps to the pact. -/
structure Keeps (pact : Pact ι σ) (s : Crew ι A σ) : Prop where
  inv : pact.inv s.state
  relies : ∀ i, (s.threads i).Relies exec pact i (fun _ _ => True) s.state

/-- A guaranteed step, between states in which the invariant holds. -/
def Guaranteed (pact : Pact ι σ) (s s' : σ) : Prop :=
  pact.inv s ∧ pact.inv s' ∧ ∃ i, pact.guarantee i s s'

variable {exec} {pact : Pact ι σ} {s : Crew ι A σ}

/-- A thread has nothing to do or waits, or it carries out its next section. -/
lemma step_cases (exec : (c : C) → σ → Option (A c × σ)) (s : Crew ι A σ) (i : ι) :
    s.step exec i = (s, ()) ∨ ∃ (c : C) (k : A c → Prog A Unit) (x : A c) (state : σ),
      s.threads i = .call c k ∧ exec c s.state = some (x, state) ∧
        s.step exec i = ({ state, threads := Function.update s.threads i (k x) }, ()) := by
  unfold step
  cases hthread : s.threads i with
  | ret a => exact Or.inl rfl
  | call c k =>
    cases hexec : exec c s.state with
    | none => exact Or.inl (by simp only [hexec])
    | some answer =>
      obtain ⟨x, state⟩ := answer
      exact Or.inr ⟨c, k, x, state, rfl, hexec, by simp only [hexec]⟩

/-- What a thread does is guaranteed, if it does anything, and the crew keeps to the pact. -/
lemma Keeps.step (hs : s.Keeps exec pact) (i : ι) : (s.step exec i).1.Keeps exec pact ∧
    ((s.step exec i).1.state = s.state ∨ Guaranteed pact s.state (s.step exec i).1.state) := by
  rcases step_cases exec s i with hsame | ⟨c, k, x, state, hthread, hexec, hnext⟩
  · rw [hsame]
    exact ⟨hs, Or.inl rfl⟩
  have hthis := hs.relies i
  rw [hthread] at hthis
  obtain ⟨hinv, hstep, hrest⟩ := hthis s.state x state hs.inv (pact.refl i _) hexec
  rw [hnext]
  refine ⟨⟨hinv, fun j => ?_⟩, Or.inr ⟨hs.inv, hinv, i, hstep⟩⟩
  by_cases hij : j = i
  · subst hij
    dsimp only
    rw [Function.update_self]
    exact hrest
  · dsimp only
    rw [Function.update_of_ne hij]
    exact (hs.relies j).later (pact.kept (Ne.symm hij) hs.inv hinv hstep)

/-- A crew that keeps to the pact does so under every schedule. -/
theorem run_keeps (hs : s.Keeps exec pact) (schedule : List ι) :
    (s.run exec schedule).Keeps exec pact :=
  Mealy.run_invariant (P := Keeps exec pact) (fun _ i hs => (Keeps.step hs i).1) hs schedule

/-- What a crew does that keeps to the pact is a sequence of guaranteed steps. -/
theorem run_guarantees (hs : s.Keeps exec pact) (schedule : List ι) :
    Relation.ReflTransGen (Guaranteed pact) s.state (s.run exec schedule).state := by
  induction schedule generalizing s with
  | nil => exact .refl
  | cons i schedule ih =>
    obtain ⟨hnext, hsame | hstep⟩ := Keeps.step hs i
    · rw [← hsame]
      exact ih hnext
    · exact .head hstep (ih hnext)

end Crew

end Interaction
