import Mathlib.Algebra.BigOperators.Group.Finset.Piecewise
import Mathlib.Algebra.GroupWithZero.Nat
import Mathlib.Data.List.Infix
import Encapsule.Foundation.Interaction
import Encapsule.Foundation.Mealy

/-!
# Threads that share a state

A pool of programs runs over one state.  Each call of a thread is an atomic section: `exec` carries
it out on the state that the other threads have left, or has it wait.  A schedule says when a thread
enters the pool and which thread goes next; the history of the pool lists the sections that were
carried out, with their answers.

A fact that a thread relies on has to survive the steps of the others.  Here it is a fact about the
history, which only grows.

* `Prog.Upholds exec P Q h p`: once the history has reached `h`, the sections of `p` keep `P`,
  whatever runs in between.  `Pool.run_upholds`: if every thread that enters does, every schedule
  does.
* `Prog.Affords earn spend Q n p`: with the credit `n`, the program `p` never spends more than it
  has earned.  `Pool.spent_le_earned`: if no thread that enters does, the pool never does.
* `Prog.alone exec p s`: the run of `p` when no other thread interferes.
* `Chronicle G h`: each event of `h` comes after what `G` demands.
-/

namespace Interaction

variable {C : Type} {A : C → Type} {α β σ ε : Type}

/-- A pool of threads over a state, with the sections that were carried out, oldest first. -/
structure Pool (A : C → Type) (σ : Type) where
  state : σ
  threads : List (Prog A Unit) := []
  history : List (Event A) := []

/-- One step of a schedule. -/
inductive Turn (ε : Type) where
  /-- A new thread enters. -/
  | enter (e : ε)
  /-- A thread of the pool goes on. -/
  | go (i : ℕ)
  deriving DecidableEq

namespace Pool

variable (exec : (c : C) → σ → Option (A c × σ)) (entry : ε → Prog A Unit)

/-- Thread `i` carries out its next section, if it has one and need not wait. -/
def advance (s : Pool A σ) (i : ℕ) : Pool A σ :=
  match s.threads[i]? with
  | some (.call c k) =>
    match exec c s.state with
    | some (x, state) =>
      { state, threads := s.threads.set i (k x), history := s.history ++ [⟨c, x⟩] }
    | none => s
  | _ => s

/-- One step of a schedule. -/
def step (s : Pool A σ) : Turn ε → Pool A σ × Unit
  | .enter e => ({ s with threads := s.threads ++ [entry e] }, ())
  | .go i => (s.advance exec i, ())

/-- A thread has nothing to do or waits, or it carries out its next section. -/
lemma advance_cases (s : Pool A σ) (i : ℕ) : s.advance exec i = s ∨
    ∃ (c : C) (k : A c → Prog A Unit) (x : A c) (state : σ),
      s.threads[i]? = some (.call c k) ∧ exec c s.state = some (x, state) ∧
        s.advance exec i =
          { state, threads := s.threads.set i (k x), history := s.history ++ [⟨c, x⟩] } := by
  unfold advance
  cases hthread : s.threads[i]? with
  | none => exact Or.inl rfl
  | some p =>
    cases p with
    | ret a => exact Or.inl rfl
    | call c k =>
      cases hexec : exec c s.state with
      | none => exact Or.inl (by simp only [hexec])
      | some answer =>
        obtain ⟨x, state⟩ := answer
        exact Or.inr ⟨c, k, x, state, rfl, hexec, by simp only [hexec]⟩

end Pool

/-! ## Chronicles -/

/-- Every event of a history comes after what `G` demands. -/
def Chronicle {γ : Type} (G : List γ → γ → Prop) (h : List γ) : Prop :=
  ∀ pre e post, h = pre ++ e :: post → G pre e

section Chronicle

variable {γ : Type} {G : List γ → γ → Prop} {h : List γ} {e : γ}

/-- The empty history has no event. -/
lemma chronicle_nil : Chronicle G [] := by
  intro pre e post heq
  simp at heq

/-- One more event. -/
lemma chronicle_concat : Chronicle G (h ++ [e]) ↔ Chronicle G h ∧ G h e := by
  constructor
  · intro hall
    refine ⟨fun pre d post heq => hall pre d (post ++ [e]) ?_, hall h e [] rfl⟩
    rw [heq, List.append_assoc, List.cons_append]
  · rintro ⟨hold, hlast⟩ pre d post heq
    rcases List.eq_nil_or_concat post with rfl | ⟨post', last, rfl⟩
    · obtain ⟨rfl, hcons⟩ := List.append_inj' heq rfl
      rw [← List.head_eq_of_cons_eq hcons]
      exact hlast
    · have hassoc : h ++ [e] = (pre ++ d :: post') ++ [last] := by simpa using heq
      obtain ⟨rfl, -⟩ := List.append_inj' hassoc rfl
      exact hold pre d post' rfl

/-- The beginning of a chronicle is a chronicle. -/
lemma Chronicle.start {pre : List γ} (hall : Chronicle G h) (hpre : pre <+: h) :
    Chronicle G pre := by
  obtain ⟨rest, rfl⟩ := hpre
  rintro pre' e post rfl
  exact hall pre' e (post ++ rest) (by simp)

end Chronicle

/-! ## Invariants of all threads together -/

namespace Prog

/-- Once the history has reached `h`, every section of the program keeps `P`, and a value is
returned in a history that `Q` relates to it. -/
def Upholds (exec : (c : C) → σ → Option (A c × σ)) (P : List (Event A) → σ → Prop)
    (Q : List (Event A) → α → Prop) : List (Event A) → Prog A α → Prop
  | h, ret a => Q h a
  | h, call c k => ∀ h' s x s', h <+: h' → P h' s → exec c s = some (x, s') →
      P (h' ++ [⟨c, x⟩]) s' ∧ Upholds exec P Q (h' ++ [⟨c, x⟩]) (k x)

section Upholds

variable {exec : (c : C) → σ → Option (A c × σ)} {P : List (Event A) → σ → Prop}
  {Q : List (Event A) → α → Prop} {h h' : List (Event A)}

@[simp] lemma upholds_ret {a : α} : (ret a : Prog A α).Upholds exec P Q h ↔ Q h a := Iff.rfl

/-- Programs that uphold an invariant compose along a midpoint condition. -/
lemma upholds_bind {R : List (Event A) → β → Prop} {p : Prog A α} {f : α → Prog A β}
    (hp : p.Upholds exec P Q h) (hf : ∀ h' a, Q h' a → (f a).Upholds exec P R h') :
    (p.bind f).Upholds exec P R h := by
  induction p generalizing h with
  | ret a => exact hf h a hp
  | call c k ih =>
    intro h' s x s' hpre hP hexec
    obtain ⟨hnext, hrest⟩ := hp h' s x s' hpre hP hexec
    exact ⟨hnext, ih x hrest⟩

/-- What a program upholds it also upholds later. -/
lemma Upholds.later {p : Prog A α} (hp : p.Upholds exec P Q h)
    (hQ : ∀ h h' a, h <+: h' → Q h a → Q h' a) (hpre : h <+: h') : p.Upholds exec P Q h' := by
  cases p with
  | ret a => exact hQ h h' a hpre hp
  | call c k =>
    intro h'' s x s' hpre' hP hexec
    exact hp h'' s x s' (hpre.trans hpre') hP hexec

/-- The condition on the returned value may be weakened. -/
lemma Upholds.weaken {R : List (Event A) → α → Prop} {p : Prog A α} (hp : p.Upholds exec P Q h)
    (hQR : ∀ h a, Q h a → R h a) : p.Upholds exec P R h := by
  induction p generalizing h with
  | ret a => exact hQR h a hp
  | call c k ih =>
    intro h' s x s' hpre hP hexec
    obtain ⟨hnext, hrest⟩ := hp h' s x s' hpre hP hexec
    exact ⟨hnext, ih x hrest⟩

/-- Conditions that hold always are guaranteed by every program. -/
lemma guarantees_of_forall {R : Event A → Prop} {G : C → Prop} {Q : α → Prop} (hG : ∀ c, G c)
    (hQ : ∀ a, Q a) (p : Prog A α) : p.Guarantees R G Q := by
  induction p with
  | ret a => exact hQ a
  | call c k ih => exact ⟨hG c, fun x _ => ih x⟩

/-- What the sections of a program keep, it upholds. -/
lemma upholds_of_guarantees {G : C → Prop} {p : Prog A α}
    (hp : p.Guarantees (fun _ => True) G fun _ => True)
    (hG : ∀ h s c (x : A c) s', G c → P h s → exec c s = some (x, s') → P (h ++ [⟨c, x⟩]) s') :
    p.Upholds exec P (fun _ _ => True) h := by
  induction p generalizing h with
  | ret a => trivial
  | call c k ih =>
    intro h' s x s' _ hP hexec
    exact ⟨hG h' s c x s' hp.1 hP hexec, ih x (hp.2 x trivial)⟩

/-- The history only grows while a program runs. -/
lemma Upholds.since {p : Prog A α} (hp : p.Upholds exec P Q h) :
    p.Upholds exec P (fun h' a => h <+: h' ∧ Q h' a) h := by
  suffices hgrows : ∀ start, start <+: h → p.Upholds exec P (fun h' a => start <+: h' ∧ Q h' a) h
    from hgrows h (List.prefix_refl _)
  induction p generalizing h with
  | ret a => exact fun start hpre => ⟨hpre, hp⟩
  | call c k ih =>
    intro start hstart h' s x s' hpre hP hexec
    obtain ⟨hnext, hrest⟩ := hp h' s x s' hpre hP hexec
    have hlater : start <+: h' ++ [⟨c, x⟩] := (hstart.trans hpre).trans (List.prefix_append _ _)
    exact ⟨hnext, ih x hrest start hlater⟩

end Upholds

end Prog

namespace Pool

variable {exec : (c : C) → σ → Option (A c × σ)} {entry : ε → Prog A Unit}
  {P : List (Event A) → σ → Prop}

/-- The pool keeps `P`, and so does each of its threads from here on. -/
structure Sound (exec : (c : C) → σ → Option (A c × σ)) (P : List (Event A) → σ → Prop)
    (s : Pool A σ) : Prop where
  holds : P s.history s.state
  upheld : ∀ p ∈ s.threads, p.Upholds exec P (fun _ _ => True) s.history

/-- A thread that upholds the invariant may enter. -/
lemma Sound.enter {s : Pool A σ} (hs : s.Sound exec P) {e : ε}
    (hentry : (entry e).Upholds exec P (fun _ _ => True) []) :
    (s.step exec entry (.enter e)).1.Sound exec P where
  holds := hs.holds
  upheld := by
    intro p hp
    rcases List.mem_append.mp hp with hold | hnew
    · exact hs.upheld p hold
    · rw [List.mem_singleton.mp hnew]
      exact hentry.later (fun _ _ _ _ _ => trivial) (List.nil_prefix)

/-- A thread that goes on keeps the invariant, and disturbs no other thread. -/
lemma Sound.advance {s : Pool A σ} (hs : s.Sound exec P) (i : ℕ) :
    (s.advance exec i).Sound exec P := by
  rcases advance_cases exec s i with hsame | ⟨c, k, x, state, hthread, hexec, hnext⟩
  · rw [hsame]
    exact hs
  · have hmem : Prog.call c k ∈ s.threads := List.mem_of_getElem? hthread
    have hsection := hs.upheld _ hmem s.history s.state x state (List.prefix_refl _) hs.holds hexec
    rw [hnext]
    refine ⟨hsection.1, fun p hp => ?_⟩
    rcases List.mem_or_eq_of_mem_set hp with hold | rfl
    · exact (hs.upheld p hold).later (fun _ _ _ _ _ => trivial) (List.prefix_append _ _)
    · exact hsection.2

/-- If all threads that enter uphold an invariant, it holds after every schedule. -/
theorem run_upholds {s : Pool A σ} (hs : s.Sound exec P) {schedule : List (Turn ε)}
    (hentry : ∀ e, .enter e ∈ schedule → (entry e).Upholds exec P (fun _ _ => True) []) :
    (Mealy.run (step exec entry) s schedule).Sound exec P := by
  induction schedule generalizing s with
  | nil => exact hs
  | cons turn schedule ih =>
    have hlater : ∀ e, .enter e ∈ schedule → (entry e).Upholds exec P (fun _ _ => True) [] :=
      fun e he => hentry e (List.mem_cons_of_mem _ he)
    cases turn with
    | enter e => exact ih (hs.enter (hentry e List.mem_cons_self)) hlater
    | go i => exact ih (hs.advance i) hlater

end Pool

/-! ## Credit -/

namespace Prog

/-- With the credit `n`, every section of the program can pay for itself, and a value is returned
with a credit that `Q` relates to it. -/
def Affords (earn spend : Event A → ℕ) (Q : ℕ → α → Prop) : ℕ → Prog A α → Prop
  | n, ret a => Q n a
  | n, call c k => ∀ x, spend ⟨c, x⟩ ≤ n + earn ⟨c, x⟩ ∧
      Affords earn spend Q (n + earn ⟨c, x⟩ - spend ⟨c, x⟩) (k x)

section Affords

variable {earn spend : Event A → ℕ} {Q : ℕ → α → Prop} {n m : ℕ}

@[simp] lemma affords_ret {a : α} : (ret a : Prog A α).Affords earn spend Q n ↔ Q n a := Iff.rfl

@[simp] lemma affords_call {c : C} {k : A c → Prog A α} :
    (call c k).Affords earn spend Q n ↔ ∀ x, spend ⟨c, x⟩ ≤ n + earn ⟨c, x⟩ ∧
      (k x).Affords earn spend Q (n + earn ⟨c, x⟩ - spend ⟨c, x⟩) := Iff.rfl

@[simp] lemma affords_ask {c : C} {Q : ℕ → A c → Prop} :
    (ask c : Prog A (A c)).Affords earn spend Q n ↔ ∀ x, spend ⟨c, x⟩ ≤ n + earn ⟨c, x⟩ ∧
      Q (n + earn ⟨c, x⟩ - spend ⟨c, x⟩) x := Iff.rfl

/-- The credit that one part leaves is what the next part starts with. -/
lemma affords_bind {R : ℕ → β → Prop} {p : Prog A α} {f : α → Prog A β}
    (hp : p.Affords earn spend Q n) (hf : ∀ m a, Q m a → (f a).Affords earn spend R m) :
    (p.bind f).Affords earn spend R n := by
  induction p generalizing n with
  | ret a => exact hf n a hp
  | call c k ih =>
    intro x
    obtain ⟨hpays, hrest⟩ := hp x
    exact ⟨hpays, ih x hrest⟩

/-- The condition on the credit that is left may be weakened. -/
lemma Affords.weaken {R : ℕ → α → Prop} {p : Prog A α} (hp : p.Affords earn spend Q n)
    (hQR : ∀ m a, Q m a → R m a) : p.Affords earn spend R n := by
  induction p generalizing n with
  | ret a => exact hQR n a hp
  | call c k ih =>
    intro x
    obtain ⟨hpays, hrest⟩ := hp x
    exact ⟨hpays, ih x hrest⟩

/-- A program whose calls spend nothing affords itself, and loses no credit. -/
lemma affords_of_guarantees {G : C → Prop} {p : Prog A α}
    (hp : p.Guarantees (fun _ => True) G fun _ => True) (hG : ∀ c x, G c → spend ⟨c, x⟩ = 0) :
    p.Affords earn spend (fun m _ => n ≤ m) n := by
  suffices hmore : ∀ m, n ≤ m → p.Affords earn spend (fun m _ => n ≤ m) m from hmore n le_rfl
  induction p with
  | ret a => exact fun m hm => hm
  | call c k ih =>
    intro m hm x
    have hfree : spend ⟨c, x⟩ = 0 := hG c x hp.1
    rw [hfree, Nat.sub_zero]
    exact ⟨Nat.zero_le _, ih x (hp.2 x trivial) _ (Nat.le_add_right_of_le hm)⟩

end Affords

end Prog

namespace Pool

variable {exec : (c : C) → σ → Option (A c × σ)} {entry : ε → Prog A Unit}
  {earn spend : Event A → ℕ}

/-- The sum of a weight over a history. -/
def total (weight : Event A → ℕ) (h : List (Event A)) : ℕ := (h.map weight).sum

@[simp] lemma total_concat (weight : Event A → ℕ) (h : List (Event A)) (e : Event A) :
    total weight (h ++ [e]) = total weight h + weight e := by
  simp [total]

/-- There is a credit for each thread that covers the rest of it, and all of them together with what
is spent are covered by what is earned. -/
def Solvent (earn spend : Event A → ℕ) (s : Pool A σ) : Prop :=
  ∃ credit : ℕ → ℕ,
    (∀ (i : ℕ) (p : Prog A Unit), s.threads[i]? = some p →
        p.Affords earn spend (fun _ _ => True) (credit i)) ∧
      total spend s.history + ∑ i ∈ Finset.range s.threads.length, credit i ≤
        total earn s.history

/-- A thread that needs no credit may enter. -/
lemma Solvent.enter {s : Pool A σ} (hs : s.Solvent earn spend) {e : ε}
    (hentry : (entry e).Affords earn spend (fun _ _ => True) 0) :
    (s.step exec entry (.enter e)).1.Solvent earn spend := by
  obtain ⟨credit, hafford, hsum⟩ := hs
  refine ⟨Function.update credit s.threads.length 0, fun i p hp => ?_, ?_⟩
  · have hget : (s.threads ++ [entry e])[i]? = some p := hp
    rcases Nat.lt_trichotomy i s.threads.length with hlt | rfl | hgt
    · rw [List.getElem?_append_left hlt] at hget
      rw [Function.update_of_ne hlt.ne]
      exact hafford i p hget
    · rw [List.getElem?_concat_length] at hget
      rw [Function.update_self, ← Option.some.inj hget]
      exact hentry
    · rw [List.getElem?_eq_none (by simpa using Nat.succ_le_of_lt hgt)] at hget
      cases hget
  · have hsame : ∑ i ∈ Finset.range s.threads.length, Function.update credit s.threads.length 0 i =
        ∑ i ∈ Finset.range s.threads.length, credit i :=
      Finset.sum_congr rfl fun i hi => Function.update_of_ne (Finset.mem_range.mp hi).ne _ _
    have hlength : (s.step exec entry (.enter e)).1.threads.length = s.threads.length + 1 :=
      List.length_append
    rw [hlength, Finset.sum_range_succ, Function.update_self, hsame]
    exact hsum

/-- A thread that goes on pays from its own credit. -/
lemma Solvent.advance {s : Pool A σ} (hs : s.Solvent earn spend) (i : ℕ) :
    (s.advance exec i).Solvent earn spend := by
  rcases advance_cases exec s i with hsame | ⟨c, k, x, state, hthread, -, hnext⟩
  · rw [hsame]
    exact hs
  obtain ⟨credit, hafford, hsum⟩ := hs
  obtain ⟨hpays, hrest⟩ := hafford i _ hthread x
  have hlt : i < s.threads.length := (List.getElem?_eq_some_iff.mp hthread).1
  have hmem : i ∈ Finset.range s.threads.length := Finset.mem_range.mpr hlt
  rw [hnext]
  refine ⟨Function.update credit i (credit i + earn ⟨c, x⟩ - spend ⟨c, x⟩), fun j p hp => ?_, ?_⟩
  · have hget : (s.threads.set i (k x))[j]? = some p := hp
    by_cases hji : j = i
    · subst hji
      rw [List.getElem?_set_self hlt] at hget
      rw [Function.update_self, ← Option.some.inj hget]
      exact hrest
    · rw [List.getElem?_set_ne (Ne.symm hji)] at hget
      rw [Function.update_of_ne hji]
      exact hafford j p hget
  · have hold : ∑ j ∈ Finset.range s.threads.length, credit j =
        credit i + ∑ j ∈ Finset.range s.threads.length \ {i}, credit j :=
      Finset.sum_eq_add_sum_sdiff_singleton_of_mem hmem _
    simp only [List.length_set, total_concat]
    rw [Finset.sum_update_of_mem hmem]
    omega

/-- If no thread that enters spends what it has not earned, no schedule does. -/
theorem spent_le_earned {s : Pool A σ} (hs : s.Solvent earn spend) {schedule : List (Turn ε)}
    (hentry : ∀ e, (entry e).Affords earn spend (fun _ _ => True) 0) :
    total spend (Mealy.run (step exec entry) s schedule).history ≤
      total earn (Mealy.run (step exec entry) s schedule).history := by
  have hrun : (Mealy.run (step exec entry) s schedule).Solvent earn spend := by
    refine Mealy.run_invariant (fun s turn hs => ?_) hs schedule
    cases turn with
    | enter e => exact hs.enter (hentry e)
    | go i => exact hs.advance i
  obtain ⟨credit, -, hsum⟩ := hrun
  exact (Nat.le_add_right _ _).trans hsum

/-- A pool without threads has no debts. -/
lemma solvent_of_empty (state : σ) : Solvent earn spend ({ state } : Pool A σ) :=
  ⟨fun _ => 0, by simp, by simp [total]⟩

end Pool

/-! ## A thread that is left alone -/

namespace Prog

/-- The run of a program that nobody interferes with, unless it has to wait: the value, the state
and the sections that were carried out. -/
def alone (exec : (c : C) → σ → Option (A c × σ)) : Prog A α → σ → Option (α × σ × List (Event A))
  | ret a, s => some (a, s, [])
  | call c k, s =>
    match exec c s with
    | none => none
    | some (x, s') => ((k x).alone exec s').map fun (a, s'', t) => (a, s'', ⟨c, x⟩ :: t)

section Alone

variable {exec : (c : C) → σ → Option (A c × σ)} {s s' s'' : σ} {t t' : List (Event A)}

@[simp] lemma alone_ret (a : α) : (ret a : Prog A α).alone exec s = some (a, s, []) := rfl

/-- Alone, a program goes on after a section. -/
lemma alone_call {c : C} {k : A c → Prog A α} {x : A c} {a : α} (hexec : exec c s = some (x, s'))
    (hrest : (k x).alone exec s' = some (a, s'', t)) :
    (call c k).alone exec s = some (a, s'', ⟨c, x⟩ :: t) := by
  unfold alone
  simp only [hexec, hrest, Option.map_some]

lemma alone_ask {c : C} {x : A c} (hexec : exec c s = some (x, s')) :
    (ask c : Prog A (A c)).alone exec s = some (x, s', [⟨c, x⟩]) := alone_call hexec rfl

/-- Alone, the parts of a program run one after the other. -/
lemma alone_bind {p : Prog A α} {f : α → Prog A β} {a : α} {b : β}
    (hp : p.alone exec s = some (a, s', t)) (hf : (f a).alone exec s' = some (b, s'', t')) :
    (p.bind f).alone exec s = some (b, s'', t ++ t') := by
  induction p generalizing s t with
  | ret a' =>
    obtain ⟨rfl, rfl, rfl⟩ : a' = a ∧ s = s' ∧ [] = t := by
      simpa using hp
    exact hf
  | call c k ih =>
    unfold alone at hp
    cases hexec : exec c s with
    | none => simp [hexec] at hp
    | some answer =>
      obtain ⟨x, next⟩ := answer
      simp only [hexec, Option.map_eq_some_iff, Prod.mk.injEq, Prod.exists] at hp
      obtain ⟨a', mid, rest, hrest, rfl, rfl, rfl⟩ := hp
      exact alone_call hexec (ih x hrest)

end Alone

end Prog

namespace Pool

variable {exec : (c : C) → σ → Option (A c × σ)} {entry : ε → Prog A Unit}

/-- A thread of a pool that is scheduled until it ends does what it does alone. -/
theorem run_alone {s : Pool A σ} {i : ℕ} {p : Prog A Unit} (hthread : s.threads[i]? = some p)
    {state : σ} {t : List (Event A)} (halone : p.alone exec s.state = some ((), state, t)) :
    Mealy.run (step exec entry) s (List.replicate t.length (.go i)) =
      { state, threads := s.threads.set i (.ret ()), history := s.history ++ t } := by
  induction p generalizing s t with
  | ret a =>
    obtain ⟨rfl, rfl⟩ : s.state = state ∧ [] = t := by
      simpa using halone
    obtain ⟨hlt, hget⟩ := List.getElem?_eq_some_iff.mp hthread
    have hself : s.threads.set i (.ret ()) = s.threads := by
      rw [← hget]
      exact List.set_getElem_self hlt
    rw [hself, List.append_nil]
    rfl
  | call c k ih =>
    unfold Prog.alone at halone
    cases hexec : exec c s.state with
    | none => simp [hexec] at halone
    | some answer =>
      obtain ⟨x, next⟩ := answer
      simp only [hexec, Option.map_eq_some_iff, Prod.mk.injEq, Prod.exists] at halone
      obtain ⟨a', mid, rest, hrest, -, rfl, rfl⟩ := halone
      have hadvance : s.advance exec i =
          { state := next, threads := s.threads.set i (k x)
            history := s.history ++ [⟨c, x⟩] } := by
        unfold advance
        simp only [hthread, hexec]
      have hlt : i < s.threads.length := (List.getElem?_eq_some_iff.mp hthread).1
      have hnext := ih x (s := s.advance exec i)
        (by rw [hadvance]; exact List.getElem?_set_self hlt) (by rw [hadvance]; exact hrest)
      rw [List.length_cons, List.replicate_succ, Mealy.run_cons]
      refine hnext.trans ?_
      rw [hadvance]
      simp

end Pool

end Interaction
