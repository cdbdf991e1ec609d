import Encapsule.Foundation.Threads

/-!
# Threads that share a mutex

A mutex guards a part of the shared state.  The threads keep the discipline if each of them touches
the guarded part only between its `lock` and its `unlock`, and waits for nothing in between
(`Mutex.Disciplined`).  Then at most one thread is between the two, the guarded part does not change
under it, and it can always go on (`Mutex.run_respected`).
-/

namespace Interaction

variable {C : Type} {A : C → Type} {α β σ ρ ε : Type}

/-- A mutex: its calls, the calls that touch what it guards, the other calls that may wait, whether
it is held and what it guards. -/
structure Mutex (C σ ρ : Type) where
  lock : C → Bool
  unlock : C → Bool
  touches : C → Bool
  waits : C → Bool
  held : σ → Bool
  guarded : σ → ρ

namespace Mutex

/-- The calls do to the mutex and to what it guards what their kinds say. -/
structure Lawful (m : Mutex C σ ρ) (exec : (c : C) → σ → Option (A c × σ)) : Prop where
  locked : ∀ c s x s', m.lock c = true → exec c s = some (x, s') →
    m.held s = false ∧ m.held s' = true ∧ m.guarded s' = m.guarded s
  unlocked : ∀ c s x s', m.unlock c = true → exec c s = some (x, s') →
    m.held s' = false ∧ m.guarded s' = m.guarded s
  other : ∀ c s x s', m.lock c = false → m.unlock c = false → exec c s = some (x, s') →
    m.held s' = m.held s ∧ (m.touches c = false → m.guarded s' = m.guarded s)
  goes : ∀ c s, m.waits c = false → (m.lock c = true → m.held s = false) → (exec c s).isSome

/-- The program keeps the discipline.  It starts outside the mutex, or inside with the guarded part
as given; inside, each of its calls is one that `ok` admits for the guarded part. -/
def Disciplined (m : Mutex C σ ρ) (exec : (c : C) → σ → Option (A c × σ)) (ok : ρ → C → Prop)
    (Q : Option ρ → α → Prop) : Option ρ → Prog A α → Prop
  | inside, .ret a => Q inside a
  | none, .call c k => m.touches c = false ∧ m.unlock c = false ∧
      ∀ x, (m.lock c = true → ∀ r, Disciplined m exec ok Q (some r) (k x)) ∧
        (m.lock c = false → Disciplined m exec ok Q none (k x))
  | some r, .call c k => m.lock c = false ∧ m.waits c = false ∧ ok r c ∧
      ∀ s x s', m.guarded s = r → exec c s = some (x, s') →
        Disciplined m exec ok Q (if m.unlock c then none else some (m.guarded s')) (k x)

/-- The thread has left the mutex when it ends. -/
abbrev Leaves (m : Mutex C σ ρ) (exec : (c : C) → σ → Option (A c × σ)) (ok : ρ → C → Prop)
    (inside : Option ρ) (p : Prog A α) : Prop :=
  m.Disciplined exec ok (fun inside _ => inside = none) inside p

variable {m : Mutex C σ ρ} {exec : (c : C) → σ → Option (A c × σ)} {ok : ρ → C → Prop}
  {Q : Option ρ → α → Prop} {inside : Option ρ}

/-- Disciplined programs compose. -/
lemma disciplined_bind {R : Option ρ → β → Prop} {p : Prog A α} {f : α → Prog A β}
    (hp : m.Disciplined exec ok Q inside p)
    (hf : ∀ inside a, Q inside a → m.Disciplined exec ok R inside (f a)) :
    m.Disciplined exec ok R inside (p.bind f) := by
  induction p generalizing inside with
  | ret a => exact hf inside a hp
  | call c k ih =>
    cases inside with
    | none =>
      obtain ⟨htouches, hunlock, hrest⟩ := hp
      exact ⟨htouches, hunlock, fun x =>
        ⟨fun hlock r => ih x ((hrest x).1 hlock r), fun hlock => ih x ((hrest x).2 hlock)⟩⟩
    | some r =>
      obtain ⟨hlock, hwaits, hok, hrest⟩ := hp
      exact ⟨hlock, hwaits, hok, fun s x s' hs hexec => ih x (hrest s x s' hs hexec)⟩

/-- A program that stays away from the mutex is disciplined. -/
lemma leaves_of_guarantees {p : Prog A α}
    (hp : p.Guarantees (fun _ => True)
      (fun c => m.touches c = false ∧ m.unlock c = false ∧ m.lock c = false) fun _ => True) :
    m.Leaves exec ok none p := by
  induction p with
  | ret a => exact rfl
  | call c k ih =>
    obtain ⟨⟨htouches, hunlock, hlock⟩, hrest⟩ := hp
    refine ⟨htouches, hunlock, fun x => ⟨fun hlock' => ?_, fun _ => ih x (hrest x trivial)⟩⟩
    rw [hlock] at hlock'
    cases hlock'

/-! ## The pool -/

variable {entry : ε → Prog A Unit}

/-- The mutex is held by the thread that owns it, every other thread is outside, and all of them
keep the discipline. -/
structure Owned (m : Mutex C σ ρ) (exec : (c : C) → σ → Option (A c × σ)) (ok : ρ → C → Prop)
    (owner : Option ℕ) (s : Pool A σ) : Prop where
  held : m.held s.state = owner.isSome
  thread : ∀ i ∈ owner, i < s.threads.length
  disciplined : ∀ (i : ℕ) (p : Prog A Unit), s.threads[i]? = some p →
    m.Leaves exec ok (if owner = some i then some (m.guarded s.state) else none) p

/-- Some thread owns the mutex if it is held. -/
def Respected (m : Mutex C σ ρ) (exec : (c : C) → σ → Option (A c × σ)) (ok : ρ → C → Prop)
    (s : Pool A σ) : Prop := ∃ owner, m.Owned exec ok owner s

/-- A disciplined thread may enter. -/
lemma Owned.enter {owner : Option ℕ} {s : Pool A σ} (hs : m.Owned exec ok owner s) {e : ε}
    (hentry : m.Leaves exec ok none (entry e)) :
    m.Owned exec ok owner (s.step exec entry (.enter e)).1 where
  held := hs.held
  thread i hi := by
    have hlength : (s.step exec entry (.enter e)).1.threads.length = s.threads.length + 1 :=
      List.length_append
    rw [hlength]
    exact Nat.lt_succ_of_lt (hs.thread i hi)
  disciplined i p hp := by
    have hget : (s.threads ++ [entry e])[i]? = some p := hp
    by_cases hlt : i < s.threads.length
    · rw [List.getElem?_append_left hlt] at hget
      exact hs.disciplined i p hget
    · have hnew : p = entry e := by
        rw [List.getElem?_append_right (Nat.le_of_not_lt hlt)] at hget
        exact List.mem_singleton.mp (List.mem_of_getElem? hget)
      have hother : owner ≠ some i := fun howner => hlt (hs.thread i howner)
      rw [if_neg hother, hnew]
      exact hentry

/-- The threads after one has gone on: that one, and the others as they were. -/
lemma disciplined_set {owner owner' : Option ℕ} {s : Pool A σ} {state : σ} {i : ℕ}
    {p : Prog A Unit} (hs : m.Owned exec ok owner s)
    (hgoes : m.Leaves exec ok (if owner' = some i then some (m.guarded state) else none) p)
    (hothers : ∀ j, j ≠ i → (if owner' = some j then some (m.guarded state) else none) =
      (if owner = some j then some (m.guarded s.state) else none)) (j : ℕ) (q : Prog A Unit)
    (hq : (s.threads.set i p)[j]? = some q) :
    m.Leaves exec ok (if owner' = some j then some (m.guarded state) else none) q := by
  by_cases hji : j = i
  · subst hji
    obtain ⟨hlt, heq⟩ := List.getElem?_eq_some_iff.mp hq
    rw [← heq, List.getElem_set_self]
    exact hgoes
  · rw [List.getElem?_set_ne (Ne.symm hji)] at hq
    rw [hothers j hji]
    exact hs.disciplined j q hq

/-- A thread that goes on keeps the mutex respected. -/
lemma Respected.advance (hlawful : m.Lawful exec) {s : Pool A σ} (hs : m.Respected exec ok s)
    (i : ℕ) : m.Respected exec ok (s.advance exec i) := by
  rcases Pool.advance_cases exec s i with hsame | ⟨c, k, x, state, hthread, hexec, hnext⟩
  · rw [hsame]
    exact hs
  obtain ⟨owner, hs⟩ := hs
  have hdisciplined := hs.disciplined i _ hthread
  have hlt : i < s.threads.length := (List.getElem?_eq_some_iff.mp hthread).1
  have hlength : (s.threads.set i (k x)).length = s.threads.length := List.length_set
  rw [hnext]
  by_cases howner : owner = some i
  · -- the owner goes on inside, or leaves
    rw [if_pos howner] at hdisciplined
    obtain ⟨hlock, -, -, hrest⟩ := hdisciplined
    have hgoes := hrest s.state x state rfl hexec
    have hothers : ∀ j, j ≠ i → owner ≠ some j := by
      rintro j hji hj
      exact hji (Option.some.inj (hj.symm.trans howner))
    cases hunlock : m.unlock c with
    | true =>
      rw [hunlock] at hgoes
      refine ⟨none, (hlawful.unlocked c _ x _ hunlock hexec).1, by simp, ?_⟩
      refine disciplined_set hs hgoes fun j hji => ?_
      rw [if_neg (hothers j hji), if_neg (by simp)]
    | false =>
      rw [hunlock] at hgoes
      refine ⟨owner, ?_, by rw [hlength]; exact hs.thread, ?_⟩
      · rw [(hlawful.other c _ x _ hlock hunlock hexec).1]
        exact hs.held
      · refine disciplined_set hs (by rw [if_pos howner]; exact hgoes) fun j hji => ?_
        rw [if_neg (hothers j hji), if_neg (hothers j hji)]
  · rw [if_neg howner] at hdisciplined
    obtain ⟨htouches, hunlock, hrest⟩ := hdisciplined
    cases hlock : m.lock c with
    | true =>
      -- the mutex is free, and the thread becomes its owner
      obtain ⟨hfree, hheld, -⟩ := hlawful.locked c _ x _ hlock hexec
      obtain rfl : owner = none := by
        rw [hs.held] at hfree
        exact Option.isNone_iff_eq_none.mp (by simpa using hfree)
      refine ⟨some i, hheld, ?_, ?_⟩
      · intro j hj
        rw [hlength, ← Option.some.inj hj]
        exact hlt
      · refine disciplined_set hs (by rw [if_pos rfl]; exact (hrest x).1 hlock _) fun j hji => ?_
        rw [if_neg (by simpa using Ne.symm hji), if_neg (by simp)]
    | false =>
      obtain ⟨hheld, hguarded⟩ := hlawful.other c _ x _ hlock hunlock hexec
      refine ⟨owner, ?_, by rw [hlength]; exact hs.thread, ?_⟩
      · rw [hheld]
        exact hs.held
      · refine disciplined_set hs (by rw [if_neg howner]; exact (hrest x).2 hlock) fun j _ => ?_
        rw [hguarded htouches]

/-- If every thread that enters keeps the discipline, the mutex is respected in every schedule. -/
theorem run_respected (hlawful : m.Lawful exec) {s : Pool A σ} (hs : m.Respected exec ok s)
    {schedule : List (Turn ε)} (hentry : ∀ e, m.Leaves exec ok none (entry e)) :
    m.Respected exec ok (Mealy.run (Pool.step exec entry) s schedule) := by
  refine Mealy.run_invariant (fun s turn hs => ?_) hs schedule
  cases turn with
  | enter e =>
    obtain ⟨owner, hs⟩ := hs
    exact ⟨owner, hs.enter (hentry e)⟩
  | go i => exact hs.advance hlawful i

variable {s : Pool A σ}

/-- The thread that is about to touch what the mutex guards owns the mutex. -/
lemma Owned.of_touches {owner : Option ℕ} (hs : m.Owned exec ok owner s) {i : ℕ} {c : C}
    {k : A c → Prog A Unit} (hi : s.threads[i]? = some (.call c k)) (hc : m.touches c = true) :
    owner = some i := by
  by_contra howner
  have hdisciplined := hs.disciplined i _ hi
  rw [if_neg howner] at hdisciplined
  rw [hdisciplined.1] at hc
  cases hc

/-- Two threads are never both about to touch what the mutex guards. -/
theorem Respected.exclusive (hs : m.Respected exec ok s) {i j : ℕ} {c d : C}
    {k : A c → Prog A Unit} {l : A d → Prog A Unit} (hi : s.threads[i]? = some (.call c k))
    (hj : s.threads[j]? = some (.call d l)) (hc : m.touches c = true) (hd : m.touches d = true) :
    i = j := by
  obtain ⟨owner, hs⟩ := hs
  exact Option.some.inj ((hs.of_touches hi hc).symm.trans (hs.of_touches hj hd))

/-- A thread that is about to touch what the mutex guards does what is admitted for it now. -/
theorem Respected.admitted (hs : m.Respected exec ok s) {i : ℕ} {c : C} {k : A c → Prog A Unit}
    (hi : s.threads[i]? = some (.call c k)) (hc : m.touches c = true) :
    ok (m.guarded s.state) c := by
  obtain ⟨owner, hs⟩ := hs
  have hdisciplined := hs.disciplined i _ hi
  rw [if_pos (hs.of_touches hi hc)] at hdisciplined
  exact hdisciplined.2.2.1

/-- A thread can go on, unless every thread has ended or waits for something else than the mutex. -/
theorem Respected.progress (hlawful : m.Lawful exec) (hs : m.Respected exec ok s) :
    (∃ (i : ℕ) (c : C) (k : A c → Prog A Unit), s.threads[i]? = some (.call c k) ∧
        (exec c s.state).isSome) ∨
      ∀ p ∈ s.threads, p = .ret () ∨
        ∃ (c : C) (k : A c → Prog A Unit), p = .call c k ∧ m.waits c = true := by
  obtain ⟨owner, hs⟩ := hs
  cases owner with
  | some i =>
    -- the owner has not ended, and waits for nothing
    have hlt : i < s.threads.length := hs.thread i rfl
    have hdisciplined := hs.disciplined i _ (List.getElem?_eq_getElem hlt)
    rw [if_pos rfl] at hdisciplined
    cases hp : s.threads[i] with
    | ret a =>
      rw [hp] at hdisciplined
      cases hdisciplined
    | call c k =>
      rw [hp] at hdisciplined
      obtain ⟨hlock, hwaits, -, -⟩ := hdisciplined
      refine Or.inl ⟨i, c, k, by rw [List.getElem?_eq_getElem hlt, hp], ?_⟩
      exact hlawful.goes c s.state hwaits fun h => by rw [hlock] at h; cases h
  | none =>
    have hfree : m.held s.state = false := hs.held
    by_cases hready : ∃ (c : C) (k : A c → Prog A Unit), .call c k ∈ s.threads ∧ m.waits c = false
    · obtain ⟨c, k, hmem, hwaits⟩ := hready
      obtain ⟨i, hi⟩ := List.getElem?_of_mem hmem
      exact Or.inl ⟨i, c, k, hi, hlawful.goes c s.state hwaits fun _ => hfree⟩
    · refine Or.inr fun p hp => ?_
      cases p with
      | ret a => exact Or.inl rfl
      | call c k =>
        refine Or.inr ⟨c, k, rfl, ?_⟩
        by_contra hwaits
        exact hready ⟨c, k, hp, by simpa using hwaits⟩

end Mutex

end Interaction
