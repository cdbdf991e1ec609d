import Mathlib.Data.List.Basic

/-!
# Interaction programs

A program that talks to a world it does not control is a tree of calls: `Prog A α` either returns
an `α` or issues a call `c : C` and goes on with whatever answer `A c` the world gives.  Nothing is
assumed about the world, so a statement about all the runs of a program is a statement about every
behaviour of its environment.

* `Prog.Runs p t a`: with the calls answered as in the trace `t`, `p` finishes and returns `a`;
  `bind_cancel` drops a common first part that does.
* `Prog.replay p t`: the value that `p` then returns, computed.
* `Prog.Issues p t c`: after the answers in `t`, the next thing `p` does is the call `c`; computed,
  it is `Prog.nextCall p t`.  This also covers programs that never finish, because the world never
  answers.  `exists_runs_or_issues`: a program finishes, or comes to a call that is not answered.
* `Prog.Guarantees R G Q p`: as long as the answers respect `R`, every call of `p` respects `G`
  and a returned value satisfies `Q`; the rules `guarantees_bind` and `guarantees_expand` compose.
* `Prog.Tracks watch Q s p`: an observer of the calls and answers of `p` that starts in `s` ends in
  a state that `Q` relates to the returned value; `tracks_bind` composes.
* `Prog.Abides G Q h p`: after the history `h`, every call of `p` is one that `G` admits at that
  point; `abides_bind` composes.
* `Prog.expand h p`: every call of `p` is carried out by the program `h` gives for it;
  `expand_bind` and `expand_expand` compose.
* `Prog.interp h p`: the run of `p` in a world that is itself a state machine.
-/

namespace Interaction

/-- Programs over the calls `C`, where the call `c` is answered by an `A c`. -/
inductive Prog {C : Type} (A : C → Type) (α : Type) : Type
  | ret (a : α) : Prog A α
  | call (c : C) (k : A c → Prog A α) : Prog A α

/-- A call together with the answer it got. -/
abbrev Event {C : Type} (A : C → Type) : Type := Sigma A

namespace Prog

variable {C : Type} {A : C → Type} {α β : Type}

/-- Sequential composition. -/
def bind : Prog A α → (α → Prog A β) → Prog A β
  | ret a, f => f a
  | call c k, f => call c fun x => (k x).bind f

instance : Monad (Prog A) where
  pure := ret
  bind := bind

/-- The program that issues one call and returns its answer. -/
def ask (c : C) : Prog A (A c) := call c ret

@[simp] lemma pure_eq_ret (a : α) : (pure a : Prog A α) = ret a := rfl

@[simp] lemma bind_eq_bind (p : Prog A α) (f : α → Prog A β) : (p >>= f) = p.bind f := rfl

@[simp] lemma ret_bind (a : α) (f : α → Prog A β) : (ret a : Prog A α).bind f = f a := rfl

@[simp] lemma call_bind (c : C) (k : A c → Prog A α) (f : α → Prog A β) :
    (call c k).bind f = call c fun x => (k x).bind f := rfl

/-- Three parts of a program are composed in either way. -/
lemma bind_assoc {γ : Type} (p : Prog A α) (f : α → Prog A β) (g : β → Prog A γ) :
    (p.bind f).bind g = p.bind fun a => (f a).bind g := by
  induction p with
  | ret a => rfl
  | call c k ih => exact congrArg (call c) (funext ih)

/-! ## Runs -/

/-- `p` finishes with `a` when its calls are answered as in the trace. -/
def Runs : Prog A α → List (Event A) → α → Prop
  | ret a, t, b => t = [] ∧ b = a
  | call c k, t, b => ∃ (x : A c) (t' : List (Event A)), t = ⟨c, x⟩ :: t' ∧ (k x).Runs t' b

/-- After the answers in the trace, `p` issues the call `c`. -/
def Issues : Prog A α → List (Event A) → C → Prop
  | ret _, _, _ => False
  | call c' _, [], c => c = c'
  | call c' k, e :: t, c => ∃ x : A c', e = ⟨c', x⟩ ∧ (k x).Issues t c

@[simp] lemma runs_ret {a b : α} {t : List (Event A)} :
    (ret a : Prog A α).Runs t b ↔ t = [] ∧ b = a := Iff.rfl

/-- The runs of a single call are its answers. -/
@[simp] lemma runs_ask {c : C} {t : List (Event A)} {x : A c} :
    (ask c : Prog A (A c)).Runs t x ↔ t = [⟨c, x⟩] := by
  constructor
  · rintro ⟨y, t', rfl, rfl, rfl⟩
    rfl
  · rintro rfl
    exact ⟨x, [], rfl, rfl, rfl⟩

/-- Programs with a common first part are the same behind it, after each of its runs. -/
lemma bind_cancel {p : Prog A α} {f g : α → Prog A β} {t : List (Event A)} {a : α}
    (hr : p.Runs t a) (h : p.bind f = p.bind g) : f a = g a := by
  induction p generalizing t with
  | ret b =>
    obtain ⟨-, rfl⟩ := hr
    exact h
  | call c k ih =>
    obtain ⟨x, t', -, hr⟩ := hr
    rw [call_bind, call_bind] at h
    injection h with _ hnext
    exact ih x hr (congrFun hnext x)

/-- The value that a program returns when its calls are answered as in the trace, if they can be. -/
def replay [DecidableEq C] : Prog A α → List (Event A) → Option α
  | ret a, [] => some a
  | ret _, _ :: _ => none
  | call _ _, [] => none
  | call c k, e :: t => if h : e.1 = c then (k (h ▸ e.2)).replay t else none

/-- A trace that can be replayed is the trace of a run. -/
lemma runs_of_replay [DecidableEq C] {p : Prog A α} {t : List (Event A)} {a : α}
    (h : p.replay t = some a) : p.Runs t a := by
  induction p generalizing t with
  | ret b =>
    cases t with
    | nil => exact ⟨rfl, (Option.some.inj h).symm⟩
    | cons e t => cases h
  | call c k ih =>
    cases t with
    | nil => cases h
    | cons e t =>
      obtain ⟨c', x⟩ := e
      unfold replay at h
      split_ifs at h with hc
      · obtain rfl : c' = c := hc
        exact ⟨x, t, rfl, ih x h⟩

/-- The call that a program comes to after the answers in the trace, if it comes to one. -/
def nextCall [DecidableEq C] : Prog A α → List (Event A) → Option C
  | ret _, _ => none
  | call c _, [] => some c
  | call c k, e :: t => if h : e.1 = c then (k (h ▸ e.2)).nextCall t else none

/-- A program issues the call that it comes to. -/
lemma issues_of_nextCall [DecidableEq C] {p : Prog A α} {t : List (Event A)} {c : C}
    (h : p.nextCall t = some c) : p.Issues t c := by
  induction p generalizing t with
  | ret b => cases h
  | call c' k ih =>
    cases t with
    | nil => exact (Option.some.inj h).symm
    | cons e t =>
      obtain ⟨c'', x⟩ := e
      unfold nextCall at h
      split_ifs at h with hc
      · obtain rfl : c'' = c' := hc
        exact ⟨x, rfl, ih x h⟩

/-- Where every call but those in `S` has an answer that `R` admits, a program has a run with such
answers, or comes to a call in `S`. -/
lemma exists_runs_or_issues {R : Event A → Prop} {S : C → Prop}
    (hanswer : ∀ c, S c ∨ ∃ x : A c, R ⟨c, x⟩) (p : Prog A α) :
    ∃ t, (∀ e ∈ t, R e) ∧ ((∃ a, p.Runs t a) ∨ ∃ c, S c ∧ p.Issues t c) := by
  induction p with
  | ret a => exact ⟨[], by simp, Or.inl ⟨a, rfl, rfl⟩⟩
  | call c k ih =>
    rcases hanswer c with hS | ⟨x, hx⟩
    · exact ⟨[], by simp, Or.inr ⟨c, hS, rfl⟩⟩
    · obtain ⟨t, ht, hend⟩ := ih x
      refine ⟨⟨c, x⟩ :: t, fun e he => ?_, ?_⟩
      · rcases List.mem_cons.mp he with rfl | he
        · exact hx
        · exact ht e he
      · rcases hend with ⟨a, hruns⟩ | ⟨c', hS, hissues⟩
        · exact Or.inl ⟨a, x, t, rfl, hruns⟩
        · exact Or.inr ⟨c', hS, x, rfl, hissues⟩

/-! ## Guarantees -/

/-- While the answers respect `R`, every call respects `G` and a returned value satisfies `Q`. -/
def Guarantees (R : Event A → Prop) (G : C → Prop) (Q : α → Prop) : Prog A α → Prop
  | ret a => Q a
  | call c k => G c ∧ ∀ x : A c, R ⟨c, x⟩ → (k x).Guarantees R G Q

section Guarantees

variable {R : Event A → Prop} {G : C → Prop} {Q : α → Prop}

@[simp] lemma guarantees_ret {a : α} : (ret a : Prog A α).Guarantees R G Q ↔ Q a := Iff.rfl

@[simp] lemma guarantees_call {c : C} {k : A c → Prog A α} :
    (call c k).Guarantees R G Q ↔ G c ∧ ∀ x : A c, R ⟨c, x⟩ → (k x).Guarantees R G Q := Iff.rfl

/-- Guarantees compose along a midpoint condition. -/
lemma guarantees_bind {Q' : β → Prop} {p : Prog A α} {f : α → Prog A β}
    (hp : p.Guarantees R G Q) (hf : ∀ a, Q a → (f a).Guarantees R G Q') :
    (p.bind f).Guarantees R G Q' := by
  induction p with
  | ret a => exact hf a hp
  | call c k ih => exact ⟨hp.1, fun x hx => ih x (hp.2 x hx)⟩

/-- A guarantee may be weakened. -/
lemma Guarantees.mono {R' : Event A → Prop} {G' : C → Prop} {Q' : α → Prop} {p : Prog A α}
    (h : p.Guarantees R G Q) (hR : ∀ e, R' e → R e) (hG : ∀ c, G c → G' c)
    (hQ : ∀ a, Q a → Q' a) : p.Guarantees R' G' Q' := by
  induction p with
  | ret a => exact hQ a h
  | call c k ih => exact ⟨hG c h.1, fun x hx => ih x (h.2 x (hR _ hx))⟩

/-- A guarantee is a fact about every call issued after answers that respect `R`. -/
lemma Guarantees.issues {p : Prog A α} (h : p.Guarantees R G Q) {t : List (Event A)} {c : C}
    (hi : p.Issues t c) (ht : ∀ e ∈ t, R e) : G c := by
  induction p generalizing t with
  | ret a => exact hi.elim
  | call c' k ih =>
    cases t with
    | nil =>
      obtain rfl : c = c' := hi
      exact h.1
    | cons e t =>
      obtain ⟨x, rfl, hi⟩ := hi
      exact ih x (h.2 x (ht _ List.mem_cons_self)) hi fun e he => ht e (List.mem_cons_of_mem _ he)

/-- A guarantee is a fact about every finished run whose answers respect `R`. -/
lemma Guarantees.runs {p : Prog A α} (h : p.Guarantees R G Q) {t : List (Event A)} {a : α}
    (hr : p.Runs t a) (ht : ∀ e ∈ t, R e) : (∀ e ∈ t, G e.1) ∧ Q a := by
  induction p generalizing t with
  | ret b =>
    obtain ⟨rfl, rfl⟩ := hr
    exact ⟨by simp, h⟩
  | call c k ih =>
    obtain ⟨x, t', rfl, hr⟩ := hr
    obtain ⟨hG, hQ⟩ := ih x (h.2 x (ht _ List.mem_cons_self)) hr
      fun e he => ht e (List.mem_cons_of_mem _ he)
    refine ⟨fun e he => ?_, hQ⟩
    rcases List.mem_cons.mp he with rfl | he
    · exact h.1
    · exact hG e he

end Guarantees

/-! ## Following a run with an observer -/

/-- An observer that starts in `s` and sees every answered call ends in a state that `Q` relates to
the returned value. -/
def Tracks {σ : Type} (watch : σ → Event A → σ) (Q : σ → α → Prop) : σ → Prog A α → Prop
  | s, ret a => Q s a
  | s, call c k => ∀ x : A c, Tracks watch Q (watch s ⟨c, x⟩) (k x)

section Tracks

variable {σ : Type} {watch : σ → Event A → σ} {Q : σ → α → Prop} {s : σ}

@[simp] lemma tracks_ret {a : α} : (ret a : Prog A α).Tracks watch Q s ↔ Q s a := Iff.rfl

@[simp] lemma tracks_call {c : C} {k : A c → Prog A α} :
    (call c k).Tracks watch Q s ↔ ∀ x : A c, (k x).Tracks watch Q (watch s ⟨c, x⟩) := Iff.rfl

@[simp] lemma tracks_ask {c : C} {Q : σ → A c → Prop} :
    (ask c : Prog A (A c)).Tracks watch Q s ↔ ∀ x : A c, Q (watch s ⟨c, x⟩) x := Iff.rfl

/-- Observations compose along a midpoint condition. -/
lemma tracks_bind {R : σ → α → Prop} {Q : σ → β → Prop} {p : Prog A α} {f : α → Prog A β}
    (hp : p.Tracks watch R s) (hf : ∀ s a, R s a → (f a).Tracks watch Q s) :
    (p.bind f).Tracks watch Q s := by
  induction p generalizing s with
  | ret a => exact hf s a hp
  | call c k ih => exact fun x => ih x (hp x)

/-- What is tracked holds at the end of every run. -/
lemma Tracks.runs {p : Prog A α} (h : p.Tracks watch Q s) {t : List (Event A)} {a : α}
    (hr : p.Runs t a) : Q (t.foldl watch s) a := by
  induction p generalizing s t with
  | ret b =>
    obtain ⟨rfl, rfl⟩ := hr
    exact h
  | call c k ih =>
    obtain ⟨x, t', rfl, hr⟩ := hr
    exact ih x (h x) hr

end Tracks

/-! ## Calls and what came before them -/

/-- After the history `h`, every call is one that `G` admits at that point, and in the end `Q`
relates the history to the returned value. -/
def Abides (G : List (Event A) → C → Prop) (Q : List (Event A) → α → Prop) :
    List (Event A) → Prog A α → Prop
  | h, ret a => Q h a
  | h, call c k => G h c ∧ ∀ x : A c, Abides G Q (h ++ [⟨c, x⟩]) (k x)

section Abides

variable {G G' : List (Event A) → C → Prop} {Q Q' : List (Event A) → α → Prop} {h : List (Event A)}

/-- Admitted programs compose along a midpoint condition. -/
lemma abides_bind {R : List (Event A) → β → Prop} {p : Prog A α} {f : α → Prog A β}
    (hp : p.Abides G Q h) (hf : ∀ h a, Q h a → (f a).Abides G R h) : (p.bind f).Abides G R h := by
  induction p generalizing h with
  | ret a => exact hf h a hp
  | call c k ih => exact ⟨hp.1, fun x => ih x (hp.2 x)⟩

/-- What is said of the calls and of the end may be weakened. -/
lemma Abides.mono {p : Prog A α} (hp : p.Abides G Q h) (hG : ∀ h c, G h c → G' h c)
    (hQ : ∀ h a, Q h a → Q' h a) : p.Abides G' Q' h := by
  induction p generalizing h with
  | ret a => exact hQ h a hp
  | call c k ih => exact ⟨hG h c hp.1, fun x => ih x (hp.2 x)⟩

/-- A program whose calls are all of a kind keeps a history of that kind. -/
lemma Guarantees.abides {K : C → Prop} {S : α → Prop} {p : Prog A α}
    (hp : p.Guarantees (fun _ => True) K S) (hh : ∀ e ∈ h, K e.1) :
    p.Abides (fun _ c => K c) (fun h' a => (∀ e ∈ h', K e.1) ∧ S a) h := by
  induction p generalizing h with
  | ret a => exact ⟨hh, hp⟩
  | call c k ih =>
    refine ⟨hp.1, fun x => ih x (hp.2 x trivial) ?_⟩
    exact List.forall_mem_append.mpr ⟨hh, List.forall_mem_singleton.mpr hp.1⟩

/-- Every call that is issued is admitted by what came before it. -/
lemma Abides.issues {p : Prog A α} (hp : p.Abides G Q h) {t : List (Event A)} {c : C}
    (hi : p.Issues t c) : G (h ++ t) c := by
  induction p generalizing h t with
  | ret a => exact hi.elim
  | call c' k ih =>
    cases t with
    | nil =>
      obtain rfl : c = c' := hi
      rw [List.append_nil]
      exact hp.1
    | cons e t =>
      obtain ⟨x, rfl, hi⟩ := hi
      rw [List.append_cons]
      exact ih x (hp.2 x) hi

/-- Every run ends as its history says. -/
lemma Abides.runs {p : Prog A α} (hp : p.Abides G Q h) {t : List (Event A)} {a : α}
    (hr : p.Runs t a) : Q (h ++ t) a := by
  induction p generalizing h t with
  | ret b =>
    obtain ⟨rfl, rfl⟩ := hr
    rw [List.append_nil]
    exact hp
  | call c k ih =>
    obtain ⟨x, t', rfl, hr⟩ := hr
    rw [List.append_cons]
    exact ih x (hp.2 x) hr

end Abides

/-! ## Carrying out the calls of one level by programs of the level below -/

section Expand

variable {C' : Type} {A' : C' → Type} (h : (c : C) → Prog A' (A c))

/-- Every call is replaced by the program that carries it out. -/
def expand : Prog A α → Prog A' α
  | ret a => ret a
  | call c k => (h c).bind fun x => (k x).expand

@[simp] lemma expand_ret (a : α) : (ret a : Prog A α).expand h = ret a := rfl

@[simp] lemma expand_call (c : C) (k : A c → Prog A α) :
    (call c k).expand h = (h c).bind fun x => (k x).expand h := rfl

/-- The parts of a program are expanded one by one. -/
lemma expand_bind (p : Prog A α) (f : α → Prog A β) :
    (p.bind f).expand h = (p.expand h).bind fun a => (f a).expand h := by
  induction p with
  | ret a => rfl
  | call c k ih =>
    rw [call_bind, expand_call, expand_call, bind_assoc]
    exact congrArg _ (funext ih)

/-- Two expansions are one. -/
lemma expand_expand {C'' : Type} {A'' : C'' → Type} (h' : (c : C') → Prog A'' (A' c))
    (p : Prog A α) : (p.expand h).expand h' = p.expand fun c => (h c).expand h' := by
  induction p with
  | ret a => rfl
  | call c k ih =>
    rw [expand_call, expand_call, expand_bind]
    exact congrArg _ (funext ih)

/-- An expansion that issues each call as it is changes nothing. -/
lemma expand_ask (p : Prog A α) : p.expand ask = p := by
  induction p with
  | ret a => rfl
  | call c k ih => exact congrArg (call c) (funext ih)

/-- Guarantees pass through an expansion: if the program for each allowed call keeps the lower
guarantee and answers within the upper assumption, the expanded program keeps the lower one. -/
lemma guarantees_expand {R : Event A → Prop} {G : C → Prop} {R' : Event A' → Prop}
    {G' : C' → Prop} {Q : α → Prop} {p : Prog A α} (hp : p.Guarantees R G Q)
    (hh : ∀ c, G c → (h c).Guarantees R' G' fun x => R ⟨c, x⟩) :
    (p.expand h).Guarantees R' G' Q := by
  induction p with
  | ret a => exact hp
  | call c k ih => exact guarantees_bind (hh c hp.1) fun x hx => ih x (hp.2 x hx)

end Expand

/-! ## Worlds that are state machines -/

/-- The run of a program in the world `h`, from the world's state `s`. -/
def interp {σ : Type} (h : (c : C) → σ → A c × σ) : Prog A α → σ → α × σ
  | ret a, s => (a, s)
  | call c k, s => (k (h c s).1).interp h (h c s).2

section Interp

variable {σ : Type} {h : (c : C) → σ → A c × σ}

@[simp] lemma interp_ret (a : α) (s : σ) : (ret a : Prog A α).interp h s = (a, s) := rfl

@[simp] lemma interp_call (c : C) (k : A c → Prog A α) (s : σ) :
    (call c k).interp h s = (k (h c s).1).interp h (h c s).2 := rfl

@[simp] lemma interp_ask (c : C) (s : σ) : (ask c : Prog A (A c)).interp h s = h c s := rfl

/-- Composition is interpreted by running the parts one after the other. -/
@[simp] lemma interp_bind (p : Prog A α) (f : α → Prog A β) (s : σ) :
    (p.bind f).interp h s = (f (p.interp h s).1).interp h (p.interp h s).2 := by
  induction p generalizing s with
  | ret a => rfl
  | call c k ih => exact ih _ _

end Interp

end Prog

end Interaction
