import Encapsule.Foundation.Interaction

/-!
# Worlds that answer a program

A world with states `σ` goes from a state to the next by an answered call, or it does not give this
answer in this state.  `Prog.Ends world p s a s'` says that `p`, begun in `s`, may finish with the
value `a` in `s'`; every call may have many answers.  `Prog.Leads world R p` says that `R` relates
the two states of every finished run; for a preorder `R` it composes (`leads_bind`) and passes
through an expansion (`leads_expand`).
-/

namespace Interaction

namespace Prog

variable {C C' : Type} {A : C → Type} {A' : C' → Type} {α β σ : Type}

/-- Begun in the first state, the program may finish with the value in the second. -/
def Ends (world : σ → Event A → Option σ) : Prog A α → σ → α → σ → Prop
  | ret a, s, b, s' => b = a ∧ s' = s
  | call c k, s, b, s' => ∃ (x : A c) (next : σ), world s ⟨c, x⟩ = some next ∧
      (k x).Ends world next b s'

/-- The states before and after a finished run are related. -/
def Leads (world : σ → Event A → Option σ) (R : σ → σ → Prop) (p : Prog A α) : Prop :=
  ∀ s a s', p.Ends world s a s' → R s s'

section Ends

variable {world : σ → Event A → Option σ} {s s' : σ}

@[simp] lemma ends_ret {a b : α} : (ret a : Prog A α).Ends world s b s' ↔ b = a ∧ s' = s :=
  Iff.rfl

@[simp] lemma ends_call {c : C} {k : A c → Prog A α} {b : α} :
    (call c k).Ends world s b s' ↔
      ∃ (x : A c) (next : σ), world s ⟨c, x⟩ = some next ∧ (k x).Ends world next b s' := Iff.rfl

/-- A single call ends with its answer. -/
@[simp] lemma ends_ask {c : C} {x : A c} :
    (ask c : Prog A (A c)).Ends world s x s' ↔ world s ⟨c, x⟩ = some s' := by
  constructor
  · rintro ⟨y, next, hworld, rfl, rfl⟩
    exact hworld
  · exact fun hworld => ⟨x, s', hworld, rfl, rfl⟩

/-- A composition ends where its second part does, from where the first ended. -/
lemma ends_bind {p : Prog A α} {f : α → Prog A β} {b : β} :
    (p.bind f).Ends world s b s' ↔
      ∃ a mid, p.Ends world s a mid ∧ (f a).Ends world mid b s' := by
  induction p generalizing s with
  | ret a =>
    constructor
    · exact fun h => ⟨a, s, ⟨rfl, rfl⟩, h⟩
    · rintro ⟨_, _, ⟨rfl, rfl⟩, h⟩
      exact h
  | call c k ih =>
    constructor
    · rintro ⟨x, next, hworld, h⟩
      obtain ⟨a, mid, hp, hf⟩ := (ih x).mp h
      exact ⟨a, mid, ⟨x, next, hworld, hp⟩, hf⟩
    · rintro ⟨a, mid, ⟨x, next, hworld, hp⟩, hf⟩
      exact ⟨x, next, hworld, (ih x).mpr ⟨a, mid, hp, hf⟩⟩

/-- A trace that can be replayed, and that the world answers, ends the program. -/
lemma ends_of_replay [DecidableEq C] {p : Prog A α} {t : List (Event A)} {a : α}
    (hreplay : p.replay t = some a) (hworld : t.foldlM world s = some s') :
    p.Ends world s a s' := by
  have hruns := runs_of_replay hreplay
  clear hreplay
  induction p generalizing s t with
  | ret b =>
    obtain ⟨rfl, rfl⟩ := hruns
    exact ⟨rfl, (Option.some.inj hworld).symm⟩
  | call c k ih =>
    obtain ⟨x, t, rfl, hruns⟩ := hruns
    rw [List.foldlM_cons, Option.bind_eq_bind, Option.bind_eq_some_iff] at hworld
    obtain ⟨next, hnext, hworld⟩ := hworld
    exact ⟨x, next, hnext, ih x hworld hruns⟩

end Ends

section Leads

variable {world : σ → Event A → Option σ} {R S : σ → σ → Prop}

/-- A program that calls nothing stays where it is. -/
lemma leads_ret (hrefl : ∀ s, R s s) (a : α) : (ret a : Prog A α).Leads world R := by
  rintro s b s' ⟨-, rfl⟩
  exact hrefl s'

lemma leads_ask {c : C} (h : ∀ x s s', world s ⟨c, x⟩ = some s' → R s s') :
    (ask c : Prog A (A c)).Leads world R := fun s x s' hends => h x s s' (ends_ask.mp hends)

/-- A composition leads through a state in the middle. -/
lemma leads_bind (htrans : ∀ s mid s', R s mid → R mid s' → R s s') {p : Prog A α}
    {f : α → Prog A β} (hp : p.Leads world R) (hf : ∀ a, (f a).Leads world R) :
    (p.bind f).Leads world R := by
  intro s b s' hends
  obtain ⟨a, mid, hfirst, hsecond⟩ := ends_bind.mp hends
  exact htrans s mid s' (hp s a mid hfirst) (hf a mid b s' hsecond)

lemma Leads.mono {p : Prog A α} (hp : p.Leads world R) (hRS : ∀ s s', R s s' → S s s') :
    p.Leads world S := fun s a s' hends => hRS s s' (hp s a s' hends)

/-- What every call is carried out by leads there, so the expansion does. -/
lemma leads_expand (hrefl : ∀ s, R s s) (htrans : ∀ s mid s', R s mid → R mid s' → R s s')
    {h : (c : C') → Prog A (A' c)} (hh : ∀ c, (h c).Leads world R) (p : Prog A' α) :
    (p.expand h).Leads world R := by
  induction p with
  | ret a => exact leads_ret hrefl a
  | call c k ih => exact leads_bind htrans (hh c) ih

end Leads

end Prog

end Interaction
