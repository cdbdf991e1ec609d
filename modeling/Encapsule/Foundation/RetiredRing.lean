import Mathlib.Data.Finset.Card
import Mathlib.Logic.Relation

/-!
# Rings of retired keys

A table of at most `n` live keys keeps a retired key out until `q` more insertions have been asked
for.  The clock counts these requests, whether they are granted or not; a retired key is written
down with the reading of the clock from which on it may come back, and is forgotten by the first
insertion that finds its time come.

Two facts follow about every run.  A key stays out while the clock is short of its time
(`mem_retired_of_steps`).  And the list of retired keys is bounded although retiring costs no time
(`Sound.length_add_card_le`): every key retired since some moment was live at that moment, or was
admitted since, which took an insertion.
-/

namespace RetiredRing

/-- The clock, the live keys, and the retired keys with the times from which they may come back. -/
structure KeyRing (K : Type*) where
  clock : ℕ
  live : Finset K
  retired : List (K × ℕ)

variable {K : Type*} {n q : ℕ} {r r' : KeyRing K} {k : K} {u : ℕ}

/-- The ring as an insertion finds it: a tick later, what has expired forgotten. -/
def KeyRing.advance (r : KeyRing K) : KeyRing K :=
  { r with
    clock := r.clock + 1
    retired := r.retired.filter fun e => r.clock + 1 < e.2 }

/-- The key may not come back yet. -/
def KeyRing.Quarantined (r : KeyRing K) (k : K) : Prop := ∃ e ∈ r.retired, e.1 = k

@[simp] lemma KeyRing.clock_advance (r : KeyRing K) : r.advance.clock = r.clock + 1 := rfl

@[simp] lemma KeyRing.live_advance (r : KeyRing K) : r.advance.live = r.live := rfl

@[simp] lemma KeyRing.mem_retired_advance {e : K × ℕ} :
    e ∈ r.advance.retired ↔ e ∈ r.retired ∧ r.clock + 1 < e.2 := by
  simp [KeyRing.advance]

variable [DecidableEq K]

/-- What can happen to a ring with room for `n` live keys and quarantine `q`. -/
inductive Step (n q : ℕ) (r : KeyRing K) : KeyRing K → Prop
  /-- An insertion is refused. -/
  | refuse : Step n q r r.advance
  /-- A key is admitted; others may lose their places to it. -/
  | enter {k : K} {live : Finset K} (hk : ¬r.advance.Quarantined k)
      (hlive : live ⊆ insert k r.live) (hcard : live.card ≤ n) :
      Step n q r { r.advance with live }
  /-- A live key is retired. -/
  | retire {k : K} (hk : k ∈ r.live) :
      Step n q r
        { r with live := r.live.erase k, retired := r.retired ++ [(k, r.clock + q)] }

/-- The invariant of a ring. -/
structure Sound (n q : ℕ) (r : KeyRing K) : Prop where
  card : r.live.card ≤ n
  pending : ∀ e ∈ r.retired, r.clock < e.2
  window : ∀ e ∈ r.retired, q ≤ e.2 ∧ e.2 ≤ r.clock + q
  apart : ∀ e ∈ r.retired, e.1 ∉ r.live
  nodup : (r.retired.map Prod.fst).Nodup
  churn : ∀ m ≤ r.clock,
    r.retired.countP (fun e => m + q ≤ e.2) + r.live.card ≤ n + (r.clock - m)

omit [DecidableEq K] in
lemma Sound.empty : Sound n q (⟨0, ∅, []⟩ : KeyRing K) := by
  constructor <;> simp

omit [DecidableEq K] in
/-- An insertion that lets other keys be live keeps the invariant if there is room for them, at most
one is new, and none of them is in quarantine. -/
lemma Sound.advance {live : Finset K} (h : Sound n q r) (hcard : live.card ≤ n)
    (hgrow : live.card ≤ r.live.card + 1) (hapart : ∀ e ∈ r.advance.retired, e.1 ∉ live) :
    Sound n q { r.advance with live } := by
  have hsub : r.advance.retired.Sublist r.retired := List.filter_sublist
  refine ⟨hcard, fun e he => ?_, fun e he => ?_, hapart, ?_, fun m hm => ?_⟩
  · exact (KeyRing.mem_retired_advance.mp he).2
  · have hwindow := h.window e (hsub.mem he)
    simp only [KeyRing.clock_advance]
    omega
  · exact (hsub.map Prod.fst).nodup h.nodup
  · simp only [KeyRing.clock_advance] at hm ⊢
    rcases hm.eq_or_lt with rfl | hlt
    · -- No key was retired at a time that has only just come.
      have hnone : r.advance.retired.countP (fun e => r.clock + 1 + q ≤ e.2) = 0 := by
        rw [List.countP_eq_zero]
        intro e he
        have hwindow := h.window e (hsub.mem he)
        simp only [decide_eq_true_eq]
        omega
      omega
    · have hchurn := h.churn m (Nat.lt_succ_iff.mp hlt)
      have hcount : r.advance.retired.countP (fun e => m + q ≤ e.2) ≤
          r.retired.countP fun e => m + q ≤ e.2 := hsub.countP_le
      omega

/-- One step keeps the invariant. -/
lemma Sound.step (hq : 0 < q) (h : Sound n q r) (hs : Step n q r r') : Sound n q r' := by
  cases hs with
  | refuse =>
    exact h.advance h.card (Nat.le_succ _) fun e he =>
      h.apart e (KeyRing.mem_retired_advance.mp he).1
  | @enter k live hk hlive hcard =>
    refine h.advance hcard ((Finset.card_le_card hlive).trans (Finset.card_insert_le _ _)) ?_
    intro e he hmem
    rcases Finset.mem_insert.mp (hlive hmem) with heq | hold
    · exact hk ⟨e, he, heq⟩
    · exact h.apart e (KeyRing.mem_retired_advance.mp he).1 hold
  | @retire k hk =>
    have hpos : 0 < r.live.card := Finset.card_pos.mpr ⟨k, hk⟩
    have herase : (r.live.erase k).card = r.live.card - 1 := Finset.card_erase_of_mem hk
    refine ⟨?_, fun e he => ?_, fun e he => ?_, fun e he => ?_, ?_, fun m hm => ?_⟩
    · exact herase.trans_le ((Nat.sub_le _ _).trans h.card)
    · rcases List.mem_append.mp he with hold | hnew
      · exact h.pending e hold
      · obtain rfl := List.mem_singleton.mp hnew
        exact Nat.lt_add_of_pos_right hq
    · rcases List.mem_append.mp he with hold | hnew
      · exact h.window e hold
      · obtain rfl := List.mem_singleton.mp hnew
        exact ⟨Nat.le_add_left _ _, le_rfl⟩
    · rcases List.mem_append.mp he with hold | hnew
      · exact fun hmem => h.apart e hold (Finset.mem_of_mem_erase hmem)
      · obtain rfl := List.mem_singleton.mp hnew
        exact Finset.notMem_erase k r.live
    · have hfresh : k ∉ r.retired.map Prod.fst := by
        intro hmem
        obtain ⟨e, he, rfl⟩ := List.mem_map.mp hmem
        exact h.apart e he hk
      rw [List.map_append]
      have hconcat := h.nodup.concat hfresh
      rwa [List.concat_eq_append] at hconcat
    · have hchurn := h.churn m hm
      have hone : [(k, r.clock + q)].countP (fun e => m + q ≤ e.2) ≤ 1 := List.countP_le_length
      rw [List.countP_append, herase]
      dsimp only
      omega

omit [DecidableEq K] in
/-- The retired keys and the live ones are together no more than the places, and one for each tick
of a quarantine but the last. -/
theorem Sound.length_add_card_le (h : Sound n q r) (hq : 0 < q) :
    r.retired.length + r.live.card ≤ n + (q - 1) := by
  have hchurn := h.churn (r.clock - (q - 1)) (Nat.sub_le _ _)
  have hall : r.retired.countP (fun e => r.clock - (q - 1) + q ≤ e.2) = r.retired.length := by
    rw [List.countP_eq_length]
    intro e he
    have hpending := h.pending e he
    have hwindow := h.window e he
    simp only [decide_eq_true_eq]
    omega
  omega

/-- A retired key stays on the list until its time has come. -/
theorem mem_retired_of_steps (hk : (k, u) ∈ r.retired)
    (hr : Relation.ReflTransGen (Step n q) r r') (hu : r'.clock < u) : (k, u) ∈ r'.retired := by
  induction hr with
  | refl => exact hk
  | tail _ hs ih =>
    cases hs with
    | refuse =>
      rw [KeyRing.clock_advance] at hu
      exact KeyRing.mem_retired_advance.mpr ⟨ih (Nat.lt_of_succ_lt hu), hu⟩
    | enter =>
      simp only [KeyRing.clock_advance] at hu
      exact KeyRing.mem_retired_advance.mpr ⟨ih (Nat.lt_of_succ_lt hu), hu⟩
    | retire => exact List.mem_append_left _ (ih hu)

omit [DecidableEq K] in
/-- An insertion finds a retired key in quarantine unless it brings its time. -/
lemma Sound.quarantined_advance_iff (h : Sound n q r) (hk : (k, u) ∈ r.retired) :
    r.advance.Quarantined k ↔ r.clock + 1 < u := by
  constructor
  · rintro ⟨e, he, rfl⟩
    obtain ⟨hmem, hlt⟩ := KeyRing.mem_retired_advance.mp he
    have hsame : e = (e.1, u) := List.inj_on_of_nodup_map h.nodup hmem hk rfl
    rw [hsame] at hlt
    exact hlt
  · intro hlt
    exact ⟨(k, u), KeyRing.mem_retired_advance.mpr ⟨hk, hlt⟩, rfl⟩

end RetiredRing
