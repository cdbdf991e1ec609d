import Mathlib.Data.List.Induction
import Mathlib.Order.Nat

/-!
# Recency of use and stamps

A cache that evicts the least recently used key rarely keeps the history of its uses: it stamps a
key with a clock at each use and compares the stamps.  `Recency.Stamped` is what makes the stamps of
the keys in the cache stand for the history, and it is kept when a key is used, when a key leaves
the cache and when the clock goes on; under it the order of the stamps is the order of the last
uses.

A cache that keeps its keys in a list instead puts a key at the end of the list at each use.
`Recency.Queued` is what makes the list stand for the history, and the first key of the list is the
one whose last use is furthest back (`Recency.Queued.isOldest_iff`).
-/

namespace Recency

variable {κ : Type*} {uses : List κ} {u k k' : κ}

/-- The last use of one key has a use of the other behind it. -/
def UsedBefore (uses : List κ) (k k' : κ) : Prop :=
  ∃ pre post, uses = pre ++ k :: post ∧ k ∉ post ∧ k' ∈ post

/-- A key that was used has a last use. -/
lemma exists_last_use (h : k ∈ uses) : ∃ pre post, uses = pre ++ k :: post ∧ k ∉ post := by
  obtain ⟨before, later, heq, hfirst⟩ := List.eq_append_cons_of_mem (List.mem_reverse.mpr h)
  refine ⟨later.reverse, before.reverse, ?_, by rwa [List.mem_reverse]⟩
  have hback := congrArg List.reverse heq
  simpa using hback

/-- Another use: the key is now behind all that were used before. -/
lemma usedBefore_concat :
    UsedBefore (uses ++ [u]) k k' ↔ k ≠ u ∧ (k ∈ uses ∧ k' = u ∨ UsedBefore uses k k') := by
  constructor
  · rintro ⟨pre, post, heq, hlast, hmem⟩
    obtain rfl | ⟨rest, v, rfl⟩ := List.eq_nil_or_concat post
    · cases hmem
    · have hsplit : uses ++ [u] = (pre ++ k :: rest) ++ [v] := by simpa using heq
      obtain ⟨rfl, hlastUse⟩ := List.append_inj' hsplit rfl
      cases hlastUse
      rw [List.concat_eq_append] at hlast hmem
      simp only [List.mem_append, List.mem_singleton, not_or] at hlast hmem
      refine ⟨hlast.2, ?_⟩
      rcases hmem with hmem | rfl
      · exact Or.inr ⟨pre, rest, rfl, hlast.1, hmem⟩
      · exact Or.inl ⟨by simp, rfl⟩
  · rintro ⟨hne, ⟨hmem, rfl⟩ | ⟨pre, post, rfl, hlast, hmem⟩⟩
    · obtain ⟨pre, post, rfl, hlast⟩ := exists_last_use hmem
      exact ⟨pre, post ++ [k'], by simp, by simp [hlast, hne], by simp⟩
    · exact ⟨pre, post ++ [u], by simp, by simp [hlast, hne], by simp [hmem]⟩

/-- The stamps of the keys in a cache stand for the history of their uses. -/
structure Stamped (uses : List κ) (cached : κ → Prop) (stamp : κ → ℕ) (now : ℕ) : Prop where
  mem : ∀ k, cached k → k ∈ uses
  le : ∀ k, cached k → stamp k ≤ now
  lt_iff : ∀ k k', cached k → cached k' → (stamp k < stamp k' ↔ UsedBefore uses k k')

variable {cached cached' : κ → Prop} {stamp stamp' : κ → ℕ} {now now' : ℕ}

/-- An empty cache has no stamps. -/
lemma Stamped.empty (h : ∀ k, ¬cached k) : Stamped [] cached stamp now where
  mem k hk := absurd hk (h k)
  le k hk := absurd hk (h k)
  lt_iff k _ hk := absurd hk (h k)

/-- Keys may leave the cache and the clock may go on. -/
lemma Stamped.mono (h : Stamped uses cached stamp now) (hcached : ∀ k, cached' k → cached k)
    (hstamp : ∀ k, cached' k → stamp' k = stamp k) (hnow : now ≤ now') :
    Stamped uses cached' stamp' now' where
  mem k hk := h.mem k (hcached k hk)
  le k hk := by
    rw [hstamp k hk]
    exact le_trans (h.le k (hcached k hk)) hnow
  lt_iff k k' hk hk' := by
    rw [hstamp k hk, hstamp k' hk']
    exact h.lt_iff k k' (hcached k hk) (hcached k' hk')

/-- A key is used: it enters the cache, if it is not there, and gets the stamp of a new tick. -/
lemma Stamped.use (h : Stamped uses cached stamp now) (hnow : now < now')
    (hcached : ∀ k, k ≠ u → cached' k → cached k)
    (hstamp : ∀ k, k ≠ u → cached' k → stamp' k = stamp k) (hused : stamp' u = now') :
    Stamped (uses ++ [u]) cached' stamp' now' := by
  refine ⟨fun k hk => ?_, fun k hk => ?_, fun k k' hk hk' => ?_⟩
  · by_cases hku : k = u
    · simp [hku]
    · exact List.mem_append_left _ (h.mem k (hcached k hku hk))
  · by_cases hku : k = u
    · exact (congrArg stamp' hku).trans hused |>.le
    · rw [hstamp k hku hk]
      exact le_trans (h.le k (hcached k hku hk)) hnow.le
  · rw [usedBefore_concat]
    by_cases hku : k = u
    · -- Nothing is as warm as the key that was used just now.
      have hle : stamp' k' ≤ now' := by
        by_cases hku' : k' = u
        · exact (congrArg stamp' hku').trans hused |>.le
        · rw [hstamp k' hku' hk']
          exact le_trans (h.le k' (hcached k' hku' hk')) hnow.le
      subst hku
      rw [hused]
      exact ⟨fun hlt => absurd hle (Nat.not_le.mpr hlt), fun hbefore => absurd rfl hbefore.1⟩
    · have hold := hcached k hku hk
      by_cases hku' : k' = u
      · subst hku'
        rw [hstamp k hku hk, hused]
        have hlt : stamp k < now' := lt_of_le_of_lt (h.le k hold) hnow
        exact ⟨fun _ => ⟨hku, Or.inl ⟨h.mem k hold, rfl⟩⟩, fun _ => hlt⟩
      · rw [hstamp k hku hk, hstamp k' hku' hk', h.lt_iff k k' hold (hcached k' hku' hk')]
        simp [hku, hku']

/-! ## Queues -/

/-- Of two keys only one has its last use before the other. -/
lemma UsedBefore.asymm (h : UsedBefore uses k k') : ¬ UsedBefore uses k' k := by
  induction uses using List.reverseRecOn with
  | nil =>
    obtain ⟨pre, post, heq, -⟩ := h
    simp at heq
  | append_singleton uses u ih =>
    intro hback
    rw [usedBefore_concat] at h hback
    have hfirst : UsedBefore uses k k' := h.2.resolve_left fun hlast => hback.1 hlast.2
    have hsecond : UsedBefore uses k' k := hback.2.resolve_left fun hlast => h.1 hlast.2
    exact ih hfirst hsecond

/-- A queue of keys that were used, in the order of their last uses. -/
structure Queued (uses queue : List κ) : Prop where
  used : ∀ k ∈ queue, k ∈ uses
  sorted : queue.Pairwise (UsedBefore uses)

/-- Of the keys with a property, the one whose last use is furthest back. -/
def IsOldest (uses : List κ) (P : κ → Prop) (k : κ) : Prop :=
  P k ∧ ∀ k', P k' → k' ≠ k → UsedBefore uses k k'

variable {queue queue' : List κ}

/-- The empty queue. -/
lemma queued_nil : Queued uses [] where
  used k hk := by cases hk
  sorted := List.Pairwise.nil

/-- No key is in a queue twice. -/
lemma Queued.nodup (h : Queued uses queue) : queue.Nodup := by
  refine h.sorted.imp ?_
  rintro k k' hbefore rfl
  exact hbefore.asymm hbefore

lemma Queued.sublist (h : Queued uses queue) (hsub : queue'.Sublist queue) : Queued uses queue' :=
  ⟨fun k hk => h.used k (hsub.subset hk), h.sorted.sublist hsub⟩

/-- A key that is used is put at the end. -/
lemma Queued.use (h : Queued uses queue) (hnew : u ∉ queue) :
    Queued (uses ++ [u]) (queue ++ [u]) := by
  have hne {k : κ} (hk : k ∈ queue) : k ≠ u := by
    rintro rfl
    exact hnew hk
  refine ⟨fun k hk => ?_, ?_⟩
  · rcases List.mem_append.mp hk with hold | hlast
    · exact List.mem_append_left _ (h.used k hold)
    · exact List.mem_append_right _ hlast
  · refine List.pairwise_append.mpr ⟨?_, List.pairwise_singleton _ _, ?_⟩
    · refine h.sorted.imp_of_mem fun hk _ hbefore => ?_
      exact usedBefore_concat.mpr ⟨hne hk, Or.inr hbefore⟩
    · rintro k hk k' hk'
      exact usedBefore_concat.mpr ⟨hne hk, Or.inl ⟨h.used k hk, List.mem_singleton.mp hk'⟩⟩

/-- The first key of a queue is the oldest of it. -/
lemma Queued.isOldest_iff {oldest : κ} {rest : List κ} (h : Queued uses (oldest :: rest)) :
    IsOldest uses (· ∈ oldest :: rest) k ↔ k = oldest := by
  have hfirst {k' : κ} (hk : k' ∈ rest) : UsedBefore uses oldest k' :=
    List.rel_of_pairwise_cons h.sorted hk
  constructor
  · rintro ⟨hmem, hbefore⟩
    rcases List.mem_cons.mp hmem with heq | hrest
    · exact heq
    · by_contra hne
      exact (hfirst hrest).asymm (hbefore oldest List.mem_cons_self (Ne.symm hne))
  · rintro rfl
    refine ⟨List.mem_cons_self, fun k' hk' hne => ?_⟩
    exact hfirst ((List.mem_cons.mp hk').resolve_left hne)

end Recency
