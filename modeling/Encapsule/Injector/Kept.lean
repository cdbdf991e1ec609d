import Encapsule.Injector.Server

/-!
# The record of kept bootstraps

`kept_bootstraps` keeps a list of processes, oldest first, and a map from each process to its place
in the list.  The two agree in every record that `keep` and `drop` build (`KeptBootstraps.Valid`),
so that a process that is dropped is gone from both, and the process that an overflow gives back is
the oldest.
-/

namespace Encapsule

/-- Different numbers of 32 bits are different processes. -/
lemma nodup_map_ofNat {numbers : List ℕ} (h : numbers.Nodup) (hlt : ∀ n ∈ numbers, n < 2 ^ 32) :
    (numbers.map UInt32.ofNat).Nodup := by
  refine List.Nodup.of_map UInt32.toNat ?_
  rw [List.map_map, List.map_congr_left (g := id) fun n hn => ?_, List.map_id]
  · exact h
  · rw [Function.comp_apply, UInt32.toNat_ofNat']
    exact Nat.mod_eq_of_lt (hlt n hn)

namespace KeptBootstraps

variable {k : KeptBootstraps} {pid pid' : DWORD}

/-- The map knows the place of each entry of the list, and places are not used twice. -/
structure Valid (k : KeptBootstraps) : Prop where
  listed : ∀ pid node, k.node.lookup pid = some node ↔ (node, pid) ∈ k.order
  nodup : (k.order.map Prod.fst).Nodup
  bounded : ∀ entry ∈ k.order, entry.1 < k.fresh

/-- The process is in the record: in the list or in the map. -/
def Remembers (k : KeptBootstraps) (pid : DWORD) : Prop :=
  pid ∈ k.node ∨ ∃ entry ∈ k.order, entry.2 = pid

lemma lookup_of_mem (h : pid ∈ k.node) : ∃ node, k.node.lookup pid = some node :=
  Option.isSome_iff_exists.mp (AList.lookup_isSome.mpr h)

/-- A process of the list is in the map. -/
lemma Valid.mem_of_entry (h : k.Valid) {entry : ℕ × DWORD} (hentry : entry ∈ k.order) :
    entry.2 ∈ k.node :=
  AList.lookup_isSome.mp (by rw [(h.listed entry.2 entry.1).mpr hentry]; rfl)

/-- A process of the map is in the list. -/
lemma Valid.mem_order (h : k.Valid) (hmem : pid ∈ k.node) : pid ∈ k.order.map Prod.snd := by
  obtain ⟨node, hnode⟩ := lookup_of_mem hmem
  exact List.mem_map_of_mem (f := Prod.snd) ((h.listed pid node).mp hnode)

/-- A valid record remembers the processes of its map. -/
lemma Valid.remembers_iff (h : k.Valid) : k.Remembers pid ↔ pid ∈ k.node := by
  constructor
  · rintro (hmem | ⟨entry, hentry, rfl⟩)
    · exact hmem
    · exact h.mem_of_entry hentry
  · exact Or.inl

lemma valid_empty : Valid {} :=
  ⟨fun pid node => by simp, List.nodup_nil, fun entry hentry => by cases hentry⟩

/-! ## Dropping -/

/-- A process that is not in the record need not be dropped. -/
lemma drop_of_not_mem (h : pid ∉ k.node) : k.drop pid = k := by
  unfold drop
  rw [AList.lookup_eq_none.mpr h]

/-- The record without a process. -/
lemma drop_of_lookup {node : ℕ} (h : k.node.lookup pid = some node) : k.drop pid =
    { k with order := k.order.filter fun entry => entry.1 ≠ node, node := k.node.erase pid } := by
  unfold drop
  rw [h]

/-- What is dropped is no longer in the map. -/
lemma not_mem_drop (k : KeptBootstraps) (pid : DWORD) : pid ∉ (k.drop pid).node := by
  by_cases h : pid ∈ k.node
  · obtain ⟨node, hnode⟩ := lookup_of_mem h
    rw [drop_of_lookup hnode]
    exact fun hmem => (AList.mem_erase.mp hmem).1 rfl
  · rw [drop_of_not_mem h]
    exact h

/-- A record stays valid when a process is dropped. -/
lemma Valid.drop (h : k.Valid) (pid : DWORD) : (k.drop pid).Valid := by
  by_cases hmem : pid ∈ k.node
  · obtain ⟨node, hnode⟩ := lookup_of_mem hmem
    have hentry := (h.listed pid node).mp hnode
    rw [drop_of_lookup hnode]
    refine ⟨fun pid' node' => ?_, ?_, fun entry hentry' => ?_⟩
    · rw [List.mem_filter, ← h.listed, decide_eq_true_eq]
      by_cases heq : pid' = pid
      · subst heq
        rw [AList.lookup_erase, hnode]
        simp only [reduceCtorEq, Option.some.injEq, false_iff, not_and, not_not]
        exact fun h => h.symm
      · rw [AList.lookup_erase_ne heq]
        refine ⟨fun hlookup => ⟨hlookup, ?_⟩, fun hlookup => hlookup.1⟩
        -- another process has another place
        rintro rfl
        have hentry' := (h.listed pid' node').mp hlookup
        exact heq (Prod.mk.inj (List.inj_on_of_nodup_map h.nodup hentry' hentry rfl)).2
    · exact h.nodup.sublist (List.filter_sublist.map _)
    · exact h.bounded entry (List.mem_of_mem_filter hentry')
  · rw [drop_of_not_mem hmem]
    exact h

/-- A process that is dropped is gone. -/
lemma Valid.not_remembers_drop (h : k.Valid) (pid : DWORD) : ¬ (k.drop pid).Remembers pid := by
  rw [(h.drop pid).remembers_iff]
  exact k.not_mem_drop pid

/-! ## Keeping -/

/-- The record with a process at its newest end. -/
def append (k : KeptBootstraps) (pid : DWORD) : KeptBootstraps where
  order := k.order ++ [(k.fresh, pid)]
  node := k.node.insert pid k.fresh
  fresh := k.fresh + 1

/-- The record is full without `pid`, and `pid'` is its oldest process. -/
def Evicts (k : KeptBootstraps) (pid pid' : DWORD) : Prop :=
  keptCap ≤ (k.drop pid).order.length ∧ (k.drop pid).order.head?.map Prod.snd = some pid'

instance (k : KeptBootstraps) (pid pid' : DWORD) : Decidable (k.Evicts pid pid') :=
  inferInstanceAs (Decidable (_ ∧ _))

/-- A process that fits is kept at the newest end. -/
lemma keep_of_lt (h : (k.drop pid).order.length < keptCap) :
    k.keep pid = ((k.drop pid).append pid, none) := by
  unfold keep append
  have hlen : ((k.drop pid).order ++ [((k.drop pid).fresh, pid)]).length ≤ keptCap := by
    rw [List.length_append, List.length_singleton]
    omega
  simp only [hlen, if_true, if_neg (k.not_mem_drop pid)]

/-- A process that does not fit takes the place of the oldest. -/
lemma keep_of_le (h : keptCap ≤ (k.drop pid).order.length) :
    ∃ node oldest rest, (k.drop pid).order = (node, oldest) :: rest ∧
      k.keep pid =
        ({ order := rest ++ [((k.drop pid).fresh, pid)]
           node := ((k.drop pid).append pid).node.erase oldest
           fresh := (k.drop pid).fresh + 1 }, some oldest) := by
  have hpos : 0 < (k.drop pid).order.length := Nat.lt_of_lt_of_le (by decide) h
  obtain ⟨⟨node, oldest⟩, rest, horder⟩ :=
    List.exists_cons_of_ne_nil (List.ne_nil_of_length_pos hpos)
  refine ⟨node, oldest, rest, horder, ?_⟩
  have hlen : ¬ ((k.drop pid).order ++ [((k.drop pid).fresh, pid)]).length ≤ keptCap := by
    rw [List.length_append, List.length_singleton]
    omega
  unfold keep append
  simp only [hlen, if_false, if_neg (k.not_mem_drop pid)]
  rw [horder]
  rfl

/-- The process that has to go is the oldest of a full record. -/
lemma keep_evicts : (k.keep pid).2 = some pid' ↔ k.Evicts pid pid' := by
  unfold Evicts
  by_cases h : keptCap ≤ (k.drop pid).order.length
  · obtain ⟨node, oldest, rest, horder, hkeep⟩ := keep_of_le h
    rw [hkeep, horder, List.head?_cons]
    rw [horder] at h
    constructor
    · intro hpid
      exact ⟨h, hpid⟩
    · intro hpid
      exact hpid.2
  · rw [keep_of_lt (Nat.lt_of_not_le h)]
    constructor
    · intro hpid
      cases hpid
    · intro hpid
      exact absurd hpid.1 h

/-- A record stays valid when a process that is not in it is added. -/
lemma Valid.append (h : k.Valid) (hnew : pid ∉ k.node) : (k.append pid).Valid := by
  unfold KeptBootstraps.append
  refine ⟨fun pid' node => ?_, ?_, fun entry hentry => ?_⟩
  · rw [List.mem_append, List.mem_singleton, ← h.listed]
    by_cases heq : pid' = pid
    · subst heq
      rw [AList.lookup_insert, AList.lookup_eq_none.mpr hnew]
      simp [eq_comm]
    · rw [AList.lookup_insert_ne heq]
      simp [heq]
  · rw [List.map_append, List.nodup_append]
    refine ⟨h.nodup, List.nodup_singleton _, fun a ha b hb => ?_⟩
    obtain ⟨entry, hentry, rfl⟩ := List.mem_map.mp ha
    have hlt := h.bounded entry hentry
    have hfresh : b = k.fresh := by simpa using hb
    omega
  · rcases List.mem_append.mp hentry with hold | hlast
    · exact Nat.lt_succ_of_lt (h.bounded entry hold)
    · rw [List.mem_singleton.mp hlast]
      exact Nat.lt_succ_self _

/-- A record stays valid when a process is kept. -/
lemma Valid.keep (h : k.Valid) (pid : DWORD) : (k.keep pid).1.Valid := by
  have happend := (h.drop pid).append (k.not_mem_drop pid)
  by_cases hlen : keptCap ≤ (k.drop pid).order.length
  · -- the oldest is dropped from the longer record
    obtain ⟨node, oldest, rest, horder, hkeep⟩ := keep_of_le hlen
    have hfirst : ((k.drop pid).append pid).node.lookup oldest = some node := by
      rw [happend.listed]
      simp [KeptBootstraps.append, horder]
    have hdrop := happend.drop oldest
    rw [drop_of_lookup hfirst] at hdrop
    have horder' : ((k.drop pid).append pid).order =
        (node, oldest) :: (rest ++ [((k.drop pid).fresh, pid)]) := by
      simp [KeptBootstraps.append, horder]
    have hrest : ((k.drop pid).append pid).order.filter (fun entry => entry.1 ≠ node) =
        rest ++ [((k.drop pid).fresh, pid)] := by
      have hnodup := happend.nodup
      rw [horder', List.map_cons, List.nodup_cons] at hnodup
      rw [horder', List.filter_cons_of_neg (by simp), List.filter_eq_self]
      intro entry hentry
      have hplace := List.mem_map_of_mem (f := Prod.fst) hentry
      have hne : entry.1 ≠ node := fun heq => hnodup.1 (heq ▸ hplace)
      simpa using hne
    rw [hrest] at hdrop
    rw [hkeep]
    exact hdrop
  · rw [keep_of_lt (Nat.lt_of_not_le hlen)]
    exact happend

/-- A process that is kept is in the record. -/
lemma Valid.mem_keep (h : k.Valid) (pid : DWORD) : pid ∈ (k.keep pid).1.node := by
  by_cases hlen : keptCap ≤ (k.drop pid).order.length
  · obtain ⟨node, oldest, rest, horder, hkeep⟩ := keep_of_le hlen
    have hne : pid ≠ oldest := by
      rintro rfl
      have hentry : (node, pid) ∈ (k.drop pid).order := by
        rw [horder]
        exact List.mem_cons_self
      exact k.not_mem_drop pid ((h.drop pid).mem_of_entry hentry)
    rw [hkeep]
    exact AList.mem_erase.mpr ⟨hne, (AList.mem_insert _).mpr (Or.inl rfl)⟩
  · rw [keep_of_lt (Nat.lt_of_not_le hlen)]
    exact (AList.mem_insert _).mpr (Or.inl rfl)

/-- The record after many processes were kept. -/
def keepAll (k : KeptBootstraps) : List DWORD → KeptBootstraps
  | [] => k
  | pid :: pids => (k.keep pid).1.keepAll pids

/-- As many new processes as fit are kept in order. -/
lemma Valid.keepAll (h : k.Valid) {pids : List DWORD}
    (hnew : (k.order.map Prod.snd ++ pids).Nodup) (hroom : k.order.length + pids.length ≤ keptCap) :
    (k.keepAll pids).Valid ∧
      (k.keepAll pids).order.map Prod.snd = k.order.map Prod.snd ++ pids := by
  induction pids generalizing k with
  | nil => exact ⟨h, (List.append_nil _).symm⟩
  | cons pid pids ih =>
    have hmem : pid ∉ k.node := by
      intro hmem
      exact (List.nodup_append.mp hnew).2.2 pid (h.mem_order hmem) pid List.mem_cons_self rfl
    have hlt : (k.drop pid).order.length < keptCap := by
      rw [drop_of_not_mem hmem]
      rw [List.length_cons] at hroom
      omega
    have hkeep := keep_of_lt hlt
    rw [drop_of_not_mem hmem] at hkeep
    have hsnd : ((k.append pid).order.map Prod.snd) ++ pids =
        k.order.map Prod.snd ++ pid :: pids := by
      simp [KeptBootstraps.append]
    unfold KeptBootstraps.keepAll
    rw [hkeep, ← hsnd]
    refine ih (h.append hmem) (hsnd ▸ hnew) ?_
    rw [List.length_cons] at hroom
    simp only [KeptBootstraps.append, List.length_append, List.length_singleton]
    omega

/-- A process that is kept when the record is full of others takes the place of the oldest. -/
lemma evicts_keepAll {oldest : DWORD} {pids : List DWORD}
    (hnew : (pid :: oldest :: pids).Nodup) (hfull : (oldest :: pids).length = keptCap) :
    (keepAll {} (oldest :: pids)).Evicts pid oldest := by
  obtain ⟨hvalid, horder⟩ := valid_empty.keepAll (List.nodup_cons.mp hnew).2
    (by rw [hfull]; exact Nat.le_of_eq (Nat.zero_add _))
  have hsnd : (keepAll {} (oldest :: pids)).order.map Prod.snd = oldest :: pids := horder
  have hmem : pid ∉ (keepAll {} (oldest :: pids)).node := by
    intro hmem
    have hentry := hvalid.mem_order hmem
    rw [hsnd] at hentry
    exact (List.nodup_cons.mp hnew).1 hentry
  unfold Evicts
  rw [drop_of_not_mem hmem, ← List.length_map (f := Prod.snd), ← List.head?_map, hsnd]
  exact ⟨Nat.le_of_eq hfull.symm, rfl⟩

end KeptBootstraps

end Encapsule
