import Encapsule.Injectee.UdpQueues

/-!
# Who gets a row, and at whose cost

A socket that is seen for the first time gets a free row, or the least recently used one that nobody
is pinning (`UdpStateTable.Victim`), or none.  Everything an operation does to the rows of other
sockets is this one eviction (`Acts.rows_other`); what it does to the row of its own socket is
`UdpOp.rewrite` or, for `retire`, to give it up (`Acts.rows_own`).
-/

namespace Encapsule

namespace UdpStateTable

variable {t t' : UdpStateTable} {op : UdpOp} {i slot : Fin udpStateMaxRows} {v w : Uintptr}
  {tick : ℕ}

/-! ## Slots -/

/-- The row that makes way for a new socket: all rows are in use, this one is not pinned, it is the
least recently used of those, and the first of these. -/
structure Victim (t : UdpStateTable) (slot : Fin udpStateMaxRows) : Prop where
  full : ∀ j, (t.rows j).used = true
  unpinned : (t.rows slot).state.pinned = 0
  oldest : ∀ j, (t.rows j).state.pinned = 0 →
    (t.rows slot).state.lastUse ≤ (t.rows j).state.lastUse
  first : ∀ j, (t.rows j).state.pinned = 0 →
    (t.rows j).state.lastUse = (t.rows slot).state.lastUse → slot ≤ j

/-- Every row is in use and pinned. -/
def AllPinned (t : UdpStateTable) : Prop :=
  ∀ j, (t.rows j).used = true ∧ (t.rows j).state.pinned ≠ 0

/-- At most one row makes way. -/
lemma Victim.unique {j : Fin udpStateMaxRows} (hi : t.Victim i) (hj : t.Victim j) : i = j := by
  have heq : (t.rows i).state.lastUse = (t.rows j).state.lastUse :=
    le_antisymm (hi.oldest j hj.unpinned) (hj.oldest i hi.unpinned)
  exact le_antisymm (hi.first j hj.unpinned heq.symm) (hj.first i hi.unpinned heq)

/-- The slot for a socket that has none is a free one, or that of the victim, and there is none if
all rows are in use and pinned. -/
lemma findSlotFor_cases (hrow : t.mutableRow v = none) :
    (∃ slot, t.findSlotFor v = some slot ∧ ((t.rows slot).used = false ∨ t.Victim slot)) ∨
      t.findSlotFor v = none ∧ t.AllPinned := by
  unfold findSlotFor
  cases hfree : (List.finRange udpStateMaxRows).find? fun i => !(t.rows i).used with
  | some slot =>
    left
    have hunused := List.find?_some hfree
    exact ⟨slot, rfl, Or.inl (by simpa using hunused)⟩
  | none =>
    have hfull (j : Fin udpStateMaxRows) : (t.rows j).used = true := by
      simpa using List.find?_eq_none.mp hfree j (List.mem_finRange j)
    have hother (j : Fin udpStateMaxRows) : (t.rows j).state.app ≠ v := fun happ =>
      mutableRow_eq_none.mp hrow j ⟨hfull j, happ⟩
    have hkind (j : Fin udpStateMaxRows) :
        decide ((t.rows j).state.pinned = 0 ∧ (t.rows j).state.app ≠ v) = true ↔
          (t.rows j).state.pinned = 0 := by
      simp [hother j]
    cases hvictim : ((List.finRange udpStateMaxRows).filter fun i =>
      (t.rows i).state.pinned = 0 ∧ (t.rows i).state.app ≠ v).argmin
        fun i => (t.rows i).state.lastUse with
    | some slot =>
      left
      have hleast := SlotArray.leftmostMin_of_argmin hvictim
      refine ⟨slot, rfl, Or.inr ⟨hfull, (hkind slot).mp hleast.kind, ?_, ?_⟩⟩
      · exact fun j hj => hleast.le j ((hkind j).mpr hj)
      · exact fun j hj => hleast.first j ((hkind j).mpr hj)
    | none =>
      right
      refine ⟨rfl, fun j => ⟨hfull j, fun hpinned => ?_⟩⟩
      have hempty := List.filter_eq_nil_iff.mp (List.argmin_eq_none.mp hvictim) j
        (List.mem_finRange j)
      exact hempty ((hkind j).mpr hpinned)

/-- The slot a socket without a row gets. -/
lemma free_or_victim (hrow : t.mutableRow v = none) (hslot : t.findSlotFor v = some slot) :
    (t.rows slot).used = false ∨ t.Victim slot := by
  rcases findSlotFor_cases hrow with ⟨slot', hslot', h⟩ | ⟨hnone, -⟩
  · rw [hslot] at hslot'
    cases hslot'
    exact h
  · rw [hslot] at hnone
    cases hnone

/-- A socket without a row gets no slot if all rows are in use and pinned. -/
lemma findSlotFor_eq_none (hrow : t.mutableRow v = none) :
    t.findSlotFor v = none ↔ t.AllPinned := by
  rcases findSlotFor_cases hrow with ⟨slot, hslot, h⟩ | ⟨hnone, hpinned⟩
  · rw [hslot]
    constructor
    · intro hsome
      cases hsome
    · intro hpinned
      rcases h with hfree | hvictim
      · exact absurd (hpinned slot).1 (by simp [hfree])
      · exact absurd hvictim.unpinned (hpinned slot).2
  · exact ⟨fun _ => hpinned, fun _ => hnone⟩

/-- A socket is quarantined at an insertion if the list has an entry for it that is not yet due. -/
lemma isQuarantined_inserted_iff :
    t.inserted.isQuarantined v = true ↔
      ∃ key ∈ t.retired, key.app = v ∧ t.insertions + 1 < key.reusableAt := by
  simp only [isQuarantined, inserted, pruneQuarantine, List.any_eq_true, List.mem_filter,
    Bool.and_eq_true, beq_iff_eq, decide_eq_true_eq]
  constructor
  · rintro ⟨key, ⟨hkey, -⟩, happ, hdue⟩
    exact ⟨key, hkey, happ, of_decide_eq_true hdue⟩
  · rintro ⟨key, hkey, happ, hdue⟩
    exact ⟨key, ⟨hkey, hdue⟩, happ, decide_eq_true hdue⟩

/-- An insertion is refused to a socket that is quarantined, and to any if all rows are in use and
pinned. -/
lemma refuses_iff (hrow : t.mutableRow v = none) :
    (t.inserted.isQuarantined v = true ∨ t.inserted.findSlotFor v = none) ↔
      (∃ key ∈ t.retired, key.app = v ∧ t.insertions + 1 < key.reusableAt) ∨ t.AllPinned := by
  have hpinned : t.inserted.findSlotFor v = none ↔ t.inserted.AllPinned :=
    findSlotFor_eq_none hrow
  rw [isQuarantined_inserted_iff, hpinned]
  rfl

/-! ## Rows of others -/

/-- A new row takes the place of the victim, or a free one. -/
lemma victim_of_claims (hrow : t.mutableRow v = none) (hslot : t.inserted.findSlotFor v = some slot)
    (hused : (t.rows slot).used = true) : t.Victim slot := by
  rcases free_or_victim (t := t.inserted) hrow hslot with hfree | hvictim
  · exact absurd (hused.symm.trans hfree) (by simp)
  · exact ⟨hvictim.full, hvictim.unpinned, hvictim.oldest, hvictim.first⟩

/-- An operation leaves the row of another socket as it is, unless this row is the victim of the
insertion of its own. -/
lemma Acts.rows_other (h : Acts t op t') (htracks : t.Tracks i w) (hop : op.socket ≠ some w) :
    t'.rows i = t.rows i ∨
      ∃ v tick, op.opens = some (v, tick) ∧ t.mutableRow v = none ∧ t.Victim i ∧
        t'.Tracks i v := by
  cases h with
  | rest => exact Or.inl rfl
  | @rewrites v j hsocket hkeep hrow =>
    left
    have hij : i ≠ j := by
      rintro rfl
      rw [hsocket, ← (tracks_of_mutableRow hrow).2, htracks.2] at hop
      exact hop rfl
    exact rows_setState_of_ne _ hij
  | turnsAway => exact Or.inl rfl
  | @claims v tick slot hopens hrow hq hslot =>
    have hrows := rows_claimed t.inserted slot v tick (op.rewrite { app := v, lastUse := tick })
    by_cases hij : i = slot
    · subst hij
      right
      refine ⟨v, tick, hopens, hrow, victim_of_claims hrow hslot htracks.1, ?_⟩
      unfold Tracks
      dsimp only
      rw [hrows, rows_setRow_self]
      exact ⟨rfl, UdpOp.app_rewrite ..⟩
    · left
      dsimp only
      rw [hrows, rows_setRow_of_ne _ hij]
      rfl
  | @retires v j hretire hrow =>
    left
    have hij : i ≠ j := by
      rintro rfl
      rw [hretire, ← (tracks_of_mutableRow hrow).2, htracks.2] at hop
      exact hop rfl
    exact rows_setRow_of_ne _ hij

/-- An operation rewrites the row of its own socket, or gives it up. -/
lemma Acts.rows_own (h : Acts t op t') (hinv : t.Inv) (htracks : t.Tracks i w)
    (hop : op.socket = some w) :
    op = .retire w ∧ (t'.rows i).used = false ∨
      op ≠ .retire w ∧
        t'.rows i = { used := true, state := op.rewrite (t.rows i).state } := by
  have hfound := hinv.mutableRow_eq_some htracks
  cases h with
  | rest _ _ hnone =>
    rw [hnone w hop] at hfound
    cases hfound
  | @rewrites v j hsocket hkeep hrow =>
    obtain rfl : v = w := by
      rw [hsocket] at hop
      exact Option.some.inj hop
    obtain rfl : j = i := by
      rw [hrow] at hfound
      exact Option.some.inj hfound
    right
    refine ⟨hkeep, ?_⟩
    dsimp only
    rw [rows_setState_self]
    exact congrArg (UdpRow.mk _) htracks.1
  | turnsAway hopens hrow =>
    rw [UdpOp.socket_of_opens hopens] at hop
    cases hop
    rw [hrow] at hfound
    cases hfound
  | claims hopens hrow =>
    rw [UdpOp.socket_of_opens hopens] at hop
    cases hop
    rw [hrow] at hfound
    cases hfound
  | @retires v j hretire hrow =>
    left
    subst hretire
    obtain rfl : v = w := Option.some.inj hop
    obtain rfl : j = i := by
      rw [hrow] at hfound
      exact Option.some.inj hfound
    refine ⟨rfl, ?_⟩
    dsimp only
    rw [rows_setRow_self]

/-! ## What is cached for a socket -/

/-- From `s` to `s'` the type, the peer and the flags of the socket `v` change only if `op` is the
setter for it. -/
structure SetOnly (op : UdpOp) (v : Uintptr) (s s' : UdpState) : Prop where
  type : s'.type ≠ s.type → ∃ tick, op = .setType v tick s'.type
  peer : s'.peer ≠ s.peer ∨ s'.hasPeer ≠ s.hasPeer → ∃ tick, op = .setPeer v tick s'.peer
  takeover : s'.takeover ≠ s.takeover → ∃ tick, op = .markTakeover v tick
  permanentlyUnmanaged : s'.permanentlyUnmanaged ≠ s.permanentlyUnmanaged →
    ∃ tick, op = .markPermanentlyUnmanaged v tick

/-- Nothing cached has changed. -/
lemma SetOnly.of_eq {s s' : UdpState} (htype : s'.type = s.type) (hpeer : s'.peer = s.peer)
    (hhas : s'.hasPeer = s.hasPeer) (htakeover : s'.takeover = s.takeover)
    (hunmanaged : s'.permanentlyUnmanaged = s.permanentlyUnmanaged) : SetOnly op v s s' := by
  refine ⟨fun h => absurd htype h, fun h => ?_, fun h => absurd htakeover h,
    fun h => absurd hunmanaged h⟩
  rcases h with h | h
  · exact absurd hpeer h
  · exact absurd hhas h

/-- The setters set what they are named after, and no other operation touches it. -/
lemma setOnly_rewrite (hop : op.socket = some v) (s : UdpState) :
    SetOnly op v s (op.rewrite s) := by
  cases op with
  | setPeer v' tick peer =>
    obtain rfl : v' = v := Option.some.inj hop
    exact ⟨fun h => absurd rfl h, fun _ => ⟨tick, rfl⟩, fun h => absurd rfl h,
      fun h => absurd rfl h⟩
  | setType v' tick type =>
    obtain rfl : v' = v := Option.some.inj hop
    refine ⟨fun _ => ⟨tick, rfl⟩, fun h => ?_, fun h => absurd rfl h, fun h => absurd rfl h⟩
    rcases h with h | h <;> exact absurd rfl h
  | markTakeover v' tick =>
    obtain rfl : v' = v := Option.some.inj hop
    refine ⟨fun h => absurd rfl h, fun h => ?_, fun _ => ⟨tick, rfl⟩, fun h => absurd rfl h⟩
    rcases h with h | h <;> exact absurd rfl h
  | markPermanentlyUnmanaged v' tick =>
    obtain rfl : v' = v := Option.some.inj hop
    refine ⟨fun h => absurd rfl h, fun h => ?_, fun h => absurd rfl h, fun _ => ⟨tick, rfl⟩⟩
    rcases h with h | h <;> exact absurd rfl h
  | push v' tick dgram toRx =>
    obtain ⟨_, _, _, _, heq⟩ := UdpOp.pushed_eq dgram toRx (UdpOp.touched tick s)
    rw [UdpOp.rewrite, heq]
    exact SetOnly.of_eq rfl rfl rfl rfl rfl
  | pop v' tick fromRx =>
    obtain ⟨_, _, _, _, heq⟩ := UdpOp.popped_eq fromRx (UdpOp.touched tick s)
    rw [UdpOp.rewrite, heq]
    exact SetOnly.of_eq rfl rfl rfl rfl rfl
  | unpin v' =>
    obtain ⟨_, heq⟩ := UdpOp.unpinned_eq s
    rw [UdpOp.rewrite, heq]
    exact SetOnly.of_eq rfl rfl rfl rfl rfl
  | _ => exact SetOnly.of_eq rfl rfl rfl rfl rfl

/-! ## Admission -/

/-- A socket without a row gets none if the insertion is refused, and else a fresh one in a free
slot or in that of the victim. -/
lemma open_untracked (hrow : t.mutableRow v = none) :
    ((t.open v tick).2 = none ↔
        (∃ key ∈ t.retired, key.app = v ∧ t.insertions + 1 < key.reusableAt) ∨ t.AllPinned) ∧
      ∀ slot, (t.open v tick).2 = some slot →
        (t.open v tick).1.rows slot = { used := true, state := { app := v, lastUse := tick } } ∧
          ((t.rows slot).used = false ∨ t.Victim slot) := by
  rw [← refuses_iff hrow]
  rcases open_cases t v tick with ⟨j, hfound, -⟩ | ⟨-, hno, hopen⟩ | ⟨-, hq, slot, hslot, hopen⟩
  · rw [hrow] at hfound
    cases hfound
  · rw [hopen]
    refine ⟨⟨fun _ => hno, fun _ => rfl⟩, fun slot hslot => ?_⟩
    cases hslot
  · rw [hopen]
    refine ⟨⟨fun hnone => ?_, fun hno => ?_⟩, fun slot' hslot' => ?_⟩
    · cases hnone
    · rw [hq, hslot] at hno
      rcases hno with hno | hno <;> cases hno
    · obtain rfl : slot = slot' := Option.some.inj hslot'
      refine ⟨state_claimRow .., ?_⟩
      cases hused : (t.rows slot).used with
      | false => exact Or.inl rfl
      | true => exact Or.inr (victim_of_claims hrow hslot hused)

/-- **Admission and isolation.** In every run: an untracked socket is turned away exactly if it is
quarantined at the advanced clock or all rows are in use and pinned, and else gets a fresh row in a
free slot or, if there is none, in that of the victim; an operation leaves the row of every other
socket as it is, unless this row is the victim of its insertion; a pinned row is never evicted; and
the row of its own socket stays until it is retired, with type, peer and flags changed by their
setters only. -/
theorem admission_and_isolation (ops : List UdpOp) :
    let t := Mealy.run step {} ops
    (∀ v tick, t.find v = none →
      ((t.open v tick).2 = none ↔
          (∃ key ∈ t.retired, key.app = v ∧ t.insertions + 1 < key.reusableAt) ∨ t.AllPinned) ∧
        ∀ slot, (t.open v tick).2 = some slot →
          (t.open v tick).1.rows slot = { used := true, state := { app := v, lastUse := tick } } ∧
            ((t.rows slot).used = false ∨ t.Victim slot)) ∧
      ∀ op i w, t.Tracks i w →
        (op.socket ≠ some w →
          (t.step op).1.rows i = t.rows i ∨
            ∃ v tick, op.opens = some (v, tick) ∧ t.find v = none ∧ t.Victim i ∧
              (t.step op).1.Tracks i v) ∧
        (op ≠ .retire w → (t.rows i).state.pinned ≠ 0 → (t.step op).1.Tracks i w) ∧
        (op.socket = some w →
          op = .retire w ∧ ((t.step op).1.rows i).used = false ∨
            (t.step op).1.Tracks i w ∧
              SetOnly op w (t.rows i).state ((t.step op).1.rows i).state) := by
  intro t
  have hinv : t.Inv := (inv_empty.handles_run ops).inv
  refine ⟨fun v tick hfind => open_untracked (find_eq_none.mp hfind), fun op i w htracks => ?_⟩
  have hacts := step_acts t op
  have hown (hop : op.socket = some w) (hkeep : op ≠ .retire w) :
      (t.step op).1.rows i = { used := true, state := op.rewrite (t.rows i).state } := by
    rcases hacts.rows_own hinv htracks hop with ⟨hretire, -⟩ | ⟨-, hrewrite⟩
    · exact absurd hretire hkeep
    · exact hrewrite
  have hstays (hop : op.socket = some w) (hkeep : op ≠ .retire w) : (t.step op).1.Tracks i w := by
    unfold Tracks
    rw [hown hop hkeep]
    exact ⟨rfl, (UdpOp.app_rewrite ..).trans htracks.2⟩
  refine ⟨fun hop => ?_, fun hkeep hpinned => ?_, fun hop => ?_⟩
  · rcases hacts.rows_other htracks hop with hsame | ⟨v, tick, hopens, hrow, hvictim, hnew⟩
    · exact Or.inl hsame
    · exact Or.inr ⟨v, tick, hopens, find_eq_none.mpr hrow, hvictim, hnew⟩
  · by_cases hop : op.socket = some w
    · exact hstays hop hkeep
    · rcases hacts.rows_other htracks hop with hsame | ⟨v, tick, -, -, hvictim, -⟩
      · unfold Tracks
        rw [hsame]
        exact htracks
      · exact absurd hvictim.unpinned hpinned
  · by_cases hkeep : op = .retire w
    · rcases hacts.rows_own hinv htracks hop with hretired | ⟨hno, -⟩
      · exact Or.inl hretired
      · exact absurd hkeep hno
    · right
      refine ⟨hstays hop hkeep, ?_⟩
      rw [hown hop hkeep]
      exact setOnly_rewrite hop _

/-- A pinned row is there when another socket has been seen for the first time. -/
theorem admission_and_isolation_pinned :
    let t := Mealy.run step {} [.open 1 0, .pin 1]
    (t.step (.open 2 5)).1.Tracks 0 1 :=
  ((admission_and_isolation [.open 1 0, .pin 1]).2 (.open 2 5) 0 1
    ⟨by decide, by decide⟩).2.1 (by decide) (by decide)

end UdpStateTable

end Encapsule
