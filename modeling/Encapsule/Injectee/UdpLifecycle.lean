import Encapsule.Foundation.Lifecycle
import Encapsule.Foundation.SlotArray
import Encapsule.Injectee.UdpAssociation

/-!
# The life of a UDP association

Three things happen to the rows of `udp_association_table`: the association in a row is rewritten
without its terms, a used row is closed, and an unused row is filled under the next generation.
What each of them means for one reference (`ages_setState`, `ages_closeRow`, `ages_fillRow`) and for
the table as a whole (`inv_setState`, `inv_closeRow`, `inv_fillRow`) gives the lifecycle of every
association ever opened: it is handed back for closing at most once, and a reference to it works
until then and never again.
-/

namespace Encapsule

open Lifecycle

/-- What an association was opened with. -/
def UdpAssociation.terms (a : UdpAssociation) : Uintptr × Uintptr × UdpEndpoint :=
  (a.control, a.relay, a.bound)

namespace UdpAssociationTable

/-- An association handed back for closing, under the reference it had. -/
abbrev Ended := UdpAssociationRef × UdpAssociation

/-- The terms under which the association of a reference was handed back, once for each time. -/
def endings (r : UdpAssociationRef) (ended : List Ended) : List (Uintptr × Uintptr × UdpEndpoint) :=
  ended.filterMap fun e => if e.1 = r then some e.2.terms else none

/-- The association that the reaper hands back at a row. -/
def reaped (tick : ℕ) (t : UdpAssociationTable) (i : Fin udpAssociationMax) : List Ended :=
  if t.idle tick i then [(t.refOf i, (t.rows i).state)] else []

/-- The associations that an operation hands back. -/
def handedBack (t : UdpAssociationTable) : UdpAssociationOp → List Ended
  | .release ref tick => (t.release ref tick).2.toList.map fun a => (ref, a)
  | .reapIdle tick =>
    Mealy.collect (reapRow tick) (reaped tick) t (List.finRange udpAssociationMax)
  | _ => []

/-- The reference to the association that an operation creates. -/
def created (t : UdpAssociationTable) : UdpAssociationOp → List UdpAssociationRef
  | .open control relay bound tick =>
    let (t', ref) := t.open control relay bound tick
    if t.get ref = none ∧ t'.get ref ≠ none then [ref] else []
  | _ => []

/-- The association of the reference is there, with the terms `w`. -/
def Live (r : UdpAssociationRef) (w : Uintptr × Uintptr × UdpEndpoint) (t : UdpAssociationTable) :
    Prop :=
  ∃ i, (t.rows i).used = true ∧ t.refOf i = r ∧ (t.rows i).state.terms = w

/-- The association of the reference is gone, and its generation is not to come. -/
def Dead (r : UdpAssociationRef) (t : UdpAssociationTable) : Prop :=
  (∀ i, (t.rows i).used = true → t.refOf i ≠ r) ∧
    ∀ i : Fin udpAssociationMax, (i : ℕ) = r.slot → r.generation ≤ (t.rows i).generation

variable {t : UdpAssociationTable} {i j : Fin udpAssociationMax} {r : UdpAssociationRef}
  {w : Uintptr × Uintptr × UdpEndpoint} {state : UdpAssociation}

/-! ## Rows and references -/

@[simp] lemma rows_setRow_self (row : UdpAssociationRow) : (t.setRow i row).rows i = row :=
  Function.update_self ..

lemma rows_setRow_of_ne (row : UdpAssociationRow) (h : j ≠ i) :
    (t.setRow i row).rows j = t.rows j :=
  Function.update_of_ne h ..

lemma refOf_injective (h : t.refOf i = t.refOf j) : i = j :=
  Fin.ext (congrArg UdpAssociationRef.slot h)

/-- A reference leads to the used row that has it. -/
lemma rowOf_eq_some : t.rowOf r = some i ↔ (t.rows i).used = true ∧ t.refOf i = r := by
  constructor
  · intro h
    unfold rowOf at h
    dsimp only at h
    split_ifs at h with hslot hstale
    obtain rfl := Option.some.inj h
    rw [not_or, Bool.not_eq_true', Bool.not_eq_false, not_not] at hstale
    refine ⟨hstale.1, ?_⟩
    obtain ⟨slot, generation⟩ := r
    simp only [refOf, hstale.2]
  · rintro ⟨hused, rfl⟩
    have hi : (i : ℕ) < 32 := i.isLt
    have hslot : (i : ℕ) ≠ udpNoRow ∧ (i : ℕ) < udpAssociationMax := by
      refine ⟨?_, i.isLt⟩
      unfold udpNoRow
      omega
    simp [rowOf, refOf, hslot, hused]

/-- A reference leads nowhere when no used row has it. -/
lemma rowOf_eq_none : t.rowOf r = none ↔ ∀ i, (t.rows i).used = true → t.refOf i ≠ r := by
  rw [Option.eq_none_iff_forall_ne_some]
  simp only [ne_eq, rowOf_eq_some, not_and]

/-- A live association is what its reference gets. -/
lemma live_iff : Live r w t ↔ (t.get r).map UdpAssociation.terms = some w := by
  simp only [Live, get, Option.map_map, Option.map_eq_some_iff, rowOf_eq_some, Function.comp]
  constructor
  · rintro ⟨i, hused, href, hterms⟩
    exact ⟨i, ⟨hused, href⟩, hterms⟩
  · rintro ⟨i, ⟨hused, href⟩, hterms⟩
    exact ⟨i, hused, href, hterms⟩

/-- A dead association is what its reference does not get. -/
lemma Dead.get_eq_none (h : Dead r t) : t.get r = none := by
  rw [get, rowOf_eq_none.mpr h.1, Option.map_none]

/-- The row that `open` fills for a new control socket. -/
def openedRow (t : UdpAssociationTable) (i : Fin udpAssociationMax) (control relay : Uintptr)
    (bound : UdpEndpoint) (tick : ℕ) : UdpAssociationRow :=
  { state := { control, relay, bound, lastUse := tick }
    used := true
    generation := (t.rows i).generation + 1 }

/-- `open` finds the association of a control socket, or fills an unused row, or has none left. -/
lemma open_cases (t : UdpAssociationTable) (control relay : Uintptr) (bound : UdpEndpoint)
    (tick : ℕ) :
    (∃ i, (t.rows i).used = true ∧ (t.rows i).state.control = control ∧
        t.open control relay bound tick =
          (t.setState i { (t.rows i).state with lastUse := tick }, t.refOf i)) ∨
      (∃ i, (t.rows i).used = false ∧ t.findControl control = none ∧
        t.open control relay bound tick =
          ({ t.setRow i (t.openedRow i control relay bound tick) with live := t.live + 1 },
            ⟨i, (t.rows i).generation + 1⟩)) ∨
      t.findControl control = none ∧ t.open control relay bound tick = (t, {}) := by
  cases hfound : t.findControl control with
  | some i =>
    left
    have hmatch : (t.rows i).used = true ∧ (t.rows i).state.control = control := by
      simpa using List.find?_some hfound
    exact ⟨i, hmatch.1, hmatch.2, by simp only [UdpAssociationTable.open, hfound]⟩
  | none =>
    right
    cases hunused : t.findUnused with
    | some i =>
      left
      have hfree : (t.rows i).used = false := by simpa using List.find?_some hunused
      exact ⟨i, hfree, rfl, by simp only [UdpAssociationTable.open, hfound, hunused, openedRow]⟩
    | none =>
      right
      exact ⟨rfl, by simp only [UdpAssociationTable.open, hfound, hunused]⟩

/-! ## What happens to a reference -/

/-- What a release does: nothing, or it rewrites an association without its terms, and closes its
row when nobody holds it any longer. -/
lemma release_cases (t : UdpAssociationTable) (ref : UdpAssociationRef) (tick : ℕ) :
    t.release ref tick = (t, none) ∨
      ∃ i state, (t.rows i).used = true ∧ t.refOf i = ref ∧
        state.terms = (t.rows i).state.terms ∧
        (t.release ref tick = (t.setState i state, none) ∨
          t.release ref tick = ((t.setState i state).closeRow i, some state)) := by
  unfold release
  cases hrow : t.rowOf ref with
  | none => exact Or.inl rfl
  | some i =>
    obtain ⟨hused, href⟩ := rowOf_eq_some.mp hrow
    dsimp only
    generalize hstate : (if 0 < (t.rows i).state.refcount then
      { (t.rows i).state with refcount := (t.rows i).state.refcount - 1 }
      else (t.rows i).state : UdpAssociation) = state
    have hterms : state.terms = (t.rows i).state.terms := by
      rw [← hstate]
      split_ifs <;> rfl
    right
    split_ifs with hheld
    · exact ⟨i, { state with lastUse := tick }, hused, href, hterms, Or.inl rfl⟩
    · exact ⟨i, state, hused, href, hterms, Or.inr rfl⟩

/-- Rewriting an association without its terms is nothing in its life, nor in another's. -/
lemma ages_setState (hterms : state.terms = (t.rows i).state.terms) :
    Ages (Live r w) (Dead r) w t (t.setState i state) [] := by
  have hused (j) : ((t.setState i state).rows j).used = (t.rows j).used := by
    by_cases hj : j = i
    · subst hj
      simp [setState]
    · rw [setState, rows_setRow_of_ne _ hj]
  have hgeneration (j) : ((t.setState i state).rows j).generation = (t.rows j).generation := by
    by_cases hj : j = i
    · subst hj
      simp [setState]
    · rw [setState, rows_setRow_of_ne _ hj]
  have href (j) : (t.setState i state).refOf j = t.refOf j := by
    simp only [refOf, hgeneration]
  refine Ages.of_kept ?_ ?_
  · rintro ⟨j, hj, hjr, hjw⟩
    refine ⟨j, (hused j).trans hj, (href j).trans hjr, ?_⟩
    by_cases hji : j = i
    · subst hji
      simpa [setState, hterms] using hjw
    · rwa [setState, rows_setRow_of_ne _ hji]
  · rintro ⟨hnone, hgen⟩
    refine ⟨fun j hj => ?_, fun j hj => ?_⟩
    · rw [href]
      exact hnone j ((hused j).symm.trans hj)
    · rw [hgeneration]
      exact hgen j hj

/-- Closing a row ends the association in it, and no other. -/
lemma ages_closeRow (hused : (t.rows i).used = true) :
    Ages (Live r w) (Dead r) w t (t.closeRow i)
      (endings r [(t.refOf i, (t.rows i).state)]) := by
  have hclosed : ((t.closeRow i).rows i).used = false := by simp [closeRow]
  have hrow {j} (hj : j ≠ i) : (t.closeRow i).rows j = t.rows j := rows_setRow_of_ne _ hj
  have hgeneration (j) : ((t.closeRow i).rows j).generation = (t.rows j).generation := by
    by_cases hj : j = i
    · subst hj
      simp [closeRow]
    · rw [hrow hj]
  have href (j) : (t.closeRow i).refOf j = t.refOf j := by
    simp only [refOf, hgeneration]
  refine ⟨?_, ?_⟩
  · rintro ⟨j, hj, hjr, hjw⟩
    by_cases hji : j = i
    · subst hji
      refine Or.inr ⟨⟨fun k hk hkr => ?_, fun k hk => ?_⟩, by simp [endings, hjr, hjw]⟩
      · rw [href, ← hjr] at hkr
        obtain rfl := refOf_injective hkr
        rw [hclosed] at hk
        cases hk
      · obtain rfl : k = j := Fin.ext (hk.trans (congrArg UdpAssociationRef.slot hjr).symm)
        rw [hgeneration, ← hjr]
        exact le_rfl
    · have hne : t.refOf i ≠ r := fun h => hji (refOf_injective (hjr.trans h.symm))
      refine Or.inl ⟨⟨j, ?_, (href j).trans hjr, ?_⟩, by simp [endings, hne]⟩
      · rwa [hrow hji]
      · rwa [hrow hji]
  · rintro ⟨hnone, hgen⟩
    have hne : t.refOf i ≠ r := hnone i hused
    refine ⟨⟨fun k hk => ?_, fun k hk => ?_⟩, by simp [endings, hne]⟩
    · have hki : k ≠ i := by
        rintro rfl
        rw [hclosed] at hk
        cases hk
      rw [href]
      rw [hrow hki] at hk
      exact hnone k hk
    · rw [hgeneration]
      exact hgen k hk

/-- Filling an unused row under the next generation revives nothing. -/
lemma ages_fillRow {row : UdpAssociationRow} {live : ℕ} (hunused : (t.rows i).used = false)
    (hgeneration : row.generation = (t.rows i).generation + 1) :
    Ages (Live r w) (Dead r) w t { t.setRow i row with live } [] := by
  have hself : (t.setRow i row).rows i = row := rows_setRow_self row
  have hrow {j} (hj : j ≠ i) : (t.setRow i row).rows j = t.rows j := rows_setRow_of_ne _ hj
  refine Ages.of_kept ?_ ?_
  · rintro ⟨j, hj, hjr, hjw⟩
    have hji : j ≠ i := by
      rintro rfl
      rw [hunused] at hj
      cases hj
    refine ⟨j, ?_, ?_, ?_⟩
    · change ((t.setRow i row).rows j).used = true
      rwa [hrow hji]
    · change UdpAssociationRef.mk j ((t.setRow i row).rows j).generation = r
      rw [hrow hji]
      exact hjr
    · change ((t.setRow i row).rows j).state.terms = w
      rwa [hrow hji]
  · rintro ⟨hnone, hgen⟩
    refine ⟨fun k hk hkr => ?_, fun k hk => ?_⟩
    · have hkr' : UdpAssociationRef.mk k ((t.setRow i row).rows k).generation = r := hkr
      by_cases hki : k = i
      · subst hki
        rw [hself, hgeneration] at hkr'
        have hle := hgen k (congrArg UdpAssociationRef.slot hkr')
        rw [← hkr'] at hle
        simp only at hle
        omega
      · have hk' : ((t.setRow i row).rows k).used = true := hk
        rw [hrow hki] at hk' hkr'
        exact hnone k hk' hkr'
    · change r.generation ≤ ((t.setRow i row).rows k).generation
      by_cases hki : k = i
      · subst hki
        rw [hself, hgeneration]
        exact (hgen k hk).trans (Nat.le_succ _)
      · rw [hrow hki]
        exact hgen k hk

/-- What is idle is in use. -/
lemma used_of_idle {tick : ℕ} (h : t.idle tick i = true) : (t.rows i).used = true := by
  unfold idle at h
  simp only [Bool.and_eq_true] at h
  exact h.1.1.1

/-- One row of the reaper's scan. -/
lemma ages_reapRow (tick : ℕ) (t : UdpAssociationTable) (i : Fin udpAssociationMax) :
    Ages (Live r w) (Dead r) w t (reapRow tick t i).1 (endings r (reaped tick t i)) := by
  unfold reapRow reaped
  by_cases hidle : t.idle tick i = true
  · rw [if_pos hidle, if_pos hidle]
    exact ages_closeRow (used_of_idle hidle)
  · rw [if_neg hidle, if_neg hidle]
    exact Ages.of_kept id id

/-- What one operation means for a reference. -/
lemma ages_step (t : UdpAssociationTable) (op : UdpAssociationOp) :
    Ages (Live r w) (Dead r) w t (t.step op).1 (endings r (t.handedBack op)) := by
  cases op with
  | «open» control relay bound tick =>
    change Ages _ _ _ t (t.open control relay bound tick).1 []
    rcases open_cases t control relay bound tick with ⟨i, -, -, h⟩ | ⟨i, hunused, -, h⟩ | ⟨-, h⟩
    · rw [h]
      exact ages_setState rfl
    · rw [h]
      exact ages_fillRow hunused rfl
    · rw [h]
      exact Ages.of_kept id id
  | get ref => exact Ages.of_kept id id
  | touch ref tick =>
    change Ages _ _ _ t (t.touch ref tick) []
    unfold touch
    split
    · exact Ages.of_kept id id
    · exact ages_setState rfl
  | acquire ref =>
    change Ages _ _ _ t (t.acquire ref).1 []
    unfold acquire
    split
    · exact Ages.of_kept id id
    · exact ages_setState rfl
  | release ref tick =>
    change Ages _ _ _ t (t.release ref tick).1
      (endings r ((t.release ref tick).2.toList.map fun a => (ref, a)))
    rcases release_cases t ref tick with h | ⟨i, state, hused, href, hterms, h | h⟩
    · rw [h]
      exact Ages.of_kept id id
    · rw [h]
      exact ages_setState hterms
    · have hset : ((t.setState i state).rows i).used = true := by simpa [setState] using hused
      have hclose := ages_closeRow (r := r) (w := w) hset
      have href' : (t.setState i state).refOf i = ref := by
        rw [← href]
        simp [refOf, setState]
      have hsame : ((t.setState i state).rows i).state = state := by simp [setState]
      rw [href', hsame] at hclose
      rw [h]
      exact (ages_setState hterms).trans hclose
  | reapIdle tick =>
    have hscan := Ages.run (fun t i => ages_reapRow (r := r) (w := w) tick t i) t
      (List.finRange udpAssociationMax)
    have hends : endings r (t.handedBack (.reapIdle tick)) =
        Mealy.collect (reapRow tick) (fun t i => endings r (reaped tick t i)) t
          (List.finRange udpAssociationMax) := Mealy.filterMap_collect ..
    rw [hends]
    simp only [step, reapIdle]
    exact hscan

/-! ## What happens to the table -/

/-- The invariant of the table: no two used rows have one control socket, and `live` counts the used
rows. -/
structure Inv (t : UdpAssociationTable) : Prop where
  controls : ∀ i j, (t.rows i).used = true → (t.rows j).used = true →
    (t.rows i).state.control = (t.rows j).state.control → i = j
  count : t.live = ∑ i, if (t.rows i).used then 1 else 0

/-- The used rows after a row was rewritten. -/
lemma count_setRow (row : UdpAssociationRow) :
    (∑ j, if ((t.setRow i row).rows j).used then 1 else 0) + (if (t.rows i).used then 1 else 0) =
      (∑ j, if (t.rows j).used then 1 else 0) + if row.used then 1 else 0 :=
  SlotArray.sum_update (fun row : UdpAssociationRow => if row.used then 1 else 0) t.rows i row

/-- Rewriting an association without its control socket keeps the invariant. -/
lemma inv_setState (hinv : t.Inv) (hcontrol : state.control = (t.rows i).state.control) :
    (t.setState i state).Inv := by
  have hrow (j) : ((t.setState i state).rows j).used = (t.rows j).used ∧
      ((t.setState i state).rows j).state.control = (t.rows j).state.control := by
    by_cases hj : j = i
    · subst hj
      simp [setState, hcontrol]
    · rw [setState, rows_setRow_of_ne _ hj]
      exact ⟨rfl, rfl⟩
  refine ⟨fun j k hj hk hjk => ?_, ?_⟩
  · rw [(hrow j).1] at hj
    rw [(hrow k).1] at hk
    rw [(hrow j).2, (hrow k).2] at hjk
    exact hinv.controls j k hj hk hjk
  · simp only [fun j => (hrow j).1]
    exact hinv.count

/-- Closing a row keeps the invariant and takes one association away. -/
lemma inv_closeRow (hinv : t.Inv) (hused : (t.rows i).used = true) :
    (t.closeRow i).Inv ∧ (t.closeRow i).live + 1 = t.live := by
  have hcount := count_setRow (t := t) (i := i) { t.rows i with state := {}, used := false }
  rw [hused, if_pos rfl, if_neg (by simp), ← hinv.count] at hcount
  have hlive : (t.closeRow i).live = t.live - 1 := rfl
  refine ⟨⟨fun j k hj hk hjk => ?_, ?_⟩, by omega⟩
  · have hkept {j} (hj : ((t.closeRow i).rows j).used = true) :
        (t.closeRow i).rows j = t.rows j := by
      refine rows_setRow_of_ne _ fun hji => ?_
      subst hji
      simp [closeRow] at hj
    have hj' := hkept hj
    have hk' := hkept hk
    rw [hj'] at hj hjk
    rw [hk'] at hk hjk
    exact hinv.controls j k hj hk hjk
  · rw [hlive]
    change _ = ∑ j, if ((t.setRow i _).rows j).used then 1 else 0
    omega

/-- Filling an unused row for a new control socket keeps the invariant and adds one association. -/
lemma inv_fillRow {row : UdpAssociationRow} (hinv : t.Inv) (hunused : (t.rows i).used = false)
    (hused : row.used = true) (hnew : t.findControl row.state.control = none) :
    Inv { t.setRow i row with live := t.live + 1 } := by
  have hcount := count_setRow (t := t) (i := i) row
  rw [hunused, hused, if_pos rfl, if_neg (by simp), ← hinv.count] at hcount
  have hfresh (j) (hj : (t.rows j).used = true) :
      (t.rows j).state.control ≠ row.state.control := by
    have hnone := List.find?_eq_none.mp hnew j (List.mem_finRange j)
    simpa [hj] using hnone
  refine ⟨fun j k hj hk hjk => ?_, ?_⟩
  · change ((t.setRow i row).rows j).used = true at hj
    change ((t.setRow i row).rows k).used = true at hk
    change ((t.setRow i row).rows j).state.control = ((t.setRow i row).rows k).state.control at hjk
    by_cases hji : j = i <;> by_cases hki : k = i
    · rw [hji, hki]
    · subst hji
      rw [rows_setRow_self, rows_setRow_of_ne _ hki] at hjk
      rw [rows_setRow_of_ne _ hki] at hk
      exact absurd hjk.symm (hfresh k hk)
    · subst hki
      rw [rows_setRow_self, rows_setRow_of_ne _ hji] at hjk
      rw [rows_setRow_of_ne _ hji] at hj
      exact absurd hjk (hfresh j hj)
    · rw [rows_setRow_of_ne _ hji] at hj hjk
      rw [rows_setRow_of_ne _ hki] at hk hjk
      exact hinv.controls j k hj hk hjk
  · change t.live + 1 = ∑ j, if ((t.setRow i row).rows j).used then 1 else 0
    omega

/-- The table is in order after a transition that handed back `n` associations and created `m`. -/
def Counts (t t' : UdpAssociationTable) (n m : ℕ) : Prop :=
  t'.Inv ∧ t'.live + n = t.live + m

/-- A first sight of a control socket creates an association, unless the table is full. -/
lemma counts_open (hinv : t.Inv) (control relay : Uintptr) (bound : UdpEndpoint) (tick : ℕ) :
    Counts t (t.open control relay bound tick).1 0
      (t.created (.open control relay bound tick)).length := by
  unfold created
  dsimp only
  rcases open_cases t control relay bound tick with ⟨i, hused, -, h⟩ | ⟨i, hunused, hnew, h⟩ |
    ⟨-, h⟩
  · have hlive : t.get (t.refOf i) ≠ none := by
      rw [get, rowOf_eq_some.mpr ⟨hused, rfl⟩]
      simp
    rw [h, if_neg fun h => hlive h.1]
    exact ⟨inv_setState hinv rfl, rfl⟩
  · have hbefore : t.get ⟨i, (t.rows i).generation + 1⟩ = none := by
      rw [get, rowOf_eq_none.mpr fun j hj hji => ?_, Option.map_none]
      obtain rfl : j = i := Fin.ext (congrArg UdpAssociationRef.slot hji)
      rw [hunused] at hj
      cases hj
    have hafter : get { t.setRow i (t.openedRow i control relay bound tick) with
        live := t.live + 1 } ⟨i, (t.rows i).generation + 1⟩ ≠ none := by
      have hrow : rowOf { t.setRow i (t.openedRow i control relay bound tick) with
          live := t.live + 1 } ⟨i, (t.rows i).generation + 1⟩ = some i := by
        rw [rowOf_eq_some]
        simp [refOf, setRow, openedRow]
      rw [get, hrow]
      simp
    rw [h, if_pos ⟨hbefore, hafter⟩]
    exact ⟨inv_fillRow hinv hunused rfl hnew, rfl⟩
  · have hnone : t.get {} = none := by simp [get, rowOf]
    rw [h, if_neg fun h => h.2 hnone]
    exact ⟨hinv, rfl⟩

/-- One row of the reaper's scan hands back what it closes. -/
lemma counts_reapRow (hinv : t.Inv) (tick : ℕ) (i : Fin udpAssociationMax) :
    Counts t (reapRow tick t i).1 (reaped tick t i).length 0 := by
  unfold reapRow reaped
  by_cases hidle : t.idle tick i = true
  · rw [if_pos hidle, if_pos hidle]
    exact inv_closeRow hinv (used_of_idle hidle)
  · rw [if_neg hidle, if_neg hidle]
    exact ⟨hinv, rfl⟩

/-- What one operation means for the table. -/
lemma counts_step (hinv : t.Inv) (op : UdpAssociationOp) :
    Counts t (t.step op).1 (t.handedBack op).length (t.created op).length := by
  cases op with
  | «open» control relay bound tick => exact counts_open hinv control relay bound tick
  | get ref => exact ⟨hinv, rfl⟩
  | touch ref tick =>
    change Counts t (t.touch ref tick) 0 0
    unfold touch
    split
    · exact ⟨hinv, rfl⟩
    · exact ⟨inv_setState hinv rfl, rfl⟩
  | acquire ref =>
    change Counts t (t.acquire ref).1 0 0
    unfold acquire
    split
    · exact ⟨hinv, rfl⟩
    · exact ⟨inv_setState hinv rfl, rfl⟩
  | release ref tick =>
    change Counts t (t.release ref tick).1
      ((t.release ref tick).2.toList.map fun a => (ref, a)).length 0
    rcases release_cases t ref tick with h | ⟨i, state, hused, -, hterms, h | h⟩
    · rw [h]
      exact ⟨hinv, rfl⟩
    · rw [h]
      exact ⟨inv_setState hinv (congrArg Prod.fst hterms), rfl⟩
    · have hset : ((t.setState i state).rows i).used = true := by simpa [setState] using hused
      rw [h]
      exact inv_closeRow (inv_setState hinv (congrArg Prod.fst hterms)) hset
  | reapIdle tick =>
    have hkept (t : UdpAssociationTable) (i : Fin udpAssociationMax) (hinv : t.Inv) :
        (reapRow tick t i).1.Inv := (counts_reapRow hinv tick i).1
    let nothing (_ : UdpAssociationTable) (_ : Fin udpAssociationMax) : List Ended := []
    have hbalance (t : UdpAssociationTable) (i : Fin udpAssociationMax) (hinv : t.Inv) :
        (reapRow tick t i).1.live + (reaped tick t i).length =
          t.live + (nothing t i).length :=
      (counts_reapRow hinv tick i).2
    have hscan := Mealy.balance hkept hbalance hinv (List.finRange udpAssociationMax)
    rw [Mealy.collect_eq_nil (fun _ _ => rfl)] at hscan
    simp only [step, reapIdle, handedBack, created]
    exact ⟨Mealy.run_invariant hkept hinv _, hscan⟩

/-! ## Whole runs -/

/-- The empty table is in order. -/
lemma inv_empty : Inv {} := by
  refine ⟨fun i j hi => ?_, by simp⟩
  cases hi

/-- Every reachable table is in order. -/
lemma inv_run (ops : List UdpAssociationOp) : (Mealy.run step {} ops).Inv :=
  Mealy.run_invariant (P := Inv) (fun _ op hinv => (counts_step hinv op).1) inv_empty ops

/-- No more associations are live than there are rows. -/
lemma Inv.live_le (hinv : t.Inv) : t.live ≤ udpAssociationMax := by
  rw [hinv.count, Finset.sum_boole, Nat.cast_id]
  calc (Finset.univ.filter fun i => (t.rows i).used = true).card
      ≤ (Finset.univ : Finset (Fin udpAssociationMax)).card := Finset.card_filter_le ..
    _ = udpAssociationMax := by rw [Finset.card_univ, Fintype.card_fin]

/-- What `get` finds is the association in the used row of the reference. -/
lemma get_eq_some {a : UdpAssociation} (h : t.get r = some a) :
    ∃ i, (t.rows i).used = true ∧ t.refOf i = r ∧ (t.rows i).state = a := by
  obtain ⟨i, hrow, hstate⟩ := Option.map_eq_some_iff.mp h
  obtain ⟨hused, href⟩ := rowOf_eq_some.mp hrow
  exact ⟨i, hused, href, hstate⟩

/-- There is one live association for each control socket. -/
lemma Inv.ref_eq (hinv : t.Inv) {r' : UdpAssociationRef} {a a' : UdpAssociation}
    (h : t.get r = some a) (h' : t.get r' = some a') (hcontrol : a.control = a'.control) :
    r = r' := by
  obtain ⟨i, hused, rfl, rfl⟩ := get_eq_some h
  obtain ⟨j, hused', rfl, rfl⟩ := get_eq_some h'
  rw [hinv.controls i j hused hused' hcontrol]

/-- `open` on the control socket of a live association returns that association. -/
lemma Inv.open_eq (hinv : t.Inv) {a : UdpAssociation} (h : t.get r = some a) (relay : Uintptr)
    (bound : UdpEndpoint) (tick : ℕ) : (t.open a.control relay bound tick).2 = r := by
  obtain ⟨i, hused, rfl, rfl⟩ := get_eq_some h
  have hnotNone : t.findControl (t.rows i).state.control ≠ none := by
    intro hnone
    have hi := List.find?_eq_none.mp hnone i (List.mem_finRange i)
    simp [hused] at hi
  rcases open_cases t (t.rows i).state.control relay bound tick with
    ⟨j, hj, hcontrol, hopen⟩ | ⟨_, _, hnone, _⟩ | ⟨hnone, _⟩
  · rw [hopen, hinv.controls j i hj hused hcontrol]
  · exact absurd hnone hnotNone
  · exact absurd hnone hnotNone

/-- A created association is in the row that was filled for it. -/
lemma exists_openedRow {control relay : Uintptr} {bound : UdpEndpoint} {tick : ℕ}
    (h : r ∈ t.created (.open control relay bound tick)) :
    ∃ i, (t.open control relay bound tick).1.rows i = t.openedRow i control relay bound tick ∧
      (t.open control relay bound tick).1.refOf i = r := by
  unfold created at h
  dsimp only at h
  split_ifs at h with hnew
  · obtain rfl := List.mem_singleton.mp h
    rcases open_cases t control relay bound tick with ⟨i, hused, -, hopen⟩ |
      ⟨i, -, -, hopen⟩ | ⟨-, hopen⟩
    · have hlive : t.get (t.refOf i) ≠ none := by
        rw [get, rowOf_eq_some.mpr ⟨hused, rfl⟩]
        exact Option.some_ne_none _
      rw [hopen] at hnew
      exact absurd hnew.1 hlive
    · rw [hopen]
      have hself := rows_setRow_self (t := t) (i := i) (t.openedRow i control relay bound tick)
      exact ⟨i, hself,
        congrArg (fun row : UdpAssociationRow => UdpAssociationRef.mk i row.generation) hself⟩
    · have hnone : (t.open control relay bound tick).1.get
          (t.open control relay bound tick).2 = none := by
        rw [hopen]
        rfl
      exact absurd hnone hnew.2
  · cases h

/-- A created association is live, with the terms it was opened with. -/
lemma live_of_created {control relay : Uintptr} {bound : UdpEndpoint} {tick : ℕ}
    (h : r ∈ t.created (.open control relay bound tick)) :
    Live r (control, relay, bound) (t.open control relay bound tick).1 := by
  obtain ⟨i, hrow, href⟩ := exists_openedRow h
  refine ⟨i, ?_, href, ?_⟩
  · rw [hrow]
    rfl
  · rw [hrow]
    rfl

/-- A reference that gets nothing can do nothing. -/
lemma noop_of_get_eq_none (h : t.get r = none) (tick : ℕ) :
    t.acquire r = (t, false) ∧ t.touch r tick = t ∧ t.release r tick = (t, none) := by
  have hrow : t.rowOf r = none := Option.map_eq_none_iff.mp h
  refine ⟨?_, ?_, ?_⟩
  · rw [acquire, hrow]
  · rw [touch, hrow]
  · rw [release, hrow]

/-- The records of what is handed back are the answer of `release`, or of `reap_idle`. -/
lemma died_eq_handedBack (t : UdpAssociationTable) (ref : UdpAssociationRef) (tick : ℕ) :
    (t.step (.release ref tick)).2 = .died ((t.handedBack (.release ref tick)).map Prod.snd) ∧
      (t.step (.reapIdle tick)).2 = .died ((t.handedBack (.reapIdle tick)).map Prod.snd) := by
  refine ⟨?_, ?_⟩
  · simp only [step, handedBack, List.map_map, Function.comp_def, List.map_id']
  · have hrow (t : UdpAssociationTable) (i : Fin udpAssociationMax) :
        (reapRow tick t i).2.toList = (reaped tick t i).filterMap (some ∘ Prod.snd) := by
      unfold reapRow reaped
      split_ifs <;> rfl
    have hrecords : (t.reapIdle tick).2 = (t.handedBack (.reapIdle tick)).map Prod.snd := by
      rw [← List.filterMap_eq_map]
      simp only [reapIdle, handedBack]
      rw [Mealy.filterMap_log, Mealy.filterMap_collect]
      simp only [hrow]
    simp only [step, hrecords]

/-- The life of an association over the whole run: `pre`, the `open` that creates it, and `post`.
Either it is there with the terms it was opened with, or it was handed back once with these terms
and is gone for good. -/
lemma lifecycle_of_created {control relay : Uintptr} {bound : UdpEndpoint} {tick : ℕ}
    (h : r ∈ t.created (.open control relay bound tick)) (post : List UdpAssociationOp) :
    let opened := (t.open control relay bound tick).1
    let handed := endings r (Mealy.collect step handedBack opened post)
    let now := Mealy.run step opened post
    (now.get r).map UdpAssociation.terms = some (control, relay, bound) ∧ handed = [] ∨
      handed = [(control, relay, bound)] ∧ ∀ later, (Mealy.run step now later).get r = none := by
  intro opened handed now
  have hlife (s : UdpAssociationTable) (ops : List UdpAssociationOp) :
      Ages (Live r (control, relay, bound)) (Dead r) (control, relay, bound) s
        (Mealy.run step s ops) (endings r (Mealy.collect step handedBack s ops)) := by
    have hends : endings r (Mealy.collect step handedBack s ops) =
        Mealy.collect step (fun s op => endings r (s.handedBack op)) s ops :=
      Mealy.filterMap_collect ..
    rw [hends]
    exact Ages.run ages_step s ops
  rcases (hlife opened post).1 (live_of_created h) with ⟨hlive, hnothing⟩ | ⟨hdead, honce⟩
  · exact Or.inl ⟨live_iff.mp hlive, hnothing⟩
  · exact Or.inr ⟨honce, fun later => ((hlife now later).2 hdead).1.get_eq_none⟩

/-- The lifecycle of every association of every run of the table: what is created is there with its
terms until it is handed back with them, which happens at most once and is for good; a reference
that gets nothing does nothing; a control socket has one live association, and `open` finds it; and
the live associations are those created and not handed back. -/
theorem association_lifecycle (pre : List UdpAssociationOp) :
    let t := Mealy.run step {} pre
    (∀ control relay bound tick, ∀ r ∈ t.created (.open control relay bound tick), ∀ post,
      let opened := (t.open control relay bound tick).1
      let handed := endings r (Mealy.collect step handedBack opened post)
      let now := Mealy.run step opened post
      (now.get r).map UdpAssociation.terms = some (control, relay, bound) ∧ handed = [] ∨
        handed = [(control, relay, bound)] ∧
          ∀ later, (Mealy.run step now later).get r = none) ∧
    (∀ r tick, t.get r = none →
      t.acquire r = (t, false) ∧ t.touch r tick = t ∧ t.release r tick = (t, none)) ∧
    (∀ r r' a a', t.get r = some a → t.get r' = some a' → a.control = a'.control → r = r') ∧
    (∀ r a relay bound tick, t.get r = some a → (t.open a.control relay bound tick).2 = r) ∧
    (t.live + (Mealy.collect step handedBack {} pre).length =
        (Mealy.collect step created {} pre).length ∧ t.live ≤ udpAssociationMax) ∧
    ∀ r tick,
      (t.step (.release r tick)).2 = .died ((t.handedBack (.release r tick)).map Prod.snd) ∧
        (t.step (.reapIdle tick)).2 = .died ((t.handedBack (.reapIdle tick)).map Prod.snd) := by
  intro t
  have hinv : t.Inv := inv_run pre
  refine ⟨?_, ?_, ?_, ?_, ⟨?_, hinv.live_le⟩, ?_⟩
  · intro control relay bound tick r hr post
    exact lifecycle_of_created hr post
  · intro r tick hnone
    exact noop_of_get_eq_none hnone tick
  · intro r r' a a' h h' hcontrol
    exact hinv.ref_eq h h' hcontrol
  · intro r a relay bound tick h
    exact hinv.open_eq h relay bound tick
  · have hbalance := Mealy.balance (fun _ op hinv => (counts_step hinv op).1)
      (fun _ op hinv => (counts_step hinv op).2) inv_empty pre
    rwa [Nat.zero_add] at hbalance
  · intro r tick
    exact died_eq_handedBack t r tick

/-- An association that was released stays gone when its slot is filled again. -/
theorem association_lifecycle_recycled :
    let r : UdpAssociationRef := ⟨0, 1⟩
    let post : List UdpAssociationOp := [.release r 1, .open 9 10 {} 2]
    let opened := (UdpAssociationTable.open {} 7 8 {} 0).1
    endings r (Mealy.collect step handedBack opened post) = [(7, 8, {})] ∧
      ∀ later, (Mealy.run step (Mealy.run step opened post) later).get r = none := by
  intro r post opened
  have hcreated : r ∈ created {} (.open 7 8 {} 0) := by decide
  have hended : endings r (Mealy.collect step handedBack opened post) ≠ [] := by decide
  rcases (association_lifecycle []).1 7 8 {} 0 r hcreated post with ⟨-, hnothing⟩ | honce
  · exact absurd hnothing hended
  · exact honce

end UdpAssociationTable

end Encapsule
