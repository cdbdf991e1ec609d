import Mathlib.Data.List.Infix

/-!
# Occurrences in a text

`Occurrences.first` is the place of the leftmost occurrence of a word in a text.  `Occurrences.Cut`
says what the pieces of a text are between the successive leftmost occurrences of a word that do not
overlap.  For a word with letters there is exactly one way to cut a text (`existsUnique_cut`), and
the pieces joined by the word are the text (`Cut.intercalate_eq`).
-/

namespace Occurrences

variable {α : Type*} {what text front rest : List α} {pieces : List (List α)} {i : ℕ}

/-! ## The leftmost occurrence -/

/-- The word occurs behind `front`, and nowhere further left. -/
structure Leftmost (what front text : List α) : Prop where
  occurs : front ++ what <+: text
  least : ∀ front', front' ++ what <+: text → front.length ≤ front'.length

/-- The leftmost occurrence is in one place. -/
lemma Leftmost.unique {front' : List α} (h : Leftmost what front text)
    (h' : Leftmost what front' text) : front = front' := by
  have hlength : front.length = front'.length :=
    Nat.le_antisymm (h.least front' h'.occurs) (h'.least front h.occurs)
  have hfront : front <+: text := (List.prefix_append _ _).trans h.occurs
  have hfront' : front' <+: text := (List.prefix_append _ _).trans h'.occurs
  rw [List.prefix_iff_eq_take.mp hfront, List.prefix_iff_eq_take.mp hfront', hlength]

variable [DecidableEq α]

/-- The place of the leftmost occurrence. -/
def first (what : List α) : List α → Option ℕ
  | [] => if what = [] then some 0 else none
  | c :: text => if what <+: c :: text then some 0 else (first what text).map (· + 1)

/-- A word that does not occur. -/
lemma first_eq_none : first what text = none ↔ ¬what <:+: text := by
  induction text with
  | nil => simp [first]
  | cons c text ih =>
    rw [first, List.infix_cons_iff]
    split_ifs with hinit
    · simp [hinit]
    · simp [hinit, ih]

/-- The place that is found is that of the leftmost occurrence. -/
lemma exists_leftmost (h : first what text = some i) :
    ∃ front, Leftmost what front text ∧ front.length = i := by
  induction text generalizing i with
  | nil =>
    unfold first at h
    split_ifs at h with hnil
    cases h
    exact ⟨[], ⟨by simp [hnil], fun _ _ => Nat.zero_le _⟩, rfl⟩
  | cons c text ih =>
    unfold first at h
    split_ifs at h with hinit
    · cases h
      exact ⟨[], ⟨hinit, fun _ _ => Nat.zero_le _⟩, rfl⟩
    · obtain ⟨j, hj, rfl⟩ := Option.map_eq_some_iff.mp h
      obtain ⟨front, hfront, rfl⟩ := ih hj
      refine ⟨c :: front, ⟨?_, fun front' hoccurs => ?_⟩, rfl⟩
      · exact List.cons_prefix_cons.mpr ⟨rfl, hfront.occurs⟩
      · cases front' with
        | nil => exact absurd hoccurs hinit
        | cons d front' =>
          have hrest := hfront.least front' (List.cons_prefix_cons.mp hoccurs).2
          exact Nat.succ_le_succ hrest

/-- The leftmost occurrence is found. -/
lemma Leftmost.first_eq (h : Leftmost what front text) : first what text = some front.length := by
  cases hfirst : first what text with
  | none =>
    obtain ⟨rest, hrest⟩ := h.occurs
    exact absurd ⟨front, rest, hrest⟩ (first_eq_none.mp hfirst)
  | some i =>
    obtain ⟨front', hfront', rfl⟩ := exists_leftmost hfirst
    rw [h.unique hfront']

/-! ## The pieces of a text -/

/-- The pieces of a text between the occurrences of a word. -/
inductive Cut (what : List α) : List α → List (List α) → Prop where
  | last {text : List α} (h : ¬what <:+: text) : Cut what text [text]
  | piece {front rest : List α} {pieces : List (List α)}
    (hfront : Leftmost what front (front ++ what ++ rest)) (h : Cut what rest pieces) :
    Cut what (front ++ what ++ rest) (front :: pieces)

omit [DecidableEq α] in
/-- There is a piece. -/
lemma Cut.ne_nil (h : Cut what text pieces) : pieces ≠ [] := by
  cases h with
  | last => exact List.cons_ne_nil _ _
  | piece => exact List.cons_ne_nil _ _

omit [DecidableEq α] in
/-- The pieces joined by the word are the text. -/
lemma Cut.intercalate_eq (h : Cut what text pieces) : what.intercalate pieces = text := by
  induction h with
  | last => exact List.intercalate_singleton
  | piece hfront h ih => rw [List.intercalate_cons_of_ne_nil h.ne_nil, ih]

/-- A text without the word is one piece. -/
lemma Cut.of_none (h : Cut what text pieces) (hfirst : first what text = none) :
    pieces = [text] := by
  cases h with
  | last => rfl
  | piece hfront =>
    rw [hfront.first_eq] at hfirst
    cases hfirst

omit [DecidableEq α] in
/-- The first piece is what is in front of the leftmost occurrence. -/
lemma Cut.of_leftmost (h : Cut what text pieces) (hfront : Leftmost what front text)
    (htext : text = front ++ what ++ rest) :
    ∃ tail, pieces = front :: tail ∧ Cut what rest tail := by
  cases h with
  | last hnone => exact absurd ⟨front, rest, htext.symm⟩ hnone
  | @piece front' rest' tail hfront' h =>
    obtain rfl := hfront.unique hfront'
    obtain rfl := List.append_cancel_left htext
    exact ⟨tail, rfl, h⟩

/-- A text can be cut at a word with letters. -/
lemma exists_cut (hwhat : what ≠ []) (text : List α) : ∃ pieces, Cut what text pieces := by
  induction hn : text.length using Nat.strong_induction_on generalizing text with
  | h n ih =>
    cases hfirst : first what text with
    | none => exact ⟨[text], .last (first_eq_none.mp hfirst)⟩
    | some i =>
      obtain ⟨front, hfront, -⟩ := exists_leftmost hfirst
      obtain ⟨rest, rfl⟩ := hfront.occurs
      have hpos := List.length_pos_iff.mpr hwhat
      have hlt : rest.length < n := by
        rw [← hn, List.length_append, List.length_append]
        omega
      obtain ⟨pieces, hpieces⟩ := ih rest.length hlt rest rfl
      exact ⟨front :: pieces, .piece hfront hpieces⟩

/-- There is one way to cut a text. -/
lemma Cut.unique {pieces' : List (List α)} (h : Cut what text pieces)
    (h' : Cut what text pieces') : pieces = pieces' := by
  induction h generalizing pieces' with
  | last hnone => exact (h'.of_none (first_eq_none.mpr hnone)).symm
  | piece hfront h ih =>
    obtain ⟨tail, rfl, htail⟩ := h'.of_leftmost hfront rfl
    rw [ih htail]

/-- A word with letters cuts a text into pieces. -/
theorem existsUnique_cut (hwhat : what ≠ []) (text : List α) : ∃! pieces, Cut what text pieces := by
  obtain ⟨pieces, hpieces⟩ := exists_cut hwhat text
  exact ⟨pieces, hpieces, fun _ h => h.unique hpieces⟩

/-! ## Words of one letter -/

omit [DecidableEq α] in
/-- The letter does not occur in front of its leftmost occurrence. -/
lemma Leftmost.not_mem {a : α} (h : Leftmost [a] front text) : a ∉ front := by
  intro hmem
  obtain ⟨left, right, rfl⟩ := List.append_of_mem hmem
  have hoccurs : left ++ [a] <+: text := by
    refine List.IsPrefix.trans ⟨right ++ [a], ?_⟩ h.occurs
    simp
  have hle := h.least left hoccurs
  rw [List.length_append, List.length_cons] at hle
  omega

/-- Replacing a letter that does not occur. -/
lemma map_eq_self_of_not_mem {a b : α} (h : a ∉ text) :
    text.map (fun c => if c = a then b else c) = text := by
  have hmap : text.map (fun c => if c = a then b else c) = text.map id := by
    refine List.map_congr_left fun c hc => if_neg ?_
    rintro rfl
    exact h hc
  rw [hmap, List.map_id]

/-- Joining the pieces between the occurrences of a letter by another letter. -/
lemma Cut.intercalate_letter {a : α} (h : Cut [a] text pieces) (b : α) :
    [b].intercalate pieces = text.map fun c => if c = a then b else c := by
  induction h with
  | last hnone =>
    rw [List.singleton_infix_iff] at hnone
    rw [List.intercalate_singleton, map_eq_self_of_not_mem hnone]
  | piece hfront h ih =>
    rw [List.intercalate_cons_of_ne_nil h.ne_nil, ih, List.map_append, List.map_append,
      map_eq_self_of_not_mem hfront.not_mem, List.map_singleton, if_pos rfl]

end Occurrences
