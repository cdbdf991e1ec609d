import Mathlib.Data.List.Forall2

/-!
# Patterns with runs

A pattern is a list of items: one that stands for any run of letters, or one that accepts a single
letter.  `Wildcards.Matches` is the usual meaning of a pattern.  `Wildcards.Reads` is what a search
finds that never leaves the empty rest of a text to the items behind a run, unless the run is the
last item.

The two differ only for patterns that end with two runs (`reads_iff_matches`), for which the search
leaves the last letter of the text to them (`reads_append_run_run`).
-/

namespace Wildcards

variable {α : Type*}

/-- An item of a pattern. -/
inductive Item (α : Type*) where
  | run
  | one (accepts : α → Bool)

variable {items items' : List (Item α)} {text : List α} {accepts : α → Bool}

/-! ## Matching -/

/-- The pattern stands for the text. -/
inductive Matches : List (Item α) → List α → Prop where
  | nil : Matches [] []
  | run {items : List (Item α)} {text : List α} (skipped : List α) (h : Matches items text) :
    Matches (.run :: items) (skipped ++ text)
  | one {items : List (Item α)} {text : List α} {accepts : α → Bool} {c : α}
    (hc : accepts c = true) (h : Matches items text) : Matches (.one accepts :: items) (c :: text)

/-- A pattern without items stands for the empty text. -/
@[simp] lemma matches_nil : Matches [] text ↔ text = [] := by
  constructor
  · rintro ⟨⟩
    rfl
  · rintro rfl
    exact .nil

/-- A run stands for the front of a text. -/
lemma matches_run :
    Matches (.run :: items) text ↔ ∃ skipped rest, text = skipped ++ rest ∧ Matches items rest := by
  constructor
  · rintro (_ | ⟨skipped, h⟩)
    exact ⟨skipped, _, rfl, h⟩
  · rintro ⟨skipped, rest, rfl, h⟩
    exact .run skipped h

/-- Any other item stands for the first letter of a text. -/
lemma matches_one : Matches (.one accepts :: items) text ↔
    ∃ c rest, text = c :: rest ∧ accepts c = true ∧ Matches items rest := by
  constructor
  · rintro (_ | _ | ⟨hc, h⟩)
    exact ⟨_, _, rfl, hc, h⟩
  · rintro ⟨c, rest, rfl, hc, h⟩
    exact .one hc h

/-- A run stands for any text. -/
lemma matches_run_singleton (text : List α) : Matches [.run] text := by
  have h := Matches.run text .nil
  rwa [List.append_nil] at h

/-- Two parts of a pattern stand for two parts of a text. -/
lemma matches_append : Matches (items ++ items') text ↔
    ∃ front back, text = front ++ back ∧ Matches items front ∧ Matches items' back := by
  induction items generalizing text with
  | nil => simp
  | cons item items ih =>
    cases item with
    | run =>
      rw [List.cons_append, matches_run]
      constructor
      · rintro ⟨skipped, rest, rfl, h⟩
        obtain ⟨front, back, rfl, hfront, hback⟩ := ih.mp h
        exact ⟨skipped ++ front, back, by rw [List.append_assoc], .run skipped hfront, hback⟩
      · rintro ⟨front, back, rfl, hfront, hback⟩
        obtain ⟨skipped, rest, rfl, h⟩ := matches_run.mp hfront
        exact ⟨skipped, rest ++ back, by rw [List.append_assoc],
          ih.mpr ⟨rest, back, rfl, h, hback⟩⟩
    | one accepts =>
      rw [List.cons_append, matches_one]
      constructor
      · rintro ⟨c, rest, rfl, hc, h⟩
        obtain ⟨front, back, rfl, hfront, hback⟩ := ih.mp h
        exact ⟨c :: front, back, rfl, .one hc hfront, hback⟩
      · rintro ⟨front, back, rfl, hfront, hback⟩
        obtain ⟨c, rest, rfl, hc, h⟩ := matches_one.mp hfront
        exact ⟨c, rest ++ back, rfl, hc, ih.mpr ⟨rest, back, rfl, h, hback⟩⟩

/-- Two runs are one. -/
lemma matches_run_run : Matches (.run :: .run :: items) text ↔ Matches (.run :: items) text := by
  constructor
  · intro h
    obtain ⟨skipped, rest, rfl, hrest⟩ := matches_run.mp h
    obtain ⟨skipped', rest, rfl, hlast⟩ := matches_run.mp hrest
    rw [← List.append_assoc]
    exact .run (skipped ++ skipped') hlast
  · exact fun h => .run [] h

/-- Two runs anywhere in a pattern are one. -/
lemma matches_append_run_run (items items' : List (Item α)) (text : List α) :
    Matches (items ++ .run :: .run :: items') text ↔ Matches (items ++ .run :: items') text := by
  simp only [matches_append, matches_run_run]

/-! ## Searching -/

/-- A search finds that the pattern stands for the text. -/
inductive Reads : List (Item α) → List α → Prop where
  | nil : Reads [] []
  | last (text : List α) : Reads [.run] text
  | run {items : List (Item α)} {text : List α} (skipped : List α) (hitems : items ≠ [])
    (htext : text ≠ []) (h : Reads items text) : Reads (.run :: items) (skipped ++ text)
  | one {items : List (Item α)} {text : List α} {accepts : α → Bool} {c : α}
    (hc : accepts c = true) (h : Reads items text) : Reads (.one accepts :: items) (c :: text)

/-- What a search finds is so. -/
lemma Reads.matches (h : Reads items text) : Matches items text := by
  induction h with
  | nil => exact .nil
  | last text => exact matches_run_singleton text
  | run skipped hitems htext h ih => exact .run skipped ih
  | one hc h ih => exact .one hc ih

/-- A pattern without items is found in the empty text. -/
@[simp] lemma reads_nil : Reads [] text ↔ text = [] := by
  constructor
  · rintro ⟨⟩
    rfl
  · rintro rfl
    exact .nil

/-- A run with items behind it. -/
lemma reads_run (hitems : items ≠ []) : Reads (.run :: items) text ↔
    ∃ skipped rest, text = skipped ++ rest ∧ rest ≠ [] ∧ Reads items rest := by
  constructor
  · rintro (_ | _ | ⟨skipped, -, htext, h⟩)
    · exact absurd rfl hitems
    · exact ⟨skipped, _, rfl, htext, h⟩
  · rintro ⟨skipped, rest, rfl, htext, h⟩
    exact .run skipped hitems htext h

/-- Any other item. -/
lemma reads_one : Reads (.one accepts :: items) text ↔
    ∃ c rest, text = c :: rest ∧ accepts c = true ∧ Reads items rest := by
  constructor
  · rintro (_ | _ | _ | ⟨hc, h⟩)
    exact ⟨_, _, rfl, hc, h⟩
  · rintro ⟨c, rest, rfl, hc, h⟩
    exact .one hc h

/-- Of two runs the second is found in a rest that is not empty. -/
lemma reads_run_run : Reads [.run, .run] text ↔ text ≠ [] := by
  rw [reads_run (by simp)]
  constructor
  · rintro ⟨skipped, rest, rfl, hrest, -⟩ hnil
    exact hrest (List.append_eq_nil_iff.mp hnil).2
  · exact fun htext => ⟨[], text, rfl, htext, .last text⟩

/-- A pattern that ends with two runs leaves the end of the text to them. -/
lemma reads_append_run_run : Reads (items ++ [.run, .run]) text ↔
    ∃ front back, text = front ++ back ∧ back ≠ [] ∧ Matches items front := by
  induction items generalizing text with
  | nil => simp [reads_run_run]
  | cons item items ih =>
    cases item with
    | run =>
      rw [List.cons_append, reads_run (by simp)]
      constructor
      · rintro ⟨skipped, rest, rfl, -, h⟩
        obtain ⟨front, back, rfl, hback, hfront⟩ := ih.mp h
        exact ⟨skipped ++ front, back, by rw [List.append_assoc], hback, .run skipped hfront⟩
      · rintro ⟨front, back, rfl, hback, hfront⟩
        obtain ⟨skipped, rest, rfl, h⟩ := matches_run.mp hfront
        exact ⟨skipped, rest ++ back, by rw [List.append_assoc], by simp [hback],
          ih.mpr ⟨rest, back, rfl, hback, h⟩⟩
    | one accepts =>
      rw [List.cons_append, reads_one]
      constructor
      · rintro ⟨c, rest, rfl, hc, h⟩
        obtain ⟨front, back, rfl, hback, hfront⟩ := ih.mp h
        exact ⟨c :: front, back, rfl, hback, .one hc hfront⟩
      · rintro ⟨front, back, rfl, hback, hfront⟩
        obtain ⟨c, rest, rfl, hc, h⟩ := matches_one.mp hfront
        exact ⟨c, rest ++ back, rfl, hc, ih.mpr ⟨rest, back, rfl, hback, h⟩⟩

/-- What is found by the end of a pattern decides about the whole. -/
lemma reads_append_congr {ending ending' : List (Item α)} (hne : ending ≠ []) (hne' : ending' ≠ [])
    (h : ∀ text, Reads ending text ↔ Reads ending' text) :
    Reads (items ++ ending) text ↔ Reads (items ++ ending') text := by
  induction items generalizing text with
  | nil => exact h text
  | cons item items ih =>
    cases item with
    | run =>
      rw [List.cons_append, List.cons_append, reads_run (by simp [hne]), reads_run (by simp [hne'])]
      simp only [ih]
    | one accepts => simp only [List.cons_append, reads_one, ih]

/-- Two runs in front of another item are one. -/
lemma reads_append_run_run_cons (hne : items' ≠ []) :
    Reads (items ++ .run :: .run :: items') text ↔ Reads (items ++ .run :: items') text := by
  refine reads_append_congr (by simp) (by simp) fun text => ?_
  rw [reads_run (by simp)]
  constructor
  · rintro ⟨skipped, rest, rfl, -, h⟩
    obtain ⟨skipped', rest, rfl, hrest, hlast⟩ := (reads_run hne).mp h
    rw [← List.append_assoc]
    exact .run _ hne hrest hlast
  · intro h
    obtain ⟨skipped, rest, rfl, hrest, hlast⟩ := (reads_run hne).mp h
    exact ⟨skipped, rest, rfl, hrest, .run [] hne hrest hlast⟩

/-- A pattern that stands for the empty text is made of runs. -/
lemma run_of_matches_nil (h : Matches items []) {item : Item α} (hitem : item ∈ items) :
    item = .run := by
  induction items with
  | nil => cases hitem
  | cons first items ih =>
    cases first with
    | run =>
      obtain ⟨skipped, rest, hnil, hrest⟩ := matches_run.mp h
      obtain ⟨-, rfl⟩ := List.append_eq_nil_iff.mp hnil.symm
      rcases List.mem_cons.mp hitem with rfl | hitem
      · rfl
      · exact ih hrest hitem
    | one accepts =>
      obtain ⟨c, rest, hnil, -⟩ := matches_one.mp h
      cases hnil

/-- Of a pattern that does not end with two runs a search misses nothing. -/
lemma reads_iff_matches (hend : ¬[.run, .run] <:+ items) :
    Reads items text ↔ Matches items text := by
  refine ⟨Reads.matches, fun h => ?_⟩
  induction h with
  | nil => exact .nil
  | @run items text skipped h ih =>
    have hrest : Reads items text := ih fun hsuffix => hend (hsuffix.trans (List.suffix_cons _ _))
    by_cases hitems : items = []
    · subst hitems
      exact .last _
    · refine .run skipped hitems ?_ hrest
      rintro rfl
      -- A rest that stands for nothing is made of runs, so the pattern ends with two.
      have hruns : items = List.replicate items.length .run :=
        List.eq_replicate_iff.mpr ⟨rfl, fun _ => run_of_matches_nil h⟩
      obtain ⟨n, hlength⟩ := Nat.exists_eq_succ_of_ne_zero
        (fun hzero => hitems (List.eq_nil_of_length_eq_zero hzero))
      refine hend ⟨List.replicate n .run, ?_⟩
      rw [hruns, hlength]
      exact List.replicate_append_replicate (m := 2)
  | one hc h ih => exact .one hc (ih fun hsuffix => hend (hsuffix.trans (List.suffix_cons _ _)))

/-! ## Letters that are not told apart -/

variable {S : α → α → Prop} {text' : List α}

/-- The items accept the same of letters that are not told apart. -/
inductive Item.Blind (S : α → α → Prop) : Item α → Item α → Prop where
  | run : Item.Blind S .run .run
  | one {accepts accepts' : α → Bool} (h : ∀ c c', S c c' → accepts c = accepts' c') :
    Item.Blind S (.one accepts) (.one accepts')

/-- What is found in a text is found in a text that is not told apart from it. -/
lemma Reads.congr (h : Reads items text) (hitems : List.Forall₂ (Item.Blind S) items items')
    (htext : List.Forall₂ S text text') : Reads items' text' := by
  induction h generalizing items' text' with
  | nil =>
    cases hitems
    cases htext
    exact .nil
  | last text =>
    obtain ⟨_, _, hitem, hnil, rfl⟩ := List.forall₂_cons_left_iff.mp hitems
    cases hitem
    cases hnil
    exact .last text'
  | @run items text skipped hne htext' h ih =>
    obtain ⟨_, rest, hitem, hrest, rfl⟩ := List.forall₂_cons_left_iff.mp hitems
    cases hitem
    have hfront := List.forall₂_drop skipped.length htext
    rw [List.drop_left] at hfront
    rw [← List.take_append_drop skipped.length text']
    refine .run _ ?_ ?_ (ih hrest hfront)
    · rintro rfl
      cases hrest
      exact hne rfl
    · intro hnil
      rw [hnil] at hfront
      cases hfront
      exact htext' rfl
  | @one items text accepts c hc h ih =>
    obtain ⟨_, rest, hitem, hrest, rfl⟩ := List.forall₂_cons_left_iff.mp hitems
    obtain ⟨c', back, hc', hback, rfl⟩ := List.forall₂_cons_left_iff.mp htext
    cases hitem with
    | one haccepts => exact .one ((haccepts c c' hc').symm.trans hc) (ih hrest hback)

end Wildcards
