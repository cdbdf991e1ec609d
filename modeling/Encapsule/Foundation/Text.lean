import Mathlib.Data.List.DropRight
import Mathlib.Data.List.Infix

/-!
# Separators and words

Texts are lists.  `Text.splitFirst` and `Text.splitLast` cut a text at the first and at the last
occurrence of a separator; each is determined by the two parts and by the part that is free of the
separator.  `Text.mapWords` rewrites the words of a text and keeps what is between them; it acts on
the parts of a text that are divided by a space one by one.
-/

namespace Text

variable {α : Type*}

/-! ## Cutting at a separator -/

section Split

variable [DecidableEq α] {sep : α} {text front back : List α}

/-- The text in front of the first separator and the text behind it. -/
def splitFirst (sep : α) : List α → Option (List α × List α)
  | [] => none
  | c :: text =>
    if c = sep then some ([], text)
    else (splitFirst sep text).map fun parts => (c :: parts.1, parts.2)

/-- The text in front of the last separator and the text behind it. -/
def splitLast (sep : α) : List α → Option (List α × List α)
  | [] => none
  | c :: text =>
    match splitLast sep text with
    | some parts => some (c :: parts.1, parts.2)
    | none => if c = sep then some ([], text) else none

/-- A text without separators is not cut. -/
@[simp] lemma splitFirst_eq_none : splitFirst sep text = none ↔ sep ∉ text := by
  induction text with
  | nil => simp [splitFirst]
  | cons c text ih =>
    unfold splitFirst
    by_cases hc : c = sep
    · simp [hc]
    · have hc' : sep ≠ c := fun heq => hc heq.symm
      simp [hc, hc', ih]

/-- A text is cut at the first separator where no separator is in front. -/
lemma splitFirst_eq_some :
    splitFirst sep text = some (front, back) ↔ text = front ++ sep :: back ∧ sep ∉ front := by
  induction text generalizing front with
  | nil => simp [splitFirst]
  | cons c text ih =>
    unfold splitFirst
    by_cases hc : c = sep
    · subst hc
      rw [if_pos rfl]
      constructor
      · intro h
        cases h
        exact ⟨rfl, by simp⟩
      · rintro ⟨heq, hfree⟩
        cases front with
        | nil => simpa using heq
        | cons d front =>
          cases heq
          exact absurd List.mem_cons_self hfree
    · rw [if_neg hc, Option.map_eq_some_iff]
      constructor
      · rintro ⟨⟨front', back'⟩, h, heq⟩
        cases heq
        obtain ⟨rfl, hfree⟩ := ih.mp h
        exact ⟨rfl, by simp [hfree, Ne.symm hc]⟩
      · rintro ⟨heq, hfree⟩
        cases front with
        | nil =>
          cases heq
          exact absurd rfl hc
        | cons d front =>
          cases heq
          rw [List.mem_cons, not_or] at hfree
          exact ⟨(front, back), ih.mpr ⟨rfl, hfree.2⟩, rfl⟩

/-- A text without separators is not cut. -/
@[simp] lemma splitLast_eq_none : splitLast sep text = none ↔ sep ∉ text := by
  induction text with
  | nil => simp [splitLast]
  | cons c text ih =>
    unfold splitLast
    cases h : splitLast sep text with
    | some parts =>
      have hmem : sep ∈ text := by
        by_contra hfree
        rw [ih.mpr hfree] at h
        cases h
      simp [hmem]
    | none =>
      by_cases hc : c = sep
      · simp [hc]
      · have hc' : sep ≠ c := fun heq => hc heq.symm
        simp [hc, hc', ih.mp h]

/-- A text is cut at the last separator where no separator is behind. -/
lemma splitLast_eq_some :
    splitLast sep text = some (front, back) ↔ text = front ++ sep :: back ∧ sep ∉ back := by
  induction text generalizing front with
  | nil => simp [splitLast]
  | cons c text ih =>
    unfold splitLast
    cases h : splitLast sep text with
    | some parts =>
      obtain ⟨front', back'⟩ := parts
      have hmem : sep ∈ text := by
        by_contra hfree
        rw [splitLast_eq_none.mpr hfree] at h
        cases h
      constructor
      · intro heq
        cases heq
        obtain ⟨hcut, hfree⟩ := ih.mp h
        exact ⟨by rw [hcut, List.cons_append], hfree⟩
      · rintro ⟨heq, hfree⟩
        cases front with
        | nil =>
          cases heq
          exact absurd hmem hfree
        | cons d front =>
          cases heq
          have hcut := h.symm.trans (ih.mpr ⟨rfl, hfree⟩)
          cases hcut
          rfl
    | none =>
      have hfree' : sep ∉ text := splitLast_eq_none.mp h
      constructor
      · intro heq
        split_ifs at heq with hc
        cases heq
        exact ⟨by rw [hc, List.nil_append], hfree'⟩
      · rintro ⟨heq, hfree⟩
        cases front with
        | nil =>
          cases heq
          exact if_pos rfl
        | cons d front =>
          cases heq
          exact absurd (List.mem_append_right front List.mem_cons_self) hfree'

end Split

/-! ## Words -/

section Words

variable {isSpace : α → Bool} {f : List α → List α} {word text rest : List α} {s : α}

/-- A word that has ended is rewritten; between two spaces there is none. -/
def closeWord (f : List α → List α) (word : List α) : List α :=
  if word.isEmpty then [] else f word

/-- The scan behind `mapWords`, with the letters of the word that it is in. -/
def mapWordsFrom (isSpace : α → Bool) (f : List α → List α) : List α → List α → List α
  | word, [] => closeWord f word
  | word, c :: text =>
    if isSpace c then closeWord f word ++ c :: mapWordsFrom isSpace f [] text
    else mapWordsFrom isSpace f (word ++ [c]) text

/-- Every word of a text is rewritten, and the spaces are kept. -/
def mapWords (isSpace : α → Bool) (f : List α → List α) (text : List α) : List α :=
  mapWordsFrom isSpace f [] text

/-- Letters go on with the word. -/
lemma mapWordsFrom_append (hword : ∀ c ∈ word, isSpace c = false) (before rest : List α) :
    mapWordsFrom isSpace f before (word ++ rest) =
      mapWordsFrom isSpace f (before ++ word) rest := by
  induction word generalizing before with
  | nil => simp
  | cons c word ih =>
    have hc : ¬isSpace c = true := by simp [hword c List.mem_cons_self]
    rw [List.cons_append, mapWordsFrom, if_neg hc,
      ih fun d hd => hword d (List.mem_cons_of_mem c hd), List.append_assoc, List.singleton_append]

/-- A space ends what is in front of it, whatever comes behind. -/
lemma mapWordsFrom_append_space (hs : isSpace s = true) (before text rest : List α) :
    mapWordsFrom isSpace f before (text ++ s :: rest) =
      mapWordsFrom isSpace f before text ++ s :: mapWords isSpace f rest := by
  induction text generalizing before with
  | nil =>
    rw [List.nil_append, mapWordsFrom, mapWordsFrom, if_pos hs]
    rfl
  | cons c text ih =>
    rw [List.cons_append, mapWordsFrom, mapWordsFrom, ih, ih]
    split_ifs
    · rw [List.append_assoc, List.cons_append]
    · rfl

/-- The parts of a text in front of a space and behind it are rewritten by themselves. -/
lemma mapWords_append_space (hs : isSpace s = true) (text rest : List α) :
    mapWords isSpace f (text ++ s :: rest) =
      mapWords isSpace f text ++ s :: mapWords isSpace f rest :=
  mapWordsFrom_append_space hs [] text rest

/-- A text without spaces is a word. -/
lemma mapWords_word (hword : ∀ c ∈ word, isSpace c = false) (hne : word ≠ []) :
    mapWords isSpace f word = f word := by
  have hscan := mapWordsFrom_append (f := f) hword [] []
  rw [List.append_nil, List.nil_append] at hscan
  rw [mapWords, hscan, mapWordsFrom, closeWord, if_neg (by simpa using hne)]

/-- The first word of a text is rewritten by itself. -/
lemma mapWords_takeWhile (hword : ∀ c ∈ word, isSpace c = false) (hne : word ≠ []) :
    mapWords isSpace f (word ++ text.dropWhile fun c => !isSpace c) =
      f word ++ mapWords isSpace f (text.dropWhile fun c => !isSpace c) := by
  cases hrest : text.dropWhile fun c => !isSpace c with
  | nil =>
    rw [List.append_nil, mapWords_word hword hne]
    simp [mapWords, mapWordsFrom, closeWord]
  | cons s rest =>
    have hs : isSpace s = true := by
      have hhead := List.head_dropWhile_not (p := fun c => !isSpace c) (l := text)
        (by rw [hrest]; simp)
      simpa [hrest] using hhead
    rw [mapWords_append_space hs, mapWords_word hword hne,
      show s :: rest = [] ++ s :: rest from rfl, mapWords_append_space hs]
    rfl

/-- What ends with a space is rewritten by itself. -/
lemma mapWords_rdropWhile (text rest : List α) :
    mapWords isSpace f ((text.rdropWhile fun c => !isSpace c) ++ rest) =
      mapWords isSpace f (text.rdropWhile fun c => !isSpace c) ++ mapWords isSpace f rest := by
  obtain hnil | ⟨front, s, hfront⟩ := List.eq_nil_or_concat (text.rdropWhile fun c => !isSpace c)
  · rw [hnil]
    rfl
  · rw [List.concat_eq_append] at hfront
    have hs : isSpace s = true := by
      have hlast := List.rdropWhile_last_not (fun c => !isSpace c) text (by rw [hfront]; simp)
      simpa [hfront] using hlast
    have hend := mapWords_append_space (f := f) hs front []
    rw [hfront, hend, List.append_assoc, List.singleton_append, mapWords_append_space hs]
    simp [mapWords, mapWordsFrom, closeWord]

/-! ## Words and spaces

The words of a text are those of `List.splitOnP`, with the empty ones between two spaces. -/

/-- A letter at the end of a text belongs to its last word. -/
lemma splitOnP_concat_letter {c : α} (hc : isSpace c = false) (text : List α) :
    ∃ front word, text.splitOnP isSpace = front ++ [word] ∧
      (text ++ [c]).splitOnP isSpace = front ++ [word ++ [c]] := by
  induction text with
  | nil => exact ⟨[], [], rfl, by simp [List.splitOnP_cons_eq_if_modifyHead, hc]⟩
  | cons d text ih =>
    obtain ⟨front, word, htext, hconcat⟩ := ih
    rw [List.cons_append, List.splitOnP_cons_eq_if_modifyHead,
      List.splitOnP_cons_eq_if_modifyHead, htext, hconcat]
    split_ifs
    · exact ⟨[] :: front, word, rfl, rfl⟩
    · cases front with
      | nil => exact ⟨[], d :: word, rfl, rfl⟩
      | cons first front => exact ⟨(d :: first) :: front, word, rfl, rfl⟩

/-- A space at the end of a text ends its last word. -/
lemma splitOnP_concat_space (hs : isSpace s = true) (text : List α) :
    (text ++ [s]).splitOnP isSpace = text.splitOnP isSpace ++ [[]] := by
  rw [List.splitOnP_append_cons text [] hs, List.splitOnP_nil]

/-- There is one word more than there are spaces. -/
lemma length_splitOnP (isSpace : α → Bool) (text : List α) :
    (text.splitOnP isSpace).length = (text.filter isSpace).length + 1 := by
  induction text with
  | nil => rfl
  | cons c text ih =>
    rw [List.splitOnP_cons_eq_if_modifyHead, List.filter_cons]
    split_ifs
    · rw [List.length_cons, List.length_cons, ih]
    · rw [List.length_modifyHead, ih]

/-- The words of a text and the spaces between them make the text. -/
lemma eq_iff_words (isSpace : α → Bool) {x y : List α} :
    x = y ↔ x.splitOnP isSpace = y.splitOnP isSpace ∧ x.filter isSpace = y.filter isSpace := by
  constructor
  · rintro rfl
    exact ⟨rfl, rfl⟩
  · rintro ⟨hwords, hspaces⟩
    rw [← List.splitOnP_spec (p := isSpace) x, ← List.splitOnP_spec (p := isSpace) y, hwords,
      hspaces]

/-- The first word of a text is what is in front of its first space. -/
lemma head?_splitOnP (text : List α) :
    (text.splitOnP isSpace).head? = some (text.takeWhile fun c => !isSpace c) := by
  induction text with
  | nil => rfl
  | cons c text ih =>
    rw [List.splitOnP_cons_eq_if_modifyHead]
    split_ifs with hc
    · simp [hc]
    · simp [hc, ih]

/-- The words of a text are part of it. -/
lemma mem_of_mem_splitOnP {c : α} (hword : word ∈ text.splitOnP isSpace) (hc : c ∈ word) :
    c ∈ text := by
  induction text generalizing word with
  | nil =>
    rw [List.splitOnP_nil, List.mem_singleton] at hword
    rwa [hword] at hc
  | cons d text ih =>
    obtain ⟨first, words, hwords⟩ :=
      List.exists_cons_of_ne_nil (List.splitOnP_ne_nil isSpace text)
    rw [List.splitOnP_cons_eq_if_modifyHead, hwords] at hword
    rw [hwords] at ih
    split_ifs at hword
    · rcases List.mem_cons.mp hword with rfl | hword
      · cases hc
      · exact List.mem_cons_of_mem d (ih hword hc)
    · rcases List.mem_cons.mp hword with rfl | hword
      · rcases List.mem_cons.mp hc with rfl | hc
        · exact List.mem_cons_self
        · exact List.mem_cons_of_mem d (ih List.mem_cons_self hc)
      · exact List.mem_cons_of_mem d (ih (List.mem_cons_of_mem first hword) hc)

/-- A text of spaces has empty words. -/
lemma all_iff_words :
    text.all isSpace = true ↔ ∀ word ∈ text.splitOnP isSpace, word = [] := by
  induction text with
  | nil => simp
  | cons c text ih =>
    obtain ⟨first, words, hwords⟩ :=
      List.exists_cons_of_ne_nil (List.splitOnP_ne_nil isSpace text)
    rw [List.all_cons, Bool.and_eq_true, ih, List.splitOnP_cons_eq_if_modifyHead, hwords]
    split_ifs with hc
    · simp [hc]
    · simp [hc]

/-- A word with one more letter. -/
lemma letters_concat {before : List α} {c : α} (hbefore : ∀ d ∈ before, isSpace d = false)
    (hc : ¬isSpace c = true) : ∀ d ∈ before ++ [c], isSpace d = false := by
  rw [List.forall_mem_append]
  exact ⟨hbefore, List.forall_mem_singleton.mpr (Bool.eq_false_iff.mpr hc)⟩

/-- Words that are rewritten are the words of the new text. -/
lemma splitOnP_mapWords (hf : ∀ word, (∀ c ∈ word, isSpace c = false) →
      ∀ c ∈ f word, isSpace c = false) (hnil : f [] = []) (text : List α) :
    (mapWords isSpace f text).splitOnP isSpace = (text.splitOnP isSpace).map f := by
  have hclose (word : List α) : closeWord f word = f word := by
    cases word with
    | nil => exact hnil.symm
    | cons c word => rfl
  have hscan (before : List α) (hbefore : ∀ c ∈ before, isSpace c = false) :
      (mapWordsFrom isSpace f before text).splitOnP isSpace =
        ((text.splitOnP isSpace).modifyHead (before ++ ·)).map f := by
    induction text generalizing before with
    | nil =>
      rw [mapWordsFrom, hclose, List.splitOnP_eq_singleton (hf before hbefore)]
      simp
    | cons c text ih =>
      obtain ⟨first, words, hwords⟩ :=
        List.exists_cons_of_ne_nil (List.splitOnP_ne_nil isSpace text)
      rw [mapWordsFrom, List.splitOnP_cons_eq_if_modifyHead]
      split_ifs with hc
      · rw [hclose, List.splitOnP_append_cons_of_forall_mem (hf before hbefore) c hc,
          ih [] (by simp), hwords]
        simp
      · rw [ih _ (letters_concat hbefore hc), hwords]
        simp
  have hfirst := hscan [] (by simp)
  obtain ⟨first, words, hwords⟩ :=
    List.exists_cons_of_ne_nil (List.splitOnP_ne_nil isSpace text)
  rw [hwords] at hfirst ⊢
  exact hfirst

/-- The spaces between the words are kept. -/
lemma filter_mapWords (hf : ∀ word, (∀ c ∈ word, isSpace c = false) →
      ∀ c ∈ f word, isSpace c = false) (text : List α) :
    (mapWords isSpace f text).filter isSpace = text.filter isSpace := by
  have hclose (word : List α) (hword : ∀ c ∈ word, isSpace c = false) :
      (closeWord f word).filter isSpace = [] := by
    rw [closeWord]
    split_ifs
    · rfl
    · rw [List.filter_eq_nil_iff]
      intro c hc
      simp [hf word hword c hc]
  have hscan (before : List α) (hbefore : ∀ c ∈ before, isSpace c = false) :
      (mapWordsFrom isSpace f before text).filter isSpace = text.filter isSpace := by
    induction text generalizing before with
    | nil => exact hclose before hbefore
    | cons c text ih =>
      rw [mapWordsFrom]
      split_ifs with hc
      · rw [List.filter_append, hclose before hbefore, List.nil_append, List.filter_cons_of_pos hc,
          List.filter_cons_of_pos hc, ih [] (by simp)]
      · rw [List.filter_cons_of_neg hc]
        apply ih
        exact letters_concat hbefore hc
  exact hscan [] (by simp)

/-- Without the word at its end a text ends with an empty one. -/
lemma splitOnP_rdropWhile_letters (text : List α) :
    (text.rdropWhile fun c => !isSpace c).splitOnP isSpace =
      (text.splitOnP isSpace).dropLast ++ [[]] := by
  induction text using List.reverseRecOn with
  | nil => rfl
  | append_singleton text c ih =>
    cases hc : isSpace c with
    | false =>
      obtain ⟨front, word, htext, hconcat⟩ := splitOnP_concat_letter hc text
      rw [List.rdropWhile_concat_pos _ _ _ (by simp [hc]), ih, htext, hconcat]
      simp
    | true =>
      rw [List.rdropWhile_concat_neg _ _ _ (by simp [hc]), splitOnP_concat_space hc]
      simp

/-- It has the same spaces. -/
lemma filter_rdropWhile_letters (text : List α) :
    (text.rdropWhile fun c => !isSpace c).filter isSpace = text.filter isSpace := by
  have hword : (text.rtakeWhile fun c => !isSpace c).filter isSpace = [] := by
    rw [List.filter_eq_nil_iff]
    intro c hc
    simpa using List.mem_rtakeWhile_imp hc
  have hcut := congrArg (List.filter isSpace)
    (List.rdropWhile_append_rtakeWhile (p := fun c => !isSpace c) (l := text))
  rw [List.filter_append, hword, List.append_nil] at hcut
  exact hcut

end Words

/-! ## Stripping -/

/-- Stripping the end of a text stops at the first letter from the back. -/
lemma rdropWhile_append (p : α → Bool) (front back : List α) :
    (front ++ back).rdropWhile p =
      if back.all p then front.rdropWhile p else front ++ back.rdropWhile p := by
  induction back using List.reverseRecOn with
  | nil => simp
  | append_singleton back c ih =>
    rw [← List.append_assoc, List.rdropWhile_concat, List.rdropWhile_concat, ih]
    by_cases hc : p c = true
    · simp [hc]
    · simp [hc]

/-- The end that stripping takes off. -/
lemma forall_mem_drop_rdropWhile (p : α → Bool) (text : List α) :
    ∀ c ∈ text.drop (text.rdropWhile p).length, p c = true := by
  have hend : text.drop (text.rdropWhile p).length = text.rtakeWhile p := by
    conv_lhs => rw [← List.rdropWhile_append_rtakeWhile (p := p) (l := text)]
    rw [List.drop_left' (by rw [List.rdropWhile_append_rtakeWhile])]
  rw [hend]
  exact fun c hc => List.mem_rtakeWhile_imp hc

/-- An end that is stripped need not be there. -/
lemma rdropWhile_take {p : α → Bool} {text : List α} {n : ℕ}
    (h : ∀ c ∈ text.drop n, p c = true) : (text.take n).rdropWhile p = text.rdropWhile p := by
  conv_rhs => rw [← List.take_append_drop n text]
  rw [rdropWhile_append, if_pos (List.all_eq_true.mpr h)]

/-- Two lists are the same but for what is stripped where they agree up to some place and all behind
it is stripped; a third pair, of which one entry less is looked at, may follow. -/
lemma rdropWhile_eq_and_take_iff {p : α → Bool} {x y : List α} {β : Type*} {s t : List β} :
    (x.rdropWhile p = y.rdropWhile p ∧
        s.take ((x.rdropWhile p).length - 1) = t.take ((x.rdropWhile p).length - 1)) ↔
      ∃ n, x.take n = y.take n ∧ (∀ c ∈ x.drop n, p c = true) ∧ (∀ c ∈ y.drop n, p c = true) ∧
        s.take (n - 1) = t.take (n - 1) := by
  have htake (z : List α) : z.take (z.rdropWhile p).length = z.rdropWhile p :=
    (List.prefix_iff_eq_take.mp (List.rdropWhile_prefix p z)).symm
  constructor
  · rintro ⟨heq, hst⟩
    refine ⟨(x.rdropWhile p).length, ?_, forall_mem_drop_rdropWhile p x, ?_, hst⟩
    · rw [htake x, heq, htake y]
    · rw [heq]
      exact forall_mem_drop_rdropWhile p y
  · rintro ⟨n, heq, hx, hy, hst⟩
    refine ⟨by rw [← rdropWhile_take hx, ← rdropWhile_take hy, heq], ?_⟩
    have hle : (x.rdropWhile p).length ≤ n := by
      rw [← rdropWhile_take hx]
      exact (List.rdropWhile_prefix p _).length_le.trans (List.length_take_le n x)
    have hshort := congrArg (List.take ((x.rdropWhile p).length - 1)) hst
    rwa [List.take_take, List.take_take, min_eq_left (Nat.sub_le_sub_right hle 1)] at hshort

section Lasting

variable {isSpace : α → Bool} {text : List α}

/-- The words of a text up to the last that is not empty. -/
def lastingWords (isSpace : α → Bool) (text : List α) : List (List α) :=
  (text.splitOnP isSpace).rdropWhile List.isEmpty

/-- Stripping a text strips the empty words at its end. -/
lemma splitOnP_rdropWhile (text : List α) :
    (text.rdropWhile isSpace).splitOnP isSpace =
      if lastingWords isSpace text = [] then [[]] else lastingWords isSpace text := by
  unfold lastingWords
  induction text using List.reverseRecOn with
  | nil => rfl
  | append_singleton text c ih =>
    cases hc : isSpace c with
    | false =>
      obtain ⟨front, word, -, hconcat⟩ := splitOnP_concat_letter hc text
      rw [List.rdropWhile_concat_neg _ _ _ (by simp [hc]), hconcat,
        List.rdropWhile_concat_neg _ _ _ (by simp), if_neg (by simp)]
    | true =>
      rw [List.rdropWhile_concat_pos _ _ _ hc, ih, splitOnP_concat_space hc,
        List.rdropWhile_concat_pos _ _ _ rfl]

/-- The spaces in front of the words that last. -/
lemma filter_rdropWhile (text : List α) :
    (text.rdropWhile isSpace).filter isSpace =
      (text.filter isSpace).take ((lastingWords isSpace text).length - 1) := by
  have hpre := (List.rdropWhile_prefix isSpace text).filter isSpace
  have hlength := length_splitOnP isSpace (text.rdropWhile isSpace)
  rw [splitOnP_rdropWhile] at hlength
  have hspaces : ((text.rdropWhile isSpace).filter isSpace).length =
      (lastingWords isSpace text).length - 1 := by
    split_ifs at hlength with hnil
    · rw [hnil]
      exact (Nat.succ.inj hlength).symm
    · omega
  rw [← hspaces]
  exact List.prefix_iff_eq_take.mp hpre

/-- The last word that lasts is not empty. -/
lemma lastingWords_ne (isSpace : α → Bool) (text : List α) : lastingWords isSpace text ≠ [[]] := by
  intro hwords
  unfold lastingWords at hwords
  have hlast := List.rdropWhile_last_not List.isEmpty (text.splitOnP isSpace)
    (by rw [hwords]; simp)
  simp [hwords] at hlast

/-- Two texts are the same but for the spaces at the end where the words that last are the same and
the same spaces divide them. -/
lemma rdropWhile_eq_iff {x y : List α} :
    x.rdropWhile isSpace = y.rdropWhile isSpace ↔
      lastingWords isSpace x = lastingWords isSpace y ∧
        (x.filter isSpace).take ((lastingWords isSpace x).length - 1) =
          (y.filter isSpace).take ((lastingWords isSpace x).length - 1) := by
  have hwords : (x.rdropWhile isSpace).splitOnP isSpace = (y.rdropWhile isSpace).splitOnP isSpace ↔
      lastingWords isSpace x = lastingWords isSpace y := by
    rw [splitOnP_rdropWhile, splitOnP_rdropWhile]
    have hx := lastingWords_ne isSpace x
    have hy := lastingWords_ne isSpace y
    split_ifs with hnilx hnily hnily
    · simp [hnilx, hnily]
    · rw [hnilx]
      exact ⟨fun heq => absurd heq.symm hy, fun heq => absurd heq.symm hnily⟩
    · rw [hnily]
      exact ⟨fun heq => absurd heq hx, fun heq => absurd heq hnilx⟩
    · exact Iff.rfl
  rw [eq_iff_words isSpace, hwords, filter_rdropWhile, filter_rdropWhile]
  constructor
  · rintro ⟨heq, hspaces⟩
    rw [← heq] at hspaces
    exact ⟨heq, hspaces⟩
  · rintro ⟨heq, hspaces⟩
    refine ⟨heq, ?_⟩
    rw [← heq]
    exact hspaces

end Lasting

end Text
