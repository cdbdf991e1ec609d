import Encapsule.Common.Schema
import Encapsule.Foundation.Wildcards

/-!
# Matching file names

`filename_wildcard_match` of `utils.hpp`.  The characters of a pattern are items of
`Foundation.Wildcards` (`wildcardItem`), and what the function finds is what a search finds that
never leaves the terminator to the characters behind a star (`filenameWildcardMatch_iff_reads`).

* `globLike_iff`: when that is what the pattern stands for.
* `filenameWildcardMatch_respelled`: separators and the case of letters are not told apart.
-/

namespace Encapsule

open Wildcards

/-! ## The function -/

/-- The `?` that stands for a character. -/
def questionMark : UInt8 := 63

/-- The `*` that stands for any run of characters. -/
def star : UInt8 := 42

/-- The `/` between directories. -/
def slash : UInt8 := 47

/-- The `\` between directories. -/
def backslash : UInt8 := 92

/-- `tolower` in the C locale. -/
def toLower (c : UInt8) : UInt8 := if 65 ≤ c.toNat ∧ c.toNat ≤ 90 then c + 32 else c

/-- The loop of a star over the places in front of the terminator. -/
def matchFrom (rest : Bytes → Bool) : Bytes → Bool
  | [] => false
  | c :: str => rest (c :: str) || matchFrom rest str

/-- `filename_wildcard_match`.  A string is the list of the characters in front of its
terminator. -/
def filenameWildcardMatch : Bytes → Bytes → Bool
  | [], str => str.isEmpty
  | c :: pattern, str =>
    if c = questionMark then
      match str with
      | [] => false
      | _ :: str => filenameWildcardMatch pattern str
    else if c = star then
      if pattern = [] then true else matchFrom (filenameWildcardMatch pattern) str
    else if c = slash ∨ c = backslash then
      match str with
      | [] => false
      | d :: str => (d = slash ∨ d = backslash) && filenameWildcardMatch pattern str
    else
      match str with
      -- The terminator is not a character of the pattern.
      | [] => false
      | d :: str => toLower d = toLower c && filenameWildcardMatch pattern str

/-! ## What a pattern stands for -/

/-- What a character of a pattern accepts in the place of a single one. -/
def wildcardAccepts (c d : UInt8) : Bool :=
  if c = questionMark then true
  else if c = slash ∨ c = backslash then d = slash ∨ d = backslash
  else toLower d = toLower c

/-- What a character of a pattern stands for. -/
def wildcardItem (c : UInt8) : Item UInt8 := if c = star then .run else .one (wildcardAccepts c)

/-- The string matches the pattern in the usual sense. -/
def GlobMatches (pattern str : Bytes) : Prop := Matches (pattern.map wildcardItem) str

variable {pattern pattern' str str' : Bytes} {c d : UInt8}

@[simp] lemma wildcardItem_star : wildcardItem star = .run := rfl

/-- Only the star is a run. -/
lemma wildcardItem_eq_run : wildcardItem c = .run ↔ c = star := by
  unfold wildcardItem
  split_ifs with hstar
  · exact iff_of_true rfl hstar
  · exact iff_of_false (by simp) hstar

lemma wildcardItem_of_ne (hc : c ≠ star) : wildcardItem c = .one (wildcardAccepts c) := if_neg hc

/-- The loop of a star finds a place in front of the terminator. -/
lemma matchFrom_eq_true {rest : Bytes → Bool} :
    matchFrom rest str = true ↔
      ∃ skipped back, str = skipped ++ back ∧ back ≠ [] ∧ rest back = true := by
  induction str with
  | nil =>
    refine iff_of_false Bool.false_ne_true ?_
    rintro ⟨skipped, back, hnil, hback, -⟩
    exact hback (List.append_eq_nil_iff.mp hnil.symm).2
  | cons c str ih =>
    rw [matchFrom, Bool.or_eq_true, ih]
    constructor
    · rintro (hrest | ⟨skipped, back, rfl, hback, hrest⟩)
      · exact ⟨[], c :: str, rfl, by simp, hrest⟩
      · exact ⟨c :: skipped, back, rfl, hback, hrest⟩
    · rintro ⟨skipped, back, hcut, hback, hrest⟩
      cases skipped with
      | nil => exact Or.inl (hcut ▸ hrest)
      | cons d skipped =>
        obtain ⟨rfl, rfl⟩ := List.cons.inj hcut
        exact Or.inr ⟨skipped, back, rfl, hback, hrest⟩

/-- A character that is no star. -/
lemma filenameWildcardMatch_one (hc : c ≠ star) :
    filenameWildcardMatch (c :: pattern) str = true ↔
      ∃ d rest, str = d :: rest ∧ wildcardAccepts c d = true ∧
        filenameWildcardMatch pattern rest = true := by
  rw [filenameWildcardMatch.eq_def]
  unfold wildcardAccepts
  dsimp only
  cases str with
  | nil => split_ifs <;> simp
  | cons d str => split_ifs <;> simp

/-- What the function finds. -/
lemma filenameWildcardMatch_iff_reads :
    filenameWildcardMatch pattern str = true ↔ Reads (pattern.map wildcardItem) str := by
  induction pattern generalizing str with
  | nil => simp [filenameWildcardMatch]
  | cons c pattern ih =>
    rw [List.map_cons]
    by_cases hstar : c = star
    · subst hstar
      rw [wildcardItem_star, filenameWildcardMatch.eq_def]
      dsimp only
      rw [if_neg (by decide), if_pos rfl]
      by_cases hlast : pattern = []
      · subst hlast
        exact iff_of_true (if_pos rfl) (.last str)
      · rw [if_neg hlast, matchFrom_eq_true, reads_run (by simpa using hlast)]
        simp only [ih]
    · rw [filenameWildcardMatch_one hstar, wildcardItem_of_ne hstar, reads_one]
      simp only [ih]

/-! ## When it is what the pattern stands for -/

/-- The string is matched if and only if it matches in the usual sense, and two stars are one. -/
structure GlobLike (pattern str : Bytes) : Prop where
  exact : filenameWildcardMatch pattern str = true ↔ GlobMatches pattern str
  collapse : ∀ front back, pattern = front ++ star :: star :: back →
    filenameWildcardMatch (front ++ star :: back) str = filenameWildcardMatch pattern str

/-- Two stars are two runs. -/
lemma map_eq_append_run_run {items : List (Item UInt8)} :
    pattern.map wildcardItem = items ++ [.run, .run] ↔
      ∃ front, pattern = front ++ [star, star] ∧ front.map wildcardItem = items := by
  constructor
  · intro h
    obtain ⟨front, back, rfl, rfl, hback⟩ := List.map_eq_append_iff.mp h
    obtain ⟨c, rest, rfl, hc, hrest⟩ := List.map_eq_cons_iff.mp hback
    obtain ⟨d, rest, rfl, hd, hrest⟩ := List.map_eq_cons_iff.mp hrest
    obtain rfl := List.map_eq_nil_iff.mp hrest
    obtain rfl := wildcardItem_eq_run.mp hc
    obtain rfl := wildcardItem_eq_run.mp hd
    exact ⟨front, rfl, rfl⟩
  · rintro ⟨front, rfl, rfl⟩
    rw [List.map_append]
    rfl

/-- A pattern that does not end with two stars. -/
lemma filenameWildcardMatch_iff_globMatches (hend : ¬[star, star] <:+ pattern) :
    filenameWildcardMatch pattern str = true ↔ GlobMatches pattern str := by
  rw [filenameWildcardMatch_iff_reads]
  refine reads_iff_matches ?_
  rintro ⟨items, hitems⟩
  obtain ⟨front, rfl, -⟩ := map_eq_append_run_run.mp hitems.symm
  exact hend ⟨front, rfl⟩

/-- A pattern that ends with two stars leaves the last character of the string to them. -/
lemma filenameWildcardMatch_append_star_star {front : Bytes} :
    filenameWildcardMatch (front ++ [star, star]) str = true ↔
      ∃ part rest, str = part ++ rest ∧ rest ≠ [] ∧ GlobMatches front part := by
  rw [filenameWildcardMatch_iff_reads, List.map_append]
  exact reads_append_run_run

/-- In the usual sense they may stand for nothing. -/
lemma globMatches_append_star_star {front : Bytes} :
    GlobMatches (front ++ [star, star]) str ↔ ∃ part, part <+: str ∧ GlobMatches front part := by
  unfold GlobMatches
  rw [List.map_append, matches_append]
  constructor
  · rintro ⟨part, rest, rfl, hpart, -⟩
    exact ⟨part, List.prefix_append part rest, hpart⟩
  · rintro ⟨part, ⟨rest, rfl⟩, hpart⟩
    exact ⟨part, rest, rfl, hpart, .run [] (matches_run_singleton rest)⟩

/-- Two stars are one where the string is matched as it should be. -/
lemma collapse_of_exact (h : filenameWildcardMatch pattern str = true ↔ GlobMatches pattern str)
    {front back : Bytes} (hpattern : pattern = front ++ star :: star :: back) :
    filenameWildcardMatch (front ++ star :: back) str = filenameWildcardMatch pattern str := by
  subst hpattern
  rw [Bool.eq_iff_iff]
  by_cases hlast : back = []
  · subst hlast
    by_cases hfront : [star, star] <:+ front ++ [star]
    · -- Of three stars or more it does not matter how many they are.
      obtain ⟨before, hbefore⟩ := hfront
      obtain ⟨rfl, -⟩ : before ++ [star] = front ∧ _ :=
        List.append_inj' (by rw [← hbefore]; simp) rfl
      rw [filenameWildcardMatch_iff_reads, filenameWildcardMatch_iff_reads]
      simpa using (reads_append_run_run_cons (List.cons_ne_nil Item.run [])).symm
    · rw [filenameWildcardMatch_iff_globMatches hfront, h]
      unfold GlobMatches
      rw [List.map_append, List.map_append]
      exact (matches_append_run_run _ [] str).symm
  · rw [filenameWildcardMatch_iff_reads, filenameWildcardMatch_iff_reads, List.map_append,
      List.map_append]
    exact (reads_append_run_run_cons (by simpa using hlast)).symm

/-- A pattern that does not end with two stars is matched as it says. -/
lemma globLike_of_not_suffix (hend : ¬[star, star] <:+ pattern) (str : Bytes) :
    GlobLike pattern str := by
  have hexact : filenameWildcardMatch pattern str = true ↔ GlobMatches pattern str :=
    filenameWildcardMatch_iff_globMatches hend
  exact ⟨hexact, fun _ _ => collapse_of_exact hexact⟩

/-- Where two stars at the end are matched as they should be, they may stand for some character. -/
lemma GlobLike.exists_shorter {front : Bytes} (h : GlobLike (front ++ [star, star]) str)
    (hfront : GlobMatches front str) :
    ∃ part, part <+: str ∧ part ≠ str ∧ GlobMatches front part := by
  have hglob : GlobMatches (front ++ [star, star]) str :=
    globMatches_append_star_star.mpr ⟨str, List.prefix_rfl, hfront⟩
  obtain ⟨part, rest, rfl, hrest, hpart⟩ :=
    filenameWildcardMatch_append_star_star.mp (h.exact.mpr hglob)
  exact ⟨part, List.prefix_append part rest, by simpa using hrest.symm, hpart⟩

/-- **Glob matching.** A string is matched as its pattern says, unless the pattern ends with two
stars and what is in front of them matches the string, but nothing shorter. -/
theorem globLike_iff (pattern str : Bytes) :
    GlobLike pattern str ↔ ∀ front, pattern = front ++ [star, star] → GlobMatches front str →
      ∃ part, part <+: str ∧ part ≠ str ∧ GlobMatches front part := by
  constructor
  · rintro h front rfl hfront
    exact h.exists_shorter hfront
  · intro h
    by_cases hend : [star, star] <:+ pattern
    · obtain ⟨front, rfl⟩ := hend
      have hproper {part : Bytes} (hinit : part <+: str) (hne : part ≠ str)
          (hpart : GlobMatches front part) :
          ∃ part rest, str = part ++ rest ∧ rest ≠ [] ∧ GlobMatches front part := by
        obtain ⟨rest, rfl⟩ := hinit
        exact ⟨part, rest, rfl, by rintro rfl; simp at hne, hpart⟩
      have hexact : filenameWildcardMatch (front ++ [star, star]) str = true ↔
          GlobMatches (front ++ [star, star]) str := by
        rw [filenameWildcardMatch_append_star_star, globMatches_append_star_star]
        constructor
        · rintro ⟨part, rest, rfl, -, hpart⟩
          exact ⟨part, List.prefix_append part rest, hpart⟩
        · rintro ⟨part, hinit, hpart⟩
          by_cases hwhole : part = str
          · subst hwhole
            obtain ⟨shorter, hinit, hne, hshorter⟩ := h front rfl hpart
            exact hproper hinit hne hshorter
          · exact hproper hinit hwhole hpart
      exact ⟨hexact, fun _ _ => collapse_of_exact hexact⟩
    · exact globLike_of_not_suffix hend str

/-- Two stars do not match the empty string, and one does. -/
theorem not_globLike_two_stars :
    filenameWildcardMatch [star] [] = true ∧ filenameWildcardMatch [star, star] [] = false ∧
      GlobMatches [star, star] [] ∧ ¬GlobLike [star, star] [] := by
  have hnil : GlobMatches [] [] := .nil
  have hglob : GlobMatches [star, star] [] :=
    globMatches_append_star_star.mpr ⟨[], List.prefix_rfl, hnil⟩
  exact ⟨by decide, by decide, hglob, fun h => absurd (h.exact.mpr hglob) (by decide)⟩

/-- An ASCII string without a NUL. -/
def IsAscii (text : Bytes) : Prop := ∀ c ∈ text, c ≠ 0 ∧ c.toNat < 128

/-- Every pattern has a string: its characters without the stars. -/
lemma globMatches_filter (pattern : Bytes) :
    GlobMatches pattern (pattern.filter (· ≠ star)) := by
  unfold GlobMatches
  induction pattern with
  | nil => exact .nil
  | cons c pattern ih =>
    rw [List.map_cons]
    by_cases hstar : c = star
    · subst hstar
      rw [List.filter_cons_of_neg (by simp), wildcardItem_star]
      exact .run [] ih
    · have haccepts : wildcardAccepts c c = true := by
        unfold wildcardAccepts
        split_ifs with hquestion hseparator
        · rfl
        · exact decide_eq_true hseparator
        · exact decide_eq_true rfl
      rw [List.filter_cons_of_pos (by simpa using hstar), wildcardItem_of_ne hstar]
      exact .one haccepts ih

/-- All strings are matched as the pattern says if and only if it does not end with two stars. -/
theorem globLike_forall_iff (hpattern : IsAscii pattern) :
    (∀ str, IsAscii str → GlobLike pattern str) ↔ ¬[star, star] <:+ pattern := by
  constructor
  · rintro h ⟨front, rfl⟩
    -- No string is the shortest that matches the front.
    have hnone (n : ℕ) (str : Bytes) (hlength : str.length ≤ n) (hascii : IsAscii str) :
        ¬GlobMatches front str := by
      induction n generalizing str with
      | zero =>
        intro hstr
        obtain ⟨part, hinit, hne, -⟩ := (h str hascii).exists_shorter hstr
        exact hne (hinit.eq_of_length_le (by omega))
      | succ n ih =>
        intro hstr
        obtain ⟨part, hinit, hne, hpart⟩ := (h str hascii).exists_shorter hstr
        have hlt : part.length < str.length :=
          Nat.lt_of_not_le fun hle => hne (hinit.eq_of_length_le hle)
        exact ih part (by omega) (fun c hc => hascii c (hinit.subset hc)) hpart
    have hfilter : IsAscii (front.filter (· ≠ star)) := fun c hc =>
      hpattern c (List.mem_append_left _ (List.mem_of_mem_filter hc))
    exact hnone _ _ (Nat.le_refl _) hfilter (globMatches_filter front)
  · exact fun hend str _ => globLike_of_not_suffix hend str

/-! ## Spellings that are not told apart -/

/-- The characters are both separators, or the same up to the case of a letter. -/
def Respelled (c d : UInt8) : Prop :=
  toLower c = toLower d ∨ (c = slash ∨ c = backslash) ∧ (d = slash ∨ d = backslash)

instance : DecidableRel Respelled := fun _ _ => inferInstanceAs (Decidable (_ ∨ _))

lemma Respelled.symm (h : Respelled c d) : Respelled d c := by
  rcases h with h | ⟨hc, hd⟩
  · exact Or.inl h.symm
  · exact Or.inr ⟨hd, hc⟩

lemma toNat_toLower (c : UInt8) :
    (toLower c).toNat = if 65 ≤ c.toNat ∧ c.toNat ≤ 90 then c.toNat + 32 else c.toNat := by
  unfold toLower
  split_ifs with hcapital
  · rw [UInt8.toNat_add, show (32 : UInt8).toNat = 32 from rfl]
    omega
  · rfl

/-- A character that is no letter is the small letter of nothing else. -/
lemma eq_of_toLower_eq (h : toLower c = toLower d)
    (hc : c.toNat < 65 ∨ 90 < c.toNat ∧ c.toNat < 97) : d = c := by
  have hvalue := congrArg UInt8.toNat h
  rw [toNat_toLower, toNat_toLower] at hvalue
  refine UInt8.toNat_inj.mp ?_
  split_ifs at hvalue <;> omega

/-- The separators are told apart from everything else. -/
lemma Respelled.separator (h : Respelled c d) (hc : c = slash ∨ c = backslash) :
    d = slash ∨ d = backslash := by
  rcases h with h | ⟨-, hd⟩
  · rcases hc with rfl | rfl
    · exact Or.inl (eq_of_toLower_eq h (by decide))
    · exact Or.inr (eq_of_toLower_eq h (by decide))
  · exact hd

/-- So are the other characters that a pattern does not use for themselves. -/
lemma Respelled.eq (h : Respelled c d) (hc : c = star ∨ c = questionMark) : d = c := by
  rcases h with h | ⟨hseparator, -⟩
  · rcases hc with rfl | rfl
    · exact eq_of_toLower_eq h (by decide)
    · exact eq_of_toLower_eq h (by decide)
  · rcases hc with rfl | rfl
    · exact absurd hseparator (by decide)
    · exact absurd hseparator (by decide)

/-- What a character of a pattern accepts does not depend on spelling. -/
lemma Respelled.wildcardAccepts_eq {c' d' : UInt8} (hc : Respelled c c') (hd : Respelled d d') :
    wildcardAccepts c d = wildcardAccepts c' d' := by
  have hseparator {a b : UInt8} (h : Respelled a b) :
      (a = slash ∨ a = backslash) ↔ (b = slash ∨ b = backslash) :=
    ⟨h.separator, h.symm.separator⟩
  unfold wildcardAccepts
  by_cases hquestion : c = questionMark
  · rw [if_pos hquestion, if_pos ((hc.eq (Or.inr hquestion)).trans hquestion)]
  · have hquestion' : c' ≠ questionMark := fun heq =>
      hquestion ((hc.symm.eq (Or.inr heq)).trans heq)
    rw [if_neg hquestion, if_neg hquestion']
    by_cases hslash : c = slash ∨ c = backslash
    · rw [if_pos hslash, if_pos (hc.separator hslash)]
      exact decide_eq_decide.mpr (hseparator hd)
    · have hslash' : ¬(c' = slash ∨ c' = backslash) := mt hc.symm.separator hslash
      have hletter : toLower c = toLower c' := hc.resolve_right fun h => hslash h.1
      rw [if_neg hslash, if_neg hslash', hletter]
      refine decide_eq_decide.mpr ?_
      rcases hd with hd | ⟨hd, hd'⟩
      · rw [hd]
      · -- A separator is not the spelling of anything else.
        refine iff_of_false (fun h => ?_) (fun h => ?_)
        · exact hslash' (Respelled.separator (Or.inl h) hd)
        · exact hslash' (Respelled.separator (Or.inl h) hd')

/-- What a character of a pattern stands for does not depend on spelling. -/
lemma Respelled.blind (h : Respelled c d) :
    Item.Blind Respelled (wildcardItem c) (wildcardItem d) := by
  by_cases hstar : c = star
  · obtain rfl := (h.eq (Or.inl hstar)).trans hstar
    rw [hstar, wildcardItem_star]
    exact .run
  · have hstar' : d ≠ star := fun heq => hstar ((h.symm.eq (Or.inl heq)).trans heq)
    rw [wildcardItem_of_ne hstar, wildcardItem_of_ne hstar']
    exact .one fun _ _ hd => h.wildcardAccepts_eq hd

/-- What is found for one spelling is found for any other. -/
lemma filenameWildcardMatch_of_respelled (hpattern : List.Forall₂ Respelled pattern pattern')
    (hstr : List.Forall₂ Respelled str str') (h : filenameWildcardMatch pattern str = true) :
    filenameWildcardMatch pattern' str' = true := by
  rw [filenameWildcardMatch_iff_reads] at h ⊢
  refine h.congr ?_ hstr
  rw [List.forall₂_map_left_iff, List.forall₂_map_right_iff]
  exact hpattern.imp fun _ _ => Respelled.blind

/-- **Spellings.** Which separators are written and the case of the letters do not matter, in the
pattern and in the string. -/
theorem filenameWildcardMatch_respelled (hpattern : List.Forall₂ Respelled pattern pattern')
    (hstr : List.Forall₂ Respelled str str') :
    filenameWildcardMatch pattern str = filenameWildcardMatch pattern' str' := by
  have hsymm {text text' : Bytes} (h : List.Forall₂ Respelled text text') :
      List.Forall₂ Respelled text' text :=
    List.Forall₂.flip (h.imp fun _ _ => Respelled.symm)
  rw [Bool.eq_iff_iff]
  exact ⟨filenameWildcardMatch_of_respelled hpattern hstr,
    filenameWildcardMatch_of_respelled (hsymm hpattern) (hsymm hstr)⟩

/-- The pattern `C:/*` with the string `c:\A`, and the pattern `c:\*` with the string `C:/a`. -/
theorem filenameWildcardMatch_respelled_drive :
    filenameWildcardMatch [67, 58, slash, star] [99, 58, backslash, 65] =
      filenameWildcardMatch [99, 58, backslash, star] [67, 58, slash, 97] :=
  filenameWildcardMatch_respelled (by decide) (by decide)

end Encapsule
