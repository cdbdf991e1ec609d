import Encapsule.Common.Schema
import Encapsule.Foundation.Loop
import Encapsule.Foundation.Occurrences

/-!
# Replacing in a string

`replace_all_inplace` and `replace_all` of `utils.hpp`.  The loop looks for the next occurrence from
a position on, and goes on behind the text that it has put in its place.  What is behind the
position is always the end of the input (`Unread`), so nothing that was put in is looked at again,
and the loop ends although the string may grow.

`replaceAll_leftmost` says that the pieces between the leftmost occurrences are joined by the
replacement.
-/

namespace Encapsule

open Occurrences

/-! ## The loop -/

/-- `std::string::find`: the lowest place from `pos` on. -/
def stringFind (text what : Bytes) (pos : ℕ) : Option ℕ :=
  if text.length < pos then none else (first what (text.drop pos)).map (pos + ·)

/-- The state of the loop of `replace_all_inplace`. -/
structure ReplaceState where
  inout : Bytes
  pos : ℕ := 0
  count : ℕ := 0
  deriving DecidableEq

/-- A round of the loop: the next occurrence is replaced, or the loop ends. -/
def ReplaceState.round (what with' : Bytes) (s : ReplaceState) : Option ReplaceState :=
  (stringFind s.inout what s.pos).map fun pos =>
    { inout := s.inout.take pos ++ with' ++ s.inout.drop (pos + what.length)
      pos := pos + with'.length
      count := s.count + 1 }

/-- `replace_all_inplace`: the string and the number of replacements, if so many rounds are
enough. -/
def replaceAllInplace (rounds : ℕ) (inout what with' : Bytes) : Option (Bytes × ℕ) :=
  (Loop.run (ReplaceState.round what with') rounds { inout }).map fun s => (s.inout, s.count)

/-- `replace_all`. -/
def replaceAll (rounds : ℕ) (input what with' : Bytes) : Option Bytes :=
  (replaceAllInplace rounds input what with').map Prod.fst

/-! ## A round -/

variable {what with' input front rest : Bytes} {s next : ReplaceState} {pieces : List Bytes}

/-- What a round does: the replacement is put in front of the position, and what was behind the
occurrence stays behind the position. -/
structure Replaces (what with' front rest : Bytes) (s next : ReplaceState) : Prop where
  leftmost : Leftmost what front (s.inout.drop s.pos)
  behind : s.inout.drop s.pos = front ++ what ++ rest
  pos_le : next.pos ≤ next.inout.length
  take : next.inout.take next.pos = s.inout.take s.pos ++ front ++ with'
  drop : next.inout.drop next.pos = rest
  count : next.count = s.count + 1

/-- A round replaces the leftmost occurrence in what is behind the position. -/
lemma exists_replaces (hpos : s.pos ≤ s.inout.length) (h : s.round what with' = some next) :
    ∃ front rest, Replaces what with' front rest s next := by
  unfold ReplaceState.round stringFind at h
  rw [if_neg (Nat.not_lt.mpr hpos), Option.map_eq_some_iff] at h
  obtain ⟨pos, hfind, rfl⟩ := h
  obtain ⟨i, hfirst, rfl⟩ := Option.map_eq_some_iff.mp hfind
  obtain ⟨front, hfront, rfl⟩ := exists_leftmost hfirst
  obtain ⟨rest, hrest⟩ := hfront.occurs
  have htake : s.inout.take (s.pos + front.length) = s.inout.take s.pos ++ front := by
    rw [List.take_add, ← hrest, List.append_assoc, List.take_left]
  have hdrop : s.inout.drop (s.pos + front.length + what.length) = rest := by
    rw [Nat.add_assoc, ← List.drop_drop, ← hrest, ← List.length_append, List.drop_left]
  have hplace : s.pos + front.length + with'.length
      = (s.inout.take s.pos ++ front ++ with').length := by
    rw [List.length_append, List.length_append, List.length_take, Nat.min_eq_left hpos]
  refine ⟨front, rest, hfront, hrest.symm, ?_, ?_, ?_, rfl⟩
  all_goals dsimp only
  all_goals rw [htake, hdrop, hplace]
  · exact (List.prefix_append _ rest).length_le
  · exact List.take_left
  · exact List.drop_left

/-- The loop ends where the word does not occur behind the position. -/
lemma round_eq_none (hpos : s.pos ≤ s.inout.length) (h : s.round what with' = none) :
    ¬what <:+: s.inout.drop s.pos := by
  unfold ReplaceState.round stringFind at h
  rw [if_neg (Nat.not_lt.mpr hpos), Option.map_eq_none_iff, Option.map_eq_none_iff] at h
  exact first_eq_none.mp h

/-! ## What is behind the position -/

/-- Behind the position is the end of the input. -/
structure Unread (input : Bytes) (s : ReplaceState) : Prop where
  pos_le : s.pos ≤ s.inout.length
  suffix : s.inout.drop s.pos <:+ input

/-- A round leaves an end of the input behind the position. -/
lemma Unread.round (hs : Unread input s) (h : s.round what with' = some next) :
    Unread input next := by
  obtain ⟨front, rest, hround⟩ := exists_replaces hs.pos_le h
  refine ⟨hround.pos_le, ?_⟩
  have hsuffix : rest <:+ s.inout.drop s.pos := ⟨front ++ what, hround.behind.symm⟩
  rw [hround.drop]
  exact hsuffix.trans hs.suffix

/-- Wherever the loop comes to, the end of the input is behind the position. -/
lemma Unread.of_reaches (h : Loop.Reaches (ReplaceState.round what with') { inout := input } s) :
    Unread input s :=
  h.invariant (fun _ _ hround hs => hs.round hround) ⟨Nat.zero_le _, List.suffix_refl _⟩

/-! ## The pieces -/

/-- What is in front of the position are the first pieces and their replacements, and the other
pieces are behind it. -/
structure Joined (what with' : Bytes) (pieces tail : List Bytes) (s : ReplaceState) : Prop where
  pos_le : s.pos ≤ s.inout.length
  cut : Cut what (s.inout.drop s.pos) tail
  text : s.inout.take s.pos ++ with'.intercalate tail = with'.intercalate pieces
  count : s.count + tail.length = pieces.length

/-- A round joins a piece. -/
lemma Joined.round {tail : List Bytes} (hs : Joined what with' pieces tail s)
    (h : s.round what with' = some next) : ∃ tail', Joined what with' pieces tail' next := by
  obtain ⟨front, rest, hround⟩ := exists_replaces hs.pos_le h
  obtain ⟨tail', rfl, hcut⟩ := hs.cut.of_leftmost hround.leftmost hround.behind
  refine ⟨tail', hround.pos_le, ?_, ?_, ?_⟩
  · rwa [hround.drop]
  · rw [hround.take, ← hs.text, List.intercalate_cons_of_ne_nil hcut.ne_nil]
    simp only [List.append_assoc]
  · have hcount := hs.count
    rw [List.length_cons] at hcount
    rw [hround.count]
    omega

/-- Where the loop ends, all pieces are joined. -/
lemma Joined.of_end {tail : List Bytes} (hs : Joined what with' pieces tail s)
    (h : s.round what with' = none) :
    s.inout = with'.intercalate pieces ∧ s.count = pieces.length - 1 := by
  have hcut : Cut what (s.inout.drop s.pos) [s.inout.drop s.pos] :=
    .last (round_eq_none hs.pos_le h)
  obtain rfl := hs.cut.unique hcut
  have htext := hs.text
  have hcount := hs.count
  rw [List.intercalate_singleton, List.take_append_drop] at htext
  rw [List.length_singleton] at hcount
  exact ⟨htext, by omega⟩

/-- There is less behind the position after a round. -/
lemma Replaces.length_lt (hwhat : what ≠ []) (h : Replaces what with' front rest s next) :
    (next.inout.drop next.pos).length < (s.inout.drop s.pos).length := by
  have hpos := List.length_pos_iff.mpr hwhat
  rw [h.drop, h.behind, List.length_append, List.length_append]
  omega

/-- The loop ends, and the pieces are joined by the replacement. -/
lemma replaceAllInplace_eq {rounds : ℕ} (hwhat : what ≠ []) (h : Cut what input pieces)
    (hrounds : input.length < rounds) :
    replaceAllInplace rounds input what with' =
      some (with'.intercalate pieces, pieces.length - 1) := by
  have hstart : Joined what with' pieces pieces { inout := input } :=
    ⟨Nat.zero_le _, h, List.nil_append _, Nat.zero_add _⟩
  have hstep : ∀ s next, s.round what with' = some next →
      (∃ tail, Joined what with' pieces tail s) → (∃ tail, Joined what with' pieces tail next) ∧
        (next.inout.drop next.pos).length < (s.inout.drop s.pos).length := by
    rintro s next hround ⟨tail, hs⟩
    obtain ⟨front, rest, hreplaces⟩ := exists_replaces hs.pos_le hround
    exact ⟨hs.round hround, hreplaces.length_lt hwhat⟩
  obtain ⟨t, hrun, hend, tail, ht⟩ :=
    Loop.run_of_variant (I := fun s => ∃ tail, Joined what with' pieces tail s) _ hstep
      ⟨pieces, hstart⟩ hrounds
  obtain ⟨htext, hcount⟩ := ht.of_end hend
  rw [replaceAllInplace, hrun, Option.map_some, htext, hcount]

/-- Replacing a word by itself. -/
theorem replaceAll_self {rounds : ℕ} (hwhat : what ≠ []) (hrounds : input.length < rounds) :
    replaceAll rounds input what what = some input := by
  obtain ⟨pieces, hpieces⟩ := exists_cut hwhat input
  rw [replaceAll, replaceAllInplace_eq hwhat hpieces hrounds, Option.map_some,
    hpieces.intercalate_eq]

/-! ## Replacing a letter -/

/-- Replacing one letter by another. -/
lemma replaceAll_letter {rounds : ℕ} (a b : UInt8) (hrounds : input.length < rounds) :
    replaceAll rounds input [a] [b] = some (input.map fun c => if c = a then b else c) := by
  have hletter : [a] ≠ [] := List.cons_ne_nil _ _
  obtain ⟨pieces, hpieces⟩ := exists_cut hletter input
  rw [replaceAll, replaceAllInplace_eq hletter hpieces hrounds, Option.map_some,
    hpieces.intercalate_letter]

/-- Replacing a letter and back. -/
lemma map_letter_back {a b : UInt8} (h : b ∉ input) :
    (input.map fun c => if c = a then b else c).map (fun c => if c = b then a else c) = input := by
  rw [List.map_map]
  have hmap : input.map ((fun c => if c = b then a else c) ∘ fun c => if c = a then b else c)
      = input.map id := by
    refine List.map_congr_left fun c hc => ?_
    have hne : c ≠ b := by
      rintro rfl
      exact h hc
    by_cases hca : c = a
    · simp [hca]
    · simp [hca, hne]
  rw [hmap, List.map_id]

/-- The pieces between the leftmost occurrences that do not overlap are joined by the replacement,
whatever it is, and nothing that was put in is looked at again. -/
theorem replaceAll_leftmost (hwhat : what ≠ []) (input with' : Bytes) :
    (∃! pieces, Cut what input pieces) ∧
    (∀ pieces, Cut what input pieces → ∀ rounds, input.length < rounds →
      replaceAllInplace rounds input what with' =
          some (with'.intercalate pieces, pieces.length - 1) ∧
        replaceAll rounds input what with' = some (with'.intercalate pieces)) ∧
    (∀ s, Loop.Reaches (ReplaceState.round what with') { inout := input } s →
      Unread input s ∧
        ∀ next, s.round what with' = some next →
          ∃ front rest, Replaces what with' front rest s next) ∧
    ∀ a b, b ∉ input → ∀ rounds, input.length < rounds →
      (replaceAll rounds input [a] [b]).bind (fun text => replaceAll rounds text [b] [a]) =
        some input := by
  refine ⟨existsUnique_cut hwhat input, fun pieces hpieces rounds hrounds => ?_,
    fun s hs => ?_, fun a b hb rounds hrounds => ?_⟩
  · have hinplace : replaceAllInplace rounds input what with' =
        some (with'.intercalate pieces, pieces.length - 1) :=
      replaceAllInplace_eq hwhat hpieces hrounds
    exact ⟨hinplace, by rw [replaceAll, hinplace, Option.map_some]⟩
  · have hunread := Unread.of_reaches hs
    exact ⟨hunread, fun next hround => exists_replaces hunread.pos_le hround⟩
  · rw [replaceAll_letter a b hrounds, Option.bind_some,
      replaceAll_letter b a (by rwa [List.length_map]), map_letter_back hb]

/-- The `aa` in `aaaa` do not overlap. -/
theorem replaceAll_leftmost_aaaa :
    replaceAllInplace 5 [97, 97, 97, 97] [97, 97] [98, 97, 97] =
      some ([98, 97, 97, 98, 97, 97], 2) := by
  have hlast : Cut [97, 97] [] ([[]] : List Bytes) := .last (by decide)
  have hsecond : Cut [97, 97] [97, 97] ([[], []] : List Bytes) :=
    @Cut.piece _ _ [] [] _ ⟨⟨[], rfl⟩, fun _ _ => Nat.zero_le _⟩ hlast
  have hcut : Cut [97, 97] [97, 97, 97, 97] ([[], [], []] : List Bytes) :=
    @Cut.piece _ _ [] [97, 97] _ ⟨⟨[97, 97], rfl⟩, fun _ _ => Nat.zero_le _⟩ hsecond
  have hwhat : ([97, 97] : Bytes) ≠ [] := by decide
  exact ((replaceAll_leftmost hwhat [97, 97, 97, 97] [98, 97, 97]).2.1 _ hcut 5 (by decide)).1

end Encapsule
