import Mathlib.Data.List.Infix

/-!
# The longest suffix with a property

A buffer that throws away its oldest entries until what is left fits ends with a suffix of what it
held.  `LongestSuffix.IsLongest P s l` says that it threw away no more than it had to: `s` is the
longest suffix of `l` that has the property `P`.  The two rules are the two branches of such a loop:
where everything fits nothing is thrown away (`IsLongest.refl`), and where it does not the front
goes (`IsLongest.cons`).
-/

namespace LongestSuffix

variable {α : Type*} {P : List α → Prop} {a : α} {s l : List α}

/-- `s` is the longest suffix of `l` that has the property `P`. -/
structure IsLongest (P : List α → Prop) (s l : List α) : Prop where
  suffix : s <:+ l
  fits : P s
  longest : ∀ s', s' <:+ l → P s' → s'.length ≤ s.length

lemma IsLongest.refl (h : P l) : IsLongest P l l :=
  ⟨List.suffix_rfl, h, fun _ hs _ => hs.length_le⟩

/-- Where the whole list does not have the property the front goes. -/
lemma IsLongest.cons (h : IsLongest P s l) (hfront : ¬P (a :: l)) : IsLongest P s (a :: l) := by
  refine ⟨h.suffix.trans (List.suffix_cons a l), h.fits, fun s' hsuffix hfits => ?_⟩
  rcases List.suffix_cons_iff.mp hsuffix with rfl | hrest
  · exact absurd hfits hfront
  · exact h.longest s' hrest hfits

end LongestSuffix
