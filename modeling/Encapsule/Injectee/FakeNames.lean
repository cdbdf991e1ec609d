import Encapsule.Common.Redaction
import Encapsule.Injectee.Winnet

/-!
# Names that are not faked

The rules of `fakeip.hpp` for names that are resolved locally.  Each matching helper is a statement
about the letters of the name in lower case: a rule looks for a suffix (`fakeipEndsWith_iff`), for a
word anywhere (`fakeipContains_iff`) or at the first label (`fakeipFirstLabelIs_iff`).  The rules of
the one-argument overload are `KeptLocal`; they ignore case and a root dot.  The domain of the
caller is compared in part as it is spelt, so the overload that takes it does neither.

* `noFakeName_root_dot`: when a root dot changes the verdict.
* `noFakeName_letter_case`: when the spelling does.
-/

namespace Encapsule

/-- `'.'`. -/
def dot : UInt8 := 46

/-! ## The rules -/

/-- `fakeip_lower`. -/
def fakeipLower (c : UInt8) : UInt8 := if 65 ≤ c.toNat ∧ c.toNat ≤ 90 then c + 32 else c

/-- The inner loop of `fakeip_ends_with` and of `fakeip_contains`: the letters of the name from
`off` on, in lower case, are those of the pattern. -/
def fakeipMatchesAt (name pattern : Bytes) (off : ℕ) : Bool :=
  (List.range pattern.length).all fun i =>
    fakeipLower (octetAt name (off + i)) == octetAt pattern i

/-- `fakeip_ends_with`. -/
def fakeipEndsWith (name suffix : Bytes) : Bool :=
  if name.length < suffix.length then false
  else fakeipMatchesAt name suffix (name.length - suffix.length)

/-- `fakeip_lower_case_equal`. -/
def fakeipLowerCaseEqual (a b : Bytes) : Bool :=
  if a.length ≠ b.length then false
  else (List.range a.length).all fun i => fakeipLower (octetAt a i) == fakeipLower (octetAt b i)

/-- `fakeip_first_label_is`. -/
def fakeipFirstLabelIs (name label : Bytes) : Bool :=
  fakeipLowerCaseEqual (name.takeWhile (· ≠ dot)) label

/-- `fakeip_contains`. -/
def fakeipContains (name needle : Bytes) : Bool :=
  (List.range (name.length + 1 - needle.length)).any (fakeipMatchesAt name needle)

/-- A name without its root dot. -/
def withoutRootDot (name : Bytes) : Bytes :=
  if name.getLast? = some dot then name.dropLast else name

/-- `no_fake_name(name)`. -/
def noFakeName (name : Bytes) : Bool :=
  let name := withoutRootDot name
  if name = [] then true
  else if dot ∉ name then true
  else if fakeipEndsWith name (literal ".local") then true
  else if fakeipEndsWith name (literal ".arpa") then true
  else if fakeipContains name (literal "_msdcs") ∨ fakeipEndsWith name (literal ".msdcs") then true
  else if fakeipFirstLabelIs name (literal "wpad") then true
  else if fakeipContains name (literal "dc=") then true
  else false

/-- `no_fake_name(name, ad_suffix)`. -/
def noFakeNameAdSuffix (name adSuffix : Bytes) : Bool :=
  if noFakeName name then true
  else if adSuffix = [] then false
  else if fakeipLowerCaseEqual name adSuffix then true
  else if adSuffix.length < name.length ∧ fakeipEndsWith name adSuffix then
    octetAt name (name.length - adSuffix.length - 1) == dot
  else false

/-! ## Letters in lower case -/

/-- The name in lower case. -/
def lowered (name : Bytes) : Bytes := name.map fakeipLower

variable {name pattern s : Bytes} {off : ℕ}

@[simp] lemma length_lowered (name : Bytes) : (lowered name).length = name.length :=
  List.length_map ..

@[simp] lemma lowered_append (a b : Bytes) : lowered (a ++ b) = lowered a ++ lowered b :=
  List.map_append ..

@[simp] lemma lowered_eq_nil : lowered name = [] ↔ name = [] := List.map_eq_nil_iff

@[simp] lemma octetAt_lowered (name : Bytes) (i : ℕ) :
    octetAt (lowered name) i = fakeipLower (octetAt name i) := by
  simp only [octetAt, lowered, List.getD_eq_getElem?_getD, List.getElem?_map]
  cases name[i]? with
  | none => rfl
  | some c => rfl

/-- Only the dot has the dot as its lower case. -/
lemma fakeipLower_eq_dot {c : UInt8} : fakeipLower c = dot ↔ c = dot := by
  unfold fakeipLower dot
  split_ifs with h
  · constructor
    · intro hc
      have hval : (c + 32).toNat = 46 := by rw [hc]; rfl
      rw [UInt8.toNat_add] at hval
      change (c.toNat + 32) % 256 = 46 at hval
      omega
    · rintro rfl
      exact absurd h (by decide)
  · exact Iff.rfl

/-- Lower case of lower case is lower case. -/
@[simp] lemma fakeipLower_fakeipLower (c : UInt8) :
    fakeipLower (fakeipLower c) = fakeipLower c := by
  by_cases h : 65 ≤ c.toNat ∧ c.toNat ≤ 90
  · have hval : (c + 32).toNat = c.toNat + 32 := by
      rw [UInt8.toNat_add]
      change (c.toNat + 32) % 256 = c.toNat + 32
      omega
    have hlow : fakeipLower c = c + 32 := if_pos h
    rw [hlow]
    exact if_neg (by omega)
  · have hlow : fakeipLower c = c := if_neg h
    rw [hlow, hlow]

@[simp] lemma lowered_lowered (name : Bytes) : lowered (lowered name) = lowered name := by
  simp [lowered]

/-! ## What the helpers look for -/

/-- The pattern is found where the block of its length is the pattern. -/
lemma fakeipMatchesAt_iff :
    fakeipMatchesAt name pattern off = true ↔
      octetsAt (lowered name) off pattern.length = pattern := by
  rw [octetsAt_eq_iff]
  simp [fakeipMatchesAt]

/-- A name ends with a suffix. -/
lemma fakeipEndsWith_iff : fakeipEndsWith name pattern = true ↔ pattern <:+ lowered name := by
  unfold fakeipEndsWith
  split_ifs with hshort
  · constructor
    · exact False.elim
    · intro hsuffix
      have hle := hsuffix.length_le
      rw [length_lowered] at hle
      omega
  · have hle : name.length - pattern.length + pattern.length = name.length :=
      Nat.sub_add_cancel (Nat.not_lt.mp hshort)
    have hblock : octetsAt (lowered name) (name.length - pattern.length) pattern.length =
        (lowered name).drop (name.length - pattern.length) := by
      rw [octetsAt_eq (by rw [length_lowered, hle])]
      apply List.take_of_length_le
      rw [List.length_drop, length_lowered]
      omega
    rw [fakeipMatchesAt_iff, hblock, List.suffix_iff_eq_drop, length_lowered, eq_comm]

/-- A name contains a word. -/
lemma fakeipContains_iff : fakeipContains name pattern = true ↔ pattern <:+: lowered name := by
  simp only [fakeipContains, List.any_eq_true, List.mem_range, fakeipMatchesAt_iff]
  constructor
  · rintro ⟨i, hi, hblock⟩
    rw [octetsAt_eq (by rw [length_lowered]; omega)] at hblock
    rw [← hblock]
    exact (List.take_prefix _ _).isInfix.trans (List.drop_suffix _ _).isInfix
  · rintro ⟨front, back, hname⟩
    have hlength := congrArg List.length hname
    simp only [List.length_append, length_lowered] at hlength
    refine ⟨front.length, by omega, ?_⟩
    rw [octetsAt_eq (by rw [length_lowered]; omega), ← hname, List.append_assoc,
      List.drop_left, List.take_left]

/-- Two names are equal up to the case of their letters. -/
lemma fakeipLowerCaseEqual_iff : fakeipLowerCaseEqual name s = true ↔ lowered name = lowered s := by
  unfold fakeipLowerCaseEqual
  split_ifs with hlength
  · constructor
    · exact False.elim
    · intro h
      have heq := congrArg List.length h
      rw [length_lowered, length_lowered] at heq
      exact absurd heq hlength
  · have hlen : (lowered name).length = (lowered s).length := by
      rw [length_lowered, length_lowered]
      exact not_not.mp hlength
    have hblock : octetsAt (lowered s) 0 (lowered name).length = lowered s := by
      rw [octetsAt_eq (by omega), List.drop_zero, hlen, List.take_length]
    rw [eq_comm (a := lowered name)]
    nth_rewrite 1 [← hblock]
    rw [octetsAt_eq_iff]
    simp only [List.all_eq_true, List.mem_range, beq_iff_eq, length_lowered, octetAt_lowered,
      Nat.zero_add]
    exact forall₂_congr fun i _ => eq_comm

/-- The first label is a word, up to the case of its letters. -/
lemma fakeipFirstLabelIs_iff :
    fakeipFirstLabelIs name pattern = true ↔
      (lowered name).takeWhile (· ≠ dot) = lowered pattern := by
  have hdot : (fun c => decide (c ≠ dot)) ∘ fakeipLower = fun c => decide (c ≠ dot) := by
    funext c
    simp [fakeipLower_eq_dot]
  have hlabel : (lowered name).takeWhile (· ≠ dot) = lowered (name.takeWhile (· ≠ dot)) := by
    unfold lowered
    rw [List.takeWhile_map, hdot]
  rw [fakeipFirstLabelIs, fakeipLowerCaseEqual_iff, hlabel]

/-! ## The rules, on the letters -/

/-- One of the rules for names that stay local applies: a single label, mDNS, a reverse lookup, a
service location of a directory, the first label `wpad`, or the spelling of a domain as a
distinguished name. -/
def KeptLocal (name : Bytes) : Prop :=
  let letters := withoutRootDot (lowered name)
  dot ∉ letters ∨ literal ".local" <:+ letters ∨ literal ".arpa" <:+ letters ∨
    literal "_msdcs" <:+: letters ∨ literal ".msdcs" <:+ letters ∨
    letters.takeWhile (· ≠ dot) = literal "wpad" ∨ literal "dc=" <:+: letters

/-- The name is the domain up to the case of its letters, or ends with a dot and the domain as it is
spelt. -/
def InDomain (name domain : Bytes) : Prop :=
  lowered name = lowered domain ∨ dot :: domain <:+ lowered name

/-- The root dot stays where it is. -/
lemma getLast?_lowered : (lowered name).getLast? = some dot ↔ name.getLast? = some dot := by
  unfold lowered
  rw [List.getLast?_map, Option.map_eq_some_iff]
  simp only [fakeipLower_eq_dot, exists_eq_right]

/-- The root dot is no letter. -/
lemma lowered_withoutRootDot (name : Bytes) :
    lowered (withoutRootDot name) = withoutRootDot (lowered name) := by
  unfold withoutRootDot
  by_cases hdot : name.getLast? = some dot
  · rw [if_pos hdot, if_pos (getLast?_lowered.mpr hdot)]
    exact List.map_dropLast ..
  · rw [if_neg hdot, if_neg (getLast?_lowered.not.mpr hdot)]

lemma dot_mem_lowered : dot ∈ lowered name ↔ dot ∈ name := by
  simp [lowered, fakeipLower_eq_dot]

/-- The one-argument overload keeps a name local when one of the rules applies. -/
lemma noFakeName_iff : noFakeName name = true ↔ KeptLocal name := by
  have hwpad : lowered (literal "wpad") = literal "wpad" := by decide
  unfold noFakeName KeptLocal
  rw [← lowered_withoutRootDot]
  generalize withoutRootDot name = n
  have hnil : n = [] → dot ∉ n := by
    rintro rfl
    exact List.not_mem_nil
  simp only [Bool.if_true_left, Bool.if_false_right, Bool.and_true, Bool.or_eq_true,
    decide_eq_true_eq, fakeipEndsWith_iff, fakeipContains_iff, fakeipFirstLabelIs_iff, hwpad,
    dot_mem_lowered, or_assoc]
  constructor
  · rintro (hempty | hrule)
    · exact Or.inl (hnil hempty)
    · exact hrule
  · exact Or.inr

/-- The letter in front of a suffix. -/
lemma octetAt_of_suffix {init : Bytes} {c : UInt8} (h : init ++ c :: s = lowered name) :
    fakeipLower (octetAt name (name.length - s.length - 1)) = c := by
  have hlength := congrArg List.length h
  simp only [List.length_append, List.length_cons, length_lowered] at hlength
  have hindex : name.length - s.length - 1 = init.length := by omega
  rw [← octetAt_lowered, ← h, hindex]
  simp [octetAt]

/-- A name lies below a domain when the domain is at its end with a dot in front. -/
lemma below_iff :
    (s.length < name.length ∧ s <:+ lowered name) ∧
        octetAt name (name.length - s.length - 1) = dot ↔ dot :: s <:+ lowered name := by
  constructor
  · rintro ⟨⟨hlt, front, hfront⟩, hoctet⟩
    rcases List.eq_nil_or_concat front with rfl | ⟨init, c, rfl⟩
    · have hlength := congrArg List.length hfront
      rw [List.nil_append, length_lowered] at hlength
      omega
    · rw [List.concat_eq_append, List.append_assoc, List.singleton_append] at hfront
      have hc := octetAt_of_suffix hfront
      rw [hoctet] at hc
      subst hc
      exact ⟨init, hfront⟩
  · rintro ⟨init, hinit⟩
    have hlength := congrArg List.length hinit
    simp only [List.length_append, List.length_cons, length_lowered] at hlength
    refine ⟨⟨by omega, init ++ [dot], by simpa using hinit⟩, ?_⟩
    exact fakeipLower_eq_dot.mp (octetAt_of_suffix hinit)

/-- The suffix rule applies when the name is the domain, or lies below it. -/
lemma noFakeNameAdSuffix_iff :
    noFakeNameAdSuffix name s = true ↔ KeptLocal name ∨ s ≠ [] ∧ InDomain name s := by
  unfold InDomain
  rw [← below_iff]
  simp only [noFakeNameAdSuffix, noFakeName_iff, fakeipLowerCaseEqual_iff, fakeipEndsWith_iff,
    Bool.if_true_left, Bool.if_false_left, Bool.if_false_right, Bool.or_eq_true, Bool.and_eq_true,
    decide_eq_true_eq, beq_iff_eq, Bool.not_eq_true', decide_eq_false_iff_not, ne_eq]

/-! ## A root dot -/

@[simp] lemma withoutRootDot_append (name : Bytes) : withoutRootDot (name ++ [dot]) = name := by
  simp [withoutRootDot]

lemma withoutRootDot_of_ne (h : name.getLast? ≠ some dot) : withoutRootDot name = name := if_neg h

/-- The rules of the one-argument overload do not see a root dot. -/
lemma keptLocal_append_dot (h : name.getLast? ≠ some dot) :
    KeptLocal (name ++ [dot]) ↔ KeptLocal name := by
  have hdot : lowered [dot] = [dot] := by decide
  unfold KeptLocal
  rw [lowered_append, hdot, withoutRootDot_append,
    withoutRootDot_of_ne (getLast?_lowered.not.mpr h)]

/-- What ends with a list ends with its last letter. -/
lemma getLast?_of_suffix {l : Bytes} (hs : s ≠ []) (h : s <:+ l) : l.getLast? = s.getLast? := by
  obtain ⟨front, rfl⟩ := h
  exact List.getLast?_append_of_ne_nil front hs

/-- A name ends with a dot where the domain that it lies in does. -/
lemma InDomain.getLast?_iff (hs : s ≠ []) (h : InDomain name s) :
    name.getLast? = some dot ↔ s.getLast? = some dot := by
  rcases h with heq | hbelow
  · rw [← getLast?_lowered, heq, getLast?_lowered]
  · have hlast := getLast?_of_suffix (List.cons_ne_nil dot s) hbelow
    rw [← getLast?_lowered, hlast, List.getLast?_cons_of_ne_nil hs]

/-- A root dot of both the name and the domain may be dropped. -/
lemma inDomain_append_dot : InDomain (name ++ [dot]) (s ++ [dot]) ↔ InDomain name s := by
  have hdot : lowered [dot] = [dot] := by decide
  unfold InDomain
  rw [lowered_append, lowered_append, hdot, List.append_left_inj]
  refine or_congr_right ⟨?_, ?_⟩
  · rintro ⟨front, hfront⟩
    rw [← List.cons_append, ← List.append_assoc, List.append_left_inj] at hfront
    exact ⟨front, hfront⟩
  · rintro ⟨front, hfront⟩
    refine ⟨front, ?_⟩
    rw [← List.cons_append, ← List.append_assoc, hfront]

/-- Exactly one of the spellings of a name with and without a root dot lies in the domain, or
neither does. -/
lemma inDomain_append_dot_iff (h : name.getLast? ≠ some dot) (hs : s ≠ []) :
    (InDomain (name ++ [dot]) s ↔ InDomain name s) ↔ ¬InDomain name (withoutRootDot s) := by
  have hlast : (name ++ [dot]).getLast? = some dot := by simp
  by_cases hroot : s.getLast? = some dot
  · obtain ⟨domain, rfl⟩ := List.getLast?_eq_some_iff.mp hroot
    have hout : ¬InDomain name (domain ++ [dot]) := fun hin => h ((hin.getLast?_iff hs).mpr hroot)
    rw [withoutRootDot_append, inDomain_append_dot]
    exact iff_false_right hout
  · have hout : ¬InDomain (name ++ [dot]) s := fun hin => hroot ((hin.getLast?_iff hs).mp hlast)
    rw [withoutRootDot_of_ne hroot]
    exact iff_false_left hout

/-- A root dot changes no verdict of the one-argument overload.  It changes that of the other one
exactly for the names that no general rule keeps local and that lie in the domain of the caller. -/
theorem noFakeName_root_dot (name s : Bytes) (h : name.getLast? ≠ some dot) :
    (noFakeNameAdSuffix (name ++ [dot]) s = noFakeNameAdSuffix name s ∧
        noFakeName (name ++ [dot]) = noFakeName name) ↔
      KeptLocal name ∨ s = [] ∨ ¬InDomain name (withoutRootDot s) := by
  have hone : noFakeName (name ++ [dot]) = noFakeName name := by
    rw [Bool.eq_iff_iff, noFakeName_iff, noFakeName_iff, keptLocal_append_dot h]
  rw [and_iff_left hone, Bool.eq_iff_iff, noFakeNameAdSuffix_iff, noFakeNameAdSuffix_iff,
    keptLocal_append_dot h]
  by_cases hkept : KeptLocal name
  · simp only [hkept, true_or]
  · by_cases hs : s = []
    · simp only [hs, ne_eq, not_true_eq_false, false_and, true_or, or_true]
    · rw [← inDomain_append_dot_iff h hs]
      simp only [hkept, hs, false_or, ne_eq, not_false_eq_true, true_and]

/-- An ordinary name. -/
theorem noFakeName_root_dot_example_org :
    noFakeNameAdSuffix (literal "example.org.") (literal "corp.example.com") =
      noFakeNameAdSuffix (literal "example.org") (literal "corp.example.com") := by
  have hdot : literal "example.org." = literal "example.org" ++ [dot] := by decide
  rw [hdot]
  refine ((noFakeName_root_dot (literal "example.org") (literal "corp.example.com")
    (by decide)).mpr (Or.inr (Or.inr ?_))).1
  unfold InDomain
  decide

/-- The domain itself loses its rule when it is written with a root dot. -/
theorem not_noFakeName_root_dot_domain :
    (literal "corp.example.com").getLast? ≠ some dot ∧
      noFakeNameAdSuffix (literal "corp.example.com") (literal "corp.example.com") = true ∧
      noFakeNameAdSuffix (literal "corp.example.com" ++ [dot]) (literal "corp.example.com") ≠
        noFakeNameAdSuffix (literal "corp.example.com") (literal "corp.example.com") := by
  decide

/-! ## The case of letters -/

variable {name' s' : Bytes}

/-- The rules of the one-argument overload do not see the case of letters. -/
lemma keptLocal_congr (h : lowered name = lowered name') : KeptLocal name ↔ KeptLocal name' := by
  unfold KeptLocal
  rw [h]

/-- A name lies below a domain only as far as the domain is spelt in lower case. -/
lemma below_iff_lowered :
    dot :: s <:+ lowered name ↔ s = lowered s ∧ dot :: lowered s <:+ lowered name := by
  constructor
  · intro h
    obtain ⟨front, hfront⟩ := h
    -- The letters of a name are in lower case, and so are those of its end.
    have hlow : lowered front ++ lowered (dot :: s) = front ++ dot :: s := by
      rw [← lowered_append, hfront, lowered_lowered]
    obtain ⟨-, hs⟩ := List.append_inj hlow (length_lowered front)
    have hs : lowered s = s := (List.cons.inj hs).2
    rw [hs]
    exact ⟨rfl, front, hfront⟩
  · rintro ⟨hs, h⟩
    rw [hs]
    exact h

/-- The case of letters changes no verdict of the one-argument overload.  That of the other one is
the same for two spellings of the domain, unless the name lies below the domain, is not kept local
by a general rule, and only one of the spellings is in lower case. -/
theorem noFakeName_letter_case (name name' s s' : Bytes) (hname : lowered name = lowered name')
    (hs : lowered s = lowered s') :
    (noFakeNameAdSuffix name s = noFakeNameAdSuffix name' s' ∧ noFakeName name = noFakeName name') ↔
      KeptLocal name ∨ s = [] ∨ lowered name = lowered s ∨ ¬dot :: lowered s <:+ lowered name ∨
        (s = lowered s ↔ s' = lowered s') := by
  have hone : noFakeName name = noFakeName name' := by
    rw [Bool.eq_iff_iff, noFakeName_iff, noFakeName_iff, keptLocal_congr hname]
  have hnil : s' = [] ↔ s = [] := by rw [← lowered_eq_nil, ← hs, lowered_eq_nil]
  rw [and_iff_left hone, Bool.eq_iff_iff, noFakeNameAdSuffix_iff, noFakeNameAdSuffix_iff,
    ← keptLocal_congr hname]
  unfold InDomain
  rw [below_iff_lowered, below_iff_lowered (s := s'), ← hname, ← hs, ne_eq, ne_eq, hnil]
  by_cases hkept : KeptLocal name
  · simp only [hkept, true_or]
  · by_cases hempty : s = []
    · simp only [hempty, not_true_eq_false, false_and, true_or, or_true]
    · by_cases hdomain : lowered name = lowered s
      · simp only [hdomain, true_or, or_true]
      · by_cases hbelow : dot :: lowered s <:+ lowered name
        · simp only [hkept, hempty, hdomain, hbelow, not_false_eq_true, not_true_eq_false,
            false_or, true_and, and_true]
        · simp only [hkept, hempty, hdomain, hbelow, not_false_eq_true, false_or, and_false,
            true_or]

/-- A name below a domain that is spelt in lower case. -/
theorem noFakeName_letter_case_child :
    noFakeNameAdSuffix (literal "dc1.corp.example.com") (literal "corp.example.com") =
      noFakeNameAdSuffix (literal "DC1.corp.EXAMPLE.com") (literal "corp.example.com") :=
  ((noFakeName_letter_case (literal "dc1.corp.example.com") (literal "DC1.corp.EXAMPLE.com")
    (literal "corp.example.com") (literal "corp.example.com") (by decide) rfl).mpr
    (Or.inr (Or.inr (Or.inr (Or.inr Iff.rfl))))).1

/-- A name below a domain that is spelt with capitals is not recognised. -/
theorem not_noFakeName_letter_case_child :
    lowered (literal "CORP.example.com") = lowered (literal "corp.example.com") ∧
      noFakeNameAdSuffix (literal "dc1.corp.example.com") (literal "corp.example.com") = true ∧
      noFakeNameAdSuffix (literal "dc1.corp.example.com") (literal "CORP.example.com") ≠
        noFakeNameAdSuffix (literal "dc1.corp.example.com") (literal "corp.example.com") := by
  decide

end Encapsule
