import Encapsule.Common.Redaction

/-!
# Words with a secret

What `sanitize_parse_error` of `utils.hpp` does with a word that stands between spaces.  Of a word
with an `@` the authority is printed, whatever the userinfo is and whatever is around the word
(`sanitize_userinfo`).  A login that is glued onto `-p` has no `@`, so the word has to be dropped as
the value of a proxy flag, and it is, unless the name goes on with the flag to spell `path`
(`hiddenLogin_iff`).
-/

namespace Encapsule

open Text

/-! ## Words between spaces -/

/-- A word may come behind this text. -/
def EndsWithSpace (text : Bytes) : Prop := text.getLast?.all isSpace = true

/-- A word may come in front of this text. -/
def StartsWithSpace (text : Bytes) : Prop := text.head?.all isSpace = true

/-- What the letters of a text are, checked one by one. -/
lemma forall_mem_of_all {p : UInt8 → Prop} [DecidablePred p] {text : Bytes}
    (h : text.all (fun c => decide (p c)) = true) : ∀ c ∈ text, p c := by
  simpa using h

variable {pre post word : Bytes}

/-- No letters are at the end of a text that ends with a space. -/
lemma EndsWithSpace.rdropWhile_eq (hpre : EndsWithSpace pre) :
    (pre.rdropWhile fun c => !isSpace c) = pre := by
  rw [List.rdropWhile_eq_self_iff]
  intro hne
  rw [EndsWithSpace, List.getLast?_eq_some_getLast hne, Option.all_some] at hpre
  simp [hpre]

/-- No letters are at the start of a text that starts with a space. -/
lemma StartsWithSpace.dropWhile_eq (hpost : StartsWithSpace post) :
    (post.dropWhile fun c => !isSpace c) = post := by
  cases post with
  | nil => rfl
  | cons s post =>
    have hs : isSpace s = true := hpost
    rw [List.dropWhile_cons_of_neg (by simp [hs])]

/-- Letters at the end of a text do not end the word. -/
lemma rdropWhile_append_letters (hword : ∀ c ∈ word, isSpace c = false) :
    ((pre ++ word).rdropWhile fun c => !isSpace c) = pre.rdropWhile fun c => !isSpace c := by
  have hletters : (word.all fun c => !isSpace c) = true := by
    rw [List.all_eq_true]
    intro c hc
    rw [hword c hc]
    rfl
  rw [rdropWhile_append, if_pos hletters]

/-- The first word of a text ends at its first space. -/
lemma StartsWithSpace.takeWhile_append (hpost : StartsWithSpace post)
    (hword : ∀ c ∈ word, isSpace c = false) :
    ((word ++ post).takeWhile fun c => !isSpace c) = word ∧
      ((word ++ post).dropWhile fun c => !isSpace c) = post := by
  have hletters : ∀ c ∈ word, (!isSpace c) = true := by
    intro c hc
    rw [hword c hc]
    rfl
  have hnone : (post.takeWhile fun c => !isSpace c) = [] := by
    cases post with
    | nil => rfl
    | cons s post =>
      have hs : isSpace s = true := hpost
      rw [List.takeWhile_cons_of_neg (by simp [hs])]
  constructor
  · rw [List.takeWhile_append_of_pos hletters, hnone, List.append_nil]
  · rw [List.dropWhile_append_of_pos hletters, hpost.dropWhile_eq]

/-- What is in front of a word is scrubbed by itself. -/
lemma scrubWords_append_of_endsWithSpace (hpre : EndsWithSpace pre) (rest : Bytes) :
    scrubWords (pre ++ rest) = scrubWords pre ++ scrubWords rest := by
  have hcut : scrubWords ((pre.rdropWhile fun c => !isSpace c) ++ rest) =
      scrubWords (pre.rdropWhile fun c => !isSpace c) ++ scrubWords rest :=
    mapWords_rdropWhile pre rest
  rwa [hpre.rdropWhile_eq] at hcut

/-- A word and what is behind it are scrubbed by themselves. -/
lemma scrubWords_append_of_startsWithSpace (hpost : StartsWithSpace post)
    (hword : ∀ c ∈ word, isSpace c = false) (hne : word ≠ []) :
    scrubWords (word ++ post) = kept word ++ scrubWords post := by
  have hcut : scrubWords (word ++ post.dropWhile fun c => !isSpace c) =
      kept word ++ scrubWords (post.dropWhile fun c => !isSpace c) :=
    mapWords_takeWhile hword hne
  rwa [hpost.dropWhile_eq] at hcut

/-- Stripping the end of a text does not shorten a word. -/
lemma infix_rdropWhile (hword : ∀ c ∈ word, isSpace c = false) (front back : Bytes) :
    word <:+: (front ++ (word ++ back)).rdropWhile isSpace := by
  cases word using List.reverseRecOn with
  | nil => exact List.nil_infix
  | append_singleton word c =>
    have hc : ¬isSpace c = true := by simp [hword c (by simp)]
    have hkeep : ((front ++ (word ++ [c]))).rdropWhile isSpace = front ++ (word ++ [c]) := by
      rw [← List.append_assoc, List.rdropWhile_concat_neg _ _ _ hc]
    rw [← List.append_assoc, rdropWhile_append, hkeep]
    split_ifs
    · exact ⟨front, [], by simp⟩
    · exact ⟨front, back.rdropWhile isSpace, by simp⟩

/-- A word that is left of a message is printed. -/
lemma infix_sanitizeParseError (hword : ∀ c ∈ word, isSpace c = false) {message front back : Bytes}
    (hmessage : scrubWords message = front ++ (word ++ back)) :
    word <:+: sanitizeParseError message := by
  have hinfix := infix_rdropWhile hword front back
  unfold sanitizeParseError
  dsimp only
  rw [hmessage]
  split_ifs with hnil
  · rw [hnil] at hinfix
    rw [List.infix_nil.mp hinfix]
    exact List.nil_infix
  · exact hinfix

/-! ## A userinfo in front of an `@` -/

/-- The word around an `@` is scrubbed to the authority. -/
lemma scrubWords_userinfo (pre : Bytes) {userinfo authority : Bytes}
    (huserinfo : ∀ c ∈ userinfo, isSpace c = false)
    (hauthority : ∀ c ∈ authority, isSpace c = false ∧ c ≠ atSign) (hpost : StartsWithSpace post) :
    scrubWords (pre ++ userinfo ++ atSign :: (authority ++ post)) =
      scrubWords (pre.rdropWhile fun c => !isSpace c) ++ (authority ++ scrubWords post) := by
  obtain ⟨htake, hdrop⟩ := hpost.takeWhile_append fun c hc => (hauthority c hc).1
  have hfree : atSign ∉ (authority ++ post).takeWhile fun c => !isSpace c := by
    rw [htake]
    exact fun hmem => (hauthority atSign hmem).2 rfl
  rw [scrubWords_login _ hfree, rdropWhile_append_letters huserinfo, printedAuthority, htake, hdrop]

/-- **Nothing in front of an `@` is printed.** Two userinfos of the same authority are printed
alike, whatever the message around them is and whatever they are spelled with, and the authority is
printed. -/
theorem sanitize_userinfo (pre post authority userinfo userinfo' : Bytes)
    (hauthority : ∀ c ∈ authority, isSpace c = false ∧ c ≠ atSign) (hpost : StartsWithSpace post)
    (huserinfo : ∀ c ∈ userinfo, isSpace c = false)
    (huserinfo' : ∀ c ∈ userinfo', isSpace c = false) :
    sanitizeParseError (pre ++ userinfo ++ atSign :: (authority ++ post)) =
        sanitizeParseError (pre ++ userinfo' ++ atSign :: (authority ++ post)) ∧
      authority <:+: sanitizeParseError (pre ++ userinfo ++ atSign :: (authority ++ post)) := by
  have hwords := scrubWords_userinfo pre huserinfo hauthority hpost
  have hwords' := scrubWords_userinfo pre huserinfo' hauthority hpost
  constructor
  · rw [sanitizeParseError, sanitizeParseError, hwords, hwords']
  · exact infix_sanitizeParseError (fun c hc => (hauthority c hc).1) hwords

/-- The logins `a:b` and `-c=@d` in front of `@h:1` are printed alike. -/
theorem sanitize_userinfo_a_c :
    sanitizeParseError (literal "--set-proxy=a:b@h:1 ?") =
        sanitizeParseError (literal "--set-proxy=-c=@d@h:1 ?") ∧
      literal "h:1" <:+: sanitizeParseError (literal "--set-proxy=a:b@h:1 ?") :=
  sanitize_userinfo (literal "--set-proxy=") (literal " ?") (literal "h:1") (literal "a:b")
    (literal "-c=@d") (forall_mem_of_all (by decide)) (by unfold StartsWithSpace; decide)
    (forall_mem_of_all (by decide)) (forall_mem_of_all (by decide))

/-! ## A login without an `@` -/

/-- A username and a password that are one word with the flag. -/
structure PlainLogin (user pass : Bytes) : Prop where
  user_ne_nil : user ≠ []
  pass_ne_nil : pass ≠ []
  user_plain : ∀ c ∈ user, isSpace c = false ∧ c ≠ atSign ∧ isGlue c = false
  pass_plain : ∀ c ∈ pass, isSpace c = false ∧ c ≠ atSign

/-- The flag and the login with an `=` between them. -/
def loginTextEq (user pass : Bytes) : Bytes := literal "-p=" ++ user ++ colon :: pass

/-- Nothing is printed of a login that is glued onto the flag: the message is printed as if the word
were not there. -/
structure HiddenLogin (user pass : Bytes) : Prop where
  scrubbed : scrubToken (loginText user pass) = none
  scrubbed_eq : scrubToken (loginTextEq user pass) = none
  unprinted : ∀ token ∈ [loginText user pass, loginTextEq user pass], ∀ pre post : Bytes,
    EndsWithSpace pre → StartsWithSpace post →
      sanitizeParseError (pre ++ token ++ post) = sanitizeParseError (pre ++ post)

/-- A word without an `@` is dropped where it is the flag of a proxy. -/
lemma scrubToken_of_no_at {token : Bytes} (hfree : atSign ∉ token) :
    scrubToken token = if isProxyFlagToken token then none else some token := by
  rw [scrubToken, splitLast_eq_none.mpr hfree]

/-- Without a word that is dropped the message is printed alike. -/
lemma sanitizeParseError_of_dropped {token : Bytes} (hdropped : scrubToken token = none)
    (hword : ∀ c ∈ token, isSpace c = false) (hne : token ≠ []) (hpre : EndsWithSpace pre)
    (hpost : StartsWithSpace post) :
    sanitizeParseError (pre ++ token ++ post) = sanitizeParseError (pre ++ post) := by
  have hkept : kept token = [] := by rw [kept, hdropped, Option.getD_none]
  have hwords : scrubWords (pre ++ token ++ post) = scrubWords (pre ++ post) := by
    rw [List.append_assoc, scrubWords_append_of_endsWithSpace hpre,
      scrubWords_append_of_startsWithSpace hpost hword hne, hkept, List.nil_append,
      scrubWords_append_of_endsWithSpace hpre]
  rw [sanitizeParseError, sanitizeParseError, hwords]

/-- The option and the value of a word with one dash. -/
lemma optionPart_dash (value : Bytes) {option : Bytes} {glue : UInt8}
    (hoption : ∀ c ∈ option, isGlue c = false) (hglue : isGlue glue = true)
    (hhead : ∀ c ∈ option.head?, c ≠ dash) (hne : option ≠ []) :
    optionPart (dash :: (option ++ glue :: value)) = option ∧
      ((dash :: (option ++ glue :: value)).dropWhile fun c => !isGlue c) = glue :: value := by
  have hletters : ∀ c ∈ option, (!isGlue c) = true := by
    intro c hc
    rw [hoption c hc]
    rfl
  constructor
  · obtain ⟨c, rest, rfl⟩ := List.exists_cons_of_ne_nil hne
    have hc : ¬(c = dash) := hhead c rfl
    have hdrop : (dash :: (c :: rest ++ glue :: value)).dropWhile (· = dash) =
        c :: rest ++ glue :: value := by
      rw [List.dropWhile_cons_of_pos (by simp), List.cons_append,
        List.dropWhile_cons_of_neg (by simpa using hc)]
    rw [optionPart, hdrop, List.takeWhile_append_of_pos hletters,
      List.takeWhile_cons_of_neg (by simp [hglue]), List.append_nil]
  · rw [List.dropWhile_cons_of_pos (by decide), List.dropWhile_append_of_pos hletters,
      List.dropWhile_cons_of_neg (by simp [hglue])]

/-- A word with one dash and a value is the flag of a proxy by the name of its option. -/
lemma isProxyFlagToken_dash {option value : Bytes} {glue : UInt8}
    (hoption : ∀ c ∈ option, isGlue c = false) (hglue : isGlue glue = true)
    (hhead : ∀ c ∈ option.head?, c ≠ dash) (hne : option ≠ []) (hvalue : value ≠ []) :
    isProxyFlagToken (dash :: (option ++ glue :: value)) = true ↔
      literal "p" <+: option ∧ ¬literal "path" <+: option ∨ literal "proxy" <:+: option := by
  obtain ⟨hpart, hglued⟩ := optionPart_dash value hoption hglue hhead hne
  have hlength : ¬(glue :: value).length ≤ 1 := by
    have hpos := List.length_pos_iff.mpr hvalue
    rw [List.length_cons]
    omega
  have hinfix : option.tails.any (literal "proxy").isPrefixOf = true ↔
      literal "proxy" <:+: option := by
    rw [List.any_eq_true, List.infix_iff_prefix_suffix]
    constructor
    · rintro ⟨tail, htail, hprefix⟩
      exact ⟨tail, List.isPrefixOf_iff_prefix.mp hprefix, (List.mem_tails tail option).mp htail⟩
    · rintro ⟨tail, hprefix, htail⟩
      exact ⟨tail, (List.mem_tails tail option).mpr htail, List.isPrefixOf_iff_prefix.mpr hprefix⟩
  have hpath : (!(literal "path").isPrefixOf option) = true ↔ ¬literal "path" <+: option := by
    rw [Bool.not_eq_true', ← Bool.not_eq_true, List.isPrefixOf_iff_prefix]
  unfold isProxyFlagToken
  rw [if_neg (by simp), hpart, hglued]
  dsimp only
  rw [if_neg hlength, Bool.and_eq_true, Bool.or_eq_true, hinfix, Bool.and_eq_true,
    List.isPrefixOf_iff_prefix, hpath]
  simp [hne]

variable {user pass : Bytes}

/-- A login behind `-p=` is the value of a proxy flag. -/
lemma isProxyFlagToken_loginTextEq (user pass : Bytes) :
    isProxyFlagToken (loginTextEq user pass) = true := by
  have htext : loginTextEq user pass = dash :: ([112] ++ 61 :: (user ++ colon :: pass)) := rfl
  rw [htext, isProxyFlagToken_dash (forall_mem_of_all (by decide)) (by decide) (by simp [dash])
    (by simp) (by simp)]
  exact Or.inl (by decide)

/-- A login behind `-p` is the value of a proxy flag unless the flag and the name spell the option
of a path. -/
lemma isProxyFlagToken_loginText_iff (h : PlainLogin user pass) :
    isProxyFlagToken (loginText user pass) = true ↔
      (literal "ath" <+: user → literal "proxy" <:+: user) := by
  have htext : loginText user pass = dash :: (112 :: user ++ colon :: pass) := rfl
  have hoption : ∀ c ∈ (112 :: user : Bytes), isGlue c = false := by
    rintro c (_ | ⟨_, hc⟩)
    · rfl
    · exact (h.user_plain c hc).2.2
  have hp : literal "p" <+: 112 :: user := List.cons_prefix_cons.mpr ⟨rfl, List.nil_prefix⟩
  have hpath : literal "path" <+: 112 :: user ↔ literal "ath" <+: user := by
    have hcons : literal "path" = 112 :: literal "ath" := by decide
    rw [hcons, List.cons_prefix_cons, and_iff_right rfl]
  have hproxy (hath : literal "ath" <+: user) :
      literal "proxy" <:+: 112 :: user ↔ literal "proxy" <:+: user := by
    obtain ⟨rest, rfl⟩ := hath
    have hnot : ¬literal "proxy" <+: 112 :: (literal "ath" ++ rest) := by
      have hletters : literal "proxy" = [112, 114, 111, 120, 121] := by decide
      have hletters' : literal "ath" = [97, 116, 104] := by decide
      rw [hletters, hletters']
      simp [List.cons_prefix_cons]
    rw [List.infix_cons_iff, or_iff_right hnot]
  rw [htext, isProxyFlagToken_dash hoption (by decide) (by simp [dash]) (by simp) h.pass_ne_nil,
    hpath, and_iff_right hp]
  constructor
  · rintro (hath | hinfix) hath'
    · exact absurd hath' hath
    · exact (hproxy hath').mp hinfix
  · intro hname
    by_cases hath : literal "ath" <+: user
    · exact Or.inr ((hproxy hath).mpr (hname hath))
    · exact Or.inl hath

/-- There is no space and no `@` in a glued login. -/
lemma PlainLogin.token_plain (h : PlainLogin user pass) :
    ∀ token ∈ [loginText user pass, loginTextEq user pass],
      (∀ c ∈ token, isSpace c = false ∧ c ≠ atSign) ∧ token ≠ [] := by
  have huser : ∀ c ∈ user, isSpace c = false ∧ c ≠ atSign := fun c hc =>
    ⟨(h.user_plain c hc).1, (h.user_plain c hc).2.1⟩
  have hjoin (flag : Bytes) (hflag : ∀ c ∈ flag, isSpace c = false ∧ c ≠ atSign) :
      ∀ c ∈ flag ++ user ++ colon :: pass, isSpace c = false ∧ c ≠ atSign := by
    intro c hc
    rw [List.mem_append, List.mem_append, List.mem_cons] at hc
    rcases hc with (hc | hc) | rfl | hc
    · exact hflag c hc
    · exact huser c hc
    · decide
    · exact h.pass_plain c hc
  rintro token htoken
  rw [List.mem_cons, List.mem_singleton] at htoken
  rcases htoken with rfl | rfl
  · exact ⟨hjoin _ (forall_mem_of_all (by decide)), by simp [loginText]⟩
  · exact ⟨hjoin _ (forall_mem_of_all (by decide)), by simp [loginTextEq]⟩

/-- The value of a `--path` without an `@` is printed. -/
lemma scrubToken_path {value : Bytes} (hvalue : atSign ∉ value) :
    scrubToken (literal "--path=" ++ value) = some (literal "--path=" ++ value) := by
  have hfree : atSign ∉ literal "--path=" ++ value := by
    rw [List.mem_append, not_or]
    exact ⟨by decide, hvalue⟩
  have hpart : optionPart (literal "--path=" ++ value) = literal "path" := rfl
  have hflag : isProxyFlagToken (literal "--path=" ++ value) = false := by
    unfold isProxyFlagToken
    dsimp only
    rw [hpart]
    split_ifs
    · rfl
    · rfl
    · decide
  rw [scrubToken_of_no_at hfree, hflag]
  rfl

/-- **A login that is glued onto `-p`.** It is dropped, with the name and the password, exactly
where the name does not start with `ath`, or holds `proxy`: a name such as `athena` goes on with the
`p` of the flag to spell `path`, and the login is taken for the name of a file and printed.  Behind
a `-p=` it is always dropped, and the value of a `--path=` is always kept. -/
theorem hiddenLogin_iff (user pass : Bytes) (h : PlainLogin user pass) :
    (HiddenLogin user pass ↔ (literal "ath" <+: user → literal "proxy" <:+: user)) ∧
      ∀ value : Bytes, atSign ∉ value →
        scrubToken (literal "--path=" ++ value) = some (literal "--path=" ++ value) := by
  refine ⟨?_, fun value hvalue => scrubToken_path hvalue⟩
  have hscrub (token : Bytes) (htoken : token ∈ [loginText user pass, loginTextEq user pass]) :
      scrubToken token = none ↔ isProxyFlagToken token = true := by
    rw [scrubToken_of_no_at fun hmem => ((h.token_plain token htoken).1 atSign hmem).2 rfl]
    split_ifs with hflag
    · simp [hflag]
    · simp [hflag]
  have hfirst := hscrub (loginText user pass) (by simp)
  have hsecond := (hscrub (loginTextEq user pass) (by simp)).mpr
    (isProxyFlagToken_loginTextEq user pass)
  rw [isProxyFlagToken_loginText_iff h] at hfirst
  refine ⟨fun hhidden => hfirst.mp hhidden.scrubbed, fun hname => ?_⟩
  refine ⟨hfirst.mpr hname, hsecond, fun token htoken pre post hpre hpost => ?_⟩
  have hdropped : scrubToken token = none := by
    rcases List.mem_cons.mp htoken with rfl | hmem
    · exact hfirst.mpr hname
    · rw [List.mem_singleton.mp hmem]
      exact hsecond
  obtain ⟨hplain, hne⟩ := h.token_plain token htoken
  exact sanitizeParseError_of_dropped hdropped (fun c hc => (hplain c hc).1) hne hpre hpost

/-- The login `alice:pw` is dropped. -/
theorem hiddenLogin_iff_alice : HiddenLogin (literal "alice") (literal "pw") :=
  (hiddenLogin_iff (literal "alice") (literal "pw")
    ⟨by decide, by decide, forall_mem_of_all (by decide), forall_mem_of_all (by decide)⟩).1.mpr
      (by decide)

/-- The login `athena:pw` is printed. -/
theorem not_hiddenLogin_athena :
    PlainLogin (literal "athena") (literal "pw") ∧
      sanitizeParseError (unknownArgument (loginText (literal "athena") (literal "pw"))) =
        literal "Unknown argument: -pathena:pw" ∧
      ¬HiddenLogin (literal "athena") (literal "pw") := by
  refine ⟨⟨by decide, by decide, forall_mem_of_all (by decide), forall_mem_of_all (by decide)⟩,
    by decide, fun hhidden => ?_⟩
  exact absurd hhidden.scrubbed (by decide)

end Encapsule
