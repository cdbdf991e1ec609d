import Mathlib.Data.List.Infix
import Encapsule.Common.ProxyUrl

/-!
# Redaction of parse errors

`sanitize_parse_error` of `utils.hpp`: the words of a message are scrubbed one by one, so that the
login of a proxy URL glued onto a flag is not printed.  A word with an `@` keeps what is behind the
last one; a proxy flag with a value and no `@` is dropped.

A password is read with its spaces, but a message is scrubbed word by word: the spaces of a password
are printed, and the words in front of its last space are printed, or dropped, by what they look
like themselves (`sanitize_eq_iff`).  Without spaces nothing of the password is left.
-/

namespace Encapsule

open Text

/-! ## The scrubber -/

/-- The octets of a string literal. -/
def literal (s : String) : Bytes := s.toUTF8.data.toList

/-- The `-` in front of an option. -/
def dash : UInt8 := 45

/-- Where a value that is glued onto an option starts. -/
def isGlue (c : UInt8) : Bool := c = colon ∨ c = 61

/-- `option_part`. -/
def optionPart (token : Bytes) : Bytes :=
  (token.dropWhile (· = dash)).takeWhile fun c => !isGlue c

/-- `is_proxy_flag_token`. -/
def isProxyFlagToken (token : Bytes) : Bool :=
  if token.head? ≠ some dash then false
  else
    let option := optionPart token
    let glued := token.dropWhile fun c => !isGlue c
    -- No separator, or nothing behind it.
    if glued.length ≤ 1 then false
    else
      let proxy := (literal "p").isPrefixOf option && !(literal "path").isPrefixOf option ||
        option.tails.any (literal "proxy").isPrefixOf
      !option.isEmpty && proxy

/-- `scrub_token`. -/
def scrubToken (token : Bytes) : Option Bytes :=
  match splitLast atSign token with
  | some (_, authority) => some authority
  | none => if isProxyFlagToken token then none else some token

/-- What is printed of a token. -/
def kept (token : Bytes) : Bytes := (scrubToken token).getD []

/-- The words of a message, scrubbed. -/
def scrubWords (message : Bytes) : Bytes := mapWords isSpace kept message

/-- `sanitize_parse_error`. -/
def sanitizeParseError (message : Bytes) : Bytes :=
  let result := (scrubWords message).rdropWhile isSpace
  if result = [] then literal "Invalid argument (value redacted)" else result

/-! ## A proxy URL behind a flag -/

/-- What argparse says of an option it does not know. -/
def unknownArgument (token : Bytes) : Bytes := literal "Unknown argument: " ++ token

/-- The spelling of a URL with a login. -/
def loginUrl (user pass authority : Bytes) : Bytes :=
  user ++ colon :: pass ++ atSign :: authority

/-- The flag and the login, up to the `@`. -/
def loginText (user pass : Bytes) : Bytes := literal "-p" ++ user ++ colon :: pass

/-- The words of a login that a space ends. -/
def closedWords (user pass : Bytes) : List Bytes :=
  ((loginText user pass).splitOnP isSpace).dropLast

/-- A word of which nothing is printed: it is empty or ends with an `@`, or it has no `@` and looks
like the flag of a proxy. -/
def Mute (word : Bytes) : Prop :=
  word = [] ∨ word.getLast? = some atSign ∨ atSign ∉ word ∧ isProxyFlagToken word = true

/-- A word that ends with a text, and has an `@` in front of it if it is longer. -/
def EndsAt (word back : Bytes) : Prop :=
  word = back ∨ ∃ front, word = front ++ atSign :: back

/-- Both words are mute, or neither is and they agree behind their last `@`. -/
def AlikeWords (word word' : Bytes) : Prop :=
  Mute word ∧ Mute word' ∨
    ¬Mute word ∧ ¬Mute word' ∧ ∃ back, atSign ∉ back ∧ EndsAt word back ∧ EndsAt word' back

/-- The logins have the same spaces, and their words in front of the last one are alike. -/
def AlikeLogins (user pass pass' : Bytes) : Prop :=
  List.Forall₂ AlikeWords (closedWords user pass) (closedWords user pass') ∧
    pass.filter isSpace = pass'.filter isSpace

/-- The logins are alike up to some word, with the spaces between, and all words behind it that a
space ends are mute. -/
def AlikeUpToEnd (user pass pass' : Bytes) : Prop :=
  ∃ n, List.Forall₂ AlikeWords ((closedWords user pass).take n) ((closedWords user pass').take n) ∧
    (∀ word ∈ (closedWords user pass).drop n, Mute word) ∧
    (∀ word ∈ (closedWords user pass').drop n, Mute word) ∧
    ((loginText user pass).filter isSpace).take (n - 1) =
      ((loginText user pass').filter isSpace).take (n - 1)

/-- No word of the authority is printed: it starts with a space, and its words look like flags of a
proxy. -/
def HiddenAuthority (authority : Bytes) : Prop :=
  (authority.splitOnP isSpace).head? = some [] ∧
    ∀ word ∈ authority.splitOnP isSpace, word = [] ∨ isProxyFlagToken word = true

/-- What is printed of a login: its words up to the last space, scrubbed. -/
def exposed (user pass : Bytes) : Bytes :=
  scrubWords ((loginText user pass).rdropWhile fun c => !isSpace c)

/-- What is printed of an authority: its first word, and the others scrubbed. -/
def printedAuthority (authority : Bytes) : Bytes :=
  authority.takeWhile (fun c => !isSpace c) ++ scrubWords (authority.dropWhile fun c => !isSpace c)

/-- A word with an `@` keeps what is behind the last. -/
lemma kept_at {front back : Bytes} (hfree : atSign ∉ back) :
    kept (front ++ atSign :: back) = back := by
  rw [kept, scrubToken, splitLast_eq_some.mpr ⟨rfl, hfree⟩]
  rfl

/-- A word without an `@` is kept, or dropped as the flag of a proxy. -/
lemma kept_of_no_at {token : Bytes} (hfree : atSign ∉ token) :
    kept token = if isProxyFlagToken token then [] else token := by
  rw [kept, scrubToken, splitLast_eq_none.mpr hfree]
  dsimp only
  split_ifs <;> rfl

/-- No space is made of a word. -/
lemma isSpace_kept {token : Bytes} (htoken : ∀ c ∈ token, isSpace c = false) :
    ∀ c ∈ kept token, isSpace c = false := by
  by_cases hat : atSign ∈ token
  · obtain ⟨⟨front, back⟩, hsplit⟩ := Option.ne_none_iff_exists'.mp fun hnone =>
      splitLast_eq_none.mp hnone hat
    obtain ⟨rfl, hfree⟩ := splitLast_eq_some.mp hsplit
    rw [kept_at hfree]
    exact fun c hc => htoken c (List.mem_append_right _ (List.mem_cons_of_mem _ hc))
  · rw [kept_of_no_at hat]
    split_ifs
    · simp
    · exact htoken

/-- The words of a scrubbed message are the words that are kept. -/
lemma splitOnP_scrubWords (message : Bytes) :
    (scrubWords message).splitOnP isSpace = (message.splitOnP isSpace).map kept :=
  splitOnP_mapWords (fun _ => isSpace_kept) rfl message

/-- The spaces of a message are kept. -/
lemma filter_scrubWords (message : Bytes) :
    (scrubWords message).filter isSpace = message.filter isSpace :=
  filter_mapWords (fun _ => isSpace_kept) message

/-- A word with an `@` keeps nothing of what is in front of its last one. -/
lemma scrubWords_login (text : Bytes) {authority : Bytes}
    (hfree : atSign ∉ authority.takeWhile fun c => !isSpace c) :
    scrubWords (text ++ atSign :: authority) =
      scrubWords (text.rdropWhile fun c => !isSpace c) ++ printedAuthority authority := by
  have hword : ∀ c ∈ (text.rtakeWhile fun c => !isSpace c) ++
      atSign :: authority.takeWhile (fun c => !isSpace c), isSpace c = false := by
    intro c hc
    rcases List.mem_append.mp hc with hc | hc
    · simpa using List.mem_rtakeWhile_imp hc
    · rcases List.mem_cons.mp hc with rfl | hc
      · decide
      · simpa using List.mem_takeWhile_imp hc
  have hsplit : text ++ atSign :: authority = (text.rdropWhile fun c => !isSpace c) ++
      ((text.rtakeWhile fun c => !isSpace c) ++
        atSign :: authority.takeWhile (fun c => !isSpace c) ++
        authority.dropWhile fun c => !isSpace c) := by
    rw [List.append_assoc, List.cons_append, List.takeWhile_append_dropWhile, ← List.append_assoc,
      List.rdropWhile_append_rtakeWhile]
  rw [hsplit, scrubWords, mapWords_rdropWhile, mapWords_takeWhile hword (by simp),
    kept_at hfree]
  rfl

/-- The message about a URL that is glued onto the flag, scrubbed. -/
lemma scrubWords_unknownArgument {user pass authority : Bytes} (hfree : atSign ∉ authority) :
    scrubWords (unknownArgument (literal "-p" ++ loginUrl user pass authority)) =
      literal "Unknown argument: " ++ (exposed user pass ++ printedAuthority authority) := by
  have hspace : literal "Unknown argument: " = literal "Unknown argument:" ++ [32] := by decide
  have hmessage : unknownArgument (literal "-p" ++ loginUrl user pass authority) =
      literal "Unknown argument:" ++ 32 :: (loginText user pass ++ atSign :: authority) := by
    rw [unknownArgument, loginUrl, loginText, hspace]
    simp
  have hwords : scrubWords (literal "Unknown argument:") = literal "Unknown argument:" := by decide
  have hcut : scrubWords (literal "Unknown argument:" ++
      32 :: (loginText user pass ++ atSign :: authority)) =
        scrubWords (literal "Unknown argument:") ++
          32 :: scrubWords (loginText user pass ++ atSign :: authority) :=
    mapWords_append_space (by decide) _ _
  have hfirst : atSign ∉ authority.takeWhile fun c => !isSpace c := fun hmem =>
    hfree (List.takeWhile_subset _ hmem)
  rw [hmessage, hcut, hwords, scrubWords_login (loginText user pass) hfirst, hspace]
  simp [exposed]

/-! ## What two passwords have in common -/

/-- Behind a text that is more than spaces, the spaces at the end say nothing. -/
lemma rdropWhile_append_inj {p : UInt8 → Bool} {front x y : Bytes} :
    (front ++ x).rdropWhile p = (front ++ y).rdropWhile p ↔ x.rdropWhile p = y.rdropWhile p := by
  have hall (back : Bytes) : back.all p = true ↔ back.rdropWhile p = [] := by
    rw [List.rdropWhile_eq_nil_iff, List.all_eq_true]
  have hshort (back : Bytes) (hback : ¬back.all p = true) :
      (front.rdropWhile p).length < (front ++ back.rdropWhile p).length := by
    have hle := (List.rdropWhile_prefix p front).length_le
    have hpos := List.length_pos_iff.mpr fun hnil => hback ((hall back).mpr hnil)
    rw [List.length_append]
    omega
  rw [rdropWhile_append, rdropWhile_append]
  split_ifs with hx hy hy
  · simp [(hall x).mp hx, (hall y).mp hy]
  · rw [(hall x).mp hx]
    constructor
    · intro heq
      exact absurd (congrArg List.length heq) (hshort y hy).ne
    · intro heq
      exact absurd ((hall y).mpr heq.symm) hy
  · rw [(hall y).mp hy]
    constructor
    · intro heq
      exact absurd (congrArg List.length heq) (hshort x hx).ne'
    · intro heq
      exact absurd ((hall x).mpr heq) hx
  · exact List.append_right_inj front

/-- The message is never empty, so it is not replaced. -/
lemma sanitize_unknownArgument {user pass authority : Bytes} (hfree : atSign ∉ authority) :
    sanitizeParseError (unknownArgument (literal "-p" ++ loginUrl user pass authority)) =
      (literal "Unknown argument: " ++
        (exposed user pass ++ printedAuthority authority)).rdropWhile isSpace := by
  have hne : ¬(literal "Unknown argument: " ++
      (exposed user pass ++ printedAuthority authority)).rdropWhile isSpace = [] := by
    rw [List.rdropWhile_eq_nil_iff]
    intro hspaces
    have hletter := hspaces 85 (List.mem_append_left _ (by decide))
    exact absurd hletter (by decide)
  rw [sanitizeParseError, scrubWords_unknownArgument hfree]
  exact if_neg hne

/-- An accepted URL with a username and a password is spelled with them. -/
lemma eq_loginUrl {url user pass : Bytes} {e : ProxyEndpoint} (h : parseProxyUrl url = some e)
    (huser : e.username = some user) (hpass : e.password = some pass) :
    ∃ authority, url = loginUrl user pass authority ∧ atSign ∉ authority := by
  obtain ⟨userinfo, authority, host, portText, port, hparts, -, -, -, -, huserinfo⟩ :=
    parseProxyUrl_eq_some.mp h
  obtain ⟨-, -, hcredentials⟩ := withUserinfo_eq_some huserinfo
  obtain ⟨hfree, hurl⟩ := parts_of_splitLast hparts
  have hlogin : userinfo = user ++ colon :: pass := by
    rcases hcredentials with ⟨hnone, -⟩ | ⟨name, hname, -, -, -, ⟨hnone, -⟩ | ⟨other, hother, -, -,
      hlogin⟩⟩
    · rw [huser] at hnone
      cases hnone
    · rw [hpass] at hnone
      cases hnone
    · rw [huser] at hname
      rw [hpass] at hother
      cases hname
      cases hother
      exact hlogin
  subst hlogin
  rcases hurl with ⟨hnil, -⟩ | hurl
  · simp at hnil
  · exact ⟨authority, hurl, hfree⟩

/-- The authority of an accepted URL is what is behind its login. -/
lemma atSign_not_mem_of_login {user pass authority : Bytes} {e : ProxyEndpoint}
    (h : parseProxyUrl (loginUrl user pass authority) = some e) (huser : e.username = some user)
    (hpass : e.password = some pass) : atSign ∉ authority := by
  obtain ⟨authority', hurl, hfree⟩ := eq_loginUrl h huser hpass
  have hsame : authority = authority' := by simpa [loginUrl] using hurl
  rwa [hsame]

/-! ## What is printed of a password -/

/-- Nothing is kept of the mute words only. -/
lemma kept_eq_nil_iff (word : Bytes) : kept word = [] ↔ Mute word := by
  by_cases hat : atSign ∈ word
  · obtain ⟨⟨front, back⟩, hsplit⟩ := Option.ne_none_iff_exists'.mp fun hnone =>
      splitLast_eq_none.mp hnone hat
    obtain ⟨rfl, hfree⟩ := splitLast_eq_some.mp hsplit
    rw [kept_at hfree, Mute]
    constructor
    · rintro rfl
      exact Or.inr (Or.inl List.getLast?_concat)
    · rintro (hnil | hlast | ⟨hno, -⟩)
      · simp at hnil
      · by_contra hne
        rw [List.getLast?_append_of_ne_nil _ (List.cons_ne_nil _ _),
          List.getLast?_cons_of_ne_nil hne] at hlast
        exact hfree (List.mem_of_getLast? hlast)
      · exact absurd hat hno
  · have hlast : ¬word.getLast? = some atSign := fun hlast => hat (List.mem_of_getLast? hlast)
    rw [kept_of_no_at hat, Mute]
    split_ifs with hflag
    · simp [hat, hflag]
    · simp [hlast, hflag]

/-- Of a word that is not mute the text behind its last `@` is kept. -/
lemma kept_of_endsAt {word back : Bytes} (hword : ¬Mute word) (hfree : atSign ∉ back)
    (hend : EndsAt word back) : kept word = back := by
  rcases hend with rfl | ⟨front, rfl⟩
  · rw [kept_of_no_at hfree, if_neg fun hflag => hword (Or.inr (Or.inr ⟨hfree, hflag⟩))]
  · exact kept_at hfree

/-- A word that is not mute ends with what is kept of it. -/
lemma endsAt_kept {word : Bytes} (hword : ¬Mute word) :
    atSign ∉ kept word ∧ EndsAt word (kept word) := by
  by_cases hat : atSign ∈ word
  · obtain ⟨⟨front, back⟩, hsplit⟩ := Option.ne_none_iff_exists'.mp fun hnone =>
      splitLast_eq_none.mp hnone hat
    obtain ⟨rfl, hfree⟩ := splitLast_eq_some.mp hsplit
    rw [kept_at hfree]
    exact ⟨hfree, Or.inr ⟨front, rfl⟩⟩
  · rw [kept_of_no_at hat, if_neg fun hflag => hword (Or.inr (Or.inr ⟨hat, hflag⟩))]
    exact ⟨hat, Or.inl rfl⟩

/-- The same is kept of words that are alike. -/
lemma kept_eq_iff (word word' : Bytes) : kept word = kept word' ↔ AlikeWords word word' := by
  constructor
  · intro heq
    by_cases hword : Mute word
    · exact Or.inl ⟨hword, (kept_eq_nil_iff word').mp (heq ▸ (kept_eq_nil_iff word).mpr hword)⟩
    · have hword' : ¬Mute word' := fun hmute =>
        hword ((kept_eq_nil_iff word).mp (heq.trans ((kept_eq_nil_iff word').mpr hmute)))
      obtain ⟨hfree, hend⟩ := endsAt_kept hword
      exact Or.inr ⟨hword, hword', kept word, hfree, hend, heq ▸ (endsAt_kept hword').2⟩
  · rintro (⟨hword, hword'⟩ | ⟨hword, hword', back, hfree, hend, hend'⟩)
    · rw [(kept_eq_nil_iff word).mpr hword, (kept_eq_nil_iff word').mpr hword']
    · rw [kept_of_endsAt hword hfree hend, kept_of_endsAt hword' hfree hend']

/-- The same is kept of lists of words that are alike one by one. -/
lemma map_kept_eq_iff (words words' : List Bytes) :
    words.map kept = words'.map kept ↔ List.Forall₂ AlikeWords words words' := by
  rw [← List.forall₂_eq_eq_eq, List.forall₂_map_left_iff, List.forall₂_map_right_iff]
  simp only [kept_eq_iff]

/-- What is printed of a login ends with a space, or there is none. -/
lemma splitOnP_exposed (user pass : Bytes) :
    (exposed user pass).splitOnP isSpace = (closedWords user pass).map kept ++ [[]] := by
  rw [exposed, splitOnP_scrubWords, splitOnP_rdropWhile_letters, List.map_append]
  rfl

/-- All spaces of a login are printed. -/
lemma filter_exposed (user pass : Bytes) :
    (exposed user pass).filter isSpace = (loginText user pass).filter isSpace := by
  rw [exposed, filter_scrubWords, filter_rdropWhile_letters]

/-- The same is printed of logins that are alike. -/
lemma exposed_eq_iff {user pass pass' : Bytes} :
    exposed user pass = exposed user pass' ↔ AlikeLogins user pass pass' := by
  have hspaces (pass : Bytes) : (loginText user pass).filter isSpace =
      (literal "-p" ++ user).filter isSpace ++ pass.filter isSpace := by
    rw [loginText, List.filter_append, List.filter_cons_of_neg (by decide)]
  rw [eq_iff_words isSpace, splitOnP_exposed, splitOnP_exposed, filter_exposed,
    filter_exposed, hspaces, hspaces, List.append_left_inj, List.append_right_inj,
    map_kept_eq_iff]
  rfl

/-- The same is printed up to the spaces at the end. -/
lemma rdropWhile_exposed_eq_iff {user pass pass' : Bytes} :
    (exposed user pass).rdropWhile isSpace = (exposed user pass').rdropWhile isSpace ↔
      AlikeUpToEnd user pass pass' := by
  have hlasting (pass : Bytes) : lastingWords isSpace (exposed user pass) =
      ((closedWords user pass).map kept).rdropWhile List.isEmpty := by
    rw [lastingWords, splitOnP_exposed, List.rdropWhile_concat_pos _ _ _ rfl]
  have hmute (words : List Bytes) :
      (∀ word ∈ words.map kept, word.isEmpty = true) ↔ ∀ word ∈ words, Mute word := by
    rw [List.forall_mem_map]
    exact forall₂_congr fun word _ => List.isEmpty_iff.trans (kept_eq_nil_iff word)
  rw [rdropWhile_eq_iff, hlasting, hlasting, filter_exposed, filter_exposed,
    rdropWhile_eq_and_take_iff, AlikeUpToEnd]
  refine exists_congr fun n => ?_
  rw [← List.map_take, ← List.map_take, ← List.map_drop, ← List.map_drop, map_kept_eq_iff, hmute,
    hmute]

/-- Nothing but spaces is printed of an authority that is hidden. -/
lemma all_printedAuthority_iff {authority : Bytes} (hfree : atSign ∉ authority) :
    (printedAuthority authority).all isSpace = true ↔ HiddenAuthority authority := by
  have hkept : ∀ word ∈ authority.splitOnP isSpace,
      (kept word = [] ↔ word = [] ∨ isProxyFlagToken word = true) := by
    intro word hword
    have hfree' : atSign ∉ word := fun hmem => hfree (mem_of_mem_splitOnP hword hmem)
    rw [kept_of_no_at hfree']
    split_ifs with hflag
    · simp [hflag]
    · simp [hflag]
  have hwords : (scrubWords authority).all isSpace = true ↔
      ∀ word ∈ authority.splitOnP isSpace, word = [] ∨ isProxyFlagToken word = true := by
    rw [all_iff_words, splitOnP_scrubWords, List.forall_mem_map]
    exact forall₂_congr hkept
  rw [HiddenAuthority, head?_splitOnP, Option.some_inj, printedAuthority, List.all_append,
    Bool.and_eq_true]
  cases hfirst : authority.takeWhile fun c => !isSpace c with
  | nil =>
    have hrest : (authority.dropWhile fun c => !isSpace c) = authority := by
      have hcut := List.takeWhile_append_dropWhile (p := fun c => !isSpace c) (l := authority)
      rwa [hfirst] at hcut
    rw [hrest, hwords]
    simp
  | cons c first =>
    have hc : isSpace c = false := by
      have hmem : c ∈ authority.takeWhile fun c => !isSpace c := by
        rw [hfirst]
        exact List.mem_cons_self
      simpa using List.mem_takeWhile_imp hmem
    simp [hc]

/-- Without spaces nothing of a password is in front of the last space. -/
lemma exposed_of_no_space {user pass : Bytes} (hpass : ∀ c ∈ pass, isSpace c = false) :
    exposed user pass =
      scrubWords ((literal "-p" ++ user).rdropWhile fun c => !isSpace c) := by
  have hletters : (colon :: pass).all (fun c => !isSpace c) = true := by
    rw [List.all_cons, Bool.and_eq_true, List.all_eq_true]
    refine ⟨by decide, fun c hc => ?_⟩
    rw [hpass c hc]
    rfl
  rw [exposed, loginText, rdropWhile_append _ (literal "-p" ++ user), if_pos hletters]

/-- The messages about two passwords of a login, scrubbed. -/
lemma sanitize_eq_iff_alike {user pass pass' authority : Bytes} (hfree : atSign ∉ authority) :
    sanitizeParseError (unknownArgument (literal "-p" ++ loginUrl user pass authority)) =
        sanitizeParseError (unknownArgument (literal "-p" ++ loginUrl user pass' authority)) ↔
      AlikeLogins user pass pass' ∨
        HiddenAuthority authority ∧ AlikeUpToEnd user pass pass' := by
  rw [sanitize_unknownArgument hfree, sanitize_unknownArgument hfree, rdropWhile_append_inj,
    rdropWhile_append, rdropWhile_append, ← exposed_eq_iff, ← rdropWhile_exposed_eq_iff,
    ← all_printedAuthority_iff hfree]
  split_ifs with hblank
  · constructor
    · exact fun heq => Or.inr ⟨hblank, heq⟩
    · rintro (heq | ⟨-, heq⟩)
      · rw [heq]
      · exact heq
  · constructor
    · exact fun heq => Or.inl (List.append_cancel_right heq)
    · rintro (heq | ⟨hblank', -⟩)
      · rw [heq]
      · exact absurd hblank' hblank

/-- **What redaction covers.** Two passwords of the same login are printed alike exactly where they
have the same spaces and the words of `-puser:pass` in front of its last space are alike: of each
pair both are mute, or neither is and they agree behind their last `@`.  Where nothing of the
authority is printed, this is asked up to some word only, and the ones behind it are mute.  So two
passwords without spaces are printed alike, and a password with a space is told from one without. -/
theorem sanitize_eq_iff (user pass pass' authority : Bytes) (e : ProxyEndpoint)
    (h : parseProxyUrl (loginUrl user pass authority) = some e) (huser : e.username = some user)
    (hpass : e.password = some pass) :
    let printed := sanitizeParseError
      (unknownArgument (literal "-p" ++ loginUrl user pass authority))
    let printed' := sanitizeParseError
      (unknownArgument (literal "-p" ++ loginUrl user pass' authority))
    (printed = printed' ↔ AlikeLogins user pass pass' ∨
        HiddenAuthority authority ∧ AlikeUpToEnd user pass pass') ∧
      ((∀ c ∈ pass, isSpace c = false) → (∀ c ∈ pass', isSpace c = false) → printed = printed') ∧
      ((∀ c ∈ pass, isSpace c = false) → (∃ c ∈ pass', isSpace c = true) →
        ¬HiddenAuthority authority → printed ≠ printed') := by
  intro printed printed'
  have hiff : printed = printed' ↔ AlikeLogins user pass pass' ∨
      HiddenAuthority authority ∧ AlikeUpToEnd user pass pass' :=
    sanitize_eq_iff_alike (atSign_not_mem_of_login h huser hpass)
  refine ⟨hiff, fun hspaces hspaces' => ?_, fun hspaces hspaces' hshown heq => ?_⟩
  · rw [hiff, ← exposed_eq_iff, exposed_of_no_space hspaces, exposed_of_no_space hspaces']
    exact Or.inl rfl
  · rcases hiff.mp heq with ⟨-, hsame⟩ | ⟨hhidden, -⟩
    · have hnone : pass.filter isSpace = [] :=
        List.filter_eq_nil_iff.mpr fun c hc => Bool.eq_false_iff.mp (hspaces c hc)
      obtain ⟨c, hc, hspace⟩ := hspaces'
      rw [hnone] at hsame
      exact List.filter_eq_nil_iff.mp hsame.symm c hc hspace
    · exact hshown hhidden

/-- Of the passwords `x@y s` and `w@y t` the same `y` is printed. -/
theorem sanitize_eq_iff_x_w :
    sanitizeParseError (unknownArgument
        (literal "-p" ++ loginUrl (literal "u") (literal "x@y s") (literal "h:1"))) =
      sanitizeParseError (unknownArgument
        (literal "-p" ++ loginUrl (literal "u") (literal "w@y t") (literal "h:1"))) := by
  have halike : AlikeWords (literal "-pu:x@y") (literal "-pu:w@y") :=
    (kept_eq_iff _ _).mp (by decide)
  have hclosed : closedWords (literal "u") (literal "x@y s") = [literal "-pu:x@y"] ∧
      closedWords (literal "u") (literal "w@y t") = [literal "-pu:w@y"] := by decide
  refine (sanitize_eq_iff (literal "u") (literal "x@y s") (literal "w@y t") (literal "h:1")
    { host := literal "h", port := 1, username := some (literal "u")
      password := some (literal "x@y s") } (by decide) rfl rfl).1.mpr (Or.inl ⟨?_, by decide⟩)
  rw [hclosed.1, hclosed.2]
  exact List.Forall₂.cons halike List.Forall₂.nil

/-- Of the passwords `a s b` and `a t b` the middle word is printed. -/
theorem not_sanitize_eq_spaces :
    parseProxyUrl (loginUrl (literal "u") (literal "a s b") (literal "h:1")) =
        some { host := literal "h", port := 1, username := some (literal "u"),
               password := some (literal "a s b") } ∧
      parseProxyUrl (loginUrl (literal "u") (literal "a t b") (literal "h:1")) =
        some { host := literal "h", port := 1, username := some (literal "u"),
               password := some (literal "a t b") } ∧
      sanitizeParseError (unknownArgument
          (literal "-p" ++ loginUrl (literal "u") (literal "a s b") (literal "h:1"))) =
        literal "Unknown argument:  s h:1" ∧
      sanitizeParseError (unknownArgument
          (literal "-p" ++ loginUrl (literal "u") (literal "a t b") (literal "h:1"))) =
        literal "Unknown argument:  t h:1" ∧
      literal "Unknown argument:  s h:1" ≠ literal "Unknown argument:  t h:1" := by
  decide

end Encapsule
