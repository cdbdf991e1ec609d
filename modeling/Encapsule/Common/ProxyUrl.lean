import Mathlib.Data.Nat.Digits.Lemmas
import Encapsule.Common.Schema
import Encapsule.Foundation.Text

/-!
# The proxy endpoint

The endpoint that every front end takes, spelled `[user[:pass]@]host:port`, as `parse_proxy_url` of
`utils.hpp` reads it.  Nothing is escaped: the userinfo ends at the last `@`, the username at the
first `:` of the userinfo, and the host at its closing bracket or at the last `:`.

`ProxyEndpoint.Valid` says what the fields of an endpoint may hold, and `ProxyEndpoint.url` spells
it.  Reading and spelling are inverse to each other (`parseProxyUrl_url`, `valid_of_parseProxyUrl`).
-/

namespace Encapsule

open Text

/-! ## Octets -/

/-- The `@` behind the userinfo. -/
def atSign : UInt8 := 64

/-- The `:` in front of a password or a port. -/
def colon : UInt8 := 58

/-- The `[` in front of an IPv6 address. -/
def openBracket : UInt8 := 91

/-- The `]` behind it. -/
def closeBracket : UInt8 := 93

/-- The number that decimal digits spell. -/
def decimalValue (digits : Bytes) : ℕ :=
  digits.foldl (fun port digit => port * 10 + (digit.toNat - 48)) 0

/-- `isdigit`. -/
def isDigit (c : UInt8) : Bool := decide (48 ≤ c.toNat ∧ c.toNat ≤ 57)

/-- `isspace` in the C locale. -/
def isSpace (c : UInt8) : Bool := c = 32 ∨ 9 ≤ c.toNat ∧ c.toNat ≤ 13

/-- `trim_copy`. -/
def trimCopy (text : Bytes) : Bytes := (text.dropWhile isSpace).rdropWhile isSpace

/-- The decimal digits of a number. -/
def decimalText (n : ℕ) : Bytes := ((Nat.digits 10 n).map fun d => UInt8.ofNat (48 + d)).reverse

/-! ## Reading -/

/-- `proxy_credential_max_length`. -/
def proxyCredentialMaxLength : ℕ := 255

/-- `proxy_port_max_length`. -/
def proxyPortMaxLength : ℕ := 5

/-- `proxy_endpoint`. -/
structure ProxyEndpoint where
  host : Bytes
  port : UInt16
  username : Option Bytes := none
  password : Option Bytes := none
  deriving DecidableEq

/-- The host and the text of the port, which stand in the authority with the brackets of an IPv6
address or without. -/
def splitAuthority (authority : Bytes) : Option (Bytes × Bytes) :=
  if authority.head? = some openBracket then
    match splitFirst closeBracket authority with
    | none => none
    | some (front, tail) =>
      -- Whatever follows the bracket has to be the port.
      if tail.head? = some colon then some (front.tail, tail.tail) else none
  else splitLast colon authority

/-- The port, when there are digits and they spell one. -/
def parsePort (portText : Bytes) : Option UInt16 :=
  if portText = [] ∨ proxyPortMaxLength < portText.length then none
  else if portText.all isDigit then
    let port := decimalValue portText
    if port = 0 ∨ 65535 < port then none else some (UInt16.ofNat port)
  else none

/-- The endpoint with the credentials of the userinfo. -/
def ProxyEndpoint.withUserinfo (endpoint : ProxyEndpoint) (userinfo : Bytes) :
    Option ProxyEndpoint :=
  if userinfo = [] then some endpoint
  else
    let (name, password) := (splitFirst colon userinfo).getD (userinfo, [])
    -- The lengths are checked before an empty username drops the credentials.
    if proxyCredentialMaxLength < name.length ∨ proxyCredentialMaxLength < password.length then none
    else if name = [] then some endpoint
    else some { endpoint with
      username := some name, password := if password = [] then none else some password }

/-- `parse_proxy_url`. -/
def parseProxyUrl (url : Bytes) : Option ProxyEndpoint :=
  let (userinfo, authority) := (splitLast atSign url).getD ([], url)
  match splitAuthority authority with
  | none => none
  | some (host, portText) =>
    if host = [] then none
    else if host.any fun c => c = openBracket ∨ c = closeBracket then none
    else
      match parsePort portText with
      | none => none
      | some port => ProxyEndpoint.withUserinfo { host, port } userinfo

/-! ## Spelling -/

/-- What the fields of an endpoint hold. -/
structure ProxyEndpoint.Valid (e : ProxyEndpoint) : Prop where
  host_ne_nil : e.host ≠ []
  host_plain : ∀ c ∈ e.host, c ≠ atSign ∧ c ≠ openBracket ∧ c ≠ closeBracket
  port_ne_zero : e.port ≠ 0
  /-- A password is that of a user. -/
  anonymous : e.username = none → e.password = none
  username_spelled : ∀ user, e.username = some user →
    user ≠ [] ∧ user.length ≤ proxyCredentialMaxLength ∧ colon ∉ user
  password_spelled : ∀ pass, e.password = some pass →
    pass ≠ [] ∧ pass.length ≤ proxyCredentialMaxLength

/-- The `user[:pass]@` in front of the host. -/
def ProxyEndpoint.userinfoText (e : ProxyEndpoint) : Bytes :=
  match e.username with
  | none => []
  | some user => user ++ (e.password.elim [] fun pass => colon :: pass) ++ [atSign]

/-- The `host:port`. -/
def ProxyEndpoint.authorityText (e : ProxyEndpoint) (bracketed : Bool) : Bytes :=
  (if bracketed then openBracket :: e.host ++ [closeBracket] else e.host) ++
    colon :: decimalText e.port.toNat

/-- The endpoint as it is written down. -/
def ProxyEndpoint.url (e : ProxyEndpoint) (bracketed : Bool) : Bytes :=
  e.userinfoText ++ e.authorityText bracketed

/-! ## Decimal numbers -/

/-- A digit of a number is an octet of its text. -/
lemma toNat_digit {d : ℕ} (hd : d < 10) : (UInt8.ofNat (48 + d)).toNat = 48 + d :=
  UInt8.toNat_ofNat_of_lt (by simp only [UInt8.size]; omega)

/-- The octets of the text of a number are digits. -/
lemma isDigit_of_mem_decimalText {n : ℕ} {c : UInt8} (hc : c ∈ decimalText n) :
    isDigit c = true := by
  rw [decimalText, List.mem_reverse, List.mem_map] at hc
  obtain ⟨d, hd, rfl⟩ := hc
  have hlt : d < 10 := Nat.digits_lt_base (by omega) hd
  rw [isDigit, toNat_digit hlt]
  exact decide_eq_true (by omega)

/-- The text of a number spells it. -/
lemma decimalValue_decimalText (n : ℕ) : decimalValue (decimalText n) = n := by
  have hspell : ∀ digits : List ℕ, (∀ d ∈ digits, d < 10) →
      decimalValue (digits.map fun d => UInt8.ofNat (48 + d)).reverse = Nat.ofDigits 10 digits := by
    intro digits hdigits
    induction digits with
    | nil => rfl
    | cons d digits ih =>
      have hrest := ih fun other hother => hdigits other (List.mem_cons_of_mem d hother)
      unfold decimalValue at hrest ⊢
      rw [List.map_cons, List.reverse_cons, List.foldl_append, hrest, List.foldl_cons,
        List.foldl_nil, toNat_digit (hdigits d List.mem_cons_self), Nat.ofDigits_cons]
      omega
  rw [decimalText, hspell _ fun d hd => Nat.digits_lt_base (by omega) hd, Nat.ofDigits_digits]

/-- The text of a port is read as the port. -/
lemma parsePort_decimalText {port : UInt16} (hport : port ≠ 0) :
    parsePort (decimalText port.toNat) = some port := by
  have hlt : port.toNat < 65536 := port.toNat_lt
  have hpos : port.toNat ≠ 0 := fun hzero => hport (UInt16.toNat_inj.mp hzero)
  have hne : decimalText port.toNat ≠ [] := by
    simpa [decimalText] using Nat.digits_ne_nil_iff_ne_zero.mpr hpos
  have hlength : (decimalText port.toNat).length ≤ proxyPortMaxLength := by
    rw [decimalText, List.length_reverse, List.length_map]
    refine (Nat.digits_length_le_iff (by omega) _).mpr ?_
    change port.toNat < 10 ^ 5
    omega
  have hdigits : (decimalText port.toNat).all isDigit = true :=
    List.all_eq_true.mpr fun c hc => isDigit_of_mem_decimalText hc
  have hrange : ¬(decimalValue (decimalText port.toNat) = 0 ∨
      65535 < decimalValue (decimalText port.toNat)) := by
    rw [decimalValue_decimalText]
    omega
  rw [parsePort, if_neg (by simp [hne, hlength]), if_pos hdigits]
  dsimp only
  rw [if_neg hrange, decimalValue_decimalText, UInt16.ofNat_toNat]

/-- Zero is not read as a port. -/
lemma ne_zero_of_parsePort {portText : Bytes} {port : UInt16} (h : parsePort portText = some port) :
    port ≠ 0 := by
  unfold parsePort at h
  dsimp only at h
  split_ifs at h with hlength hdigits hrange
  cases h
  intro hzero
  have hvalue : (UInt16.ofNat (decimalValue portText)).toNat = decimalValue portText :=
    UInt16.toNat_ofNat_of_lt (by simp only [UInt16.size]; omega)
  rw [hzero] at hvalue
  exact hrange (Or.inl hvalue.symm)

/-! ## The parts of a URL -/

/-- A URL is accepted where each of its parts is. -/
lemma parseProxyUrl_eq_some {url : Bytes} {e : ProxyEndpoint} :
    parseProxyUrl url = some e ↔ ∃ userinfo authority host portText port,
      (splitLast atSign url).getD ([], url) = (userinfo, authority) ∧
      splitAuthority authority = some (host, portText) ∧ host ≠ [] ∧
      (∀ c ∈ host, c ≠ openBracket ∧ c ≠ closeBracket) ∧ parsePort portText = some port ∧
      ProxyEndpoint.withUserinfo { host, port } userinfo = some e := by
  have hplain (host : Bytes) : (host.any fun c => c = openBracket ∨ c = closeBracket) = true ↔
      ¬∀ c ∈ host, c ≠ openBracket ∧ c ≠ closeBracket := by
    simp [or_iff_not_imp_left]
  unfold parseProxyUrl
  generalize (splitLast atSign url).getD ([], url) = parts
  obtain ⟨userinfo, authority⟩ := parts
  dsimp only
  constructor
  · intro h
    cases hauthority : splitAuthority authority with
    | none =>
      rw [hauthority] at h
      cases h
    | some parts =>
      obtain ⟨host, portText⟩ := parts
      rw [hauthority] at h
      dsimp only at h
      split_ifs at h with hempty hbrackets
      rw [hplain, not_not] at hbrackets
      cases hport : parsePort portText with
      | none =>
        rw [hport] at h
        cases h
      | some port =>
        rw [hport] at h
        exact ⟨userinfo, authority, host, portText, port, rfl, hauthority, hempty, hbrackets, hport,
          h⟩
  · rintro ⟨_, _, host, portText, port, hparts, hauthority, hempty, hbrackets, hport, h⟩
    cases hparts
    have hbrackets' : ¬(host.any fun c => c = openBracket ∨ c = closeBracket) = true := by
      rw [hplain, not_not]
      exact hbrackets
    rw [hauthority]
    dsimp only
    rw [if_neg hempty, if_neg hbrackets', hport]
    exact h

/-- The userinfo is what is in front of the last `@`, or there is none. -/
lemma parts_of_splitLast {url userinfo authority : Bytes}
    (h : (splitLast atSign url).getD ([], url) = (userinfo, authority)) :
    atSign ∉ authority ∧
      (userinfo = [] ∧ url = authority ∨ url = userinfo ++ atSign :: authority) := by
  cases hsplit : splitLast atSign url with
  | none =>
    rw [hsplit] at h
    cases h
    exact ⟨splitLast_eq_none.mp hsplit, Or.inl ⟨rfl, rfl⟩⟩
  | some parts =>
    rw [hsplit] at h
    cases h
    obtain ⟨hurl, hfree⟩ := splitLast_eq_some.mp hsplit
    exact ⟨hfree, Or.inr hurl⟩

/-- The host is part of the authority. -/
lemma mem_of_splitAuthority {authority host portText : Bytes} {c : UInt8}
    (h : splitAuthority authority = some (host, portText)) (hc : c ∈ host) : c ∈ authority := by
  unfold splitAuthority at h
  split_ifs at h with hhead
  · cases hsplit : splitFirst closeBracket authority with
    | none =>
      rw [hsplit] at h
      cases h
    | some parts =>
      obtain ⟨front, tail⟩ := parts
      rw [hsplit] at h
      dsimp only at h
      split_ifs at h
      cases h
      rw [(splitFirst_eq_some.mp hsplit).1]
      exact List.mem_append_left _ (List.mem_of_mem_tail hc)
  · rw [(splitLast_eq_some.mp h).1]
    exact List.mem_append_left _ hc

/-- What the userinfo gives to an endpoint: nothing, or a username, perhaps with a password. -/
lemma withUserinfo_eq_some {host : Bytes} {port : UInt16} {userinfo : Bytes} {e : ProxyEndpoint}
    (h : ProxyEndpoint.withUserinfo { host, port } userinfo = some e) :
    e.host = host ∧ e.port = port ∧
      (e.username = none ∧ e.password = none ∨
        ∃ name, e.username = some name ∧ name ≠ [] ∧ name.length ≤ proxyCredentialMaxLength ∧
          colon ∉ name ∧
          (e.password = none ∧ (userinfo = name ∨ userinfo = name ++ [colon]) ∨
            ∃ pass, e.password = some pass ∧ pass ≠ [] ∧
              pass.length ≤ proxyCredentialMaxLength ∧ userinfo = name ++ colon :: pass)) := by
  unfold ProxyEndpoint.withUserinfo at h
  split_ifs at h with hempty
  · cases h
    exact ⟨rfl, rfl, Or.inl ⟨rfl, rfl⟩⟩
  · obtain ⟨name, password, hparts, hfree, hcut⟩ : ∃ name password,
        (splitFirst colon userinfo).getD (userinfo, []) = (name, password) ∧ colon ∉ name ∧
          (password = [] ∧ userinfo = name ∨ userinfo = name ++ colon :: password) := by
      cases hsplit : splitFirst colon userinfo with
      | none => exact ⟨userinfo, [], rfl, splitFirst_eq_none.mp hsplit, Or.inl ⟨rfl, rfl⟩⟩
      | some parts =>
        obtain ⟨hcut, hfree⟩ := splitFirst_eq_some.mp hsplit
        exact ⟨parts.1, parts.2, rfl, hfree, Or.inr hcut⟩
    rw [hparts] at h
    dsimp only at h
    split_ifs at h with hlength hname hpass
    · cases h
      exact ⟨rfl, rfl, Or.inl ⟨rfl, rfl⟩⟩
    · cases h
      rw [not_or, Nat.not_lt, Nat.not_lt] at hlength
      refine ⟨rfl, rfl, Or.inr ⟨name, rfl, hname, hlength.1, hfree, Or.inl ⟨rfl, ?_⟩⟩⟩
      rcases hcut with ⟨-, hcut⟩ | hcut
      · exact Or.inl hcut
      · exact Or.inr (by rw [hcut, hpass])
    · cases h
      rw [not_or, Nat.not_lt, Nat.not_lt] at hlength
      refine ⟨rfl, rfl, Or.inr ⟨name, rfl, hname, hlength.1, hfree, Or.inr ⟨password, rfl, hpass,
        hlength.2, ?_⟩⟩⟩
      rcases hcut with ⟨hnil, -⟩ | hcut
      · exact absurd hnil hpass
      · exact hcut

/-! ## Reading what was spelled -/

variable {e : ProxyEndpoint}

/-- The host and the port are found in the authority. -/
lemma splitAuthority_authorityText (he : e.Valid) (bracketed : Bool) :
    splitAuthority (e.authorityText bracketed) = some (e.host, decimalText e.port.toNat) := by
  cases bracketed with
  | true =>
    have hsplit : splitFirst closeBracket (e.authorityText true) =
        some (openBracket :: e.host, colon :: decimalText e.port.toNat) := by
      refine splitFirst_eq_some.mpr ⟨by simp [ProxyEndpoint.authorityText], ?_⟩
      rw [List.mem_cons, not_or]
      exact ⟨by decide, fun hmem => (he.host_plain _ hmem).2.2 rfl⟩
    have hhead : (e.authorityText true).head? = some openBracket := rfl
    rw [splitAuthority, if_pos hhead, hsplit]
    rfl
  | false =>
    have hsplit : splitLast colon (e.authorityText false) =
        some (e.host, decimalText e.port.toNat) := by
      refine splitLast_eq_some.mpr ⟨rfl, fun hmem => ?_⟩
      exact absurd (isDigit_of_mem_decimalText hmem) (by decide)
    have hhead : (e.authorityText false).head? ≠ some openBracket := by
      obtain ⟨c, host, hhost⟩ := List.exists_cons_of_ne_nil he.host_ne_nil
      have hc := (he.host_plain c (by simp [hhost])).2.1
      simpa [ProxyEndpoint.authorityText, hhost] using hc
    rw [splitAuthority, if_neg hhead, hsplit]

/-- There is no `@` in the authority. -/
lemma atSign_not_mem_authorityText (he : e.Valid) (bracketed : Bool) :
    atSign ∉ e.authorityText bracketed := by
  have hhost : atSign ∉ e.host := fun hmem => (he.host_plain _ hmem).1 rfl
  have hport : atSign ∉ decimalText e.port.toNat := fun hmem =>
    absurd (isDigit_of_mem_decimalText hmem) (by decide)
  have hopen : atSign ≠ openBracket := by decide
  have hclose : atSign ≠ closeBracket := by decide
  have hcolon : atSign ≠ colon := by decide
  cases bracketed <;> simp [ProxyEndpoint.authorityText, hhost, hport, hopen, hclose, hcolon]

/-- The credentials are found in the userinfo. -/
lemma withUserinfo_credentials (he : e.Valid) {user : Bytes} (huser : e.username = some user) :
    ProxyEndpoint.withUserinfo { host := e.host, port := e.port }
      (user ++ e.password.elim [] fun pass => colon :: pass) = some e := by
  obtain ⟨hne, hlength, hfree⟩ := he.username_spelled user huser
  obtain ⟨host, port, username, password⟩ := e
  cases huser
  cases password with
  | none =>
    have hsplit : splitFirst colon user = none := splitFirst_eq_none.mpr hfree
    have hlength' : ¬proxyCredentialMaxLength < user.length := Nat.not_lt.mpr hlength
    simp [ProxyEndpoint.withUserinfo, hne, hsplit, hlength']
  | some pass =>
    obtain ⟨hnePass, hlengthPass⟩ := he.password_spelled pass rfl
    have hsplit : splitFirst colon (user ++ colon :: pass) = some (user, pass) :=
      splitFirst_eq_some.mpr ⟨rfl, hfree⟩
    have hlength' : ¬proxyCredentialMaxLength < user.length := Nat.not_lt.mpr hlength
    have hlengthPass' : ¬proxyCredentialMaxLength < pass.length := Nat.not_lt.mpr hlengthPass
    simp [ProxyEndpoint.withUserinfo, hne, hsplit, hlength', hnePass, hlengthPass']

/-- The userinfo and the authority are found in the URL. -/
lemma splitLast_url (he : e.Valid) (bracketed : Bool) :
    (splitLast atSign (e.url bracketed)).getD ([], e.url bracketed) =
      (e.username.elim [] fun user => user ++ e.password.elim [] fun pass => colon :: pass,
        e.authorityText bracketed) := by
  have hfree := atSign_not_mem_authorityText he bracketed
  cases huser : e.username with
  | none =>
    have hurl : e.url bracketed = e.authorityText bracketed := by
      rw [ProxyEndpoint.url, ProxyEndpoint.userinfoText, huser]
      rfl
    rw [hurl, splitLast_eq_none.mpr hfree]
    rfl
  | some user =>
    have hurl : e.url bracketed = (user ++ e.password.elim [] fun pass => colon :: pass) ++
        atSign :: e.authorityText bracketed := by
      simp [ProxyEndpoint.url, ProxyEndpoint.userinfoText, huser]
    rw [splitLast_eq_some.mpr ⟨hurl, hfree⟩]
    rfl

/-- An endpoint that is written down is read back, with the brackets or without. -/
lemma parseProxyUrl_url (he : e.Valid) (bracketed : Bool) :
    parseProxyUrl (e.url bracketed) = some e := by
  refine parseProxyUrl_eq_some.mpr ⟨_, _, _, _, e.port, splitLast_url he bracketed,
    splitAuthority_authorityText he bracketed, he.host_ne_nil,
    fun c hc => (he.host_plain c hc).2, parsePort_decimalText he.port_ne_zero, ?_⟩
  cases huser : e.username with
  | none =>
    have hanonymous := he.anonymous huser
    obtain ⟨host, port, username, password⟩ := e
    cases huser
    cases hanonymous
    rfl
  | some user => exact withUserinfo_credentials he huser

/-- What is read is well formed. -/
lemma valid_of_parseProxyUrl {url : Bytes} (h : parseProxyUrl url = some e) : e.Valid := by
  obtain ⟨userinfo, authority, host, portText, port, hparts, hauthority, hempty, hbrackets, hport,
    huserinfo⟩ := parseProxyUrl_eq_some.mp h
  obtain ⟨hhost, hportEq, hcredentials⟩ := withUserinfo_eq_some huserinfo
  have hfree := (parts_of_splitLast hparts).1
  refine ⟨by rwa [hhost], fun c hc => ?_, by rw [hportEq]; exact ne_zero_of_parsePort hport,
    fun hnone => ?_, fun user huser => ?_, fun pass hpass => ?_⟩
  · rw [hhost] at hc
    exact ⟨fun hat => hfree (hat ▸ mem_of_splitAuthority hauthority hc), hbrackets c hc⟩
  · rcases hcredentials with ⟨-, hpass⟩ | ⟨name, hname, -⟩
    · exact hpass
    · rw [hnone] at hname
      cases hname
  · rcases hcredentials with ⟨hnone, -⟩ | ⟨name, hname, hne, hlength, hcolon, -⟩
    · rw [huser] at hnone
      cases hnone
    · rw [huser] at hname
      cases hname
      exact ⟨hne, hlength, hcolon⟩
  · rcases hcredentials with ⟨-, hnone⟩ | ⟨name, -, -, -, -, ⟨hnone, -⟩ | ⟨other, hother, hne,
      hlength, -⟩⟩
    · rw [hpass] at hnone
      cases hnone
    · rw [hpass] at hnone
      cases hnone
    · rw [hpass] at hother
      cases hother
      exact ⟨hne, hlength⟩

/-- **Reading and spelling a proxy endpoint are inverse to each other.** A well-formed endpoint that
is written down is read back, and what is read of any text is well formed and, when it is written
down, read as the same.  The brackets may be left out. -/
theorem parseProxyUrl_inverse :
    (∀ (e : ProxyEndpoint) (bracketed : Bool), e.Valid →
        parseProxyUrl (e.url bracketed) = some e) ∧
      ∀ (url : Bytes) (e : ProxyEndpoint) (bracketed : Bool), parseProxyUrl url = some e →
        e.Valid ∧ parseProxyUrl (e.url bracketed) = some e := by
  refine ⟨fun e bracketed he => parseProxyUrl_url he bracketed, fun url e bracketed h => ?_⟩
  have he := valid_of_parseProxyUrl h
  exact ⟨he, parseProxyUrl_url he bracketed⟩

/-- `user:p@ss@h:1` is a username, a password with an `@`, a host and a port. -/
theorem parseProxyUrl_inverse_at :
    let e : ProxyEndpoint :=
      { host := [104], port := 1, username := some [117, 115, 101, 114]
        password := some [112, 64, 115, 115] }
    parseProxyUrl [117, 115, 101, 114, 58, 112, 64, 115, 115, 64, 104, 58, 49] = some e ∧
      parseProxyUrl (e.url true) = some e :=
  have hread : parseProxyUrl [117, 115, 101, 114, 58, 112, 64, 115, 115, 64, 104, 58, 49] =
      some { host := [104], port := 1, username := some [117, 115, 101, 114]
             password := some [112, 64, 115, 115] } := by decide
  ⟨hread, (parseProxyUrl_inverse.2 _ _ true hread).2⟩

/-! ## A host with colons -/

/-- What is behind the last `@` of a URL. -/
def urlAuthority (url : Bytes) : Bytes := ((splitLast atSign url).getD ([], url)).2

/-- Without a bracket the host is what is in front of the last `:` of the authority. -/
lemma authority_of_parseProxyUrl {url : Bytes} (h : parseProxyUrl url = some e)
    (hplain : (urlAuthority url).head? ≠ some openBracket) :
    ∃ portText, urlAuthority url = e.host ++ colon :: portText ∧ colon ∉ portText := by
  obtain ⟨userinfo, authority, host, portText, port, hparts, hauthority, -, -, -, huserinfo⟩ :=
    parseProxyUrl_eq_some.mp h
  obtain ⟨hhost, -, -⟩ := withUserinfo_eq_some huserinfo
  have hurl : urlAuthority url = authority := by rw [urlAuthority, hparts]
  rw [hurl] at hplain ⊢
  rw [splitAuthority, if_neg hplain] at hauthority
  rw [hhost]
  exact ⟨portText, splitLast_eq_some.mp hauthority⟩

/-- **A host that is written without brackets.** The host of an accepted URL has no colon exactly
where the authority has no other than the one in front of the port: of more colons all but the last
become part of the host, and none of them is a reason to refuse the URL. -/
theorem colon_not_mem_host_iff (url : Bytes) (e : ProxyEndpoint) (h : parseProxyUrl url = some e)
    (hplain : (urlAuthority url).head? ≠ some openBracket) :
    colon ∉ e.host ↔ (urlAuthority url).count colon = 1 := by
  obtain ⟨portText, hcut, hfree⟩ := authority_of_parseProxyUrl h hplain
  have hport : portText.count colon = 0 := List.count_eq_zero.mpr hfree
  have hcount : (urlAuthority url).count colon = e.host.count colon + 1 := by
    rw [hcut, List.count_append, List.count_cons_self, hport]
  rw [hcount, Nat.add_eq_right, List.count_eq_zero]

/-- The host of `h:1` has no colon. -/
theorem colon_not_mem_host_iff_h : colon ∉ ([104] : Bytes) :=
  (colon_not_mem_host_iff [104, 58, 49] { host := [104], port := 1 } (by decide)
    (by decide)).mpr (by decide)

/-- Of `fe80::1` the host `fe80:` and the port 1 are read. -/
theorem not_colon_not_mem_host_fe80 :
    ¬∀ (url : Bytes) (e : ProxyEndpoint), parseProxyUrl url = some e →
      (urlAuthority url).head? ≠ some openBracket → colon ∉ e.host := by
  intro hclaim
  have hread : parseProxyUrl [102, 101, 56, 48, 58, 58, 49] =
      some { host := [102, 101, 56, 48, 58], port := 1 } := by decide
  exact absurd (hclaim _ _ hread (by decide)) (by decide)

end Encapsule
