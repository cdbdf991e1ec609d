import Encapsule.Injectee.Hook
import Encapsule.Injector.ProxyPanel

/-!
# Numbers in text

The four places that read a decimal number: `parse_process_id` of `injector_gui.hpp`, the port box
of the proxy panel, the port of `parse_proxy_url` and the numeric branch of `service_to_port`.  Each
reads digit by digit into an unsigned integer, behind a check of the length and in front of a check
of the range.

`Spells` says what they accept (`parsersExact`).  `digitLoop` is the loop on an integer of
some width, which does not overflow where the length is checked first (`map_toNat_digitLoop`).
-/

namespace Encapsule

/-! ## The loop -/

/-- The loop over the digits, on an unsigned integer. -/
def digitLoop (width : ℕ) (value : BitVec width) : Bytes → Option (BitVec width)
  | [] => some value
  | digit :: text =>
    if digit.toNat < 48 ∨ 57 < digit.toNat then none
    else digitLoop width (value * 10 + BitVec.ofNat width (digit.toNat - 48)) text

/-- `process_id_max_digits`. -/
def processIdMaxDigits : ℕ := 10

/-- `bad_id`. -/
def badId : String := "the process id must be a number from 1 to 4294967295"

/-- `parse_process_id`: why the text is refused, if it is, and what `out` holds then. -/
def parseProcessId (text : Bytes) (out : DWORD) : Option String × DWORD :=
  if text = [] then (some "no process id was entered", out)
  else if processIdMaxDigits < text.length then (some badId, out)
  else
    match digitLoop 64 0 text with
    | none => (some badId, out)
    | some value =>
      if value = 0 ∨ 0xFFFFFFFF < value then (some badId, out)
      else (none, UInt32.ofNat value.toNat)

/-! ## What is spelled -/

/-- The text is a decimal number of at most so many digits, and not over the maximum. -/
structure Spells (digits max : ℕ) (text : Bytes) (n : ℕ) : Prop where
  ne_nil : text ≠ []
  short : text.length ≤ digits
  isDigit : ∀ c ∈ text, isDigit c = true
  value : decimalValue text = n
  pos : 1 ≤ n
  le_max : n ≤ max

variable {text front : Bytes} {width : ℕ}

/-- A digit behind the others. -/
lemma decimalValue_append_singleton (text : Bytes) (c : UInt8) :
    decimalValue (text ++ [c]) = decimalValue text * 10 + (c.toNat - 48) := by
  simp [decimalValue]

/-- As many digits spell a number below a power of ten. -/
lemma decimalValue_lt (htext : ∀ c ∈ text, isDigit c = true) :
    decimalValue text < 10 ^ text.length := by
  induction text using List.reverseRecOn with
  | nil => decide
  | append_singleton text c ih =>
    rw [List.forall_mem_append, List.forall_mem_singleton] at htext
    have hc : 48 ≤ c.toNat ∧ c.toNat ≤ 57 := of_decide_eq_true htext.2
    have hfront := ih htext.1
    rw [decimalValue_append_singleton, List.length_append, List.length_singleton, pow_succ]
    omega

/-- The loop goes on with the digits. -/
lemma digitLoop_append (value : BitVec width) (front text : Bytes) :
    digitLoop width value (front ++ text) =
      (digitLoop width value front).bind fun value => digitLoop width value text := by
  induction front generalizing value with
  | nil => rfl
  | cons c front ih =>
    rw [List.cons_append, digitLoop, digitLoop]
    split_ifs
    · rfl
    · exact ih _

/-- The loop refuses what is not a digit. -/
lemma digitLoop_eq_none (value : BitVec width) (h : ¬∀ c ∈ text, isDigit c = true) :
    digitLoop width value text = none := by
  induction text generalizing value with
  | nil => simp at h
  | cons c text ih =>
    rw [digitLoop]
    split_ifs with hc
    · rfl
    · refine ih _ fun htext => h ?_
      rw [List.forall_mem_cons]
      exact ⟨decide_eq_true (by omega), htext⟩

/-- The loop computes the number, up to overflow. -/
lemma digitLoop_eq_some (width : ℕ) (htext : ∀ c ∈ text, isDigit c = true) :
    digitLoop width 0 text = some (BitVec.ofNat width (decimalValue text)) := by
  induction text using List.reverseRecOn with
  | nil => rfl
  | append_singleton text c ih =>
    rw [List.forall_mem_append, List.forall_mem_singleton] at htext
    have hc : 48 ≤ c.toNat ∧ c.toNat ≤ 57 := of_decide_eq_true htext.2
    rw [digitLoop_append, ih htext.1, Option.bind_some, digitLoop, if_neg (by omega), digitLoop,
      decimalValue_append_singleton, BitVec.ofNat_add, BitVec.ofNat_mul]
    rfl

/-- Without overflow the loop has the number of the digits that it has read. -/
lemma map_toNat_digitLoop (hwidth : 10 ^ text.length ≤ 2 ^ width) (hfront : front <+: text) :
    (digitLoop width 0 front).map BitVec.toNat =
      if front.all isDigit then some (decimalValue front) else none := by
  split_ifs with hdigits
  · rw [List.all_eq_true] at hdigits
    have hlt : decimalValue front < 2 ^ width :=
      calc decimalValue front < 10 ^ front.length := decimalValue_lt hdigits
        _ ≤ 10 ^ text.length := Nat.pow_le_pow_right (by omega) hfront.length_le
        _ ≤ 2 ^ width := hwidth
    rw [digitLoop_eq_some width hdigits, Option.map_some, BitVec.toNat_ofNat,
      Nat.mod_eq_of_lt hlt]
  · rw [List.all_eq_true] at hdigits
    rw [digitLoop_eq_none 0 hdigits, Option.map_none]

/-- A text that is not longer than the check of the length allows fits into the integer. -/
lemma pow_le_of_length_le {digits : ℕ} (hfit : 10 ^ digits ≤ 2 ^ width)
    (h : text.length ≤ digits) : 10 ^ text.length ≤ 2 ^ width :=
  (Nat.pow_le_pow_right (by omega) h).trans hfit

/-! ## The parsers -/

variable {n : ℕ}

/-- The number of a process id of digits. -/
lemma exists_digitLoop_eq (hshort : text.length ≤ processIdMaxDigits)
    (hdigits : ∀ c ∈ text, isDigit c = true) :
    ∃ value, digitLoop 64 0 text = some value ∧ value.toNat = decimalValue text := by
  have hfit : 10 ^ text.length ≤ 2 ^ 64 := pow_le_of_length_le (by decide) hshort
  have hread := map_toNat_digitLoop hfit List.prefix_rfl
  rw [if_pos (List.all_eq_true.mpr hdigits)] at hread
  exact Option.map_eq_some_iff.mp hread

/-- The process id that is spelled is stored. -/
lemma parseProcessId_of_spells (h : Spells 10 4294967295 text n) (out : DWORD) :
    parseProcessId text out = (none, UInt32.ofNat n) := by
  obtain ⟨value, hloop, hvalue⟩ := exists_digitLoop_eq h.short h.isDigit
  rw [h.value] at hvalue
  have hrange : ¬(value = 0 ∨ 0xFFFFFFFF < value) := by
    have hpos := h.pos
    have hle := h.le_max
    rintro (rfl | hlarge)
    · change 0 = n at hvalue
      omega
    · have hlarge' : 4294967295 < value.toNat := BitVec.lt_def.mp hlarge
      omega
  rw [parseProcessId, if_neg h.ne_nil,
    if_neg (show ¬processIdMaxDigits < _ from Nat.not_lt.mpr h.short), hloop]
  dsimp only
  rw [if_neg hrange, hvalue]

/-- Any other text is refused, and nothing is stored. -/
lemma parseProcessId_of_not_spells (h : ¬∃ n, Spells 10 4294967295 text n) (out : DWORD) :
    ∃ why, parseProcessId text out = (some why, out) := by
  unfold parseProcessId
  split_ifs with hnil hlong
  · exact ⟨_, rfl⟩
  · exact ⟨_, rfl⟩
  · by_cases hdigits : ∀ c ∈ text, isDigit c = true
    · obtain ⟨value, hloop, hvalue⟩ := exists_digitLoop_eq (Nat.not_lt.mp hlong) hdigits
      rw [hloop]
      dsimp only
      split_ifs with hrange
      · exact ⟨_, rfl⟩
      · rw [not_or, BitVec.lt_def, ← BitVec.toNat_inj] at hrange
        refine absurd ⟨decimalValue text, hnil, Nat.not_lt.mp hlong, hdigits, rfl, ?_, ?_⟩ h
        · have hne : value.toNat ≠ 0 := hrange.1
          omega
        · have hle : ¬4294967295 < value.toNat := hrange.2
          omega
    · rw [digitLoop_eq_none 0 hdigits]
      exact ⟨_, rfl⟩

/-- The port of an endpoint. -/
lemma parsePort_eq_some {port : UInt16} :
    parsePort text = some port ↔ Spells 5 65535 text port.toNat := by
  unfold parsePort
  constructor
  · intro h
    dsimp only at h
    split_ifs at h with hlength hdigits hrange
    rw [not_or, Nat.not_lt] at hlength
    rw [not_or, Nat.not_lt] at hrange
    have hvalue : port.toNat = decimalValue text := by
      rw [← Option.some.inj h]
      exact UInt16.toNat_ofNat_of_lt (by simp only [UInt16.size]; omega)
    exact
      { ne_nil := hlength.1, short := hlength.2, isDigit := List.all_eq_true.mp hdigits
        value := hvalue.symm, pos := by omega, le_max := by omega }
  · intro h
    have hlength : ¬(text = [] ∨ proxyPortMaxLength < text.length) :=
      not_or.mpr ⟨h.ne_nil, Nat.not_lt.mpr h.short⟩
    have hpos := h.pos
    have hle := h.le_max
    rw [if_neg hlength, if_pos (List.all_eq_true.mpr h.isDigit)]
    dsimp only
    rw [h.value, if_neg (by omega), UInt16.ofNat_toNat]

/-- The boxes of the panel but for that of the port are in order. -/
structure ProxyBoxes.InOrder (makeAddress : Bytes → Option IpAddress) (boxes : ProxyBoxes)
    (ip : IpAddress) : Prop where
  user : (trimCopy boxes.user).length ≤ 255
  pass : boxes.pass.length ≤ 255
  addr : trimCopy boxes.addr ≠ []
  short : (trimCopy boxes.addr).length ≤ 255
  address : makeAddress (stripBrackets (trimCopy boxes.addr)) = some ip

variable {makeAddress : Bytes → Option IpAddress} {boxes : ProxyBoxes}

/-- A click that is accepted sets a port that is spelled. -/
lemma ProxyBoxes.spells_of_check {ip : IpAddress} {port : UInt32} {calls : List ConfigSetter}
    (h : boxes.check makeAddress = .ok (.setProxy ip port :: calls)) :
    Spells 5 65535 (trimCopy boxes.port) port.toNat := by
  unfold ProxyBoxes.check at h
  dsimp only at h
  split_ifs at h with hlogin hempty hlong hdigits hrange haddr
  cases haddress : makeAddress (stripBrackets (trimCopy boxes.addr)) with
  | none =>
    rw [haddress] at h
    cases h
  | some ip' =>
    rw [haddress] at h
    cases h
    rw [not_or] at hempty
    rw [not_or, Nat.not_lt] at hrange
    rw [Bool.not_eq_true, Bool.not_eq_false'] at hdigits
    have hvalue : (UInt32.ofNat (decimalValue (trimCopy boxes.port))).toNat =
        decimalValue (trimCopy boxes.port) :=
      UInt32.toNat_ofNat_of_lt (by simp only [UInt32.size]; omega)
    rw [hvalue]
    exact
      { ne_nil := hempty.2, short := Nat.not_lt.mp hlong, isDigit := List.all_eq_true.mp hdigits
        value := rfl, pos := by omega, le_max := hrange.2 }

/-- A port that is spelled is set, where the other boxes are in order. -/
lemma ProxyBoxes.check_of_spells {ip : IpAddress} (hboxes : boxes.InOrder makeAddress ip)
    (h : Spells 5 65535 (trimCopy boxes.port) n) :
    boxes.check makeAddress =
      .ok [.setProxy ip (UInt32.ofNat n), credentialsCall (trimCopy boxes.user) boxes.pass] := by
  have hlogin : ¬(proxyCredentialMaxLength < (trimCopy boxes.user).length ∨
      proxyCredentialMaxLength < boxes.pass.length) :=
    not_or.mpr ⟨Nat.not_lt.mpr hboxes.user, Nat.not_lt.mpr hboxes.pass⟩
  have hpos := h.pos
  have hle := h.le_max
  unfold ProxyBoxes.check
  dsimp only
  rw [if_neg hlogin, if_neg (not_or.mpr ⟨hboxes.addr, h.ne_nil⟩),
    if_neg (show ¬proxyPortMaxLength < _ from Nat.not_lt.mpr h.short),
    if_neg (by rw [List.all_eq_true.mpr h.isDigit]; exact Bool.false_ne_true), h.value,
    if_neg (by omega), if_neg (show ¬proxyHostMaxLength < _ from Nat.not_lt.mpr hboxes.short),
    hboxes.address]

/-- A service that spells a port is that port. -/
lemma serviceToPort_of_spells (serviceMap : Bytes → Option UInt16) (h : Spells 5 65535 text n) :
    serviceToPort serviceMap text = Interaction.Prog.ret (some (UInt16.ofNat n)) := by
  have hnil : text.isEmpty = false := by simpa using h.ne_nil
  have hshort : decide (text.length ≤ proxyPortMaxLength) = true := decide_eq_true h.short
  have hrange : 0 < n ∧ n ≤ 65535 := ⟨h.pos, h.le_max⟩
  unfold serviceToPort
  rw [hnil, hshort, List.all_eq_true.mpr h.isDigit, h.value]
  dsimp only
  rw [if_pos (by rfl), if_pos hrange]
  rfl

/-- The parsers accept exactly the numbers that are spelled, with their value. -/
structure ParsersExact (text : Bytes) : Prop where
  processId : ∀ out n, Spells 10 4294967295 text n →
    parseProcessId text out = (none, UInt32.ofNat n)
  /-- A text that is refused leaves `out` alone. -/
  noProcessId : ∀ out, (¬∃ n, Spells 10 4294967295 text n) →
    ∃ why, parseProcessId text out = (some why, out)
  /-- The 64 bits of the loop over a process id hold the number of the digits read so far. -/
  wide : text.length ≤ 10 → ∀ front, front <+: text →
    (digitLoop 64 0 front).map BitVec.toNat =
      if front.all isDigit then some (decimalValue front) else none
  /-- So do the 32 bits of the loops over a port. -/
  narrow : text.length ≤ 5 → ∀ front, front <+: text →
    (digitLoop 32 0 front).map BitVec.toNat =
      if front.all isDigit then some (decimalValue front) else none
  endpoint : ∀ port, parsePort text = some port ↔ Spells 5 65535 text port.toNat
  /-- The port box, next to others that are in order. -/
  box : ∀ (makeAddress : Bytes → Option IpAddress) (boxes : ProxyBoxes) (ip : IpAddress) (n : ℕ),
    trimCopy boxes.port = text → boxes.InOrder makeAddress ip → Spells 5 65535 text n →
    boxes.check makeAddress =
      .ok [.setProxy ip (UInt32.ofNat n), credentialsCall (trimCopy boxes.user) boxes.pass]
  boxAccepted : ∀ (makeAddress : Bytes → Option IpAddress) (boxes : ProxyBoxes)
    (calls : List ConfigSetter), trimCopy boxes.port = text → boxes.check makeAddress = .ok calls →
    ∃ ip n, Spells 5 65535 text n ∧ calls =
      [.setProxy ip (UInt32.ofNat n), credentialsCall (trimCopy boxes.user) boxes.pass]
  /-- The tables are not consulted, and no system call is made. -/
  service : ∀ serviceMap n, Spells 5 65535 text n →
    serviceToPort serviceMap text = Interaction.Prog.ret (some (UInt16.ofNat n))

/-- **The number parsers.** Every text is read as the number that it spells, or refused, by
`parse_process_id`, the port box, the port of an endpoint and `service_to_port`, and the loops do
not overflow. -/
theorem parsersExact (text : Bytes) : ParsersExact text where
  processId out _ h := parseProcessId_of_spells h out
  noProcessId out h := parseProcessId_of_not_spells h out
  wide h _ hfront := map_toNat_digitLoop (pow_le_of_length_le (by decide) h) hfront
  narrow h _ hfront := map_toNat_digitLoop (pow_le_of_length_le (by decide) h) hfront
  endpoint _ := parsePort_eq_some
  box := by
    rintro makeAddress boxes ip n rfl hboxes h
    exact ProxyBoxes.check_of_spells hboxes h
  boxAccepted := by
    rintro makeAddress boxes calls rfl h
    obtain ⟨ip, port, -, rfl⟩ := ProxyBoxes.check_eq_ok h
    refine ⟨ip, port.toNat, ProxyBoxes.spells_of_check h, ?_⟩
    rw [UInt32.ofNat_toNat]
  service serviceMap _ h := serviceToPort_of_spells serviceMap h

end Encapsule
