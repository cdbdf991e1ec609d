import Mathlib.Data.List.Infix
import Encapsule.Injectee.Socks5

/-!
# The handshake against any server

`socks5_handshake` run against a server of which only the octets it answers with are known:
`streamServer` accepts every `send` whole and answers `recv` from one byte stream, with fewer octets
than asked for only at the end of the stream.

Whatever the stream is, the conversation takes one of two courses.  It continues with the login
exactly when the server selects method 2 and the login fits (`LoginSent`); `handshake_of_loginSent`
and `handshake_of_not_loginSent` give the outcome, the frames sent and the octets consumed in either
case, and everything else is read off from these two.
-/

namespace Encapsule

open Interaction

/-- A connection to a server: the frames the client sent and the octets it has yet to receive. -/
structure Wire where
  sent : List Bytes
  input : Bytes
  deriving DecidableEq

/-- A server that accepts what it is sent and answers from a stream. -/
def streamServer : (c : SocketCall) → Wire → SocketCall.Answer c × Wire
  | .send _ buf, w => ((buf.length : ℤ), { w with sent := w.sent ++ [buf] })
  | .recv _ len, w => (some (w.input.take len), { w with input := w.input.drop len })

/-- The handshake with a server that answers with the octets of `stream`. -/
def handshakeOn (s : SOCKET) (creds : Socks5Credentials) (stream : Bytes) : Bool × Wire :=
  (socks5Handshake s creds).interp streamServer { sent := [], input := stream }

/-- Both halves of the login can be spelled in one length octet each. -/
def Socks5Credentials.Fits (creds : Socks5Credentials) : Prop :=
  creds.username.length ≤ 255 ∧ creds.password.length ≤ 255

instance (creds : Socks5Credentials) : Decidable creds.Fits :=
  inferInstanceAs (Decidable (_ ∧ _))

/-- The frame that carries a login. -/
def loginFrame (creds : Socks5Credentials) : Bytes :=
  [1, UInt8.ofNat creds.username.length] ++ creds.username ++
    [UInt8.ofNat creds.password.length] ++ creds.password

/-- The greeting a client with these credentials opens with. -/
def greetingFrame (creds : Socks5Credentials) : Bytes :=
  if creds.username = [] ∧ creds.password = [] then [5, 1, 0] else [5, 2, 2, 0]

/-- The course on which the login leaves the client. -/
def LoginSent (creds : Socks5Credentials) (stream : Bytes) : Prop :=
  [5, 2] <+: stream ∧ creds.enabled = true ∧ creds.Fits

instance (creds : Socks5Credentials) (stream : Bytes) : Decidable (LoginSent creds stream) :=
  inferInstanceAs (Decidable (_ ∧ _ ∧ _))

/-! ## The octets of the two frames -/

/-- Credentials are enabled unless both halves are empty. -/
lemma enabled_eq_true_iff {creds : Socks5Credentials} :
    creds.enabled = true ↔ ¬(creds.username = [] ∧ creds.password = []) := by
  simp [Socks5Credentials.enabled, imp_iff_not_or]

/-- A greeting is never empty. -/
lemma greetingFrame_ne_nil (creds : Socks5Credentials) : greetingFrame creds ≠ [] := by
  unfold greetingFrame
  split_ifs <;> simp

/-- The builder lays down the greeting frame. -/
lemma buildGreeting_eq (creds : Socks5Credentials) :
    ∃ rest, socks5BuildGreeting
        (if creds.enabled then [socksUsernamePassword, socksNoAuthentication]
          else [socksNoAuthentication]) (List.replicate socksGreetingMaxSize 0) =
      ((greetingFrame creds).length, greetingFrame creds ++ rest) := by
  by_cases h : creds.username = [] ∧ creds.password = []
  · have he : ¬creds.enabled = true := mt enabled_eq_true_iff.mp (not_not.mpr h)
    have hframe : greetingFrame creds = [5, 1, 0] := if_pos h
    rw [hframe, if_neg he]
    exact ⟨List.replicate (socksGreetingMaxSize - 3) 0, rfl⟩
  · have he : creds.enabled = true := enabled_eq_true_iff.mpr h
    have hframe : greetingFrame creds = [5, 2, 2, 0] := if_neg h
    rw [hframe, if_pos he]
    exact ⟨List.replicate (socksGreetingMaxSize - 4) 0, rfl⟩

/-- The builder lays down the login frame of a login that fits. -/
lemma buildAuth_of_fits {creds : Socks5Credentials} (h : creds.Fits) (out : Bytes) :
    socks5BuildAuth creds.username creds.password out =
      ((loginFrame creds).length, loginFrame creds ++ out.drop (loginFrame creds).length) := by
  obtain ⟨hu, hp⟩ := h
  have hguard : ¬(0xFF < creds.username.length ∨ 0xFF < creds.password.length) := by omega
  rw [socks5BuildAuth, if_neg hguard, ← overwrite_zero]
  rfl

/-- A login that does not fit is not written at all. -/
lemma buildAuth_of_not_fits {creds : Socks5Credentials} (h : ¬creds.Fits) (out : Bytes) :
    socks5BuildAuth creds.username creds.password out = (0, out) := by
  have hguard : 0xFF < creds.username.length ∨ 0xFF < creds.password.length := by
    unfold Socks5Credentials.Fits at h
    omega
  simp only [socks5BuildAuth, if_pos hguard]

/-! ## The two courses of the conversation -/

/-- Everything sent to the server arrives, as one frame. -/
@[simp] lemma interp_sendAll (s : SOCKET) (buf : Bytes) (w : Wire) :
    (sendAll s buf).interp streamServer w =
      ((buf.length : ℤ), { w with sent := w.sent ++ [buf] }) := rfl

/-- All the octets asked for, when the stream still has that many. -/
@[simp] lemma interp_recvExact (s : SOCKET) (len : ℕ) (w : Wire) :
    (recvExact s len).interp streamServer w =
      (if len ≤ w.input.length then some (w.input.take len) else none,
        { w with input := w.input.drop len }) := by
  simp only [recvExact, Prog.bind_eq_bind, Prog.interp_bind, Prog.interp_ask, streamServer,
    Prog.pure_eq_ret, Prog.interp_ret, Option.filter]
  by_cases h : len ≤ w.input.length
  · rw [if_pos h, if_pos]
    simp [h]
  · rw [if_neg h, if_neg]
    simp only [List.length_take, decide_eq_true_eq]
    omega

/-- A server that ends the stream before it selected a method is told nothing more. -/
lemma handshakeOn_of_length_lt (s : SOCKET) (creds : Socks5Credentials) {stream : Bytes}
    (h : stream.length < 2) :
    handshakeOn s creds stream = (false, { sent := [greetingFrame creds], input := [] }) := by
  obtain ⟨rest, hbuilt⟩ := buildGreeting_eq creds
  simp only [handshakeOn, socks5Handshake, Prog.bind_eq_bind, hbuilt, List.take_left]
  have hdrop : stream.drop 2 = [] := List.drop_of_length_le (by omega)
  simp [greetingFrame_ne_nil, h, hdrop]

/-- The verdict on the answer to the login: `{1, 0}`, and nothing else, is an acceptance. -/
lemma login_verdict (a b : UInt8) :
    (if b = socksAuthFailure then Prog.ret false
      else Prog.ret (a == socksAuthVersion && b == socksSuccess) : Prog SocketCall.Answer Bool) =
      Prog.ret (decide ([a, b] = [1, 0])) := by
  by_cases hb : b = socksAuthFailure
  · rw [if_pos hb, hb]
    simp [socksAuthFailure]
  · rw [if_neg hb]
    simp [socksAuthVersion, socksSuccess, Bool.beq_eq_decide_eq]

/-- The subnegotiation: one frame, and the verdict on the two octets that answer it. -/
lemma interp_subnegotiation (s : SOCKET) (frame rest : Bytes) (sent : List Bytes) :
    ((sendAll s frame).bind fun n =>
        if n ≠ (frame.length : ℤ) then Prog.ret false
        else (recvExact s 2).bind fun got =>
          match got with
          | some authRes =>
            if octetAt authRes 1 = socksAuthFailure then Prog.ret false
            else Prog.ret (octetAt authRes 0 == socksAuthVersion &&
              octetAt authRes 1 == socksSuccess)
          | _ => Prog.ret false).interp streamServer { sent, input := rest } =
      (decide (rest.take 2 = [1, 0]), { sent := sent ++ [frame], input := rest.drop 2 }) := by
  rw [Prog.interp_bind, interp_sendAll]
  simp only [ne_eq, not_true_eq_false, if_false]
  rw [Prog.interp_bind, interp_recvExact]
  rcases rest with _ | ⟨a, _ | ⟨b, rest⟩⟩
  · rfl
  · simp
  · have hlen : 2 ≤ (a :: b :: rest).length := by simp
    rw [if_pos hlen]
    simp only [List.take_succ_cons, List.take_zero, octetAt, List.getD_cons_zero,
      List.getD_cons_succ]
    rw [login_verdict]
    rfl

/-- The whole conversation with a server that selected a method. -/
lemma handshakeOn_cons_cons (s : SOCKET) (creds : Socks5Credentials) (v m : UInt8) (rest : Bytes) :
    handshakeOn s creds (v :: m :: rest) =
      if v = 5 ∧ m = 2 ∧ creds.enabled = true ∧ creds.Fits then
        (decide (rest.take 2 = [1, 0]),
          { sent := [greetingFrame creds, loginFrame creds], input := rest.drop 2 })
      else
        (decide (v = 5 ∧ m = 0), { sent := [greetingFrame creds], input := rest }) := by
  obtain ⟨unused, hbuilt⟩ := buildGreeting_eq creds
  simp only [handshakeOn, socks5Handshake, Prog.bind_eq_bind, hbuilt, List.take_left]
  rw [if_neg (by simpa using greetingFrame_ne_nil creds), Prog.interp_bind, interp_sendAll]
  simp only [ne_eq, not_true_eq_false, if_false]
  rw [Prog.interp_bind, interp_recvExact, if_pos (by simp)]
  simp only [List.take_succ_cons, List.take_zero, List.drop_succ_cons, List.drop_zero,
    List.nil_append]
  have hv : octetAt [v, m] 0 = v := rfl
  have hm : octetAt [v, m] 1 = m := rfl
  simp only [hv, hm]
  by_cases h5 : v = 5
  case neg => simp [h5, socksVersion]
  by_cases h0 : m = 0
  · simp [h5, h0, socksVersion, socksNoAuthentication]
  by_cases hsel : m = 2 ∧ creds.enabled = true
  case neg =>
    have hstop : ¬m = socksUsernamePassword ∨ (!creds.enabled) = true := by
      rw [socksUsernamePassword, Bool.not_eq_true', ← Bool.not_eq_true]
      exact not_and_or.mp hsel
    have hcond : ¬(v = 5 ∧ m = 2 ∧ creds.enabled = true ∧ creds.Fits) :=
      fun h => hsel ⟨h.2.1, h.2.2.1⟩
    rw [if_pos hstop, if_neg hcond]
    simp [h5, h0, socksNoAuthentication]
  obtain ⟨h2, he⟩ := hsel
  have hgo : ¬(¬m = socksUsernamePassword ∨ (!creds.enabled) = true) := by
    simp [h2, he, socksUsernamePassword]
  simp only [h5, socksVersion, not_true_eq_false, if_false, h0, socksNoAuthentication, hgo]
  by_cases hfit : creds.Fits
  · have hne : (loginFrame creds).length ≠ 0 := by simp [loginFrame]
    simp only [buildAuth_of_fits hfit, List.take_left]
    rw [if_neg hne, if_pos ⟨trivial, h2, he, hfit⟩]
    exact interp_subnegotiation s (loginFrame creds) rest [greetingFrame creds]
  · rw [buildAuth_of_not_fits hfit, if_pos rfl, if_neg (by tauto)]
    simp

/-! ## What a server can learn and decide -/

/-- Reads a login frame back: the two strings, each as long as the octet in front of it says. -/
def readLoginFrame : Bytes → Option Socks5Credentials
  | 1 :: ulen :: tail =>
    match tail.drop ulen.toNat with
    | plen :: pass =>
      if pass.length = plen.toNat then some ⟨tail.take ulen.toNat, pass⟩ else none
    | [] => none
  | _ => none

/-- A login that fits is recovered from its frame. -/
lemma readLoginFrame_loginFrame {creds : Socks5Credentials} (h : creds.Fits) :
    readLoginFrame (loginFrame creds) = some creds := by
  obtain ⟨hu, hp⟩ := h
  have hulen : (UInt8.ofNat creds.username.length).toNat = creds.username.length :=
    UInt8.toNat_ofNat_of_lt (by simp [UInt8.size]; omega)
  have hplen : (UInt8.ofNat creds.password.length).toNat = creds.password.length :=
    UInt8.toNat_ofNat_of_lt (by simp [UInt8.size]; omega)
  simp [readLoginFrame, loginFrame, hulen, hplen]

/-- The login leaves the client when the first two octets select it. -/
lemma loginSent_cons_cons {creds : Socks5Credentials} {v m : UInt8} {rest : Bytes} :
    LoginSent creds (v :: m :: rest) ↔ v = 5 ∧ m = 2 ∧ creds.enabled = true ∧ creds.Fits := by
  simp only [LoginSent, List.cons_prefix_cons, List.nil_prefix, and_true, and_assoc,
    @eq_comm UInt8 5, @eq_comm UInt8 2]

/-- A stream shorter than two octets selects nothing. -/
lemma not_prefix_of_length_lt {a b : UInt8} {tail stream : Bytes} (h : stream.length < 2) :
    ¬(a :: b :: tail) <+: stream := by
  intro hpre
  have hlen := hpre.length_le
  simp only [List.length_cons] at hlen
  omega

/-- The frames the client sends to a server that answers with the octets of `stream`. -/
lemma handshakeOn_sent (s : SOCKET) (creds : Socks5Credentials) (stream : Bytes) :
    (handshakeOn s creds stream).2.sent =
      if LoginSent creds stream then [greetingFrame creds, loginFrame creds]
      else [greetingFrame creds] := by
  by_cases hlen : stream.length < 2
  · rw [handshakeOn_of_length_lt s creds hlen,
      if_neg fun h : LoginSent creds stream => not_prefix_of_length_lt hlen h.1]
  · obtain ⟨v, m, rest, rfl⟩ : ∃ v m rest, stream = v :: m :: rest := by
      rcases stream with _ | ⟨v, _ | ⟨m, rest⟩⟩ <;> simp at hlen ⊢
    rw [handshakeOn_cons_cons]
    simp only [loginSent_cons_cons]
    split_ifs <;> rfl

/-- The handshake succeeds when the server waives the login or accepts it. -/
lemma handshakeOn_eq_true_iff (s : SOCKET) (creds : Socks5Credentials) (stream : Bytes) :
    (handshakeOn s creds stream).1 = true ↔
      [5, 0] <+: stream ∨ creds.enabled = true ∧ creds.Fits ∧ [5, 2, 1, 0] <+: stream := by
  by_cases hlen : stream.length < 2
  · simp [handshakeOn_of_length_lt s creds hlen, not_prefix_of_length_lt hlen]
  · obtain ⟨v, m, rest, rfl⟩ : ∃ v m rest, stream = v :: m :: rest := by
      rcases stream with _ | ⟨v, _ | ⟨m, rest⟩⟩ <;> simp at hlen ⊢
    rw [handshakeOn_cons_cons]
    split_ifs with h
    · obtain ⟨rfl, rfl, he, hfit⟩ := h
      simp only [he, hfit, true_and, List.cons_prefix_cons, decide_eq_true_eq]
      rcases rest with _ | ⟨a, _ | ⟨b, rest⟩⟩
      · simp
      · simp
      · simp [List.cons_prefix_cons, @eq_comm UInt8 1, @eq_comm UInt8 0]
    · simp only [decide_eq_true_eq, List.cons_prefix_cons, List.nil_prefix, and_true]
      constructor
      · rintro ⟨rfl, rfl⟩
        exact Or.inl ⟨rfl, rfl⟩
      · rintro (⟨rfl, rfl⟩ | ⟨he, hfit, rfl, rfl, -⟩)
        · exact ⟨rfl, rfl⟩
        · exact absurd ⟨rfl, rfl, he, hfit⟩ h

/-- On success the client read the server's two or four octets and nothing behind them. -/
lemma handshakeOn_consumed (s : SOCKET) (creds : Socks5Credentials) (stream : Bytes)
    (htrue : (handshakeOn s creds stream).1 = true) :
    stream = [5, 0] ++ (handshakeOn s creds stream).2.input ∨
      stream = [5, 2, 1, 0] ++ (handshakeOn s creds stream).2.input := by
  have hcourse := (handshakeOn_eq_true_iff s creds stream).mp htrue
  rcases hcourse with ⟨rest, rfl⟩ | ⟨he, hfit, rest, rfl⟩
  · left
    simp [handshakeOn_cons_cons]
  · right
    simp [handshakeOn_cons_cons, he, hfit]

/-- What `recv_exact` hands on is what arrived, and all of it. -/
lemma recvExact_eq_some {s : SOCKET} {len : ℕ} {σ : Type}
    {h : (c : SocketCall) → σ → SocketCall.Answer c × σ} {w : σ} {res : Bytes}
    (hgot : ((recvExact s len).interp h w).1 = some res) :
    (h (.recv s len) w).1 = some res ∧ res.length = len := by
  have hfilter : (h (.recv s len) w).1.filter (·.length = len) = some res := hgot
  simpa [Option.filter_eq_some_iff] using hfilter

/-- Up to the selection of a method the handshake does not look into the login: with any server
whatever, a machine `h`, that does not select method 2, two logins take the same course. -/
lemma handshake_secrecy (s : SOCKET) {creds creds' : Socks5Credentials}
    (he : creds.enabled = true) (he' : creds'.enabled = true) {σ : Type}
    (h : (c : SocketCall) → σ → SocketCall.Answer c × σ) (w : σ)
    (hsel : (h (.recv s 2) (h (.send s [5, 2, 2, 0]) w).2).1 ≠ some [5, 2]) :
    (socks5Handshake s creds).interp h w = (socks5Handshake s creds').interp h w := by
  have hgreeting : greetingFrame creds = [5, 2, 2, 0] := if_neg (enabled_eq_true_iff.mp he)
  rw [← hgreeting] at hsel
  obtain ⟨unused, hbuilt⟩ := buildGreeting_eq creds
  simp only [he, if_true] at hbuilt
  have hne : ¬(greetingFrame creds).length = 0 := by simpa using greetingFrame_ne_nil creds
  simp only [socks5Handshake, he, he', if_true, Prog.bind_eq_bind, hbuilt, List.take_left,
    if_neg hne, Prog.interp_bind]
  have hsend : (sendAll s (greetingFrame creds)).interp h w = h (.send s (greetingFrame creds)) w :=
    rfl
  rw [hsend]
  by_cases hn : (h (.send s (greetingFrame creds)) w).1 ≠ ((greetingFrame creds).length : ℤ)
  · rw [if_pos hn, if_pos hn]
  rw [if_neg hn, if_neg hn, Prog.interp_bind, Prog.interp_bind]
  cases hgot : ((recvExact s 2).interp h (h (.send s (greetingFrame creds)) w).2).1 with
  | none => rfl
  | some res =>
    simp only
    by_cases hv : octetAt res 0 ≠ socksVersion
    · rw [if_pos hv, if_pos hv]
    rw [if_neg hv, if_neg hv]
    by_cases h0 : octetAt res 1 = socksNoAuthentication
    · rw [if_pos h0, if_pos h0]
    have hm : octetAt res 1 ≠ socksUsernamePassword := by
      intro hm
      obtain ⟨hanswer, hlen⟩ := recvExact_eq_some hgot
      obtain ⟨a, b, rfl⟩ := List.length_eq_two.mp hlen
      obtain rfl : a = 5 := not_not.mp hv
      obtain rfl : b = 2 := hm
      exact hsel hanswer
    rw [if_neg h0, if_neg h0, if_pos (Or.inl hm), if_pos (Or.inl hm)]

/-- What the handshake sends, when it succeeds, what it consumes, and what it gives away, for every
login and every server. -/
theorem socks5Handshake_spec (s : SOCKET) :
    (∀ (creds : Socks5Credentials) (stream : Bytes),
      (handshakeOn s creds stream).2.sent =
          (if LoginSent creds stream then [greetingFrame creds, loginFrame creds]
            else [greetingFrame creds]) ∧
        ((handshakeOn s creds stream).1 = true ↔
          [5, 0] <+: stream ∨ creds.enabled = true ∧ creds.Fits ∧ [5, 2, 1, 0] <+: stream) ∧
        ((handshakeOn s creds stream).1 = true →
          stream = [5, 0] ++ (handshakeOn s creds stream).2.input ∨
            stream = [5, 2, 1, 0] ++ (handshakeOn s creds stream).2.input)) ∧
    (∀ creds : Socks5Credentials, creds.Fits → readLoginFrame (loginFrame creds) = some creds) ∧
    ∀ creds creds' : Socks5Credentials, creds.enabled = true → creds'.enabled = true →
      ∀ (σ : Type) (h : (c : SocketCall) → σ → SocketCall.Answer c × σ) (w : σ),
        (h (.recv s 2) (h (.send s [5, 2, 2, 0]) w).2).1 ≠ some [5, 2] →
          (socks5Handshake s creds).interp h w = (socks5Handshake s creds').interp h w :=
  ⟨fun creds stream => ⟨handshakeOn_sent s creds stream, handshakeOn_eq_true_iff s creds stream,
      handshakeOn_consumed s creds stream⟩,
    fun _ hfit => readLoginFrame_loginFrame hfit,
    fun _ _ he he' _ h w hsel => handshake_secrecy s he he' h w hsel⟩

/-- A server that takes the login, one that waives it, and one that takes half of it: two logins
are told apart by the first alone. -/
theorem socks5Handshake_spec_three_servers :
    let alice : Socks5Credentials := ⟨[0x61], [0x70]⟩
    let bob : Socks5Credentials := ⟨[0x62], []⟩
    (handshakeOn 1 alice [5, 2, 1, 0, 9]).2.input = [9] ∧
      readLoginFrame (loginFrame bob) = some bob ∧
      (socks5Handshake 1 alice).interp streamServer ⟨[], [5, 0]⟩ =
        (socks5Handshake 1 bob).interp streamServer ⟨[], [5, 0]⟩ := by
  intro alice bob
  refine ⟨?_, ?_, ?_⟩
  · have hconsumed := ((socks5Handshake_spec 1).1 alice [5, 2, 1, 0, 9]).2.2 (by decide)
    have hrest : [9] = (handshakeOn 1 alice [5, 2, 1, 0, 9]).2.input := by simpa using hconsumed
    exact hrest.symm
  · exact (socks5Handshake_spec 1).2.1 bob (by decide)
  · exact (socks5Handshake_spec 1).2.2 alice bob (by decide) (by decide) Wire streamServer _
      (by decide)

end Encapsule
