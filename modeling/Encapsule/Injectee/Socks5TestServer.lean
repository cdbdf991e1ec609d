import Encapsule.Foundation.Duplex
import Encapsule.Injectee.ProxiedConnect

/-!
# The client and the relay of the end-to-end test

`socks5_test_server` of `tests/e2e` is the proxy that the injected program is tested against: it
speaks the server half of the protocol, records what it was asked for, and decides by its hooks.
Here the client and the relay talk over one connection, in any order of their turns.  Nothing
disturbs it: no socket call fails, the relay is not stopped, and neither side stays idle for so long
that the other one gives up.  A read falls short only where the other side has hung up.

* `handleSession`: one session of the relay, up to the grant of a CONNECT.
* `tunnelTalk`: what the client says on the connection.
* `conversation_ends`: how the conversation about a target that can be spelt ends, and that there is
  no other way.
-/

namespace Encapsule

open Interaction Endpoint

/-! ## The relay -/

/-- One CONNECT request as observed on the wire. -/
structure Socks5RequestRecord where
  atyp : UInt8
  addr : Bytes
  port : UInt16
  deriving DecidableEq

/-- One session's authentication attempt. -/
structure Socks5AuthRecord where
  /-- The methods of the greeting, in order. -/
  offered : Bytes
  choseAuth : Bool := false
  parsed : Bool := false
  ok : Bool := false
  username : Bytes := []
  password : Bytes := []
  deriving DecidableEq

/-- How the test has set up the relay.  The UDP leg is down, as in every test. -/
structure Socks5TestServer where
  authRequired : Bool := false
  authHook : Option (Bytes → Bytes → Bool) := none
  onConnect : Option (Socks5RequestRecord → UInt8) := none

/-- The verdict of the hook on a request; without a hook every request is granted. -/
def Socks5TestServer.verdict (server : Socks5TestServer) (request : Socks5RequestRecord) : UInt8 :=
  (server.onConnect.map fun hook => hook request).getD socksSuccess

/-- The verdict of the hook on a login; without a hook every login is refused. -/
def Socks5TestServer.judge (server : Socks5TestServer) (username password : Bytes) : Bool :=
  (server.authHook.map fun hook => hook username password).getD false

/-- What a session adds to the records, and the reply code it sent. -/
structure Socks5Session where
  auth : Option Socks5AuthRecord := none
  request : Option Socks5RequestRecord := none
  verdict : Option UInt8 := none
  deriving DecidableEq

/-- `read_exact` on a connection that nothing disturbs: all the octets, or those that were there
when the other side hung up. -/
def readExact (len : ℕ) : Endpoint UInt8 (Except Bytes Bytes) := do
  let got : Bytes ← read len
  return if got.length = len then .ok got else .error got

/-- A text in ASCII. -/
def asciiText (text : List Char) : Bytes := text.map fun c => UInt8.ofNat c.toNat

/-- `std::to_string` of an octet. -/
def octetText (c : UInt8) : Bytes := asciiText (Nat.toDigits 10 c.toNat)

/-- `ipv4_text`. -/
def ipv4Text (raw : Bytes) : Bytes :=
  octetText (octetAt raw 0) ++ 0x2E :: octetText (octetAt raw 1) ++
    0x2E :: octetText (octetAt raw 2) ++ 0x2E :: octetText (octetAt raw 3)

/-- Two hexadecimal digits. -/
def hexText (c : UInt8) : Bytes :=
  asciiText [Nat.digitChar (c.toNat / 16), Nat.digitChar (c.toNat % 16)]

/-- `ipv6_text`. -/
def ipv6Text (raw : Bytes) : Bytes :=
  (List.range 8).flatMap fun i =>
    (if i = 0 then [] else [0x3A]) ++ hexText (octetAt raw (2 * i)) ++
      hexText (octetAt raw (2 * i + 1))

/-- A string of `len` characters of which the first were read. -/
def filled (len : ℕ) (got : Bytes) : Bytes := got ++ List.replicate (len - got.length) 0

/-- `read_auth`: whether a whole subnegotiation was read, and what was. -/
def readAuth (auth : Socks5AuthRecord) : Endpoint UInt8 (Bool × Socks5AuthRecord) := do
  let .ok head ← readExact 2 | return (false, auth)
  if octetAt head 0 ≠ socksAuthVersion then
    return (false, auth)
  let ulen := (octetAt head 1).toNat
  match ← readExact ulen with
  | .error got => return (false, { auth with username := filled ulen got })
  | .ok username =>
    let auth := { auth with username }
    let .ok plenByte ← readExact 1 | return (false, auth)
    let plen := (octetAt plenByte 0).toNat
    match ← readExact plen with
    | .error got => return (false, { auth with password := filled plen got })
    | .ok password => return (true, { auth with password, parsed := true })

/-- `send_reply`. -/
def sendReply (verdict : UInt8) : Endpoint UInt8 Unit :=
  write [socksVersion, verdict, 0, socksIpv4, 0, 0, 0, 0, 0, 0]

/-- The address of a request, as it is recorded. -/
def readRequestAddr (atyp : UInt8) : Endpoint UInt8 (Option Bytes) := do
  if atyp = socksIpv4 then
    let .ok raw ← readExact 4 | return none
    return some (ipv4Text raw)
  else if atyp = socksDomainname then
    let .ok len ← readExact 1 | return none
    let .ok name ← readExact (octetAt len 0).toNat | return none
    return some name
  else if atyp = socksIpv6 then
    let .ok raw ← readExact 16 | return none
    return some (ipv6Text raw)
  else
    return none

/-- `handle_session` from where the client may ask. -/
def serveRequest (server : Socks5TestServer) (auth : Socks5AuthRecord) :
    Endpoint UInt8 Socks5Session := do
  let .ok head ← readExact 4 | return { auth := some auth }
  if octetAt head 0 ≠ socksVersion ∨ octetAt head 1 ≠ socksConnect then
    return { auth := some auth }
  let some addr ← readRequestAddr (octetAt head 3) | return { auth := some auth }
  let .ok port ← readExact 2 | return { auth := some auth }
  let request : Socks5RequestRecord :=
    { atyp := octetAt head 3, addr, port := ntohs (octetAt port 0) (octetAt port 1) }
  let verdict := server.verdict request
  sendReply verdict
  return { auth := some auth, request := some request, verdict := some verdict }

/-- `handle_session` on a connection that nothing disturbs, where every `write_all` succeeds. -/
def handleSession (server : Socks5TestServer) : Endpoint UInt8 Socks5Session := do
  let .ok greeting ← readExact 2 | return {}
  if octetAt greeting 0 ≠ socksVersion then
    return {}
  let .ok methods ← readExact (octetAt greeting 1).toNat | return {}
  let auth : Socks5AuthRecord := { offered := methods }
  if !server.authRequired then
    write [socksVersion, socksNoAuthentication]
    serveRequest server auth
  else if !methods.contains socksUsernamePassword then
    write [socksVersion, 0xFF]
    return { auth := some auth }
  else
    write [socksVersion, socksUsernamePassword]
    let (parsed, auth) ← readAuth { auth with choseAuth := true }
    if !parsed then
      write [socksAuthVersion, socksAuthFailure]
      return { auth := some auth }
    let ok := server.judge auth.username auth.password
    let auth := { auth with ok }
    write [socksAuthVersion, if ok then socksSuccess else socksAuthFailure]
    if !ok then
      return { auth := some auth }
    serveRequest server auth

/-! ## The client -/

/-- What the client says on a connection to the proxy: the REP octet, if it got as far as that. -/
def tunnelTalk (s : SOCKET) (creds : Socks5Credentials) (target : RequestTarget) :
    Prog SocketCall.Answer (Option UInt8) := do
  let greeted ← socks5Handshake s creds
  if !greeted then
    return none
  let rep ← socks5Request s target
  return some rep

/-- The socket calls of the client on a connection. -/
def SocketCall.onStream : (c : SocketCall) → Endpoint UInt8 c.Answer
  | .send _ buf => do
    write buf
    return (buf.length : ℤ)
  | .recv _ len => do
    let got ← read len
    return some got

/-- The two ends of a fresh connection. -/
def conversation (s : SOCKET) (creds : Socks5Credentials) (target : RequestTarget)
    (server : Socks5TestServer) : Duplex UInt8 (Option UInt8) Socks5Session where
  left := (tunnelTalk s creds target).expand SocketCall.onStream
  right := handleSession server

/-! ## The turns of the client -/

variable {s : SOCKET} {creds : Socks5Credentials} {α : Type} {inbox : Bytes} {closed : Bool}

/-- The client sends. -/
lemma turn_sendAll {f : ℤ → Prog SocketCall.Answer α} (buf : Bytes) :
    turn inbox closed (((sendAll s buf).bind f).expand SocketCall.onStream) =
      some ((f (buf.length : ℤ)).expand SocketCall.onStream, inbox, buf) := rfl

/-- The client receives what has arrived. -/
lemma turn_recvExact {f : Option Bytes → Prog SocketCall.Answer α} {len : ℕ} {octets : Bytes}
    (hlen : octets.length = len) (rest : Bytes) :
    turn (octets ++ rest) closed (((recvExact s len).bind f).expand SocketCall.onStream) =
      some ((f (some octets)).expand SocketCall.onStream, rest, []) := by
  have hturn : turn (octets ++ rest) closed _ = _ := turn_read_bind hlen rest
    (f := fun got => (f ((some got).filter (·.length = len))).expand SocketCall.onStream)
  have hall : (some octets).filter (·.length = len) = some octets := by
    simp [Option.filter, hlen]
  rw [hall] at hturn
  exact hturn

/-- The handshake on a connection: a greeting, and then what the selected method asks for. -/
lemma exists_socks5Handshake_eq (s : SOCKET) (creds : Socks5Credentials) :
    ∃ k : Option Bytes → Prog SocketCall.Answer Bool,
      socks5Handshake s creds = ((sendAll s (greetingFrame creds)).bind fun n =>
        if n ≠ ((greetingFrame creds).length : ℤ) then .ret false else (recvExact s 2).bind k) ∧
      k (some [5, 0]) = .ret true ∧ k (some [5, 0xFF]) = .ret false ∧
      (creds.enabled = true → ¬creds.Fits → k (some [5, 2]) = .ret false) ∧
      (creds.enabled = true → creds.Fits → ∃ k' : Option Bytes → Prog SocketCall.Answer Bool,
        k (some [5, 2]) = ((sendAll s (loginFrame creds)).bind fun n =>
          if n ≠ ((loginFrame creds).length : ℤ) then .ret false else (recvExact s 2).bind k') ∧
        k' (some [1, 0]) = .ret true ∧ k' (some [1, 0xFF]) = .ret false) := by
  obtain ⟨unused, hbuilt⟩ := buildGreeting_eq creds
  have hne : ¬(greetingFrame creds).length = 0 := by simpa using greetingFrame_ne_nil creds
  simp only [socks5Handshake, Prog.bind_eq_bind, hbuilt, List.take_left, if_neg hne]
  refine ⟨_, rfl, rfl, rfl, ?_, ?_⟩
  · intro he hfit
    have hgo : ¬(octetAt [5, 2] 1 ≠ socksUsernamePassword ∨ (!creds.enabled) = true) := by
      simp [he, octetAt, socksUsernamePassword]
    simp only [buildAuth_of_not_fits hfit, if_neg hgo]
    rfl
  · intro he hfit
    have hgo : ¬(octetAt [5, 2] 1 ≠ socksUsernamePassword ∨ (!creds.enabled) = true) := by
      simp [he, octetAt, socksUsernamePassword]
    have hlogin : ¬(loginFrame creds).length = 0 := by simp [loginFrame]
    simp only [buildAuth_of_fits hfit, if_neg hgo, List.take_left, if_neg hlogin]
    exact ⟨_, rfl, rfl, rfl⟩

/-- The builders spell the target as this address and port. -/
def RequestTarget.Spells (target : RequestTarget) (a : WireAddress) (port : UInt16) : Prop :=
  let out := List.replicate socksRequestMaxSize 0
  (match target with
    | .sockaddr addr => socks5BuildRequestFromSockaddr addr out
    | .ipAddr addr => socks5BuildRequestFromIpAddr addr out) =
  ((requestFrame a port).length, overwrite out 0 (requestFrame a port))

/-- A socket address of an internet family is spelt as its endpoint. -/
lemma spells_sockaddr {name : Sockaddr} {ip : IpAddress} {port : UInt16}
    (hname : name.IsEndpoint ip port) : (RequestTarget.sockaddr name).Spells ip.onWire port := by
  have hroom : socksRequestMaxSize ≤ (List.replicate socksRequestMaxSize (0 : UInt8)).length := by
    rw [List.length_replicate]
  change socks5BuildRequestFromSockaddr name _ = _
  rw [fromSockaddr_of_isEndpoint _ hname]
  exact buildRequest_requestFrame ip port hroom

/-- A name without a zero octet is spelt as it is. -/
lemma spells_domain {name : Bytes} (hlen : 1 ≤ name.length ∧ name.length ≤ socksDomainMaxLength)
    (hnul : 0 ∉ name) (port : UInt32) :
    (RequestTarget.ipAddr { domain := some name, port := some port }).Spells (.domain name hlen)
      port.toUInt16 := by
  have hfits : ¬socksDomainMaxLength < name.length := by omega
  have hroom : (WireAddress.domain name hlen).field.length + 6 ≤
      (List.replicate socksRequestMaxSize (0 : UInt8)).length := by
    have hmax := hlen.2
    rw [List.length_replicate, socksRequestMaxSize]
    change name.length + 1 + 6 ≤ _
    omega
  have hbuilt := WireAddress.buildFrame_wire (a := .domain name hlen) (fun _ => hnul) []
    port.toUInt16 (rfl : [socksVersion, socksConnect, 0].length = 3) hroom
  have hframe : (WireAddress.domain name hlen).field.length + 6 =
      (requestFrame (.domain name hlen) port.toUInt16).length := by
    rw [requestFrame, WireAddress.length_frame, List.length_cons, List.length_cons,
      List.length_singleton]
    omega
  rw [List.append_nil, hframe] at hbuilt
  change socks5BuildRequestFromIpAddr { domain := some name, port := some port } _ = _
  simp only [socks5BuildRequestFromIpAddr, if_neg hfits]
  exact hbuilt

/-- The request on a connection: one frame, and the reply. -/
lemma exists_socks5Request_eq {target : RequestTarget} {a : WireAddress} {port : UInt16}
    (htarget : target.Spells a port) (s : SOCKET) :
    ∃ k : Option Bytes → Prog SocketCall.Answer UInt8,
      socks5Request s target = ((sendAll s (requestFrame a port)).bind fun n =>
        if n ≠ ((requestFrame a port).length : ℤ) then .ret socksGeneralFailure
        else (recvExact s 4).bind k) ∧
      (∀ rep, rep ≠ socksSuccess → k (some [5, rep, 0, 1]) = .ret rep) ∧
      ∃ k' : Option Bytes → Prog SocketCall.Answer UInt8,
        k (some [5, 0, 0, 1]) = (recvExact s 6).bind k' ∧
          k' (some [0, 0, 0, 0, 0, 0]) = .ret socksSuccess := by
  have hne : (requestFrame a port).length ≠ 0 := by
    rw [requestFrame, WireAddress.length_frame]
    exact Nat.succ_ne_zero _
  have hrequest : socks5Request s target = socks5RequestEx s (requestFrame a port).length
      (overwrite (List.replicate socksRequestMaxSize 0) 0 (requestFrame a port)) := by
    cases target with
    | sockaddr addr =>
      have hbuilt : socks5BuildRequestFromSockaddr addr (List.replicate socksRequestMaxSize 0) =
        (_, _) := htarget
      simp only [socks5Request, hbuilt, if_neg hne]
    | ipAddr addr =>
      have hbuilt : socks5BuildRequestFromIpAddr addr (List.replicate socksRequestMaxSize 0) =
        (_, _) := htarget
      simp only [socks5Request, hbuilt, if_neg hne]
  rw [hrequest]
  simp only [socks5RequestEx, if_neg hne, take_overwrite_zero, Prog.bind_eq_bind, socks5ReadReply,
    Prog.bind_assoc]
  refine ⟨_, rfl, ?_, ?_⟩
  · intro rep hrep
    have hrefused : octetAt [5, rep, 0, 1] 1 ≠ socksSuccess := hrep
    have hversion : ¬octetAt [5, rep, 0, 1] 0 ≠ socksVersion := not_not.mpr rfl
    simp only [if_neg hversion, if_pos hrefused]
    rfl
  · have hversion : ¬octetAt [5, 0, 0, 1] 0 ≠ socksVersion := not_not.mpr rfl
    have hgranted : ¬octetAt [5, 0, 0, 1] 1 ≠ socksSuccess := not_not.mpr rfl
    have hatyp : octetAt [5, 0, 0, 1] 3 = socksIpv4 := rfl
    simp only [if_neg hversion, if_neg hgranted, if_pos hatyp, readRelayEndpoint,
      Prog.bind_eq_bind, Prog.bind_assoc]
    refine ⟨_, rfl, ?_⟩
    rfl

/-! ## The turns of the relay -/

/-- The relay reads what has arrived. -/
lemma turn_readExact {f : Except Bytes Bytes → Endpoint UInt8 α} {len : ℕ} {octets : Bytes}
    (hlen : octets.length = len) (rest : Bytes) :
    turn (octets ++ rest) closed ((readExact len).bind f) = some (f (.ok octets), rest, []) := by
  have hturn : turn (octets ++ rest) closed _ = _ := turn_read_bind hlen rest
    (f := fun got => f (if got.length = len then .ok got else .error got))
  rw [if_pos hlen] at hturn
  exact hturn

/-- The relay reads to the end of what the client has sent. -/
lemma turn_readExact_closed {f : Except Bytes Bytes → Endpoint UInt8 α} {len : ℕ}
    (hshort : inbox.length < len) :
    turn inbox true ((readExact len).bind f) = some (f (.error inbox), [], []) := by
  have hturn := turn_read_bind_closed hshort
    (f := fun got => f (if got.length = len then .ok got else .error got))
  rw [if_neg (Nat.ne_of_lt hshort)] at hturn
  exact hturn

/-- An address as the relay records it. -/
def WireAddress.text : WireAddress → Bytes
  | ipv4 octets => ipv4Text octets.toList
  | ipv6 octets => ipv6Text octets.toList
  | domain name _ => name

/-- The request as the relay records it. -/
def requestRecord (a : WireAddress) (port : UInt16) : Socks5RequestRecord :=
  { atyp := a.atyp, addr := a.text, port }

variable {β : Type} {l : Endpoint UInt8 α} {leftward : Bytes} {t : Duplex UInt8 α β}

/-- The relay reads the address of a request. -/
lemma reaches_readRequestAddr (a : WireAddress) {f : Option Bytes → Endpoint UInt8 β}
    (rest : Bytes) (h : Duplex.Reaches ⟨l, f (some a.text), rest, leftward⟩ t) :
    Duplex.Reaches ⟨l, (readRequestAddr a.atyp).bind f, a.field ++ rest, leftward⟩ t := by
  have hne4 : ¬socksDomainname = socksIpv4 := by decide
  have hne6 : ¬socksIpv6 = socksIpv4 := by decide
  have hne6' : ¬socksIpv6 = socksDomainname := by decide
  cases a with
  | ipv4 octets =>
    have hlen : octets.toList.length = 4 := octets.length_toList
    simp only [readRequestAddr, WireAddress.atyp, if_true, Prog.bind_eq_bind, Prog.bind_assoc]
    refine .right (turn_readExact hlen rest) ?_
    rw [List.append_nil]
    exact h
  | ipv6 octets =>
    have hlen : octets.toList.length = 16 := octets.length_toList
    simp only [readRequestAddr, WireAddress.atyp, if_neg hne6, if_neg hne6', if_true,
      Prog.bind_eq_bind, Prog.bind_assoc]
    refine .right (turn_readExact hlen rest) ?_
    rw [List.append_nil]
    exact h
  | domain name hlen =>
    simp only [readRequestAddr, WireAddress.atyp, if_neg hne4, if_true, Prog.bind_eq_bind,
      Prog.bind_assoc]
    refine .right (turn_readExact (rfl : [UInt8.ofNat name.length].length = 1) (name ++ rest)) ?_
    have hname : name.length = (octetAt [UInt8.ofNat name.length] 0).toNat :=
      (WireAddress.toNat_length hlen.2).symm
    simp only [Prog.bind_assoc]
    refine .right (turn_readExact hname rest) ?_
    rw [List.append_nil, List.append_nil]
    exact h

/-- The relay reads a login that fits. -/
lemma reaches_readAuth {creds : Socks5Credentials} (hfit : creds.Fits) (auth : Socks5AuthRecord)
    {f : Bool × Socks5AuthRecord → Endpoint UInt8 β}
    (h : Duplex.Reaches ⟨l, f (true, { auth with username := creds.username
                                                 password := creds.password
                                                 parsed := true }), [], leftward⟩ t) :
    Duplex.Reaches ⟨l, (readAuth auth).bind f, loginFrame creds, leftward⟩ t := by
  obtain ⟨hu, hp⟩ := hfit
  have hulen : creds.username.length =
      (octetAt [1, UInt8.ofNat creds.username.length] 1).toNat :=
    (UInt8.toNat_ofNat_of_lt (by simp [UInt8.size]; omega)).symm
  have hplen : creds.password.length = (octetAt [UInt8.ofNat creds.password.length] 0).toNat :=
    (UInt8.toNat_ofNat_of_lt (by simp [UInt8.size]; omega)).symm
  have hframe : loginFrame creds = [1, UInt8.ofNat creds.username.length] ++
      (creds.username ++ ([UInt8.ofNat creds.password.length] ++ (creds.password ++ []))) := by
    simp only [loginFrame, List.append_assoc, List.append_nil]
  have hversion : ¬octetAt [1, UInt8.ofNat creds.username.length] 0 ≠ socksAuthVersion :=
    not_not.mpr rfl
  simp only [readAuth, Prog.bind_eq_bind, Prog.bind_assoc]
  rw [hframe]
  refine .right (turn_readExact rfl _) ?_
  simp only [if_neg hversion, Prog.bind_assoc]
  refine .right (turn_readExact hulen _) ?_
  simp only [Prog.bind_assoc]
  refine .right (turn_readExact rfl _) ?_
  simp only [Prog.bind_assoc]
  refine .right (turn_readExact hplen _) ?_
  simp only [List.append_nil]
  exact h

/-- The relay waits for a login until the client has ended. -/
lemma reaches_readAuth_closed (hended : l.ended = true) (auth : Socks5AuthRecord)
    {f : Bool × Socks5AuthRecord → Endpoint UInt8 β}
    (h : Duplex.Reaches ⟨l, f (false, auth), [], leftward⟩ t) :
    Duplex.Reaches ⟨l, (readAuth auth).bind f, [], leftward⟩ t := by
  have hturn {g : Except Bytes Bytes → Endpoint UInt8 β} :
      turn [] l.ended ((readExact 2).bind g) = some (g (.error []), [], []) := by
    rw [hended]
    exact turn_readExact_closed Nat.two_pos
  simp only [readAuth, Prog.bind_eq_bind, Prog.bind_assoc]
  refine .right hturn ?_
  rw [List.append_nil]
  exact h

/-! ## The conversation -/

/-- The end of a session in which the client was allowed to ask. -/
def grantedEnd (server : Socks5TestServer) (auth : Socks5AuthRecord) (a : WireAddress)
    (port : UInt16) : Duplex UInt8 (Option UInt8) Socks5Session :=
  let verdict := server.verdict (requestRecord a port)
  { left := .ret (some verdict)
    right := .ret
      { auth := some auth, request := some (requestRecord a port), verdict := some verdict }
    leftward := if verdict = socksSuccess then [] else [0, 0, 0, 0, 0, 0] }

/-- From where the client may ask, it asks and the relay answers. -/
lemma reaches_grantedEnd {target : RequestTarget} {a : WireAddress} {port : UInt16}
    (htarget : target.Spells a port) (s : SOCKET) (server : Socks5TestServer)
    (auth : Socks5AuthRecord) :
    Duplex.Reaches
      ⟨((socks5Request s target).bind fun rep => .ret (some rep)).expand SocketCall.onStream,
        serveRequest server auth, [], []⟩
      (grantedEnd server auth a port) := by
  obtain ⟨k, hrequest, hrefused, k', hgranted, hsuccess⟩ := exists_socks5Request_eq htarget s
  have hframe : requestFrame a port =
      [socksVersion, socksConnect, 0, a.atyp] ++ (a.field ++ (htons port ++ [])) := by
    rw [List.append_nil]
    rfl
  rw [hrequest, Prog.bind_assoc]
  refine .left (turn_sendAll _) ?_
  rw [List.nil_append, if_neg (not_not.mpr rfl), Prog.bind_assoc]
  simp only [serveRequest, Prog.bind_eq_bind]
  rw [hframe]
  refine .right (turn_readExact rfl _) ?_
  have hconnect : ¬(octetAt [socksVersion, socksConnect, 0, a.atyp] 0 ≠ socksVersion ∨
      octetAt [socksVersion, socksConnect, 0, a.atyp] 1 ≠ socksConnect) := by
    rintro (h | h)
    · exact h rfl
    · exact h rfl
  simp only [if_neg hconnect]
  refine reaches_readRequestAddr a _ ?_
  refine .right (turn_readExact rfl []) ?_
  have hport : ntohs (octetAt (htons port) 0) (octetAt (htons port) 1) = port := ntohs_htons port
  simp only [hport]
  refine .right (turn_write_bind _) ?_
  have hrecord : Socks5RequestRecord.mk (octetAt [socksVersion, socksConnect, 0, a.atyp] 3) a.text
      port = requestRecord a port := rfl
  rw [hrecord, grantedEnd]
  generalize server.verdict (requestRecord a port) = verdict
  -- The client reads the four fixed octets, and the six behind them where it was granted.
  have hreply : ([] ++ [] ++ [] ++ [socksVersion, verdict, 0, socksIpv4, 0, 0, 0, 0, 0, 0] :
      Bytes) = [5, verdict, 0, 1] ++ ([0, 0, 0, 0, 0, 0] ++ []) := rfl
  rw [hreply]
  refine .left (turn_recvExact rfl _) ?_
  by_cases hok : verdict = socksSuccess
  · obtain rfl := hok
    have hk : k (some [5, socksSuccess, 0, 1]) = (recvExact s 6).bind k' := hgranted
    rw [hk, if_pos rfl, Prog.bind_assoc]
    refine .left (turn_recvExact rfl []) ?_
    rw [hsuccess]
    exact .refl
  · rw [hrefused verdict hok, if_neg hok]
    exact .refl

/-- How the conversation ends. -/
def conversationEnd (creds : Socks5Credentials) (a : WireAddress) (port : UInt16)
    (server : Socks5TestServer) : Duplex UInt8 (Option UInt8) Socks5Session :=
  let offered := if creds.enabled then [2, 0] else [0]
  let ok := server.judge creds.username creds.password
  let login : Socks5AuthRecord :=
    { offered, choseAuth := true, parsed := true, ok,
      username := creds.username, password := creds.password }
  if server.authRequired = false then grantedEnd server { offered } a port
  else if creds.enabled = false then
    { left := .ret none, right := .ret { auth := some { offered } } }
  else if ¬creds.Fits then
    { left := .ret none, right := .ret { auth := some { offered, choseAuth := true } },
      leftward := [1, 0xFF] }
  else if ok then grantedEnd server login a port
  else { left := .ret none, right := .ret { auth := some login } }

/-- The greeting, as the relay reads it. -/
lemma greetingFrame_eq (creds : Socks5Credentials) :
    greetingFrame creds =
      [5, if creds.enabled then 2 else 1] ++ ((if creds.enabled then [2, 0] else [0]) ++ []) := by
  by_cases he : creds.enabled = true
  · rw [greetingFrame, if_neg (enabled_eq_true_iff.mp he), if_pos he, if_pos he]
    rfl
  · have hempty : creds.username = [] ∧ creds.password = [] :=
      not_not.mp (mt enabled_eq_true_iff.mpr he)
    rw [greetingFrame, if_pos hempty, if_neg he, if_neg he]
    rfl

/-- The conversation can end there. -/
lemma conversation_reaches_end {target : RequestTarget} {a : WireAddress} {port : UInt16}
    (htarget : target.Spells a port) (s : SOCKET) (creds : Socks5Credentials)
    (server : Socks5TestServer) :
    Duplex.Reaches (conversation s creds target server) (conversationEnd creds a port server) := by
  obtain ⟨k, hhandshake, hwaived, hnone, hunfit, hfit⟩ := exists_socks5Handshake_eq s creds
  have hclient : tunnelTalk s creds target = (socks5Handshake s creds).bind fun greeted =>
      if !greeted then .ret none
      else (socks5Request s target).bind fun rep => .ret (some rep) := rfl
  have hmethods : (if creds.enabled then [2, 0] else [0] : Bytes).length =
      (octetAt [5, if creds.enabled then 2 else 1] 1).toNat := by
    cases creds.enabled <;> rfl
  unfold conversation
  rw [hclient, hhandshake, Prog.bind_assoc]
  refine .left (turn_sendAll _) ?_
  rw [List.nil_append, if_neg (not_not.mpr rfl), Prog.bind_assoc, greetingFrame_eq]
  simp only [handleSession, Prog.bind_eq_bind]
  refine .right (turn_readExact rfl _) ?_
  have hversion : ¬octetAt [5, if creds.enabled = true then (2 : UInt8) else 1] 0 ≠ socksVersion :=
    not_not.mpr rfl
  simp only [if_neg hversion]
  refine .right (turn_readExact hmethods _) ?_
  rw [List.append_nil, conversationEnd]
  cases hrequired : server.authRequired with
  | false =>
    -- The relay waives the login.
    refine .right (turn_write_bind _) ?_
    refine .left (turn_recvExact (rfl : ([5, 0] : Bytes).length = 2) []) ?_
    rw [hwaived]
    exact reaches_grantedEnd htarget s server _
  | true =>
    cases he : creds.enabled with
    | false =>
      refine .right (turn_write_bind _) ?_
      refine .left (turn_recvExact (rfl : ([5, 0xFF] : Bytes).length = 2) []) ?_
      rw [hnone]
      exact .refl
    | true =>
      refine .right (turn_write_bind _) ?_
      refine .left (turn_recvExact (rfl : ([5, 2] : Bytes).length = 2) []) ?_
      by_cases hfits : creds.Fits
      case neg =>
        -- The client has no login that it could send, and hangs up.
        rw [hunfit he hfits]
        refine reaches_readAuth_closed rfl _ (.right (turn_write_bind _) ?_)
        simp only [hfits]
        exact .refl
      obtain ⟨k', hlogin, haccepted, hrefused⟩ := hfit he hfits
      rw [hlogin, Prog.bind_assoc]
      refine .left (turn_sendAll _) ?_
      rw [List.nil_append, if_neg (not_not.mpr rfl), Prog.bind_assoc]
      refine reaches_readAuth hfits _ (.right (turn_write_bind _) ?_)
      dsimp only
      generalize server.judge creds.username creds.password = ok
      cases ok with
      | true =>
        refine .left (turn_recvExact (rfl : ([1, 0] : Bytes).length = 2) []) ?_
        rw [haccepted]
        simp only [hfits]
        exact reaches_grantedEnd htarget s server _
      | false =>
        refine .left (turn_recvExact (rfl : ([1, 0xFF] : Bytes).length = 2) []) ?_
        rw [hrefused]
        simp only [hfits]
        exact .refl

/-- The relay lets the client ask: it waives the login, or is sent one that its hook accepts. -/
def Socks5TestServer.Admits (server : Socks5TestServer) (creds : Socks5Credentials) : Prop :=
  server.authRequired = false ∨
    creds.enabled = true ∧ creds.Fits ∧ server.judge creds.username creds.password = true

/-- What the two sides hold at the end of a conversation about an address and a port. -/
structure ConversationResult (creds : Socks5Credentials) (a : WireAddress) (port : UInt16)
    (server : Socks5TestServer) (d : Duplex UInt8 (Option UInt8) Socks5Session)
    (rep : Option UInt8) (session : Socks5Session) : Prop where
  client : d.left = .ret rep
  relay : d.right = .ret session
  /-- The client and the relay agree on how the request was answered. -/
  agree : rep = session.verdict
  /-- The request is asked of a relay that admits the client, and of no other. -/
  asked : session.request.isSome = true ↔ server.Admits creds
  /-- The relay has understood what was asked. -/
  understood : ∀ request ∈ session.request, request = requestRecord a port
  judged : session.verdict = session.request.map server.verdict
  /-- The login is there, whole, where the relay has asked for it, and nowhere else. -/
  login : ∀ auth ∈ session.auth, (auth.username, auth.password) =
    if auth.parsed then (creds.username, creds.password) else ([], [])
  secret : ∀ auth ∈ session.auth, auth.parsed = true → auth.choseAuth = true
  /-- A granted tunnel starts with the first octet behind the reply, in both directions. -/
  aligned : rep = some socksSuccess → d.rightward = [] ∧ d.leftward = []

/-- What the two sides hold when the client was allowed to ask. -/
lemma conversationResult_grantedEnd {creds : Socks5Credentials} (a : WireAddress) (port : UInt16)
    {server : Socks5TestServer} (hadmits : server.Admits creds) {auth : Socks5AuthRecord}
    (hlogin : (auth.username, auth.password) =
      if auth.parsed then (creds.username, creds.password) else ([], []))
    (hsecret : auth.parsed = true → auth.choseAuth = true) :
    ∃ rep session,
      ConversationResult creds a port server (grantedEnd server auth a port) rep session := by
  refine ⟨_, _, rfl, rfl, rfl, iff_of_true rfl hadmits, ?_, rfl, ?_, ?_, ?_⟩
  · rintro request ⟨⟩
    rfl
  · rintro auth' ⟨⟩
    exact hlogin
  · rintro auth' ⟨⟩
    exact hsecret
  · intro hsuccess
    exact ⟨rfl, if_pos (Option.some.inj hsuccess)⟩

/-- What the two sides hold when the relay did not admit the client. -/
lemma conversationResult_refused {creds : Socks5Credentials} (a : WireAddress) (port : UInt16)
    {server : Socks5TestServer} (hadmits : ¬server.Admits creds) {auth : Socks5AuthRecord}
    (hlogin : (auth.username, auth.password) =
      if auth.parsed then (creds.username, creds.password) else ([], []))
    (hsecret : auth.parsed = true → auth.choseAuth = true) (leftward : Bytes) :
    ∃ rep session, ConversationResult creds a port server
      { left := .ret none, right := .ret { auth := some auth }, leftward } rep session := by
  refine ⟨none, _, rfl, rfl, rfl, iff_of_false nofun hadmits, nofun, rfl, ?_, ?_, nofun⟩
  · rintro auth' ⟨⟩
    exact hlogin
  · rintro auth' ⟨⟩
    exact hsecret

/-- What the two sides hold at the end. -/
lemma exists_conversationResult (creds : Socks5Credentials) (a : WireAddress) (port : UInt16)
    (server : Socks5TestServer) :
    ∃ rep session, ConversationResult creds a port server
      (conversationEnd creds a port server) rep session := by
  simp only [conversationEnd]
  generalize (if creds.enabled = true then [2, 0] else [0] : Bytes) = offered
  have hempty (auth : Socks5AuthRecord) (h : auth = { offered } ∨
      auth = { offered, choseAuth := true }) : (auth.username, auth.password) =
        if auth.parsed then (creds.username, creds.password) else ([], []) := by
    rcases h with rfl | rfl
    · rfl
    · rfl
  by_cases hwaived : server.authRequired = false
  · rw [if_pos hwaived]
    exact conversationResult_grantedEnd a port (Or.inl hwaived) (hempty _ (Or.inl rfl)) nofun
  rw [if_neg hwaived]
  by_cases he : creds.enabled = false
  · rw [if_pos he]
    refine conversationResult_refused a port ?_ (hempty _ (Or.inl rfl)) nofun []
    rintro (h | ⟨he', -⟩)
    · exact hwaived h
    · exact Bool.false_ne_true (he.symm.trans he')
  rw [if_neg he]
  by_cases hfit : creds.Fits
  case neg =>
    rw [if_pos hfit]
    refine conversationResult_refused a port ?_ (hempty _ (Or.inr rfl)) nofun [1, 0xFF]
    rintro (h | ⟨-, hfit', -⟩)
    · exact hwaived h
    · exact hfit hfit'
  rw [if_neg (not_not.mpr hfit)]
  by_cases hok : server.judge creds.username creds.password = true
  · rw [if_pos hok]
    have hadmits : server.Admits creds := Or.inr ⟨(Bool.not_eq_false _).mp he, hfit, hok⟩
    exact conversationResult_grantedEnd a port hadmits (if_pos rfl).symm fun _ => rfl
  · rw [if_neg hok]
    refine conversationResult_refused a port ?_ (if_pos rfl).symm (fun _ => rfl) []
    rintro (h | ⟨-, -, hok'⟩)
    · exact hwaived h
    · exact hok hok'

/-- **The conversation has one end.** Let the target be one that the builders spell, as an address
and a port.  Whatever the login and the hooks of the relay, and in whatever order the client and the
relay take their turns on a connection that nothing disturbs, the conversation does not go on for
ever, never gets stuck before its end, and has only one: there the client and the relay agree on how
the request was answered, the relay was asked exactly when it admits the client and for exactly that
address and port, it has seen the login only where it asked for one, and behind a granted request
nothing is left on the connection. -/
theorem conversation_ends (target : RequestTarget) (a : WireAddress) (port : UInt16)
    (htarget : target.Spells a port) (s : SOCKET) (creds : Socks5Credentials)
    (server : Socks5TestServer) :
    ∃ d rep session, ConversationResult creds a port server d rep session ∧
      (∀ t, (conversation s creds target server).Reaches t →
        t.Reaches d ∧ ((∀ next, ¬t.Steps next) → t = d)) ∧
      ¬∃ run : ℕ → Duplex UInt8 (Option UInt8) Socks5Session,
        run 0 = conversation s creds target server ∧ ∀ n, (run n).Steps (run (n + 1)) := by
  obtain ⟨rep, session, hresult⟩ := exists_conversationResult creds a port server
  have hreaches := conversation_reaches_end htarget s creds server
  have hended : (conversationEnd creds a port server).Ended := by
    refine ⟨?_, ?_⟩
    · rw [hresult.client]
      rfl
    · rw [hresult.relay]
      rfl
  refine ⟨_, rep, session, hresult, fun t ht => ⟨Duplex.reaches_end hreaches hended ht,
    Duplex.eq_end_of_not_steps hreaches hended ht⟩, ?_⟩
  rintro ⟨run, -, hrun⟩
  exact (wellFounded_iff_isEmpty_descending_chain.mp Duplex.wellFounded_steps).false ⟨run, hrun⟩

/-- The login "a" with the password "b", and the name "x." on port 80, with a relay that demands a
login and takes this one. -/
theorem conversation_ends_named :
    let creds : Socks5Credentials := ⟨[0x61], [0x62]⟩
    let target : RequestTarget := .ipAddr { domain := some [0x78, 0x2E], port := some 80 }
    let server : Socks5TestServer :=
      { authRequired := true, authHook := some fun username _ => username == [0x61] }
    ∃ d, (∀ t, (conversation 4 creds target server).Reaches t → t.Reaches d) ∧
      d.left = .ret (some socksSuccess) := by
  intro creds target server
  have hlen : 1 ≤ ([0x78, 0x2E] : Bytes).length ∧
      ([0x78, 0x2E] : Bytes).length ≤ socksDomainMaxLength := by decide
  have hspells : target.Spells (.domain [0x78, 0x2E] hlen) 80 := spells_domain hlen (by decide) 80
  obtain ⟨d, rep, session, hresult, hall, -⟩ :=
    conversation_ends target _ 80 hspells 4 creds server
  have hadmits : server.Admits creds := Or.inr ⟨rfl, by decide, rfl⟩
  obtain ⟨request, hrequest⟩ := Option.isSome_iff_exists.mp (hresult.asked.mpr hadmits)
  refine ⟨d, fun t ht => (hall t ht).1, ?_⟩
  rw [hresult.client, hresult.agree, hresult.judged, hrequest]
  rfl

end Encapsule
