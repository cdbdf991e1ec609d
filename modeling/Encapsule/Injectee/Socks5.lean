import Mathlib.Data.Int.Notation
import Encapsule.Foundation.Interaction
import Encapsule.Injectee.Winnet

/-!
# The socks5 client

The byte builders of `socks5.hpp` and the conversation built on them.  A builder gets the caller's
output buffer and returns the number of octets it wrote together with the buffer as it left it;
zero means that nothing was written.  The conversation is an interaction program over the two
socket calls it makes: `send`, answered with the number winsock returns, and `recv` with
`MSG_WAITALL`, answered with the octets that arrived, or nothing for `SOCKET_ERROR`.
-/

namespace Encapsule

open Interaction

/-- A winsock socket value. -/
abbrev SOCKET := UInt64

/-! ## Constants of the protocol -/

/-- `SOCKS_VERSION`. -/
def socksVersion : UInt8 := 5

/-- `SOCKS_NO_AUTHENTICATION`. -/
def socksNoAuthentication : UInt8 := 0

/-- `SOCKS_USERNAME_PASSWORD`. -/
def socksUsernamePassword : UInt8 := 2

/-- `SOCKS_CONNECT`. -/
def socksConnect : UInt8 := 1

/-- `SOCKS_IPV4`. -/
def socksIpv4 : UInt8 := 1

/-- `SOCKS_DOMAINNAME`. -/
def socksDomainname : UInt8 := 3

/-- `SOCKS_IPV6`. -/
def socksIpv6 : UInt8 := 4

/-- `SOCKS_SUCCESS`. -/
def socksSuccess : UInt8 := 0

/-- `SOCKS_GENERAL_FAILURE`. -/
def socksGeneralFailure : UInt8 := 4

/-- `SOCKS_AUTH_VERSION`. -/
def socksAuthVersion : UInt8 := 1

/-- `SOCKS_AUTH_FAILURE`. -/
def socksAuthFailure : UInt8 := 0xFF

/-- `SOCKS_DOMAIN_MAX_LENGTH`. -/
def socksDomainMaxLength : ℕ := 255

/-- `SOCKS_REQUEST_MAX_SIZE`. -/
def socksRequestMaxSize : ℕ := 4 + 1 + socksDomainMaxLength + 2

/-- `SOCKS_NMETHODS_MAX`. -/
def socksNmethodsMax : ℕ := 255

/-- `SOCKS_GREETING_MAX_SIZE`. -/
def socksGreetingMaxSize : ℕ := 2 + socksNmethodsMax

/-- `SOCKS_AUTH_MAX_SIZE`. -/
def socksAuthMaxSize : ℕ := 1 + 1 + 255 + 1 + 255

/-! ## Credentials -/

/-- A proxy login, borrowed from the caller. -/
structure Socks5Credentials where
  username : Bytes
  password : Bytes
  deriving DecidableEq

/-- At least one credential is set, so the greeting offers the subnegotiation. -/
def Socks5Credentials.enabled (creds : Socks5Credentials) : Bool :=
  !creds.username.isEmpty || !creds.password.isEmpty

/-! ## Builders -/

/-- The buffer after the octets `src` were copied to offset `off`. -/
def overwrite (buf : Bytes) (off : ℕ) (src : Bytes) : Bytes :=
  buf.take off ++ (src ++ buf.drop (off + src.length))

@[simp] lemma take_overwrite_zero (buf src : Bytes) :
    (overwrite buf 0 src).take src.length = src := by
  simp [overwrite]

lemma overwrite_zero (buf src : Bytes) : overwrite buf 0 src = src ++ buf.drop src.length := by
  rw [overwrite, List.take_zero, List.nil_append, Nat.zero_add]

/-- Octets that are written in front of others make one block with them. -/
lemma overwrite_before {buf : Bytes} {off : ℕ} {a : Bytes} (b : Bytes)
    (h : off + a.length ≤ buf.length) :
    overwrite (overwrite buf (off + a.length) b) off a = overwrite buf off (a ++ b) := by
  have hpos : (buf.take (off + a.length)).length = off + a.length := by
    rw [List.length_take]
    omega
  unfold overwrite
  rw [List.take_append_of_le_length (by omega), List.take_take, Nat.min_eq_left (by omega)]
  congr 1
  rw [List.drop_append_of_le_length (by omega), List.drop_of_length_le (by omega), List.nil_append,
    List.length_append, Nat.add_assoc, List.append_assoc]

/-- Octets that are written behind others make one block with them. -/
lemma overwrite_after {buf : Bytes} {off : ℕ} (a b : Bytes) (h : off ≤ buf.length) :
    overwrite (overwrite buf off a) (off + a.length) b = overwrite buf off (a ++ b) := by
  have hpos : (buf.take off ++ a).length = off + a.length := by
    rw [List.length_append, List.length_take]
    omega
  unfold overwrite
  rw [← List.append_assoc (buf.take off), List.take_left' hpos, ← List.drop_drop,
    List.drop_left' hpos, List.drop_drop, List.length_append, Nat.add_assoc, List.append_assoc,
    List.append_assoc]

/-- Writes the client greeting `{VER, NMETHODS, METHODS...}`. -/
def socks5BuildGreeting (methods out : Bytes) : ℕ × Bytes :=
  if methods.length = 0 ∨ socksNmethodsMax < methods.length then
    (0, out)
  else
    (methods.length + 2, overwrite out 0 (socksVersion :: UInt8.ofNat methods.length :: methods))

/-- Writes the type octet at `pos` and the address behind it: four or sixteen octets as they are,
or the NUL-terminated name with its length in front. -/
def socks5WriteAtypAddr (atyp : UInt8) (addrBytes : Bytes) (pos : ℕ) (out : Bytes) : ℕ × Bytes :=
  if atyp = socksIpv4 then
    (5, overwrite (overwrite out (pos + 1) (octetsAt addrBytes 0 4)) pos [atyp])
  else if atyp = socksIpv6 then
    (17, overwrite (overwrite out (pos + 1) (octetsAt addrBytes 0 16)) pos [atyp])
  else if atyp = socksDomainname then
    let name := addrBytes.takeWhile (· ≠ 0)
    if name.length = 0 ∨ socksDomainMaxLength < name.length then
      (0, out)
    else
      (name.length + 2,
        overwrite (overwrite out (pos + 1) (UInt8.ofNat name.length :: name)) pos [atyp])
  else
    (0, out)

/-- Writes the request `{VER, CMD, RSV, ATYP, ADDR, PORT}`. -/
def socks5BuildRequestCmd (cmd atyp : UInt8) (addrBytes : Bytes) (portHostOrder : UInt16)
    (out : Bytes) : ℕ × Bytes :=
  let (field, out') := socks5WriteAtypAddr atyp addrBytes 3 out
  if field = 0 then
    (0, out')
  else
    (field + 5, overwrite (overwrite out' 0 [socksVersion, cmd, 0]) (3 + field)
      (htons portHostOrder))

/-- Writes the CONNECT request. -/
def socks5BuildRequest (atyp : UInt8) (addrBytes : Bytes) (portHostOrder : UInt16) (out : Bytes) :
    ℕ × Bytes :=
  socks5BuildRequestCmd socksConnect atyp addrBytes portHostOrder out

/-- Writes the request `cmd` for a socket address. -/
def socks5BuildRequestFromSockaddrCmd (cmd : UInt8) (addr : Sockaddr) (out : Bytes) : ℕ × Bytes :=
  if addr.saFamily = afInet then
    socks5BuildRequestCmd cmd socksIpv4 addr.sinAddr addr.sinPort out
  else if addr.saFamily = afInet6 then
    socks5BuildRequestCmd cmd socksIpv6 addr.sin6Addr addr.sinPort out
  else
    (0, out)

/-- Writes the CONNECT request for a socket address. -/
def socks5BuildRequestFromSockaddr (addr : Sockaddr) (out : Bytes) : ℕ × Bytes :=
  socks5BuildRequestFromSockaddrCmd socksConnect addr out

/-- Writes the CONNECT request for an endpoint message. -/
def socks5BuildRequestFromIpAddr (addr : IpAddr) (out : Bytes) : ℕ × Bytes :=
  match addr.port with
  | none => (0, out)
  | some port =>
    match addr.v4Addr, addr.v6Addr, addr.domain with
    | some v4, _, _ => socks5BuildRequest socksIpv4 (htonl v4) port.toUInt16 out
    | none, some v6, _ =>
      if v6.length ≠ 16 then (0, out) else socks5BuildRequest socksIpv6 v6 port.toUInt16 out
    | none, none, some domain =>
      if socksDomainMaxLength < domain.length then (0, out)
      else socks5BuildRequest socksDomainname (domain ++ [0]) port.toUInt16 out
    | none, none, none => (0, out)

/-- Writes the username/password subnegotiation `{VER=1, ULEN, USERNAME..., PLEN, PASSWORD...}`. -/
def socks5BuildAuth (user pass out : Bytes) : ℕ × Bytes :=
  if 0xFF < user.length ∨ 0xFF < pass.length then
    (0, out)
  else
    let frame := [socksAuthVersion, UInt8.ofNat user.length] ++ user ++
      [UInt8.ofNat pass.length] ++ pass
    (frame.length, overwrite out 0 frame)

/-! ## The conversation -/

/-- The socket calls of the conversation. -/
inductive SocketCall where
  | send (s : SOCKET) (buf : Bytes)
  | recv (s : SOCKET) (len : ℕ)
  deriving DecidableEq

/-- What the socket calls answer. -/
abbrev SocketCall.Answer : SocketCall → Type
  | .send _ _ => ℤ
  | .recv _ _ => Option Bytes

/-- `send`. -/
def sendAll (s : SOCKET) (buf : Bytes) : Prog SocketCall.Answer ℤ :=
  Prog.ask (SocketCall.send s buf)

/-- `recv` with `MSG_WAITALL`: the octets, when all of them arrived. -/
def recvExact (s : SOCKET) (len : ℕ) : Prog SocketCall.Answer (Option Bytes) := do
  let got : Option Bytes ← Prog.ask (SocketCall.recv s len)
  return got.filter (·.length = len)

/-- The greeting, plus the username/password subnegotiation when the server selects it. -/
def socks5Handshake (s : SOCKET) (creds : Socks5Credentials) : Prog SocketCall.Answer Bool := do
  let methods : Bytes :=
    if creds.enabled then [socksUsernamePassword, socksNoAuthentication]
    else [socksNoAuthentication]
  let (size, req) := socks5BuildGreeting methods (List.replicate socksGreetingMaxSize 0)
  if size = 0 then
    return false
  if (← sendAll s (req.take size)) ≠ (size : ℤ) then
    return false
  let some res ← recvExact s 2 | return false
  if octetAt res 0 ≠ socksVersion then
    return false
  if octetAt res 1 = socksNoAuthentication then
    return true
  if octetAt res 1 ≠ socksUsernamePassword ∨ !creds.enabled then
    return false
  let (authSize, auth) :=
    socks5BuildAuth creds.username creds.password (List.replicate socksAuthMaxSize 0)
  if authSize = 0 then
    return false
  if (← sendAll s (auth.take authSize)) ≠ (authSize : ℤ) then
    return false
  let some authRes ← recvExact s 2 | return false
  let authVer := octetAt authRes 0
  let authStatus := octetAt authRes 1
  if authStatus = socksAuthFailure then
    return false
  return authVer == socksAuthVersion && authStatus == socksSuccess

/-- The verdict on a reply. -/
inductive Socks5Reply where
  | ok
  | refusedRep
  | protocolError
  | truncated
  | bndIsAName
  deriving DecidableEq

/-- `BND.ADDR` and `BND.PORT`, as stated by the relay; `bound` is the ready socket address. -/
structure Socks5RelayEndpoint where
  atyp : UInt8 := 0
  addr : Bytes := List.replicate 16 0
  addrSize : ℕ := 0
  portHostOrder : UInt16 := 0
  name : Bytes := []
  bound : Sockaddr := List.replicate 128 0
  deriving DecidableEq

/-- Decodes the address part of a reply once its size is known. -/
def decodeRelayEndpoint (atyp : UInt8) (named : Bool) (field : ℕ) (addrPart : Bytes) :
    Socks5RelayEndpoint :=
  let port := ntohs (octetAt addrPart field) (octetAt addrPart (field + 1))
  let addr := addrPart.take field
  if named then
    { atyp, portHostOrder := port, name := addr }
  else
    { atyp, portHostOrder := port, addrSize := field,
      addr := addr ++ List.replicate (16 - field) 0,
      bound := overwrite (List.replicate 128 0) 0
        (if atyp = socksIpv4 then sockaddrIn addr port else sockaddrIn6 addr port) }

/-- Reads the address part of a granted reply: `field` octets of address and two of port. -/
def readRelayEndpoint (s : SOCKET) (atyp : UInt8) (named : Bool) (field : ℕ) :
    Prog SocketCall.Answer (Socks5Reply × Option Socks5RelayEndpoint) := do
  let some addrPart ← recvExact s (field + 2) | return (.truncated, none)
  return (if named then .bndIsAName else .ok,
    some (decodeRelayEndpoint atyp named field addrPart))

/-- Reads one reply: the verdict, the REP octet when the fixed header arrived, and the endpoint
when the reply was read to its end. -/
def socks5ReadReply (s : SOCKET) :
    Prog SocketCall.Answer (Socks5Reply × Option UInt8 × Option Socks5RelayEndpoint) := do
  let some head ← recvExact s 4 | return (.protocolError, none, none)
  if octetAt head 0 ≠ socksVersion then
    return (.protocolError, none, none)
  let rep := octetAt head 1
  if rep ≠ socksSuccess then
    return (.refusedRep, some rep, none)
  let atyp := octetAt head 3
  if atyp = socksIpv4 then
    let (verdict, bnd) ← readRelayEndpoint s atyp false 4
    return (verdict, some rep, bnd)
  else if atyp = socksIpv6 then
    let (verdict, bnd) ← readRelayEndpoint s atyp false 16
    return (verdict, some rep, bnd)
  else if atyp = socksDomainname then
    let some lenOctet ← recvExact s 1 | return (.protocolError, some rep, none)
    if octetAt lenOctet 0 = 0 then
      return (.protocolError, some rep, none)
    let (verdict, bnd) ← readRelayEndpoint s atyp true (octetAt lenOctet 0).toNat
    return (verdict, some rep, bnd)
  else
    return (.protocolError, some rep, none)

/-- Sends a request of `size` octets and reads the reply: the REP octet, as the caller sees it. -/
def socks5RequestEx (s : SOCKET) (size : ℕ) (buf : Bytes) : Prog SocketCall.Answer UInt8 := do
  if size = 0 then
    return socksGeneralFailure
  if (← sendAll s (buf.take size)) ≠ (size : ℤ) then
    return socksGeneralFailure
  let (verdict, rep, _) ← socks5ReadReply s
  match verdict with
  | .ok => return socksSuccess
  | .refusedRep => return rep.getD socksGeneralFailure
  | _ => return socksGeneralFailure

/-- Where a tunnel is asked to lead: the two overloads of `socks5_request`. -/
inductive RequestTarget where
  | sockaddr (addr : Sockaddr)
  | ipAddr (addr : IpAddr)
  deriving DecidableEq

/-- `socks5_request`. -/
def socks5Request (s : SOCKET) (target : RequestTarget) : Prog SocketCall.Answer UInt8 :=
  let out := List.replicate socksRequestMaxSize 0
  let (size, buf) := match target with
    | .sockaddr addr => socks5BuildRequestFromSockaddr addr out
    | .ipAddr addr => socks5BuildRequestFromIpAddr addr out
  if size = 0 then return socksGeneralFailure else socks5RequestEx s size buf

end Encapsule
