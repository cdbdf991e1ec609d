import Encapsule.Common.ProxyUrl
import Encapsule.Injectee.Client
import Encapsule.Injectee.Socks5

/-!
# The connect hooks

The detours of `connect`, `WSAConnect`, `WSAConnectByList`, `WSAConnectByNameA`,
`WSAConnectByNameW` and `ConnectEx` of `hook.hpp`, as interaction programs.  A detour talks to
winsock and to the rest of the process through `SystemCall`; above them it also has the steps of a
proxied connect as calls of their own (`DetourCall`): the original connect API aimed at the proxy,
and the two conversations with it.  `DetourCall.carryOut` gives the system calls of these steps.

* `hookConnectFn`, `hookWSAConnectByList`, `hookWSAConnectByName`, `hookConnectEx`: the detours.
* `detour`: any of them, by its arguments.
-/

namespace Encapsule

open Interaction

/-- `SOCK_STREAM`. -/
def sockStream : ℤ := 1

/-- `SOCKET_ERROR`. -/
def socketError : ℤ := -1

/-- `WSAETIMEDOUT`. -/
def wsaeTimedOut : ℤ := 10060

/-- `WSAECONNREFUSED`. -/
def wsaeConnRefused : ℤ := 10061

/-- `SOCKS_HANDSHAKE_TIMEOUT_MS`. -/
def socksHandshakeTimeoutMs : DWORD := 3000

/-! ## Calls -/

/-- The two APIs behind `hook_connect_fn`. -/
inductive ConnectApi where
  | connect
  | WSAConnect
  deriving DecidableEq

/-- The name a report gives to the API. -/
def ConnectApi.syscall : ConnectApi → String
  | .connect => "connect"
  | .WSAConnect => "WSAConnect"

/-- The two APIs behind `hook_WSAConnectByName`. -/
inductive ConnectByNameApi where
  | WSAConnectByNameA
  | WSAConnectByNameW
  deriving DecidableEq

/-- The name a report gives to the API. -/
def ConnectByNameApi.syscall : ConnectByNameApi → String
  | .WSAConnectByNameA => "WSAConnectByNameA"
  | .WSAConnectByNameW => "WSAConnectByNameW"

/-- A node or service name, as the A or the W variant passes it. -/
inductive NameText where
  | narrow (text : Bytes)
  | wide (text : List UInt16)
  deriving DecidableEq

/-- A call of one of the original connect APIs. -/
inductive ConnectCall where
  | sockaddr (api : ConnectApi) (s : SOCKET) (name : Sockaddr) (namelen : ℤ)
  | byList (s : SOCKET) (addresses : List Sockaddr)
  | byName (api : ConnectByNameApi) (s : SOCKET) (nodename servicename : Option NameText)
  | connectEx (s : SOCKET) (name : Sockaddr) (namelen : ℤ) (sendBuffer : Option Bytes)
  deriving DecidableEq

/-- The two timeouts of a socket. -/
inductive TimeoutOption where
  | rcvtimeo
  | sndtimeo
  deriving DecidableEq

/-- The two address parameters that a list or name connect fills in. -/
inductive AddressParam where
  | localAddress
  | remoteAddress
  deriving DecidableEq

/-- Why a detour does not go on. -/
inductive DetourStop where
  /-- A null pointer is written to. -/
  | nullPointer
  /-- An exception leaves the detour. -/
  | exception
  /-- An array is written beyond its end. -/
  | outOfBounds
  deriving DecidableEq

/-- What a detour asks of winsock and of the rest of the process. -/
inductive SystemCall where
  /-- `getsockopt` for `SO_TYPE`. -/
  | getsockoptType (s : SOCKET)
  | getsockoptTimeout (s : SOCKET) (opt : TimeoutOption)
  | setsockoptTimeout (s : SOCKET) (opt : TimeoutOption) (value : DWORD)
  /-- The original `ioctlsocket` for `FIONBIO`. -/
  | ioctlsocket (s : SOCKET) (nonblocking : Bool)
  | nbioLoad (s : SOCKET)
  | wsaGetLastError
  | wsaSetLastError (code : ℤ)
  /-- `shutdown` for both directions. -/
  | shutdown (s : SOCKET)
  | socket (c : SocketCall)
  | original (c : ConnectCall)
  | getsockname (s : SOCKET)
  /-- `push` of the report queue. -/
  | push (msg : InjecteeMessage)
  /-- `getservbyname` for `tcp`. -/
  | getservbyname (name : Bytes)
  /-- `ip::make_address`. -/
  | makeAddress (text : Bytes)
  | utf8Encode (text : List UInt16)
  /-- An address parameter of the caller is filled in. -/
  | copyOut (param : AddressParam) (octets : Bytes)
  /-- The number of octets that `ConnectEx` sent is stored for the caller. -/
  | storeBytesSent (len : ℤ)
  /-- The address of a proxy with fewer than sixteen v6 octets is read. -/
  | uninitialisedSockaddr (proxy : IpAddr)
  | stop (why : DetourStop)
  deriving DecidableEq

/-- What these calls answer.  A failed query answers `none`. -/
abbrev SystemCall.Answer : SystemCall → Type
  | .getsockoptType _ => Option ℤ
  | .getsockoptTimeout _ _ => Option DWORD
  | .setsockoptTimeout _ _ _ => ℤ
  | .ioctlsocket _ _ => ℤ
  | .nbioLoad _ => Option Bool
  | .wsaGetLastError => ℤ
  | .wsaSetLastError _ => Unit
  | .shutdown _ => ℤ
  | .socket c => c.Answer
  | .original _ => ℤ
  | .getsockname _ => Bytes
  | .push _ => Unit
  | .getservbyname _ => Option UInt16
  | .makeAddress _ => Option IpAddress
  | .utf8Encode _ => Bytes
  | .copyOut _ _ => Unit
  | .storeBytesSent _ => Unit
  | .uninitialisedSockaddr _ => Sockaddr
  | .stop _ => Empty

/-- The calls of a detour. -/
inductive DetourCall where
  | system (c : SystemCall)
  /-- An original connect API is aimed at the proxy. -/
  | dial (c : ConnectCall)
  | socks5Handshake (s : SOCKET) (creds : Socks5Credentials)
  | socks5Request (s : SOCKET) (target : RequestTarget)
  deriving DecidableEq

/-- What these calls answer. -/
abbrev DetourCall.Answer : DetourCall → Type
  | .system c => c.Answer
  | .dial _ => ℤ
  | .socks5Handshake _ _ => Bool
  | .socks5Request _ _ => UInt8

/-- A program of a detour. -/
abbrev Detour (α : Type) : Type := Prog DetourCall.Answer α

/-- The system calls of one step of a detour. -/
def DetourCall.carryOut : (c : DetourCall) → Prog SystemCall.Answer c.Answer
  | .system c => Prog.ask c
  | .dial c => Prog.ask (SystemCall.original c)
  | .socks5Handshake s creds =>
    (Encapsule.socks5Handshake s creds).expand fun c => Prog.ask (SystemCall.socket c)
  | .socks5Request s target =>
    (Encapsule.socks5Request s target).expand fun c => Prog.ask (SystemCall.socket c)

namespace Detour

/-- A system call. -/
def system (c : SystemCall) : Detour c.Answer := Prog.ask (DetourCall.system c)

/-- The original API, called as the caller called the hook. -/
def original (c : ConnectCall) : Detour ℤ := system (.original c)

/-- The end of a detour that does not go on. -/
def stop {α : Type} (why : DetourStop) : Detour α := do
  let never : Empty ← system (.stop why)
  return never.elim

/-! ## Helpers of the detours -/

/-- The construction of a `blocking_scope`: the timeouts it saves. -/
def enterBlockingScope (s : SOCKET) : Detour (DWORD × DWORD) := do
  let oldRcvtimeo : Option DWORD ← system (.getsockoptTimeout s .rcvtimeo)
  let oldSndtimeo : Option DWORD ← system (.getsockoptTimeout s .sndtimeo)
  let _ ← system (.setsockoptTimeout s .rcvtimeo socksHandshakeTimeoutMs)
  let _ ← system (.setsockoptTimeout s .sndtimeo socksHandshakeTimeoutMs)
  let _ ← system (.ioctlsocket s false)
  return (oldRcvtimeo.getD 0, oldSndtimeo.getD 0)

/-- The destruction of a `blocking_scope`. -/
def leaveBlockingScope (s : SOCKET) (saved : DWORD × DWORD) : Detour Unit := do
  let nb : Option Bool ← system (.nbioLoad s)
  let _ ← system (.ioctlsocket s (nb.getD false))
  let _ ← system (.setsockoptTimeout s .rcvtimeo saved.1)
  let _ ← system (.setsockoptTimeout s .sndtimeo saved.2)

/-- `blocking_scope` around a body. -/
def blockingScope {α : Type} (s : SOCKET) (body : Detour α) : Detour α := do
  let saved ← enterBlockingScope s
  let res ← body
  leaveBlockingScope s saved
  return res

/-- `fail_proxied_connect`. -/
def failProxiedConnect (s : SOCKET) (ret : ℤ) : Detour ℤ := do
  let err : ℤ ← system .wsaGetLastError
  let _ ← system (.shutdown s)
  let _ ← system (.wsaSetLastError (if err = wsaeTimedOut then wsaeTimedOut else wsaeConnRefused))
  return ret

end Detour

/-- `socket_stream_verdict`. -/
inductive SocketStreamVerdict where
  | stream
  | notStream
  | unknown
  deriving DecidableEq

namespace Detour

/-- `socket_stream_type`.  Every error code of the failed query means the same. -/
def socketStreamType (s : SOCKET) : Detour SocketStreamVerdict := do
  let type : Option ℤ ← system (.getsockoptType s)
  match type with
  | some type => return if type = sockStream then .stream else .notStream
  | none =>
    let _ ← system .wsaGetLastError
    return .unknown

/-- The three-way branch in front of every proxied path.  It is passed when nothing hangs on the
type of the socket, or when the socket is a stream. -/
def typeGate (asked proxied : Bool) (s : SOCKET) (refusal : ℤ) (direct next : Detour ℤ) :
    Detour ℤ :=
  if asked then do
    match ← socketStreamType s with
    | .notStream => direct
    | .unknown => if proxied then failProxiedConnect s refusal else direct
    | .stream => next
  else next

/-- `to_sockaddr` of the proxy. -/
def proxySockaddr (proxy : IpAddr) : Detour Sockaddr :=
  match toSockaddr proxy with
  | .ok addr => return addr
  | .error .badOptionalAccess => stop .exception
  | .error .outOfBounds => stop .outOfBounds
  | .error .uninitialised => system (.uninitialisedSockaddr proxy)

/-- How the proxied path to one address ends. -/
inductive TunnelOutcome where
  /-- The original connect to the proxy failed. -/
  | unreachable (ret : ℤ)
  /-- The proxy refused the handshake or the request. -/
  | refused
  | established
  deriving DecidableEq

/-- The proxied path: the original connect to the proxy, the handshake and the request. -/
def tunnel (call : ConnectCall) (s : SOCKET) (creds : Socks5Credentials) (target : RequestTarget) :
    Detour TunnelOutcome := do
  let ret : ℤ ← Prog.ask (DetourCall.dial call)
  if ret ≠ 0 then
    return .unreachable ret
  let greeted : Bool ← Prog.ask (DetourCall.socks5Handshake s creds)
  if !greeted then
    return .refused
  let rep : UInt8 ← Prog.ask (DetourCall.socks5Request s target)
  if rep ≠ socksSuccess then
    return .refused
  return .established

/-- An address parameter of the caller, with the room it has for the address, is filled in. -/
def copyOut (param : AddressParam) (room : Option ℕ) (octets : Bytes) : Detour Unit :=
  match room with
  | none => stop .nullPointer
  | some room => system (.copyOut param (octets.take room))

end Detour

/-! ## The detours -/

/-- What a detour finds in the scope-bound globals. -/
structure HookScope where
  config : Option InjecteeConfig
  /-- Whether the report queue is bound. -/
  queue : Bool

/-- The login of a route. -/
def InjecteeRoute.creds (route : InjecteeRoute) : Socks5Credentials :=
  ⟨route.username, route.password⟩

/-- The call is reported. -/
def HookScope.reports (scope : HookScope) (route : InjecteeRoute) : Bool := scope.queue && route.log

/-- The route needs to know what kind of socket it is for. -/
def HookScope.asks (scope : HookScope) (route : InjecteeRoute) : Bool :=
  route.proxy.isSome || scope.reports route

/-- The report of a connect call. -/
def HookScope.report (scope : HookScope) (route : InjecteeRoute) (s : SOCKET) (addr : IpAddr)
    (syscall : String) : Detour Unit :=
  if scope.reports route then
    Detour.system (.push (createConnectMessage
      { handle := some s.toUInt32, addr := some addr, proxy := route.proxy,
        syscall := some syscall }))
  else
    return ()

open Detour

/-- `hook_connect_fn::detour`. -/
def hookConnectFn (scope : HookScope) (api : ConnectApi) (s : SOCKET) (name : Sockaddr)
    (namelen : ℤ) : Detour ℤ :=
  let direct := original (.sockaddr api s name namelen)
  match scope.config with
  | none => direct
  | some bound =>
    if isInet name && !isLocalhost name then
      let route := bound.get
      typeGate (scope.asks route) route.proxy.isSome s socketError direct <|
        match toIpAddr name with
        | none => direct
        | some v => do
          scope.report route s v api.syscall
          match route.proxy with
          | none => direct
          | some proxy =>
            let addr ← proxySockaddr proxy
            if sockequal addr name then direct
            else blockingScope s do
              match ← tunnel (.sockaddr api s addr addr.length) s route.creds (.sockaddr name) with
              | .unreachable ret => return ret
              | .refused => failProxiedConnect s socketError
              | .established => return 0
    else direct

/-- The proxied path for one address of a list: the value to return, or on to the next address. -/
def connectByListEntry (route : InjecteeRoute) (s : SOCKET) (localRoom remoteRoom : Option ℕ)
    (addr name : Sockaddr) : Detour (Option ℤ) := do
  match ← tunnel (.sockaddr .connect s addr addr.length) s route.creds (.sockaddr name) with
  | .unreachable ret => return some ret
  | .refused =>
    let _ ← failProxiedConnect s 0
    return none
  | .established =>
    copyOut .remoteAddress remoteRoom addr
    let localName : Bytes ← system (.getsockname s)
    copyOut .localAddress localRoom localName
    return some 1

/-- The loop of `hook_WSAConnectByList::detour`.  The verdict that `ask_type` stores into an empty
optional leaves the optional empty, so the type is asked again at the next address. -/
def connectByListLoop (scope : HookScope) (route : InjecteeRoute) (s : SOCKET)
    (localRoom remoteRoom : Option ℕ) (direct : Detour ℤ) : List Sockaddr → Detour ℤ
  | [] => if route.proxy.isSome then return 0 else direct
  | name :: names =>
    let next := connectByListLoop scope route s localRoom remoteRoom direct names
    if isInet name && !isLocalhost name then
      typeGate (scope.asks route) route.proxy.isSome s 0 direct <|
        match toIpAddr name with
        | none => next
        | some v => do
          scope.report route s v "WSAConnectByList"
          match route.proxy with
          | none => next
          | some proxy =>
            let addr ← proxySockaddr proxy
            if sockequal addr name then next
            else
              match ← blockingScope s
                (connectByListEntry route s localRoom remoteRoom addr name) with
              | some ret => return ret
              | none => next
    else next

/-- `hook_WSAConnectByList::detour`. -/
def hookWSAConnectByList (scope : HookScope) (s : SOCKET) (addresses : List Sockaddr)
    (localRoom remoteRoom : Option ℕ) : Detour ℤ :=
  let direct := original (.byList s addresses)
  match scope.config with
  | none => direct
  | some bound =>
    connectByListLoop scope bound.get s localRoom remoteRoom direct addresses

/-- An ASCII capital as a small letter, any other octet as it is. -/
def foldUpper (c : UInt8) : UInt8 := if 65 ≤ c.toNat ∧ c.toNat ≤ 90 then c + 32 else c

/-- `service_to_port`.  The table compiled in from `services.inc` is a parameter. -/
def serviceToPort (serviceMap : Bytes → Option UInt16) (servicename : Bytes) :
    Detour (Option UInt16) := do
  if !servicename.isEmpty && decide (servicename.length ≤ proxyPortMaxLength) &&
      servicename.all isDigit then
    let port := decimalValue servicename
    if 0 < port ∧ port ≤ 65535 then
      return some (UInt16.ofNat port)
  match serviceMap (servicename.map foldUpper) with
  | some port => return some port
  | none =>
    let entry : Option UInt16 ← system (.getservbyname servicename)
    return entry.filter (· ≠ 0)

/-- `ipaddr_from_name`. -/
def ipaddrFromName (serviceMap : Bytes → Option UInt16) (nodename servicename : Bytes) :
    Detour (Option IpAddr) := do
  match ← serviceToPort serviceMap servicename with
  | none => return none
  | some port =>
    let addr : Option IpAddress ← system (.makeAddress nodename)
    match addr with
    | some addr => return some (fromAsio addr port)
    | none => return some { domain := some nodename, port := some port.toUInt32 }

/-- A name in the encoding of `ipaddr_from_name`. -/
def encodeName : NameText → Detour Bytes
  | .narrow text => return text
  | .wide text => system (.utf8Encode text)

/-- The endpoint that a pair of names stands for, if both were passed. -/
def endpointOfNames (serviceMap : Bytes → Option UInt16) :
    Option NameText → Option NameText → Detour (Option IpAddr)
  | some nodename, some servicename => do
    let nodename ← encodeName nodename
    let servicename ← encodeName servicename
    ipaddrFromName serviceMap nodename servicename
  | _, _ => return none

/-- `hook_WSAConnectByName::detour`. -/
def hookWSAConnectByName (serviceMap : Bytes → Option UInt16) (scope : HookScope)
    (api : ConnectByNameApi) (s : SOCKET) (nodename servicename : Option NameText)
    (localRoom remoteRoom : Option ℕ) : Detour ℤ :=
  let direct := original (.byName api s nodename servicename)
  match scope.config with
  | none => direct
  | some bound =>
    let route := bound.get
    typeGate (scope.asks route) route.proxy.isSome s 0 direct do
      match ← endpointOfNames serviceMap nodename servicename, route.proxy with
      | none, some _ => failProxiedConnect s 0
      | none, none => direct
      | some target, none => do
        scope.report route s target api.syscall
        direct
      | some target, some proxy => do
        scope.report route s target api.syscall
        let addr ← proxySockaddr proxy
        blockingScope s do
          match ← tunnel (.sockaddr .connect s addr addr.length) s route.creds
            (.ipAddr target) with
          | .unreachable ret => return ret
          | .refused => failProxiedConnect s 0
          | .established =>
            let peer : Bytes ← system (.getsockname s)
            copyOut .remoteAddress remoteRoom peer
            let localName : Bytes ← system (.getsockname s)
            copyOut .localAddress localRoom localName
            return 1

/-- What `ConnectEx` does on a tunnel: it sends the caller's first octets, if there are any. -/
def sendFirstOctets (s : SOCKET) (bytesSent : Bool) : Option Bytes → Detour ℤ
  | none => return 1
  | some buf => do
    let len : ℤ ← system (.socket (.send s buf))
    if len = socketError then
      let _ ← system (.shutdown s)
      return 0
    if bytesSent then
      let _ ← system (.storeBytesSent len)
      return 1
    else stop .nullPointer

/-- `hook_ConnectEx::detour`.  `bytesSent` says whether `lpdwBytesSent` was passed. -/
def hookConnectEx (scope : HookScope) (s : SOCKET) (name : Sockaddr) (namelen : ℤ)
    (sendBuffer : Option Bytes) (bytesSent : Bool) : Detour ℤ :=
  let direct := original (.connectEx s name namelen sendBuffer)
  match scope.config with
  | none => direct
  | some bound =>
    if isInet name && !isLocalhost name then
      let route := bound.get
      typeGate (scope.asks route) route.proxy.isSome s 0 direct <|
        match toIpAddr name with
        | none => direct
        | some v => do
          scope.report route s v "ConnectEx"
          match route.proxy with
          | none => direct
          | some proxy =>
            let addr ← proxySockaddr proxy
            if sockequal addr name then direct
            else blockingScope s do
              match ← tunnel (.sockaddr .connect s addr addr.length) s route.creds
                (.sockaddr name) with
              | .unreachable ret => return ret
              | .refused => failProxiedConnect s 0
              | .established => sendFirstOctets s bytesSent sendBuffer
    else direct

/-- A call of one of the hooked APIs. -/
inductive HookedCall where
  | connect (api : ConnectApi) (s : SOCKET) (name : Sockaddr) (namelen : ℤ)
  | connectByList (s : SOCKET) (addresses : List Sockaddr) (localRoom remoteRoom : Option ℕ)
  | connectByName (api : ConnectByNameApi) (s : SOCKET) (nodename servicename : Option NameText)
      (localRoom remoteRoom : Option ℕ)
  | connectEx (s : SOCKET) (name : Sockaddr) (namelen : ℤ) (sendBuffer : Option Bytes)
      (bytesSent : Bool)
  deriving DecidableEq

/-- The detour of a hooked call. -/
def detour (serviceMap : Bytes → Option UInt16) (scope : HookScope) : HookedCall → Detour ℤ
  | .connect api s name namelen => hookConnectFn scope api s name namelen
  | .connectByList s addresses localRoom remoteRoom =>
    hookWSAConnectByList scope s addresses localRoom remoteRoom
  | .connectByName api s nodename servicename localRoom remoteRoom =>
    hookWSAConnectByName serviceMap scope api s nodename servicename localRoom remoteRoom
  | .connectEx s name namelen sendBuffer bytesSent =>
    hookConnectEx scope s name namelen sendBuffer bytesSent

/-! ## The detours with a socket address -/

/-- What the detours with a socket address have in common: they dial the proxy in one way or the
other, and finish the call by how the tunnel ended. -/
def routedConnect (scope : HookScope) (s : SOCKET) (refusal : ℤ) (syscall : String)
    (direct : Detour ℤ) (dial : Sockaddr → ConnectCall) (finish : TunnelOutcome → Detour ℤ)
    (name : Sockaddr) : Detour ℤ :=
  match scope.config with
  | none => direct
  | some bound =>
    if isInet name && !isLocalhost name then
      let route := bound.get
      typeGate (scope.asks route) route.proxy.isSome s refusal direct <|
        match toIpAddr name with
        | none => direct
        | some v => do
          scope.report route s v syscall
          match route.proxy with
          | none => direct
          | some proxy =>
            let addr ← proxySockaddr proxy
            if sockequal addr name then direct
            else blockingScope s do
              let outcome ← tunnel (dial addr) s route.creds (.sockaddr name)
              finish outcome
    else direct

/-- The detour of `connect` and `WSAConnect` in these terms. -/
lemma hookConnectFn_eq (scope : HookScope) (api : ConnectApi) (s : SOCKET) (name : Sockaddr)
    (namelen : ℤ) :
    hookConnectFn scope api s name namelen =
      routedConnect scope s socketError api.syscall (original (.sockaddr api s name namelen))
        (fun addr => .sockaddr api s addr addr.length)
        (fun
          | .unreachable ret => return ret
          | .refused => failProxiedConnect s socketError
          | .established => return 0) name := rfl

/-- The detour of `ConnectEx` in these terms. -/
lemma hookConnectEx_eq (scope : HookScope) (s : SOCKET) (name : Sockaddr) (namelen : ℤ)
    (sendBuffer : Option Bytes) (bytesSent : Bool) :
    hookConnectEx scope s name namelen sendBuffer bytesSent =
      routedConnect scope s 0 "ConnectEx" (original (.connectEx s name namelen sendBuffer))
        (fun addr => .sockaddr .connect s addr addr.length)
        (fun
          | .unreachable ret => return ret
          | .refused => failProxiedConnect s 0
          | .established => sendFirstOctets s bytesSent sendBuffer) name := rfl

end Encapsule
