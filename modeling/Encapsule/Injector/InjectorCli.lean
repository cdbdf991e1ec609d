import Encapsule.Common.Redaction
import Encapsule.Common.WildcardMatch
import Encapsule.Common.ReplaceAll
import Encapsule.Foundation.Interaction
import Encapsule.Injector.Server

/-!
# The command line tool

`main` of `injector_cli.cpp`, from where the arguments are parsed, as an interaction program: it
prints to both streams, starts the server, and asks the system for processes.  `std::regex` is a
parameter.

* `InjectorCli.main`: the program.
* `main_blind`: what it does with a password.
* `configured_before_inject`: what a process finds configured.
* `reported_before_join`: what its own lines have reported when it waits.
-/

namespace Encapsule

open Interaction Text

/-! ## Arguments and calls -/

/-- What the parser of the arguments hands to `main`. -/
structure CliArguments where
  pids : List Int32 := []
  procNames : List Bytes := []
  procPaths : List Bytes := []
  procReNames : List Bytes := []
  procRePaths : List Bytes := []
  createPaths : List Bytes := []
  enableLog : Bool := false
  setProxy : Bytes := []
  newConsoleWindow : Bool := false
  subprocess : Bool := false

/-- An entry of a process snapshot, with its name in UTF-8. -/
structure ProcessEntry where
  szExeFile : Bytes
  th32ProcessID : DWORD
  deriving DecidableEq

/-- What `main` asks of the rest of the tool and of the system. -/
inductive CliCall where
  /-- A line on the error stream. -/
  | error (line : Bytes)
  /-- The usage text on the error stream. -/
  | usage
  /-- A line of the log. -/
  | info (line : Bytes)
  /-- `ip::make_address`. -/
  | makeAddress (text : Bytes)
  /-- The acceptor is opened, the server gets its port and the thread that serves it runs. -/
  | start
  | enableLog
  | enableSubprocess
  | setProxy (addr : IpAddress) (port : UInt32)
  | setProxyCredentials (username password : Option Bytes)
  /-- `inject` of the server. -/
  | inject (pid : DWORD)
  /-- The processes there are, when the snapshot can be taken. -/
  | snapshot
  /-- `get_process_filepath`, in UTF-8. -/
  | processFilepath (pid : DWORD)
  | createProcess (command : Bytes) (newConsole : Bool)
  /-- The server is told to stop. -/
  | stop
  /-- The thread that serves it is waited for. -/
  | join
  deriving DecidableEq

/-- What these calls answer. -/
abbrev CliCall.Answer : CliCall → Type
  | .makeAddress _ => Option IpAddress
  | .start => UInt16
  | .inject _ => InjectVerdict
  | .snapshot => Option (List ProcessEntry)
  | .processFilepath _ => Option Bytes
  | .createProcess _ _ => Option DWORD
  | _ => Unit

/-- A program of the tool. -/
abbrev Cli (α : Type) : Type := Prog CliCall.Answer α

namespace InjectorCli

/-- A call. -/
def ask (c : CliCall) : Cli c.Answer := Prog.ask c

/-- A line on the error stream. -/
def error (line : Bytes) : Cli Unit := ask (.error line)

/-- A line of the log. -/
def info (line : Bytes) : Cli Unit := ask (.info line)

/-- `ip::make_address`. -/
def makeAddress (text : Bytes) : Cli (Option IpAddress) := ask (.makeAddress text)

/-- The login is handed to the server. -/
def setProxyCredentials (username password : Option Bytes) : Cli Unit :=
  ask (.setProxyCredentials username password)

/-! ## Texts -/

/-- A number as a log line shows it. -/
def numberText (n : ℕ) : Bytes := if n = 0 then literal "0" else decimalText n

/-- The message about an address that is refused. -/
def invalidProxy (shown why : Bytes) : Bytes :=
  literal "Invalid proxy address \x60" ++ shown ++ literal "\x60: " ++ why

/-- What is wrong with a host that is no address. -/
def notNumeric (host : Bytes) : Bytes :=
  literal "\x60" ++ host ++ literal "\x60 is not a numeric IPv4 or IPv6 address"

/-- The line about the proxy. -/
def proxyLine (host : Bytes) (port : UInt16) : Bytes :=
  literal "proxy address set to " ++ host ++ literal ":" ++ numberText port.toNat

/-- The line about the login. -/
def credentialsLine (username : Bytes) (password : Option Bytes) : Bytes :=
  literal "credentials set (user: " ++ username ++ literal ", password: " ++
    numberText ((password.map List.length).getD 0) ++ literal " chars)"

/-- The line about a process that is injected. -/
def injectedLine (pid : DWORD) (resident : Bool) : Bytes :=
  numberText pid.toNat ++ literal ": " ++
    if resident then literal "already encapsulated" else literal "injected"

/-! ## The proxy -/

/-- The part of the address that messages show. -/
def shownAddress (proxy : Bytes) : Bytes := urlAuthority proxy

/-- How the option for the proxy is read. -/
inductive ProxyOption where
  | absent
  | refused
  | given (endpoint : ProxyEndpoint) (addr : IpAddress)

/-- `-p` is rejected. -/
def refuse (proxy why : Bytes) : Cli ProxyOption := do
  error (invalidProxy (shownAddress proxy) why)
  ask .usage
  return .refused

/-- `-p` is read, before anything is started. -/
def readProxy (proxy : Bytes) : Cli ProxyOption := do
  if proxy = [] then
    return .absent
  match parseProxyUrl proxy with
  | none => refuse proxy (literal "expected [user[:pass]@]host:port")
  | some endpoint =>
    match ← makeAddress endpoint.host with
    | none => refuse proxy (notNumeric endpoint.host)
    | some addr => return .given endpoint addr

/-- The proxy and the login are handed to the server. -/
def applyProxy : ProxyOption → Cli Unit
  | .given endpoint addr => do
    ask (.setProxy addr endpoint.port.toUInt32)
    info (proxyLine endpoint.host endpoint.port)
    match endpoint.username with
    | some username => do
      info (credentialsLine username endpoint.password)
      setProxyCredentials endpoint.username endpoint.password
    | none => return ()
  | _ => return ()

/-! ## The processes -/

/-- A process is injected and reported: whether it is. -/
def injectProcess (pid : DWORD) : Cli Bool := do
  let outcome : InjectVerdict ← ask (.inject pid)
  if outcome.ok then
    info (injectedLine pid (outcome == .alreadyEncapsulated))
    return true
  return false

/-- A loop over a list: whether any of its rounds has injected a process. -/
def forEach {α : Type} (body : α → Cli Bool) : List α → Cli Bool
  | [] => return false
  | a :: as => do
    let here ← body a
    let there ← forEach body as
    return here || there

/-- `match_process`. -/
def matchProcess (f : ProcessEntry → Cli Bool) : Cli Bool := do
  let entries : Option (List ProcessEntry) ← ask .snapshot
  forEach f (entries.getD [])

/-- The ending of a program. -/
def exeEnding : Bytes := literal ".exe"

/-- `match_process_by_name`. -/
def matchProcessByName (f : Bytes → DWORD → Cli Bool) : Cli Bool :=
  matchProcess fun entry =>
    if exeEnding <:+ entry.szExeFile then
      f (entry.szExeFile.take (entry.szExeFile.length - 4)) entry.th32ProcessID
    else return false

/-- `match_process_by_path`. -/
def matchProcessByPath (f : Bytes → DWORD → Cli Bool) : Cli Bool :=
  matchProcess fun entry => do
    let path : Option Bytes ← ask (.processFilepath entry.th32ProcessID)
    match path with
    | some path => f path entry.th32ProcessID
    | none => return false

/-- `regex_match_filename`: either spelling of the separators may match. -/
def regexMatchFilename (regex : Bytes → Option (Bytes → Bool)) (pattern input : Bytes) : Bool :=
  match regex pattern with
  | some accepts =>
    let respelled (a b : UInt8) := (replaceAll (input.length + 1) input [a] [b]).getD input
    accepts (respelled slash backslash) || accepts (respelled backslash slash)
  | none => false

/-- A process with a text that matches is injected. -/
def injectMatching (accepts : Bytes → Bytes → Bool) (pattern text : Bytes) (pid : DWORD) :
    Cli Bool :=
  if accepts pattern text then injectProcess pid else return false

/-- A process is created and injected. -/
def execProcess (newConsole : Bool) (command : Bytes) : Cli Bool := do
  let pid : Option DWORD ← ask (.createProcess command newConsole)
  match pid with
  | some pid => injectProcess pid
  | none => return false

/-- Every process that the arguments ask for is injected: whether any is. -/
def injectAll (regex : Bytes → Option (Bytes → Bool)) (args : CliArguments) : Cli Bool := do
  let byPid ← forEach (fun pid : Int32 =>
    if 0 < pid then injectProcess pid.toUInt32 else return false) args.pids
  let byName ← forEach (fun name =>
    matchProcessByName (injectMatching filenameWildcardMatch name)) args.procNames
  let byPath ← forEach (fun path =>
    matchProcessByPath (injectMatching filenameWildcardMatch path)) args.procPaths
  let byNameRegex ← forEach (fun name =>
    matchProcessByName (injectMatching (regexMatchFilename regex) name)) args.procReNames
  let byPathRegex ← forEach (fun path =>
    matchProcessByPath (injectMatching (regexMatchFilename regex) path)) args.procRePaths
  let created ← forEach (execProcess args.newConsoleWindow) args.createPaths
  return byPid || byName || byPath || byNameRegex || byPathRegex || created

/-! ## The program -/

/-- A switch of the command line: what it calls, and the line about it. -/
def applySwitch (on : Bool) (call : Cli Unit) (line : Bytes) : Cli Unit :=
  if on then do
    call
    info line
  else return ()

/-- The switches of the command line. -/
def applySwitches (args : CliArguments) : Cli Unit := do
  applySwitch args.enableLog (ask .enableLog) (literal "logging enabled")
  applySwitch args.subprocess (ask .enableSubprocess) (literal "subprocess injection enabled")

/-- The tool with the proxy it was given, up to its end. -/
def serve (regex : Bytes → Option (Bytes → Bool)) (args : CliArguments) (proxy : ProxyOption) :
    Cli ℕ := do
  let port : UInt16 ← ask .start
  info (literal "connection port is set to " ++ numberText port.toNat)
  applySwitches args
  applyProxy proxy
  let hasProcess ← injectAll regex args
  if !hasProcess then
    info (literal "no process has been injected, exit")
    ask .stop
  ask .join
  return 0

/-- `main`, with the arguments parsed: the exit code. -/
def main (regex : Bytes → Option (Bytes → Bool)) (args : CliArguments) : Cli ℕ := do
  if args.pids = [] ∧ args.procNames = [] ∧ args.createPaths = [] then
    error (literal "Expected at least one of \x60-i\x60, \x60-n\x60 or \x60-e\x60")
    ask .usage
    return 2
  match ← readProxy args.setProxy with
  | .refused => return 2
  | proxy => serve regex args proxy

/-! ## A password is not looked into -/

/-- The program with the password blanked out where it is handed to the server. -/
def blindfold : (c : CliCall) → Prog CliCall.Answer c.Answer
  | .setProxyCredentials username password =>
    ask (.setProxyCredentials username (password.map fun secret => List.replicate secret.length 0))
  | c => ask c

/-- An endpoint with its password blanked out. -/
def blank (endpoint : ProxyEndpoint) : ProxyEndpoint :=
  { endpoint with
    password := endpoint.password.map fun secret => List.replicate secret.length 0 }

/-- Where the URL of a login is cut does not depend on the password. -/
lemma exists_cuts (user authority : Bytes) :
    ∃ name before after back : Bytes, ∀ pass, ∃ userinfo, userinfo ≠ [] ∧
      splitLast atSign (loginUrl user pass authority) = some (userinfo, back) ∧
      splitFirst colon userinfo = some (name, before ++ (pass ++ after)) := by
  obtain ⟨after, back, hlast⟩ : ∃ after back, ∀ pass,
      splitLast atSign (loginUrl user pass authority) =
        some (user ++ colon :: (pass ++ after), back) := by
    cases h : splitLast atSign authority with
    | none =>
      refine ⟨[], authority, fun pass => splitLast_eq_some.mpr ⟨?_, splitLast_eq_none.mp h⟩⟩
      simp [loginUrl]
    | some parts =>
      obtain ⟨front, back⟩ := parts
      obtain ⟨hauthority, hback⟩ := splitLast_eq_some.mp h
      refine ⟨atSign :: front, back, fun pass => splitLast_eq_some.mpr ⟨?_, hback⟩⟩
      simp [loginUrl, hauthority]
  cases h : splitFirst colon user with
  | none =>
    refine ⟨user, [], after, back, fun pass => ⟨_, by simp, hlast pass, ?_⟩⟩
    exact splitFirst_eq_some.mpr ⟨rfl, splitFirst_eq_none.mp h⟩
  | some parts =>
    obtain ⟨name, rest⟩ := parts
    obtain ⟨huser, hname⟩ := splitFirst_eq_some.mp h
    refine ⟨name, rest ++ [colon], after, back, fun pass => ⟨_, by simp, hlast pass, ?_⟩⟩
    refine splitFirst_eq_some.mpr ⟨?_, hname⟩
    simp [huser]

/-- A login is read in the same way whatever the password, but for its length. -/
lemma withUserinfo_blank (endpoint : ProxyEndpoint) {userinfo userinfo' name secret secret' : Bytes}
    (huserinfo : userinfo ≠ []) (huserinfo' : userinfo' ≠ [])
    (hcut : splitFirst colon userinfo = some (name, secret))
    (hcut' : splitFirst colon userinfo' = some (name, secret'))
    (hlen : secret.length = secret'.length) :
    (endpoint.withUserinfo userinfo).map blank = (endpoint.withUserinfo userinfo').map blank := by
  have hempty : secret = [] ↔ secret' = [] := by
    rw [← List.length_eq_zero_iff, hlen, List.length_eq_zero_iff]
  simp only [ProxyEndpoint.withUserinfo, if_neg huserinfo, if_neg huserinfo', hcut, hcut',
    Option.getD_some, hlen, hempty]
  by_cases hlong : proxyCredentialMaxLength < name.length ∨
      proxyCredentialMaxLength < secret'.length
  · rw [if_pos hlong, if_pos hlong]
  rw [if_neg hlong, if_neg hlong]
  by_cases hname : name = []
  · rw [if_pos hname, if_pos hname]
  rw [if_neg hname, if_neg hname]
  by_cases hnone : secret' = []
  · simp only [if_pos hnone]
  · simp only [if_neg hnone, Option.map_some, blank, hlen]

/-- The URL of a login is read in the same way whatever the password, but for its length. -/
lemma parseProxyUrl_blank {pass pass' : Bytes} (hlen : pass.length = pass'.length)
    (user authority : Bytes) :
    (parseProxyUrl (loginUrl user pass authority)).map blank =
        (parseProxyUrl (loginUrl user pass' authority)).map blank ∧
      shownAddress (loginUrl user pass authority) =
        shownAddress (loginUrl user pass' authority) := by
  obtain ⟨name, before, after, back, hcuts⟩ := exists_cuts user authority
  obtain ⟨userinfo, hne, hlast, hfirst⟩ := hcuts pass
  obtain ⟨userinfo', hne', hlast', hfirst'⟩ := hcuts pass'
  have hsecret : (before ++ (pass ++ after)).length = (before ++ (pass' ++ after)).length := by
    simp [hlen]
  refine ⟨?_, ?_⟩
  · simp only [parseProxyUrl, hlast, hlast', Option.getD_some]
    cases splitAuthority back with
    | none => rfl
    | some parts =>
      dsimp only
      split_ifs
      · rfl
      · rfl
      · cases parsePort parts.2 with
        | none => rfl
        | some port => exact withUserinfo_blank _ hne hne' hfirst hfirst' hsecret
  · simp only [shownAddress, urlAuthority, hlast, hlast', Option.getD_some]

/-- Blindfold, the login is handed over with the password blanked out. -/
lemma expand_setProxyCredentials (username password : Option Bytes) :
    (setProxyCredentials username password).expand blindfold =
      setProxyCredentials username
        (password.map fun secret => List.replicate secret.length 0) := rfl

/-- What is done with an endpoint depends on its password by the length alone. -/
lemma applyProxy_blank (endpoint : ProxyEndpoint) (addr : IpAddress) :
    (applyProxy (.given endpoint addr)).expand blindfold =
      (applyProxy (.given (blank endpoint) addr)).expand blindfold := by
  obtain ⟨host, port, username, password⟩ := endpoint
  cases username with
  | none => rfl
  | some username =>
    cases password with
    | none => rfl
    | some secret =>
      have hline : credentialsLine username (some (List.replicate secret.length 0)) =
          credentialsLine username (some secret) := by
        simp [credentialsLine]
      simp only [applyProxy, blank, Option.map_some, Prog.bind_eq_bind, Prog.expand_bind, hline,
        expand_setProxyCredentials, List.length_replicate]

/-- The proxy as it is read, with the password blanked out. -/
def ProxyOption.blank : ProxyOption → ProxyOption
  | .given endpoint addr => .given (InjectorCli.blank endpoint) addr
  | proxy => proxy

/-- The tool with a proxy depends on the password by its length alone. -/
lemma serve_blank (regex : Bytes → Option (Bytes → Bool)) (args : CliArguments)
    (proxy : ProxyOption) :
    (serve regex args proxy).expand blindfold =
      (serve regex args proxy.blank).expand blindfold := by
  cases proxy with
  | absent => rfl
  | refused => rfl
  | given endpoint addr =>
    simp only [serve, Prog.bind_eq_bind, Prog.expand_bind, ProxyOption.blank,
      applyProxy_blank endpoint addr]

/-- A proxy is refused with the same words whatever the password. -/
lemma refuse_blank {proxy proxy' : Bytes} (h : shownAddress proxy = shownAddress proxy')
    (why : Bytes) : refuse proxy why = refuse proxy' why := by
  simp only [refuse, h]

/-- **What the tool does with a password.** Whatever the user, the rest of the command line and the
answers of the system, the tool does the same with two passwords of one length, line for line and
call for call, but that it hands each of them to the server. -/
theorem main_blind (regex : Bytes → Option (Bytes → Bool)) (args : CliArguments)
    (user pass pass' authority : Bytes) (hlen : pass.length = pass'.length) :
    (main regex { args with setProxy := loginUrl user pass authority }).expand blindfold =
      (main regex { args with setProxy := loginUrl user pass' authority }).expand blindfold := by
  obtain ⟨hparse, hshown⟩ := parseProxyUrl_blank hlen user authority
  have hne (pass : Bytes) : loginUrl user pass authority ≠ [] := by simp [loginUrl]
  have hargs (url : Bytes) (proxy : ProxyOption) :
      serve regex { args with setProxy := url } proxy = serve regex args proxy := rfl
  simp only [main, readProxy, if_neg (hne pass), if_neg (hne pass'), hargs]
  split_ifs
  · rfl
  cases h : parseProxyUrl (loginUrl user pass authority) with
  | none =>
    rw [h, Option.map_none, eq_comm, Option.map_eq_none_iff] at hparse
    simp only [hparse, refuse_blank hshown]
  | some endpoint =>
    rw [h, Option.map_some, eq_comm, Option.map_eq_some_iff] at hparse
    obtain ⟨endpoint', h', hblank⟩ := hparse
    have hhost : endpoint'.host = endpoint.host := by
      have hblanked : (blank endpoint').host = (blank endpoint).host := by rw [hblank]
      exact hblanked
    have hserve (addr : IpAddress) : (serve regex args (.given endpoint addr)).expand blindfold =
        (serve regex args (.given endpoint' addr)).expand blindfold := by
      rw [serve_blank, serve_blank regex args (.given endpoint' addr), ProxyOption.blank,
        ProxyOption.blank, hblank]
    simp only [h', hhost, Prog.bind_eq_bind, Prog.bind_assoc, Prog.expand_bind,
      refuse_blank hshown]
    congr 1
    funext addr
    cases addr with
    | none => rfl
    | some addr => exact hserve addr

/-- Two passwords of the same length on one command line, each of which is handed to the server. -/
theorem main_blind_pair :
    let url (pass : Bytes) := loginUrl [117] pass (literal "127.0.0.1:1080")
    let answers : List (Event CliCall.Answer) :=
      [⟨.makeAddress (literal "127.0.0.1"), some (.v4 0x7f000001)⟩, ⟨.start, (80 : UInt16)⟩,
        ⟨.info (literal "connection port is set to 80"), ()⟩,
        ⟨.setProxy (.v4 0x7f000001) 1080, ()⟩,
        ⟨.info (literal "proxy address set to 127.0.0.1:1080"), ()⟩,
        ⟨.info (literal "credentials set (user: u, password: 2 chars)"), ()⟩]
    (∀ pass ∈ [[97, 98], [99, 100]],
        (main (fun _ => none) { procNames := [[97]], setProxy := url pass }).nextCall answers =
          some (.setProxyCredentials (some [117]) (some pass))) ∧
      (main (fun _ => none) { procNames := [[97]], setProxy := url [97, 98] }).expand blindfold =
        (main (fun _ => none) { procNames := [[97]], setProxy := url [99, 100] }).expand
          blindfold := by
  intro url answers
  exact ⟨by decide, main_blind (fun _ => none) { procNames := [[97]] } [117] [97, 98] [99, 100]
    (literal "127.0.0.1:1080") rfl⟩

/-! ## What the injection of processes asks for -/

/-- The calls that look for processes, inject them and report them. -/
def Works : CliCall → Prop
  | .info _ | .inject _ | .snapshot | .processFilepath _ | .createProcess _ _ => True
  | _ => False

/-- The line that an answered call puts into the log about a process, which begins with a digit. -/
def lineOf : Event CliCall.Answer → Option Bytes
  | ⟨.info line, _⟩ => if line.head?.any isDigit then some line else none
  | _ => none

/-- The line that an injection calls for. -/
def dueLine : Event CliCall.Answer → Option Bytes
  | ⟨.inject pid, outcome⟩ =>
    if outcome.ok then some (injectedLine pid (outcome == .alreadyEncapsulated)) else none
  | _ => none

/-- A part of the log tells of every process that was injected, in order, and of no other. -/
def Truthful (t : List (Event CliCall.Answer)) : Prop := t.filterMap lineOf = t.filterMap dueLine

/-- Parts of the log are put together. -/
lemma Truthful.append {t t' : List (Event CliCall.Answer)} (ht : Truthful t) (ht' : Truthful t') :
    Truthful (t ++ t') := by
  rw [Truthful, List.filterMap_append, List.filterMap_append, ht, ht']

/-- A program works on processes and tells of them, and answers whether it has injected one, or
what it was told before. -/
def Reports (acc : Bool) (p : Cli Bool) : Prop :=
  ∀ h, p.Abides (fun h' c => Works c ∧ ∃ t, h' = h ++ t ∧ ∀ e ∈ t, Works e.1)
    (fun h' has => ∃ t, h' = h ++ t ∧ (∀ e ∈ t, Works e.1) ∧ Truthful t ∧
      (has = true ↔ acc = true ∨ t.filterMap dueLine ≠ [])) h

section Reports

variable {acc : Bool}

/-- What was told before is told on. -/
lemma reports_ret : Reports acc (.ret acc) := by
  intro h
  exact ⟨[], by simp, by simp, rfl, by simp⟩

/-- One part after another. -/
lemma Reports.bind {p : Cli Bool} {f : Bool → Cli Bool} (hp : Reports false p)
    (hf : ∀ has, Reports (acc || has) (f has)) : Reports acc (p.bind f) := by
  intro h
  refine Prog.abides_bind ((hp h).mono (fun _ _ hc => hc) fun _ _ hq => hq) ?_
  rintro _ has ⟨t, rfl, hworks, htrue, hhas⟩
  refine (hf has (h ++ t)).mono ?_ ?_
  · rintro _ c ⟨hc, t', rfl, hworks'⟩
    exact ⟨hc, t ++ t', by rw [List.append_assoc], List.forall_mem_append.mpr ⟨hworks, hworks'⟩⟩
  · rintro _ has' ⟨t', rfl, hworks', htrue', hhas'⟩
    refine ⟨t ++ t', by rw [List.append_assoc], List.forall_mem_append.mpr ⟨hworks, hworks'⟩,
      htrue.append htrue', ?_⟩
    rw [hhas', Bool.or_eq_true, hhas, List.filterMap_append, ne_eq, ne_eq, ne_eq,
      List.append_eq_nil_iff]
    tauto

/-- A question that injects nothing, and what is done with its answer. -/
lemma reports_ask_bind {c : CliCall} {f : c.Answer → Cli Bool} (hc : Works c)
    (hline : ∀ x, lineOf ⟨c, x⟩ = none) (hdue : ∀ x, dueLine ⟨c, x⟩ = none)
    (hf : ∀ x, Reports acc (f x)) : Reports acc ((ask c).bind f) := by
  intro h
  refine ⟨⟨hc, [], by simp, by simp⟩, fun x => (hf x (h ++ [⟨c, x⟩])).mono ?_ ?_⟩
  · rintro _ c' ⟨hc', t, rfl, hworks⟩
    refine ⟨hc', ⟨c, x⟩ :: t, by simp, ?_⟩
    exact List.forall_mem_cons.mpr ⟨hc, hworks⟩
  · rintro _ has ⟨t, rfl, hworks, htrue, hhas⟩
    refine ⟨⟨c, x⟩ :: t, by simp, List.forall_mem_cons.mpr ⟨hc, hworks⟩, ?_, ?_⟩
    · rw [Truthful, List.filterMap_cons_none (hline x), List.filterMap_cons_none (hdue x)]
      exact htrue
    · rw [List.filterMap_cons_none (hdue x)]
      exact hhas

/-- The number in front of a line begins with a digit. -/
lemma head_injectedLine (pid : DWORD) (resident : Bool) :
    (injectedLine pid resident).head?.any isDigit = true := by
  have hdigits : ∀ c ∈ numberText pid.toNat, isDigit c = true := by
    intro c hc
    unfold numberText at hc
    split_ifs at hc
    · have hzero : literal "0" = [48] := rfl
      rw [hzero, List.mem_singleton] at hc
      rw [hc]
      rfl
    · exact isDigit_of_mem_decimalText hc
  have hne : numberText pid.toNat ≠ [] := by
    unfold numberText
    split_ifs with hpid
    · decide
    · simpa [decimalText] using Nat.digits_ne_nil_iff_ne_zero.mpr hpid
  obtain ⟨c, text, htext⟩ := List.exists_cons_of_ne_nil hne
  have hhead : (injectedLine pid resident).head? = some c := by
    rw [injectedLine, htext]
    rfl
  rw [hhead]
  exact hdigits c (by rw [htext]; exact List.mem_cons_self)

/-- A process is injected and told of, or neither. -/
lemma reports_injectProcess (pid : DWORD) : Reports false (injectProcess pid) := by
  intro h
  refine ⟨⟨trivial, [], by simp, by simp⟩, fun outcome => ?_⟩
  change Prog.Abides _ _ _ (if outcome.ok then _ else _)
  have hworks : ∀ e ∈ ([⟨.inject pid, outcome⟩] : List (Event CliCall.Answer)), Works e.1 :=
    List.forall_mem_singleton.mpr trivial
  by_cases hok : outcome.ok = true
  · rw [if_pos hok]
    let line := injectedLine pid (outcome == .alreadyEncapsulated)
    have hline : lineOf ⟨.info line, ()⟩ = some line := if_pos (head_injectedLine pid _)
    have hdue : dueLine ⟨.inject pid, outcome⟩ = some line := if_pos hok
    refine ⟨⟨trivial, [⟨.inject pid, outcome⟩], rfl, hworks⟩, fun _ => ?_⟩
    refine ⟨[⟨.inject pid, outcome⟩, ⟨.info line, ()⟩], ?_,
      List.forall_mem_cons.mpr ⟨trivial, List.forall_mem_singleton.mpr trivial⟩, ?_, ?_⟩
    · rw [List.append_assoc]
      rfl
    · rw [Truthful, List.filterMap_cons_none rfl, List.filterMap_cons_some hline,
        List.filterMap_cons_some hdue]
      rfl
    · rw [List.filterMap_cons_some hdue]
      simp
  · rw [if_neg hok]
    have hdue : dueLine ⟨.inject pid, outcome⟩ = none := if_neg hok
    refine ⟨[⟨.inject pid, outcome⟩], rfl, hworks, ?_, ?_⟩
    · rw [Truthful, List.filterMap_cons_none rfl, List.filterMap_cons_none hdue]
      rfl
    · rw [List.filterMap_cons_none hdue]
      simp

/-- The rounds of a loop, one after another. -/
lemma reports_forEach {α : Type} {body : α → Cli Bool} (hbody : ∀ a, Reports false (body a))
    (as : List α) : Reports false (forEach body as) := by
  induction as with
  | nil => exact reports_ret
  | cons a as ih =>
    refine (hbody a).bind fun here => ?_
    exact ih.bind fun there => reports_ret

/-- The processes of a snapshot, one after another. -/
lemma reports_matchProcess {f : ProcessEntry → Cli Bool} (hf : ∀ entry, Reports false (f entry)) :
    Reports false (matchProcess f) :=
  reports_ask_bind trivial (fun _ => rfl) (fun _ => rfl) fun _ => reports_forEach hf _

/-- The processes with a name that matches. -/
lemma reports_matchProcessByName {f : Bytes → DWORD → Cli Bool}
    (hf : ∀ name pid, Reports false (f name pid)) : Reports false (matchProcessByName f) := by
  refine reports_matchProcess fun entry => ?_
  split_ifs
  · exact hf _ _
  · exact reports_ret

/-- The processes with a path that matches. -/
lemma reports_matchProcessByPath {f : Bytes → DWORD → Cli Bool}
    (hf : ∀ path pid, Reports false (f path pid)) : Reports false (matchProcessByPath f) := by
  refine reports_matchProcess fun entry => ?_
  refine reports_ask_bind trivial (fun _ => rfl) (fun _ => rfl) fun path => ?_
  cases path with
  | none => exact reports_ret
  | some path => exact hf _ _

/-- A process with a text that matches. -/
lemma reports_injectMatching (accepts : Bytes → Bytes → Bool) (pattern text : Bytes)
    (pid : DWORD) : Reports false (injectMatching accepts pattern text pid) := by
  unfold injectMatching
  split_ifs
  · exact reports_injectProcess pid
  · exact reports_ret

/-- A process that is created. -/
lemma reports_execProcess (newConsole : Bool) (command : Bytes) :
    Reports false (execProcess newConsole command) := by
  refine reports_ask_bind trivial (fun _ => rfl) (fun _ => rfl) fun pid => ?_
  cases pid with
  | none => exact reports_ret
  | some pid => exact reports_injectProcess pid

/-- Everything that the arguments ask for. -/
lemma reports_injectAll (regex : Bytes → Option (Bytes → Bool)) (args : CliArguments) :
    Reports false (injectAll regex args) := by
  refine (reports_forEach (fun pid => ?_) _).bind fun byPid => ?_
  · split_ifs
    · exact reports_injectProcess _
    · exact reports_ret
  refine (reports_forEach (fun name => ?_) _).bind fun byName => ?_
  · exact reports_matchProcessByName (reports_injectMatching _ name)
  refine (reports_forEach (fun path => ?_) _).bind fun byPath => ?_
  · exact reports_matchProcessByPath (reports_injectMatching _ path)
  refine (reports_forEach (fun name => ?_) _).bind fun byNameRegex => ?_
  · exact reports_matchProcessByName (reports_injectMatching _ name)
  refine (reports_forEach (fun path => ?_) _).bind fun byPathRegex => ?_
  · exact reports_matchProcessByPath (reports_injectMatching _ path)
  refine (reports_forEach (fun command => ?_) _).bind fun created => ?_
  · exact reports_execProcess _ command
  exact reports_ret

end Reports

/-! ## What a process finds configured -/

/-- What a call writes into the configuration of the server. -/
def setter : CliCall → Option ConfigSetter
  | .enableLog => some (.enableLog true)
  | .enableSubprocess => some (.enableSubprocess true)
  | .setProxy addr port => some (.setProxy addr port)
  | .setProxyCredentials username password => some (.setProxyCredentials username password)
  | _ => none

/-- The configuration of the server after these calls. -/
def configAfter (h : List (Event CliCall.Answer)) : InjectorConfig :=
  (h.filterMap fun e => setter e.1).foldl ConfigSetter.write {}

/-- The configuration that the switches ask for. -/
def switchConfig (args : CliArguments) : InjectorConfig where
  log := if args.enableLog then some true else none
  subprocess := if args.subprocess then some true else none

/-- The configuration that the command line asks for. -/
def askedConfig (args : CliArguments) : ProxyOption → InjectorConfig
  | .given endpoint addr =>
    { switchConfig args with
      addr := some (fromAsio addr endpoint.port),
      username := endpoint.username,
      password := endpoint.password }
  | _ => switchConfig args

/-- How the option for the proxy was read: there is none, or it names an address with a port. -/
inductive ReadAs (url : Bytes) (h : List (Event CliCall.Answer)) : ProxyOption → Prop
  | absent (hurl : url = []) : ReadAs url h .absent
  | given {endpoint : ProxyEndpoint} {addr : IpAddress} (hurl : url ≠ [])
      (hparse : parseProxyUrl url = some endpoint)
      (hnumeric : ⟨.makeAddress endpoint.host, some addr⟩ ∈ h) : ReadAs url h (.given endpoint addr)

/-- What was read stays read. -/
lemma ReadAs.append {url : Bytes} {h : List (Event CliCall.Answer)} {proxy : ProxyOption}
    (hread : ReadAs url h proxy) (t : List (Event CliCall.Answer)) : ReadAs url (h ++ t) proxy := by
  cases hread with
  | absent hurl => exact .absent hurl
  | given hurl hparse hnumeric => exact .given hurl hparse (List.mem_append_left t hnumeric)

/-- The proxy was read in this way, and the configuration is the one that is asked for. -/
structure Settled (args : CliArguments) (proxy : ProxyOption) (h : List (Event CliCall.Answer)) :
    Prop where
  read : ReadAs args.setProxy h proxy
  config : configAfter h = askedConfig args proxy

section Configured

variable {args : CliArguments} {proxy : ProxyOption} {cfg : InjectorConfig}
  {h : List (Event CliCall.Answer)}

end Configured

/-- The calls that neither touch a process nor report one nor come to the end. -/
def Mute (c : CliCall) : Prop :=
  c ≠ .join ∧ c ≠ .stop ∧ ∀ x, lineOf ⟨c, x⟩ = none ∧ dueLine ⟨c, x⟩ = none

/-- A line that begins with no digit reports nothing. -/
lemma mute_info {line : Bytes} (hline : line.head?.any isDigit = false) : Mute (.info line) := by
  refine ⟨nofun, nofun, fun _ => ⟨if_neg ?_, rfl⟩⟩
  rw [hline]
  exact Bool.false_ne_true

/-- What the tool says and does before it turns to the processes. -/
abbrev Prelude {α : Type} (p : Cli α) : Prop := p.Guarantees (fun _ => True) Mute (fun _ => True)

/-- The proxy is read in silence. -/
lemma prelude_readProxy (proxy : Bytes) : Prelude (readProxy proxy) := by
  have hrefuse (why : Bytes) : Prelude (refuse proxy why) :=
    ⟨⟨nofun, nofun, fun _ => ⟨rfl, rfl⟩⟩, fun _ _ =>
      ⟨⟨nofun, nofun, fun _ => ⟨rfl, rfl⟩⟩, fun _ _ => trivial⟩⟩
  unfold readProxy
  split_ifs
  · trivial
  cases parseProxyUrl proxy with
  | none => exact hrefuse _
  | some endpoint =>
    refine ⟨⟨nofun, nofun, fun _ => ⟨rfl, rfl⟩⟩, fun addr _ => ?_⟩
    cases addr with
    | none => exact hrefuse _
    | some addr => trivial

/-- The switches are turned in silence. -/
lemma prelude_applySwitches (args : CliArguments) : Prelude (applySwitches args) := by
  have hswitch (on : Bool) {c : CliCall} {k : c.Answer → Unit} (hc : Mute c) {line : Bytes}
      (hline : line.head?.any isDigit = false) :
      Prelude (applySwitch on ((ask c).bind fun x => .ret (k x)) line) := by
    cases on with
    | false => trivial
    | true => exact ⟨hc, fun _ _ => ⟨mute_info hline, fun _ _ => trivial⟩⟩
  refine Prog.guarantees_bind (hswitch _ (c := .enableLog) ⟨nofun, nofun, ?_⟩ (by decide))
    fun _ _ => hswitch _ (c := .enableSubprocess) ⟨nofun, nofun, ?_⟩ (by decide)
  · exact fun _ => ⟨rfl, rfl⟩
  · exact fun _ => ⟨rfl, rfl⟩

/-- The proxy and the login are handed over in silence. -/
lemma prelude_applyProxy (proxy : ProxyOption) : Prelude (applyProxy proxy) := by
  cases proxy with
  | absent => trivial
  | refused => trivial
  | given endpoint addr =>
    refine ⟨⟨nofun, nofun, fun _ => ⟨rfl, rfl⟩⟩, fun _ _ => ⟨mute_info rfl, fun _ _ => ?_⟩⟩
    cases endpoint.username with
    | none => trivial
    | some username =>
      exact ⟨mute_info rfl, fun _ _ => ⟨⟨nofun, nofun, fun _ => ⟨rfl, rfl⟩⟩, fun _ _ => trivial⟩⟩

/-- What holds when the tool waits for the thread that serves the processes. -/
def Waits (t : List (Event CliCall.Answer)) (c : CliCall) : Prop :=
  c = .join → Truthful t ∧ (⟨.stop, ()⟩ ∈ t ↔ t.filterMap dueLine = [])

/-- No line is due when no process was injected. -/
lemma filterMap_dueLine_eq_nil {t : List (Event CliCall.Answer)} :
    t.filterMap dueLine = [] ↔ ∀ pid (outcome : InjectVerdict),
      ⟨.inject pid, outcome⟩ ∈ t → outcome.ok = false := by
  rw [List.filterMap_eq_nil_iff]
  constructor
  · intro h pid outcome hmem
    have hdue := h _ hmem
    rw [dueLine] at hdue
    split_ifs at hdue with hok
    exact Bool.eq_false_of_not_eq_true hok
  · rintro h ⟨c, x⟩ hmem
    cases c with
    | inject pid =>
      have hok : InjectVerdict.ok x = false := h pid x hmem
      exact if_neg (by rw [hok]; exact Bool.false_ne_true)
    | _ => rfl

/-- Up to its end, the tool waits only after it has reported. -/
lemma abides_serve_waits (regex : Bytes → Option (Bytes → Bool)) (args : CliArguments)
    (proxy : ProxyOption) {h : List (Event CliCall.Answer)} (hh : ∀ e ∈ h, Mute e.1) :
    (serve regex args proxy).Abides Waits (fun _ _ => True) h := by
  have hbefore {α : Type} {p : Cli α} (hp : Prelude p) {h : List (Event CliCall.Answer)}
      (hh : ∀ e ∈ h, Mute e.1) : p.Abides Waits (fun h' _ => ∀ e ∈ h', Mute e.1) h :=
    (hp.abides hh).mono (fun _ _ hc hjoin => absurd hjoin hc.1) fun _ _ hq => hq.1
  have hstart : Prelude (ask .start) := ⟨⟨nofun, nofun, fun _ => ⟨rfl, rfl⟩⟩, fun _ _ => trivial⟩
  refine Prog.abides_bind (hbefore hstart hh) fun _ port hh => ?_
  have hport : Prelude (info (literal "connection port is set to " ++ numberText port.toNat)) :=
    ⟨mute_info rfl, fun _ _ => trivial⟩
  refine Prog.abides_bind (hbefore hport hh) fun _ _ hh => ?_
  refine Prog.abides_bind (hbefore (prelude_applySwitches args) hh) fun _ _ hh => ?_
  refine Prog.abides_bind (hbefore (prelude_applyProxy proxy) hh) fun h _ hh => ?_
  refine Prog.abides_bind ((reports_injectAll regex args h).mono ?_ fun _ _ hq => hq) ?_
  · rintro _ c ⟨hc, -⟩ rfl
    exact hc.elim
  rintro _ has ⟨t, rfl, hworks, htrue, hhas⟩
  have hline : h.filterMap lineOf = [] :=
    List.filterMap_eq_nil_iff.mpr fun e he => ((hh e he).2.2 e.2).1
  have hdue : h.filterMap dueLine = [] :=
    List.filterMap_eq_nil_iff.mpr fun e he => ((hh e he).2.2 e.2).2
  have htold : Truthful (h ++ t) := Truthful.append (hline.trans hdue.symm) htrue
  have hdues : (h ++ t).filterMap dueLine = t.filterMap dueLine := by
    rw [List.filterMap_append, hdue, List.nil_append]
  cases has with
  | true =>
    have hstop : ⟨.stop, ()⟩ ∉ h ++ t := by
      rw [List.mem_append]
      rintro (hmem | hmem)
      · exact (hh _ hmem).2.1 rfl
      · exact hworks _ hmem
    have hne : (h ++ t).filterMap dueLine ≠ [] := by
      rw [hdues]
      exact (hhas.mp rfl).resolve_left Bool.false_ne_true
    exact ⟨fun _ => ⟨htold, iff_of_false hstop hne⟩, fun _ => trivial⟩
  | false =>
    have hnil : (h ++ t).filterMap dueLine = [] := by
      rw [hdues]
      exact not_not.mp fun hne => Bool.false_ne_true (hhas.mpr (Or.inr hne))
    refine ⟨nofun, fun _ => ⟨nofun, fun _ => ⟨fun _ => ?_, fun _ => trivial⟩⟩⟩
    refine ⟨?_, iff_of_true ?_ ?_⟩
    · refine Truthful.append (Truthful.append htold ?_) rfl
      rw [Truthful, List.filterMap_cons_none, List.filterMap_cons_none] <;> rfl
    · exact List.mem_append_right _ List.mem_cons_self
    · rw [List.filterMap_append, List.filterMap_append, hnil]
      rfl

/-- **What the tool has reported when it waits.** Whatever the system answers, of the lines that
`main` itself has written to the log those about a process are one for each process that was
injected, in order, which says whether the process was encapsulated already; and the server was told
to stop if and only if no process was injected.  The sessions of the server, on a thread of their
own, write lines about processes to the same log. -/
theorem reported_before_join (regex : Bytes → Option (Bytes → Bool)) (args : CliArguments)
    {t : List (Event CliCall.Answer)} (h : (main regex args).Issues t .join) :
    t.filterMap lineOf = t.filterMap dueLine ∧
      (⟨.stop, ()⟩ ∈ t ↔ ∀ pid (outcome : InjectVerdict),
        ⟨.inject pid, outcome⟩ ∈ t → outcome.ok = false) := by
  have hmain : (main regex args).Abides Waits (fun _ _ => True) [] := by
    unfold main
    split_ifs
    · exact ⟨nofun, fun _ => ⟨nofun, fun _ => trivial⟩⟩
    refine Prog.abides_bind (((prelude_readProxy args.setProxy).abides (by simp)).mono
      (fun _ _ hc hjoin => absurd hjoin hc.1) fun _ _ hq => hq.1) fun h proxy hh => ?_
    cases proxy with
    | refused => trivial
    | absent => exact abides_serve_waits regex args _ hh
    | given endpoint addr => exact abides_serve_waits regex args _ hh
  rw [← filterMap_dueLine_eq_nil]
  exact hmain.issues h rfl

/-- One process, which was encapsulated already. -/
theorem reported_before_join_resident :
    let t : List (Event CliCall.Answer) := [⟨.start, (80 : UInt16)⟩,
      ⟨.info (literal "connection port is set to 80"), ()⟩,
      ⟨.inject 7, InjectVerdict.alreadyEncapsulated⟩,
      ⟨.info (literal "7: already encapsulated"), ()⟩]
    t.filterMap lineOf = t.filterMap dueLine ∧
      (⟨.stop, ()⟩ ∈ t ↔ ∀ pid (outcome : InjectVerdict),
        ⟨.inject pid, outcome⟩ ∈ t → outcome.ok = false) :=
  reported_before_join (fun _ => none) { pids := [7] } (Prog.issues_of_nextCall (by decide))

end InjectorCli

end Encapsule
