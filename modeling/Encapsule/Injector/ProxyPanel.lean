import Encapsule.Common.ProxyUrl
import Encapsule.Foundation.Mealy
import Encapsule.Injector.Server

/-!
# The proxy panel

The click handler of the proxy toggle of `injector_gui.hpp`: switched on, it checks the four boxes,
and an accepted click sets the proxy and then the credentials; switched off, it clears the proxy
alone.  The two calls of an accepted click take the lock of the configuration one after the other,
and each broadcasts the configuration that it leaves.

* `shown_iff`: when the configuration shows the boxes after an accepted click.
* `paired_iff`: when no broadcast pairs a proxy with the credentials of an earlier click.

The parser of asio is a parameter.  The handler also has a `catch` for whatever the checks do not
foresee, such as an allocation that fails; it is left out.
-/

namespace Encapsule

/-! ## The handler -/

/-- `proxy_host_max_length`. -/
def proxyHostMaxLength : ℕ := 255

/-- The texts of the four boxes. -/
structure ProxyBoxes where
  addr : Bytes
  port : Bytes
  user : Bytes
  pass : Bytes
  deriving DecidableEq

/-- A click on the proxy toggle. -/
inductive ProxyClick where
  | on (boxes : ProxyBoxes)
  | off
  deriving DecidableEq

/-- `bad_port`. -/
def badPort : String := "the port must be a number from 1 to 65535"

/-- The address box without the brackets of an IPv6 address. -/
def stripBrackets (addr : Bytes) : Bytes :=
  if addr.head? = some openBracket ∧ 2 < addr.length ∧ addr.getLast? = some closeBracket then
    addr.tail.dropLast
  else addr

/-- The credentials that go with the address: those of the boxes, or none without a username. -/
def credentialsCall (user pass : Bytes) : ConfigSetter :=
  if user = [] then .clearProxyCredentials
  else if pass = [] then .setProxyCredentials (some user) none
  else .setProxyCredentials (some user) (some pass)

section

variable (makeAddress : Bytes → Option IpAddress)

/-- The checks of the boxes: a refusal, or the calls of the server. -/
def ProxyBoxes.check (boxes : ProxyBoxes) : Except String (List ConfigSetter) :=
  let addr := trimCopy boxes.addr
  let port := trimCopy boxes.port
  let user := trimCopy boxes.user
  let pass := boxes.pass
  if proxyCredentialMaxLength < user.length ∨ proxyCredentialMaxLength < pass.length then
    .error ("username and password must each be at most " ++ toString proxyCredentialMaxLength ++
      " characters")
  else if addr = [] ∨ port = [] then .error "an IP address and a port are both required"
  else if proxyPortMaxLength < port.length then .error badPort
  else if !port.all isDigit then .error badPort
  else
    let portValue := decimalValue port
    if portValue = 0 ∨ 65535 < portValue then .error badPort
    else if proxyHostMaxLength < addr.length then
      .error "the proxy address is too long to be an IP address"
    else
      match makeAddress (stripBrackets addr) with
      | none =>
        .error ("the proxy address must be a numeric IPv4 or IPv6 address; " ++
          "names are not resolved here")
      | some ip => .ok [.setProxy ip (UInt32.ofNat portValue), credentialsCall user pass]

/-- `proxy_toggle->on_click`, up to the calls of the server. -/
def ProxyClick.check : ProxyClick → Except String (List ConfigSetter)
  | .on boxes => boxes.check makeAddress
  | .off => .ok [.clearProxy]

/-- What a click comes to: the line that refuses it, or the configurations it broadcasts. -/
structure PanelOutcome where
  refusal : Option String := none
  broadcasts : List InjectorConfig := []
  deriving DecidableEq

/-- The configurations that calls of the server broadcast, one for each call. -/
def broadcasts (cfg : InjectorConfig) : List ConfigSetter → List InjectorConfig
  | [] => []
  | call :: calls => call.write cfg :: broadcasts (call.write cfg) calls

/-- A click: the calls are made one after the other, or the configuration is left alone. -/
def clicked (cfg : InjectorConfig) (click : ProxyClick) : InjectorConfig × PanelOutcome :=
  match click.check makeAddress with
  | .error why => (cfg, { refusal := some why })
  | .ok calls =>
    (calls.foldl ConfigSetter.write cfg, { broadcasts := Encapsule.broadcasts cfg calls })

/-- The address that accepted boxes enter. -/
def ProxyBoxes.entered (boxes : ProxyBoxes) : Option IpAddr :=
  match boxes.check makeAddress with
  | .ok (.setProxy ip port :: _) => some (fromAsio ip port.toUInt16)
  | _ => none

/-! ## Accepted clicks -/

variable {makeAddress} {boxes : ProxyBoxes} {calls : List ConfigSetter} {cfg : InjectorConfig}

/-- Boxes are refused, or set the proxy and then the credentials. -/
lemma ProxyBoxes.check_cases (makeAddress : Bytes → Option IpAddress) (boxes : ProxyBoxes) :
    (∃ why, boxes.check makeAddress = .error why) ∨
      ∃ ip port, boxes.check makeAddress =
        .ok [.setProxy ip port, credentialsCall (trimCopy boxes.user) boxes.pass] := by
  unfold ProxyBoxes.check
  dsimp only
  split_ifs
  · exact Or.inl ⟨_, rfl⟩
  · exact Or.inl ⟨_, rfl⟩
  · exact Or.inl ⟨_, rfl⟩
  · exact Or.inl ⟨_, rfl⟩
  · exact Or.inl ⟨_, rfl⟩
  · exact Or.inl ⟨_, rfl⟩
  · cases makeAddress (stripBrackets (trimCopy boxes.addr)) with
    | none => exact Or.inl ⟨_, rfl⟩
    | some ip => exact Or.inr ⟨ip, _, rfl⟩

/-- Accepted boxes set the proxy and then the credentials. -/
lemma ProxyBoxes.check_eq_ok (h : boxes.check makeAddress = .ok calls) :
    ∃ ip port, boxes.entered makeAddress = some (fromAsio ip port.toUInt16) ∧
      calls = [.setProxy ip port, credentialsCall (trimCopy boxes.user) boxes.pass] := by
  rcases boxes.check_cases makeAddress with ⟨why, hcheck⟩ | ⟨ip, port, hcheck⟩
  · rw [h] at hcheck
    cases hcheck
  · refine ⟨ip, port, by rw [ProxyBoxes.entered, hcheck], ?_⟩
    rw [h] at hcheck
    cases hcheck
    rfl

/-- A refused click leaves the configuration alone and broadcasts nothing. -/
lemma clicked_of_error (click : ProxyClick) {why : String}
    (h : click.check makeAddress = .error why) (cfg : InjectorConfig) :
    clicked makeAddress cfg click = (cfg, { refusal := some why }) := by
  rw [clicked, h]

/-- A click that is not refused. -/
lemma clicked_of_ok (click : ProxyClick) (h : click.check makeAddress = .ok calls)
    (cfg : InjectorConfig) : clicked makeAddress cfg click =
      (calls.foldl ConfigSetter.write cfg, { broadcasts := broadcasts cfg calls }) := by
  rw [clicked, h]

/-! ## What the configuration shows -/

/-- The username that the boxes ask for. -/
def ProxyBoxes.username (boxes : ProxyBoxes) : Option Bytes :=
  if trimCopy boxes.user = [] then none else some (trimCopy boxes.user)

/-- The password that the boxes ask for: none without a username. -/
def ProxyBoxes.password (boxes : ProxyBoxes) : Option Bytes :=
  if trimCopy boxes.user = [] ∨ boxes.pass = [] then none else some boxes.pass

/-- The username that a click leaves, where it decides on one. -/
lemma username_credentialsCall (cfg : InjectorConfig) :
    ((credentialsCall (trimCopy boxes.user) boxes.pass).write cfg).username = boxes.username := by
  unfold credentialsCall ProxyBoxes.username
  split_ifs <;> rfl

/-- The password that a click leaves: an empty box next to a username leaves the old one. -/
lemma password_credentialsCall (cfg : InjectorConfig) :
    ((credentialsCall (trimCopy boxes.user) boxes.pass).write cfg).password =
      if trimCopy boxes.user ≠ [] ∧ boxes.pass = [] then cfg.password else boxes.password := by
  unfold credentialsCall ProxyBoxes.password
  by_cases huser : trimCopy boxes.user = []
  · simp [huser, ConfigSetter.write]
  · by_cases hpass : boxes.pass = []
    · simp [huser, hpass, ConfigSetter.write]
    · simp [huser, hpass, ConfigSetter.write]

/-- What a click writes to the username, if anything. -/
def ProxyClick.usernameWritten (makeAddress : Bytes → Option IpAddress) :
    ProxyClick → Option (Option Bytes)
  | .on boxes =>
    match boxes.check makeAddress with
    | .error _ => none
    | .ok _ => some boxes.username
  | .off => none

/-- What a click writes to the password, if anything. -/
def ProxyClick.passwordWritten (makeAddress : Bytes → Option IpAddress) :
    ProxyClick → Option (Option Bytes)
  | .on boxes =>
    match boxes.check makeAddress with
    | .error _ => none
    | .ok _ =>
      if trimCopy boxes.user ≠ [] ∧ boxes.pass = [] then none else some boxes.password
  | .off => none

/-- The credentials after a click. -/
lemma credentials_clicked (makeAddress : Bytes → Option IpAddress) (cfg : InjectorConfig)
    (click : ProxyClick) :
    (clicked makeAddress cfg click).1.username =
        (click.usernameWritten makeAddress).getD cfg.username ∧
      (clicked makeAddress cfg click).1.password =
        (click.passwordWritten makeAddress).getD cfg.password := by
  cases click with
  | off => exact ⟨rfl, rfl⟩
  | on boxes =>
    rw [ProxyClick.usernameWritten, ProxyClick.passwordWritten]
    cases hcheck : boxes.check makeAddress with
    | error why =>
      rw [clicked_of_error (.on boxes) hcheck]
      exact ⟨rfl, rfl⟩
    | ok calls =>
      obtain ⟨ip, port, -, rfl⟩ := ProxyBoxes.check_eq_ok hcheck
      rw [clicked_of_ok (.on boxes) hcheck]
      constructor
      · exact username_credentialsCall _
      · change ((credentialsCall _ _).write _).password = _
        rw [password_credentialsCall]
        split_ifs <;> rfl

/-- The username that the clicks of a history wrote last, if any did. -/
def lastUsername (makeAddress : Bytes → Option IpAddress) (history : List ProxyClick) :
    Option (Option Bytes) :=
  (history.filterMap (ProxyClick.usernameWritten makeAddress)).getLast?

/-- The password that the clicks of a history wrote last, if any did. -/
def lastPassword (makeAddress : Bytes → Option IpAddress) (history : List ProxyClick) :
    Option (Option Bytes) :=
  (history.filterMap (ProxyClick.passwordWritten makeAddress)).getLast?

/-- The credentials that a history of clicks leaves are the last that were written. -/
lemma credentials_run (makeAddress : Bytes → Option IpAddress) (cfg : InjectorConfig)
    (history : List ProxyClick) :
    (Mealy.run (clicked makeAddress) cfg history).username =
        (lastUsername makeAddress history).getD cfg.username ∧
      (Mealy.run (clicked makeAddress) cfg history).password =
        (lastPassword makeAddress history).getD cfg.password :=
  ⟨Mealy.run_last_written (fun cfg click => (credentials_clicked makeAddress cfg click).1) cfg
      history,
    Mealy.run_last_written (fun cfg click => (credentials_clicked makeAddress cfg click).2) cfg
      history⟩

/-- **What the panel shows and what is used.** After an accepted click the configuration holds the
username and the password of the boxes exactly where the username box is empty, or the password box
is not, or the click that wrote the password last, if there is one, removed it. -/
theorem shown_iff (makeAddress : Bytes → Option IpAddress) (history : List ProxyClick)
    (boxes : ProxyBoxes) (calls : List ConfigSetter)
    (haccepted : boxes.check makeAddress = .ok calls) :
    let cfg := Mealy.run (clicked makeAddress) {} (history ++ [.on boxes])
    cfg.username = boxes.username ∧ cfg.password = boxes.password ↔
      trimCopy boxes.user = [] ∨ boxes.pass ≠ [] ∨
        ∀ pass, lastPassword makeAddress history ≠ some (some pass) := by
  intro cfg
  obtain ⟨ip, port, -, rfl⟩ := ProxyBoxes.check_eq_ok haccepted
  have hcfg : cfg = (credentialsCall (trimCopy boxes.user) boxes.pass).write
      ((ConfigSetter.setProxy ip port).write (Mealy.run (clicked makeAddress) {} history)) := by
    change Mealy.run _ _ _ = _
    rw [Mealy.run_concat, clicked_of_ok (.on boxes) haccepted]
    rfl
  have hstored := (credentials_run makeAddress {} history).2
  rw [hcfg, username_credentialsCall, password_credentialsCall]
  change _ ∧ (if _ then (Mealy.run (clicked makeAddress) {} history).password else _) = _ ↔ _
  rw [hstored]
  by_cases huser : trimCopy boxes.user = []
  · simp [huser]
  · by_cases hpass : boxes.pass = []
    · have hshown : boxes.password = none := by simp [ProxyBoxes.password, hpass]
      rw [if_pos ⟨huser, hpass⟩, hshown]
      generalize lastPassword makeAddress history = last
      rcases last with _ | _ | pass
      · simp
      · simp
      · simp [huser, hpass]
    · simp [hpass]

/-! ## What is broadcast -/

/-- The credentials of a configuration, as far as it has any, stand in the boxes. -/
def Agrees (cfg : InjectorConfig) (boxes : ProxyBoxes) : Prop :=
  (∀ user, cfg.username = some user → trimCopy boxes.user = user) ∧
    ∀ pass, cfg.password = some pass → boxes.pass = pass

/-- Every configuration that a click broadcasts with a proxy has the proxy and the credentials of
its boxes. -/
def Paired (makeAddress : Bytes → Option IpAddress) (cfg : InjectorConfig) (click : ProxyClick) :
    Prop :=
  ∀ cfg' ∈ (clicked makeAddress cfg click).2.broadcasts, ∀ a, cfg'.addr = some a →
    ∃ boxes, click = .on boxes ∧ boxes.entered makeAddress = some a ∧ Agrees cfg' boxes

/-- An accepted click finds no credentials stored but those of its boxes. -/
def FindsOwn (makeAddress : Bytes → Option IpAddress) (cfg : InjectorConfig) (click : ProxyClick) :
    Prop :=
  ∀ boxes calls, click = .on boxes → boxes.check makeAddress = .ok calls → Agrees cfg boxes

/-- What an accepted click leaves agrees with its boxes if what it found did. -/
lemma agrees_credentialsCall (h : Agrees cfg boxes) :
    Agrees ((credentialsCall (trimCopy boxes.user) boxes.pass).write cfg) boxes := by
  constructor
  · intro user huser
    rw [username_credentialsCall, ProxyBoxes.username] at huser
    split_ifs at huser
    cases huser
    rfl
  · intro pass hpass
    rw [password_credentialsCall] at hpass
    split_ifs at hpass
    · exact h.2 pass hpass
    · unfold ProxyBoxes.password at hpass
      split_ifs at hpass
      cases hpass
      rfl

/-- The broadcasts of a click are paired exactly where it finds no credentials but its own: the
first goes out with the new proxy and the old credentials. -/
lemma paired_iff_findsOwn (makeAddress : Bytes → Option IpAddress) (cfg : InjectorConfig)
    (click : ProxyClick) : Paired makeAddress cfg click ↔ FindsOwn makeAddress cfg click := by
  cases click with
  | off =>
    constructor
    · intro _ boxes calls hclick
      cases hclick
    · intro _ cfg' hcfg' a ha
      obtain rfl : cfg' = ConfigSetter.clearProxy.write cfg := List.mem_singleton.mp hcfg'
      cases ha
  | on boxes =>
    cases hcheck : boxes.check makeAddress with
    | error why =>
      constructor
      · intro _ boxes' calls hclick haccepted
        cases hclick
        rw [hcheck] at haccepted
        cases haccepted
      · intro _ cfg' hcfg'
        rw [clicked_of_error (.on boxes) hcheck] at hcfg'
        cases hcfg'
    | ok calls =>
      obtain ⟨ip, port, hentered, rfl⟩ := ProxyBoxes.check_eq_ok hcheck
      have hbroadcasts : (clicked makeAddress cfg (.on boxes)).2.broadcasts =
          [(ConfigSetter.setProxy ip port).write cfg,
            (credentialsCall (trimCopy boxes.user) boxes.pass).write
              ((ConfigSetter.setProxy ip port).write cfg)] := by
        rw [clicked_of_ok (.on boxes) hcheck]
        rfl
      unfold Paired
      rw [hbroadcasts]
      constructor
      · intro hpaired boxes' _ hclick _
        cases hclick
        obtain ⟨boxes'', hclick, -, hagrees⟩ := hpaired _ List.mem_cons_self _ rfl
        cases hclick
        exact hagrees
      · intro hown cfg' hcfg' a ha
        have hagrees : Agrees ((ConfigSetter.setProxy ip port).write cfg) boxes :=
          hown boxes _ rfl hcheck
        refine ⟨boxes, rfl, ?_⟩
        rcases List.mem_cons.mp hcfg' with rfl | hcfg'
        · cases ha
          exact ⟨hentered, hagrees⟩
        · obtain rfl := List.mem_singleton.mp hcfg'
          have haddr : ((credentialsCall (trimCopy boxes.user) boxes.pass).write
              ((ConfigSetter.setProxy ip port).write cfg)).addr =
                some (fromAsio ip port.toUInt16) := by
            unfold credentialsCall
            split_ifs <;> rfl
          rw [haddr] at ha
          cases ha
          exact ⟨hentered, agrees_credentialsCall hagrees⟩

/-- The credentials that the clicks of a history left, as far as they left any, stand in the
boxes. -/
def ProxyBoxes.Repeats (makeAddress : Bytes → Option IpAddress) (history : List ProxyClick)
    (boxes : ProxyBoxes) : Prop :=
  (∀ user, lastUsername makeAddress history = some (some user) → trimCopy boxes.user = user) ∧
    ∀ pass, lastPassword makeAddress history = some (some pass) → boxes.pass = pass

/-- What is stored after a history is what its clicks left. -/
lemma agrees_run_iff (makeAddress : Bytes → Option IpAddress) (history : List ProxyClick)
    (boxes : ProxyBoxes) :
    Agrees (Mealy.run (clicked makeAddress) {} history) boxes ↔
      boxes.Repeats makeAddress history := by
  have hleft (last : Option (Option Bytes)) (value : Bytes) :
      last.getD none = some value ↔ last = some (some value) := by
    rcases last with _ | _ | other
    · simp
    · simp
    · simp
  obtain ⟨huser, hpass⟩ := credentials_run makeAddress {} history
  rw [Agrees, huser, hpass]
  exact and_congr (forall_congr' fun user => imp_congr_left (hleft _ user))
    (forall_congr' fun pass => imp_congr_left (hleft _ pass))

/-- **A login and its proxy.** In a history of clicks every configuration that is broadcast with a
proxy has the proxy and the credentials of the boxes of one click, exactly where the boxes of every
accepted click hold what the clicks before it wrote last: the username, unless it was removed, and
the password, unless it was removed. -/
theorem paired_iff (makeAddress : Bytes → Option IpAddress) (history : List ProxyClick) :
    Mealy.Along (clicked makeAddress) (Paired makeAddress) {} history ↔
      ∀ before boxes after calls, history = before ++ .on boxes :: after →
        boxes.check makeAddress = .ok calls → boxes.Repeats makeAddress before := by
  rw [Mealy.along_congr (paired_iff_findsOwn makeAddress), Mealy.along_iff_forall]
  constructor
  · intro h before boxes after calls hhistory haccepted
    exact (agrees_run_iff makeAddress before boxes).mp
      (h before (.on boxes) after hhistory boxes calls rfl haccepted)
  · rintro h before click after hhistory boxes calls rfl haccepted
    exact (agrees_run_iff makeAddress before boxes).mpr
      (h before boxes after calls hhistory haccepted)

end

/-! ## Two logins -/

/-- A parser that knows two addresses. -/
def twoAddresses (text : Bytes) : Option IpAddress :=
  if text = [49, 46, 49, 46, 49, 46, 49] then some (.v4 0x01010101)
  else if text = [50, 46, 50, 46, 50, 46, 50] then some (.v4 0x02020202)
  else none

/-- The proxy `1.1.1.1:1` with the login `u` and `p`. -/
def firstBoxes : ProxyBoxes :=
  { addr := [49, 46, 49, 46, 49, 46, 49], port := [49], user := [117], pass := [112] }

/-- The proxy `2.2.2.2:2` with the username `v` and no password. -/
def secondBoxes : ProxyBoxes :=
  { addr := [50, 46, 50, 46, 50, 46, 50], port := [50], user := [118], pass := [] }

/-- A click without a username removes the password of the first proxy, and the boxes of the second
are shown. -/
theorem shown_iff_second :
    let cfg := Mealy.run (clicked twoAddresses) {}
      ([.on firstBoxes, .off, .on { firstBoxes with user := [] }] ++ [.on secondBoxes])
    cfg.username = some [118] ∧ cfg.password = none :=
  (shown_iff twoAddresses [.on firstBoxes, .off, .on { firstBoxes with user := [] }] secondBoxes _
    (by rfl)).mpr (Or.inr (Or.inr fun pass hlast => by cases hlast))

/-- With an empty password box the password of the first proxy stays. -/
theorem not_shown_second :
    let cfg := Mealy.run (clicked twoAddresses) {} [.on firstBoxes, .off, .on secondBoxes]
    secondBoxes.check twoAddresses =
        .ok [.setProxy (.v4 0x02020202) 2, .setProxyCredentials (some [118]) none] ∧
      cfg.username = some [118] ∧ secondBoxes.password = none ∧ cfg.password = some [112] := by
  decide

/-- The first broadcast for the second proxy has the login of the first. -/
theorem not_paired_second :
    ∃ cfg ∈ (clicked twoAddresses
        (Mealy.run (clicked twoAddresses) {} [.on firstBoxes, .off])
        (.on secondBoxes)).2.broadcasts,
      cfg.addr = secondBoxes.entered twoAddresses ∧
        cfg.addr = some (fromAsio (.v4 0x02020202) 2) ∧
        firstBoxes.entered twoAddresses = some (fromAsio (.v4 0x01010101) 1) ∧
        cfg.username = some [117] ∧ cfg.password = some [112] := by
  decide

end Encapsule
