import Encapsule.Common.Schema

/-!
# Printing a report

`process_connect` of the two front ends, up to the line that is printed.  The fields of a report are
what a victim process sent, each of them there or not.  The front ends look at the fields of the
report before they use them, but an `IpAddr` in it is printed by `to_asio`, which does not look at
the fields of the address (`processConnect_iff`).

The text of an address is made by asio and is a parameter, and so are the time of day and what the
array of `to_asio` held before it is written.
-/

namespace Encapsule

/-- The octets of a string of the source. -/
def stringOctets (s : String) : Bytes := s.toUTF8.toList

/-- `unset_field`. -/
def unsetField : Bytes := stringOctets "<unset>"

/-- `stream << (int)pid_`. -/
def pidText (pid : DWORD) : Bytes := stringOctets (toString pid.toBitVec.toInt)

section

variable (text : IpAddress → Bytes)

/-- The string of a host. -/
def AsioHost.toText : AsioHost → Bytes
  | .address addr => text addr
  | .domain name => name

/-- `operator<<` of an `IpAddr`. -/
def IpAddr.print (stale : Vector UInt8 16) (addr : IpAddr) : Except AsioFault Bytes := do
  let (host, port) ← toAsio stale addr
  return host.toText text ++ stringOctets ":" ++ stringOctets (toString port.toNat)

/-- A field of a report: its value, or the placeholder. -/
def printField {α : Type} (print : α → Except AsioFault Bytes) : Option α → Except AsioFault Bytes
  | some value => print value
  | none => .ok unsetField

/-- `injectee_session_cli::process_connect`.  `stale₁` and `stale₂` are what the arrays of the two
addresses held. -/
def processConnectCli (stale₁ stale₂ : Vector UInt8 16) (pid : DWORD) (msg : InjecteeConnect) :
    Except AsioFault Bytes := do
  let syscall ← printField (fun s => .ok (stringOctets s)) msg.syscall
  let addr ← printField (IpAddr.print text stale₁) msg.addr
  let line := pidText pid ++ stringOctets ": " ++ syscall ++ stringOctets " " ++ addr
  match msg.proxy with
  | some proxy => return line ++ stringOctets " via " ++ (← proxy.print text stale₂)
  | none => return line

/-- `injectee_session_ui::process_connect`, with the time as it is printed. -/
def processConnectUi (stale₁ stale₂ : Vector UInt8 16) (time : Bytes) (pid : DWORD)
    (msg : InjecteeConnect) : Except AsioFault Bytes := do
  let stamp := stringOctets "[" ++ time ++ stringOctets "] "
  let syscall ← printField (fun s => .ok (stringOctets s)) msg.syscall
  let addr ← printField (IpAddr.print text stale₁) msg.addr
  let line := stamp ++ pidText pid ++ stringOctets ": " ++ syscall ++ stringOctets " " ++ addr
  match msg.proxy with
  | some proxy =>
    return line ++ stringOctets " via " ++ (← proxy.print text stale₂) ++ stringOctets "\n"
  | none => return line ++ stringOctets "\n"

end

/-! ## What can be printed -/

/-- The fields that `to_asio` reads are there: a port, and an address or a domain.  A v6 address
that is read has no more than sixteen octets. -/
def IpAddr.Printable (addr : IpAddr) : Prop :=
  addr.port.isSome ∧
    (addr.v4Addr.isSome ∨ (addr.v4Addr = none ∧ ∃ v6, addr.v6Addr = some v6 ∧ v6.length ≤ 16) ∨
      (addr.v4Addr = none ∧ addr.v6Addr = none ∧ addr.domain.isSome))

variable (text : IpAddress → Bytes)

/-- `to_asio` stays within the fields and the array exactly for these messages. -/
lemma toAsio_iff (stale : Vector UInt8 16) (addr : IpAddr) :
    (∃ endpoint, toAsio stale addr = .ok endpoint) ↔ addr.Printable := by
  obtain ⟨v4, v6, domain, port⟩ := addr
  unfold IpAddr.Printable
  cases port with
  | none =>
    have hfault : ∃ fault, toAsio stale ⟨v4, v6, domain, none⟩ = .error fault := by
      cases v4 with
      | some v => exact ⟨_, rfl⟩
      | none =>
        cases v6 with
        | some v =>
          by_cases hlen : 16 < v.length
          · exact ⟨.outOfBounds, if_pos hlen⟩
          · exact ⟨.absentField, if_neg hlen⟩
        | none => cases domain <;> exact ⟨_, rfl⟩
    obtain ⟨fault, hfault⟩ := hfault
    simp [hfault]
  | some port =>
    cases v4 with
    | some v => simp [toAsio]
    | none =>
      cases v6 with
      | some v =>
        by_cases hlen : 16 < v.length
        · simp [toAsio, hlen]
        · simp [toAsio, hlen, Nat.not_lt.mp hlen]
      | none => cases domain <;> simp [toAsio]

/-- An address is printed without a fault exactly if its fields are there. -/
lemma print_iff (stale : Vector UInt8 16) (addr : IpAddr) :
    (∃ line, addr.print text stale = .ok line) ↔ addr.Printable := by
  rw [← toAsio_iff stale]
  unfold IpAddr.print
  cases toAsio stale addr with
  | error fault => simp [bind, Except.bind]
  | ok endpoint => simp [bind, Except.bind, pure, Except.pure]

/-- A field is printed without a fault exactly if its value is. -/
lemma printField_iff {α : Type} (print : α → Except AsioFault Bytes) (field : Option α) :
    (∃ line, printField print field = .ok line) ↔
      ∀ value ∈ field, ∃ line, print value = .ok line := by
  cases field with
  | none => simp [printField]
  | some value => simp [printField]

/-- The addresses of a report that are printed. -/
def InjecteeConnect.Printable (msg : InjecteeConnect) : Prop :=
  (∀ addr ∈ msg.addr, addr.Printable) ∧ ∀ proxy ∈ msg.proxy, proxy.Printable

/-- Both front ends print a report without reading an absent field or overrunning the array exactly
if the addresses in it have the fields that are read. -/
theorem processConnect_iff (stale₁ stale₂ : Vector UInt8 16) (time : Bytes) (pid : DWORD)
    (msg : InjecteeConnect) :
    ((∃ line, processConnectCli text stale₁ stale₂ pid msg = .ok line) ↔ msg.Printable) ∧
      ((∃ line, processConnectUi text stale₁ stale₂ time pid msg = .ok line) ↔
        msg.Printable) := by
  have haddr := printField_iff (IpAddr.print text stale₁) msg.addr
  simp only [print_iff] at haddr
  obtain ⟨syscall, hsyscall⟩ :
      ∃ syscall, printField (fun s => .ok (stringOctets s)) msg.syscall = .ok syscall := by
    cases msg.syscall with
    | none => exact ⟨_, rfl⟩
    | some s => exact ⟨_, rfl⟩
  unfold InjecteeConnect.Printable processConnectCli processConnectUi
  rw [← haddr, hsyscall]
  cases hprint : printField (IpAddr.print text stale₁) msg.addr with
  | error fault => simp [bind, Except.bind]
  | ok addr =>
    cases hproxy : msg.proxy with
    | none => simp [bind, Except.bind, pure, Except.pure]
    | some proxy =>
      simp only [Option.mem_some_iff, forall_eq', ← print_iff text stale₂]
      cases hvia : proxy.print text stale₂ with
      | error fault => simp [bind, Except.bind]
      | ok via => simp [bind, Except.bind, pure, Except.pure]

/-- A report with an address of no fields at all is not printed without a fault, and neither is one
with a v6 address of seventeen octets. -/
theorem not_processConnect_no_fields :
    let stale : Vector UInt8 16 := Vector.replicate 16 0
    let empty : InjecteeConnect := { addr := some {} }
    let long : InjecteeConnect :=
      { addr := some { v6Addr := some (List.replicate 17 0), port := some 80 } }
    processConnectCli (fun _ => []) stale stale 7 empty = .error .absentField ∧
      processConnectUi (fun _ => []) stale stale [] 7 empty = .error .absentField ∧
      processConnectCli (fun _ => []) stale stale 7 long = .error .outOfBounds ∧
      processConnectUi (fun _ => []) stale stale [] 7 long = .error .outOfBounds := by
  intro stale empty long
  exact ⟨rfl, rfl, rfl, rfl⟩

end Encapsule
