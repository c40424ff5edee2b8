import NmSidebar.AmneziaWG.LinkGuard
import NmSidebar.Helper.Tools

/-!
# Changes of systemd-resolved's settings

The backend of `amneziawg_dns.c` that asks systemd-resolved. Each of its calls is made only between
two looks at the owner of the bus name and at the guard of the link, and any number of things may
stop a change before, during and after a call.
-/

namespace NmSidebar

open Text Effects

/-! ## Calls -/

/-- What `g_dbus_connection_call_sync` returns: the reply, or an error with the name of the remote
error, if it is one. -/
inductive BusReply (α : Type) where
  | reply (value : α)
  | error (remote : Option Bytes)

/-- What is looked at of the socket of the system bus. -/
structure SocketStatus where
  isSocket : Bool
  uid : UInt32
  gid : UInt32

/-- The methods of `org.freedesktop.resolve1.Manager` that change a link, with their arguments. -/
inductive ResolvedMethod where
  | setLinkDns (ifindex : UInt32) (servers : List (AddressFamily × Bytes))
  | setLinkDomains (ifindex : UInt32) (domains : List (Bytes × Bool))
  | setLinkDefaultRoute (ifindex : UInt32) (enable : Bool)
  | revertLink (ifindex : UInt32)
  deriving DecidableEq

/-- The calls of a change. `startWatcher` starts the thread that cancels at the deadline or when
termination is requested, so that `isCancelled` may turn true at any time. -/
inductive ResolvedCall where
  | monotonicMsec
  | isCancelled
  | terminationRequested
  | startWatcher (deadlineMsec : ℤ)
  | stopWatcher
  | dispatchTermination
  | lstatBusSocket
  | connectBus
  | getNameOwner (timeoutMsec : ℤ)
  | callMethod (destination : Bytes) (method : ResolvedMethod) (timeoutMsec : ℤ)
  | guard (o : GuardCall)

/-- The reply to each call. -/
@[reducible] def ResolvedCall.Reply : ResolvedCall → Type
  | monotonicMsec => ℤ
  | isCancelled | terminationRequested | startWatcher _ | connectBus => Bool
  | stopWatcher | dispatchTermination => Unit
  | lstatBusSocket => Option SocketStatus
  | getNameOwner _ => BusReply Bytes
  | callMethod .. => BusReply Unit
  | guard o => o.Reply

/-- The signature of a change. -/
@[reducible] def resolvedSig : Signature := ⟨ResolvedCall, ResolvedCall.Reply⟩

/-- Programs of a change. -/
abbrev ResolvedM := Prog resolvedSig

/-- Makes a call. -/
abbrev busCall (o : ResolvedCall) : ResolvedM o.Reply := Prog.request (S := resolvedSig) o

/-- What the guard of the link does, as part of a change. -/
def onGuard {α : Type} (p : GuardM α) : ResolvedM α := p.interpret fun o => busCall (.guard o)

/-! ## Deadlines -/

/-- `network_sidebar_amneziawg_deadline_remaining_msec`. -/
def deadlineRemainingMsec (nowMsec deadlineMsec : ℤ) (maximumMsec : ℕ) : ℤ :=
  if nowMsec < 0 ∨ deadlineMsec ≤ nowMsec ∨ maximumMsec = 0 then 0
  else min (min (deadlineMsec - nowMsec) maximumMsec) maxInt

/-- `g_cancellable_is_cancelled (…) || network_sidebar_amneziawg_process_termination_requested ()`. -/
def changeIsStopped : ResolvedM Bool := do
  if ← busCall .isCancelled then return true
  else busCall .terminationRequested

/-- `resolved_operation_deadline`. -/
def changeDeadline (outerDeadline : ℤ) : ResolvedM (Option ℤ) := do
  let now ← busCall .monotonicMsec
  if now < 0 ∨ now ≥ outerDeadline then return none
  else
    let deadline := deadlineCap now outerDeadline resolvedCallTimeoutMsec
    return if deadline > now then some deadline else none

/-- `deadline_cancellation_init`. -/
def deadlineCancellationInit (deadlineMsec : ℤ) : ResolvedM Bool := do
  let now ← busCall .monotonicMsec
  if now < 0 ∨ now ≥ deadlineMsec ∨ deadlineMsec > maxInt64 / 1000 then return false
  else if ← busCall .terminationRequested then return false
  else busCall (.startWatcher deadlineMsec)

/-- `deadline_cancellation_clear`. -/
def deadlineCancellationClear (started : Bool) : ResolvedM Unit := do
  if started then
    busCall .stopWatcher
    busCall .dispatchTermination
  else busCall .dispatchTermination

/-! ## The bus -/

/-- The test of the socket's status in `open_system_bus`. -/
def SocketStatus.isSystemBus (status : SocketStatus) : Bool :=
  status.isSocket && status.uid == 0 && status.gid == 0

/-- `open_system_bus`. -/
def openSystemBus (deadline : ℤ) : ResolvedM Bool := do
  if ((← busCall .lstatBusSocket).any SocketStatus.isSystemBus) = false then return false
  else
    let now ← busCall .monotonicMsec
    if now < 0 ∨ now ≥ deadline then return false
    else if ← changeIsStopped then return false
    else busCall .connectBus

/-- `org.freedesktop.DBus.Error.NameHasNoOwner`. -/
def nameHasNoOwner : Bytes := ascii "org.freedesktop.DBus.Error.NameHasNoOwner"

variable (isUniqueName : Bytes → Bool)

/-- What `resolved_owner` makes of a reply; `isUniqueName` is `g_dbus_is_unique_name`. -/
def ownerOfReply : BusReply Bytes → ResolvedOwner × Option Bytes
  | .reply name => if isUniqueName name then (.yes, some name) else (.error, none)
  | .error remote => (if remote = some nameHasNoOwner then .no else .error, none)

/-- `resolved_owner`, with the owner it finds. -/
def resolvedOwner (deadline : ℤ) : ResolvedM (ResolvedOwner × Option Bytes) := do
  let now ← busCall .monotonicMsec
  let timeout := deadlineRemainingMsec now deadline resolvedCallTimeoutMsec
  if timeout = 0 then return (.error, none)
  else if ← changeIsStopped then return (.error, none)
  else
    let reply ← busCall (.getNameOwner timeout)
    if ← changeIsStopped then return (.error, none)
    else return ownerOfReply isUniqueName reply

/-! ## Calls between two looks -/

/-- `ResolvedOperation`. -/
structure ResolvedOperation where
  owner : Bytes
  guard : LinkGuard
  deadline : ℤ
  mayHaveChanged : Bool

variable (order : ByteOrder)

/-- `resolved_target_is_valid`, with the guard it leaves. -/
def resolvedTargetIsValid (operation : ResolvedOperation) :
    ResolvedM (Bool × ResolvedOperation) := do
  let owner ← resolvedOwner isUniqueName operation.deadline
  -- the guard is drained even where the bus is not as it was
  let checked ← onGuard (linkGuardCheck order operation.guard operation.deadline true)
  return (owner.1 = .yes ∧ owner.2 = some operation.owner ∧ checked.1 = true,
    { operation with guard := checked.2 })

/-- The remote errors that reject a method for good, apart from those of systemd-resolved. -/
def definitiveErrors : List Bytes :=
  [ascii "org.freedesktop.DBus.Error.InvalidArgs", ascii "org.freedesktop.DBus.Error.AccessDenied",
    ascii "org.freedesktop.DBus.Error.UnknownMethod", ascii "org.freedesktop.DBus.Error.Failed",
    ascii "org.freedesktop.DBus.Error.NoMemory", ascii "org.freedesktop.DBus.Error.LimitsExceeded",
    ascii "org.freedesktop.DBus.Error.NotSupported"]

/-- The remote errors after which nothing was changed. -/
def rejectsForGood (remote : Bytes) : Bool :=
  (ascii "org.freedesktop.resolve1.").isPrefixOf remote &&
      remote != ascii "org.freedesktop.resolve1.NoSuchLink" ||
    definitiveErrors.contains remote

/-- What `resolved_call` makes of a reply that came while the target was valid. -/
def resultOfReply : BusReply Unit → DnsChangeResult
  | .reply _ => .ok
  | .error remote => if remote.any rejectsForGood then .failed else .uncertain

/-- `resolved_call` once its call may be made. -/
def resolvedCallMade (operation : ResolvedOperation) (method : ResolvedMethod) (timeout : ℤ) :
    ResolvedM (DnsChangeResult × ResolvedOperation) := do
  let reply ← busCall (.callMethod operation.owner method timeout)
  let checked ← resolvedTargetIsValid isUniqueName order { operation with mayHaveChanged := true }
  if checked.1 = false then return (.uncertain, checked.2)
  else if ← changeIsStopped then return (.uncertain, checked.2)
  else return (resultOfReply reply, checked.2)

/-- `resolved_call`. -/
def resolvedCall (operation : ResolvedOperation) (method : ResolvedMethod) :
    ResolvedM (DnsChangeResult × ResolvedOperation) := do
  let checked ← resolvedTargetIsValid isUniqueName order operation
  let operation := checked.2
  if checked.1 = false then return (.uncertain, operation)
  else if ← changeIsStopped then
    return (if operation.mayHaveChanged then .uncertain else .failed, operation)
  else
    let now ← busCall .monotonicMsec
    let timeout := deadlineRemainingMsec now operation.deadline resolvedCallTimeoutMsec
    if timeout = 0 then return (.failed, operation)
    else resolvedCallMade isUniqueName order operation method timeout

/-! ## Changes -/

/-- The servers of a configuration as the bus takes them. -/
def linkServers (dns : DnsConfig) : List (AddressFamily × Bytes) :=
  dns.servers.map fun server => (server.family, server.address)

/-- The domains of a configuration as the bus takes them, and the root to route everything by. -/
def linkDomains (dns : DnsConfig) : List (Bytes × Bool) :=
  dns.domains.map (fun domain => (domain, false)) ++ [(ascii ".", true)]

/-- `resolved_apply_connection`. -/
def resolvedApplyConnection (operation : ResolvedOperation) (ifindex : UInt32) (dns : DnsConfig) :
    ResolvedM (DnsChangeResult × ResolvedOperation) := do
  let servers ← resolvedCall isUniqueName order operation (.setLinkDns ifindex (linkServers dns))
  if servers.1 ≠ .ok then return servers
  else
    let domains ← resolvedCall isUniqueName order servers.2
      (.setLinkDomains ifindex (linkDomains dns))
    if domains.1 ≠ .ok then return domains
    else resolvedCall isUniqueName order domains.2 (.setLinkDefaultRoute ifindex true)

/-- The calls of `resolved_change` on its operation. -/
def changeLink (operation : ResolvedOperation) (ifindex : UInt32) :
    Option DnsConfig → ResolvedM (DnsChangeResult × ResolvedOperation)
  | some dns => resolvedApplyConnection isUniqueName order operation ifindex dns
  | none => resolvedCall isUniqueName order operation (.revertLink ifindex)

/-- `resolved_change` from the bus to `out`: the result so far, and whether a call was made. -/
def changeOnBus (identity : LinkIdentity) (dns : Option DnsConfig) (deadline : ℤ) :
    ResolvedM (DnsChangeResult × Bool) := do
  if ← openSystemBus deadline then
    match ← resolvedOwner isUniqueName deadline with
    | (.yes, some owner) =>
      match ← onGuard (linkGuardNew order identity deadline true) with
      | none => return (.uncertain, false)
      | some guard =>
        let changed ← changeLink isUniqueName order ⟨owner, guard, deadline, false⟩
          identity.ifindex dns
        return (changed.1, changed.2.mayHaveChanged)
    | _ => return (.unavailable, false)
  else return (.unavailable, false)

/-- `resolved_change` from `out`. -/
def changeOutcome (result : DnsChangeResult) (mayHaveChanged : Bool) :
    ResolvedM DnsChangeOutcome := do
  if mayHaveChanged then return ⟨result, true⟩
  else if ← changeIsStopped then return ⟨.failed, false⟩
  else return ⟨result, false⟩

/-- `resolved_change`. -/
def resolvedChange (identity : LinkIdentity) (dns : Option DnsConfig) (deadline : ℤ) :
    ResolvedM DnsChangeOutcome := do
  match ← changeDeadline deadline with
  | none =>
    deadlineCancellationClear false
    return ⟨.failed, false⟩
  | some deadline =>
    if ← deadlineCancellationInit deadline then
      let changed ← changeOnBus isUniqueName order identity dns deadline
      let outcome ← changeOutcome changed.1 changed.2
      deadlineCancellationClear true
      return outcome
    else
      deadlineCancellationClear false
      return ⟨.failed, false⟩

end NmSidebar
