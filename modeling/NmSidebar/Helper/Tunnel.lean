import NmSidebar.Helper.Profiles

/-!
# Tunnels

The transactions of `amneziawg_helper_tunnel.c`. The journal in memory and the flag that blocks
further resolver changes are passed along as a `TunnelState`; the journal on disk is in the
world. A function that changes them returns them with its result.
-/

namespace NmSidebar

open Text Effects

/-- The `AwgHelperTunnel` and the journal that its functions work on. -/
structure TunnelState where
  journal : RuntimeMarker
  dnsRecoveryBlocked : Bool

/-- The journal with another state. -/
def TunnelState.setState (s : TunnelState) (state : JournalState) : TunnelState :=
  { s with journal := { s.journal with state } }

/-- The journal with another DNS state. -/
def TunnelState.setDns (s : TunnelState) (dnsState : JournalDnsState) : TunnelState :=
  { s with journal := { s.journal with dnsState } }

/-- `awg_helper_storage_write_runtime_marker` of the journal in memory. -/
def writeJournal (name : Name) (s : TunnelState) : HelperM Bool :=
  ask (.writeRuntimeMarker name s.journal)

/-- The identity handed to the resolver functions. -/
def TunnelState.identity (name : Name) (s : TunnelState) : LinkIdentity :=
  ⟨name, s.journal.linkToken, s.journal.ifindex⟩

/-! ## DNS transactions -/

/-- `AwgDnsTransactionResult`. -/
inductive DnsTransaction where
  | ok
  | changeFailed
  | uncertain
  | journalFailed
  deriving DecidableEq

/-- What `complete_dns_change` makes of the journal. -/
def TunnelState.completeDns (s : TunnelState) (previousState confirmedState : JournalDnsState)
    (outcome : DnsChangeOutcome) : TunnelState :=
  let s := s.setDns (if outcome.result = .ok then confirmedState
    else if outcome.mayHaveChanged = false then previousState
    else .unknown)
  if outcome.result = .uncertain then
    { s.setState .cleanupUnconfirmed with dnsRecoveryBlocked := true }
  else s

/-- `complete_dns_change`. -/
def completeDnsChange (name : Name) (s : TunnelState)
    (previousState confirmedState : JournalDnsState) (outcome : DnsChangeOutcome) :
    HelperM (DnsTransaction × TunnelState) := do
  let s := s.completeDns previousState confirmedState outcome
  if ← writeJournal name s then
    return (if outcome.result = .uncertain then .uncertain
      else if outcome.result = .ok then .ok
      else .changeFailed, s)
  else return (.journalFailed, s)

/-- `apply_dns_durably`. -/
def applyDnsDurably (name : Name) (s : TunnelState) (dns : Option DnsConfig) (deadline : ℤ) :
    HelperM (DnsTransaction × TunnelState) := do
  if s.dnsRecoveryBlocked then return (.uncertain, s)
  else if s.journal.dnsBackend = .none then
    return (if s.journal.dnsState = .absent then .ok else .journalFailed, s)
  else if s.journal.dnsState = .applied then return (.ok, s)
  else
    let previousState := s.journal.dnsState
    let started := s.setDns .unknown
    if ← writeJournal name started then
      let outcome ← dnsApplySelected (s.identity name) dns s.journal.dnsBackend deadline
      completeDnsChange name started previousState .applied outcome
    else return (.journalFailed, s)

/-- The look at the link with which `revert_dns_durably` begins for `resolvconf`: whether the
backend may be asked. -/
def revertMayProceed (name : Name) (s : TunnelState) : HelperM Bool := do
  if s.journal.dnsBackend = .resolvconf then
    let (state, _) ← sessionOwnedLinkState name s.journal
    return state ≠ .unknown ∧ state ≠ .conflict
  else return true

/-- `revert_dns_durably`. -/
def revertDnsDurably (name : Name) (s : TunnelState) (deadline : ℤ) :
    HelperM (DnsTransaction × TunnelState) := do
  if s.dnsRecoveryBlocked then return (.uncertain, s)
  else if s.journal.dnsState = .absent then return (.ok, s)
  else
    let previousState := s.journal.dnsState
    let proceed ← revertMayProceed name s
    if proceed = false then
      completeDnsChange name s previousState previousState ⟨.uncertain, false⟩
    else
      let started := s.setDns .unknown
      if ← writeJournal name started then
        let outcome ← dnsRevertSelected (s.identity name) s.journal.dnsBackend deadline
        completeDnsChange name started previousState .absent outcome
      else return (.journalFailed, s)

/-- `abort_before_interface_teardown`. -/
def abortBeforeInterfaceTeardown (name : Name) (s : TunnelState) (dns : Option DnsConfig)
    (beganActive : Bool) (failure : HelperExit) (deadline : ℤ) :
    HelperM (HelperExit × TunnelState) := do
  let cleanupFailure : HelperExit := if beganActive then .dnsRollbackFailed else .rollbackFailed
  if s.dnsRecoveryBlocked then return (failure, s)
  else
    let (state, _) ← sessionOwnedLinkState name s.journal
    match state with
    | .conflict =>
      let s := s.setState .cleanupUnconfirmed
      let _ ← writeJournal name s
      return (.interfaceConflict, s)
    | .unknown => return (.runtimeFailed, s)
    | .absent => return (failure, s)
    | .present =>
      let stop ← phaseStopStatus deadline
      if stop ≠ .success then return (cleanupFailure, s)
      else
        let s := s.setState .cleanupRequired
        if ← writeJournal name s then
          if beganActive = false then return (failure, s)
          else
            let (applied, s) ← applyDnsDurably name s dns deadline
            if applied ≠ .ok then return (.dnsRollbackFailed, s)
            else
              let s := s.setState .active
              if ← writeJournal name s then return (failure, s)
              else return (.dnsRollbackFailed, s)
        else return (cleanupFailure, s)

/-! ## The end of a session -/

/-- `finalize_runtime_entries`. -/
def finalizeRuntimeEntries (name configName : Name) (s : TunnelState) : HelperM HelperExit := do
  if s.dnsRecoveryBlocked ∨ s.journal.state ≠ .cleanupComplete ∨ s.journal.dnsState ≠ .absent ∨
      s.journal.wasActive then
    return .runtimeFailed
  else if ← writeJournal name s then
    match storageMakeDnsFilename name with
    | none => return .runtimeFailed
    | some dnsName =>
      if ← ask (.removeAndSync .runtimeConfigs configName) then
        if ← ask (.removeAndSync .runtimeConfigs dnsName) then
          if ← ask (.removeAndSync .runtime name) then return .success
          else return .runtimeFailed
        else return .runtimeFailed
      else return .runtimeFailed
  else return .runtimeFailed

/-- `load_runtime_dns`. -/
def loadRuntimeDns (name : Name) : HelperM (Option DnsConfig) := do
  match storageMakeDnsFilename name with
  | none => return none
  | some dnsName =>
    match ← ask (.readSecureFile .runtimeConfigs dnsName 0o600 maxDnsPayload) with
    | none => return none
    | some contents => return dnsConfigParse contents

/-- The journal of a session whose `up` never ran. -/
def TunnelState.discarded (s : TunnelState) : TunnelState :=
  { s with journal := { s.journal with
      state := .cleanupComplete, dnsState := .absent, wasActive := false, firewallScope := 0 } }

/-- `discard_unstarted_runtime` within the cleanup mode. -/
def discardUnstartedRuntimeImpl (name configName : Name) (s : TunnelState)
    (cleanupDeadline : ℤ) : HelperM HelperExit := do
  let stop ← phaseStopStatus cleanupDeadline
  if stop = .success then finalizeRuntimeEntries name configName s.discarded else return stop

/-- `discard_unstarted_runtime`. -/
def discardUnstartedRuntime (name configName : Name) (s : TunnelState) (cleanupDeadline : ℤ) :
    HelperM HelperExit := do
  ask (.setCleanupMode true)
  let result ← discardUnstartedRuntimeImpl name configName s cleanupDeadline
  ask (.setCleanupMode false)
  return result

/-- `include_current_firewall_scope`. -/
def includeCurrentFirewallScope (name : Name) (s : TunnelState) (deadline : ℤ) :
    HelperM TunnelState := do
  let captured ← ask (.firewallCaptureScope name deadline)
  let firewallScope := s.journal.firewallScope ||| captured.scope.bits
  return { s with journal := { s.journal with firewallScope } }

/-- The failure for a link that is not absent. -/
def linkFailure (link : OwnedLinkState) : HelperExit :=
  if link = .unknown then .runtimeFailed else .interfaceConflict

/-- `verify_runtime_cleanup`. -/
def verifyRuntimeCleanup (name configName : Name) (s : TunnelState) (deadline : ℤ) :
    HelperM HelperExit := do
  if s.dnsRecoveryBlocked ∨ s.journal.dnsState ≠ .absent ∨
      (s.journal.state ≠ .cleanupRequired ∧ s.journal.state ≠ .firewallPending) then
    return .runtimeFailed
  else
    let (link, _) ← sessionOwnedLinkState name s.journal
    if link ≠ .absent then return linkFailure link
    else
      let s := { s.setState .firewallPending with
        journal := { s.journal with state := .firewallPending, wasActive := false } }
      if ← writeJournal name s then
        let firewall ← ask (.firewallProbe name s.journal.firewallScope deadline)
        if firewall ≠ .absent then return .firewallCleanupFailed
        else
          let (link, _) ← sessionOwnedLinkState name s.journal
          if link ≠ .absent then return linkFailure link
          else
            let stop ← phaseStopStatus deadline
            if stop ≠ .success then return .firewallCleanupFailed
            else finalizeRuntimeEntries name configName (s.setState .cleanupComplete)
      else return .runtimeFailed

/-- `try_finalize_early_up_failure`: the result to go on with where the early failure was
handled. -/
def tryFinalizeEarlyUpFailure (name configName : Name) (s : TunnelState) (quick : QuickResult)
    (cleanupDeadline : ℤ) (result : HelperExit) : HelperM (Option HelperExit) := do
  if quick.failedBeforeRoutes = false ∨ quick.status = .success ∨ s.dnsRecoveryBlocked ∨
      s.journal.state ≠ .activating ∨ s.journal.wasActive ∨ s.journal.ifindex ≠ 0 ∨
      s.journal.dnsState ≠ .absent then
    return none
  else
    let (link, _) ← sessionOwnedLinkState name s.journal
    if link ≠ .absent then return none
    else
      ask (.setCleanupMode true)
      let cleanup ←
        verifyRuntimeCleanup name configName (s.setState .cleanupRequired) cleanupDeadline
      ask (.setCleanupMode false)
      return some (if cleanup ≠ .success then cleanup else result)

/-! ## Teardown and rollback -/

/-- `AwgInterfaceTeardownState`. -/
inductive InterfaceTeardownState where
  | absent
  | remains
  | conflict
  | unknown
  | journalFailed
  deriving DecidableEq

/-- `AwgInterfaceTeardown`. -/
structure InterfaceTeardown where
  state : InterfaceTeardownState
  commandResult : HelperExit
  mayHaveRun : Bool

/-- `teardown_owned_interface`. -/
def teardownOwnedInterface (name : Name) (snapshotPath : Bytes) (s : TunnelState)
    (absentState : JournalState) (deadline : ℤ) :
    HelperM (InterfaceTeardown × TunnelState) := do
  let (identityResult, interfaceExists, journal) ← sessionRefreshOwnedInterface name s.journal
  let s := { s with journal }
  if identityResult = .interfaceConflict then return (⟨.conflict, .success, false⟩, s)
  else if identityResult ≠ .success then return (⟨.unknown, .success, false⟩, s)
  else
    let s := s.setState .cleanupUnconfirmed
    if ← writeJournal name s then
      if interfaceExists = false then return (⟨.unknown, .success, false⟩, s)
      else
        let quick ← quickRun .down snapshotPath deadline
        let (link, _) ← sessionOwnedLinkState name s.journal
        if link = .absent ∧ quick.status = .success then
          let s := s.setState absentState
          if ← writeJournal name s then return (⟨.absent, quick.status, quick.mayHaveRun⟩, s)
          else return (⟨.journalFailed, quick.status, quick.mayHaveRun⟩, s)
        else
          let state : InterfaceTeardownState :=
            match link with
            | .present => .remains
            | .conflict => .conflict
            | _ => .unknown
          return (⟨state, quick.status, quick.mayHaveRun⟩, s)
    else return (⟨.journalFailed, .success, false⟩, s)

/-- The failure `rollback_activation_impl` reports after a teardown that left the link. -/
def rollbackCleanupFailure (teardown : InterfaceTeardown) (dnsResult : DnsTransaction) :
    HelperExit :=
  if teardown.state = .journalFailed then .rollbackFailed
  else if teardown.state = .unknown then .runtimeFailed
  else if teardown.commandResult ≠ .success then teardown.commandResult
  else if dnsResult ≠ .ok then .dnsRollbackFailed
  else .rollbackFailed

/-- `rollback_activation_impl` after its first write of the journal. -/
def rollbackStarted (name configName : Name) (snapshotPath : Bytes) (s : TunnelState)
    (failure : HelperExit) (cleanupDeadline : ℤ) : HelperM (HelperExit × TunnelState) := do
  let (identityResult, _, journal) ← sessionRefreshOwnedInterface name s.journal
  let s := { s with journal }
  if identityResult ≠ .success then
    let s := s.setState .cleanupUnconfirmed
    let _ ← writeJournal name s
    return (identityResult, s)
  else
    let (dnsResult, s) ← revertDnsDurably name s cleanupDeadline
    if s.dnsRecoveryBlocked then return (.runtimeFailed, s)
    else
      let (teardown, s) ←
        teardownOwnedInterface name snapshotPath s .cleanupRequired cleanupDeadline
      if teardown.state = .absent then
        if dnsResult ≠ .ok then return (.dnsRollbackFailed, s)
        else
          let removed ← verifyRuntimeCleanup name configName s cleanupDeadline
          return (if removed = .success then failure else removed, s)
      else if teardown.state = .conflict then return (.interfaceConflict, s)
      else if teardown.state = .remains ∧ teardown.mayHaveRun = false then
        abortBeforeInterfaceTeardown name s none false
          (rollbackCleanupFailure teardown dnsResult) cleanupDeadline
      else return (rollbackCleanupFailure teardown dnsResult, s)

/-- `rollback_activation_impl`. -/
def rollbackActivationImpl (name configName : Name) (snapshotPath : Bytes) (s : TunnelState)
    (failure : HelperExit) (cleanupDeadline : ℤ) : HelperM (HelperExit × TunnelState) := do
  if s.dnsRecoveryBlocked then return (failure, s)
  else
    let s := s.setState .cleanupRequired
    if ← writeJournal name s then
      rollbackStarted name configName snapshotPath s failure cleanupDeadline
    else return (.rollbackFailed, s)

/-- `rollback_activation`. -/
def rollbackActivation (name configName : Name) (snapshotPath : Bytes) (s : TunnelState)
    (failure : HelperExit) (cleanupDeadline : ℤ) : HelperM (HelperExit × TunnelState) := do
  ask (.setCleanupMode true)
  let result ← rollbackActivationImpl name configName snapshotPath s failure cleanupDeadline
  ask (.setCleanupMode false)
  return result

end NmSidebar
