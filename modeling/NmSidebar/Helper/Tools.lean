import NmSidebar.Helper.Storage

/-!
# Tools of the helper

Runs of `awg-quick` (`amneziawg_helper_quick.c`, `amneziawg_quick_diagnostics.c`), changes of the
resolver (`amneziawg_dns.c`), and the retained process group with the commit
(`amneziawg_process.c`).
-/

namespace NmSidebar

open Text Effects

/-! ## awg-quick -/

/-- The position of a stage in `AwgQuickStage`. -/
def QuickStage.index : QuickStage → ℕ
  | .none => 0
  | .interface => 1
  | .userspace => 2
  | .setconf => 3
  | .address => 4
  | .mtu => 5
  | .dns => 6
  | .route => 7
  | .firewall => 8

/-- `awg_quick_diagnostics_failure_status`. -/
def QuickDiagnostics.failureStatus (diagnostics : QuickDiagnostics) : HelperExit :=
  match if diagnostics.failureCandidate ≠ .none then diagnostics.failureCandidate
    else diagnostics.currentStage with
  | .interface => .interfaceCreationFailed
  | .userspace => .userspaceFailed
  | .setconf => .setconfFailed
  | .address => .addressFailed
  | .mtu => .mtuFailed
  | .dns => .dnsFailed
  | .route => .routeFailed
  | .firewall => .firewallFailed
  | .none => .awgQuickFailed

/-- `WIFEXITED` with an exit code that is neither zero nor 127. -/
def WaitStatus.isToolFailure : WaitStatus → Bool
  | .exited code => code != 0 && code != 127
  | _ => false

/-- `awg_quick_diagnostics_failed_before_routes`. -/
def SubprocessResult.failedBeforeRoutes (child : SubprocessResult) : Bool :=
  child.status == .exited && child.diagnosticsComplete && child.waitStatus.isToolFailure &&
    child.diagnostics.interfaceSeen && child.diagnostics.teardownSeen &&
    !child.diagnostics.recoveryBlocked &&
    decide (QuickStage.interface.index ≤ child.diagnostics.currentStage.index) &&
    decide (child.diagnostics.currentStage.index ≤ QuickStage.mtu.index)

/-- `AwgQuickResult`, with the standard output. -/
structure QuickResult where
  status : HelperExit
  mayHaveRun : Bool
  failedBeforeRoutes : Bool
  output : Bytes

/-- A run that did not come to start anything. -/
def QuickResult.notStarted (status : HelperExit) : QuickResult := ⟨status, false, false, []⟩

/-- The status `awg_helper_quick_run` makes of a child. -/
def quickStatus (command : QuickCommand) (child : SubprocessResult) : HelperExit :=
  match child.status with
  | .cancelled => .childSignaled
  | .timedOut => .timedOut
  | .setupFailed | .ioFailed | .outputTooLarge => .childSetupFailed
  | .exited =>
    match child.waitStatus with
    | .signaled => .childSignaled
    | .other => .awgQuickFailed
    | .exited code =>
      if code = 0 then .success
      else if command = .up ∧ child.diagnostics.currentStage ≠ .none then
        child.diagnostics.failureStatus
      else if code = 127 then .childSetupFailed
      else .awgQuickFailed

/-- `awg_helper_quick_run`. -/
def quickRun (command : QuickCommand) (configPath : Bytes) (outerDeadline : ℤ) :
    HelperM QuickResult := do
  let stop ← phaseStopStatus outerDeadline
  if stop ≠ .success then return .notStarted stop
  else if ← ask .openAwgQuick then
    let child ← ask (.subprocessRun command configPath outerDeadline)
    let status := quickStatus command child
    return ⟨status, child.mayHaveRun, command == .up && child.failedBeforeRoutes,
      if status = .success then child.output else []⟩
  else return .notStarted .awgQuickUnavailable

/-! ## The resolver -/

/-- `NETWORK_SIDEBAR_AMNEZIAWG_RESOLVED_CALL_TIMEOUT_MSEC`. -/
def resolvedCallTimeoutMsec : ℕ := 5000

/-- `network_sidebar_amneziawg_deadline_cap`. -/
def deadlineCap (nowMsec outerDeadlineMsec : ℤ) (localBudgetMsec : ℕ) : ℤ :=
  if nowMsec < 0 ∨ outerDeadlineMsec < 0 ∨ nowMsec ≥ outerDeadlineMsec then outerDeadlineMsec
  else if nowMsec > maxInt64 - localBudgetMsec then outerDeadlineMsec
  else min (nowMsec + localBudgetMsec) outerDeadlineMsec

/-- `resolved_operation_deadline`. -/
def resolvedOperationDeadline (outerDeadline : ℤ) : HelperM (Option ℤ) := do
  let now ← ask .monotonicMsec
  if now < 0 ∨ now ≥ outerDeadline then return none
  else
    let deadline := deadlineCap now outerDeadline resolvedCallTimeoutMsec
    return if deadline > now then some deadline else none

/-- `dns_select_backend`. -/
def dnsSelectBackend (dns : DnsConfig) (deadline : ℤ) :
    HelperM (Except DnsChangeResult DnsBackend) := do
  if dnsConfigPresent dns = false then return .ok .none
  else
    match ← resolvedOperationDeadline deadline with
    | none => return .error .failed
    | some operationDeadline =>
      if ← ask (.deadlineCancellationInit operationDeadline) then
        if ← ask (.openSystemBus operationDeadline) then
          match ← ask (.resolvedOwner operationDeadline) with
          | .error => return .error .failed
          | .yes => return .ok .resolved
          | .no =>
            if ← ask .openResolvconf then return .ok .resolvconf
            else return .error .unavailable
        else return .error .failed
      else return .error .failed

/-- `dns_apply_selected`. The two lists of a configuration always exist, so only the
configuration itself may be missing. -/
def dnsApplySelected (identity : LinkIdentity) (dns : Option DnsConfig) (backend : DnsBackend)
    (deadline : ℤ) : HelperM DnsChangeOutcome := do
  if backend = .none then return ⟨.ok, false⟩
  else
    match dns with
    | none => return ⟨.failed, false⟩
    | some dns =>
      if nameIsValid identity.name = false then return ⟨.uncertain, false⟩
      else if backend = .resolvconf then
        let result ← ask (.resolvconfApply identity dns deadline)
        return ⟨result, true⟩
      else ask (.resolvedChange identity (some dns) deadline)

/-- `dns_revert_selected`. -/
def dnsRevertSelected (identity : LinkIdentity) (backend : DnsBackend) (deadline : ℤ) :
    HelperM DnsChangeOutcome := do
  if backend = .none then return ⟨.ok, false⟩
  else if nameIsValid identity.name = false then return ⟨.uncertain, false⟩
  else if backend = .resolvconf then
    if ← ask (.resolvconfRevert identity deadline) then return ⟨.ok, true⟩
    else return ⟨.failed, true⟩
  else ask (.resolvedChange identity none deadline)

/-! ## The retained process group -/

/-- `NETWORK_SIDEBAR_AMNEZIAWG_CHILD_CLEANUP_RESERVE_MSEC`. -/
def childCleanupReserveMsec : ℤ := 6000

/-- `commit_operation`. -/
def commitOperation (deadline : ℤ) : HelperM Bool := do
  let now ← ask .monotonicMsec
  if now < 0 ∨ now ≥ deadline then return false
  else if ← ask .activeProcessGroup then return false
  else if ← ask .terminationIsPending then return false
  else ask .compareExchangeCommitted

/-- The end of `network_sidebar_amneziawg_process_release_retained_group`, once the commit was
tried. -/
def settleRelease (child : Option ℕ) (cleanupDeadline : ℤ) (committed : Bool) : HelperM Bool :=
  match committed, child with
  | false, some child => do
    let _ ← ask (.superviseWithdrawRelease child cleanupDeadline)
    ask .restoreMask
    return false
  | committed, _ => do
    ask .restoreMask
    return committed

/-- `network_sidebar_amneziawg_process_release_retained_group`. -/
def processReleaseRetainedGroup (deadline cleanupDeadline : ℤ) : HelperM Bool := do
  let child ← ask .retainedProcessGroup
  if ← ask .blockTermination then
    let now ← ask .monotonicMsec
    let pending ← ask .terminationIsPending
    if pending ∨ now < 0 ∨ now ≥ deadline ∨
        (child.isSome ∧ deadline - now ≤ childCleanupReserveMsec) then
      ask .restoreMask
      return false
    else
      let released ←
        match child with
        | none => pure true
        | some child => ask (.superviseRelease child deadline)
      if released then
        let committed ← commitOperation deadline
        settleRelease child cleanupDeadline committed
      else
        ask .restoreMask
        return false
  else return false

/-- `network_sidebar_amneziawg_process_terminate_retained_group`. -/
def processTerminateRetainedGroup (deadline : ℤ) : HelperM Bool := do
  match ← ask .retainedProcessGroup with
  | none => return true
  | some child =>
    let acknowledged ← ask (.beginGroupTermination child deadline)
    if ← ask (.reapGroup child deadline) then
      if ← ask (.unregisterGroup child deadline) then return acknowledged
      else return false
    else return false

end NmSidebar
