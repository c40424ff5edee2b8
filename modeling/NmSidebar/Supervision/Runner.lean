import NmSidebar.AmneziaWG.ProfileReport
import NmSidebar.Helper.Tools
import NmSidebar.Supervision.Supervisor

/-!
# The helper runner

The part of `amneziawg_helper_runner.c` that goes on while a helper runs: `helper_poll_cb`, the
timer's callback, and `network_sidebar_awg_helper_runner_stop`.
-/

namespace NmSidebar

open Text Effects

/-! ## Exit statuses -/

/-- The exit status of `main`. -/
def HelperExit.code : HelperExit → ℕ
  | success => 0
  | exit => exit.ctorIdx + 1

/-- The statuses `network_sidebar_amneziawg_helper_exit_is_valid` accepts. -/
def helperExitOf (code : ℕ) : Option HelperExit :=
  [HelperExit.success, .usage, .notRoot, .invalidName, .inputTooLarge, .invalidConfig,
    .replaceConfirmationRequired, .notFound, .active, .interfaceConflict, .awgQuickUnavailable,
    .awgQuickFailed, .filesystemFailed, .runtimeFailed, .rollbackFailed, .inputFailed,
    .childSetupFailed, .interfaceCreationFailed, .userspaceFailed, .setconfFailed,
    .addressFailed, .mtuFailed, .dnsFailed, .routeFailed, .firewallFailed, .childSignaled,
    .dnsBackendUnavailable, .dnsApplyFailed, .dnsRevertFailed, .dnsRollbackFailed,
    .inventoryPartial, .timedOut, .firewallCleanupFailed, .switchCleanupFailed].find?
      (·.code = code)

/-- `HELPER_TERMINATION_GRACE_MSEC`. -/
def helperTerminationGraceMsec : ℕ := 2000

/-- `HELPER_CLEANUP_REAP_GRACE_MSEC`. -/
def helperCleanupReapGraceMsec : ℕ := 200

/-- `GROUP_CLEANUP_TIMEOUT_MSEC`. -/
def groupCleanupTimeoutMsec : ℕ := 2000

/-! ## The state of a run -/

/-- `RunStopReason`. -/
inductive RunStopReason where
  | none
  | timeout
  | shutdown
  | ioFailure
  | preempted
  deriving DecidableEq

/-- The fields of `NetworkSidebarAwgHelperRunner` a run works on. -/
structure HelperRunner where
  releasedGroups : List ℤ
  pendingChildReaps : List ℕ
  failed : Bool
  deriving DecidableEq

/-- What the result callback is called with. -/
structure HelperResult where
  status : HelperExit
  profiles : Option ProfileReport

/-- `AwgHelperRun` once its helper has been spawned. `result` is what was sent, so it is there
exactly where `result_sent` is set. `handedOut` is not in the source: it records the group that
`finalize_release` has handed out. A finished run has been freed. -/
structure AwgHelperRun where
  runner : HelperRunner
  profileReport : Bool
  helperPid : ℕ
  stdinOpen : Bool
  stdoutOpen : Bool
  helperOutput : Bytes
  supervisor : Option Supervisor
  helperOutputDone : Bool
  helperInputDone : Bool
  helperReaped : Bool
  groupCleanupDone : Bool
  helperCleanupKillRequested : Bool
  helperForceKillSent : Bool
  helperIoFailed : Bool
  helperStatus : HelperExit
  deadlines : Deadlines
  forceKillDeadline : ℤ
  groupCleanupDeadline : ℤ
  supervisorCloseObservedAt : ℤ
  helperExitObservedAt : ℤ
  forwardTimeoutSent : Bool
  result : Option HelperResult
  stopReason : RunStopReason
  handedOut : Option ℤ
  finished : Bool

namespace AwgHelperRun

/-! ## Results -/

/-- `mark_failed`. -/
def markFailed (run : AwgHelperRun) : AwgHelperRun :=
  { run with runner := { run.runner with failed := true } }

/-- `effective_status`. -/
def effectiveStatus (run : AwgHelperRun) : HelperExit :=
  let status :=
    if run.helperIoFailed ∧ run.stopReason = RunStopReason.none then .childSetupFailed else run.helperStatus
  if run.stopReason = .preempted then .childSignaled
  else if status = .rollbackFailed ∨ status = .dnsRollbackFailed then status
  else if run.stopReason = .timeout ∨ run.forwardTimeoutSent then .timedOut
  else if run.stopReason = .shutdown then .childSignaled
  else if run.stopReason = .ioFailure then .childSetupFailed
  else status

/-- The result `publish_result` sends. -/
def resultOf (run : AwgHelperRun) : HelperResult :=
  let status := run.effectiveStatus
  if run.profileReport ∧ (status = .success ∨ status = .inventoryPartial) then
    match profileReportDecode run.helperOutput status with
    | none => ⟨.childSetupFailed, none⟩
    | some report => ⟨status, some report⟩
  else ⟨status, none⟩

/-- `publish_result`. -/
def publishResult (run : AwgHelperRun) : AwgHelperRun :=
  if run.result.isSome then run else { run with result := some run.resultOf }

/-! ## Stopping -/

/-- `signal_helper`. -/
def signalHelper (run : AwgHelperRun) (signal : Signal) : ServiceM Unit :=
  if run.helperReaped then return () else sys (.signalHelper signal)

/-- Both pipes of the helper are given up. -/
def closePipes (run : AwgHelperRun) : AwgHelperRun :=
  { run with
    stdinOpen := false, stdoutOpen := false, helperInputDone := true, helperOutputDone := true }

/-- `begin_stop`. -/
def beginStop (run : AwgHelperRun) (reason : RunStopReason) : ServiceM AwgHelperRun := do
  let run := { run.closePipes with
    stopReason := if run.stopReason = RunStopReason.none then reason else run.stopReason }
  if run.helperReaped ∨ run.groupCleanupDone ∨ run.forceKillDeadline ≠ 0 then return run
  else
    if ¬(reason = .timeout ∧ run.forwardTimeoutSent ∧
        run.deadlines.forwardAt = run.deadlines.cleanupAt) then
      run.signalHelper .term
    let now ← sys .monotonicMsec
    return { run with
      forceKillDeadline := deadlineCap now run.deadlines.hardAt helperTerminationGraceMsec }

/-- `fail_helper_io`. -/
def failHelperIo (run : AwgHelperRun) : ServiceM AwgHelperRun :=
  { run with helperIoFailed := true }.beginStop .ioFailure

/-! ## Cleanup of groups -/

/-- The state once `begin_supervisor_cleanup` or `refresh_supervisor_cleanup` has left the
supervisor in the state `s`. -/
def cleaned (run : AwgHelperRun) (s : Supervisor) : AwgHelperRun :=
  { run with supervisor := some s, groupCleanupDone := s.groupsEmpty }

/-- The deadline `begin_supervisor_cleanup` sets at its first `SIGKILL`. -/
def setGroupCleanupDeadline (run : AwgHelperRun) (signal : Signal) : ServiceM AwgHelperRun := do
  if signal = .kill ∧ run.groupCleanupDeadline = 0 then
    let now ← sys .monotonicMsec
    return { run with
      groupCleanupDeadline := deadlineCap now run.deadlines.hardAt groupCleanupTimeoutMsec }
  else return run

/-- `begin_supervisor_cleanup`. -/
def beginSupervisorCleanup (run : AwgHelperRun) (signal : Signal) : ServiceM AwgHelperRun := do
  let run ← run.setGroupCleanupDeadline signal
  match run.supervisor with
  | none => return { run with groupCleanupDone := true }
  | some s => run.cleaned <$> s.beginCleanup.signalGroups signal

/-- `refresh_supervisor_cleanup`. -/
def refreshSupervisorCleanup (run : AwgHelperRun) : ServiceM AwgHelperRun := do
  match run.supervisor with
  | none => return { run with groupCleanupDone := true }
  | some s => run.cleaned <$> s.pollCleanup

/-- `track_released_group`. -/
def trackReleasedGroup (run : AwgHelperRun) (processGroup : ℤ) : ServiceM AwgHelperRun := do
  let (_, last) ← sys (.reapGroup processGroup)
  match last with
  | .running =>
    return { run with
      runner := { run.runner with releasedGroups := processGroup :: run.runner.releasedGroups } }
  | .noChild => return run
  | .failed => return run.markFailed

/-- `track_released_group` for every group of a list. -/
def trackReleasedGroups (run : AwgHelperRun) : List ℤ → ServiceM AwgHelperRun
  | [] => return run
  | processGroup :: groups => do
    let run ← run.trackReleasedGroup processGroup
    run.trackReleasedGroups groups

/-- `detach_stalled_group_cleanup`. -/
def detachStalledGroupCleanup (run : AwgHelperRun) (s : Supervisor) : ServiceM AwgHelperRun := do
  let (groups, s) ← s.detachTerminatedGroups
  let run ← run.trackReleasedGroups groups
  return run.cleaned s

/-- `complete_helper_supervision` where groups are left: they are killed. -/
def cleanLeftGroups (run : AwgHelperRun) : ServiceM AwgHelperRun := do
  let run := if run.stopReason = RunStopReason.none then { run with helperIoFailed := true } else run
  let run ← run.beginSupervisorCleanup .kill
  let run ← run.refreshSupervisorCleanup
  if run.profileReport = false ∧ run.groupCleanupDone = false ∧ run.groupCleanupDeadline > 0 then
    let now ← sys .monotonicMsec
    match run.supervisor with
    | some s =>
      if now ≥ run.groupCleanupDeadline then run.detachStalledGroupCleanup s else return run
    | none => return run
  else return run

/-- The helper exited as it should, and nothing stopped or failed the run. -/
def cleanExit (run : AwgHelperRun) (s : Supervisor) : Bool :=
  decide (run.stopReason = RunStopReason.none) && !run.helperIoFailed &&
    decide (run.helperStatus = .success) && !s.failed

/-- The release of `complete_helper_supervision`. -/
def finalizeRelease (run : AwgHelperRun) (s : Supervisor) : ServiceM AwgHelperRun := do
  if run.cleanExit s then
    let (released, s) ← s.finalizeRelease
    let run := { run with supervisor := some s }
    match released with
    | none => return run
    | some processGroup =>
      let run := { run with handedOut := some processGroup }
      run.trackReleasedGroup processGroup
  else return { run with supervisor := some s }

/-- `complete_helper_supervision` from the point where the channel is closed. -/
def completeClosed (run : AwgHelperRun) (s : Supervisor) : ServiceM AwgHelperRun := do
  let run ← run.finalizeRelease s
  if run.supervisor.all (·.groupsEmpty) then return { run with groupCleanupDone := true }
  else run.cleanLeftGroups

/-- `complete_helper_supervision`. -/
def completeHelperSupervision (run : AwgHelperRun) : ServiceM AwgHelperRun := do
  if run.helperReaped = false ∨ run.groupCleanupDone then return run
  else
    match run.supervisor with
    | none => return { run with groupCleanupDone := true }
    | some s =>
      if s.channelClosed then run.completeClosed s
      else
        let now ← sys .monotonicMsec
        if run.helperExitObservedAt = 0 then return { run with helperExitObservedAt := now }
        else if now - run.helperExitObservedAt < 100 then return run
        else
          let run ← run.beginStop .ioFailure
          let s ← s.abort
          let run := { run with helperIoFailed := true }
          run.completeClosed s

/-! ## Input and output -/

/-- `poll_supervisor`. There is no outcome where polling does not end within `rounds`. -/
def pollSupervisor (run : AwgHelperRun) (rounds : ℕ) : ServiceM (Option AwgHelperRun) := do
  match run.supervisor with
  | none =>
    if run.stopReason = RunStopReason.none then some <$> run.failHelperIo else return some run
  | some s =>
    match ← s.poll rounds with
    | none => return none
    | some (polled, s) =>
      let run := { run with supervisor := some s }
      if polled = false ∧ run.stopReason = RunStopReason.none then some <$> run.failHelperIo
      else return some run

/-- `write_helper_input`. -/
def writeHelperInput (run : AwgHelperRun) : ServiceM AwgHelperRun := do
  if run.stdinOpen then
    match ← sys .writeHelperInput with
    | .open => return run
    | .done => return { run with stdinOpen := false, helperInputDone := true }
    | .failed => run.failHelperIo
  else return run

/-- `read_helper_output`. A report that grows too long fails like a read. -/
def readHelperOutput (run : AwgHelperRun) : ServiceM AwgHelperRun := do
  if run.stdoutOpen then
    let (output, result) ← sys .readHelperOutput
    let run := { run with helperOutput := run.helperOutput ++ output }
    match result with
    | .open => return run
    | .done => return { run with stdoutOpen := false, helperOutputDone := true }
    | .failed => run.failHelperIo
  else return run

/-! ## The end of the helper -/

/-- What `record_helper_reap` makes of a wait status that is known. -/
def reapedStatus (profileReport : Bool) : HelperWait → HelperExit
  | .signaled => .childSignaled
  | .other => .childSetupFailed
  | .exited code =>
    match helperExitOf code with
    | none => .childSetupFailed
    | some exit =>
      if profileReport = false ∧ exit = .inventoryPartial then .childSetupFailed else exit

/-- `record_helper_reap`. -/
def recordHelperReap (run : AwgHelperRun) (status : Option HelperWait) : AwgHelperRun :=
  { run with
    helperStatus := (status.map (reapedStatus run.profileReport)).getD .childSetupFailed
    helperReaped := true }

/-- `helper_has_exited` from its label `helper_lost`. -/
def helperLost (run : AwgHelperRun) : ServiceM AwgHelperRun := do
  let run := { run.markFailed with
    stopReason := if run.stopReason = RunStopReason.none then .ioFailure else run.stopReason
    helperIoFailed := true }
  let run ← (run.recordHelperReap none).beginSupervisorCleanup .kill
  return run.closePipes

/-- `helper_has_exited`. -/
def helperHasExited (run : AwgHelperRun) : ServiceM (Bool × AwgHelperRun) := do
  match ← sys .peekHelper with
  | .exited => return (true, run)
  | .running => return (false, run)
  | .noChild => Prod.mk false <$> run.helperLost
  | .failed =>
    match ← sys .reapHelperNow with
    | .reaped status => return (false, run.recordHelperReap (some status))
    | .noChild => Prod.mk false <$> run.helperLost
    | .running | .failed =>
      if run.stopReason = RunStopReason.none then Prod.mk false <$> run.markFailed.failHelperIo
      else return (false, run.markFailed)

/-- `reap_helper`. -/
def reapHelper (run : AwgHelperRun) : ServiceM AwgHelperRun := do
  if run.helperReaped then return { run.markFailed with helperIoFailed := true }
  else
    match ← sys .reapHelper with
    | .reaped status => return run.recordHelperReap (some status)
    | .failed => return { run.markFailed with helperIoFailed := true }
    | .running | .noChild =>
      return { run.markFailed with helperIoFailed := true }.recordHelperReap none

/-- `detach_stalled_helper`. -/
def detachStalledHelper (run : AwgHelperRun) : ServiceM AwgHelperRun := do
  if run.helperReaped then return run
  else
    let run := { run.closePipes with
      runner := { run.runner with
        pendingChildReaps := run.helperPid :: run.runner.pendingChildReaps }
      helperReaped := true
      helperIoFailed := true
      helperStatus := .childSetupFailed }
    match run.supervisor with
    | none => return run
    | some s =>
      let s ← s.abort
      return { run with supervisor := some s }

/-- `network_sidebar_awg_supervisor_free`, after which nothing is left of the supervisor. -/
def freeSupervisor (s : Supervisor) : ServiceM Unit := do
  let s ← if s.ownedGroups = [] then pure s else s.signalGroups .kill
  reapSentinels s.ownedGroups
  let _ ← s.reapRetiredSentinels
  if s.channelClosed then return () else sys .closeChannel
where
  /-- `reap_sentinel` for every group of a list. -/
  reapSentinels : List SupervisedGroup → ServiceM Unit
    | [] => return ()
    | group :: groups => do
      let _ ← Supervisor.reapSentinel group
      reapSentinels groups

/-- `finish_run`. -/
def finishRun (run : AwgHelperRun) : ServiceM AwgHelperRun := do
  let run := run.publishResult
  let runner ← match run.supervisor with
    | none => pure run.runner
    | some s => do
      let (sentinels, s) ← s.detachRetiredSentinels
      freeSupervisor s
      pure { run.runner with pendingChildReaps := sentinels ++ run.runner.pendingChildReaps }
  let pendingChildReaps ← Supervisor.unreaped runner.pendingChildReaps
  return { run with runner := { runner with pendingChildReaps }, finished := true }

/-- `maybe_finish_helper` finishes the run. -/
def mayFinish (run : AwgHelperRun) : Bool :=
  run.helperReaped && run.groupCleanupDone && run.helperInputDone && run.helperOutputDone &&
    run.supervisor.all (·.channelClosed)

/-! ## The timer -/

/-- The forward deadline in `helper_poll_cb`. -/
def forwardTimeout (run : AwgHelperRun) (exited : Bool) (now : ℤ) : ServiceM AwgHelperRun := do
  if run.stopReason = RunStopReason.none ∧ run.forwardTimeoutSent = false ∧ run.helperReaped = false ∧
      exited = false ∧ now ≥ run.deadlines.forwardAt ∧
      ¬(run.supervisor.any (·.releasePending)) then
    run.signalHelper .term
    return { run with
      supervisor := run.supervisor.map (·.disableRelease), forwardTimeoutSent := true }
  else return run

/-- The cleanup deadline in `helper_poll_cb`. -/
def cleanupTimeout (run : AwgHelperRun) (exited : Bool) (now : ℤ) : ServiceM AwgHelperRun := do
  if run.stopReason = RunStopReason.none ∧ run.helperReaped = false ∧ exited = false ∧
      now ≥ run.deadlines.cleanupAt then
    run.beginStop .timeout
  else return run

/-- The watch of `helper_poll_cb` over a channel that closed before the helper exited. -/
def channelTimeout (run : AwgHelperRun) (exited : Bool) (now : ℤ) : ServiceM AwgHelperRun := do
  if exited = false ∧ run.helperReaped = false ∧ run.supervisor.any (·.channelClosed) then
    if run.supervisorCloseObservedAt = 0 then
      return { run with supervisorCloseObservedAt := now }
    else if run.stopReason = RunStopReason.none ∧ now - run.supervisorCloseObservedAt ≥ 100 then
      run.failHelperIo
    else return run
  else return run

/-- The stages of force in `helper_poll_cb`. -/
def forceKill (run : AwgHelperRun) (now : ℤ) : ServiceM AwgHelperRun := do
  if run.stopReason ≠ RunStopReason.none ∧ run.helperReaped = false ∧ now ≥ run.forceKillDeadline then
    if run.helperCleanupKillRequested = false then
      run.signalHelper .int
      let run ← run.beginSupervisorCleanup .term
      return { run with
        helperCleanupKillRequested := true
        forceKillDeadline := deadlineCap now run.deadlines.hardAt helperCleanupReapGraceMsec }
    else if run.helperForceKillSent = false then
      run.signalHelper .kill
      let run ← run.beginSupervisorCleanup .kill
      return { run with helperForceKillSent := true }
    else return run
  else return run

/-- The reaping in `helper_poll_cb`. -/
def reapOrDetach (run : AwgHelperRun) (rounds : ℕ) (exited : Bool) (now : ℤ) :
    ServiceM (Option AwgHelperRun) := do
  if exited then
    match ← run.pollSupervisor rounds with
    | none => return none
    | some run => some <$> run.reapHelper
  else if run.profileReport = false ∧ run.helperForceKillSent ∧ run.helperReaped = false ∧
      run.groupCleanupDeadline > 0 ∧ now ≥ run.groupCleanupDeadline then
    some <$> run.detachStalledHelper
  else return some run

/-- The supervision in `helper_poll_cb`, once the helper is reaped. -/
def completeReaped (run : AwgHelperRun) : ServiceM AwgHelperRun :=
  if run.helperReaped then run.completeHelperSupervision else return run

/-- The end of `helper_poll_cb`, once the helper has been looked after. -/
def completePoll (run : AwgHelperRun) (now : ℤ) : ServiceM AwgHelperRun := do
  let run ← run.completeReaped
  let run := if run.helperReaped ∧ run.helperInputDone = false then
      { run with helperIoFailed := true, stdinOpen := false, helperInputDone := true }
    else run
  let run ← run.readHelperOutput
  if run.mayFinish then run.finishRun
  else if run.profileReport ∧ now ≥ run.deadlines.hardAt then return run.publishResult
  else return run

/-- The look at the helper in `helper_poll_cb`. -/
def observeExit (run : AwgHelperRun) : ServiceM (Bool × AwgHelperRun) :=
  if run.helperReaped then return (false, run) else run.helperHasExited

/-- The deadlines in `helper_poll_cb` that are looked at once the supervisor has been polled. -/
def enforceDeadlines (run : AwgHelperRun) (exited : Bool) (now : ℤ) : ServiceM AwgHelperRun := do
  let run ← run.cleanupTimeout exited now
  let run ← run.channelTimeout exited now
  run.forceKill now

/-- `helper_poll_cb`. -/
def helperPollCb (run : AwgHelperRun) (rounds : ℕ) : ServiceM (Option AwgHelperRun) := do
  let run ← run.writeHelperInput
  let run ← run.readHelperOutput
  let (exited, run) ← run.observeExit
  let now ← sys .monotonicMsec
  let run ← run.forwardTimeout exited now
  match ← run.pollSupervisor rounds with
  | none => return none
  | some run =>
    let run ← run.enforceDeadlines exited now
    match ← run.reapOrDetach rounds exited now with
    | none => return none
    | some run => some <$> run.completePoll now

/-! ## Runs -/

/-- `NetworkSidebarAwgHelperStopReason`. -/
inductive HelperStopReason where
  | shutdown
  | preempted
  deriving DecidableEq

/-- `network_sidebar_awg_helper_runner_stop`. -/
def runnerStop (run : AwgHelperRun) (reason : HelperStopReason) : ServiceM AwgHelperRun := do
  let run ← run.beginStop (if reason = .preempted then .preempted else .shutdown)
  if run.profileReport ∧ reason = .preempted then return run.publishResult else return run

/-- What happens to a run: a tick of its timer, or a stop. -/
inductive RunnerEvent where
  | tick
  | stop (reason : HelperStopReason)
  deriving DecidableEq

/-- One event; nothing happens to a run that is finished. -/
def onEvent (run : AwgHelperRun) (rounds : ℕ) (event : RunnerEvent) :
    ServiceM (Option AwgHelperRun) :=
  if run.finished then return some run
  else
    match event with
    | .tick => run.helperPollCb rounds
    | .stop reason => some <$> run.runnerStop reason

/-- Any number of events, one after the other. -/
def onEvents (run : AwgHelperRun) (rounds : ℕ) : List RunnerEvent → ServiceM (Option AwgHelperRun)
  | [] => return some run
  | event :: events => do
    match ← run.onEvent rounds event with
    | none => return none
    | some run => run.onEvents rounds events

end AwgHelperRun

end NmSidebar
