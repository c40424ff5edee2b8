import NmSidebar.Client.Authorization
import NmSidebar.Supervision.EarnedSuccess

/-!
# The service

The functions of `amneziawg_service.c`, which run in one main loop. A request is admitted, passes an
authorization check and an enumeration of the policy, may wait for an inventory to be preempted, and
is then handed to the helper runner. The replies of polkit, the timers and the end of a helper come
in any order.
-/

namespace NmSidebar

open Text Effects

/-! ## Requests -/

/-- `AwgSenderOperation`. -/
inductive SenderOperation where
  | inventory
  | action
  deriving DecidableEq

/-- `struct _AwgServiceRequest`, which is found under the number of its method invocation.
`cancelled` is the state of `authorization_cancellable`. `checkBegun` and `policyBegun` are not in
the source: they are the generations of the policy in which polkit was asked. -/
structure AwgServiceRequest where
  operation : Bytes
  name : Bytes
  sender : Bytes
  profileReport : Bool
  configValue : Option Bytes
  cancelled : Bool
  authorizationDeadline : ℤ
  authorizationGeneration : ℕ
  preemptDeadline : ℤ
  authorizationPending : Bool
  replySent : Bool
  checkBegun : ℕ
  policyBegun : Option ℕ

/-- What a method invocation is answered. -/
inductive ServiceReply where
  | error (name message : Bytes)
  | status (status : HelperExit)
  | profiles (status : HelperExit) (capabilities : ℕ) (profiles : List (Name × ProfileStatus))
      (complete : Bool)

/-- A call to polkit that a request waits for. -/
inductive RequestCall where
  | check
  | policy
  deriving DecidableEq

/-- A timer of a request. -/
inductive RequestTimer where
  | authorization
  | preempt
  deriving DecidableEq

/-- A call to polkit that the service itself waits for. -/
inductive PolicyCall where
  | authority
  | enumeration
  deriving DecidableEq

/-! ## The state -/

/-- `AwgService`, as far as it keeps account of its requests. `requests` are those that are
allocated, `calls` and `timers` what the main loop waits for, for a request. `invocations` and
`replies` are not in the source: the number of method invocations, and what was replied to them. -/
structure ServiceState where
  policyGeneration : ℕ
  policyReady : Bool
  pendingSenders : Bytes → SenderOperation → Bool
  pendingRequests : List ℕ
  run : Option AwgHelperRun
  pendingAuthorizations : ℕ
  activeRequest : Option ℕ
  pendingAction : Option ℕ
  failed : Bool
  stopping : Bool
  requests : ℕ → Option AwgServiceRequest
  calls : List (ℕ × RequestCall)
  timers : List (ℕ × RequestTimer)
  invocations : ℕ
  replies : List (ℕ × ServiceReply)

/-- `AwgService`, with the runner. `policyCalls` are the calls that the main loop waits for. `clock`
is not in the source: the last reading of the clock. -/
structure AwgService extends ServiceState where
  authority : Bool
  policyCancelled : Bool
  policyTimeoutSource : Bool
  policyDeadline : ℤ
  policyCheckGeneration : ℕ
  policyPending : Bool
  policyCalls : List PolicyCall
  runner : HelperRunner
  runCapabilities : ℕ
  registered : Bool
  ownsName : Bool
  idleSource : Bool
  quit : Bool
  clock : ℤ

/-- The service's view of the kernel: the runner's calls, and the spawning of a helper with what
`helper_capabilities` finds. A function that would not return hangs. -/
inductive HostCall where
  | kernel (o : ServiceCall)
  | spawnHelper
  | hang

/-- The reply to each call. -/
@[reducible] def HostCall.Reply : HostCall → Type
  | kernel o => o.Reply
  | spawnHelper => ℕ × SpawnOutcome
  | hang => Empty

/-- The signature of the kernel. -/
abbrev hostSig : Signature := ⟨HostCall, HostCall.Reply⟩

/-- The points of the service that are looked at: `start_helper` of a request, and the runner that
spawns a helper. At `tooDeep` the callbacks are nested more deeply than the model goes. -/
inductive ServicePoint where
  | startHelper (request : ℕ)
  | spawnHelper
  | tooDeep
  deriving DecidableEq

/-- A function of the service. -/
abbrev AwgServiceM := Prog (calloutSig AwgService ServicePoint hostSig)

/-- A function of the runner. -/
def onKernel {α : Type} (p : ServiceM α) : AwgServiceM α :=
  p.interpret fun o => system (S := hostSig) (.kernel o)

/-- A function that does not return. -/
def hang {α : Type} : AwgServiceM α := .call (.sys .hang) Empty.elim

/-! ## Names -/

/-- `NETWORK_SIDEBAR_AMNEZIAWG_DBUS_INTERFACE`. -/
def dbusInterface : Bytes := ascii "dev.relz.NmSidebar.AmneziaWG"

/-- The error `.Error.Busy`. -/
def errorBusy : Bytes := dbusInterface ++ ascii ".Error.Busy"

/-- The error `.Error.NotAuthorized`. -/
def errorNotAuthorized : Bytes := dbusInterface ++ ascii ".Error.NotAuthorized"

/-- The error `.Error.InvalidRequest`. -/
def errorInvalidRequest : Bytes := dbusInterface ++ ascii ".Error.InvalidRequest"

/-- `AUTHORIZATION_TIMEOUT_SECONDS`, in milliseconds. -/
def authorizationTimeoutMsec : ℕ := 15000

/-- `NETWORK_SIDEBAR_AMNEZIAWG_PREEMPT_TIMEOUT_MSEC`. -/
def preemptTimeoutMsec : ℕ := 5000

/-- `MAX_PENDING_AUTHORIZATIONS`. -/
def maxPendingAuthorizations : ℕ := 8

/-- `G_MAXUINT64`. -/
def maxUint64 : ℕ := 2 ^ 64 - 1

/-- `operation_is_valid`: whether the operation needs a configuration, if it is one. Every one
needs a name. -/
def operationNeedsConfig (operation : Bytes) : Option Bool :=
  if operation = ascii "import" ∨ operation = ascii "replace" then some true
  else if operation = ascii "up" ∨ operation = ascii "down" ∨ operation = ascii "delete" then
    some false
  else none

/-- `sender_operation`. -/
def senderOperation (operation : Bytes) : SenderOperation :=
  if operation = ascii "list-profiles" then .inventory else .action

namespace AwgService

/-! ## Replies -/

/-- A request is changed in place. -/
def modify (s : AwgService) (id : ℕ) (f : AwgServiceRequest → AwgServiceRequest) : AwgService :=
  { s with requests := fun id' => if id' = id then (s.requests id).map f else s.requests id' }

/-- `g_dbus_method_invocation_return_value` and `g_dbus_method_invocation_return_dbus_error`. -/
def answer (s : AwgService) (invocation : ℕ) (reply : ServiceReply) : AwgService :=
  { s with replies := (invocation, reply) :: s.replies }

/-- The reply to a request is sent unless one was. -/
def sendReply (s : AwgService) (id : ℕ) (reply : ServiceReply) : AwgService :=
  match s.requests id with
  | none => s
  | some request =>
    if request.replySent then s
    else (s.modify id fun request => { request with replySent := true }).answer id reply

/-- `reply_error`. -/
def replyError (s : AwgService) (id : ℕ) (name message : Bytes) : AwgService :=
  s.sendReply id (.error name message)

/-- `reply_status`. -/
def replyStatus (s : AwgService) (id : ℕ) (status : HelperExit) : AwgService :=
  s.sendReply id (.status status)

/-- `cancel_authorization`. -/
def cancelAuthorization (s : AwgService) (name message : Bytes) (id : ℕ) : AwgService :=
  let s := s.replyError id name message
  let s := if s.pendingAction = some id then { s with pendingAction := none } else s
  s.modify id fun request => { request with cancelled := true }

/-- `finish_authorization`. -/
def finishAuthorization (s : AwgService) (id : ℕ) : AwgService :=
  match s.requests id with
  | none => s
  | some request =>
    if request.authorizationPending = false then s
    else
      { s.modify id fun request => { request with authorizationPending := false } with
        pendingRequests := s.pendingRequests.filter (· ≠ id)
        pendingAuthorizations := s.pendingAuthorizations - 1
        timers := s.timers.filter (· ≠ (id, RequestTimer.authorization)) }

/-- `helper_result_cb`. -/
def helperResultCb (s : AwgService) (result : HelperResult) : AwgService :=
  match s.activeRequest with
  | none => s
  | some id =>
    match s.requests id with
    | none => s
    | some request =>
      if request.profileReport then
        s.sendReply id (.profiles result.status s.runCapabilities
          ((result.profiles.map (·.records)).getD []) (result.profiles.any (·.complete)))
      else s.replyStatus id result.status

/-! ## Idling -/

/-- `network_sidebar_awg_helper_runner_is_busy`. -/
def isBusy (s : AwgService) : AwgServiceM (Bool × AwgService) := do
  let pendingChildReaps ← onKernel (Supervisor.unreaped s.runner.pendingChildReaps)
  return (s.run.isSome || !pendingChildReaps.isEmpty,
    { s with runner := { s.runner with pendingChildReaps } })

/-- `service_has_pending_work`. -/
def hasPendingWork (s : AwgService) : AwgServiceM (Bool × AwgService) :=
  if s.activeRequest.isSome ∨ s.pendingAction.isSome ∨ s.pendingAuthorizations ≠ 0 ∨
      s.policyPending then
    return (true, s)
  else s.isBusy

/-- `service_update_idle_state`. -/
def updateIdleState (s : AwgService) : AwgServiceM AwgService := do
  let (pending, s) ← s.hasPendingWork
  if pending then return { s with idleSource := false }
  else if s.stopping then return { s with quit := true }
  else return { s with idleSource := true }

/-- `idle_timeout_cb`. -/
def idleTimeoutCb (s : AwgService) : AwgServiceM AwgService := do
  let (pending, s) ← { s with idleSource := false }.hasPendingWork
  if pending then return s else return { s with quit := true }

/-! ## Requests end -/

/-- What `request_free` takes of a request before the state of idling is updated. -/
def dropRequest (s : AwgService) (id : ℕ) (request : AwgServiceRequest) : AwgService :=
  { s with
    activeRequest := if s.activeRequest = some id then none else s.activeRequest
    pendingAction := if s.pendingAction = some id then none else s.pendingAction
    timers := s.timers.filter (· ≠ (id, RequestTimer.preempt))
    pendingSenders := fun sender operation =>
      if sender = request.sender ∧ operation = senderOperation request.operation then false
      else s.pendingSenders sender operation }

/-- `request_free`. -/
def requestFree (s : AwgService) (id : ℕ) : AwgServiceM AwgService := do
  let s := s.finishAuthorization id
  match s.requests id with
  | none => return s
  | some request =>
    let s ← (s.dropRequest id request).updateIdleState
    return { s with requests := fun id' => if id' = id then none else s.requests id' }

/-- The first part of `cancel_pending_authorizations`: an action that waits is freed. -/
def cancelWaiting (s : AwgService) : AwgServiceM AwgService :=
  match s.pendingAction with
  | none => return s
  | some id =>
    match s.requests id with
    | none => return s
    | some request =>
      if request.authorizationPending then return s
      else (s.replyError id errorNotAuthorized
        (ascii "AmneziaWG authorization was cancelled")).requestFree id

/-- `cancel_pending_authorizations`. -/
def cancelPendingAuthorizations (s : AwgService) : AwgServiceM AwgService := do
  let s := if s.stopping ∧ s.policyPending then { s with policyCancelled := true } else s
  let s ← s.cancelWaiting
  return s.pendingRequests.foldl (fun s id => s.cancelAuthorization errorNotAuthorized
    (ascii "AmneziaWG authorization was cancelled") id) s

/-! ## The policy -/

/-- A reading of the clock. -/
def monotonicMsec (s : AwgService) : AwgServiceM AwgService := do
  let clock ← onKernel (sys .monotonicMsec)
  return { s with clock }

/-- `service_fail_unsafe_policy`. -/
def failUnsafePolicy (s : AwgService) : AwgServiceM AwgService := do
  let s := { s with failed := true }
  if s.stopping then return s
  else
    let s ← { s with stopping := true, idleSource := false }.cancelPendingAuthorizations
    s.updateIdleState

/-- `enumerate_service_policy`. -/
def enumerateServicePolicy (s : AwgService) : AwgService :=
  { s with
    policyCheckGeneration := s.policyGeneration
    policyCalls := .enumeration :: s.policyCalls }

/-- `begin_policy_validation`. -/
def beginPolicyValidation (s : AwgService) : AwgServiceM AwgService := do
  if s.stopping ∨ s.policyPending then return s
  else
    let s ← { s with
      policyPending := true, policyReady := false, policyCancelled := false }.monotonicMsec
    let s ← { s with
      policyDeadline := deadlineCap s.clock maxInt64 authorizationTimeoutMsec
      policyTimeoutSource := true }.updateIdleState
    if s.authority then return s.enumerateServicePolicy
    else return { s with policyCalls := .authority :: s.policyCalls }

/-- `authorization_changed_cb`. -/
def authorizationChangedCb (s : AwgService) : AwgServiceM AwgService := do
  if s.stopping then return s
  else if s.policyGeneration = maxUint64 then s.failUnsafePolicy
  else
    let s ← { s with
      policyGeneration := s.policyGeneration + 1
      policyReady := false }.cancelPendingAuthorizations
    s.beginPolicyValidation

/-- `finish_policy_validation`. -/
def finishPolicyValidation (s : AwgService) : AwgServiceM AwgService :=
  { s with
    policyPending := false
    policyTimeoutSource := false
    policyCancelled := false }.updateIdleState

/-- `service_policy_checked_cb`. -/
def servicePolicyCheckedCb (s : AwgService) (safe : Bool) : AwgServiceM AwgService := do
  if s.stopping then s.finishPolicyValidation
  else
    let s ← s.monotonicMsec
    if s.clock ≥ s.policyDeadline then
      let s ← s.failUnsafePolicy
      s.finishPolicyValidation
    else if s.policyCheckGeneration ≠ s.policyGeneration then return s.enumerateServicePolicy
    else if safe = false then
      let s ← s.failUnsafePolicy
      s.finishPolicyValidation
    else
      let s := { s with policyReady := true, ownsName := true }
      s.finishPolicyValidation

/-- `authority_ready_cb`. -/
def authorityReadyCb (s : AwgService) (authority : Bool) : AwgServiceM AwgService := do
  if s.stopping then s.finishPolicyValidation
  else if authority = false then
    let s ← s.failUnsafePolicy
    s.finishPolicyValidation
  else
    let s ← s.monotonicMsec
    if s.clock ≥ s.policyDeadline then
      let s ← s.failUnsafePolicy
      s.finishPolicyValidation
    else return { s with authority := true }.enumerateServicePolicy

/-- `policy_validation_timeout_cb`. -/
def policyValidationTimeoutCb (s : AwgService) : AwgServiceM AwgService :=
  { s with policyTimeoutSource := false }.failUnsafePolicy

/-! ## The runner -/

/-- A failure of the runner is told while its run goes on. -/
def tellFailure (s : AwgService) (changed : AwgService → AwgServiceM AwgService)
    (runner : HelperRunner) : AwgServiceM AwgService :=
  if s.runner.failed = false ∧ runner.failed then changed { s with runner }
  else return { s with runner }

/-- A result is told that was not sent before. -/
def tellResult (s : AwgService) (before run : AwgHelperRun) : AwgService :=
  match before.result, run.result with
  | none, some result => s.helperResultCb result
  | _, _ => s

/-- The service's part in what a function of the runner has done to its run: a failure of the runner
is told first, then the result, then the end of the run. -/
def afterRun (s : AwgService) (changed : AwgService → AwgServiceM AwgService)
    (before run : AwgHelperRun) : AwgServiceM AwgService := do
  let s ← s.tellFailure changed run.runner
  let s := s.tellResult before run
  if run.finished then changed { s with run := none } else return { s with run := some run }

/-- `network_sidebar_awg_helper_runner_start`. The run that it begins has sent nothing, and is
finished at once if no helper could be spawned. -/
def helperRunnerStart (s : AwgService) (changed : AwgService → AwgServiceM AwgService)
    (operation config : Bytes) : AwgServiceM (Bool × AwgService) := do
  if s.runner.failed then return (false, s)
  else
    let (busy, s) ← s.isBusy
    if busy then return (false, s)
    else
      let s ← callout .spawnHelper s
      let (runCapabilities, outcome) ← system (S := hostSig) .spawnHelper
      let run ← onKernel (runnerStart operation config s.runner outcome)
      let begun := { run with result := none, finished := false }
      let s ← { s with runCapabilities, run := some begun }.afterRun changed begun run
      return (true, s)

/-- `network_sidebar_awg_helper_runner_stop`. -/
def helperRunnerStop (s : AwgService) (reason : AwgHelperRun.HelperStopReason) :
    AwgServiceM AwgService :=
  match s.run with
  | none => return s
  | some before => do
    let run ← onKernel ({ before with runner := s.runner }.runnerStop reason)
    s.afterRun (fun s => return s) before run

/-- `start_helper`. -/
def startHelper (s : AwgService) (changed : AwgService → AwgServiceM AwgService) (id : ℕ) :
    AwgServiceM AwgService := do
  let s ← callout (.startHelper id) s
  match s.requests id with
  | none => return s
  | some request =>
    let (started, s) ← (s.modify id fun request =>
      { request with configValue := none }).helperRunnerStart changed request.operation
        (request.configValue.getD [])
    if started then return s
    else
      (s.replyError id errorBusy (ascii "Another AmneziaWG operation is in progress")).requestFree
        id

/-- The first part of `helper_runner_changed_cb`: the failure of the runner stops the service. -/
def stopIfRunnerFailed (s : AwgService) : AwgServiceM AwgService :=
  if s.runner.failed ∧ s.failed = false then
    { s with failed := true, stopping := true }.cancelPendingAuthorizations
  else return s

/-- The second part of `helper_runner_changed_cb`: the active request ends with its run. -/
def freeEnded (s : AwgService) : AwgServiceM AwgService :=
  match s.activeRequest with
  | none => return s
  | some id => if s.run.isNone then s.requestFree id else return s

/-- `helper_runner_changed_cb`. -/
def helperRunnerChangedCb (progress : AwgService → AwgServiceM AwgService) (s : AwgService) :
    AwgServiceM AwgService := do
  let s ← s.stopIfRunnerFailed
  let s ← s.freeEnded
  let s ← progress s
  s.updateIdleState

/-- Another request is active, or the runner is busy. -/
def actionMustWait (s : AwgService) : AwgServiceM (Bool × AwgService) :=
  if s.activeRequest.isSome then return (true, s) else s.isBusy

/-- `progress_pending_action`. It starts a helper, whose end may progress the next action. -/
def progressPendingAction : ℕ → AwgService → AwgServiceM AwgService
  | 0, s =>
    match s.pendingAction with
    | none => return s
    | some _ => callout .tooDeep s
  | depth + 1, s =>
    match s.pendingAction with
    | none => return s
    | some id =>
      match s.requests id with
      | none => return s
      | some request => do
        if request.authorizationPending then return s
        else if s.stopping then
          (s.replyError id errorBusy (ascii "AmneziaWG management is stopping")).requestFree id
        else
          let s ← s.monotonicMsec
          if s.clock ≥ request.preemptDeadline then (s.replyStatus id .timedOut).requestFree id
          else
            let (busy, s) ← s.actionMustWait
            if busy then return s
            else
              let s ← s.monotonicMsec
              if s.clock ≥ request.preemptDeadline then (s.replyStatus id .timedOut).requestFree id
              else
                let s := { s with
                  pendingAction := none
                  timers := s.timers.filter (· ≠ (id, RequestTimer.preempt))
                  activeRequest := some id }
                s.startHelper (helperRunnerChangedCb (progressPendingAction depth)) id

/-- The callback of the runner, with `progress_pending_action`. -/
def changedCb : AwgService → AwgServiceM AwgService :=
  helperRunnerChangedCb (progressPendingAction 1)

/-! ## Authorization -/

/-- `authorization_is_current`. -/
def authorizationIsCurrent (s : AwgService) (request : AwgServiceRequest) :
    AwgServiceM (Bool × AwgService) := do
  if request.authorizationPending ∧ request.replySent = false ∧ s.stopping = false ∧
      s.policyReady ∧ request.authorizationGeneration = s.policyGeneration ∧
      request.cancelled = false then
    let s ← s.monotonicMsec
    return (decide (s.clock < request.authorizationDeadline), s)
  else return (false, s)

/-- `continue_authorized_request` where the request may not go on. -/
def refuseAuthorized (s : AwgService) (id : ℕ) : AwgServiceM AwgService := do
  let s ← (s.replyError id errorBusy
    (ascii "Another AmneziaWG operation is in progress")).requestFree id
  progressPendingAction 1 s

/-- A run of another request is preempted. -/
def preemptActive (s : AwgService) : AwgServiceM AwgService :=
  if s.activeRequest.isSome then s.helperRunnerStop .preempted else return s

/-- `continue_authorized_request` where the request is the pending action. -/
def continuePendingAction (s : AwgService) (id : ℕ) : AwgServiceM AwgService := do
  let s := (s.pendingRequests.filter fun id' => (s.requests id').any (·.profileReport)).foldl
    (fun s id' => s.cancelAuthorization errorBusy
      (ascii "AmneziaWG inventory was superseded by a user action") id') s
  let s ← s.monotonicMsec
  let s := s.modify id fun request =>
    { request with preemptDeadline := deadlineCap s.clock maxInt64 preemptTimeoutMsec }
  let s := { s with timers := (id, .preempt) :: s.timers }
  let s ← s.preemptActive
  progressPendingAction 1 s

/-- The other request that is active lets this one go on. -/
def activeYields (s : AwgService) (id : ℕ) : Bool :=
  match s.activeRequest with
  | none => true
  | some active =>
    decide (s.pendingAction = some id) && (s.requests active).any (·.profileReport)

/-- The other action that is pending lets this request go on. -/
def pendingYields (s : AwgService) (id : ℕ) : Bool :=
  match s.pendingAction with
  | none => true
  | some pending => decide (pending = id) || (s.requests pending).any (·.authorizationPending)

/-- `continue_authorized_request`. -/
def continueAuthorizedRequest (s : AwgService) (id : ℕ) : AwgServiceM AwgService := do
  let s := s.finishAuthorization id
  if s.stopping ∨ s.activeYields id = false ∨ s.pendingYields id = false then
    s.refuseAuthorized id
  else if s.pendingAction = some id then s.continuePendingAction id
  else
    let (busy, s) ← s.isBusy
    if busy then s.refuseAuthorized id
    else
      let s ← { s with activeRequest := some id }.startHelper changedCb id
      progressPendingAction 1 s

/-- `reject_authorization`. -/
def rejectAuthorization (s : AwgService) (id : ℕ) : AwgServiceM AwgService := do
  let s ← (s.replyError id errorNotAuthorized
    (ascii "AmneziaWG management is not authorized")).requestFree id
  progressPendingAction 1 s

/-- `request_policy_checked_cb`. -/
def requestPolicyCheckedCb (s : AwgService) (id : ℕ) (safe : Bool) : AwgServiceM AwgService :=
  match s.requests id with
  | none => return s
  | some request => do
    let (current, s) ← s.authorizationIsCurrent request
    if current = false then s.rejectAuthorization id
    else if safe = false then
      let s ← s.failUnsafePolicy
      s.requestFree id
    else s.continueAuthorizedRequest id

/-- `authorization_checked_cb`. -/
def authorizationCheckedCb (s : AwgService) (id : ℕ) (reply : CheckReply) :
    AwgServiceM AwgService :=
  match s.requests id with
  | none => return s
  | some request => do
    if reply.grants = false then s.rejectAuthorization id
    else
      let (current, s) ← s.authorizationIsCurrent request
      if current = false then s.rejectAuthorization id
      else
        return { s.modify id fun request =>
            { request with policyBegun := some s.policyGeneration } with
          calls := (id, .policy) :: s.calls }

/-- `authorization_timeout_cb`. -/
def authorizationTimeoutCb (s : AwgService) (id : ℕ) : AwgServiceM AwgService :=
  progressPendingAction 1
    (s.cancelAuthorization errorNotAuthorized (ascii "AmneziaWG authorization expired") id)

/-! ## Methods -/

/-- `sender_can_admit`. -/
def senderCanAdmit (s : AwgService) (sender operation : Bytes) : Bool :=
  let pending := s.pendingSenders sender
  match senderOperation operation with
  | .inventory => !pending .inventory
  | .action => !pending .action

/-- `begin_authorization` of a request that has just been allocated. -/
def beginAuthorization (s : AwgService) (id : ℕ) (operation name sender : Bytes)
    (profileReport : Bool) (configValue : Option Bytes) : AwgServiceM AwgService := do
  let s ← s.monotonicMsec
  let request : AwgServiceRequest := {
    operation, name, sender, profileReport, configValue
    cancelled := false
    authorizationDeadline := deadlineCap s.clock maxInt64 authorizationTimeoutMsec
    authorizationGeneration := s.policyGeneration
    preemptDeadline := 0
    authorizationPending := true
    replySent := false
    checkBegun := s.policyGeneration
    policyBegun := none }
  return { s with
    requests := fun id' => if id' = id then some request else s.requests id'
    pendingAuthorizations := s.pendingAuthorizations + 1
    pendingSenders := fun sender' operation' =>
      if sender' = sender ∧ operation' = senderOperation operation then true
      else s.pendingSenders sender' operation'
    pendingRequests := id :: s.pendingRequests
    pendingAction := if senderOperation operation = .action then some id else s.pendingAction
    idleSource := false
    timers := (id, .authorization) :: s.timers
    calls := (id, .check) :: s.calls }

/-- The end of `handle_execute` and `handle_list_profiles`: the request is admitted, or not. -/
def admitRequest (s : AwgService) (id : ℕ) (operation name : Bytes) (sender : Option Bytes)
    (profileReport : Bool) (configValue : Option Bytes) : AwgServiceM AwgService :=
  match sender with
  | none => return s.answer id (.error errorNotAuthorized (ascii "The D-Bus caller is unavailable"))
  | some sender =>
    if s.pendingAuthorizations ≥ maxPendingAuthorizations ∨
        s.senderCanAdmit sender operation = false then
      return s.answer id (.error errorBusy (ascii "Another authorization request is in progress"))
    else s.beginAuthorization id operation name sender profileReport configValue

/-- The request of `handle_execute` is one. -/
def executeIsValid (operation name config : Bytes) : Bool :=
  match operationNeedsConfig operation with
  | none => false
  | some needsConfig =>
    nameIsValid name && decide (config.length ≤ maxConfigSize) && needsConfig == !config.isEmpty

/-- `handle_execute`. -/
def handleExecute (s : AwgService) (id : ℕ) (operation name config : Bytes)
    (sender : Option Bytes) : AwgServiceM AwgService :=
  if s.stopping ∨ s.policyReady = false ∨
      (s.activeRequest.bind s.requests).any (!·.profileReport) ∨ s.pendingAction.isSome then
    return s.answer id (.error errorBusy (ascii "Another AmneziaWG operation is in progress"))
  else if executeIsValid operation name config = false then
    return s.answer id (.error errorInvalidRequest (ascii "The AmneziaWG request is invalid"))
  else s.admitRequest id operation name sender false (some config)

/-- `handle_list_profiles`. -/
def handleListProfiles (s : AwgService) (id : ℕ) (sender : Option Bytes) :
    AwgServiceM AwgService :=
  if s.stopping ∨ s.policyReady = false ∨ s.activeRequest.isSome ∨
      (s.pendingAction.bind s.requests).any (!·.authorizationPending) then
    return s.answer id (.error errorBusy (ascii "Another AmneziaWG operation is in progress"))
  else s.admitRequest id (ascii "list-profiles") [] sender true none

/-! ## The end of the service -/

/-- What a loss of the bus or a signal has in common: the service stops. -/
def shutDown (s : AwgService) : AwgServiceM AwgService := do
  let s ← { s with stopping := true, idleSource := false }.cancelPendingAuthorizations
  let s ← s.helperRunnerStop .shutdown
  s.updateIdleState

/-- `shutdown_signal_cb`. -/
def shutdownSignalCb (s : AwgService) : AwgServiceM AwgService := s.shutDown

/-- `name_lost_cb`. -/
def nameLostCb (s : AwgService) : AwgServiceM AwgService := { s with failed := true }.shutDown

/-- `bus_acquired_cb`. -/
def busAcquiredCb (s : AwgService) (registered : Bool) : AwgServiceM AwgService := do
  if s.stopping then return s
  else if registered then return { s with registered := true }
  else
    let s ← { s with failed := true, stopping := true }.cancelPendingAuthorizations
    s.updateIdleState

/-! ## The run -/

/-- `helper_poll_cb`. -/
def helperPollCb (s : AwgService) (rounds : ℕ) : AwgServiceM AwgService :=
  match s.run with
  | none => return s
  | some before => do
    match ← onKernel ({ before with runner := s.runner }.helperPollCb rounds) with
    | none => hang
    | some run => s.afterRun changedCb before run

/-- The released groups that are not gone yet. -/
def reapReleased : List ℤ → ServiceM (List ℤ)
  | [] => return []
  | processGroup :: processGroups => do
    let (_, last) ← sys (.reapGroup processGroup)
    let rest ← reapReleased processGroups
    return if last = .noChild then rest else processGroup :: rest

/-- `reap_children_cb`. -/
def reapChildrenCb (s : AwgService) : AwgServiceM AwgService := do
  let releasedGroups ← onKernel (reapReleased s.runner.releasedGroups)
  let pendingChildReaps ← onKernel (Supervisor.unreaped s.runner.pendingChildReaps)
  changedCb { s with runner := { s.runner with releasedGroups, pendingChildReaps } }

/-- The service before `main` begins to validate the policy. -/
def new : AwgService where
  authority := false
  policyCancelled := false
  policyTimeoutSource := false
  policyDeadline := 0
  policyGeneration := 0
  policyCheckGeneration := 0
  policyPending := false
  policyReady := false
  pendingSenders := fun _ _ => false
  pendingRequests := []
  runner := ⟨[], [], false⟩
  run := none
  runCapabilities := 0
  registered := false
  ownsName := false
  idleSource := false
  quit := false
  pendingAuthorizations := 0
  activeRequest := none
  pendingAction := none
  failed := false
  stopping := false
  requests := fun _ => none
  calls := []
  timers := []
  policyCalls := []
  invocations := 0
  replies := []
  clock := 0

end AwgService

/-! ## The main loop -/

/-- The callbacks of the service. -/
inductive ServiceCallback where
  | begin
  | execute (operation name config : Bytes) (sender : Option Bytes)
  | listProfiles (sender : Option Bytes)
  | authorizationChecked (request : ℕ) (reply : CheckReply)
  | requestPolicyChecked (request : ℕ) (safe : Bool)
  | authorizationTimeout (request : ℕ)
  | preemptTimeout (request : ℕ)
  | authorizationChanged
  | authorityReady (authority : Bool)
  | servicePolicyChecked (safe : Bool)
  | policyValidationTimeout
  | busAcquired (registered : Bool)
  | nameAcquired
  | nameLost
  | shutdownSignal
  | idleTimeout
  | helperPoll (rounds : ℕ)
  | reapChildren

namespace ServiceCallback

open AwgService

/-- A callback occurs only while the main loop waits for it. -/
def Enabled : ServiceCallback → AwgService → Prop
  | begin, s => s = .new
  | execute .., s | listProfiles _, s => s.registered = true
  | authorizationChecked request _, s => (request, .check) ∈ s.calls
  | requestPolicyChecked request _, s => (request, .policy) ∈ s.calls
  | authorizationTimeout request, s => (request, .authorization) ∈ s.timers
  | preemptTimeout request, s => (request, .preempt) ∈ s.timers
  | authorizationChanged, s => s.authority = true
  | authorityReady _, s => .authority ∈ s.policyCalls
  | servicePolicyChecked _, s => .enumeration ∈ s.policyCalls
  | policyValidationTimeout, s => s.policyTimeoutSource = true
  | busAcquired _, s | nameAcquired, s | nameLost, s => s.ownsName = true
  | idleTimeout, s => s.idleSource = true
  | helperPoll _, s => s.run.isSome = true
  | shutdownSignal, _ | reapChildren, _ => True

/-- What a callback does. A source that fires and a call that returns are waited for no more. -/
def run : ServiceCallback → AwgService → AwgServiceM AwgService
  | begin, s => s.beginPolicyValidation
  | execute operation name config sender, s =>
    { s with invocations := s.invocations + 1 }.handleExecute s.invocations operation name config
      sender
  | listProfiles sender, s =>
    { s with invocations := s.invocations + 1 }.handleListProfiles s.invocations sender
  | authorizationChecked request reply, s =>
    { s with calls := s.calls.erase (request, .check) }.authorizationCheckedCb request reply
  | requestPolicyChecked request safe, s =>
    { s with calls := s.calls.erase (request, .policy) }.requestPolicyCheckedCb request safe
  | authorizationTimeout request, s =>
    authorizationTimeoutCb
      { s with timers := s.timers.filter (· ≠ (request, RequestTimer.authorization)) } request
  | preemptTimeout request, s =>
    progressPendingAction 1
      { s with timers := s.timers.filter (· ≠ (request, RequestTimer.preempt)) }
  | authorizationChanged, s => s.authorizationChangedCb
  | authorityReady authority, s =>
    { s with policyCalls := s.policyCalls.erase .authority }.authorityReadyCb authority
  | servicePolicyChecked safe, s =>
    { s with policyCalls := s.policyCalls.erase .enumeration }.servicePolicyCheckedCb safe
  | policyValidationTimeout, s => s.policyValidationTimeoutCb
  | busAcquired registered, s => s.busAcquiredCb registered
  | nameAcquired, s => s.updateIdleState
  | nameLost, s => s.nameLostCb
  | shutdownSignal, s => s.shutdownSignalCb
  | idleTimeout, s => s.idleTimeoutCb
  | helperPoll rounds, s => s.helperPollCb rounds
  | reapChildren, s => s.reapChildrenCb

end ServiceCallback

/-- The service in its main loop. Nothing enters it at the points that are looked at. -/
def serviceComponent : Component AwgService ServicePoint hostSig where
  Entry := ServiceCallback
  run := ServiceCallback.run
  enabled := ServiceCallback.Enabled
  nested _ := False
  answers _ _ := True
  init s := s = .new

end NmSidebar
