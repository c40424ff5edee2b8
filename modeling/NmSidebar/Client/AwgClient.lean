import NmSidebar.AmneziaWG.Filename
import NmSidebar.Client.ActionOffers
import NmSidebar.Client.ImportLoader

/-!
# The client of the AmneziaWG service

`controller.c` with its user interface, `gui/amneziawg_presenter.c`. The controller has one activity
at a time, the presenter has its choosers, loaders and dialogs. Either may be called back from the
middle of its functions: from the panel's callbacks, from the inventory and from the runtime source.
The model's entries, the toasts and the texts of the dialogs are left out.
-/

namespace NmSidebar

open Text Effects

/-! ## Data -/

/-- `NetworkSidebarAwgImportError`. -/
inductive ImportError where
  | none
  | inspectFailed
  | notLocal
  | notRegular
  | tooLarge
  | openFailed
  | readFailed
  | empty
  | timedOut
  deriving DecidableEq

/-- `controller_import_error`. -/
def controllerImportError : ImportLoadResult → ImportError
  | .inspectFailed => .inspectFailed
  | .notLocal => .notLocal
  | .notRegular => .notRegular
  | .tooLarge => .tooLarge
  | .openFailed => .openFailed
  | .readFailed => .readFailed
  | .empty => .empty
  | .timedOut => .timedOut
  | .success | .cancelled => .none

/-- `NetworkSidebarAwgNotice`, without `NONE`. -/
inductive AwgNotice where
  | authorizationUnavailable
  | waitForRuntimeRefresh
  | requiredComponentsUnavailable
  | importChooserUnavailable
  | invalidImportFilename
  | importCancelled
  | importLoadFailed
  | operationTimedOut
  | serviceConnectFailed
  | serviceFailed
  | serviceBusy
  | configurationUnavailable
  | externalOperationInProgress
  | operationSucceeded
  | helperFailed
  | profileMissing
  | profileActivationBlocked
  | interfaceExternallyManaged
  | cleanupUnconfirmed
  | profileRemovalBlocked
  | operationStarted
  | replacementConfirmationUnavailable
  | removalConfirmationUnavailable
  deriving DecidableEq

/-- The notices of `operation_is_allowed` among them. -/
def AdmissionNotice.shown : AdmissionNotice → Option AwgNotice
  | .none => Option.none
  | .authorizationUnavailable => some .authorizationUnavailable
  | .waitForRuntimeRefresh => some .waitForRuntimeRefresh
  | .requiredComponentsUnavailable => some .requiredComponentsUnavailable
  | .profileMissing => some .profileMissing
  | .profileActivationBlocked => some .profileActivationBlocked
  | .interfaceExternallyManaged => some .interfaceExternallyManaged
  | .cleanupUnconfirmed => some .cleanupUnconfirmed
  | .profileRemovalBlocked => some .profileRemovalBlocked

/-- The event `NETWORK_SIDEBAR_AWG_UI_NOTICE`. -/
structure NoticeEvent where
  notice : AwgNotice
  operation : BackendOperation
  helperStatus : ℕ
  importError : ImportError
  name : Option Name

/-- The two events that ask for a confirmation. -/
inductive ConfirmationKind where
  | replace
  | delete
  deriving DecidableEq

/-- The activity while the confirmation is awaited. -/
def ConfirmationKind.activity : ConfirmationKind → AwgActivity
  | .replace => .replaceConfirm
  | .delete => .deleteConfirm

/-- The operation that asks for the confirmation. -/
def ConfirmationKind.asks : ConfirmationKind → BackendOperation
  | .replace => .import
  | .delete => .delete

/-- `AwgServiceAction`. -/
structure ServiceAction where
  activityId : ℕ
  name : Option Name
  config : Option Bytes
  operation : BackendOperation
  runtimeCleanupOnly : Bool

/-- `needs_config` of `dispatch_service_action`. -/
def ServiceAction.needsConfig (action : ServiceAction) : Bool :=
  action.operation == .import || action.operation == .replace

/-- The action changes what is saved. -/
def ServiceAction.saves (action : ServiceAction) : Bool :=
  action.operation == .import || action.operation == .replace || action.operation == .delete

/-- `BackendCall`, for a call of the controller that has not completed. Stopping the backend cancels
it. -/
structure BackendCall where
  action : ServiceAction
  cancelled : Bool

/-- The call is cancelled. -/
def BackendCall.cancel (call : BackendCall) : BackendCall := { call with cancelled := true }

/-- Whether the backend is running: `started` and `stopping`. -/
inductive BackendPhase where
  | made
  | running
  | stopped
  deriving DecidableEq

/-- `DeferredConfirmation`. -/
structure DeferredConfirmation where
  kind : ConfirmationKind
  activityId : ℕ
  name : Name
  deriving DecidableEq

/-- The activities that an operation is under way in: those that are verified when it has ended. -/
def AwgActivity.isCommand : AwgActivity → Bool
  | .import | .replace | .up | .down | .delete => true
  | .idle | .importSelect | .importLoad | .replaceConfirm | .deleteConfirm => false

/-- The activities that end with the authorization. -/
def AwgActivity.isInteraction : AwgActivity → Bool
  | .importSelect | .importLoad | .replaceConfirm | .deleteConfirm => true
  | .idle | .import | .replace | .up | .down | .delete => false

/-- The controller and the presenter. The chooser and the dialog stand for the activity that their
callbacks are given, `parent` and `toastOverlay` for the widgets. `dispatched` and `notices` are not
in the source: the calls of `network_sidebar_awg_backend_execute` with their activities, and the
notices that the presenter was given. -/
structure AwgClient where
  authorized : Bool
  activity : AwgActivity
  activityName : Option Name
  activityId : ℕ
  generation : ℕ
  pendingConfirmation : Option ServiceAction
  runtimeVerificationPending : Bool
  started : Bool
  stopping : Bool
  uiEvent : Bool
  backend : BackendPhase
  inFlight : List BackendCall
  dispatched : List (ℕ × BackendOperation)
  presenterStarted : Bool
  presenterStopping : Bool
  externalInteraction : Bool
  externalInteractionActive : Bool
  parent : Option ℕ
  toastOverlay : Option ℕ
  chooser : Option ℕ
  dialog : Option (ConfirmationKind × ℕ)
  deferredConfirmation : Option DeferredConfirmation
  importLoader : Option ℕ
  loaders : List ImportLoader
  notices : List NoticeEvent

/-- What `operation_is_allowed` looks up. -/
structure AdmissionFacts where
  capabilitiesKnown : Bool
  missingDependencies : MissingDependencies
  target : AdmissionTarget

/-- The calls of the inventory, of the runtime source, of the backend and of the panel. -/
inductive ClientNote where
  | changed (delayMs : ℕ)
  | externalInteraction (active : Bool)
  | inventoryStart
  | inventoryStop
  | inventorySetAuthorized (authorized : Bool)
  | inventorySetEnabled (enabled : Bool)
  | inventorySetSuspended (suspended : Bool)
  | inventoryPreempt
  | inventoryRequestRefresh (force : Bool) (purpose : RefreshPurpose)
  | inventoryQueueRefresh (delayMs : ℕ) (purpose : RefreshPurpose)
  | inventoryScheduleRetry (purpose : RefreshPurpose)
  | inventorySetServiceReachable (reachable : Bool)
  | runtimeStart
  | runtimeStop
  | runtimePoll (purpose : RefreshPurpose)
  | runtimeRequestRefresh (purpose : RefreshPurpose)
  | runtimeSetNames (purpose : RefreshPurpose)
  | runtimeSetMonitorEnabled (enabled : Bool)
  | runtimeEnsureMonitor
  | runtimeSetMutationActive (exclusive : Bool)
  | runtimeRecordDelete (name : Option Name)
  | backendStart
  | backendInvalidateAuthorization

/-- What is asked or told without being called back. The first group are the facts of an admission,
`network_sidebar_awg_runtime_source_is_checking`, whether `network_sidebar_awg_backend_execute` finds
the time of the call over, whether the chooser and the loader are made, whether the file has a local
path, and whether the windows are mapped. -/
inductive ClientCall where
  | facts (name : Option Name)
  | isChecking
  | deadlinePassed
  | newChooser
  | newLoader
  | localPath
  | mapped
  | tell (n : ClientNote)

/-- The replies to these calls. -/
abbrev ClientCall.Reply : ClientCall → Type
  | facts _ => AdmissionFacts
  | isChecking | deadlinePassed | newChooser | newLoader | localPath | mapped => Bool
  | tell _ => Unit

/-- The signature of these calls. -/
abbrev clientSig : Signature := ⟨ClientCall, ClientCall.Reply⟩

/-- A function of the client. -/
abbrev ClientM := Prog (calloutSig AwgClient ClientNote clientSig)

/-- A call that nobody calls back in. -/
def clientCall (o : ClientCall) : ClientM o.Reply := system (S := clientSig) o

/-- A call of a function that calls nobody back: `network_sidebar_awg_inventory_queue_refresh` and
`..._schedule_retry`, `..._set_suspended`, `..._set_enabled` and `..._start` only arm a timer. -/
def tell (n : ClientNote) : ClientM Unit := clientCall (.tell n)

open AwgController (operationAction admissionResponse)
open ProfileInventory (helperSuccess helperTimedOut awgInventoryRecheckDelayMsec)

/-- The same, where it is called. -/
def tellIf (called : Bool) (n : ClientNote) : ClientM Unit := if called then tell n else return ()

namespace AwgClient

/-- `network_sidebar_awg_presenter_new`, with `network_sidebar_awg_controller_new`. -/
def new (externalInteraction : Bool) : AwgClient where
  authorized := false
  activity := .idle
  activityName := none
  activityId := 0
  generation := 1
  pendingConfirmation := none
  runtimeVerificationPending := false
  started := false
  stopping := false
  uiEvent := true
  backend := .made
  inFlight := []
  dispatched := []
  presenterStarted := false
  presenterStopping := false
  externalInteraction
  externalInteractionActive := false
  parent := none
  toastOverlay := none
  chooser := none
  dialog := none
  deferredConfirmation := none
  importLoader := none
  loaders := []
  notices := []

/-! ## What the controller tells -/

/-- `controller_is_running`. -/
def isRunning (client : AwgClient) : Bool := client.started && !client.stopping

/-- `forward_changed`. -/
def forwardChanged (client : AwgClient) (delayMs : ℕ) : ClientM AwgClient :=
  if client.presenterStopping then return client else callout (.changed delayMs) client

/-- The next generation, unless it is the last one. -/
def nextGeneration (client : AwgClient) : AwgClient :=
  { client with generation := min (client.generation + 1) (2 ^ 64 - 1) }

/-- `emit_changed`. -/
def emitChanged (client : AwgClient) (delayMs : ℕ) : ClientM AwgClient :=
  if client.isRunning then client.nextGeneration.forwardChanged delayMs else return client

/-- `emit_ui_event` calls the presenter. -/
def uiListens (client : AwgClient) : Bool := client.isRunning && client.uiEvent

/-- `show_notice`. -/
def showNotice (client : AwgClient) (event : NoticeEvent) : AwgClient :=
  if client.presenterStopping then client
  else { client with notices := client.notices ++ [event] }

/-- `emit_notice`. -/
def emitNotice (client : AwgClient) (event : NoticeEvent) : AwgClient :=
  if client.uiListens then client.showNotice event else client

/-- `activity_matches`. -/
def activityMatches (client : AwgClient) (activityId : ℕ) : Bool :=
  client.isRunning && client.activity != .idle && client.activityId == activityId

/-- `confirmation_matches`. -/
def confirmationMatches (client : AwgClient) (kind : ConfirmationKind) (activityId : ℕ) : Bool :=
  client.activityMatches activityId && client.activity == kind.activity &&
    client.pendingConfirmation.any fun action =>
      action.activityId == activityId && action.operation == kind.asks

/-- `network_sidebar_awg_controller_confirmation_is_pending`. -/
def confirmationIsPending (client : AwgClient) (kind : ConfirmationKind) (activityId : ℕ) : Bool :=
  client.confirmationMatches kind activityId && client.authorized

/-- `network_sidebar_awg_controller_request_inventory`. -/
def requestInventory (client : AwgClient) (force : Bool) : ClientM AwgClient :=
  if client.isRunning = false ∨ client.authorized = false then return client
  else do
    let client ← callout (.runtimePoll .visible) client
    callout (.inventoryRequestRefresh force .visible) client

/-! ## What the presenter holds -/

/-- Whether an interaction outside the panel is under way. -/
def markExternal (client : AwgClient) (active : Bool) : AwgClient :=
  { client with externalInteractionActive := active }

/-- `set_external_interaction`, with `notify`. -/
def setExternalInteraction (client : AwgClient) (active : Bool) : ClientM AwgClient :=
  if client.externalInteractionActive = active then return client
  else if client.externalInteraction = false then return client.markExternal active
  else callout (.externalInteraction active) (client.markExternal active)

/-- `can_accept_interaction`. -/
def canAcceptInteraction (client : AwgClient) : Bool :=
  client.presenterStarted && !client.presenterStopping && client.parent.isSome &&
    client.chooser.isNone && client.dialog.isNone && client.deferredConfirmation.isNone

/-- `presentation_is_mapped`, where the windows are mapped as the system says. -/
def presentationIsMapped (client : AwgClient) (mapped : Bool) : Bool :=
  client.presenterStarted && !client.presenterStopping && client.parent.isSome &&
    client.toastOverlay.isSome && mapped

/-- `clear_confirmation`. -/
def clearConfirmation (client : AwgClient) : AwgClient :=
  { client with deferredConfirmation := none, dialog := none }

/-- `destroy_chooser`. -/
def destroyChooser (client : AwgClient) : AwgClient := { client with chooser := none }

/-- `accept_confirmation` on the event of the controller, and what it returns. -/
def acceptConfirmation (client : AwgClient) (kind : ConfirmationKind) (activityId : ℕ)
    (name : Option Name) : AwgClient × Bool :=
  if client.confirmationIsPending kind activityId = false then (client, false)
  else
    match client.deferredConfirmation, name with
    | some pending, _ => (client, pending.kind == kind && pending.activityId == activityId &&
        some pending.name == name)
    | none, none => (client, false)
    | none, some name =>
      if client.canAcceptInteraction then
        ({ client with deferredConfirmation := some ⟨kind, activityId, name⟩ }, true)
      else (client, false)

/-! ## Activities -/

/-- The activity has ended. -/
def finished (client : AwgClient) : AwgClient :=
  { client with activity := .idle, runtimeVerificationPending := false, activityName := none }

/-- `finish_activity`. -/
def finishActivity (client : AwgClient) (activityId changedDelayMs : ℕ) : ClientM AwgClient :=
  if client.activityMatches activityId = false then return client
  else do
    let client ← client.finished.emitChanged changedDelayMs
    if client.isRunning = false then return client
    else do
      let client ← callout .runtimeEnsureMonitor client
      if client.activity = .idle then do
        tell (.inventorySetSuspended false)
        return client
      else return client

/-- The activity is another one. -/
def entered (client : AwgClient) (activity : AwgActivity) (activityName : Option Name) :
    AwgClient :=
  { client with activity, activityName }

/-- `transition_activity`. -/
def transitionActivity (client : AwgClient) (activityId : ℕ) (activity : AwgActivity)
    (name : Option Name) : ClientM (AwgClient × Bool) :=
  if client.activityMatches activityId = false ∨ activity = .idle then return (client, false)
  else do
    let client ← (client.entered activity name).emitChanged 1
    return (client, client.activityMatches activityId && client.activity == activity)

/-- `admission_context`. -/
def admissionContext (client : AwgClient) (continuingActivity : Bool) (facts : AdmissionFacts) :
    AdmissionContext where
  authorized := client.isRunning && client.authorized
  busy := !continuingActivity && client.activity != .idle
  capabilitiesKnown := facts.capabilitiesKnown
  missingDependencies := facts.missingDependencies

/-- What `admission_target` begins with. -/
def unknownTarget : AdmissionTarget := ⟨false, .changedOrUnreadable, .unknown, false⟩

/-- `admission_target`. -/
def admissionTarget (name : Option Name) (facts : AdmissionFacts) : AdmissionTarget :=
  if name.isSome then facts.target else unknownTarget

/-- The notice of `operation_is_allowed`. -/
def explain (client : AwgClient) (operation : BackendOperation) (name : Option Name)
    (notice : AdmissionNotice) : AwgClient :=
  match notice.shown with
  | none => client
  | some notice => client.emitNotice ⟨notice, operation, 0, .none, name⟩

/-- The refresh that `operation_is_allowed` asks for. -/
def refresh (client : AwgClient) (response : AdmissionResponse) : ClientM AwgClient :=
  if response.refreshProfiles then client.requestInventory true
  else if response.refreshRuntime then callout (.runtimeRequestRefresh .visible) client
  else return client

/-- What `operation_is_allowed` does about an operation that it does not admit. -/
def respond (client : AwgClient) (operation : BackendOperation) (name : Option Name)
    (response : AdmissionResponse) : ClientM AwgClient := do
  let client ← (client.explain operation name response.notice).refresh response
  if response.refreshEntries then client.emitChanged 1 else return client

/-- What `operation_is_allowed` leaves and returns. -/
structure OperationReply where
  client : AwgClient
  allowed : Bool
  target : AdmissionTarget

/-- `operation_is_allowed`. Listing the profiles is not an action, and it is not asked for. -/
def operationIsAllowed (client : AwgClient) (operation : BackendOperation) (name : Option Name)
    (continuingActivity : Bool) : ClientM OperationReply := do
  let facts ← clientCall (.facts name)
  match operationAction operation with
  | none => return ⟨client, false, admissionTarget name facts⟩
  | some action =>
    let availability := actionEvaluate action (client.admissionContext continuingActivity facts)
      (some (admissionTarget name facts))
    if availability.allowed then return ⟨client, true, admissionTarget name facts⟩
    else do
      let client ← client.respond operation name (admissionResponse availability.blockedReason)
      return ⟨client, false, admissionTarget name facts⟩

/-- `operation_missing_dependencies`. -/
def operationMissingDependencies (client : AwgClient) (action : ServiceAction)
    (facts : AdmissionFacts) : MissingDependencies :=
  match operationAction action.operation with
  | none => .none
  | some asked => actionMissingDependencies asked (client.admissionContext true facts)
      (some (admissionTarget action.name facts)) action.runtimeCleanupOnly

/-- A new activity has begun. -/
def begun (client : AwgClient) (activity : AwgActivity) (activityName : Option Name) : AwgClient :=
  { client with activityId := client.activityId + 1, activity, activityName }

/-- `begin_activity`. -/
def beginActivity (client : AwgClient) (operation : BackendOperation) (activity : AwgActivity)
    (name : Option Name) : ClientM (AwgClient × Bool) :=
  if client.isRunning = false ∨ activity = .idle ∨ client.activity ≠ .idle ∨
      client.activityId = 2 ^ 64 - 1 then return (client, false)
  else do
    let reply ← client.operationIsAllowed operation name false
    if reply.allowed = false then return (reply.client, false)
    else do
      tell (.inventorySetSuspended true)
      let client ← (reply.client.begun activity name).emitChanged 1
      return (client, client.activityMatches (reply.client.activityId + 1) &&
        client.activity == activity)

/-! ## Operations of the service -/

/-- What an operation has changed is verified. -/
def verifying (client : AwgClient) : AwgClient :=
  { client with runtimeVerificationPending := client.activity.isCommand }

/-- `complete_mutation_action_with_purpose`. -/
def completeMutationActionWithPurpose (client : AwgClient) (action : ServiceAction)
    (inventoryDelayMs : ℕ) (purpose : RefreshPurpose) : ClientM AwgClient :=
  if client.activityMatches action.activityId = false then return client
  else do
    tellIf action.saves (.inventoryQueueRefresh inventoryDelayMs purpose)
    let client ← callout (.runtimeRequestRefresh purpose) client.verifying
    let checking ← clientCall .isChecking
    if client.runtimeVerificationPending = false ∨ client.authorized = false ∨
        checking = false then
      client.finishActivity action.activityId 400
    else return client

/-- `complete_mutation_action`. -/
def completeMutationAction (client : AwgClient) (action : ServiceAction)
    (inventoryDelayMs : ℕ) : ClientM AwgClient :=
  client.completeMutationActionWithPurpose action inventoryDelayMs .visible

/-- `complete_mutation_without_inventory`. -/
def completeMutationWithoutInventory (client : AwgClient) (action : ServiceAction) :
    ClientM AwgClient :=
  client.finishActivity action.activityId 1

/-- A notice about an action. -/
def emitActionNotice (client : AwgClient) (notice : AwgNotice) (action : ServiceAction) :
    AwgClient :=
  client.emitNotice ⟨notice, action.operation, 0, .none, action.name⟩

/-- The label `unavailable` of `request_confirmation`. -/
def confirmationUnavailable (client : AwgClient) (action : ServiceAction)
    (kind : ConfirmationKind) : ClientM AwgClient :=
  match kind with
  | .replace => (client.emitActionNotice
      .replacementConfirmationUnavailable action).completeMutationAction action 400
  | .delete => (client.emitActionNotice
      .removalConfirmationUnavailable action).finishActivity action.activityId 1

/-- An action waits for the user. -/
def waiting (client : AwgClient) (action : ServiceAction) : AwgClient :=
  { client with pendingConfirmation := some action }

/-- No action waits for the user. -/
def unwaiting (client : AwgClient) : AwgClient := { client with pendingConfirmation := none }

/-- What `request_confirmation` does once the activity is that of the confirmation. -/
def presentConfirmationRequest (client : AwgClient) (action : ServiceAction)
    (kind : ConfirmationKind) : ClientM AwgClient :=
  if client.confirmationIsPending kind action.activityId = false then return client
  else
    let accepted :=
      if client.uiListens then client.acceptConfirmation kind action.activityId action.name
      else (client, false)
    if accepted.1.confirmationMatches kind action.activityId = false ∨ accepted.2 = true then
      return accepted.1
    else accepted.1.unwaiting.confirmationUnavailable
      (accepted.1.pendingConfirmation.getD action) kind

/-- `request_confirmation`. The probe of the presenter has no side effect. -/
def requestConfirmation (client : AwgClient) (action : ServiceAction) (kind : ConfirmationKind) :
    ClientM AwgClient :=
  if client.activityMatches action.activityId = false then return client
  else if client.authorized = false then
    (client.emitNotice ⟨.authorizationUnavailable, action.operation, 0, .none,
      none⟩).completeMutationWithoutInventory action
  else if (client.uiListens && client.canAcceptInteraction) = false then
    client.confirmationUnavailable action kind
  else if client.activity = kind.activity then
    (client.waiting action).presentConfirmationRequest action kind
  else do
    let entered ← (client.waiting action).transitionActivity action.activityId kind.activity
      action.name
    if entered.2 then entered.1.presentConfirmationRequest action kind
    else if entered.1.pendingConfirmation.any (·.activityId == action.activityId) then
      return entered.1.unwaiting
    else return entered.1

/-- The helper's statuses that the controller tells apart, with `helperSuccess` and
`helperTimedOut`. -/
def helperInvalidConfig : ℕ := 6

/-- `NETWORK_SIDEBAR_AMNEZIAWG_HELPER_REPLACE_CONFIRMATION_REQUIRED`. -/
def helperReplaceConfirmationRequired : ℕ := 7

/-- `NETWORK_SIDEBAR_AMNEZIAWG_HELPER_NOT_FOUND`. -/
def helperNotFound : ℕ := 8

/-- `NETWORK_SIDEBAR_AMNEZIAWG_HELPER_AWG_QUICK_UNAVAILABLE`. -/
def helperAwgQuickUnavailable : ℕ := 11

/-- `NETWORK_SIDEBAR_AMNEZIAWG_HELPER_CHILD_SETUP_FAILED`. -/
def helperChildSetupFailed : ℕ := 17

/-- The activity has no name any more. -/
def forgetName (client : AwgClient) : AwgClient := { client with activityName := none }

/-- What `backend_service_result` does about a profile that is removed. -/
def recordDelete (client : AwgClient) (action : ServiceAction) : ClientM AwgClient :=
  if action.operation = .delete then do
    let client ← callout (.runtimeRecordDelete action.name) client.forgetName
    callout (.runtimeSetNames .reconcile) client
  else return client

/-- What `backend_service_result` does about a profile that is saved. -/
def recordImport (client : AwgClient) (action : ServiceAction) : ClientM AwgClient :=
  if client.activityMatches action.activityId ∧ client.authorized ∧ action.needsConfig then
    callout (.runtimeSetNames .reconcile) client
  else return client

/-- What `backend_service_result` does about an operation that has succeeded. -/
def serviceSucceeded (client : AwgClient) (action : ServiceAction) : ClientM AwgClient := do
  let deleted ← client.recordDelete action
  let recorded ← deleted.recordImport action
  let told := recorded.emitActionNotice .operationSucceeded action
  if action.operation = .delete then do
    tell (.inventoryQueueRefresh 400 .reconcile)
    told.completeMutationWithoutInventory action
  else
    told.completeMutationActionWithPurpose action 400
      (if action.needsConfig then .reconcile else .visible)

/-- What `backend_service_result` does about a failure of the helper. -/
def helperFailed (client : AwgClient) (action : ServiceAction) (status : ℕ) :
    ClientM AwgClient := do
  let told := client.emitNotice ⟨.helperFailed, action.operation, status, .none, action.name⟩
  tellIf (status = helperNotFound ∨ status = helperInvalidConfig ∨
      status = helperAwgQuickUnavailable ∨ status = helperChildSetupFailed)
    (.inventoryQueueRefresh awgInventoryRecheckDelayMsec .visible)
  told.completeMutationAction action
    (if status = helperTimedOut then awgInventoryRecheckDelayMsec else 400)

/-- What `backend_service_result` does about a reply. -/
def serviceReplied (client : AwgClient) (action : ServiceAction) (status : ℕ) :
    ClientM AwgClient := do
  let client ← callout (.inventorySetServiceReachable true) client
  if status = helperSuccess then client.serviceSucceeded action
  else if action.operation = .import ∧ status = helperReplaceConfirmationRequired then
    client.requestConfirmation action .replace
  else client.helperFailed action status

/-- `backend_service_result`. -/
def backendServiceResult (client : AwgClient) (result : BackendResult) (action : ServiceAction) :
    ClientM AwgClient :=
  if client.activityMatches action.activityId = false then return client
  else do
    let client ← callout (.runtimeSetMutationActive false) client
    match result.kind with
    | .cancelled => client.completeMutationWithoutInventory action
    | .timedOut =>
      (client.emitActionNotice .operationTimedOut action).completeMutationAction action
        awgInventoryRecheckDelayMsec
    | .busUnavailable => do
      let client ← callout (.inventorySetServiceReachable false) client
      tell (.inventoryScheduleRetry .visible)
      (client.emitActionNotice .serviceConnectFailed action).completeMutationAction action 400
    | .notAuthorized => do
      let client ← callout (.inventorySetServiceReachable result.serviceReplied) client
      let client ← callout .backendInvalidateAuthorization client
      (client.emitActionNotice
        .authorizationUnavailable action).completeMutationWithoutInventory action
    | .busy => do
      let client ← callout (.inventorySetServiceReachable result.serviceReplied) client
      (client.emitActionNotice .serviceBusy action).completeMutationAction action
        awgInventoryRecheckDelayMsec
    | .failed => do
      let client ← callout (.inventorySetServiceReachable result.serviceReplied) client
      tell (.inventoryScheduleRetry .visible)
      (client.emitActionNotice .serviceFailed action).completeMutationAction action 400
    | .reply => client.serviceReplied action result.status

/-- A result that carries nothing but its kind. -/
def emptyResult (kind : BackendResultKind) : BackendResult := ⟨kind, false, 0, 0, false, none⟩

/-- The backend is asked to execute an action. -/
def executed (client : AwgClient) (action : ServiceAction) : AwgClient :=
  { client with dispatched := client.dispatched ++ [(action.activityId, action.operation)] }

/-- The call of an action is under way. -/
def sent (client : AwgClient) (action : ServiceAction) : AwgClient :=
  { client with inFlight := client.inFlight ++ [⟨action, false⟩] }

/-- `network_sidebar_awg_backend_execute`: a call that is not made is answered at once. -/
def backendExecute (client : AwgClient) (action : ServiceAction) : ClientM AwgClient :=
  if client.backend ≠ .running then
    (client.executed action).backendServiceResult (emptyResult .cancelled) action
  else do
    let passed ← clientCall .deadlinePassed
    if passed then (client.executed action).backendServiceResult (emptyResult .timedOut) action
    else return (client.executed action).sent action

/-- `dispatch_service_action` refuses an action. -/
def refuseAction (client : AwgClient) (notice : AwgNotice) (action : ServiceAction) :
    ClientM AwgClient :=
  (client.emitActionNotice notice action).completeMutationWithoutInventory action

/-- `operation_is_allowed` for the action: a disconnect that was admitted stays so. -/
def commandIsAllowed (client : AwgClient) (action : ServiceAction) : ClientM OperationReply :=
  if action.operation = .down then return ⟨client, true, unknownTarget⟩
  else client.operationIsAllowed action.operation action.name true

/-- `dispatch_service_action` once the inventory has given way. -/
def dispatchAdmitted (client : AwgClient) (action : ServiceAction) : ClientM AwgClient :=
  if client.activityMatches action.activityId = false then return client
  else if client.authorized = false then client.refuseAction .authorizationUnavailable action
  else do
    let reply ← client.commandIsAllowed action
    if reply.allowed = false then reply.client.completeMutationWithoutInventory action
    else do
      let facts ← clientCall (.facts action.name)
      if reply.client.operationMissingDependencies action facts ≠ .none then
        reply.client.refuseAction .requiredComponentsUnavailable action
      else do
        let client ← callout (.runtimeSetMutationActive action.saves) reply.client
        client.backendExecute action

/-- `dispatch_service_action`. -/
def dispatchServiceAction (client : AwgClient) (action : ServiceAction) : ClientM AwgClient :=
  if client.activityMatches action.activityId = false then return client
  else if action.needsConfig = true ∧ action.config = none then
    client.refuseAction .configurationUnavailable action
  else if (client.uiListens && client.externalInteractionActive) = true then
    client.refuseAction .externalOperationInProgress action
  else do
    let client ← callout .inventoryPreempt client
    client.dispatchAdmitted action

/-! ## Loaders -/

/-- `network_sidebar_awg_controller_import_loaded`. -/
def importLoaded (client : AwgClient) (activityId : ℕ) (config : Option Bytes) :
    ClientM AwgClient :=
  if client.activityMatches activityId = false ∨ client.activity ≠ .importLoad then return client
  else do
    let action : ServiceAction := ⟨activityId, client.activityName, config, .import, false⟩
    let entered ← client.transitionActivity activityId .import action.name
    if entered.2 then entered.1.dispatchServiceAction action else return entered.1

/-- `network_sidebar_awg_controller_import_failed`. -/
def importFailed (client : AwgClient) (activityId : ℕ) (error : ImportError) :
    ClientM AwgClient :=
  if client.activityMatches activityId = false ∨ client.activity ≠ .importLoad ∨ error = .none then
    return client
  else
    (client.emitNotice ⟨.importLoadFailed, .import, 0, error, client.activityName⟩).finishActivity
      activityId 1

/-- The presenter lets a loader go. -/
def disown (client : AwgClient) (index : ℕ) : AwgClient :=
  if client.importLoader = some index then { client with importLoader := none } else client

/-- `import_load_cb`, the callback of the loader with the index. -/
def importLoadCb (client : AwgClient) (index activityId : ℕ) (result : ImportLoadResult)
    (config : Option Bytes) : ClientM AwgClient :=
  let disowned := client.disown index
  if disowned.presenterStopping then return disowned
  else if result = .success then disowned.importLoaded activityId config
  else if result ≠ .cancelled then
    disowned.importFailed activityId (controllerImportError result)
  else return disowned

/-- A step of the loader with the index. -/
def mapLoader (client : AwgClient) (index : ℕ) (f : ImportLoader → ImportLoader) : AwgClient :=
  { client with loaders := client.loaders.modify index f }

/-- `complete_load`. -/
def completeLoad (client : AwgClient) (index : ℕ) (result : ImportLoadResult)
    (config : Option Bytes) : ClientM AwgClient :=
  match client.loaders[index]? with
  | none => return client
  | some loader =>
    if loader.completed then return client
    else
      (client.mapLoader index (·.complete ⟨result, config, client.activity,
        client.activityId⟩)).importLoadCb index loader.activityId result config

/-- `network_sidebar_awg_import_loader_cancel`. -/
def importLoaderCancel (client : AwgClient) (index : ℕ) : ClientM AwgClient :=
  if client.loaders[index]?.all (·.completed) then return client
  else (client.mapLoader index .cancel).completeLoad index .cancelled none

/-- `load_timeout_cb`. -/
def loadTimeoutCb (client : AwgClient) (index : ℕ) : ClientM AwgClient :=
  let fired := client.mapLoader index .fire
  if fired.loaders[index]?.all (·.completed) then return fired
  else (fired.mapLoader index .cancel).completeLoad index .timedOut none

/-- `import_read_cb`, with what the worker has returned. -/
def importReadCb (client : AwgClient) (index : ℕ) (result : ImportLoadResult × Option Bytes)
    (late : Bool) : ClientM AwgClient :=
  let returned := client.mapLoader index .returned
  match returned.loaders[index]? with
  | none => return returned
  | some loader =>
    let status := loader.readStatus result.1 late
    if loader.completed then return returned
    else returned.completeLoad index status (if status = .success then result.2 else none)

/-- `network_sidebar_awg_import_loader_start`. -/
def importLoaderStart (client : AwgClient) (index : ℕ) : ClientM AwgClient :=
  if client.loaders[index]?.all fun loader => loader.started || loader.completed then return client
  else do
    let started := client.mapLoader index .start
    let found ← clientCall .localPath
    if found = false then started.completeLoad index .notLocal none
    else return started.mapLoader index .startReading

/-- The presenter holds a new loader. -/
def withLoader (client : AwgClient) (activityId : ℕ) : AwgClient :=
  { client with
    importLoader := some client.loaders.length
    loaders := client.loaders ++ [.new activityId] }

/-- `start_import_load`. -/
def startImportLoad (client : AwgClient) (activityId : ℕ) : ClientM AwgClient :=
  if client.presenterStopping = true ∨ client.importLoader.isSome = true then return client
  else do
    let made ← clientCall .newLoader
    if made = false then client.importFailed activityId .openFailed
    else
      (client.withLoader activityId).importLoaderStart client.loaders.length

/-! ## Choosers and dismissal -/

/-- `cancel_import_interaction`. -/
def cancelImportInteraction (client : AwgClient) : ClientM AwgClient := do
  let client ← client.destroyChooser.setExternalInteraction false
  match client.importLoader with
  | none => return client
  | some index => client.importLoaderCancel index

/-- `dismiss_interactions`. -/
def dismissInteractions (client : AwgClient) : ClientM AwgClient :=
  client.clearConfirmation.cancelImportInteraction

/-- `emit_ui_event` with `NETWORK_SIDEBAR_AWG_UI_DISMISS_ALL`. -/
def emitDismissAll (client : AwgClient) : ClientM AwgClient :=
  if client.uiListens then client.dismissInteractions else return client

/-- The presenter holds a chooser for the activity. -/
def withChooser (client : AwgClient) (activityId : ℕ) : AwgClient :=
  { client with chooser := some activityId }

/-- `present_import_chooser`. -/
def presentImportChooser (client : AwgClient) (activityId : ℕ) : ClientM (AwgClient × Bool) :=
  if client.canAcceptInteraction = false then return (client, false)
  else do
    let made ← clientCall .newChooser
    if made = false then return (client, false)
    else do
      let client ← (client.withChooser activityId).setExternalInteraction true
      if client.presenterStopping = true ∨ client.chooser = none then do
        let client ← client.destroyChooser.setExternalInteraction false
        return (client, false)
      else return (client, true)

/-- `emit_ui_event` with `NETWORK_SIDEBAR_AWG_UI_SELECT_IMPORT`. -/
def emitSelectImport (client : AwgClient) (activityId : ℕ) : ClientM (AwgClient × Bool) :=
  if client.uiListens then client.presentImportChooser activityId else return (client, false)

/-- The notice that there is no chooser. -/
def importChooserUnavailable (client : AwgClient) : AwgClient :=
  client.emitNotice ⟨.importChooserUnavailable, .import, 0, .none, none⟩

/-- `network_sidebar_awg_controller_import`. -/
def controllerImport (client : AwgClient) : ClientM AwgClient :=
  if client.isRunning = false then return client
  else do
    let reply ← client.operationIsAllowed .import none false
    if reply.allowed = false then return reply.client
    else if (reply.client.uiListens && reply.client.canAcceptInteraction) = false then
      return reply.client.importChooserUnavailable
    else do
      let begun ← reply.client.beginActivity .import .importSelect none
      if begun.2 = false then return begun.1
      else do
        let shown ← begun.1.emitSelectImport begun.1.activityId
        if shown.2 = false ∧ shown.1.activityMatches begun.1.activityId then
          shown.1.importChooserUnavailable.finishActivity begun.1.activityId 1
        else return shown.1

/-- `network_sidebar_awg_controller_import_file_selected`. -/
def importFileSelected (client : AwgClient) (activityId : ℕ) (basename : Option Bytes) :
    ClientM (AwgClient × Bool) :=
  if client.activityMatches activityId = false ∨ client.activity ≠ .importSelect then
    return (client, false)
  else
    match (interfaceFromFilename basename).filter nameIsValid with
    | none => do
      let client ← (client.emitNotice
        ⟨.invalidImportFilename, .import, 0, .none, none⟩).finishActivity activityId 1
      return (client, false)
    | some name => client.transitionActivity activityId .importLoad (some name)

/-- `network_sidebar_awg_controller_import_selection_cancelled`. -/
def importSelectionCancelled (client : AwgClient) (activityId : ℕ) : ClientM AwgClient :=
  if client.activityMatches activityId = true ∧ client.activity = .importSelect then
    client.finishActivity activityId 1
  else return client

/-- `file_chooser_response_cb`. There is a basename where a file was accepted. -/
def fileChooserResponseCb (client : AwgClient) (activityId : ℕ) (file : Option (Option Bytes)) :
    ClientM AwgClient := do
  let client ← client.destroyChooser.setExternalInteraction false
  if client.presenterStopping then return client
  else
    match file with
    | none => client.importSelectionCancelled activityId
    | some basename => do
      let selected ← client.importFileSelected activityId basename
      if selected.2 then selected.1.startImportLoad activityId else return selected.1

/-- `network_sidebar_awg_controller_cancel_import`. -/
def controllerCancelImport (client : AwgClient) : ClientM AwgClient :=
  if client.isRunning = true ∧ (client.activity = .importSelect ∨ client.activity = .importLoad) then
    (client.emitNotice
      ⟨.importCancelled, .import, 0, .none, client.activityName⟩).finishActivity client.activityId 1
  else return client

/-! ## What the backend and the others tell the controller -/

/-- The last part of `set_authorized`. -/
def authorizationSettled (client : AwgClient) (changed authorized : Bool) : ClientM AwgClient :=
  if changed = false then return client
  else do
    let client ← client.emitChanged 1
    if client.isRunning = false ∨ authorized = false ∨ client.authorized = false then return client
    else do
      let client ← callout (.runtimeSetMonitorEnabled true) client
      client.requestInventory true

/-- The activity and its action are given up. -/
def interrupted (client : AwgClient) : AwgClient :=
  { client with activity := .idle, activityName := none, pendingConfirmation := none }

/-- An activity that waits for the user ends. -/
def cancelInteraction (client : AwgClient) : AwgClient :=
  if client.activity.isInteraction then client.interrupted else client

/-- The user is authorized or not. -/
def withAuthorized (client : AwgClient) (authorized : Bool) : AwgClient :=
  { client with authorized }

/-- The activity ends that waits for its verification. -/
def finishVerified (client : AwgClient) : ClientM AwgClient :=
  if client.runtimeVerificationPending then client.finishActivity client.activityId 1
  else return client

/-- What `set_authorized` does where the authorization is not there. -/
def withdrawAuthorization (client : AwgClient) : ClientM AwgClient := do
  let client ← callout (.runtimeSetMonitorEnabled false)
    (client.withAuthorized false).cancelInteraction
  let client ← client.finishVerified
  let client ← callout (.inventorySetAuthorized false) client
  tell (.inventorySetSuspended (client.activity != .idle))
  return client

/-- What `set_authorized` dismisses where the authorization is lost. -/
def dismissLost (client : AwgClient) (lost : Bool) : ClientM AwgClient :=
  if lost then client.emitDismissAll else return client

/-- The notice of `set_authorized` about an activity that it has ended. -/
def explainCancelled (client : AwgClient) (activity : AwgActivity) : AwgClient :=
  if activity.isInteraction = true ∧ client.authorized = false then
    client.emitNotice ⟨.authorizationUnavailable,
      if activity = .deleteConfirm then .delete else .import, 0, .none, none⟩
  else client

/-- `set_authorized`. -/
def setAuthorized (client : AwgClient) (authorized : Bool) : ClientM AwgClient := do
  let changed := client.authorized != authorized
  if authorized then do
    let client ← callout (.inventorySetAuthorized true) (client.withAuthorized true)
    client.authorizationSettled changed true
  else do
    let withdrawn ← client.withdrawAuthorization
    let dismissed ← withdrawn.dismissLost changed
    (dismissed.explainCancelled client.activity).authorizationSettled
      (changed || client.activity.isInteraction) false

/-- `backend_authorization_changed`. -/
def backendAuthorizationChanged (client : AwgClient) (authorized : Bool) : ClientM AwgClient :=
  if client.isRunning then client.setAuthorized authorized else return client

/-- `runtime_source_changed`. -/
def runtimeSourceChanged (client : AwgClient) : ClientM AwgClient := do
  let checking ← clientCall .isChecking
  if client.isRunning = true ∧ client.runtimeVerificationPending = true ∧
      (client.authorized = false ∨ checking = false) then
    client.finishActivity client.activityId 1
  else if client.isRunning = true ∧ client.authorized = true then client.emitChanged 1
  else return client

/-- What `inventory_changed` tells the runtime source. -/
def tellRuntime (client : AwgClient) (change : InventoryChange) (purpose : RefreshPurpose) :
    ClientM AwgClient :=
  match change with
  | .profilesChanged => callout (.runtimeSetNames purpose) client
  | .refreshStarted => callout (.runtimePoll purpose) client
  | .stateChanged => return client

/-- `inventory_changed`. -/
def inventoryChanged (client : AwgClient) (change : InventoryChange) (purpose : RefreshPurpose) :
    ClientM AwgClient :=
  if client.isRunning = false then return client
  else do
    let client ← client.tellRuntime change purpose
    client.emitChanged 1

/-! ## What the user asks for -/

/-- `network_sidebar_awg_presenter_import`. -/
def presenterImport (client : AwgClient) : ClientM AwgClient :=
  if client.presenterStopping then return client else client.controllerImport

/-- `network_sidebar_awg_presenter_cancel_import`. -/
def presenterCancelImport (client : AwgClient) : ClientM AwgClient :=
  if client.presenterStopping then return client
  else do
    let client ← client.cancelImportInteraction
    client.controllerCancelImport

/-- `network_sidebar_awg_controller_set_active`. -/
def controllerSetActive (client : AwgClient) (name : Name) (active : Bool) : ClientM AwgClient :=
  if client.isRunning = false ∨ nameIsValid name = false then return client
  else do
    let operation : BackendOperation := if active then .up else .down
    let reply ← client.operationIsAllowed operation (some name) false
    if reply.allowed = false then return reply.client
    else do
      let begun ← reply.client.beginActivity operation (if active then .up else .down) (some name)
      if begun.2 = false then return begun.1
      else
        let action : ServiceAction := ⟨begun.1.activityId, some name, none, operation,
          !active && reply.target.runtimeState == .firewallPending⟩
        (begun.1.emitActionNotice .operationStarted action).dispatchServiceAction action

/-- `network_sidebar_awg_presenter_set_active`. -/
def presenterSetActive (client : AwgClient) (name : Name) (active : Bool) : ClientM AwgClient :=
  if client.presenterStopping then return client else client.controllerSetActive name active

/-- `network_sidebar_awg_controller_confirm_delete`. -/
def controllerConfirmDelete (client : AwgClient) (name : Name) : ClientM AwgClient :=
  if client.isRunning = false ∨ nameIsValid name = false then return client
  else do
    let reply ← client.operationIsAllowed .delete (some name) false
    if reply.allowed = false then return reply.client
    else if (reply.client.uiListens && reply.client.canAcceptInteraction) = false then
      return reply.client.emitNotice
        ⟨.removalConfirmationUnavailable, .delete, 0, .none, some name⟩
    else do
      let begun ← reply.client.beginActivity .delete .deleteConfirm (some name)
      if begun.2 = false then return begun.1
      else begun.1.requestConfirmation ⟨begun.1.activityId, some name, none, .delete, false⟩ .delete

/-- `network_sidebar_awg_presenter_request_delete`. -/
def presenterRequestDelete (client : AwgClient) (name : Name) : ClientM AwgClient :=
  if client.presenterStopping then return client else client.controllerConfirmDelete name

/-- A confirmed replacement, with the action of its confirmation. -/
def confirmReplace (client : AwgClient) (activityId : ℕ) (action : ServiceAction) :
    ClientM AwgClient := do
  let reply ← client.operationIsAllowed .replace action.name true
  if reply.allowed = false then reply.client.completeMutationAction action 400
  else do
    let entered ← reply.client.transitionActivity activityId .replace action.name
    if entered.2 then entered.1.dispatchServiceAction { action with operation := .replace }
    else return entered.1

/-- A confirmed removal, with the action of its confirmation. -/
def confirmRemoval (client : AwgClient) (activityId : ℕ) (action : ServiceAction) :
    ClientM AwgClient := do
  let reply ← client.operationIsAllowed .delete action.name true
  if reply.allowed = false then reply.client.completeMutationWithoutInventory action
  else do
    let entered ← reply.client.transitionActivity activityId .delete action.name
    if entered.2 then
      (entered.1.emitNotice
        ⟨.operationStarted, .delete, 0, .none, action.name⟩).dispatchServiceAction action
    else return entered.1

/-- `network_sidebar_awg_controller_confirmation_response`. -/
def confirmationResponse (client : AwgClient) (kind : ConfirmationKind) (activityId : ℕ)
    (confirmed : Bool) : ClientM AwgClient :=
  match client.pendingConfirmation with
  | none => return client
  | some action =>
    if client.confirmationMatches kind activityId = false then return client
    else
      match kind, confirmed with
      | .replace, false => client.unwaiting.completeMutationAction action 400
      | .replace, true => client.unwaiting.confirmReplace activityId action
      | .delete, false => client.unwaiting.finishActivity activityId 1
      | .delete, true => client.unwaiting.confirmRemoval activityId action

/-- `confirmation_chosen_cb` of the dialog that is shown. -/
def confirmationChosenCb (client : AwgClient) (kind : ConfirmationKind) (activityId : ℕ)
    (confirmed : Bool) : ClientM AwgClient :=
  if client.presenterStopping = false ∧ client.deferredConfirmation.any fun pending =>
      pending.kind == kind && pending.activityId == activityId then
    if client.clearConfirmation.confirmationIsPending kind activityId then
      client.clearConfirmation.confirmationResponse kind activityId confirmed
    else return client.clearConfirmation
  else return client

/-- `flush_deferred_cb`, with `present_confirmation`. -/
def flushDeferredCb (client : AwgClient) : ClientM AwgClient :=
  if client.presenterStopping then return client
  else do
    let current :=
      if client.deferredConfirmation.all fun pending =>
        client.confirmationIsPending pending.kind pending.activityId then client
      else client.clearConfirmation
    let mapped ← clientCall .mapped
    if current.presentationIsMapped mapped = false ∨ current.chooser.isSome = true ∨
        current.dialog.isSome = true then return current
    else return { current with
      dialog := current.deferredConfirmation.map fun pending => (pending.kind, pending.activityId) }

/-- `network_sidebar_awg_presenter_set_parent`. -/
def presenterSetParent (client : AwgClient) (parent toastOverlay : Option ℕ) : AwgClient :=
  if client.presenterStopping = true ∨
      client.parent = parent ∧ client.toastOverlay = toastOverlay then client
  else { client with dialog := none, parent, toastOverlay }

/-- `network_sidebar_awg_controller_set_inventory_enabled`. -/
def setInventoryEnabled (client : AwgClient) (enabled : Bool) : ClientM AwgClient :=
  if client.stopping then return client
  else do
    tell (.inventorySetEnabled enabled)
    return client

/-! ## Start and stop -/

/-- The controller is started. -/
def beginRunning (client : AwgClient) : AwgClient := { client with started := true }

/-- What `network_sidebar_awg_backend_start` does to the backend's phase. -/
def backendStart (client : AwgClient) : AwgClient :=
  if client.backend = .made then { client with backend := .running } else client

/-- `network_sidebar_awg_controller_start`. -/
def controllerStart (client : AwgClient) : ClientM AwgClient :=
  if client.started = true ∨ client.stopping = true then return client
  else do
    tell .inventoryStart
    let client ← callout .runtimeStart client.beginRunning
    tell .backendStart
    return client.backendStart

/-- The presenter is started. -/
def presenterBegun (client : AwgClient) : AwgClient := { client with presenterStarted := true }

/-- `network_sidebar_awg_presenter_start`. -/
def presenterStart (client : AwgClient) : ClientM AwgClient :=
  if client.presenterStarted = true ∨ client.presenterStopping = true then return client
  else client.presenterBegun.controllerStart

/-- What `controller_stop_internal` does first. -/
def detach (client : AwgClient) : AwgClient :=
  { client with
    stopping := true
    started := false
    activityId := min (client.activityId + 1) (2 ^ 64 - 1)
    activity := .idle
    runtimeVerificationPending := false
    activityName := none
    authorized := false
    pendingConfirmation := none }

/-- `network_sidebar_awg_backend_stop`: the calls under way are cancelled, and will complete. -/
def backendStop (client : AwgClient) : AwgClient :=
  { client with
    backend := .stopped
    inFlight := client.inFlight.map .cancel }

/-- `dismiss_presented_interactions`. -/
def dismissPresented (client : AwgClient) : ClientM AwgClient :=
  if client.uiEvent then client.dismissInteractions else return client

/-- `controller_stop_internal`, with `notify_ui`. -/
def controllerStop (client : AwgClient) : ClientM AwgClient :=
  if client.stopping then return client
  else do
    let client ← callout .inventoryStop client.detach
    let client ← callout .runtimeStop client.backendStop
    let client ← client.dismissPresented
    return { client with uiEvent := false }.nextGeneration

/-- What `presenter_stop_internal` does first. -/
def closing (client : AwgClient) : AwgClient :=
  { client with presenterStopping := true, presenterStarted := false, uiEvent := false }

/-- `presenter_stop_internal`, with `notify_external`. -/
def presenterStop (client : AwgClient) : ClientM AwgClient :=
  if client.presenterStopping then return client
  else do
    let client ← client.closing.controllerStop
    let client ← client.dismissInteractions
    let client ← client.setExternalInteraction false
    return { client with externalInteraction := false, parent := none, toastOverlay := none }

/-- A call of the backend has completed. -/
def answered (client : AwgClient) (index : ℕ) : AwgClient :=
  { client with inFlight := client.inFlight.eraseIdx index }

end AwgClient

/-! ## Runs -/

/-- What the panel, the main loop, the backend, the inventory and the runtime source can call. -/
inductive ClientEntry where
  | start
  | stop
  | import
  | cancelImport
  | setActive (name : Name) (active : Bool)
  | requestDelete (name : Name)
  | setParent (parent toastOverlay : Option ℕ)
  | parentDestroyed
  | requestInventory (force : Bool)
  | setInventoryEnabled (enabled : Bool)
  | authorizationChanged (authorized : Bool)
  | runtimeSourceChanged
  | inventoryChanged (change : InventoryChange) (purpose : RefreshPurpose)
  | chooserResponse (file : Option (Option Bytes))
  | loadTimeout (index : ℕ)
  | readFinished (index : ℕ) (run : WorkerRun) (late : Bool)
  | confirmationChosen (confirmed : Bool)
  | flushDeferred
  | backendResult (index : ℕ) (result : BackendResult)

namespace ClientEntry

/-- What an entry does. -/
def run : ClientEntry → AwgClient → ClientM AwgClient
  | start, client => client.presenterStart
  | stop, client => client.presenterStop
  | .import, client => client.presenterImport
  | cancelImport, client => client.presenterCancelImport
  | setActive name active, client => client.presenterSetActive name active
  | requestDelete name, client => client.presenterRequestDelete name
  | setParent parent toastOverlay, client => return client.presenterSetParent parent toastOverlay
  | parentDestroyed, client => return { client with parent := none }
  | requestInventory force, client => client.requestInventory force
  | setInventoryEnabled enabled, client => client.setInventoryEnabled enabled
  | authorizationChanged authorized, client => client.backendAuthorizationChanged authorized
  | runtimeSourceChanged, client => client.runtimeSourceChanged
  | inventoryChanged change purpose, client => client.inventoryChanged change purpose
  | chooserResponse file, client =>
    match client.chooser with
    | none => return client
    | some activityId => client.fileChooserResponseCb activityId file
  | loadTimeout index, client => client.loadTimeoutCb index
  | readFinished index run late, client =>
    match importReadWorker run with
    | none => return client
    | some result => client.importReadCb index result late
  | confirmationChosen confirmed, client =>
    match client.dialog with
    | none => return client
    | some (kind, activityId) => client.confirmationChosenCb kind activityId confirmed
  | flushDeferred, client => client.flushDeferredCb
  | backendResult index result, client =>
    match client.inFlight[index]? with
    | none => return client
    | some call => (client.answered index).backendServiceResult result call.action

/-- The states in which an entry can occur. A worker sees that it is cancelled only where its load
was, and a call that was cancelled is answered so. -/
def Enabled : ClientEntry → AwgClient → Prop
  | start, _ | stop, _ | .import, _ | cancelImport, _ | setActive .., _ | requestDelete _, _ => True
  | setParent .., _ | parentDestroyed, _ | requestInventory _, _ | setInventoryEnabled _, _ => True
  | authorizationChanged _, client => client.backend = .running
  | runtimeSourceChanged, _ | inventoryChanged .., _ | flushDeferred, _ => True
  | chooserResponse _, client => client.chooser.isSome = true
  | loadTimeout index, client => ∃ loader ∈ client.loaders[index]?, loader.timeoutSource = true
  | readFinished index run _, client => (importReadWorker run).isSome = true ∧
      ∃ loader ∈ client.loaders[index]?, loader.reading = true ∧
        (run.SeesCancelled → loader.cancelled = true)
  | confirmationChosen _, client => client.dialog.isSome = true
  | backendResult index result, client => ∃ call ∈ client.inFlight[index]?,
      call.cancelled = true → result.kind = .cancelled

/-- The entries that somebody else than the main loop makes: they may come from within a callout. -/
def IsCall : ClientEntry → Prop
  | start | chooserResponse _ | loadTimeout _ | readFinished .. | confirmationChosen _ => False
  | flushDeferred | backendResult .. => False
  | stop | .import | cancelImport | setActive .. | requestDelete _ => True
  | setParent .. | parentDestroyed | requestInventory _ | setInventoryEnabled _ => True
  | authorizationChanged _ | runtimeSourceChanged | inventoryChanged .. => True

/-- The entries that `app.c`, the inventory, the runtime source and the backend make from within a
callout: the panel's callbacks arm a timer, hide or present the panel and switch the inventory. -/
def IsCallback : ClientEntry → Prop
  | setParent .. | parentDestroyed | requestInventory _ | setInventoryEnabled _ => True
  | authorizationChanged _ | runtimeSourceChanged | inventoryChanged .. => True
  | start | chooserResponse _ | loadTimeout _ | readFinished .. | confirmationChosen _ => False
  | flushDeferred | backendResult .. => False
  | stop | .import | cancelImport | setActive .. | requestDelete _ => False

end ClientEntry

/-- The client, where the entries that satisfy `nested` may be made from within a callout. -/
def clientComponent (nested : ClientEntry → Prop) : Component AwgClient ClientNote clientSig where
  Entry := ClientEntry
  run := ClientEntry.run
  enabled := ClientEntry.Enabled
  nested
  answers _ _ := True
  init client := ∃ externalInteraction, client = .new externalInteraction

end NmSidebar
