import NmSidebar.AmneziaWG.Admission
import NmSidebar.AmneziaWG.Model
import NmSidebar.Client.RuntimeSource

/-!
# The client's inventory of saved profiles

`inventory.c`: when the panel asks the service for the saved profiles, and what it makes of the
replies. A request may be given up while its reply is under way, and the reply may come from within
the very call that sends the request.
-/

namespace NmSidebar

open Effects

/-! ## The model's part of the inventory -/

/-- `NetworkSidebarAwgProfileWarningKind`. -/
inductive ProfileWarningKind where
  | none
  | partial'
  | timedOut
  | invalidReply
  | helperStatus
  | serviceUnavailable
  | serviceBusy
  | serviceFailed
  deriving DecidableEq

/-- `NetworkSidebarAwgProfileWarning`. -/
structure ProfileWarning where
  kind : ProfileWarningKind
  helperStatus : ℕ
  stale : Bool
  deriving DecidableEq

/-- The model with what tells how far its profiles can be trusted. -/
structure ProfileModel extends AwgModel where
  profilesWarning : ProfileWarning
  inventoryValid : Bool

namespace ProfileModel

/-- `network_sidebar_awg_model_reset_profiles`. -/
def resetProfiles (model : ProfileModel) : ProfileModel :=
  { model with profiles := [], profilesWarning := ⟨.none, 0, false⟩, inventoryValid := false }

/-- `network_sidebar_awg_model_has_profile_data`. -/
def hasProfileData (model : ProfileModel) : Bool :=
  !model.profiles.isEmpty || decide (model.profilesWarning.kind ≠ .none) || model.inventoryValid

/-- The helper's status is part of one warning only. -/
def warning (kind : ProfileWarningKind) (helperStatus : ℕ) (stale : Bool) : ProfileWarning :=
  ⟨kind, if kind = .helperStatus then helperStatus else 0, stale⟩

/-- `network_sidebar_awg_model_set_profiles_warning`. -/
def setProfilesWarning (model : ProfileModel) (kind : ProfileWarningKind) (helperStatus : ℕ) :
    ProfileModel :=
  if model.profilesWarning = warning kind helperStatus false then model
  else { model with profilesWarning := warning kind helperStatus false }

/-- `network_sidebar_awg_model_set_stale_profiles_warning`. -/
def setStaleProfilesWarning (model : ProfileModel) (kind : ProfileWarningKind)
    (helperStatus : ℕ) : ProfileModel :=
  { model with profilesWarning := warning kind helperStatus model.inventoryValid }

end ProfileModel

/-! ## State -/

/-- `AWG_INVENTORY_UNKNOWN_DEPENDENCIES`. -/
def awgInventoryUnknownDependencies : MissingDependencies := ⟨true, false, true⟩

/-- `NetworkSidebarAwgBackendResultKind`. -/
inductive BackendResultKind where
  | reply
  | timedOut
  | notAuthorized
  | busy
  | busUnavailable
  | failed
  | cancelled
  deriving DecidableEq

/-- `NetworkSidebarAwgBackendResult`. -/
structure BackendResult where
  kind : BackendResultKind
  serviceReplied : Bool
  status : ℕ
  capabilities : ℕ
  inventoryComplete : Bool
  profiles : Option (List ProfileRecord)

/-- `NetworkSidebarAwgInventoryChange`. -/
inductive InventoryChange where
  | stateChanged
  | refreshStarted
  | profilesChanged

/-- `InventoryRequest`. `issuedAt` is not in the source: it counts the retirements before it. -/
structure InventoryRequest where
  id : ℕ
  issuedAt : ℕ

/-- `NetworkSidebarAwgInventory`. `changed` and `canDispatch` tell which callbacks there are.
`clock` is the time last read, `sources` are the main loop's sources of the inventory, and
`requests` those the backend has still to answer. `retirements` and `cancelling` are not in the
source: they count how often requests were given up, and say whether a request is being cancelled. -/
structure ProfileInventory where
  changed : Bool
  canDispatch : Bool
  model : ProfileModel
  missingDependencies : MissingDependencies
  capabilitiesKnown : Bool
  refreshSource : ℕ
  sourceDeadline : ℕ
  lastAttempt : ℕ
  retryAttempt : ℕ
  dirty : Bool
  dirtyDelay : ℕ
  queuedPurpose : RefreshPurpose
  requestId : ℕ
  pending : Bool
  pendingPurpose : RefreshPurpose
  cancellable : Bool
  authorized : Bool
  enabled : Bool
  suspended : Bool
  started : Bool
  stopping : Bool
  clock : ℕ
  nextSource : ℕ
  sources : List ℕ
  requests : List InventoryRequest
  retirements : ℕ
  cancelling : Bool

/-- What the inventory asks for: the time, which is not before the given one, and what
`can_dispatch` answers. -/
inductive InventoryCall where
  | monotonicTime (last : ℕ)
  | canDispatch

/-- The replies to these calls. -/
abbrev InventoryCall.Reply : InventoryCall → Type
  | monotonicTime _ => ℕ
  | canDispatch => Bool

/-- The signature of these calls. -/
abbrev inventorySig : Signature := ⟨InventoryCall, InventoryCall.Reply⟩

/-- The callbacks of the inventory's owner, and the calls of the backend. A reply may come within
each of them. -/
inductive InventoryNote where
  | changed (change : InventoryChange) (purpose : RefreshPurpose)
  | canDispatch
  | cancel
  | execute (request : InventoryRequest)
  | invalidateAuthorization

/-- A function of the inventory. -/
abbrev InventoryM := Prog (calloutSig ProfileInventory InventoryNote inventorySig)

/-- A call of the inventory. -/
def inventoryCall (o : InventoryCall) : InventoryM o.Reply := system (S := inventorySig) o

namespace ProfileInventory

/-- `network_sidebar_awg_inventory_new`. -/
def new (changed canDispatch : Bool) (model : ProfileModel) : ProfileInventory where
  changed
  canDispatch
  model
  missingDependencies := awgInventoryUnknownDependencies
  capabilitiesKnown := false
  refreshSource := 0
  sourceDeadline := 0
  lastAttempt := 0
  retryAttempt := 0
  dirty := false
  dirtyDelay := 0
  queuedPurpose := .reconcile
  requestId := 0
  pending := false
  pendingPurpose := .reconcile
  cancellable := false
  authorized := false
  enabled := false
  suspended := false
  started := false
  stopping := false
  clock := 0
  nextSource := 0
  sources := []
  requests := []
  retirements := 0
  cancelling := false

/-! ## Steps -/

/-- `inventory_is_running`. -/
def isRunning (inventory : ProfileInventory) : Bool := inventory.started && !inventory.stopping

/-- `notify_changed`. -/
def notifyChanged (inventory : ProfileInventory) (change : InventoryChange)
    (purpose : RefreshPurpose) : InventoryM ProfileInventory :=
  if inventory.isRunning ∧ inventory.changed then callout (.changed change purpose) inventory
  else return inventory

/-- `g_get_monotonic_time`. -/
def readClock (inventory : ProfileInventory) : InventoryM ProfileInventory := do
  let now ← inventoryCall (.monotonicTime inventory.clock)
  return { inventory with clock := now }

/-- `cancel_refresh_source`. -/
def cancelRefreshSource (inventory : ProfileInventory) : ProfileInventory :=
  { inventory with
    sources := inventory.sources.filter (· ≠ inventory.refreshSource)
    refreshSource := 0
    sourceDeadline := 0 }

/-- The pending request is given up. -/
def retireRequest (inventory : ProfileInventory) : ProfileInventory :=
  { inventory with
    pending := false
    pendingPurpose := .reconcile
    cancellable := false
    retirements := inventory.retirements + 1 }

/-- `cancel_request`. -/
def cancelRequest (inventory : ProfileInventory) : InventoryM ProfileInventory :=
  if inventory.cancellable then do
    let inventory ← callout .cancel { inventory.retireRequest with cancelling := true }
    return { inventory with cancelling := false }
  else return inventory.retireRequest

/-- What is known of the profiles is forgotten. -/
def forgetProfiles (inventory : ProfileInventory) : ProfileInventory :=
  { inventory with
    dirty := false
    dirtyDelay := 0
    queuedPurpose := .reconcile
    retryAttempt := 0
    lastAttempt := 0
    capabilitiesKnown := false
    missingDependencies := awgInventoryUnknownDependencies
    model := inventory.model.resetProfiles }

/-- `reset_inventory`. -/
def resetInventory (inventory : ProfileInventory) : InventoryM ProfileInventory :=
  forgetProfiles <$> inventory.cancelRefreshSource.cancelRequest

/-- No refresh timer is to be armed. -/
def holdsRefresh (inventory : ProfileInventory) : Bool :=
  !inventory.isRunning || !inventory.authorized || !inventory.enabled || inventory.suspended ||
    !inventory.dirty || inventory.pending || decide (inventory.refreshSource ≠ 0)

/-- The refresh timer is armed. -/
def armRefresh (inventory : ProfileInventory) : ProfileInventory :=
  { inventory with
    nextSource := inventory.nextSource + 1
    sources := (inventory.nextSource + 1) :: inventory.sources
    refreshSource := inventory.nextSource + 1 }

/-- `schedule_queued_refresh`. -/
def scheduleQueuedRefresh (inventory : ProfileInventory) : InventoryM ProfileInventory :=
  if inventory.holdsRefresh then return inventory
  else do
    let inventory ← inventory.armRefresh.readClock
    return { inventory with
      sourceDeadline := inventory.clock + max inventory.dirtyDelay 1 * 1000 }

/-- A refresh is queued within a delay that is not zero. -/
def markDirty (inventory : ProfileInventory) (delay : ℕ) (purpose : RefreshPurpose) :
    ProfileInventory :=
  { inventory with
    dirtyDelay :=
      if inventory.dirty = false ∨ inventory.dirtyDelay = 0 ∨ delay < inventory.dirtyDelay then delay
      else inventory.dirtyDelay
    dirty := true
    queuedPurpose := inventory.queuedPurpose.max purpose }

/-- A timer that is armed is later than requested. -/
def rearmsFor (inventory : ProfileInventory) (requestedDeadline : ℕ) : Bool :=
  decide (inventory.refreshSource ≠ 0) &&
    (decide (inventory.sourceDeadline = 0) || decide (requestedDeadline < inventory.sourceDeadline))

/-- What `network_sidebar_awg_inventory_queue_refresh` does once it has read the clock. -/
def requeue (inventory : ProfileInventory) (delay : ℕ) (purpose : RefreshPurpose) :
    ProfileInventory :=
  if inventory.rearmsFor (inventory.clock + delay * 1000) then
    (inventory.markDirty delay purpose).cancelRefreshSource
  else inventory.markDirty delay purpose

/-- `network_sidebar_awg_inventory_queue_refresh`. -/
def queueRefresh (inventory : ProfileInventory) (delay : ℕ) (purpose : RefreshPurpose) :
    InventoryM ProfileInventory :=
  if inventory.isRunning = false then return inventory
  else do
    let inventory ← inventory.readClock
    (inventory.requeue (max delay 1) purpose).scheduleQueuedRefresh

/-- The delays of `network_sidebar_awg_inventory_schedule_retry`. -/
def retryDelays : List ℕ := [2000, 4000, 8000, 16000, 32000, 60000]

/-- `network_sidebar_awg_inventory_schedule_retry`. -/
def scheduleRetry (inventory : ProfileInventory) (purpose : RefreshPurpose) :
    InventoryM ProfileInventory :=
  if inventory.isRunning = false then return inventory
  else
    { inventory with
      retryAttempt :=
        if inventory.retryAttempt < retryDelays.length - 1 then inventory.retryAttempt + 1
        else inventory.retryAttempt }.queueRefresh
      (retryDelays.getD (min inventory.retryAttempt (retryDelays.length - 1)) 0) purpose

/-- `set_service_reachable`. -/
def markService (inventory : ProfileInventory) (reachable : Bool) : ProfileInventory :=
  { inventory with
    missingDependencies := { inventory.missingDependencies with service := !reachable } }

/-! ## Requests -/

/-- `request_is_current`. -/
def requestIsCurrent (inventory : ProfileInventory) (request : InventoryRequest) : Bool :=
  inventory.isRunning && inventory.authorized && inventory.pending &&
    decide (inventory.requestId = request.id)

/-- The pending request has come to its end. -/
def endRequest (inventory : ProfileInventory) : ProfileInventory :=
  { inventory with pending := false, pendingPurpose := .reconcile, cancellable := false }

/-- `finish_request`. -/
def finishRequest (inventory : ProfileInventory) (request : InventoryRequest)
    (change : InventoryChange) : InventoryM ProfileInventory := do
  if inventory.requestIsCurrent request then
    let inventory ← inventory.endRequest.notifyChanged change inventory.pendingPurpose
    inventory.scheduleQueuedRefresh
  else return inventory

/-- The statuses of a reply that `apply_inventory_reply` tells apart. -/
def helperSuccess : ℕ := 0

/-- `NETWORK_SIDEBAR_AMNEZIAWG_HELPER_INVENTORY_PARTIAL`. -/
def helperInventoryPartial : ℕ := 31

/-- `NETWORK_SIDEBAR_AMNEZIAWG_HELPER_TIMED_OUT`. -/
def helperTimedOut : ℕ := 32

/-- The reply is about the profiles. -/
def statusIsInventory (result : BackendResult) : Bool :=
  decide (result.status = helperSuccess) || decide (result.status = helperInventoryPartial)

/-- The reply is complete where its status says so. -/
def shapeIsValid (result : BackendResult) : Bool :=
  (decide (result.status = helperSuccess) && result.inventoryComplete) ||
    (decide (result.status = helperInventoryPartial) && !result.inventoryComplete)

/-- What the reply tells of the dependencies. -/
def learnCapabilities (inventory : ProfileInventory) (result : BackendResult) :
    ProfileInventory :=
  { inventory with
    capabilitiesKnown := true
    missingDependencies := ⟨!result.capabilities.testBit 0, false, !result.capabilities.testBit 1⟩ }

/-- The profiles of a reply that is well formed. -/
def replyProfiles (inventory : ProfileInventory) (result : BackendResult) : Option AwgModel :=
  if statusIsInventory result && shapeIsValid result then
    result.profiles.bind inventory.model.toAwgModel.replaceProfiles
  else none

/-- The profiles of a reply are taken over. -/
def takeProfiles (inventory : ProfileInventory) (result : BackendResult) (profiles : AwgModel) :
    ProfileInventory :=
  { inventory with
    model := { inventory.model with toAwgModel := profiles, inventoryValid := true
      }.setProfilesWarning (if result.inventoryComplete then .none else .partial') 0
    retryAttempt := 0 }

/-- The warning for a reply without profiles. -/
def replyWarning (result : BackendResult) : ProfileWarningKind :=
  if result.status = helperTimedOut then .timedOut
  else if statusIsInventory result then .invalidReply
  else .helperStatus

/-- The model is warned that its profiles may be stale. -/
def warnStale (inventory : ProfileInventory) (kind : ProfileWarningKind) (helperStatus : ℕ) :
    ProfileInventory :=
  { inventory with model := inventory.model.setStaleProfilesWarning kind helperStatus }

/-- `apply_inventory_reply`, with the change that `inventory_result_cb` makes of its result. -/
def applyInventoryReply (inventory : ProfileInventory) (result : BackendResult) :
    InventoryM (ProfileInventory × InventoryChange) := do
  let inventory := inventory.learnCapabilities result
  match inventory.replyProfiles result with
  | some profiles => return (inventory.takeProfiles result profiles, .profilesChanged)
  | none =>
    let inventory ← (inventory.warnStale (replyWarning result) result.status).scheduleRetry
      inventory.pendingPurpose
    return (inventory, .stateChanged)

/-- The warning for a call that the service did not answer. -/
def failureWarning : BackendResultKind → ProfileWarningKind
  | .timedOut => .timedOut
  | .busUnavailable => .serviceUnavailable
  | .busy => .serviceBusy
  | _ => .serviceFailed

/-- What such a call tells of the service. -/
def learnFailure (inventory : ProfileInventory) (result : BackendResult) : ProfileInventory :=
  match result.kind with
  | .timedOut => inventory
  | .busUnavailable => inventory.markService false
  | _ => inventory.markService result.serviceReplied

/-- The part of `inventory_result_cb` that depends on the kind of the result. -/
def applyResult (inventory : ProfileInventory) (result : BackendResult) :
    InventoryM (ProfileInventory × InventoryChange) := do
  match result.kind with
  | .reply => inventory.applyInventoryReply result
  | .cancelled => return (inventory, .stateChanged)
  | .notAuthorized =>
    let inventory ← callout .invalidateAuthorization (inventory.markService result.serviceReplied)
    return (inventory, .stateChanged)
  | .timedOut | .busy | .busUnavailable | .failed =>
    let inventory ← ((inventory.learnFailure result).warnStale (failureWarning result.kind)
      0).scheduleRetry inventory.pendingPurpose
    return (inventory, .stateChanged)

/-- `inventory_result_cb`. -/
def inventoryResult (inventory : ProfileInventory) (request : InventoryRequest)
    (result : BackendResult) : InventoryM ProfileInventory := do
  if inventory.requestIsCurrent request then
    let applied ← inventory.applyResult result
    applied.1.finishRequest request applied.2
  else return inventory

/-- The backend has a request to answer. -/
def send (inventory : ProfileInventory) (request : InventoryRequest) : ProfileInventory :=
  { inventory with requests := request :: inventory.requests }

/-- The call of the backend at the end of `network_sidebar_awg_inventory_request_refresh`. -/
def execute (inventory : ProfileInventory) (request : InventoryRequest) :
    InventoryM ProfileInventory :=
  if inventory.requestIsCurrent request then
    callout (.execute request) (inventory.send request)
  else return inventory

/-- `network_sidebar_awg_inventory_request_refresh` once its request is pending. -/
def dispatch (inventory : ProfileInventory) (request : InventoryRequest) :
    InventoryM ProfileInventory := do
  if inventory.requestIsCurrent request then
    if inventory.canDispatch then
      let inventory ← callout .canDispatch inventory
      if ← inventoryCall .canDispatch then inventory.execute request
      else inventory.finishRequest request .stateChanged
    else inventory.execute request
  else return inventory

/-- The queued refresh is taken. -/
def takeQueued (inventory : ProfileInventory) : ProfileInventory :=
  { inventory with dirty := false, dirtyDelay := 0, queuedPurpose := .reconcile }

/-- `G_MAXUINT64`. -/
def maxRequestId : ℕ := 18446744073709551615

/-- A new request is pending. -/
def issue (inventory : ProfileInventory) (purpose : RefreshPurpose) : ProfileInventory :=
  { inventory with
    requestId := inventory.requestId + 1
    pending := true
    pendingPurpose := purpose
    cancellable := true
    lastAttempt := inventory.clock }

/-- `AWG_INVENTORY_REFRESH_INTERVAL_SECONDS`. -/
def awgInventoryRefreshIntervalSeconds : ℕ := 60

/-- The last attempt is too recent for a refresh that is not forced. -/
def isRecent (inventory : ProfileInventory) : Bool :=
  decide (inventory.lastAttempt ≠ 0) && decide (inventory.clock - inventory.lastAttempt <
    awgInventoryRefreshIntervalSeconds * 1000000)

/-- `network_sidebar_awg_inventory_request_refresh` from the point where it reads the clock. -/
def beginRefresh (inventory : ProfileInventory) (force : Bool) (purpose : RefreshPurpose) :
    InventoryM ProfileInventory := do
  let inventory ← inventory.readClock
  if force = false ∧ inventory.isRecent then return inventory
  else if inventory.requestId = maxRequestId then return inventory.takeQueued
  else
    let purpose := purpose.max inventory.queuedPurpose
    let request := ⟨inventory.requestId + 1, inventory.retirements⟩
    let issued ← (inventory.takeQueued.issue purpose).notifyChanged .refreshStarted purpose
    issued.dispatch request

/-- `network_sidebar_awg_inventory_request_refresh`. -/
def requestRefresh (inventory : ProfileInventory) (force : Bool) (purpose : RefreshPurpose) :
    InventoryM ProfileInventory :=
  if inventory.isRunning = false ∨ inventory.authorized = false then return inventory
  else if inventory.enabled = false then inventory.queueRefresh 1 purpose
  else if inventory.pending then
    if purpose = .visible ∧ inventory.pendingPurpose = .reconcile then
      { inventory with pendingPurpose := purpose }.notifyChanged .refreshStarted purpose
    else return inventory
  else if inventory.suspended then inventory.queueRefresh 1 purpose
  else if inventory.refreshSource ≠ 0 then
    let inventory := { inventory with queuedPurpose := inventory.queuedPurpose.max purpose }
    if force then inventory.cancelRefreshSource.beginRefresh force purpose else return inventory
  else inventory.beginRefresh force purpose

/-! ## Functions of the inventory's owner -/

/-- What `network_sidebar_awg_inventory_stop` sets before it resets the inventory. -/
def detach (inventory : ProfileInventory) : ProfileInventory :=
  { inventory with
    stopping := true
    started := false
    authorized := false
    enabled := false
    changed := false
    canDispatch := false }

/-- `network_sidebar_awg_inventory_stop`. -/
def stop (inventory : ProfileInventory) : InventoryM ProfileInventory :=
  if inventory.stopping then return inventory else inventory.detach.resetInventory

/-- `network_sidebar_awg_inventory_start`. -/
def start (inventory : ProfileInventory) : InventoryM ProfileInventory :=
  if inventory.started ∨ inventory.stopping then return inventory
  else { inventory with started := true }.scheduleQueuedRefresh

/-- There is something that a loss of authorization takes away. -/
def hasInventory (inventory : ProfileInventory) : Bool :=
  inventory.pending || inventory.capabilitiesKnown ||
    decide (inventory.missingDependencies ≠ awgInventoryUnknownDependencies) ||
    inventory.model.hasProfileData

/-- The authorization is lost. -/
def deauthorize (inventory : ProfileInventory) : InventoryM ProfileInventory := do
  let reset ← { inventory with authorized := false }.resetInventory
  if inventory.hasInventory then reset.notifyChanged .profilesChanged .visible else return reset

/-- `network_sidebar_awg_inventory_set_authorized`. -/
def setAuthorized (inventory : ProfileInventory) (authorized : Bool) :
    InventoryM ProfileInventory :=
  if inventory.stopping then return inventory
  else if authorized then { inventory with authorized := true }.scheduleQueuedRefresh
  else inventory.deauthorize

/-- `network_sidebar_awg_inventory_set_enabled`. -/
def setEnabled (inventory : ProfileInventory) (enabled : Bool) : InventoryM ProfileInventory :=
  if inventory.stopping ∨ inventory.enabled = enabled then return inventory
  else if enabled then
    { inventory with enabled := true, retryAttempt := 0 }.scheduleQueuedRefresh
  else return { inventory with enabled := false }.cancelRefreshSource

/-- `network_sidebar_awg_inventory_set_suspended`. -/
def setSuspended (inventory : ProfileInventory) (suspended : Bool) :
    InventoryM ProfileInventory :=
  if inventory.stopping ∨ inventory.suspended = suspended then return inventory
  else if suspended then return { inventory with suspended := true }
  else { inventory with suspended := false }.scheduleQueuedRefresh

/-- `AWG_INVENTORY_RECHECK_DELAY_MSEC`. -/
def awgInventoryRecheckDelayMsec : ℕ := 2000

/-- `network_sidebar_awg_inventory_preempt`. It suspends the inventory whether or not it was
suspended before. -/
def preempt (inventory : ProfileInventory) : InventoryM ProfileInventory := do
  if inventory.isRunning = false then return inventory
  else
    let suspended := { inventory with suspended := true }
    if suspended.pending then
      let cancelled ← suspended.cancelRequest
      let queued ← cancelled.queueRefresh awgInventoryRecheckDelayMsec .reconcile
      queued.notifyChanged .stateChanged .reconcile
    else return suspended

/-- `network_sidebar_awg_inventory_set_service_reachable`. -/
def setServiceReachable (inventory : ProfileInventory) (reachable : Bool) :
    InventoryM ProfileInventory :=
  if inventory.isRunning = false then return inventory
  else if inventory.missingDependencies = (inventory.markService reachable).missingDependencies then
    return inventory.markService reachable
  else (inventory.markService reachable).notifyChanged .stateChanged .visible

/-! ## The callback of the main loop -/

/-- `refresh_source_cb`. -/
def refreshSourceFired (inventory : ProfileInventory) : InventoryM ProfileInventory :=
  let inventory := { inventory with refreshSource := 0, sourceDeadline := 0 }
  if inventory.isRunning = false ∨ inventory.authorized = false then return inventory.takeQueued
  else if inventory.enabled = false ∨ inventory.suspended then return inventory
  else inventory.requestRefresh true inventory.queuedPurpose

end ProfileInventory

/-! ## The component -/

/-- What may be called of an inventory, and what may happen to it. -/
inductive InventoryEntry where
  | start
  | stop
  | setAuthorized (authorized : Bool)
  | setEnabled (enabled : Bool)
  | setSuspended (suspended : Bool)
  | preempt
  | requestRefresh (force : Bool) (purpose : RefreshPurpose)
  | queueRefresh (delay : ℕ) (purpose : RefreshPurpose)
  | scheduleRetry (purpose : RefreshPurpose)
  | setServiceReachable (reachable : Bool)
  | setModel (model : ProfileModel)
  | inventoryResult (request : ℕ) (result : BackendResult)
  | refreshSourceFired (id : ℕ)

namespace InventoryEntry

/-- The entry can be made from within a callout. -/
def IsNested : InventoryEntry → Prop
  | refreshSourceFired _ => False
  | _ => True

/-- When it can occur: while a request is being cancelled, only the replies of the backend. -/
def Enabled : InventoryEntry → ProfileInventory → Prop
  | inventoryResult request _, inventory => request < inventory.requests.length
  | refreshSourceFired id, inventory => id ∈ inventory.sources
  | _, inventory => inventory.cancelling = false

/-- What it does. The model belongs to the inventory's owner, who may change it too. -/
def run : InventoryEntry → ProfileInventory → InventoryM ProfileInventory
  | start, inventory => inventory.start
  | stop, inventory => inventory.stop
  | setAuthorized authorized, inventory => inventory.setAuthorized authorized
  | setEnabled enabled, inventory => inventory.setEnabled enabled
  | setSuspended suspended, inventory => inventory.setSuspended suspended
  | preempt, inventory => inventory.preempt
  | requestRefresh force purpose, inventory => inventory.requestRefresh force purpose
  | queueRefresh delay purpose, inventory => inventory.queueRefresh delay purpose
  | scheduleRetry purpose, inventory => inventory.scheduleRetry purpose
  | setServiceReachable reachable, inventory => inventory.setServiceReachable reachable
  | setModel model, inventory => return { inventory with model }
  | inventoryResult request result, inventory =>
    match inventory.requests[request]? with
    | some answered =>
      { inventory with requests := inventory.requests.eraseIdx request }.inventoryResult answered
        result
    | none => return inventory
  | refreshSourceFired id, inventory =>
    { inventory with sources := inventory.sources.filter (· ≠ id) }.refreshSourceFired

end InventoryEntry

/-- What the inventory's calls may reply: the clock does not go back. -/
def InventoryCall.Allows : (o : InventoryCall) → o.Reply → Prop
  | monotonicTime last, now => last ≤ now
  | canDispatch, _ => True

/-- The inventory in its environment. -/
def inventoryComponent : Component ProfileInventory InventoryNote inventorySig where
  Entry := InventoryEntry
  run := InventoryEntry.run
  enabled := InventoryEntry.Enabled
  nested := InventoryEntry.IsNested
  answers := InventoryCall.Allows
  init inventory := ∃ changed canDispatch model, inventory = .new changed canDispatch model

end NmSidebar
