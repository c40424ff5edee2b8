import NmSidebar.Client.RuntimeScan
import NmSidebar.Program.Reentrant

/-!
# The runtime source

`runtime_source.c`: the panel's cache of what the runtime directory and the links show of every
session. Scans run in a worker thread and are published from an idle callback; timers and monitors
ask for them. The state below holds the main loop's sources and the scans under way too.
-/

namespace NmSidebar

open Text Effects

/-! ## State -/

/-- `NetworkSidebarAwgRefreshPurpose`. -/
inductive RefreshPurpose where
  | reconcile
  | visible
  deriving DecidableEq

/-- `MAX` of two purposes. -/
def RefreshPurpose.max : RefreshPurpose → RefreshPurpose → RefreshPurpose
  | reconcile, purpose => purpose
  | visible, _ => visible

/-- `NETWORK_SIDEBAR_AMNEZIAWG_RUNTIME_DIR`. -/
def runtimeDirectory : Bytes := ascii "/run/nm-sidebar/amneziawg"

/-- The parent of the runtime directory. -/
def runtimeParent : Bytes := ascii "/run/nm-sidebar"

/-- The parent of that. -/
def runtimeAncestor : Bytes := ascii "/run"

/-- The file monitor, with `monitor_path` and `monitor_expected_child`. -/
structure RuntimeFileMonitor where
  path : Bytes
  expectedChild : Option Bytes

/-- What a source of the main loop does when it fires. -/
inductive RuntimeTimer where
  | refresh
  | retry
  | publish (result : Option RuntimeScanResult)

/-- A change of the records: not in the source. -/
inductive RecordsChange where
  | published (before : List RuntimeRecord) (result : RuntimeScanResult) (after : List RuntimeRecord)
  | deleted (name : Name) (before after : List RuntimeRecord)

/-- `NetworkSidebarAwgRuntimeSource`. `sources` are the main loop's sources of it with their ids,
and `tasks` the scans under way. `invalidations`, `changes` and `starting` are not in the source:
they count the invalidations, list all changes of the records, and say whether `start_scan` is about
to start a scan. -/
structure RuntimeSource where
  changed : Bool
  monitor : Option RuntimeFileMonitor
  names : List Name
  records : List RuntimeRecord
  linkFilter : Option LinkEventFilter
  monitorDebounceSource : ℕ
  retrySource : ℕ
  scanPublishSource : ℕ
  retryAttempt : ℕ
  linkMonitorSource : Bool
  refreshGeneration : ℕ
  recordsFresh : Bool
  refreshPending : Bool
  scanRunning : Bool
  scanQueued : Bool
  queuedPurpose : RefreshPurpose
  scanPurpose : RefreshPurpose
  retryPurpose : RefreshPurpose
  mutationActive : Bool
  reconciliationActive : Bool
  monitorEnabled : Bool
  started : Bool
  stopping : Bool
  nextSource : ℕ
  sources : List (ℕ × RuntimeTimer)
  tasks : List RuntimeScanRequest
  invalidations : ℕ
  changes : List RecordsChange
  starting : Bool

/-- What one `recvmsg` of `link_monitor_cb` gives. `trusted` says whether the datagram is whole and
the kernel's. -/
inductive LinkReceive where
  | datagram (data : Bytes) (trusted : Bool)
  | interrupted
  | drained
  | failed

/-- The system calls of the source. -/
inductive RuntimeCall where
  | fileMonitorIsCancelled
  | createFileMonitor (path : Bytes)
  | openLinkMonitor
  | receiveLinkEvent

/-- The replies to them. -/
abbrev RuntimeCall.Reply : RuntimeCall → Type
  | fileMonitorIsCancelled | createFileMonitor _ | openLinkMonitor => Bool
  | receiveLinkEvent => LinkReceive

/-- The signature of these calls. -/
abbrev runtimeSig : Signature := ⟨RuntimeCall, RuntimeCall.Reply⟩

/-- The callback of the source's owner. -/
inductive RuntimeNote where
  | changed

/-- A function of the source. -/
abbrev RuntimeM := Prog (calloutSig RuntimeSource RuntimeNote runtimeSig)

/-- A system call of the source. -/
def runtimeCall (o : RuntimeCall) : RuntimeM o.Reply := system (S := runtimeSig) o

namespace RuntimeSource

/-- `network_sidebar_awg_runtime_source_new`. -/
def new (changed : Bool) : RuntimeSource where
  changed
  monitor := none
  names := []
  records := []
  linkFilter := none
  monitorDebounceSource := 0
  retrySource := 0
  scanPublishSource := 0
  retryAttempt := 0
  linkMonitorSource := false
  refreshGeneration := 0
  recordsFresh := false
  refreshPending := false
  scanRunning := false
  scanQueued := false
  queuedPurpose := .reconcile
  scanPurpose := .reconcile
  retryPurpose := .reconcile
  mutationActive := false
  reconciliationActive := false
  monitorEnabled := false
  started := false
  stopping := false
  nextSource := 0
  sources := []
  tasks := []
  invalidations := 0
  changes := []
  starting := false

/-! ## Queries -/

/-- `runtime_source_is_running`. -/
def isRunning (source : RuntimeSource) : Bool := source.started && !source.stopping

/-- The source is running and monitors. -/
def isActive (source : RuntimeSource) : Bool := source.isRunning && source.monitorEnabled

/-- `network_sidebar_awg_runtime_source_is_checking`. -/
def isChecking (source : RuntimeSource) : Bool :=
  source.isActive && (decide (source.monitorDebounceSource ≠ 0) || source.scanRunning)

/-- `network_sidebar_awg_runtime_source_is_loading`. -/
def isLoading (source : RuntimeSource) : Bool :=
  source.isChecking &&
    ((source.scanRunning && decide (source.scanPurpose = .visible)) ||
      (source.refreshPending && decide (source.queuedPurpose = .visible)))

/-- `automatic_refresh_purpose`. -/
def automaticRefreshPurpose (source : RuntimeSource) : RefreshPurpose :=
  if source.mutationActive ∨ source.reconciliationActive then .reconcile else .visible

/-! ## The main loop's sources -/

/-- A source of the main loop is removed. -/
def removeSource (source : RuntimeSource) (id : ℕ) : RuntimeSource :=
  { source with sources := source.sources.filter (·.1 ≠ id) }

/-- The id of the next source of the main loop. -/
def newSource (source : RuntimeSource) : ℕ := source.nextSource + 1

/-- A source of the main loop is added, with that id. -/
def addSource (source : RuntimeSource) (timer : RuntimeTimer) : RuntimeSource :=
  { source with
    nextSource := source.newSource, sources := (source.newSource, timer) :: source.sources }

/-- `clear_source_id` of `monitor_debounce_source`. -/
def clearDebounce (source : RuntimeSource) : RuntimeSource :=
  { source.removeSource source.monitorDebounceSource with monitorDebounceSource := 0 }

/-- `clear_source_id` of `retry_source`. -/
def clearRetry (source : RuntimeSource) : RuntimeSource :=
  { source.removeSource source.retrySource with retrySource := 0 }

/-- `clear_source_id` of `scan_publish_source`. -/
def clearPublish (source : RuntimeSource) : RuntimeSource :=
  { source.removeSource source.scanPublishSource with scanPublishSource := 0 }

/-- `clear_monitor`. -/
def clearMonitor (source : RuntimeSource) : RuntimeSource := { source with monitor := none }

/-- `clear_link_monitor`. -/
def clearLinkMonitor (source : RuntimeSource) : RuntimeSource :=
  { source with linkMonitorSource := false }

/-- `runtime_source_stop_internal`. -/
def stopInternal (source : RuntimeSource) : RuntimeSource :=
  if source.stopping then source
  else
    let source := { source with stopping := true, started := false }
    let source := source.clearDebounce.clearRetry.clearPublish.clearMonitor.clearLinkMonitor
    { source with
      changed := false
      monitorEnabled := false
      recordsFresh := false
      refreshPending := false
      scanQueued := false }

/-! ## Requests for scans -/

/-- `notify_changed`. -/
def notifyChanged (source : RuntimeSource) : RuntimeM RuntimeSource :=
  if source.isRunning ∧ source.changed then callout .changed source else return source

/-- `notify_changed` under a condition. -/
def notifyIf (source : RuntimeSource) (condition : Prop) [Decidable condition] :
    RuntimeM RuntimeSource :=
  if condition then source.notifyChanged else return source

/-- The generation after one, of 64 bits; zero is left out. -/
def nextGeneration (generation : ℕ) : ℕ :=
  if generation = 18446744073709551615 then 1 else generation + 1

/-- `queue_scan`. -/
def queueScan (source : RuntimeSource) (purpose : RefreshPurpose) : RuntimeSource :=
  let source := { source with reconciliationActive := decide (purpose = RefreshPurpose.reconcile) }
  let source := if source.refreshPending then source else
    { source with refreshGeneration := nextGeneration source.refreshGeneration }
  let purpose := if source.scanRunning then purpose.max source.scanPurpose else purpose
  { source with refreshPending := true, queuedPurpose := source.queuedPurpose.max purpose }

/-- `invalidate_records`. It returns what `recordsFresh` was before. -/
def invalidateRecords (source : RuntimeSource) (purpose : RefreshPurpose) : RuntimeSource :=
  { source.queueScan purpose with
    recordsFresh := false, invalidations := source.invalidations + 1 }

/-- `schedule_refresh`. -/
def scheduleRefresh (source : RuntimeSource) : RuntimeSource :=
  if source.isActive = false ∨ source.monitorDebounceSource ≠ 0 then source
  else { source.addSource .refresh with monitorDebounceSource := source.newSource }

/-- The number of delays in `schedule_retry`. -/
def retryDelays : ℕ := [2, 5, 15, 30, 60].length

/-- `schedule_retry`. -/
def scheduleRetry (source : RuntimeSource) (purpose : RefreshPurpose) : RuntimeSource :=
  if source.isActive = false then source
  else
    let source := { source with retryPurpose := source.retryPurpose.max purpose }
    if source.retrySource ≠ 0 then source
    else
      { source.addSource .retry with
        retryAttempt :=
          if source.retryAttempt < retryDelays - 1 then source.retryAttempt + 1
          else source.retryAttempt
        retrySource := source.newSource }

/-- The retry timer is cleared, with its purpose. -/
def cancelRetry (source : RuntimeSource) : RuntimeSource :=
  { source.clearRetry with retryPurpose := .reconcile }

/-! ## Monitors -/

/-- What `ensure_monitors` returns, its out parameter and the source. -/
structure MonitorsEnsured where
  changed : Bool
  ready : Bool
  source : RuntimeSource

/-- The loop of `ensure_file_monitor`. -/
def tryFileMonitors (source : RuntimeSource) :
    List RuntimeFileMonitor → RuntimeM MonitorsEnsured
  | [] => return ⟨false, false, source⟩
  | candidate :: candidates =>
    if source.monitor.any fun monitor => decide (monitor.path = candidate.path) then
      return ⟨false, true, source⟩
    else do
      if ← runtimeCall (.createFileMonitor candidate.path) then
        return ⟨true, true, { source.clearMonitor with monitor := some candidate }⟩
      else source.tryFileMonitors candidates

/-- The directories that `ensure_file_monitor` tries to watch. -/
def fileMonitorCandidates : List RuntimeFileMonitor :=
  [⟨runtimeDirectory, none⟩, ⟨runtimeParent, some runtimeDirectory⟩,
    ⟨runtimeAncestor, some runtimeParent⟩]

/-- `ensure_file_monitor`. -/
def ensureFileMonitor (source : RuntimeSource) : RuntimeM MonitorsEnsured := do
  if source.monitor.isSome then
    if ← runtimeCall .fileMonitorIsCancelled then
      source.clearMonitor.tryFileMonitors fileMonitorCandidates
    else source.tryFileMonitors fileMonitorCandidates
  else source.tryFileMonitors fileMonitorCandidates

/-- `ensure_link_monitor`. -/
def ensureLinkMonitor (source : RuntimeSource) : RuntimeM MonitorsEnsured := do
  if source.linkMonitorSource then return ⟨false, true, source⟩
  else if ← runtimeCall .openLinkMonitor then
    return ⟨true, true, { source with linkMonitorSource := true }⟩
  else return ⟨false, false, source⟩

/-- `ensure_monitors`. -/
def ensureMonitors (source : RuntimeSource) : RuntimeM MonitorsEnsured := do
  let file ← source.ensureFileMonitor
  let link ← file.source.ensureLinkMonitor
  return ⟨link.changed || file.changed, file.ready && link.ready, link.source⟩

/-! ## Scans -/

/-- `start_scan` from the point where it asks for the scan. -/
def launchScan (source : RuntimeSource) : RuntimeSource :=
  { source with
    tasks := {
      names := source.names
      previousNames := (source.records.filter (·.identifiesSession)).map (·.name)
      generation := source.refreshGeneration
      startedAt := source.invalidations } :: source.tasks
    refreshPending := false
    scanQueued := false
    scanRunning := true
    scanPurpose := source.queuedPurpose
    queuedPurpose := .reconcile }

/-- A scan may be started. -/
def mayScan (source : RuntimeSource) : Bool :=
  source.isActive && !source.scanRunning && source.refreshPending

/-- `start_scan` once its monitors are ensured. -/
def continueScan (source : RuntimeSource) : RuntimeSource :=
  if source.mayScan then { source.launchScan with starting := false }
  else { source with starting := false }

/-- `start_scan`. -/
def startScan (source : RuntimeSource) : RuntimeM RuntimeSource := do
  if source.mayScan then
    let ensured ← { source with starting := true }.ensureMonitors
    let source := ensured.source
    if ensured.changed ∨ ensured.ready = false then
      let invalidated := source.invalidateRecords source.queuedPurpose
      if source.recordsFresh then continueScan <$> invalidated.notifyChanged
      else return invalidated.continueScan
    else return source.continueScan
  else return source

/-- The records `reconcile_scan_records` makes of the known sessions. -/
def knownSessions (previousRecords : List RuntimeRecord) (result : RuntimeScanResult) :
    List RuntimeRecord :=
  ((previousRecords.filter (·.identifiesSession)).map fun previous =>
    match result.records.find? (·.name = previous.name) with
    | some observed => ⟨previous.name, observed.state, observed.interfaceExists⟩
    | none => ⟨previous.name, .unknown, false⟩).take awgRuntimeMaxNames

/-- `reconcile_scan_records`. -/
def reconcileScanRecords (previousRecords : List RuntimeRecord) (result : RuntimeScanResult) :
    List RuntimeRecord :=
  if result.complete then result.records
  else
    let known := knownSessions previousRecords result
    let others := result.records.filter fun record => !(known.map (·.name)).contains record.name
    known ++ others.take (awgRuntimeMaxNames - known.length)

/-! ## Publication -/

/-- What `publish_scan_cb` knows when its monitors are ensured. -/
structure PublicationChecked where
  invalidated : Bool
  monitorsReady : Bool
  source : RuntimeSource

/-- The first part of `publish_scan_cb`. -/
def checkPublication (source : RuntimeSource) (purpose : RefreshPurpose)
    (result : Option RuntimeScanResult) : RuntimeM PublicationChecked := do
  if source.isActive then
    let ensured ← source.ensureMonitors
    let source := ensured.source
    if ensured.changed ∨ ensured.ready = false then
      let invalidated := source.invalidateRecords purpose
      return ⟨source.recordsFresh, ensured.ready,
        if ensured.changed then { invalidated with scanQueued := true } else invalidated⟩
    else if result.isNone ∧ source.refreshPending = false then
      return ⟨source.recordsFresh, ensured.ready,
        (source.invalidateRecords purpose).scheduleRetry purpose⟩
    else return ⟨false, ensured.ready, source⟩
  else return ⟨false, false, source⟩

/-- `publish_scan_cb` accepts the result. -/
def accepts (source : RuntimeSource) (monitorsReady : Bool) (result : RuntimeScanResult) : Bool :=
  source.isActive && monitorsReady && decide (result.generation = source.refreshGeneration) &&
    !source.refreshPending

/-- The records of a result that `publish_scan_cb` accepts. -/
def acceptResult (source : RuntimeSource) (result : RuntimeScanResult) : RuntimeSource :=
  let records := reconcileScanRecords source.records result
  { source with
    records
    linkFilter := result.linkFilter
    recordsFresh := true
    changes := source.changes ++ [.published source.records result records] }

/-- The second part of `publish_scan_cb`, for a result that it accepts. -/
def settleRetry (source : RuntimeSource) (purpose : RefreshPurpose) (complete : Bool) :
    RuntimeSource :=
  if complete then { source.cancelRetry with retryAttempt := 0 } else source.scheduleRetry purpose

/-- `publish_scan_cb` from the point where it may start the next scan. -/
def restartScan (source : RuntimeSource) : RuntimeM RuntimeSource :=
  let restart := source.isActive && source.refreshPending && source.scanQueued
  let source := { source with scanQueued := false, scanPurpose := .reconcile }
  if restart then source.startScan else return source

/-- The second part of `publish_scan_cb`: a result is accepted or dropped. -/
def takeResult (source : RuntimeSource) (purpose : RefreshPurpose) (monitorsReady : Bool)
    (result : Option RuntimeScanResult) : RuntimeSource :=
  match result with
  | some result =>
    if source.accepts monitorsReady result then
      (source.acceptResult result).settleRetry purpose result.complete
    else source
  | none => source

/-- What `publish_scan_cb` makes of a result, between its check of the monitors and the next scan. -/
def applyResult (source : RuntimeSource) (purpose : RefreshPurpose) (monitorsReady : Bool)
    (result : Option RuntimeScanResult) : RuntimeSource :=
  let source := source.takeResult purpose monitorsReady result
  if source.isActive ∧ monitorsReady = false then source.scheduleRetry purpose else source

/-- Reconciliation is over when nothing is checked any more. -/
def settleReconciliation (source : RuntimeSource) : RuntimeSource :=
  if source.isChecking then source else { source with reconciliationActive := false }

/-- The end of `publish_scan_cb`. -/
def finishPublication (source : RuntimeSource) (notify wasChecking wasLoading : Bool) :
    RuntimeM RuntimeSource :=
  let source := source.settleReconciliation
  source.notifyIf
    (notify ∨ wasChecking ≠ source.isChecking ∨ wasLoading ≠ source.isLoading)

/-- The scan is no longer running. -/
def endScan (source : RuntimeSource) : RuntimeSource :=
  { source with scanPublishSource := 0, scanRunning := false }

/-- `publish_scan_cb`. -/
def publishScan (source : RuntimeSource) (result : Option RuntimeScanResult) :
    RuntimeM RuntimeSource := do
  let purpose := source.scanPurpose
  let checked ← source.endScan.checkPublication purpose result
  let accepted := result.any (checked.source.accepts checked.monitorsReady)
  let restarted ← (checked.source.applyResult purpose checked.monitorsReady result).restartScan
  restarted.finishPublication (accepted || checked.invalidated) source.isChecking source.isLoading

/-- `scan_complete_cb`. -/
def scanComplete (source : RuntimeSource) (result : Option RuntimeScanResult) : RuntimeSource :=
  if source.isActive then
    { source.addSource (.publish result) with scanPublishSource := source.newSource }
  else { source with scanRunning := false, scanPurpose := .reconcile }

/-! ## Functions of the source's owner -/

/-- `network_sidebar_awg_runtime_source_set_mutation_active`. -/
def setMutationActive (source : RuntimeSource) (active : Bool) : RuntimeSource :=
  if source.stopping then source else { source with mutationActive := active }

/-- `network_sidebar_awg_runtime_source_poll` where a scan runs or is asked for already. -/
def coalesce (source : RuntimeSource) (purpose : RefreshPurpose) : RuntimeSource :=
  { source with
    reconciliationActive := source.reconciliationActive && decide (purpose ≠ .visible)
    scanPurpose := if source.scanRunning then source.scanPurpose.max purpose else source.scanPurpose
    queuedPurpose :=
      if source.refreshPending then source.queuedPurpose.max purpose else source.queuedPurpose }

/-- `network_sidebar_awg_runtime_source_poll`. -/
def poll (source : RuntimeSource) (purpose : RefreshPurpose) : RuntimeM RuntimeSource :=
  if source.isActive = false then return source
  else if source.scanRunning ∨ source.refreshPending then
    (source.coalesce purpose).notifyIf (source.isLoading ≠ (source.coalesce purpose).isLoading)
  else (source.cancelRetry.queueScan purpose).scheduleRefresh.notifyChanged

/-- What `network_sidebar_awg_runtime_source_request_refresh` does before it notifies. -/
def refresh (source : RuntimeSource) (purpose : RefreshPurpose) : RuntimeSource :=
  (source.cancelRetry.invalidateRecords purpose).scheduleRefresh

/-- `network_sidebar_awg_runtime_source_request_refresh`. -/
def requestRefresh (source : RuntimeSource) (purpose : RefreshPurpose) : RuntimeM RuntimeSource :=
  if source.isActive = false then return source
  else
    (source.refresh purpose).notifyIf (source.recordsFresh ∨ source.isChecking = false ∨
      source.isLoading ≠ (source.refresh purpose).isLoading)

/-- The first record of a name is removed. -/
def forget (source : RuntimeSource) (name : Name) : RuntimeSource :=
  let records := source.records.eraseP (·.name = name)
  { source with
    records
    changes := source.changes ++ [RecordsChange.deleted name source.records records] }

/-- `network_sidebar_awg_runtime_source_record_delete`. -/
def recordDelete (source : RuntimeSource) (name : Name) : RuntimeM RuntimeSource :=
  if source.stopping ∨ nameIsValid name = false then return source
  else (source.forget name).requestRefresh .reconcile

/-- `normalize_names`. -/
def normalizeNames (names : List Name) : List Name :=
  (names.foldl (fun unique name =>
    if nameIsValid name ∧ (unique.contains name ∨ unique.length < awgRuntimeMaxNames) then
      addName unique name
    else unique) []).mergeSort nameLe

/-- What `network_sidebar_awg_runtime_source_set_names` does before it notifies. -/
def rename (source : RuntimeSource) (names : List Name) (purpose : RefreshPurpose) :
    RuntimeSource :=
  let invalidated := { source with names }.invalidateRecords purpose
  if invalidated.isActive then invalidated.cancelRetry.scheduleRefresh else invalidated

/-- `network_sidebar_awg_runtime_source_set_names`. -/
def setNames (source : RuntimeSource) (names : List Name) (purpose : RefreshPurpose) :
    RuntimeM RuntimeSource :=
  if source.stopping then return source
  else if source.names = normalizeNames names then return source
  else
    let renamed := source.rename (normalizeNames names) purpose
    renamed.notifyIf (source.recordsFresh ∨ source.isChecking ≠ renamed.isChecking ∨
      source.isLoading ≠ renamed.isLoading)

/-- The refresh of `network_sidebar_awg_runtime_source_ensure_monitor`. -/
def refreshEnsured (source : RuntimeSource) (changed ready : Bool) : RuntimeSource :=
  if changed ∨ ready = false then
    let invalidated := source.invalidateRecords source.automaticRefreshPurpose
    if changed then invalidated.scheduleRefresh else invalidated
  else source

/-- `network_sidebar_awg_runtime_source_ensure_monitor` once its monitors are ensured. -/
def monitorEnsured (source : RuntimeSource) (changed ready : Bool) : RuntimeSource :=
  let source := source.refreshEnsured changed ready
  if ready then source else source.scheduleRetry source.automaticRefreshPurpose

/-- `network_sidebar_awg_runtime_source_ensure_monitor`. -/
def ensureMonitor (source : RuntimeSource) : RuntimeM RuntimeSource := do
  if source.isActive = false then return source
  else
    let ensured ← source.ensureMonitors
    let refreshed := ensured.source.monitorEnsured ensured.changed ensured.ready
    refreshed.notifyIf
      (((ensured.changed ∨ ensured.ready = false) ∧ ensured.source.recordsFresh) ∨
        source.isChecking ≠ refreshed.isChecking)

/-- `network_sidebar_awg_runtime_source_start`. -/
def start (source : RuntimeSource) : RuntimeM RuntimeSource := do
  if source.started ∨ source.stopping then return source
  else
    let source := { source with started := true }
    if source.monitorEnabled then
      let source ← source.ensureMonitor
      source.requestRefresh .visible
    else return source

/-- What `network_sidebar_awg_runtime_source_set_monitor_enabled` does before it notifies, where it
disables. -/
def disable (source : RuntimeSource) : RuntimeSource :=
  let source := { source with monitorEnabled := false }.clearDebounce.clearRetry
  let source := source.clearMonitor.clearLinkMonitor
  { source with
    refreshGeneration := nextGeneration source.refreshGeneration
    recordsFresh := false
    refreshPending := false
    scanQueued := false
    retryAttempt := 0
    queuedPurpose := .reconcile
    scanPurpose := .reconcile
    retryPurpose := .reconcile
    mutationActive := false
    reconciliationActive := false
    invalidations := source.invalidations + 1 }

/-- `network_sidebar_awg_runtime_source_set_monitor_enabled`. -/
def setMonitorEnabled (source : RuntimeSource) (enabled : Bool) : RuntimeM RuntimeSource := do
  if source.monitorEnabled = enabled then return source
  else if enabled then
    let source ← { source with monitorEnabled := true }.ensureMonitor
    source.requestRefresh .visible
  else source.disable.notifyIf source.isChecking

/-! ## Callbacks of the main loop -/

/-- What `scheduled_refresh_cb` does before it forgets its timer. -/
def startOrQueue (source : RuntimeSource) : RuntimeM RuntimeSource :=
  if source.scanRunning then return { source with scanQueued := true } else source.startScan

/-- `scheduled_refresh_cb`. -/
def scheduledRefresh (source : RuntimeSource) : RuntimeM RuntimeSource := do
  let source ← source.startOrQueue
  return { source with monitorDebounceSource := 0 }

/-- `retry_cb`. -/
def retry (source : RuntimeSource) : RuntimeM RuntimeSource :=
  { source with retrySource := 0, retryPurpose := .reconcile }.requestRefresh source.retryPurpose

/-- `schedule_monitor_refresh`. -/
def scheduleMonitorRefresh (source : RuntimeSource) : RuntimeM RuntimeSource :=
  if source.isActive = false then return source
  else
    (source.refresh source.automaticRefreshPurpose).notifyIf
      (source.recordsFresh ∨ source.isChecking = false)

/-- The events of a file monitor that `monitor_changed_cb` tells apart. -/
inductive FileMonitorEvent where
  | unmounted
  | deleted
  | movedOut
  | renamed
  | other
  deriving DecidableEq

/-- `monitor_changed_cb`. The monitor is there, or the callback is not connected. -/
def monitorChanged (source : RuntimeSource) (monitor : RuntimeFileMonitor)
    (path otherPath : Option Bytes) (event : FileMonitorEvent) : RuntimeM RuntimeSource :=
  if source.isActive = false then return source
  else
    let monitorRemoved := event = .unmounted ∨ (event ≠ .other ∧
      (path = some monitor.path ∨ otherPath = some monitor.path))
    let fallbackEvent := monitor.expectedChild.isSome ∧
      (path = monitor.expectedChild ∨ otherPath = monitor.expectedChild)
    if monitor.expectedChild.isSome ∧ ¬ fallbackEvent ∧ ¬ monitorRemoved then return source
    else if fallbackEvent ∨ monitorRemoved then source.clearMonitor.scheduleMonitorRefresh
    else source.scheduleMonitorRefresh

/-- `AWG_LINK_EVENT_DRAIN_LIMIT`. -/
def awgLinkEventDrainLimit : ℕ := 64

/-- How the loop of `link_monitor_cb` ends. -/
structure LinkDrain where
  failed : Bool
  changed : Bool
  drained : Bool

/-- The loop of `link_monitor_cb`. -/
def drainLinkEvents (source : RuntimeSource) (order : ByteOrder) (changed : Bool) :
    ℕ → RuntimeM LinkDrain
  | 0 => return ⟨false, changed, false⟩
  | remaining + 1 => do
    match ← runtimeCall .receiveLinkEvent with
    | .datagram data trusted =>
      if trusted then
        source.drainLinkEvents order (changed || !source.recordsFresh ||
          linkEventFilterIsRelevant order source.linkFilter data) remaining
      else return ⟨true, changed, false⟩
    | .interrupted => source.drainLinkEvents order changed remaining
    | .drained => return ⟨false, changed, true⟩
    | .failed => return ⟨true, changed, false⟩

/-- How the events of `link_monitor_cb` are drained. `broken` says whether its condition tells of an
error. -/
def drainLink (source : RuntimeSource) (order : ByteOrder) (broken : Bool) : RuntimeM LinkDrain :=
  if broken then return ⟨true, false, false⟩
  else source.drainLinkEvents order false awgLinkEventDrainLimit

/-- `link_monitor_cb`. -/
def linkMonitor (source : RuntimeSource) (order : ByteOrder) (broken : Bool) :
    RuntimeM RuntimeSource := do
  let drain ← source.drainLink order broken
  if drain.failed then source.clearLinkMonitor.scheduleMonitorRefresh
  else if drain.changed ∨ drain.drained = false then source.scheduleMonitorRefresh
  else return source

end RuntimeSource

/-! ## The component -/

/-- What may be called of a source, and what may happen to it. -/
inductive RuntimeEntry where
  | poll (purpose : RefreshPurpose)
  | requestRefresh (purpose : RefreshPurpose)
  | recordDelete (name : Name)
  | setNames (names : List Name) (purpose : RefreshPurpose)
  | ensureMonitor
  | start
  | stop
  | setMonitorEnabled (enabled : Bool)
  | setMutationActive (active : Bool)
  | scheduledRefresh (id : ℕ)
  | retry (id : ℕ)
  | publishScan (id : ℕ) (result : Option RuntimeScanResult)
  | scanComplete (task : ℕ) (result : Option RuntimeScanResult)
  | monitorChanged (monitor : RuntimeFileMonitor) (path otherPath : Option Bytes)
      (event : RuntimeSource.FileMonitorEvent)
  | linkMonitor (broken : Bool)

namespace RuntimeEntry

/-- The entry is a function of the source's owner. -/
def IsCall : RuntimeEntry → Prop
  | poll _ | requestRefresh _ | recordDelete _ | setNames .. | ensureMonitor | start | stop
  | setMonitorEnabled _ | setMutationActive _ => True
  | scheduledRefresh _ | retry _ | publishScan .. | scanComplete .. | monitorChanged ..
  | linkMonitor _ => False

/-- When it can occur: a source of the main loop fires while it is there, and a scan under way may
find whatever `scan_runtime` can. -/
def Enabled : RuntimeEntry → RuntimeSource → Prop
  | scheduledRefresh id, source => (id, .refresh) ∈ source.sources
  | retry id, source => (id, .retry) ∈ source.sources
  | publishScan id result, source => (id, .publish result) ∈ source.sources
  | scanComplete task result, source => ∃ scanRequest, source.tasks[task]? = some scanRequest ∧
      (scanRuntime scanRequest).OutcomeOn ScanCall.Allows result
  | monitorChanged monitor .., source => source.monitor = some monitor
  | linkMonitor _, source => source.linkMonitorSource = true
  | _, _ => True

/-- What it does. The refresh timer's source is there until its callback ends, and its id is left
until then; the other callbacks forget their ids at once, so that their sources are gone. -/
def run (order : ByteOrder) : RuntimeEntry → RuntimeSource → RuntimeM RuntimeSource
  | poll purpose, source => source.poll purpose
  | requestRefresh purpose, source => source.requestRefresh purpose
  | recordDelete name, source => source.recordDelete name
  | setNames names purpose, source => source.setNames names purpose
  | ensureMonitor, source => source.ensureMonitor
  | start, source => source.start
  | stop, source => return source.stopInternal
  | setMonitorEnabled enabled, source => source.setMonitorEnabled enabled
  | setMutationActive active, source => return source.setMutationActive active
  | scheduledRefresh id, source => (·.removeSource id) <$> source.scheduledRefresh
  | retry id, source => (source.removeSource id).retry
  | publishScan id result, source => (source.removeSource id).publishScan result
  | scanComplete task result, source =>
    return { source with tasks := source.tasks.eraseIdx task }.scanComplete result
  | monitorChanged monitor path otherPath event, source =>
    source.monitorChanged monitor path otherPath event
  | linkMonitor broken, source => source.linkMonitor order broken

end RuntimeEntry

/-- The source in its environment. Its owner may call it from within its callback. -/
def runtimeComponent (order : ByteOrder) : Component RuntimeSource RuntimeNote runtimeSig where
  Entry := RuntimeEntry
  run := RuntimeEntry.run order
  enabled := RuntimeEntry.Enabled
  nested := RuntimeEntry.IsCall
  answers _ _ := True
  init source := ∃ changed, source = .new changed

end NmSidebar
