import NmSidebar.Client.ModelEntries
import NmSidebar.Client.RuntimeFresh

/-!
# What is offered is what is admitted

The panel shows the actions of the model's snapshot, and the controller admits an operation by what
it looks up itself (`controller.c`, `model.c`). Right after the entries were rebuilt the two agree.
-/

namespace NmSidebar

open Text Effects

/-! ## Cached records -/

namespace RuntimeSource

/-- `network_sidebar_awg_runtime_source_dup_cached_records`. -/
def dupCachedRecords (source : RuntimeSource) : List RuntimeRecord :=
  (source.records.filter fun record => source.recordsFresh || record.identifiesSession).map
    fun record =>
      { name := record.name
        state := if source.recordsFresh then record.state else .unknown
        interfaceExists := source.recordsFresh && record.interfaceExists }

/-- `network_sidebar_awg_runtime_source_get_cached`. -/
def getCached (source : RuntimeSource) (name : Name) : Option RuntimeRecord :=
  if source.recordsFresh = false ∨ nameIsValid name = false then none
  else source.records.find? (·.name = name)

end RuntimeSource

/-! ## The snapshot -/

/-- `NetworkSidebarAwgEntry`. -/
structure AwgEntry where
  name : Name
  hasProfile : Bool
  profileStatus : ProfileStatus
  runtimeState : RuntimeState
  displayRuntimeState : RuntimeState
  interfaceExists : Bool
  pending : Bool
  primaryAction : ActionAvailability
  removeAction : ActionAvailability

/-- `NetworkSidebarAwgSnapshot`. -/
structure AwgSnapshot where
  generation : ℕ
  authorized : Bool
  capabilitiesKnown : Bool
  missingDependencies : MissingDependencies
  activity : AwgActivity
  activityName : Option Name
  inventoryPending : Bool
  runtimePending : Bool
  inventoryLoading : Bool
  runtimeLoading : Bool
  importAction : ActionAvailability
  profilesWarning : ProfileWarning
  entries : List AwgEntry

/-- The target that `network_sidebar_awg_model_dup_snapshot` takes from a stored entry. -/
def StoredEntry.target (stored : StoredEntry) : AdmissionTarget where
  hasProfile := stored.hasProfile
  profileStatus := stored.profileStatus
  runtimeState := stored.runtimeState
  interfaceExists := stored.interfaceExists

/-- The entry that `network_sidebar_awg_model_dup_snapshot` makes of a stored one. -/
def EntriesModel.snapshotEntry (model : EntriesModel) (admission : AdmissionContext)
    (activity : AwgActivity) (activityName : Option Name) (runtimePending : Bool)
    (stored : StoredEntry) : AwgEntry where
  name := stored.name
  hasProfile := stored.hasProfile
  profileStatus := stored.profileStatus
  runtimeState := stored.runtimeState
  displayRuntimeState :=
    if runtimePending then stored.displayRuntimeState else stored.runtimeState
  interfaceExists := stored.interfaceExists
  pending := activity != .idle && (activityName == some stored.name ||
    (activity == .up && model.switchDisconnectNames.contains stored.name))
  primaryAction :=
    actionEvaluate (awgPrimaryAction stored.runtimeState) admission (some stored.target)
  removeAction := actionEvaluate .delete admission (some stored.target)

/-- `network_sidebar_awg_model_dup_snapshot`. -/
def EntriesModel.dupSnapshot (model : EntriesModel) (generation : ℕ)
    (authorized capabilitiesKnown : Bool) (missingDependencies : MissingDependencies)
    (activity : AwgActivity) (activityName : Option Name)
    (inventoryPending runtimePending inventoryLoading runtimeLoading : Bool) : AwgSnapshot :=
  let admission : AdmissionContext :=
    { authorized, busy := activity != .idle, capabilitiesKnown, missingDependencies }
  { generation, authorized, capabilitiesKnown, missingDependencies, activity, activityName,
    inventoryPending, runtimePending, inventoryLoading, runtimeLoading
    importAction := actionEvaluate .import admission none
    profilesWarning := model.profilesWarning
    entries := model.entries.map
      (model.snapshotEntry admission activity activityName runtimePending) }

/-- The actions of an entry are evaluated against its target. -/
theorem EntriesModel.evaluated_snapshotEntry {model : EntriesModel} {admission : AdmissionContext}
    {activity : AwgActivity} {activityName : Option Name} {runtimePending : Bool}
    {stored : StoredEntry} {offer : ActionAvailability}
    (hoffer : offer ∈
      [(model.snapshotEntry admission activity activityName runtimePending stored).primaryAction,
      (model.snapshotEntry admission activity activityName runtimePending stored).removeAction]) :
    offer = actionEvaluate offer.action admission (some stored.target) := by
  rcases List.mem_cons.mp hoffer with rfl | hlast
  · rfl
  · obtain rfl := List.mem_singleton.mp hlast
    rfl

/-! ## The controller -/

/-- `NetworkSidebarAwgBackendOperation`. -/
inductive BackendOperation where
  | import
  | replace
  | up
  | down
  | delete
  | listProfiles
  deriving DecidableEq

/-- The notices of `operation_is_allowed`. -/
inductive AdmissionNotice where
  | none
  | authorizationUnavailable
  | waitForRuntimeRefresh
  | requiredComponentsUnavailable
  | profileMissing
  | profileActivationBlocked
  | interfaceExternallyManaged
  | cleanupUnconfirmed
  | profileRemovalBlocked
  deriving DecidableEq

/-- What `operation_is_allowed` does about an operation that it does not admit. -/
structure AdmissionResponse where
  notice : AdmissionNotice
  refreshProfiles : Bool
  refreshRuntime : Bool
  refreshEntries : Bool

/-- What `operation_is_allowed` returns and does. -/
structure OperationAdmission where
  allowed : Bool
  target : AdmissionTarget
  blockedReason : ActionBlockedReason
  response : AdmissionResponse

/-- The parts of `NetworkSidebarAwgController` that decide what is offered and admitted. Its model
is that of the inventory, with the entries. A controller that is authorized is running:
`backend_authorization_changed` does nothing otherwise, and `controller_stop_internal` takes the
authorization back. -/
structure AwgController where
  inventory : ProfileInventory
  entries : List StoredEntry
  switchDisconnectNames : List Name
  runtimeSource : RuntimeSource
  authorized : Bool
  activity : AwgActivity
  activityName : Option Name
  generation : ℕ
  started : Bool
  stopping : Bool
  running : authorized = true → started = true ∧ stopping = false

namespace AwgController

/-- The model of the controller. -/
def model (controller : AwgController) : EntriesModel where
  toProfileModel := controller.inventory.model
  entries := controller.entries
  switchDisconnectNames := controller.switchDisconnectNames

/-- `controller_is_running`. -/
def isRunning (controller : AwgController) : Bool := controller.started && !controller.stopping

/-- `network_sidebar_awg_controller_new`. -/
def new (inventory : ProfileInventory) (runtimeSource : RuntimeSource) : AwgController where
  inventory
  entries := []
  switchDisconnectNames := []
  runtimeSource
  authorized := false
  activity := .idle
  activityName := none
  generation := 1
  started := false
  stopping := false
  running h := absurd h Bool.false_ne_true

/-- What `network_sidebar_awg_controller_start` does to the controller itself. -/
def start (controller : AwgController) : AwgController :=
  if h : controller.started = true ∨ controller.stopping = true then controller
  else
    { controller with
      started := true
      running := fun _ => ⟨rfl, Bool.eq_false_iff.mpr (not_or.mp h).2⟩ }

/-- What `backend_authorization_changed` does first. -/
def authorizationChanged (controller : AwgController) (authorized : Bool) : AwgController :=
  if h : controller.started = true ∧ controller.stopping = false then
    { controller with authorized, running := fun _ => h }
  else controller

/-- What `controller_stop_internal` does to the controller itself. -/
def stopInternal (controller : AwgController) : AwgController :=
  if controller.stopping then controller
  else
    let model := controller.model.rebuildEntries false none false .idle none
    { controller with
      entries := model.entries
      switchDisconnectNames := model.switchDisconnectNames
      authorized := false
      activity := .idle
      activityName := none
      generation := min (controller.generation + 1) (2 ^ 64 - 1)
      started := false
      stopping := true
      running := fun h => absurd h Bool.false_ne_true }

/-- `rebuild_entries`. -/
def rebuildEntries (controller : AwgController) : AwgController :=
  let records :=
    if controller.authorized then some (controller.runtimeSource.dupCachedRecords.map some)
    else none
  let model := controller.model.rebuildEntries controller.authorized records
    controller.runtimeSource.isChecking controller.activity controller.activityName
  { controller with
    entries := model.entries
    switchDisconnectNames := model.switchDisconnectNames }

/-- `network_sidebar_awg_controller_dup_snapshot`. -/
def dupSnapshot (controller : AwgController) : AwgSnapshot :=
  let inventory := controller.inventory
  controller.model.dupSnapshot controller.generation controller.authorized
    inventory.capabilitiesKnown inventory.missingDependencies controller.activity
    controller.activityName inventory.pending controller.runtimeSource.isChecking
    (inventory.pending && inventory.pendingPurpose == .visible) controller.runtimeSource.isLoading

/-- `operation_action`. Listing the profiles is not an action. -/
def operationAction : BackendOperation → Option AwgAction
  | .import => some .import
  | .replace => some .replace
  | .up => some .up
  | .down => some .down
  | .delete => some .delete
  | .listProfiles => none

/-- `admission_context`. -/
def admissionContext (controller : AwgController) (continuingActivity : Bool) :
    AdmissionContext where
  authorized := controller.isRunning && controller.authorized
  busy := !continuingActivity && controller.activity != .idle
  capabilitiesKnown := controller.inventory.capabilitiesKnown
  missingDependencies := controller.inventory.missingDependencies

/-- `admission_target`. -/
def admissionTarget (controller : AwgController) : Option Name → AdmissionTarget
  | none => ⟨false, .changedOrUnreadable, .unknown, false⟩
  | some name =>
    let profile := findProfile controller.model.profiles name
    let cached := controller.runtimeSource.getCached name
    { hasProfile := profile.isSome
      profileStatus := profile.getD .changedOrUnreadable
      runtimeState := (cached.map (·.state)).getD .unknown
      interfaceExists := cached.any (·.interfaceExists) }

/-- The notices and refreshes of `operation_is_allowed`. -/
def admissionResponse : ActionBlockedReason → AdmissionResponse
  | .authorization => ⟨.authorizationUnavailable, false, false, false⟩
  | .capabilities | .dependencies => ⟨.requiredComponentsUnavailable, false, false, false⟩
  | .profileMissing => ⟨.profileMissing, true, false, false⟩
  | .profileActivation => ⟨.profileActivationBlocked, false, false, false⟩
  | .profileRemoval => ⟨.profileRemovalBlocked, true, false, false⟩
  | .runtimeUnknown => ⟨.waitForRuntimeRefresh, false, true, false⟩
  | .conflict => ⟨.interfaceExternallyManaged, false, false, true⟩
  | .manualCleanup => ⟨.cleanupUnconfirmed, false, false, true⟩
  | .alreadyInState => ⟨.none, false, false, true⟩
  | .none | .busy => ⟨.none, false, false, false⟩

/-- `operation_is_allowed`, for an operation that is an action. -/
def operationIsAllowed (controller : AwgController) (operation : BackendOperation)
    (name : Option Name) (continuingActivity : Bool) : Option OperationAdmission :=
  (operationAction operation).map fun action =>
    let target := controller.admissionTarget name
    let availability :=
      actionEvaluate action (controller.admissionContext continuingActivity) (some target)
    { allowed := availability.allowed
      target
      blockedReason := availability.blockedReason
      response := admissionResponse availability.blockedReason }

/-! ## The two paths agree -/

/-- A record that is copied while the records are fresh is the one that is looked up, and one that
is copied later says as little as a record that is not found. -/
theorem findRuntimeRecord_dupCachedRecords {source : RuntimeSource}
    (hvalid : ∀ record ∈ source.records, nameIsValid record.name = true) (name : Name) :
    ((findRuntimeRecord source.dupCachedRecords name).map (·.state)).getD .unknown =
        ((source.getCached name).map (·.state)).getD .unknown ∧
      (findRuntimeRecord source.dupCachedRecords name).any (·.interfaceExists) =
        (source.getCached name).any (·.interfaceExists) := by
  unfold findRuntimeRecord RuntimeSource.dupCachedRecords RuntimeSource.getCached
  by_cases hfresh : source.recordsFresh = true
  · have hsame : source.records.find? (·.name = name) =
        if source.recordsFresh = false ∨ nameIsValid name = false then none
        else source.records.find? (·.name = name) := by
      split
      · rename_i hout
        -- no record has an invalid name
        have hname : nameIsValid name = false :=
          hout.resolve_left fun hstale => Bool.false_ne_true (hstale.symm.trans hfresh)
        apply List.find?_eq_none.mpr
        intro record hrecord hfound
        have hvalidName := hvalid record hrecord
        rw [of_decide_eq_true hfound, hname] at hvalidName
        exact Bool.false_ne_true hvalidName
      · rfl
    have hcopies : ((source.records.filter fun record => source.recordsFresh ||
        record.identifiesSession).map fun record => ({
          name := record.name
          state := if source.recordsFresh then record.state else .unknown
          interfaceExists := source.recordsFresh && record.interfaceExists } : RuntimeRecord)) =
        source.records := by
      simp [hfresh]
    rw [hcopies, ← hsame]
    exact ⟨rfl, rfl⟩
  · have hstale : source.recordsFresh = false := Bool.eq_false_iff.mpr hfresh
    rw [if_pos (.inl hstale), hstale]
    cases hfound : List.find? _ (List.map _ _) with
    | none => exact ⟨rfl, rfl⟩
    | some record =>
      obtain ⟨copied, -, rfl⟩ := List.mem_map.mp (List.mem_of_find?_eq_some hfound)
      exact ⟨rfl, rfl⟩

/-- The target of a rebuilt entry is the one the controller computes for its name. -/
theorem target_entryOf {controller : AwgController} {model : EntriesModel}
    (hvalid : ∀ record ∈ controller.runtimeSource.records, nameIsValid record.name = true)
    (hprofiles : model.profiles = controller.model.profiles) (runtimePending : Bool)
    (name : Name) :
    (model.entryOf controller.runtimeSource.dupCachedRecords runtimePending name).target =
      controller.admissionTarget (some name) := by
  obtain ⟨hstate, hinterface⟩ := findRuntimeRecord_dupCachedRecords hvalid name
  unfold EntriesModel.entryOf StoredEntry.target admissionTarget
  dsimp only
  rw [hprofiles, hstate, hinterface]

/-- The entries of a rebuild are those of the names. -/
theorem mem_entries_rebuildEntries {controller : AwgController}
    (hauthorized : controller.authorized = true) {stored : StoredEntry}
    (hmem : stored ∈ controller.rebuildEntries.entries) :
    ∃ model : EntriesModel, model.profiles = controller.model.profiles ∧
      stored = model.entryOf controller.runtimeSource.dupCachedRecords
        controller.runtimeSource.isChecking stored.name := by
  have hrecords : EntriesModel.presentRecords
      (some (controller.runtimeSource.dupCachedRecords.map some)) =
      controller.runtimeSource.dupCachedRecords := by
    unfold EntriesModel.presentRecords
    rw [Option.getD_some, List.filterMap_map]
    exact List.filterMap_some
  unfold rebuildEntries at hmem
  dsimp only at hmem
  rw [if_pos hauthorized, hauthorized, EntriesModel.rebuildEntries_authorized,
    List.mem_mergeSort, hrecords] at hmem
  obtain ⟨name, -, rfl⟩ := List.mem_map.mp hmem
  refine ⟨controller.model.heldFor controller.activity, ?_, rfl⟩
  unfold EntriesModel.heldFor
  split <;> rfl

end AwgController

open AwgController

/-- Right after the entries were rebuilt while the controller is authorized, the primary and the
remove action of every entry of the snapshot are evaluated against the target that the controller
computes for the name of the entry. An operation is then allowed, or blocked for a reason, as the
action is. This holds wherever the runtime source waits, be it for its owner to return. -/
theorem offeredActions_admitted {order : ByteOrder} {controller : AwgController}
    {stack : List (RuntimeSource → RuntimeM RuntimeSource)}
    (hreachable : (runtimeComponent order).Reachable ⟨.waiting controller.runtimeSource, stack⟩)
    (hauthorized : controller.authorized = true) :
    ∀ entry ∈ controller.rebuildEntries.dupSnapshot.entries,
      let target := controller.rebuildEntries.admissionTarget (some entry.name)
      let context := controller.rebuildEntries.admissionContext false
      entry.primaryAction =
        actionEvaluate (awgPrimaryAction entry.runtimeState) context (some target) ∧
      entry.removeAction = actionEvaluate .delete context (some target) ∧
      (⟨entry.hasProfile, entry.profileStatus, entry.runtimeState, entry.interfaceExists⟩ :
        AdmissionTarget) = target ∧
      ∀ offer ∈ [entry.primaryAction, entry.removeAction], ∀ operation,
        operationAction operation = some offer.action →
        ∃ admission, controller.rebuildEntries.operationIsAllowed operation (some entry.name) false =
          some admission ∧ admission.target = target ∧ admission.allowed = offer.allowed ∧
          admission.blockedReason = offer.blockedReason := by
  have hvalid := ((RuntimeSource.sound_keptBy order).waiting hreachable).valid
  intro entry hentry target context
  obtain ⟨stored, hstored, rfl⟩ := List.mem_map.mp hentry
  obtain ⟨model, hprofiles, hmade⟩ := mem_entries_rebuildEntries hauthorized hstored
  have htarget : stored.target = target := by
    rw [hmade]
    exact @target_entryOf controller.rebuildEntries model hvalid hprofiles _ _
  have hcontext : AdmissionContext.mk controller.authorized (controller.activity != .idle)
      controller.inventory.capabilitiesKnown controller.inventory.missingDependencies =
      context := by
    obtain ⟨hstarted, hstopping⟩ := controller.running hauthorized
    have hrunning : controller.rebuildEntries.isRunning = true := by
      show (controller.started && !controller.stopping) = true
      rw [hstarted, hstopping]
      rfl
    show _ = AdmissionContext.mk (controller.rebuildEntries.isRunning && controller.authorized)
      (!false && controller.activity != .idle) _ _
    rw [hrunning, Bool.true_and, Bool.not_false, Bool.true_and]
    rfl
  refine ⟨?_, ?_, htarget, fun offer hoffer operation haction => ?_⟩
  · rw [← hcontext, ← htarget]
    rfl
  · rw [← hcontext, ← htarget]
    rfl
  have hevaluated : offer = actionEvaluate offer.action context (some target) := by
    have hstored := EntriesModel.evaluated_snapshotEntry hoffer
    rw [htarget] at hstored
    exact hcontext ▸ hstored
  refine ⟨_, congrArg (Option.map _) haction, rfl, ?_, ?_⟩
  · exact congrArg ActionAvailability.allowed hevaluated.symm
  · exact congrArg ActionAvailability.blockedReason hevaluated.symm

/-- A controller with one saved profile, whose session a scan has found active before the records
were invalidated. -/
def offeringController : AwgController where
  inventory := .new true true ⟨⟨[(ascii "a", .available)]⟩, ⟨.none, 0, false⟩, true⟩
  entries := []
  switchDisconnectNames := []
  runtimeSource := sampleStale
  authorized := true
  activity := .idle
  activityName := none
  generation := 1
  started := true
  stopping := false
  running _ := ⟨rfl, rfl⟩

/-- The entry has a stale record, so its state is unknown. It offers to connect, and the controller
refuses that for the same reason as the entry. -/
theorem offeredActions_admitted_sample :
    (offeringController.rebuildEntries.dupSnapshot.entries.map fun entry =>
      (entry.name, entry.runtimeState, entry.primaryAction.action,
        entry.primaryAction.blockedReason)) = [(ascii "a", .unknown, .up, .runtimeUnknown)] ∧
    ∀ entry ∈ offeringController.rebuildEntries.dupSnapshot.entries, ∃ admission,
      offeringController.rebuildEntries.operationIsAllowed .up (some entry.name) false =
        some admission ∧ admission.blockedReason = entry.primaryAction.blockedReason := by
  have hentries : (offeringController.rebuildEntries.dupSnapshot.entries.map fun entry =>
      (entry.name, entry.runtimeState, entry.primaryAction.action,
        entry.primaryAction.blockedReason)) = [(ascii "a", .unknown, .up, .runtimeUnknown)] := by
    decide +kernel
  refine ⟨hentries, fun entry hentry => ?_⟩
  have hup : entry.primaryAction.action = .up := by
    have hmem := List.mem_map_of_mem (f := fun entry => (entry.name, entry.runtimeState,
      entry.primaryAction.action, entry.primaryAction.blockedReason)) hentry
    rw [hentries, List.mem_singleton] at hmem
    exact congrArg (·.2.2.1) hmem
  obtain ⟨admission, hadmission, -, -, hreason⟩ :=
    (offeredActions_admitted sampleStale_reachable rfl entry hentry).2.2.2 entry.primaryAction
      List.mem_cons_self .up (by rw [hup]; rfl)
  exact ⟨admission, hadmission, hreason⟩

end NmSidebar
