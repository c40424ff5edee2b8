import NmSidebar.Client.RuntimeSource

/-!
# Where the records of the runtime source come from

A scan that was started before the last invalidation is never published as fresh, and a known
session leaves the records only where it is deleted or after a scan has found it inactive. Both
follow from one invariant of the source: at most one scan is under way, it covers all known
sessions, and while no further scan is asked for nothing has been invalidated since it was started.
-/

namespace NmSidebar

open Text Effects

/-! ## The history of the records -/

namespace RecordsChange

/-- The records before the change. -/
def before : RecordsChange → List RuntimeRecord
  | published before .. => before
  | deleted _ before _ => before

/-- The records after the change. -/
def after : RecordsChange → List RuntimeRecord
  | published _ _ after => after
  | deleted _ _ after => after

/-- What a publication makes of the records: they are distinct and within the limit, and each known
session is there with the state the scan observed, or with the unknown state. -/
structure Publishes (before : List RuntimeRecord) (result : RuntimeScanResult)
    (after : List RuntimeRecord) : Prop where
  scanned : ∃ scanRequest, (scanRuntime scanRequest).OutcomeOn ScanCall.Allows (some result)
  distinct : (after.map (·.name)).Nodup
  bounded : after.length ≤ awgRuntimeMaxNames
  sessions : ∀ record ∈ before, record.identifiesSession = true →
    ∃ record' ∈ after, record'.name = record.name ∧
      record'.state = ((result.records.find? (·.name = record.name)).map (·.state)).getD .unknown

/-- The change is a publication, or the deletion of one name. -/
def IsLegal : RecordsChange → Prop
  | published before result after => Publishes before result after
  | deleted name before after => after = before.eraseP (·.name = name)

/-- The changes lead from no records to the given ones. -/
inductive Leads : List RecordsChange → List RuntimeRecord → Prop
  | none : Leads [] []
  | change {changes : List RecordsChange} {change : RecordsChange}
      (h : Leads changes change.before) (hlegal : change.IsLegal) :
      Leads (changes ++ [change]) change.after

/-- The last scan that was published. -/
def lastPublished : List RecordsChange → Option RuntimeScanResult
  | [] => Option.none
  | .published _ result _ :: changes => (lastPublished changes).or (some result)
  | .deleted .. :: changes => lastPublished changes

theorem lastPublished_published (changes : List RecordsChange) (before after : List RuntimeRecord)
    (result : RuntimeScanResult) :
    lastPublished (changes ++ [.published before result after]) = some result := by
  induction changes with
  | nil => rfl
  | cons change changes ih =>
    cases change with
    | published => simp [lastPublished, ih]
    | deleted => exact ih

theorem lastPublished_deleted (changes : List RecordsChange) (name : Name)
    (before after : List RuntimeRecord) :
    lastPublished (changes ++ [.deleted name before after]) = lastPublished changes := by
  induction changes with
  | nil => rfl
  | cons change changes ih =>
    cases change with
    | published => simp [lastPublished, ih]
    | deleted => exact ih

/-- Only a complete scan was published with a filter. -/
theorem Leads.filter {changes : List RecordsChange} {records : List RuntimeRecord}
    (h : Leads changes records) {result : RuntimeScanResult}
    (hlast : lastPublished changes = some result) (hfilter : result.linkFilter.isSome = true) :
    result.complete = true := by
  induction h with
  | none => cases hlast
  | @change changes change _ hlegal ih =>
    cases change with
    | published before published after =>
      rw [lastPublished_published] at hlast
      obtain rfl := Option.some.inj hlast
      obtain ⟨scanRequest, houtcome⟩ := hlegal.scanned
      exact (scanRuntime_filter scanRequest).on.outcome houtcome published rfl hfilter
    | deleted name before after =>
      rw [lastPublished_deleted] at hlast
      exact ih hlast

end RecordsChange

namespace RuntimeSource

/-! ## The invariant -/

/-- The scans that wait for their publication. -/
def publicationsOf (sources : List (ℕ × RuntimeTimer)) : List (Option RuntimeScanResult) :=
  sources.filterMap fun source =>
    match source.2 with
    | .publish result => some result
    | _ => none

/-- What holds of a scan that is under way. -/
structure Launched (source : RuntimeSource) (scanRequest : RuntimeScanRequest) : Prop where
  distinct : scanRequest.previousNames.Nodup
  bounded : scanRequest.previousNames.length ≤ awgRuntimeMaxNames
  valid : ∀ name ∈ scanRequest.previousNames ++ scanRequest.names, nameIsValid name = true
  covers : ∀ record ∈ source.records, record.identifiesSession = true →
    record.name ∈ scanRequest.previousNames
  /-- Nothing was invalidated since, as far as its result might be accepted. -/
  timely : source.isActive = true → source.refreshPending = false →
    source.linkMonitorSource = true → scanRequest.startedAt = source.invalidations

/-- The invariant of the source's scans and records. -/
structure Sound (source : RuntimeSource) : Prop where
  single : source.tasks.length + (publicationsOf source.sources).length ≤ source.scanRunning.toNat
  tasks : ∀ scanRequest ∈ source.tasks, source.Launched scanRequest
  publications : ∀ result ∈ publicationsOf source.sources, ∃ scanRequest,
    source.Launched scanRequest ∧ (scanRuntime scanRequest).OutcomeOn ScanCall.Allows result
  begun : source.scanRunning = true → source.started = true ∨ source.stopping = true
  unmonitored : source.monitorEnabled = false → source.linkMonitorSource = false
  active : source.recordsFresh = true → source.isActive = true
  fresh : source.recordsFresh = true → ∃ before result,
    source.changes.getLast? = some (.published before result source.records) ∧
      result.startedAt = source.invalidations
  filter : source.linkFilter =
    (RecordsChange.lastPublished source.changes).bind (·.linkFilter)
  leads : RecordsChange.Leads source.changes source.records
  distinct : (source.records.map (·.name)).Nodup
  bounded : source.records.length ≤ awgRuntimeMaxNames
  named : ∀ name ∈ source.names, nameIsValid name = true
  valid : ∀ record ∈ source.records, nameIsValid record.name = true

/-- What a step that neither starts nor publishes a scan does. -/
structure Rearranges (source source' : RuntimeSource) : Prop where
  names : source'.names = source.names
  records : source'.records = source.records
  changes : source'.changes = source.changes
  linkFilter : source'.linkFilter = source.linkFilter
  tasks : source'.tasks = source.tasks
  scanRunning : source'.scanRunning = source.scanRunning
  publications : (publicationsOf source'.sources).Sublist (publicationsOf source.sources)
  begun : source.started = true ∨ source.stopping = true →
    source'.started = true ∨ source'.stopping = true
  unmonitored : (source.monitorEnabled = false → source.linkMonitorSource = false) →
    source'.monitorEnabled = false → source'.linkMonitorSource = false
  fresh : source'.recordsFresh = true → source.recordsFresh = true ∧
    source'.invalidations = source.invalidations ∧ (source.isActive = true → source'.isActive = true)
  timely : source'.isActive = true → source'.refreshPending = false →
    source'.linkMonitorSource = true → source.isActive = true ∧ source.refreshPending = false ∧
      source.linkMonitorSource = true ∧ source'.invalidations = source.invalidations

variable {source source' source'' : RuntimeSource}

theorem Rearranges.refl (source : RuntimeSource) : source.Rearranges source :=
  ⟨rfl, rfl, rfl, rfl, rfl, rfl, .refl _, id, id, fun h => ⟨h, rfl, id⟩, fun h h' h'' => ⟨h, h', h'', rfl⟩⟩

theorem Rearranges.trans (h : source.Rearranges source') (h' : source'.Rearranges source'') :
    source.Rearranges source'' where
  names := h'.names.trans h.names
  records := h'.records.trans h.records
  changes := h'.changes.trans h.changes
  linkFilter := h'.linkFilter.trans h.linkFilter
  tasks := h'.tasks.trans h.tasks
  scanRunning := h'.scanRunning.trans h.scanRunning
  publications := h'.publications.trans h.publications
  begun hbegun := h'.begun (h.begun hbegun)
  unmonitored hunmonitored := h'.unmonitored (h.unmonitored hunmonitored)
  fresh hfresh := by
    obtain ⟨hfresh', hsame', hactive'⟩ := h'.fresh hfresh
    obtain ⟨hfresh, hsame, hactive⟩ := h.fresh hfresh'
    exact ⟨hfresh, hsame'.trans hsame, fun h => hactive' (hactive h)⟩
  timely hactive hpending hlink := by
    obtain ⟨hactive', hpending', hlink', hsame'⟩ := h'.timely hactive hpending hlink
    obtain ⟨hactive, hpending, hlink, hsame⟩ := h.timely hactive' hpending' hlink'
    exact ⟨hactive, hpending, hlink, hsame'.trans hsame⟩

theorem Launched.rearranges {scanRequest : RuntimeScanRequest} (h : source.Launched scanRequest)
    (hr : source.Rearranges source') : source'.Launched scanRequest where
  distinct := h.distinct
  bounded := h.bounded
  valid := h.valid
  covers := hr.records ▸ h.covers
  timely hactive hpending hlink := by
    obtain ⟨hactive, hpending, hlink, hsame⟩ := hr.timely hactive hpending hlink
    exact (h.timely hactive hpending hlink).trans hsame.symm

/-- Such a step keeps the invariant. -/
theorem Sound.rearranges (h : source.Sound) (hr : source.Rearranges source') : source'.Sound where
  single := by
    rw [hr.tasks, hr.scanRunning]
    exact (Nat.add_le_add_left hr.publications.length_le _).trans h.single
  tasks scanRequest hmem := (h.tasks scanRequest (hr.tasks ▸ hmem)).rearranges hr
  publications result hmem := by
    obtain ⟨scanRequest, hlaunched, houtcome⟩ := h.publications result (hr.publications.subset hmem)
    exact ⟨scanRequest, hlaunched.rearranges hr, houtcome⟩
  begun hrunning := hr.begun (h.begun (hr.scanRunning ▸ hrunning))
  unmonitored := hr.unmonitored h.unmonitored
  active hfresh := by
    obtain ⟨hfresh, -, hactive⟩ := hr.fresh hfresh
    exact hactive (h.active hfresh)
  fresh hfresh := by
    obtain ⟨hfresh, hsame, -⟩ := hr.fresh hfresh
    obtain ⟨before, result, hlast, hstarted⟩ := h.fresh hfresh
    exact ⟨before, result, by rw [hr.changes, hr.records, hlast], hstarted.trans hsame.symm⟩
  filter := by rw [hr.linkFilter, hr.changes, h.filter]
  leads := by
    rw [hr.changes, hr.records]
    exact h.leads
  distinct := hr.records ▸ h.distinct
  bounded := hr.records ▸ h.bounded
  named := hr.names ▸ h.named
  valid := hr.records ▸ h.valid

/-! ## Steps that neither start nor publish a scan -/

theorem publicationsOf_filter (sources : List (ℕ × RuntimeTimer)) (p : ℕ × RuntimeTimer → Bool) :
    (publicationsOf (sources.filter p)).Sublist (publicationsOf sources) :=
  List.filter_sublist.filterMap _

theorem rearranges_removeSource (source : RuntimeSource) (id : ℕ) :
    source.Rearranges (source.removeSource id) :=
  { Rearranges.refl source with publications := publicationsOf_filter _ _ }

theorem rearranges_cancelRetry (source : RuntimeSource) : source.Rearranges source.cancelRetry :=
  { Rearranges.refl source with publications := publicationsOf_filter _ _ }

theorem rearranges_queueScan (source : RuntimeSource) (purpose : RefreshPurpose) :
    source.Rearranges (source.queueScan purpose) := by
  unfold queueScan
  dsimp only
  split <;> exact { Rearranges.refl source with timely := fun _ h => nomatch h }

theorem rearranges_invalidateRecords (source : RuntimeSource) (purpose : RefreshPurpose) :
    source.Rearranges (source.invalidateRecords purpose) :=
  { rearranges_queueScan source purpose with
    fresh := fun h => nomatch h
    timely := fun _ h => nomatch h }

theorem rearranges_scheduleRefresh (source : RuntimeSource) :
    source.Rearranges source.scheduleRefresh := by
  unfold scheduleRefresh
  split
  · exact .refl source
  · exact { Rearranges.refl source with publications := .refl _ }

theorem rearranges_scheduleRetry (source : RuntimeSource) (purpose : RefreshPurpose) :
    source.Rearranges (source.scheduleRetry purpose) := by
  unfold scheduleRetry
  split
  · exact .refl source
  dsimp only
  split
  · exact { Rearranges.refl source with publications := .refl _ }
  · exact { Rearranges.refl source with publications := .refl _ }

@[simp] theorem scheduleRetry_refreshPending (source : RuntimeSource) (purpose : RefreshPurpose) :
    (source.scheduleRetry purpose).refreshPending = source.refreshPending := by
  unfold scheduleRetry
  split
  · rfl
  dsimp only
  split <;> rfl

theorem rearranges_clearLinkMonitor (source : RuntimeSource) :
    source.Rearranges source.clearLinkMonitor :=
  { Rearranges.refl source with
    unmonitored := fun _ _ => rfl
    timely := fun _ _ h => nomatch h }

theorem rearranges_clearMonitor (source : RuntimeSource) : source.Rearranges source.clearMonitor :=
  { Rearranges.refl source with publications := .refl _ }

theorem rearranges_stopInternal (source : RuntimeSource) :
    source.Rearranges source.stopInternal := by
  by_cases hstopping : source.stopping = true
  · rw [stopInternal, if_pos hstopping]
    exact .refl source
  · rw [stopInternal, if_neg hstopping]
    simp only [clearDebounce, clearRetry, clearPublish, clearMonitor, clearLinkMonitor, removeSource]
    refine ⟨rfl, rfl, rfl, rfl, rfl, rfl, ?_, fun _ => .inr rfl, fun _ _ => rfl, ?_, ?_⟩
    · exact ((publicationsOf_filter _ _).trans (publicationsOf_filter _ _)).trans
        (publicationsOf_filter _ _)
    · exact fun h => absurd h Bool.false_ne_true
    · exact fun h => absurd h Bool.false_ne_true

/-! ## The monitors -/

/-- What `ensure_monitors` does to the source. -/
structure Ensures (source : RuntimeSource) (ensured : MonitorsEnsured) : Prop where
  monitors : ∃ monitor link, ensured.source =
    { source with monitor := monitor, linkMonitorSource := link }
  unchanged : ensured.changed = false → ensured.source.linkMonitorSource = source.linkMonitorSource
  ready : ensured.changed = false → ensured.ready = true → source.linkMonitorSource = true

theorem tryFileMonitors_returns (source : RuntimeSource) (candidates : List RuntimeFileMonitor) :
    (source.tryFileMonitors candidates).Returns fun ensured =>
      ∃ monitor, ensured.source = { source with monitor := monitor } := by
  induction candidates with
  | nil => exact ⟨source.monitor, rfl⟩
  | cons candidate candidates ih =>
    unfold tryFileMonitors
    split
    · exact ⟨source.monitor, rfl⟩
    · intro created
      cases created with
      | true => exact ⟨some candidate, rfl⟩
      | false => exact ih

theorem ensureFileMonitor_returns (source : RuntimeSource) :
    source.ensureFileMonitor.Returns fun ensured =>
      ∃ monitor, ensured.source = { source with monitor := monitor } := by
  unfold ensureFileMonitor
  split
  · intro cancelled
    cases cancelled with
    | true =>
      refine (source.clearMonitor.tryFileMonitors_returns _).mono ?_
      rintro ensured ⟨monitor, hensured⟩
      exact ⟨monitor, hensured⟩
    | false => exact source.tryFileMonitors_returns _
  · exact source.tryFileMonitors_returns _

theorem ensureMonitors_returns (source : RuntimeSource) :
    source.ensureMonitors.Returns source.Ensures := by
  refine source.ensureFileMonitor_returns.bind ?_
  rintro ⟨fileChanged, fileReady, file⟩ ⟨monitor, rfl⟩
  unfold ensureLinkMonitor
  dsimp only
  split
  · rename_i hlink
    exact ⟨⟨monitor, _, rfl⟩, fun _ => rfl, fun _ _ => hlink⟩
  · intro opened
    cases opened with
    | true => exact ⟨⟨monitor, true, rfl⟩, fun h => (nomatch h), fun h => nomatch h⟩
    | false =>
      refine ⟨⟨monitor, source.linkMonitorSource, rfl⟩, fun _ => rfl, fun _ hready => ?_⟩
      have hready : (fileReady && false) = true := hready
      rw [Bool.and_false] at hready
      cases hready

theorem tryFileMonitors_uses (source : RuntimeSource) (candidates : List RuntimeFileMonitor) :
    (source.tryFileMonitors candidates).Uses Callout.IsSystem := by
  induction candidates with
  | nil => trivial
  | cons candidate candidates ih =>
    unfold tryFileMonitors
    split
    · trivial
    · refine ⟨trivial, fun created => ?_⟩
      cases created with
      | true => trivial
      | false => exact ih

theorem ensureMonitors_uses (source : RuntimeSource) :
    source.ensureMonitors.Uses Callout.IsSystem := by
  have hfile : source.ensureFileMonitor.Uses Callout.IsSystem := by
    unfold ensureFileMonitor
    split
    · refine ⟨trivial, fun cancelled => ?_⟩
      cases cancelled with
      | true => exact tryFileMonitors_uses _ _
      | false => exact tryFileMonitors_uses _ _
    · exact tryFileMonitors_uses _ _
  refine hfile.bind fun file => ?_
  unfold ensureLinkMonitor
  split
  · trivial
  · refine ⟨trivial, fun opened => ?_⟩
    cases opened <;> trivial

/-- Under any contract, `ensure_monitors` does no more than that. -/
theorem maintains_ensureMonitors {K : Contract RuntimeSource RuntimeNote}
    {C : Component RuntimeSource RuntimeNote runtimeSig} (source : RuntimeSource) :
    K.Maintains C source.ensureMonitors source.Ensures :=
  Contract.maintains_of_returns source.ensureMonitors_returns source.ensureMonitors_uses

/-- Where the monitors were there already, nothing else happens. -/
theorem Ensures.rearranges {ensured : MonitorsEnsured} (h : source.Ensures ensured)
    (hunchanged : ensured.changed = false) : source.Rearranges ensured.source := by
  obtain ⟨monitor, link, hsource⟩ := h.monitors
  have hlink := h.unchanged hunchanged
  rw [hsource] at hlink ⊢
  obtain rfl : link = source.linkMonitorSource := hlink
  exact { Rearranges.refl source with publications := .refl _ }

/-- Monitors that are new come with an invalidation. -/
theorem Ensures.invalidated {ensured : MonitorsEnsured} (h : source.Ensures ensured)
    (hactive : source.isActive = true) (purpose : RefreshPurpose) :
    source.Rearranges (ensured.source.invalidateRecords purpose) := by
  obtain ⟨monitor, link, hsource⟩ := h.monitors
  have henabled : source.monitorEnabled = true := by
    simp only [isActive, Bool.and_eq_true] at hactive
    exact hactive.2
  have hr := ensured.source.rearranges_invalidateRecords purpose
  have hsame : (ensured.source.invalidateRecords purpose).monitorEnabled = true := by
    rw [hsource]
    unfold invalidateRecords queueScan
    dsimp only
    split <;> exact henabled
  have hsources : (publicationsOf (ensured.source.invalidateRecords purpose).sources).Sublist
      (publicationsOf source.sources) := by
    have hsublist := hr.publications
    rw [hsource] at hsublist ⊢
    exact hsublist
  have hsource₀ : ensured.source.names = source.names ∧ ensured.source.records = source.records ∧
      ensured.source.changes = source.changes ∧ ensured.source.linkFilter = source.linkFilter ∧
      ensured.source.tasks = source.tasks ∧ ensured.source.scanRunning = source.scanRunning ∧
      ensured.source.started = source.started ∧ ensured.source.stopping = source.stopping := by
    rw [hsource]
    exact ⟨rfl, rfl, rfl, rfl, rfl, rfl, rfl, rfl⟩
  obtain ⟨hnames, hrecords, hchanges, hfilter, htasks, hscan, hstarted, hstopping⟩ := hsource₀
  exact {
    names := hr.names.trans hnames
    records := hr.records.trans hrecords
    changes := hr.changes.trans hchanges
    linkFilter := hr.linkFilter.trans hfilter
    tasks := hr.tasks.trans htasks
    scanRunning := hr.scanRunning.trans hscan
    publications := hsources
    begun := fun hbegun => hr.begun (by rwa [hstarted, hstopping])
    unmonitored := fun _ hdisabled => absurd (hsame.symm.trans hdisabled) Bool.noConfusion
    fresh := fun h => nomatch h
    timely := fun _ h => nomatch h }

/-! ## Scans -/

/-- The contract of the source's records. -/
def soundContract : Contract RuntimeSource RuntimeNote where
  invariant := Sound
  rely _ _ := True
  issues _ _ := True
  settled _ := True

/-- A function of the source keeps the invariant. -/
def KeepsSound (order : ByteOrder) (p : RuntimeM RuntimeSource) : Prop :=
  soundContract.Maintains (runtimeComponent order) p Sound

variable {order : ByteOrder}

theorem Sound.notifyChanged (h : source.Sound) : KeepsSound order source.notifyChanged := by
  unfold RuntimeSource.notifyChanged
  split
  · exact Contract.maintains_callout.mpr ⟨⟨h, trivial⟩, fun s' hs' => hs'.1⟩
  · exact h

theorem Sound.notifyIf (h : source.Sound) (condition : Prop) [Decidable condition] :
    KeepsSound order (source.notifyIf condition) := by
  unfold RuntimeSource.notifyIf
  split
  · exact h.notifyChanged
  · exact h

/-- No scan is under way when none is running. -/
theorem Sound.quiet (h : source.Sound) (hrunning : source.scanRunning = false) :
    source.tasks = [] ∧ publicationsOf source.sources = [] := by
  have hsingle := h.single
  rw [hrunning] at hsingle
  have hnone : source.tasks.length + (publicationsOf source.sources).length ≤ 0 := hsingle
  exact ⟨List.length_eq_zero_iff.mp (by omega), List.length_eq_zero_iff.mp (by omega)⟩

/-- A scan that is started covers the known sessions, and nothing is invalidated after it yet. -/
theorem Sound.launchScan (h : source.Sound) (hrunning : source.scanRunning = false)
    (hactive : source.isActive = true) : source.launchScan.Sound := by
  obtain ⟨htasks, hpublications⟩ := h.quiet hrunning
  have hlaunched : source.launchScan.Launched {
      names := source.names
      previousNames := (source.records.filter (·.identifiesSession)).map (·.name)
      generation := source.refreshGeneration
      startedAt := source.invalidations } := by
    refine ⟨?_, ?_, fun name hname => ?_, fun record hmem hsession => ?_, fun _ _ _ => rfl⟩
    · exact h.distinct.sublist (List.filter_sublist.map _)
    · rw [List.length_map]
      exact (List.length_filter_le _ _).trans h.bounded
    · rcases List.mem_append.mp hname with hprevious | hname
      · obtain ⟨record, hrecord, rfl⟩ := List.mem_map.mp hprevious
        exact h.valid record (List.mem_of_mem_filter hrecord)
      · exact h.named name hname
    · exact List.mem_map_of_mem (List.mem_filter.mpr ⟨hmem, hsession⟩)
  exact { h with
    single := by
      show (_ :: source.tasks).length + (publicationsOf source.sources).length ≤ 1
      rw [htasks, hpublications]
      exact le_rfl
    tasks := fun scanRequest hmem => by
      rcases List.mem_cons.mp hmem with rfl | hmem
      · exact hlaunched
      · rw [htasks] at hmem
        cases hmem
    publications := fun result hmem => by
      have hmem : result ∈ publicationsOf source.sources := hmem
      rw [hpublications] at hmem
      cases hmem
    begun := fun _ => by
      simp only [isActive, isRunning, Bool.and_eq_true] at hactive
      exact .inl hactive.1.1 }

theorem Sound.starting (h : source.Sound) (starting : Bool) :
    { source with starting := starting }.Sound :=
  h.rearranges { Rearranges.refl source with publications := .refl _ }

theorem Sound.continueScan (h : source.Sound) : source.continueScan.Sound := by
  unfold RuntimeSource.continueScan
  split
  · rename_i hmay
    simp only [mayScan, Bool.and_eq_true, Bool.not_eq_true'] at hmay
    exact (h.launchScan hmay.1.2 hmay.1.1).starting false
  · exact h.starting false

theorem Sound.startScan (h : source.Sound) : KeepsSound order source.startScan := by
  unfold RuntimeSource.startScan
  split
  · rename_i hmay
    simp only [mayScan, Bool.and_eq_true, Bool.not_eq_true'] at hmay
    refine Contract.Maintains.bind (maintains_ensureMonitors _) fun ensured hensured => ?_
    have h₁ := h.starting true
    split
    · have h₂ := h₁.rearranges (hensured.invalidated hmay.1.1 ensured.source.queuedPurpose)
      dsimp only
      split
      · exact Contract.Maintains.bind h₂.notifyChanged fun source' h' => h'.continueScan
      · exact h₂.continueScan
    · rename_i hready
      have hunchanged := Bool.eq_false_iff.mpr (not_or.mp hready).1
      exact (h₁.rearranges (hensured.rearranges hunchanged)).continueScan
  · exact h

/-! ## Publication -/

/-- A scan that is published is no longer under way. -/
theorem Sound.endScan (h : source.Sound)
    (hquiet : source.tasks = [] ∧ publicationsOf source.sources = []) : source.endScan.Sound where
  single := by
    show source.tasks.length + (publicationsOf source.sources).length ≤ 0
    rw [hquiet.1, hquiet.2]
    exact le_rfl
  tasks scanRequest hmem := by
    have hmem : scanRequest ∈ source.tasks := hmem
    rw [hquiet.1] at hmem
    cases hmem
  publications result hmem := by
    have hmem : result ∈ publicationsOf source.sources := hmem
    rw [hquiet.2] at hmem
    cases hmem
  begun hrunning := nomatch hrunning
  unmonitored := h.unmonitored
  active := h.active
  fresh := h.fresh
  filter := h.filter
  leads := h.leads
  distinct := h.distinct
  bounded := h.bounded
  named := h.named
  valid := h.valid

/-- What the first part of `publish_scan_cb` leaves: where it did not invalidate, and the monitors
are ready, they were there before. -/
theorem maintains_checkPublication (source : RuntimeSource) (purpose : RefreshPurpose)
    (result : Option RuntimeScanResult) :
    soundContract.Maintains (runtimeComponent order) (source.checkPublication purpose result)
      fun checked => source.Rearranges checked.source ∧
        (checked.source.refreshPending = false → checked.monitorsReady = true →
          checked.source.linkMonitorSource = true) := by
  unfold RuntimeSource.checkPublication
  split
  · rename_i hactive
    refine Contract.Maintains.bind (maintains_ensureMonitors _) fun ensured hensured => ?_
    dsimp only
    split
    · have hinvalidated := hensured.invalidated hactive purpose
      split
      · refine ⟨hinvalidated.trans ?_, fun hpending => absurd hpending.symm Bool.false_ne_true⟩
        exact { Rearranges.refl _ with publications := .refl _ }
      · exact ⟨hinvalidated, fun hpending => absurd hpending.symm Bool.false_ne_true⟩
    · rename_i hready
      have hunchanged := Bool.eq_false_iff.mpr (not_or.mp hready).1
      have hready : ensured.ready = true := by simpa using (not_or.mp hready).2
      split
      · refine ⟨(hensured.rearranges hunchanged).trans ((rearranges_invalidateRecords _ _).trans
          (rearranges_scheduleRetry _ _)), fun hpending => ?_⟩
        rw [scheduleRetry_refreshPending] at hpending
        exact absurd hpending.symm Bool.false_ne_true
      · exact ⟨hensured.rearranges hunchanged, fun _ _ =>
          (hensured.unchanged hunchanged).trans (hensured.ready hunchanged hready)⟩
  · exact ⟨.refl source, fun _ hready => absurd hready Bool.false_ne_true⟩

/-- The record that an incomplete scan leaves of a known session. -/
def sessionRecord (result : RuntimeScanResult) (previous : RuntimeRecord) : RuntimeRecord :=
  match result.records.find? (·.name = previous.name) with
  | some observed => ⟨previous.name, observed.state, observed.interfaceExists⟩
  | none => ⟨previous.name, .unknown, false⟩

theorem sessionRecord_eq (result : RuntimeScanResult) (previous : RuntimeRecord) :
    (sessionRecord result previous).name = previous.name ∧
      (sessionRecord result previous).state =
        ((result.records.find? (·.name = previous.name)).map (·.state)).getD .unknown := by
  unfold sessionRecord
  cases result.records.find? (·.name = previous.name) with
  | none => exact ⟨rfl, rfl⟩
  | some observed => exact ⟨rfl, rfl⟩

/-- Within the limit no known session is cut off. -/
theorem knownSessions_eq {records : List RuntimeRecord} (hbounded : records.length ≤ awgRuntimeMaxNames)
    (result : RuntimeScanResult) :
    knownSessions records result = (records.filter (·.identifiesSession)).map (sessionRecord result) := by
  refine List.take_of_length_le ?_
  rw [List.length_map]
  exact (List.length_filter_le _ _).trans hbounded

/-- A scan that covers the known sessions publishes them. -/
theorem publishes_reconcile {records : List RuntimeRecord} {scanRequest : RuntimeScanRequest}
    {result : RuntimeScanResult} (hdistinct : (records.map (·.name)).Nodup)
    (hbounded : records.length ≤ awgRuntimeMaxNames)
    (hcovers : ∀ record ∈ records, record.identifiesSession = true →
      record.name ∈ scanRequest.previousNames) (hanswers : result.Answers scanRequest)
    (houtcome : (scanRuntime scanRequest).OutcomeOn ScanCall.Allows (some result)) :
    RecordsChange.Publishes records result (reconcileScanRecords records result) := by
  unfold reconcileScanRecords
  split
  · refine ⟨⟨scanRequest, houtcome⟩, hanswers.distinct, hanswers.bounded, fun record hmem hsession => ?_⟩
    -- a complete scan has examined every known session
    obtain ⟨observed, hobserved, hname⟩ :=
      List.mem_map.mp (hanswers.covers _ (hcovers record hmem hsession))
    obtain ⟨found, hfound⟩ := Option.isSome_iff_exists.mp
      (List.find?_isSome.mpr ⟨observed, hobserved, decide_eq_true hname⟩ :
        (result.records.find? (·.name = record.name)).isSome = true)
    refine ⟨found, List.mem_of_find?_eq_some hfound, by simpa using List.find?_some hfound, ?_⟩
    rw [hfound]
    rfl
  · dsimp only
    rw [knownSessions_eq hbounded]
    have hnames : ((records.filter (·.identifiesSession)).map (sessionRecord result)).map (·.name) =
        (records.filter (·.identifiesSession)).map (·.name) := by
      rw [List.map_map]
      exact List.map_congr_left fun record _ => (sessionRecord_eq result record).1
    have hlength : ((records.filter (·.identifiesSession)).map (sessionRecord result)).length ≤
        awgRuntimeMaxNames := by
      rw [List.length_map]
      exact (List.length_filter_le _ _).trans hbounded
    refine ⟨⟨scanRequest, houtcome⟩, ?_, ?_, fun record hmem hsession => ?_⟩
    · rw [List.map_append, hnames]
      refine List.nodup_append.mpr ⟨hdistinct.sublist (List.filter_sublist.map _), ?_, ?_⟩
      · exact hanswers.distinct.sublist
          (((List.take_sublist _ _).trans List.filter_sublist).map _)
      · rintro name hknown _ hother rfl
        obtain ⟨other, hmem, rfl⟩ := List.mem_map.mp hother
        have hnew := (List.mem_filter.mp (List.mem_of_mem_take hmem)).2
        simp only [Bool.not_eq_true', List.contains_eq_mem, decide_eq_false_iff_not] at hnew
        exact hnew hknown
    · rw [List.length_append, List.length_take]
      omega
    · have hstate := sessionRecord_eq result record
      exact ⟨sessionRecord result record, List.mem_append_left _
        (List.mem_map_of_mem (List.mem_filter.mpr ⟨hmem, hsession⟩)), hstate.1, hstate.2⟩

/-- The records of a publication have valid names. -/
theorem valid_reconcile {records : List RuntimeRecord} {result : RuntimeScanResult}
    (hvalid : ∀ record ∈ records, nameIsValid record.name = true)
    (hscanned : ∀ record ∈ result.records, nameIsValid record.name = true) :
    ∀ record ∈ reconcileScanRecords records result, nameIsValid record.name = true := by
  intro record hrecord
  unfold reconcileScanRecords at hrecord
  split at hrecord
  · exact hscanned record hrecord
  · rcases List.mem_append.mp hrecord with hknown | hother
    · obtain ⟨previous, hprevious, hsession⟩ := List.mem_map.mp (List.mem_of_mem_take hknown)
      have hname : record.name = previous.name := hsession ▸ (sessionRecord_eq result previous).1
      exact hname ▸ hvalid previous (List.mem_of_mem_filter hprevious)
    · exact hscanned record (List.mem_of_mem_filter (List.mem_of_mem_take hother))

/-- A scan that is accepted is fresh: nothing was invalidated since it was started. -/
theorem Sound.acceptResult (h : source.Sound)
    (hquiet : source.tasks = [] ∧ publicationsOf source.sources = [])
    {scanRequest : RuntimeScanRequest} {result : RuntimeScanResult}
    (hlaunched : source.Launched scanRequest)
    (houtcome : (scanRuntime scanRequest).OutcomeOn ScanCall.Allows (some result))
    (hactive : source.isActive = true) (hpending : source.refreshPending = false)
    (hlink : source.linkMonitorSource = true) : (source.acceptResult result).Sound := by
  have hanswers := (scanRuntime_answers hlaunched.distinct hlaunched.bounded
    hlaunched.valid).outcome houtcome result rfl
  have hpublishes := publishes_reconcile h.distinct h.bounded hlaunched.covers hanswers houtcome
  exact {
    single := h.single
    tasks := fun scanRequest hmem => by
      have hmem : scanRequest ∈ source.tasks := hmem
      rw [hquiet.1] at hmem
      cases hmem
    publications := fun result hmem => by
      have hmem : result ∈ publicationsOf source.sources := hmem
      rw [hquiet.2] at hmem
      cases hmem
    begun := h.begun
    unmonitored := h.unmonitored
    active := fun _ => hactive
    fresh := fun _ => ⟨source.records, result, List.getLast?_concat,
      hanswers.startedAt.trans (hlaunched.timely hactive hpending hlink)⟩
    filter := by
      show result.linkFilter = (RecordsChange.lastPublished (source.changes ++ [_])).bind _
      rw [RecordsChange.lastPublished_published]
      rfl
    leads := @RecordsChange.Leads.change source.changes (.published source.records result _) h.leads
      hpublishes
    distinct := hpublishes.distinct
    bounded := hpublishes.bounded
    named := h.named
    valid := valid_reconcile h.valid hanswers.valid }

theorem Sound.settleRetry (h : source.Sound) (purpose : RefreshPurpose) (complete : Bool) :
    (source.settleRetry purpose complete).Sound := by
  unfold RuntimeSource.settleRetry
  split
  · refine h.rearranges ((rearranges_cancelRetry source).trans ?_)
    exact { Rearranges.refl _ with publications := .refl _ }
  · exact h.rearranges (rearranges_scheduleRetry source purpose)

theorem Sound.restartScan (h : source.Sound) : KeepsSound order source.restartScan := by
  unfold RuntimeSource.restartScan
  have hquiet : { source with scanQueued := false, scanPurpose := .reconcile }.Sound :=
    h.rearranges { Rearranges.refl source with publications := .refl _ }
  dsimp only
  split
  · exact hquiet.startScan
  · exact hquiet

theorem Sound.finishPublication (h : source.Sound) (notify wasChecking wasLoading : Bool) :
    KeepsSound order (source.finishPublication notify wasChecking wasLoading) := by
  have hsettled : source.settleReconciliation.Sound := by
    unfold settleReconciliation
    split
    · exact h
    · exact h.rearranges { Rearranges.refl source with publications := .refl _ }
  exact hsettled.notifyIf _

/-- The result of the only scan under way is applied. -/
theorem Sound.applyResult (h : source.Sound)
    (hquiet : source.tasks = [] ∧ publicationsOf source.sources = [])
    {result : Option RuntimeScanResult} {scanRequest : RuntimeScanRequest}
    (hlaunched : source.Launched scanRequest)
    (houtcome : (scanRuntime scanRequest).OutcomeOn ScanCall.Allows result) {monitorsReady : Bool}
    (hlink : source.refreshPending = false → monitorsReady = true →
      source.linkMonitorSource = true) (purpose : RefreshPurpose) :
    (source.applyResult purpose monitorsReady result).Sound := by
  have htaken : (source.takeResult purpose monitorsReady result).Sound := by
    unfold takeResult
    split
    · rename_i result
      split
      · rename_i haccepts
        simp only [accepts, Bool.and_eq_true, Bool.not_eq_true'] at haccepts
        obtain ⟨⟨⟨hactive, hready⟩, -⟩, hpending⟩ := haccepts
        exact (h.acceptResult hquiet hlaunched houtcome hactive hpending
          (hlink hpending hready)).settleRetry purpose result.complete
      · exact h
    · exact h
  unfold RuntimeSource.applyResult
  dsimp only
  split
  · exact htaken.rearranges (rearranges_scheduleRetry _ purpose)
  · exact htaken

/-- A publication was the only scan under way. -/
theorem publicationsOf_removed {sources : List (ℕ × RuntimeTimer)} {id : ℕ}
    {result : Option RuntimeScanResult} (hmem : (id, RuntimeTimer.publish result) ∈ sources)
    (hsingle : (publicationsOf sources).length ≤ 1) :
    publicationsOf (sources.filter (·.1 ≠ id)) = [] := by
  obtain ⟨before, later, rfl⟩ := List.append_of_mem hmem
  have hpublications : publicationsOf (before ++ (id, .publish result) :: later) =
      publicationsOf before ++ result :: publicationsOf later := by
    simp [publicationsOf]
  rw [hpublications, List.length_append, List.length_cons] at hsingle
  have hbefore : publicationsOf before = [] := List.length_eq_zero_iff.mp (by omega)
  have hlater : publicationsOf later = [] := List.length_eq_zero_iff.mp (by omega)
  have hfiltered : publicationsOf ((before ++ (id, .publish result) :: later).filter (·.1 ≠ id)) =
      publicationsOf (before.filter (·.1 ≠ id)) ++ publicationsOf (later.filter (·.1 ≠ id)) := by
    simp [publicationsOf]
  rw [hfiltered]
  have hnone {sources : List (ℕ × RuntimeTimer)} (h : publicationsOf sources = []) :
      publicationsOf (sources.filter (·.1 ≠ id)) = [] :=
    List.sublist_nil.mp (h ▸ publicationsOf_filter sources _)
  rw [hnone hbefore, hnone hlater]
  rfl

theorem Sound.publishScan (h : source.Sound) {id : ℕ} {result : Option RuntimeScanResult}
    (hmem : (id, RuntimeTimer.publish result) ∈ source.sources) :
    KeepsSound order ((source.removeSource id).publishScan result) := by
  have hpublished : result ∈ publicationsOf source.sources :=
    List.mem_filterMap.mpr ⟨_, hmem, rfl⟩
  have hsingle : source.tasks.length + (publicationsOf source.sources).length ≤ 1 :=
    h.single.trans (Bool.toNat_le _)
  have hpositive := List.length_pos_of_mem hpublished
  have hquiet : (source.removeSource id).tasks = [] ∧
      publicationsOf (source.removeSource id).sources = [] :=
    ⟨List.length_eq_zero_iff.mp (by show source.tasks.length = 0; omega),
      publicationsOf_removed hmem (by omega)⟩
  obtain ⟨scanRequest, hlaunched, houtcome⟩ := h.publications result hpublished
  have hr := source.rearranges_removeSource id
  have hended := (h.rearranges hr).endScan hquiet
  have hlaunched₁ := hlaunched.rearranges hr
  have hlaunched₁ : (source.removeSource id).endScan.Launched scanRequest :=
    ⟨hlaunched₁.distinct, hlaunched₁.bounded, hlaunched₁.valid, hlaunched₁.covers, hlaunched₁.timely⟩
  unfold RuntimeSource.publishScan
  refine Contract.Maintains.bind (maintains_checkPublication _ _ _) ?_
  rintro checked ⟨hchecked, hlink⟩
  have hlaunched₂ := hlaunched₁.rearranges hchecked
  have hquiet₂ : checked.source.tasks = [] ∧ publicationsOf checked.source.sources = [] := by
    refine ⟨hchecked.tasks.trans hquiet.1, List.sublist_nil.mp ?_⟩
    exact hquiet.2 ▸ hchecked.publications
  have happlied := (hended.rearranges hchecked).applyResult hquiet₂ hlaunched₂ houtcome hlink
    (source.removeSource id).scanPurpose
  exact Contract.Maintains.bind happlied.restartScan fun restarted hrestarted =>
    hrestarted.finishPublication _ _ _

/-! ## The other functions -/

theorem Sound.poll (h : source.Sound) (purpose : RefreshPurpose) :
    KeepsSound order (source.poll purpose) := by
  have hcoalesced : (source.coalesce purpose).Sound :=
    h.rearranges { Rearranges.refl source with publications := .refl _ }
  unfold RuntimeSource.poll
  split
  · exact h
  split
  · exact hcoalesced.notifyIf _
  · exact (h.rearranges (((rearranges_cancelRetry source).trans (rearranges_queueScan _ _)).trans
      (rearranges_scheduleRefresh _))).notifyChanged

theorem rearranges_refresh (source : RuntimeSource) (purpose : RefreshPurpose) :
    source.Rearranges (source.refresh purpose) :=
  ((rearranges_cancelRetry source).trans (rearranges_invalidateRecords _ purpose)).trans
    (rearranges_scheduleRefresh _)

theorem Sound.requestRefresh (h : source.Sound) (purpose : RefreshPurpose) :
    KeepsSound order (source.requestRefresh purpose) := by
  unfold RuntimeSource.requestRefresh
  split
  · exact h
  · exact (h.rearranges (rearranges_refresh source purpose)).notifyIf _

/-- A record that is deleted leaves all but freshness as it was. -/
theorem Sound.forget (h : source.Sound) (name : Name) :
    { source.forget name with recordsFresh := false }.Sound := by
  have hsublist : (source.records.eraseP (·.name = name)).Sublist source.records :=
    List.eraseP_sublist
  have hlaunched {scanRequest : RuntimeScanRequest} (hl : source.Launched scanRequest) :
      { source.forget name with recordsFresh := false }.Launched scanRequest :=
    ⟨hl.distinct, hl.bounded, hl.valid, fun record hmem => hl.covers record (hsublist.subset hmem),
      hl.timely⟩
  exact {
    single := h.single
    tasks := fun scanRequest hmem => hlaunched (h.tasks scanRequest hmem)
    publications := fun result hmem => by
      obtain ⟨scanRequest, hl, houtcome⟩ := h.publications result hmem
      exact ⟨scanRequest, hlaunched hl, houtcome⟩
    begun := h.begun
    unmonitored := h.unmonitored
    active := fun hfresh => absurd hfresh Bool.false_ne_true
    fresh := fun hfresh => absurd hfresh Bool.false_ne_true
    filter := by
      show source.linkFilter = (RecordsChange.lastPublished (source.changes ++ [_])).bind _
      rw [RecordsChange.lastPublished_deleted]
      exact h.filter
    leads := @RecordsChange.Leads.change source.changes (.deleted name source.records _) h.leads rfl
    distinct := h.distinct.sublist (hsublist.map _)
    bounded := hsublist.length_le.trans h.bounded
    named := h.named
    valid := fun record hmem => h.valid record (hsublist.subset hmem) }

/-- A refresh does not depend on whether the records were fresh. -/
theorem refresh_stale (source : RuntimeSource) (purpose : RefreshPurpose) :
    { source with recordsFresh := false }.refresh purpose = source.refresh purpose := by
  have hsame (source : RuntimeSource) : { source with recordsFresh := false }.invalidateRecords purpose
      = source.invalidateRecords purpose := by
    unfold invalidateRecords queueScan
    dsimp only
    split <;> rfl
  exact congrArg scheduleRefresh (hsame source.cancelRetry)

theorem Sound.recordDelete (h : source.Sound) (name : Name) :
    KeepsSound order (source.recordDelete name) := by
  unfold RuntimeSource.recordDelete
  split
  · exact h
  have hforgotten := h.forget name
  unfold RuntimeSource.requestRefresh
  split
  · -- the records of an inactive source are not fresh
    rename_i hinactive
    have hstale : (source.forget name).recordsFresh = false := by
      by_contra hfresh
      have hactive := h.active (Bool.not_eq_false _ ▸ hfresh : source.recordsFresh = true)
      exact absurd (hinactive.symm.trans hactive) Bool.false_ne_true
    have hsame : { source.forget name with recordsFresh := false } = source.forget name := by
      rw [← hstale]
    exact hsame ▸ hforgotten
  · have hrefreshed := hforgotten.rearranges (rearranges_refresh _ .reconcile)
    rw [refresh_stale] at hrefreshed
    exact hrefreshed.notifyIf _

/-- Only valid names are watched. -/
theorem valid_normalizeNames (names : List Name) :
    ∀ name ∈ normalizeNames names, nameIsValid name = true := by
  have hfold (unique : List Name) (hvalid : ∀ name ∈ unique, nameIsValid name = true) :
      ∀ name ∈ names.foldl (fun unique name =>
        if nameIsValid name ∧ (unique.contains name ∨ unique.length < awgRuntimeMaxNames) then
          addName unique name
        else unique) unique, nameIsValid name = true := by
    induction names generalizing unique with
    | nil => exact hvalid
    | cons name names ih =>
      rw [List.foldl_cons]
      apply ih
      split
      · rename_i hname
        intro other hother
        rcases mem_addName.mp hother with hold | rfl
        · exact hvalid other hold
        · exact hname.1
      · exact hvalid
  intro name hname
  exact hfold [] (fun _ h => absurd h List.not_mem_nil) name (List.mem_mergeSort.mp hname)

theorem Sound.setNames (h : source.Sound) (names : List Name) (purpose : RefreshPurpose) :
    KeepsSound order (source.setNames names purpose) := by
  have hlaunched {scanRequest : RuntimeScanRequest} (hl : source.Launched scanRequest) :
      { source with names := normalizeNames names }.Launched scanRequest :=
    ⟨hl.distinct, hl.bounded, hl.valid, hl.covers, hl.timely⟩
  have hnamed : { source with names := normalizeNames names }.Sound := { h with
    tasks := fun scanRequest hmem => hlaunched (h.tasks scanRequest hmem)
    publications := fun result hmem => by
      obtain ⟨scanRequest, hl, houtcome⟩ := h.publications result hmem
      exact ⟨scanRequest, hlaunched hl, houtcome⟩
    named := valid_normalizeNames names }
  have hrenamed : (source.rename (normalizeNames names) purpose).Sound := by
    have hinvalidated := hnamed.rearranges (rearranges_invalidateRecords _ purpose)
    unfold rename
    dsimp only
    split
    · exact hinvalidated.rearranges ((rearranges_cancelRetry _).trans (rearranges_scheduleRefresh _))
    · exact hinvalidated
  unfold RuntimeSource.setNames
  split
  · exact h
  split
  · exact h
  · exact hrenamed.notifyIf _

theorem Sound.ensureMonitor (h : source.Sound) : KeepsSound order source.ensureMonitor := by
  unfold RuntimeSource.ensureMonitor
  split
  · exact h
  rename_i hactive
  have hactive : source.isActive = true := by simpa using hactive
  refine Contract.Maintains.bind (maintains_ensureMonitors _) fun ensured hensured => ?_
  have hrefreshed : (ensured.source.refreshEnsured ensured.changed ensured.ready).Sound := by
    unfold refreshEnsured
    split
    · dsimp only
      have hinvalidated := h.rearranges
        (hensured.invalidated hactive ensured.source.automaticRefreshPurpose)
      split
      · exact hinvalidated.rearranges (rearranges_scheduleRefresh _)
      · exact hinvalidated
    · rename_i hstale
      exact h.rearranges (hensured.rearranges (Bool.eq_false_iff.mpr (not_or.mp hstale).1))
  have hensuredSound : (ensured.source.monitorEnsured ensured.changed ensured.ready).Sound := by
    unfold monitorEnsured
    dsimp only
    split
    · exact hrefreshed
    · exact hrefreshed.rearranges (rearranges_scheduleRetry _ _)
  exact hensuredSound.notifyIf _

theorem Sound.start (h : source.Sound) : KeepsSound order source.start := by
  unfold RuntimeSource.start
  split
  · exact h
  rename_i hstopped
  -- no scan is under way before the start, and no record is fresh
  have hstarted : { source with started := true }.Sound := by
    obtain ⟨hnot, hrunning⟩ := not_or.mp hstopped
    have hrunning : source.scanRunning = false := by
      by_contra hscan
      exact hstopped (h.begun (Bool.not_eq_false _ ▸ hscan))
    have hstale : source.recordsFresh = false := by
      by_contra hfresh
      have hactive := h.active (Bool.not_eq_false _ ▸ hfresh)
      simp only [isActive, isRunning, Bool.and_eq_true] at hactive
      exact hnot hactive.1.1
    obtain ⟨htasks, hpublications⟩ := h.quiet hrunning
    exact { h with
      tasks := fun scanRequest hmem => by
        have hmem : scanRequest ∈ source.tasks := hmem
        rw [htasks] at hmem
        cases hmem
      publications := fun result hmem => by
        have hmem : result ∈ publicationsOf source.sources := hmem
        rw [hpublications] at hmem
        cases hmem
      begun := fun _ => .inl rfl
      active := fun hfresh => absurd (hstale.symm.trans hfresh) Bool.false_ne_true }
  dsimp only
  split
  · exact Contract.Maintains.bind hstarted.ensureMonitor fun ensured hensured =>
      hensured.requestRefresh .visible
  · exact hstarted

theorem rearranges_disable (source : RuntimeSource) : source.Rearranges source.disable := by
  unfold disable
  simp only [clearDebounce, clearRetry, clearMonitor, clearLinkMonitor, removeSource]
  refine ⟨rfl, rfl, rfl, rfl, rfl, rfl, ?_, id, fun _ _ => rfl, ?_, ?_⟩
  · exact (publicationsOf_filter _ _).trans (publicationsOf_filter _ _)
  · exact fun h => absurd h Bool.false_ne_true
  · exact fun _ _ h => absurd h Bool.false_ne_true

/-- A source that was not monitoring has no link monitor, so that no scan under way is accepted. -/
theorem Sound.enable (h : source.Sound) (hdisabled : source.monitorEnabled = false) :
    { source with monitorEnabled := true }.Sound := by
  have hlink := h.unmonitored hdisabled
  have hinactive : source.isActive = false := by
    unfold isActive
    rw [hdisabled, Bool.and_false]
  have hstale : source.recordsFresh = false := by
    by_contra hfresh
    exact absurd (hinactive.symm.trans (h.active (Bool.not_eq_false _ ▸ hfresh))) Bool.false_ne_true
  exact h.rearranges { Rearranges.refl source with
    publications := .refl _
    unmonitored := fun _ hdisabled => absurd hdisabled.symm Bool.false_ne_true
    fresh := fun hfresh => absurd (hstale.symm.trans hfresh) Bool.false_ne_true
    timely := fun _ _ hopen => absurd (hlink.symm.trans hopen) Bool.false_ne_true }

theorem Sound.setMonitorEnabled (h : source.Sound) (enabled : Bool) :
    KeepsSound order (source.setMonitorEnabled enabled) := by
  unfold RuntimeSource.setMonitorEnabled
  split
  · exact h
  rename_i hchanges
  split
  · rename_i henable
    subst henable
    exact Contract.Maintains.bind (h.enable (Bool.eq_false_iff.mpr hchanges)).ensureMonitor
      fun ensured hensured => hensured.requestRefresh .visible
  · exact (h.rearranges (rearranges_disable source)).notifyIf _

theorem Sound.setMutationActive (h : source.Sound) (active : Bool) :
    (source.setMutationActive active).Sound := by
  unfold RuntimeSource.setMutationActive
  split
  · exact h
  · exact h.rearranges { Rearranges.refl source with publications := .refl _ }

theorem Sound.scheduledRefresh (h : source.Sound) (id : ℕ) :
    KeepsSound order ((·.removeSource id) <$> source.scheduledRefresh) := by
  have hended {source : RuntimeSource} (h : source.Sound) :
      ({ source with monitorDebounceSource := 0 }.removeSource id).Sound :=
    h.rearranges { Rearranges.refl source with publications := publicationsOf_filter _ _ }
  have hstarted : KeepsSound order source.startOrQueue := by
    unfold startOrQueue
    split
    · exact h.rearranges { Rearranges.refl source with publications := .refl _ }
    · exact h.startScan
  have hscheduled : soundContract.Maintains (runtimeComponent order) source.scheduledRefresh
      fun source => (source.removeSource id).Sound :=
    Contract.Maintains.bind hstarted fun started hs => hended hs
  exact Contract.Maintains.bind hscheduled fun ended h => h

theorem Sound.retry (h : source.Sound) : KeepsSound order source.retry := by
  have hfired : { source with retrySource := 0, retryPurpose := .reconcile }.Sound :=
    h.rearranges { Rearranges.refl source with publications := .refl _ }
  exact hfired.requestRefresh source.retryPurpose

theorem Sound.scheduleMonitorRefresh (h : source.Sound) :
    KeepsSound order source.scheduleMonitorRefresh := by
  unfold RuntimeSource.scheduleMonitorRefresh
  split
  · exact h
  · exact (h.rearranges (rearranges_refresh _ _)).notifyIf _

theorem Sound.monitorChanged (h : source.Sound) (monitor : RuntimeFileMonitor)
    (path otherPath : Option Bytes) (event : FileMonitorEvent) :
    KeepsSound order (source.monitorChanged monitor path otherPath event) := by
  unfold RuntimeSource.monitorChanged
  split
  · exact h
  dsimp only
  split
  · exact h
  split
  · exact (h.rearranges (rearranges_clearMonitor source)).scheduleMonitorRefresh
  · exact h.scheduleMonitorRefresh

theorem drainLinkEvents_uses (source : RuntimeSource) (order : ByteOrder) (changed : Bool)
    (remaining : ℕ) : (source.drainLinkEvents order changed remaining).Uses Callout.IsSystem := by
  induction remaining generalizing changed with
  | zero => trivial
  | succ remaining ih =>
    refine ⟨trivial, fun received => ?_⟩
    cases received with
    | datagram data trusted =>
      cases trusted with
      | true => exact ih _
      | false => trivial
    | interrupted => exact ih changed
    | drained => trivial
    | failed => trivial

theorem drainLink_uses (source : RuntimeSource) (order : ByteOrder) (broken : Bool) :
    (source.drainLink order broken).Uses Callout.IsSystem := by
  unfold drainLink
  split
  · trivial
  · exact drainLinkEvents_uses _ _ _ _

theorem Sound.linkMonitor (h : source.Sound) (broken : Bool) :
    KeepsSound order (source.linkMonitor order broken) := by
  unfold RuntimeSource.linkMonitor
  refine Contract.Maintains.bind (Contract.maintains_of_returns (Prog.returns_any _)
    (drainLink_uses source order broken)) fun drain _ => ?_
  split
  · exact (h.rearranges (rearranges_clearLinkMonitor source)).scheduleMonitorRefresh
  split
  · exact h.scheduleMonitorRefresh
  · exact h

/-- A scan that has finished waits for its publication. -/
theorem Sound.scanComplete (h : source.Sound) {task : ℕ} {scanRequest : RuntimeScanRequest}
    {result : Option RuntimeScanResult} (htask : source.tasks[task]? = some scanRequest)
    (houtcome : (scanRuntime scanRequest).OutcomeOn ScanCall.Allows result) :
    ({ source with tasks := source.tasks.eraseIdx task }.scanComplete result).Sound := by
  have hmem := List.mem_of_getElem? htask
  have hsingle : source.tasks.length + (publicationsOf source.sources).length ≤ 1 :=
    h.single.trans (Bool.toNat_le _)
  have hpositive := List.length_pos_of_mem hmem
  obtain ⟨only, htasks⟩ := List.length_eq_one_iff.mp (by omega : source.tasks.length = 1)
  have hpublications : publicationsOf source.sources = [] :=
    List.length_eq_zero_iff.mp (by omega)
  have hzero : task = 0 := by
    have hlt := (List.getElem?_eq_some_iff.mp htask).1
    omega
  have herased : source.tasks.eraseIdx task = [] := by
    rw [htasks, hzero]
    rfl
  have hrunning : source.scanRunning = true := by
    by_contra hstopped
    have hquiet := (h.quiet (Bool.eq_false_iff.mpr hstopped)).1
    rw [hquiet] at hmem
    cases hmem
  have hlaunched := h.tasks scanRequest hmem
  rw [herased]
  unfold RuntimeSource.scanComplete
  split
  · have hwaiting : publicationsOf ((source.newSource, .publish result) :: source.sources) =
        [result] := by
      show result :: publicationsOf source.sources = [result]
      rw [hpublications]
    exact { h with
      single := by
        show 0 + (publicationsOf ((source.newSource, .publish result) :: source.sources)).length ≤
          source.scanRunning.toNat
        rw [hwaiting, hrunning]
        exact le_rfl
      tasks := fun _ h => (nomatch h)
      publications := fun result' hmem' => by
        have hmem' : result' ∈ publicationsOf ((source.newSource, .publish result) ::
          source.sources) := hmem'
        rw [hwaiting] at hmem'
        obtain rfl := List.mem_singleton.mp hmem'
        exact ⟨scanRequest, ⟨hlaunched.distinct, hlaunched.bounded, hlaunched.valid,
          hlaunched.covers, hlaunched.timely⟩, houtcome⟩ }
  · exact { h with
      single := by
        show 0 + (publicationsOf source.sources).length ≤ 0
        rw [hpublications]
        exact le_rfl
      tasks := fun _ h => (nomatch h)
      publications := fun result' hmem' => by
        have hmem' : result' ∈ publicationsOf source.sources := hmem'
        rw [hpublications] at hmem'
        cases hmem'
      begun := fun hrunning => absurd hrunning Bool.false_ne_true }

/-! ## Every run -/

/-- Every entry keeps the invariant. -/
theorem Sound.run (h : source.Sound) (e : RuntimeEntry) (henabled : e.Enabled source) :
    KeepsSound order (e.run order source) := by
  cases e with
  | poll purpose => exact h.poll purpose
  | requestRefresh purpose => exact h.requestRefresh purpose
  | recordDelete name => exact h.recordDelete name
  | setNames names purpose => exact h.setNames names purpose
  | ensureMonitor => exact h.ensureMonitor
  | start => exact h.start
  | stop => exact h.rearranges (rearranges_stopInternal source)
  | setMonitorEnabled enabled => exact h.setMonitorEnabled enabled
  | setMutationActive active => exact h.setMutationActive active
  | scheduledRefresh id => exact h.scheduledRefresh id
  | retry id => exact (h.rearranges (rearranges_removeSource source id)).retry
  | publishScan id result => exact h.publishScan henabled
  | scanComplete task result =>
    obtain ⟨scanRequest, htask, houtcome⟩ := henabled
    exact h.scanComplete htask houtcome
  | monitorChanged monitor path otherPath event => exact h.monitorChanged monitor path otherPath event
  | linkMonitor broken => exact h.linkMonitor broken

theorem sound_new (changed : Bool) : (new changed).Sound where
  single := le_rfl
  tasks _ h := nomatch h
  publications _ h := nomatch h
  begun h := nomatch h
  unmonitored _ := rfl
  active h := nomatch h
  fresh h := nomatch h
  filter := rfl
  leads := .none
  distinct := List.nodup_nil
  bounded := Nat.zero_le _
  named _ h := absurd h List.not_mem_nil
  valid _ h := absurd h List.not_mem_nil

/-- The component keeps the contract of its records. -/
theorem sound_keptBy (order : ByteOrder) : soundContract.KeptBy (runtimeComponent order) where
  refl _ := trivial
  trans _ _ _ _ _ := trivial
  init := by
    rintro _ ⟨changed, rfl⟩
    exact ⟨sound_new changed, trivial⟩
  nested e source _ henabled h := Contract.Maintains.mono (h.run e henabled) fun _ hs => ⟨hs, trivial⟩
  settled e source henabled h _ :=
    Contract.Maintains.mono (h.run e henabled) fun _ hs => ⟨hs, trivial⟩

end RuntimeSource

/-! ## A run -/

/-- System calls that succeed, with nothing to read. -/
def calmRuntime : (o : RuntimeCall) → o.Reply
  | .fileMonitorIsCancelled => false
  | .createFileMonitor _ => true
  | .openLinkMonitor => true
  | .receiveLinkEvent => .drained

/-- A scan that finds no directory and no links. -/
def calmScan : (o : ScanCall) → o.Reply
  | .isCancelled => false
  | .openRuntimeDirectory => .missing
  | .openEntries => true
  | .readEntry => .last
  | .closeEntries => true
  | .linkSnapshotRead => some []
  | .openMarker _ => .absent
  | .readMarker _ => none
  | .iterate names => names

/-- Replies that go through a hash table in its own order are allowed. -/
theorem allows_of_iterate {find : (o : ScanCall) → o.Reply}
    (h : ∀ names, find (.iterate names) = names) (o : ScanCall) : o.Allows (find o) := by
  cases o with
  | iterate names => exact .of_eq (h names)
  | _ => trivial

/-- An entry whose callouts return at once. -/
def calmEntry (source : RuntimeSource) (e : RuntimeEntry) : RuntimeSource :=
  Component.quietly calmRuntime (e.run .little source)

theorem reachable_calmEntry {source : RuntimeSource}
    (hs : (runtimeComponent .little).Reachable (.idle source)) (e : RuntimeEntry)
    (henabled : e.Enabled source) :
    (runtimeComponent .little).Reachable (.idle (calmEntry source e)) :=
  Component.Reachable.quietly (fun _ => trivial) hs henabled

/-- A source that has been started, with one name to look at. -/
def sampleStarted : RuntimeSource :=
  calmEntry (calmEntry (calmEntry (.new true) (.setMonitorEnabled true))
    (.setNames [ascii "a"] .visible)) .start

/-- The source when its refresh timer has fired. -/
def sampleScanning : RuntimeSource := calmEntry sampleStarted (.scheduledRefresh 1)

/-- What a scan under way comes to. -/
def scanResultOf (source : RuntimeSource) (find : (o : ScanCall) → o.Reply) :
    Option RuntimeScanResult :=
  source.tasks.head?.bind fun scanRequest => (scanRuntime scanRequest).evaluate find

/-- The source when the scan under way has finished and has been published. -/
def finishScan (source : RuntimeSource) (find : (o : ScanCall) → o.Reply) : RuntimeSource :=
  calmEntry (calmEntry source (.scanComplete 0 (scanResultOf source find)))
    (.publishScan source.newSource (scanResultOf source find))

/-- The source when the first scan has been published. -/
def samplePublished : RuntimeSource := finishScan sampleScanning calmScan

/-- A refresh timer can fire where there is one. -/
theorem scheduledRefresh_enabled {source : RuntimeSource} {id : ℕ}
    (h : source.sources.any (fun source => decide (source.1 = id) &&
      match source.2 with
      | .refresh => true
      | _ => false) = true) :
    RuntimeEntry.Enabled (.scheduledRefresh id) source := by
  obtain ⟨⟨other, timer⟩, hmem, htimer⟩ := List.any_eq_true.mp h
  cases timer with
  | refresh =>
    have hid : other = id := by simpa using htimer
    exact hid ▸ hmem
  | retry | publish => simp at htimer

/-- A scan under way may find what the system calls let it find. -/
theorem scanComplete_enabled {source : RuntimeSource} {find : (o : ScanCall) → o.Reply}
    (hfind : ∀ names, find (.iterate names) = names) (htasks : source.tasks.head?.isSome = true) :
    RuntimeEntry.Enabled (.scanComplete 0 (scanResultOf source find)) source := by
  obtain ⟨scanRequest, htask⟩ := Option.isSome_iff_exists.mp htasks
  refine ⟨scanRequest, List.head?_eq_getElem?.symm.trans htask, ?_⟩
  have hresult : scanResultOf source find = (scanRuntime scanRequest).evaluate find := by
    unfold scanResultOf
    rw [htask]
    rfl
  rw [hresult]
  exact Prog.outcomeOn_evaluate (allows_of_iterate hfind) _

/-- A scan that finishes while the source is active is to be published. -/
theorem scanComplete_publishes (source : RuntimeSource) (result : Option RuntimeScanResult)
    (hactive : source.isActive = true) :
    (source.newSource, RuntimeTimer.publish result) ∈ (source.scanComplete result).sources := by
  unfold RuntimeSource.scanComplete
  rw [if_pos hactive]
  exact List.mem_cons_self

/-- A source that is active goes on from a scan under way to its publication. -/
theorem reachable_finishScan {source : RuntimeSource} {find : (o : ScanCall) → o.Reply}
    (hs : (runtimeComponent .little).Reachable (.idle source))
    (hfind : ∀ names, find (.iterate names) = names) (htasks : source.tasks.head?.isSome = true)
    (hactive : source.isActive = true) :
    (runtimeComponent .little).Reachable (.idle (finishScan source find)) := by
  have hscanned := reachable_calmEntry hs (.scanComplete 0 (scanResultOf source find))
    (scanComplete_enabled hfind htasks)
  have hpublishes := scanComplete_publishes
    { source with tasks := source.tasks.eraseIdx 0 } (scanResultOf source find) hactive
  exact reachable_calmEntry hscanned (.publishScan source.newSource (scanResultOf source find))
    hpublishes

theorem sampleStarted_reachable :
    (runtimeComponent .little).Reachable (.idle sampleStarted) := by
  have hnew : (runtimeComponent .little).Reachable (.idle (.new true)) := .start ⟨true, rfl⟩
  have henabled := reachable_calmEntry hnew (.setMonitorEnabled true) trivial
  have hnamed := reachable_calmEntry henabled (.setNames [ascii "a"] .visible) trivial
  exact reachable_calmEntry hnamed .start trivial

theorem sampleScanning_reachable :
    (runtimeComponent .little).Reachable (.idle sampleScanning) :=
  reachable_calmEntry sampleStarted_reachable (.scheduledRefresh 1)
    (scheduledRefresh_enabled (by decide +kernel))

theorem samplePublished_reachable :
    (runtimeComponent .little).Reachable (.idle samplePublished) :=
  reachable_finishScan sampleScanning_reachable (fun _ => rfl) (by decide +kernel)
    (by decide +kernel)

/-- In every run, whoever calls back at whatever point: fresh records are those of the last scan that
was published, nothing was invalidated since it was started, and there is a link filter only where
the last scan that was published was complete. -/
theorem runtimeRecords_fresh {order : ByteOrder} {source : RuntimeSource}
    {stack : List (RuntimeSource → RuntimeM RuntimeSource)}
    (hreachable : (runtimeComponent order).Reachable ⟨.waiting source, stack⟩) :
    (source.recordsFresh = true → ∃ before result,
      source.changes.getLast? = some (.published before result source.records) ∧
        result.startedAt = source.invalidations ∧ source.linkFilter = result.linkFilter ∧
        (source.linkFilter.isSome = true → result.complete = true)) ∧
    (source.linkFilter.isSome = true → ∃ result,
      RecordsChange.lastPublished source.changes = some result ∧ result.complete = true) := by
  have h := (RuntimeSource.sound_keptBy order).waiting hreachable
  have hcomplete (hfilter : source.linkFilter.isSome = true) : ∃ result,
      RecordsChange.lastPublished source.changes = some result ∧ result.complete = true := by
    rw [h.filter] at hfilter
    cases hlast : RecordsChange.lastPublished source.changes with
    | none =>
      rw [hlast] at hfilter
      cases hfilter
    | some result =>
      rw [hlast] at hfilter
      exact ⟨result, rfl, h.leads.filter hlast hfilter⟩
  refine ⟨fun hfresh => ?_, hcomplete⟩
  obtain ⟨before, result, hlast, hstarted⟩ := h.fresh hfresh
  have hpublished : RecordsChange.lastPublished source.changes = some result := by
    obtain ⟨changes, hchanges⟩ := List.getLast?_eq_some_iff.mp hlast
    rw [hchanges, RecordsChange.lastPublished_published]
  refine ⟨before, result, hlast, hstarted, by rw [h.filter, hpublished]; rfl, fun hfilter => ?_⟩
  obtain ⟨result', hlast', hcomplete⟩ := hcomplete hfilter
  rwa [Option.some.inj (hpublished.symm.trans hlast')]

/-- The records of the first scan are fresh. -/
theorem runtimeRecords_fresh_sample : samplePublished.recordsFresh = true ∧ ∃ before result,
    samplePublished.changes.getLast? = some (.published before result samplePublished.records) ∧
      result.startedAt = samplePublished.invalidations := by
  have hfresh : samplePublished.recordsFresh = true := by decide +kernel
  obtain ⟨before, result, hlast, hstarted, -⟩ :=
    (runtimeRecords_fresh samplePublished_reachable).1 hfresh
  exact ⟨hfresh, before, result, hlast, hstarted⟩

/-- Where a legal change leaves a name out, the name was deleted or its record was inactive. -/
theorem RecordsChange.IsLegal.leaves {change : RecordsChange} (h : change.IsLegal)
    {record : RuntimeRecord} (hmem : record ∈ change.before)
    (hout : record.name ∉ change.after.map (·.name)) :
    (∃ before after, change = .deleted record.name before after) ∨
      (∃ before result after, change = .published before result after) ∧ record.state = .inactive := by
  cases change with
  | published before result after =>
    refine .inr ⟨⟨before, result, after, rfl⟩, ?_⟩
    by_contra hsession
    obtain ⟨record', hmem', hname, -⟩ := h.sessions record hmem (decide_eq_true hsession)
    exact hout (List.mem_map.mpr ⟨record', hmem', hname⟩)
  | deleted name before after =>
    left
    have hafter : after = before.eraseP (·.name = name) := h
    have hname : record.name = name := by
      by_contra hother
      refine hout (List.mem_map.mpr ⟨record, ?_, rfl⟩)
      show record ∈ after
      rw [hafter]
      exact (List.mem_eraseP_of_neg (by simpa using hother)).mpr hmem
    exact ⟨before, after, by rw [hname]⟩

theorem RecordsChange.Leads.legal {changes : List RecordsChange} {records : List RuntimeRecord}
    (h : RecordsChange.Leads changes records) : ∀ change ∈ changes, change.IsLegal := by
  induction h with
  | none => exact fun _ h => nomatch h
  | change _ hlegal ih =>
    intro change hmem
    rcases List.mem_append.mp hmem with hmem | hmem
    · exact ih change hmem
    · rwa [List.mem_singleton.mp hmem]

/-- In every run the records have distinct names and are within the limit. They came from none by
publications, which keep every known session with the state that was observed or with the unknown
state, and by deletions; a name leaves them where it is deleted, or by a publication when a scan had
recorded it inactive. -/
theorem runtimeSessions_kept {order : ByteOrder} {source : RuntimeSource}
    {stack : List (RuntimeSource → RuntimeM RuntimeSource)}
    (hreachable : (runtimeComponent order).Reachable ⟨.waiting source, stack⟩) :
    (source.records.map (·.name)).Nodup ∧ source.records.length ≤ awgRuntimeMaxNames ∧
    RecordsChange.Leads source.changes source.records ∧
    ∀ change ∈ source.changes, change.IsLegal ∧ ∀ record ∈ change.before,
      record.name ∉ change.after.map (·.name) →
        (∃ before after, change = .deleted record.name before after) ∨
        (∃ before result after, change = .published before result after) ∧
          record.state = .inactive := by
  have h := (RuntimeSource.sound_keptBy order).waiting hreachable
  refine ⟨h.distinct, h.bounded, h.leads, fun change hmem => ?_⟩
  have hlegal := h.leads.legal change hmem
  exact ⟨hlegal, fun record hrecord hout => hlegal.leaves hrecord hout⟩

/-- The marker of an active session. -/
def activeMarker : RuntimeMarker :=
  ⟨List.replicate linkTokenLength 0x30, 7, .none, .active, .absent, true, 1⟩

/-- A scan that finds the session `a` active. -/
def activeScan : (o : ScanCall) → o.Reply
  | .openRuntimeDirectory => .trusted
  | .linkSnapshotRead => some [sessionLink (some (linkAliasOf activeMarker.linkToken))]
  | .openMarker _ => .opened
  | .readMarker _ => some (runtimeMarkerText activeMarker)
  | o => calmScan o

/-- A scan that can see neither markers nor links. -/
def blindScan : (o : ScanCall) → o.Reply
  | .openRuntimeDirectory => .unknown
  | .linkSnapshotRead => none
  | o => calmScan o

/-- The source when a first scan has found the session. -/
def sampleActive : RuntimeSource := finishScan sampleScanning activeScan

/-- The source when the name is not asked for any more, and the records are stale. -/
def sampleStale : RuntimeSource := calmEntry sampleActive (.setNames [] .visible)

/-- The source when a second scan has seen nothing. -/
def sampleCarried : RuntimeSource :=
  finishScan (calmEntry sampleStale (.scheduledRefresh 3)) blindScan

theorem sampleStale_reachable :
    (runtimeComponent .little).Reachable (.idle sampleStale) := by
  have hactive := @reachable_finishScan sampleScanning activeScan sampleScanning_reachable
    (fun _ => rfl) (by decide +kernel) (by decide +kernel)
  exact reachable_calmEntry hactive (.setNames [] .visible) trivial

theorem sampleCarried_reachable :
    (runtimeComponent .little).Reachable (.idle sampleCarried) := by
  have hrefresh := reachable_calmEntry sampleStale_reachable (.scheduledRefresh 3)
    (scheduledRefresh_enabled (by decide +kernel))
  exact reachable_finishScan hrefresh (fun _ => rfl) (by decide +kernel) (by decide +kernel)

/-- The session that the first scan has found is kept when the second scan sees nothing of it. -/
theorem runtimeSessions_kept_sample :
    sampleActive.records = [⟨ascii "a", .active, true⟩] ∧
      sampleCarried.records = [⟨ascii "a", .unknown, false⟩] ∧
      RecordsChange.Leads sampleCarried.changes sampleCarried.records :=
  ⟨by decide +kernel, by decide +kernel,
    (runtimeSessions_kept sampleCarried_reachable).2.2.1⟩

end NmSidebar
