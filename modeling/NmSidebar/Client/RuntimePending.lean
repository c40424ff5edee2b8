import NmSidebar.Client.RuntimeFresh

/-!
# Refreshes of the runtime source that are pending

A refresh that is asked for while the source is active is never lost: a timer that is armed in the
main loop asks for its scan, or the scan under way is to be followed by another one. The ids in the
source name timers that are really there, whatever the owner does from within a callback.
-/

namespace NmSidebar

open Text Effects

namespace RuntimeSource

/-! ## The timers -/

/-- The ids of the source name timers of the main loop, and a scan that runs comes to its end. -/
structure Timers (source : RuntimeSource) : Prop where
  debounce : source.monitorDebounceSource ≠ 0 →
    (source.monitorDebounceSource, RuntimeTimer.refresh) ∈ source.sources
  retry : source.retrySource ≠ 0 → (source.retrySource, RuntimeTimer.retry) ∈ source.sources
  positive : ∀ timer ∈ source.sources, timer.1 ≠ 0
  bounded : ∀ timer ∈ source.sources, timer.1 ≤ source.nextSource
  distinct : (source.sources.map (·.1)).Nodup
  unmonitored : source.isActive = false → source.linkMonitorSource = false
  runs : source.scanRunning = true → source.stopping = true ∨ source.tasks ≠ [] ∨
    ∃ id result, (id, RuntimeTimer.publish result) ∈ source.sources

/-- A refresh that is pending has an owner. `start_scan` owns it while it is about to start. -/
def Owned (source : RuntimeSource) : Prop :=
  source.isActive = true → source.refreshPending = true → source.starting = false →
    source.monitorDebounceSource ≠ 0 ∨ source.retrySource ≠ 0 ∨
      (source.scanRunning = true ∧ source.scanQueued = true)

/-- The sources that are new have new ids. -/
def Later (source source' : RuntimeSource) : Prop :=
  source.nextSource ≤ source'.nextSource ∧
    ∀ timer ∈ source'.sources, timer ∈ source.sources ∨ source.nextSource < timer.1

/-- What every step does to the timers that neither starts nor ends a scan. -/
structure Steady (source source' : RuntimeSource) : Prop where
  timers : source.Timers → source'.Timers
  later : source.Later source'
  starting : source'.starting = source.starting
  scanRunning : source'.scanRunning = source.scanRunning

variable {source source' source'' : RuntimeSource}

theorem Later.refl (source : RuntimeSource) : source.Later source :=
  ⟨le_rfl, fun _ hmem => .inl hmem⟩

theorem Later.trans (h : source.Later source') (h' : source'.Later source'') :
    source.Later source'' := by
  refine ⟨h.1.trans h'.1, fun timer hmem => ?_⟩
  rcases h'.2 timer hmem with hmem | hnew
  · exact h.2 timer hmem
  · exact .inr (h.1.trans_lt hnew)

theorem Steady.refl (source : RuntimeSource) : source.Steady source :=
  ⟨id, .refl source, rfl, rfl⟩

theorem Steady.trans (h : source.Steady source') (h' : source'.Steady source'') :
    source.Steady source'' where
  timers htimers := h'.timers (h.timers htimers)
  later := h.later.trans h'.later
  starting := h'.starting.trans h.starting
  scanRunning := h'.scanRunning.trans h.scanRunning

/-- An id names one timer. -/
theorem Timers.unique (h : source.Timers) {id : ℕ} {timer timer' : RuntimeTimer}
    (hmem : (id, timer) ∈ source.sources) (hmem' : (id, timer') ∈ source.sources) :
    timer = timer' :=
  congrArg Prod.snd (List.inj_on_of_nodup_map h.distinct hmem hmem' rfl)

@[simp] theorem mem_removeSource {timer : ℕ × RuntimeTimer} {id : ℕ} :
    timer ∈ (source.removeSource id).sources ↔ timer ∈ source.sources ∧ timer.1 ≠ id := by
  simp [removeSource]

/-- The id of a timer is no other timer's. -/
theorem Timers.only (h : source.Timers) {id : ℕ} {timer : RuntimeTimer}
    (hid : id ≠ 0 → (id, timer) ∈ source.sources) :
    ∀ timer', (id, timer') ∈ source.sources → timer' = timer :=
  fun _ hmem => h.unique hmem (hid (h.positive _ hmem))

/-- A timer is removed that the source has forgotten. -/
theorem Timers.removed (h : source.Timers) {id : ℕ} {timer : RuntimeTimer}
    (hid : ∀ timer', (id, timer') ∈ source.sources → timer' = timer)
    (hdebounce : timer = .refresh → source.monitorDebounceSource = 0)
    (hretry : timer = .retry → source.retrySource = 0)
    (hruns : ∀ result, timer = .publish result → source.scanRunning = false) :
    (source.removeSource id).Timers where
  debounce hset := by
    have hmem := h.debounce hset
    refine mem_removeSource.mpr ⟨hmem, fun hsame => hset (hdebounce ?_)⟩
    exact (hid .refresh (hsame ▸ hmem)).symm
  retry hset := by
    have hmem := h.retry hset
    refine mem_removeSource.mpr ⟨hmem, fun hsame => hset (hretry ?_)⟩
    exact (hid .retry (hsame ▸ hmem)).symm
  positive timer hmem := h.positive timer (mem_removeSource.mp hmem).1
  bounded timer hmem := h.bounded timer (mem_removeSource.mp hmem).1
  distinct := h.distinct.sublist (List.filter_sublist.map _)
  unmonitored := h.unmonitored
  runs hrunning := by
    rcases h.runs hrunning with hstopping | htasks | ⟨id', result, hmem⟩
    · exact .inl hstopping
    · exact .inr (.inl htasks)
    · refine .inr (.inr ⟨id', result, mem_removeSource.mpr ⟨hmem, fun hsame => ?_⟩⟩)
      have hidle := hruns result (hid _ (hsame ▸ hmem)).symm
      exact absurd (hidle.symm.trans hrunning) Bool.false_ne_true

theorem later_removeSource (source : RuntimeSource) (id : ℕ) :
    source.Later (source.removeSource id) :=
  ⟨le_rfl, fun _ hmem => .inl (mem_removeSource.mp hmem).1⟩

/-- A source that is added is there, and the others stay. -/
theorem Timers.added (h : source.Timers) (timer : RuntimeTimer) :
    (source.addSource timer).Timers where
  debounce hset := List.mem_cons_of_mem _ (h.debounce hset)
  retry hset := List.mem_cons_of_mem _ (h.retry hset)
  positive timer' hmem := by
    rcases List.mem_cons.mp hmem with rfl | hmem
    · exact Nat.succ_ne_zero _
    · exact h.positive timer' hmem
  bounded timer' hmem := by
    rcases List.mem_cons.mp hmem with rfl | hmem
    · exact le_rfl
    · exact (h.bounded timer' hmem).trans (Nat.le_succ _)
  distinct := by
    refine List.nodup_cons.mpr ⟨fun hmem => ?_, h.distinct⟩
    obtain ⟨timer', hmem', hid⟩ := List.mem_map.mp hmem
    have hbounded := h.bounded timer' hmem'
    have hid : timer'.1 = source.nextSource + 1 := hid
    omega
  unmonitored := h.unmonitored
  runs hrunning := by
    rcases h.runs hrunning with hstopping | htasks | ⟨id, result, hmem⟩
    · exact .inl hstopping
    · exact .inr (.inl htasks)
    · exact .inr (.inr ⟨id, result, List.mem_cons_of_mem _ hmem⟩)

theorem later_addSource (source : RuntimeSource) (timer : RuntimeTimer) :
    source.Later (source.addSource timer) := by
  refine ⟨Nat.le_succ _, fun timer' hmem => ?_⟩
  rcases List.mem_cons.mp hmem with rfl | hmem
  · exact .inr (Nat.lt_succ_self _)
  · exact .inl hmem

/-! ## Steps that leave the timers in order -/

theorem steady_clearDebounce (source : RuntimeSource) : source.Steady source.clearDebounce where
  timers h := by
    have hforgotten : { source with monitorDebounceSource := 0 }.Timers :=
      { h with debounce := fun hset => absurd rfl hset }
    exact hforgotten.removed (h.only h.debounce) (fun _ => rfl) (fun h => nomatch h)
      (fun _ h => nomatch h)
  later := later_removeSource _ _
  starting := rfl
  scanRunning := rfl

theorem steady_clearRetry (source : RuntimeSource) : source.Steady source.clearRetry where
  timers h := by
    have hforgotten : { source with retrySource := 0 }.Timers :=
      { h with retry := fun hset => absurd rfl hset }
    exact hforgotten.removed (h.only h.retry) (fun h => nomatch h) (fun _ => rfl)
      (fun _ h => nomatch h)
  later := later_removeSource _ _
  starting := rfl
  scanRunning := rfl

theorem steady_cancelRetry (source : RuntimeSource) : source.Steady source.cancelRetry := by
  refine source.steady_clearRetry.trans ⟨fun h => { h with }, .refl _, rfl, rfl⟩

theorem steady_queueScan (source : RuntimeSource) (purpose : RefreshPurpose) :
    source.Steady (source.queueScan purpose) := by
  unfold queueScan
  dsimp only
  split <;> exact ⟨fun h => { h with }, .refl _, rfl, rfl⟩

theorem steady_invalidateRecords (source : RuntimeSource) (purpose : RefreshPurpose) :
    source.Steady (source.invalidateRecords purpose) :=
  (source.steady_queueScan purpose).trans ⟨fun h => { h with }, .refl _, rfl, rfl⟩

theorem steady_scheduleRefresh (source : RuntimeSource) :
    source.Steady source.scheduleRefresh := by
  unfold scheduleRefresh
  split
  · exact .refl source
  · refine ⟨fun h => ?_, later_addSource _ _, rfl, rfl⟩
    exact { h.added .refresh with debounce := fun _ => List.mem_cons_self }

theorem steady_scheduleRetry (source : RuntimeSource) (purpose : RefreshPurpose) :
    source.Steady (source.scheduleRetry purpose) := by
  unfold scheduleRetry
  split
  · exact .refl source
  dsimp only
  split
  · exact ⟨fun h => { h with }, .refl _, rfl, rfl⟩
  · refine ⟨fun h => ?_, later_addSource _ _, rfl, rfl⟩
    exact { h.added .retry with retry := fun _ => List.mem_cons_self }

theorem steady_clearMonitor (source : RuntimeSource) : source.Steady source.clearMonitor :=
  ⟨fun h => { h with }, .refl _, rfl, rfl⟩

theorem steady_clearLinkMonitor (source : RuntimeSource) : source.Steady source.clearLinkMonitor :=
  ⟨fun h => { h with unmonitored := fun _ => rfl }, .refl _, rfl, rfl⟩

theorem steady_refresh (source : RuntimeSource) (purpose : RefreshPurpose) :
    source.Steady (source.refresh purpose) :=
  (source.steady_cancelRetry.trans (steady_invalidateRecords _ purpose)).trans
    (steady_scheduleRefresh _)

/-- The sources that are there without the link monitor and with two timers cleared. -/
theorem steady_cleared (source : RuntimeSource) :
    source.Steady source.clearLinkMonitor.clearDebounce.clearRetry :=
  (source.steady_clearLinkMonitor.trans (steady_clearDebounce _)).trans (steady_clearRetry _)

theorem steady_disable (source : RuntimeSource) : source.Steady source.disable := by
  refine source.steady_cleared.trans ?_
  unfold disable
  simp only [clearDebounce, clearRetry, clearMonitor, clearLinkMonitor, removeSource]
  exact ⟨fun h => { h with unmonitored := fun _ => rfl }, .refl _, rfl, rfl⟩

theorem steady_stopInternal (source : RuntimeSource) : source.Steady source.stopInternal := by
  by_cases hstopping : source.stopping = true
  · rw [stopInternal, if_pos hstopping]
    exact .refl source
  · refine source.steady_cleared.trans ?_
    rw [stopInternal, if_neg hstopping]
    simp only [clearDebounce, clearRetry, clearPublish, clearMonitor, clearLinkMonitor, removeSource]
    refine ⟨fun h => ?_, ⟨le_rfl, fun _ hmem => .inl (List.mem_of_mem_filter hmem)⟩, rfl, rfl⟩
    exact {
      debounce := fun hset => absurd rfl hset
      retry := fun hset => absurd rfl hset
      positive := fun timer hmem => h.positive timer (List.mem_of_mem_filter hmem)
      bounded := fun timer hmem => h.bounded timer (List.mem_of_mem_filter hmem)
      distinct := h.distinct.sublist (List.filter_sublist.map _)
      unmonitored := fun _ => rfl
      runs := fun _ => .inl rfl }

/-! ## Owners of the refresh that is pending -/

theorem owned_of_inactive (h : source.isActive = false) : source.Owned :=
  fun hactive => absurd (h.symm.trans hactive) Bool.false_ne_true

theorem owned_of_starting (h : source.starting = true) : source.Owned :=
  fun _ _ hstarting => absurd (hstarting.symm.trans h) Bool.false_ne_true

/-- The refresh timer is armed afterwards. -/
theorem owned_scheduleRefresh (source : RuntimeSource) : source.scheduleRefresh.Owned := by
  unfold scheduleRefresh
  split
  · rename_i h
    rcases h with hinactive | hset
    · exact owned_of_inactive hinactive
    · exact fun _ _ _ => .inl hset
  · exact fun _ _ _ => .inl (Nat.succ_ne_zero _)

/-- The retry timer is armed afterwards. -/
theorem scheduleRetry_armed (source : RuntimeSource) (purpose : RefreshPurpose)
    (hactive : source.isActive = true) : (source.scheduleRetry purpose).retrySource ≠ 0 := by
  unfold scheduleRetry
  rw [if_neg (by simp [hactive])]
  dsimp only
  split
  · assumption
  · exact Nat.succ_ne_zero _

theorem owned_scheduleRetry (source : RuntimeSource) (purpose : RefreshPurpose) :
    (source.scheduleRetry purpose).Owned := by
  cases hactive : source.isActive with
  | false =>
    unfold scheduleRetry
    rw [if_pos hactive]
    exact owned_of_inactive hactive
  | true => exact fun _ _ _ => .inr (.inl (source.scheduleRetry_armed purpose hactive))

/-! ## The contract -/

/-- What the owner's calls from within a callback do to the timers. -/
def Relies (source source' : RuntimeSource) : Prop :=
  source.Later source' ∧ source'.starting = source.starting ∧
    source'.scanRunning = source.scanRunning

/-- The contract of the pending refreshes. -/
def pendingContract : Contract RuntimeSource RuntimeNote where
  invariant source := source.Timers ∧ source.Owned
  rely := Relies
  issues _ _ := True
  settled source := source.starting = false

/-- A function keeps the pending refreshes of a source and does what its owner may do. -/
def KeepsPending (order : ByteOrder) (source : RuntimeSource) (p : RuntimeM RuntimeSource) : Prop :=
  pendingContract.Maintains (runtimeComponent order) p fun source' =>
    (source'.Timers ∧ source'.Owned) ∧ source.Relies source'

variable {order : ByteOrder} {p : RuntimeM RuntimeSource}

theorem Relies.refl (source : RuntimeSource) : source.Relies source := ⟨.refl source, rfl, rfl⟩

theorem Relies.trans (h : source.Relies source') (h' : source'.Relies source'') :
    source.Relies source'' :=
  ⟨h.1.trans h'.1, h'.2.1.trans h.2.1, h'.2.2.trans h.2.2⟩

theorem Steady.relies (h : source.Steady source') : source.Relies source' :=
  ⟨h.later, h.starting, h.scanRunning⟩

/-- What a function does after such a step. -/
theorem KeepsPending.after (h : KeepsPending order source' p) (hr : source.Relies source') :
    KeepsPending order source p :=
  Contract.Maintains.mono h fun _ hs => ⟨hs.1, hr.trans hs.2⟩

theorem KeepsPending.bind {f : RuntimeSource → RuntimeM RuntimeSource}
    (h : KeepsPending order source p)
    (hf : ∀ s, s.Timers ∧ s.Owned → KeepsPending order s (f s)) :
    KeepsPending order source (p >>= f) :=
  Contract.Maintains.bind h fun s hs => (hf s hs.1).after hs.2

theorem keepsPending_pure (h : source.Timers) (howned : source.Owned) :
    KeepsPending order source (return source) :=
  ⟨⟨h, howned⟩, .refl source⟩

theorem keepsPending_notifyChanged (h : source.Timers) (howned : source.Owned) :
    KeepsPending order source source.notifyChanged := by
  unfold notifyChanged
  split
  · exact Contract.maintains_callout.mpr ⟨⟨⟨h, howned⟩, trivial⟩, fun _ hs => hs⟩
  · exact keepsPending_pure h howned

theorem keepsPending_notifyIf (h : source.Timers) (howned : source.Owned) (condition : Prop)
    [Decidable condition] : KeepsPending order source (source.notifyIf condition) := by
  unfold notifyIf
  split
  · exact keepsPending_notifyChanged h howned
  · exact keepsPending_pure h howned

/-! ## Functions of the source's owner -/

theorem keepsPending_poll (h : source.Timers) (howned : source.Owned) (purpose : RefreshPurpose) :
    KeepsPending order source (source.poll purpose) := by
  unfold poll
  split
  · exact keepsPending_pure h howned
  split
  · have hcoalesced : (source.coalesce purpose).Timers := { h with }
    have howned : (source.coalesce purpose).Owned := howned
    exact (keepsPending_notifyIf hcoalesced howned _).after ⟨.refl _, rfl, rfl⟩
  · have hsteady := (source.steady_cancelRetry.trans (steady_queueScan _ purpose)).trans
      (steady_scheduleRefresh _)
    exact (keepsPending_notifyChanged (hsteady.timers h) (owned_scheduleRefresh _)).after
      hsteady.relies

/-- A refresh that is requested is owned, whatever was pending before. -/
theorem keepsPending_requestRefresh (h : source.Timers) (purpose : RefreshPurpose) :
    KeepsPending order source (source.requestRefresh purpose) := by
  unfold requestRefresh
  split
  · rename_i hinactive
    exact keepsPending_pure h (owned_of_inactive hinactive)
  · have hsteady := source.steady_refresh purpose
    exact (keepsPending_notifyIf (hsteady.timers h) (owned_scheduleRefresh _) _).after
      hsteady.relies

theorem keepsPending_recordDelete (h : source.Timers) (howned : source.Owned) (name : Name) :
    KeepsPending order source (source.recordDelete name) := by
  unfold recordDelete
  split
  · exact keepsPending_pure h howned
  · have hforgotten : (source.forget name).Timers := { h with }
    exact (keepsPending_requestRefresh hforgotten .reconcile).after ⟨.refl _, rfl, rfl⟩

theorem keepsPending_setNames (h : source.Timers) (howned : source.Owned) (names : List Name)
    (purpose : RefreshPurpose) : KeepsPending order source (source.setNames names purpose) := by
  have hrenamed (names : List Name) : source.Steady (source.rename names purpose) ∧
      (source.rename names purpose).Owned := by
    have hnamed : source.Steady { source with names } := ⟨fun h => { h with }, .refl _, rfl, rfl⟩
    have hsteady := hnamed.trans (steady_invalidateRecords _ purpose)
    unfold rename
    dsimp only
    split
    · exact ⟨(hsteady.trans (steady_cancelRetry _)).trans (steady_scheduleRefresh _),
        owned_scheduleRefresh _⟩
    · rename_i hinactive
      exact ⟨hsteady, owned_of_inactive (Bool.eq_false_iff.mpr hinactive)⟩
  unfold setNames
  split
  · exact keepsPending_pure h howned
  split
  · exact keepsPending_pure h howned
  · obtain ⟨hsteady, howned⟩ := hrenamed (normalizeNames names)
    exact (keepsPending_notifyIf (hsteady.timers h) howned _).after hsteady.relies

/-- The monitors that are ensured leave the timers in order. -/
theorem Ensures.steady {ensured : MonitorsEnsured} (h : source.Ensures ensured)
    (hactive : source.isActive = true) : source.Steady ensured.source := by
  obtain ⟨monitor, link, hsource⟩ := h.monitors
  rw [hsource]
  refine ⟨fun htimers => { htimers with unmonitored := fun hinactive => ?_ }, .refl _, rfl, rfl⟩
  exact absurd (hinactive.symm.trans hactive) Bool.false_ne_true

/-- The monitors do not tell what is pending. -/
theorem Ensures.owned {ensured : MonitorsEnsured} (h : source.Ensures ensured)
    (howned : source.Owned) : ensured.source.Owned := by
  obtain ⟨monitor, link, hsource⟩ := h.monitors
  rw [hsource]
  exact howned

theorem steady_monitorEnsured (source : RuntimeSource) (changed ready : Bool) :
    source.Steady (source.monitorEnsured changed ready) := by
  have hrefreshed : source.Steady (source.refreshEnsured changed ready) := by
    unfold refreshEnsured
    split
    · dsimp only
      have hinvalidated := source.steady_invalidateRecords source.automaticRefreshPurpose
      split
      · exact hinvalidated.trans (steady_scheduleRefresh _)
      · exact hinvalidated
    · exact .refl source
  unfold monitorEnsured
  dsimp only
  split
  · exact hrefreshed
  · exact hrefreshed.trans (steady_scheduleRetry _ _)

theorem owned_monitorEnsured {changed ready : Bool}
    (howned : changed = false → ready = true → source.Owned) :
    (source.monitorEnsured changed ready).Owned := by
  unfold monitorEnsured refreshEnsured
  cases ready with
  | false => exact owned_scheduleRetry _ _
  | true =>
    cases changed with
    | false => exact howned rfl rfl
    | true => exact owned_scheduleRefresh _

/-- Monitors that are new or missing are followed by a scan. -/
theorem keepsPending_ensureMonitor (h : source.Timers)
    (howned : source.Owned ∨ source.linkMonitorSource = false) :
    KeepsPending order source source.ensureMonitor := by
  unfold ensureMonitor
  split
  · rename_i hinactive
    exact keepsPending_pure h (owned_of_inactive hinactive)
  rename_i hactive
  have hactive : source.isActive = true := by simpa using hactive
  refine Contract.Maintains.bind (maintains_ensureMonitors _) fun ensured hensured => ?_
  have hsteady := (hensured.steady hactive).trans
    (steady_monitorEnsured ensured.source ensured.changed ensured.ready)
  have howned := owned_monitorEnsured fun hunchanged hready => by
    rcases howned with howned | hmissing
    · exact hensured.owned howned
    · exact absurd (hmissing.symm.trans (hensured.ready hunchanged hready)) Bool.false_ne_true
  exact (keepsPending_notifyIf (hsteady.timers h) howned _).after hsteady.relies

theorem keepsPending_start (h : source.Timers) (howned : source.Owned) :
    KeepsPending order source source.start := by
  unfold start
  split
  · exact keepsPending_pure h howned
  rename_i hstopped
  -- a source that is not started has no link monitor
  have hmissing : source.linkMonitorSource = false := by
    refine h.unmonitored ?_
    simp [isActive, isRunning, (not_or.mp hstopped).1]
  have hstarted : { source with started := true }.Timers :=
    { h with unmonitored := fun _ => hmissing }
  have hrelies : source.Relies { source with started := true } := ⟨.refl _, rfl, rfl⟩
  dsimp only
  split
  · exact ((keepsPending_ensureMonitor hstarted (.inr hmissing)).bind fun s hs =>
      keepsPending_requestRefresh hs.1 .visible).after hrelies
  · rename_i hdisabled
    refine (keepsPending_pure hstarted (owned_of_inactive ?_)).after hrelies
    simp [isActive, hdisabled]

theorem keepsPending_setMonitorEnabled (h : source.Timers) (howned : source.Owned)
    (enabled : Bool) : KeepsPending order source (source.setMonitorEnabled enabled) := by
  unfold setMonitorEnabled
  split
  · exact keepsPending_pure h howned
  rename_i hchanges
  split
  · rename_i henable
    subst henable
    -- a source that does not monitor has no link monitor
    have hmissing : source.linkMonitorSource = false := by
      refine h.unmonitored ?_
      simp [isActive, hchanges]
    have henabled : { source with monitorEnabled := true }.Timers :=
      { h with unmonitored := fun _ => hmissing }
    exact ((keepsPending_ensureMonitor henabled (.inr hmissing)).bind fun s hs =>
      keepsPending_requestRefresh hs.1 .visible).after ⟨.refl _, rfl, rfl⟩
  · have hsteady := source.steady_disable
    refine (keepsPending_notifyIf (hsteady.timers h) (owned_of_inactive ?_) _).after hsteady.relies
    unfold isActive
    exact Bool.and_false _

theorem keepsPending_stop (h : source.Timers) (howned : source.Owned) :
    KeepsPending order source (return source.stopInternal) := by
  have hsteady := source.steady_stopInternal
  refine (keepsPending_pure (hsteady.timers h) ?_).after hsteady.relies
  by_cases hstopping : source.stopping = true
  · rw [stopInternal, if_pos hstopping]
    exact howned
  · rw [stopInternal, if_neg hstopping]
    exact owned_of_inactive rfl

theorem keepsPending_setMutationActive (h : source.Timers) (howned : source.Owned)
    (active : Bool) : KeepsPending order source (return source.setMutationActive active) := by
  unfold setMutationActive
  split
  · exact keepsPending_pure h howned
  · have hset : { source with mutationActive := active }.Timers := { h with }
    have howned : { source with mutationActive := active }.Owned := howned
    exact (keepsPending_pure hset howned).after ⟨.refl _, rfl, rfl⟩

/-- Every function of the owner keeps the pending refreshes. -/
theorem keepsPending_call (h : source.Timers) (howned : source.Owned) {e : RuntimeEntry}
    (hcall : e.IsCall) : KeepsPending order source (e.run order source) := by
  cases e with
  | poll purpose => exact keepsPending_poll h howned purpose
  | requestRefresh purpose => exact keepsPending_requestRefresh h purpose
  | recordDelete name => exact keepsPending_recordDelete h howned name
  | setNames names purpose => exact keepsPending_setNames h howned names purpose
  | ensureMonitor => exact keepsPending_ensureMonitor h (.inl howned)
  | start => exact keepsPending_start h howned
  | stop => exact keepsPending_stop h howned
  | setMonitorEnabled enabled => exact keepsPending_setMonitorEnabled h howned enabled
  | setMutationActive active => exact keepsPending_setMutationActive h howned active
  | scheduledRefresh | retry | publishScan | scanComplete | monitorChanged | linkMonitor =>
    exact hcall.elim

/-! ## Scans -/

/-- What starting a scan leaves: no refresh is pending any more where the source is active. -/
structure Begun (source source' : RuntimeSource) : Prop where
  timers : source'.Timers
  later : source.Later source'
  starting : source'.starting = false
  taken : source'.isActive = true → source'.refreshPending = false

/-- Where no scan may start and none runs, none is asked for. -/
theorem refreshPending_of_not_mayScan (hnot : ¬ source.mayScan = true)
    (hrunning : source.scanRunning = false) (hactive : source.isActive = true) :
    source.refreshPending = false := by
  simpa [mayScan, hactive, hrunning] using hnot

theorem begun_continueScan (h : source.Timers) (hrunning : source.scanRunning = false) :
    source.Begun source.continueScan := by
  unfold continueScan
  split
  · refine ⟨{ h with runs := fun _ => ?_ }, .refl _, rfl, fun _ => rfl⟩
    exact .inr (.inl (List.cons_ne_nil _ _))
  · rename_i hnot
    exact ⟨{ h with }, .refl _, rfl, refreshPending_of_not_mayScan hnot hrunning⟩

theorem Begun.after (h : source'.Begun source'') (hlater : source.Later source') :
    source.Begun source'' :=
  { h with later := hlater.trans h.later }

/-- A scan is started, whatever the owner does from within the callback. -/
theorem maintains_startScan (h : source.Timers) (hrunning : source.scanRunning = false)
    (hstarting : source.starting = false) :
    pendingContract.Maintains (runtimeComponent order) source.startScan source.Begun := by
  unfold startScan
  split
  · rename_i hmay
    simp only [mayScan, Bool.and_eq_true] at hmay
    have hbegins : source.Later { source with starting := true } := .refl source
    have h₁ : { source with starting := true }.Timers := { h with }
    refine Contract.Maintains.bind (maintains_ensureMonitors _) fun ensured hensured => ?_
    have hsteady := hensured.steady hmay.1.1
    have hensuredRunning : ensured.source.scanRunning = false := hsteady.scanRunning.trans hrunning
    dsimp only
    split
    · have hinvalidated := hsteady.trans
        (steady_invalidateRecords ensured.source ensured.source.queuedPurpose)
      have h₂ := hinvalidated.timers h₁
      split
      · have howned := owned_of_starting hinvalidated.starting
        refine Contract.Maintains.bind (keepsPending_notifyChanged h₂ howned) fun s hs => ?_
        obtain ⟨⟨htimers, -⟩, hrelies⟩ := hs
        have hidle : s.scanRunning = false :=
          (hrelies.2.2.trans hinvalidated.scanRunning).trans hrunning
        exact (begun_continueScan htimers hidle).after
          ((hbegins.trans hinvalidated.later).trans hrelies.1)
      · exact (begun_continueScan h₂ (hinvalidated.scanRunning.trans hrunning)).after
          (hbegins.trans hinvalidated.later)
    · exact (begun_continueScan (hsteady.timers h₁) hensuredRunning).after
        (hbegins.trans hsteady.later)
  · rename_i hnot
    exact ⟨h, .refl source, hstarting, refreshPending_of_not_mayScan hnot hrunning⟩

/-- What a callback of the main loop leaves. -/
structure Ended (source : RuntimeSource) : Prop where
  timers : source.Timers
  owned : source.Owned
  starting : source.starting = false

/-- A callback of the main loop keeps the pending refreshes. -/
def EndsPending (order : ByteOrder) (p : RuntimeM RuntimeSource) : Prop :=
  pendingContract.Maintains (runtimeComponent order) p Ended

theorem Ended.keepsPending (h : source.Ended) (hp : KeepsPending order source p) :
    EndsPending order p :=
  Contract.Maintains.mono hp fun _ hs => ⟨hs.1.1, hs.1.2, hs.2.2.1.trans h.starting⟩

/-- While no scan runs, a refresh that is pending waits for a timer, or for the scan that the
publication under way is to start. -/
def Awaited (source : RuntimeSource) : Prop :=
  source.isActive = true → source.refreshPending = true →
    source.monitorDebounceSource ≠ 0 ∨ source.retrySource ≠ 0 ∨ source.scanQueued = true

theorem awaited_scheduleRetry (source : RuntimeSource) (purpose : RefreshPurpose) :
    (source.scheduleRetry purpose).Awaited := by
  cases hactive : source.isActive with
  | false =>
    unfold scheduleRetry
    rw [if_pos hactive]
    exact fun h => absurd (hactive.symm.trans h) Bool.false_ne_true
  | true => exact fun _ _ => .inr (.inl (source.scheduleRetry_armed purpose hactive))

/-- What the first part of `publish_scan_cb` leaves. -/
structure Checked (source : RuntimeSource) (checked : PublicationChecked) : Prop where
  steady : source.Steady checked.source
  awaited : checked.source.Awaited ∨ checked.monitorsReady = false

theorem maintains_checkPublication_steady (hawaited : source.Awaited) (purpose : RefreshPurpose)
    (result : Option RuntimeScanResult) :
    pendingContract.Maintains (runtimeComponent order) (source.checkPublication purpose result)
      source.Checked := by
  unfold checkPublication
  split
  · rename_i hactive
    refine Contract.Maintains.bind (maintains_ensureMonitors _) fun ensured hensured => ?_
    have hsteady := hensured.steady hactive
    have hinvalidated := hsteady.trans (steady_invalidateRecords ensured.source purpose)
    dsimp only
    split
    · rename_i hstale
      split
      · refine ⟨hinvalidated.trans ⟨fun h => { h with }, .refl _, rfl, rfl⟩, .inl ?_⟩
        exact fun _ _ => .inr (.inr rfl)
      · rename_i hunchanged
        exact ⟨hinvalidated, .inr (hstale.resolve_left hunchanged)⟩
    · split
      · exact ⟨hinvalidated.trans (steady_scheduleRetry _ _), .inl (awaited_scheduleRetry _ _)⟩
      · refine ⟨hsteady, .inl ?_⟩
        obtain ⟨monitor, link, hsource⟩ := hensured.monitors
        rw [hsource]
        exact hawaited
  · exact ⟨.refl source, .inr rfl⟩

theorem steady_settleRetry (source : RuntimeSource) (purpose : RefreshPurpose) (complete : Bool) :
    source.Steady (source.settleRetry purpose complete) := by
  unfold settleRetry
  split
  · exact source.steady_cancelRetry.trans ⟨fun h => { h with }, .refl _, rfl, rfl⟩
  · exact source.steady_scheduleRetry purpose

theorem settleRetry_refreshPending (source : RuntimeSource) (purpose : RefreshPurpose)
    (complete : Bool) : (source.settleRetry purpose complete).refreshPending =
      source.refreshPending := by
  unfold settleRetry
  split
  · rfl
  · exact source.scheduleRetry_refreshPending purpose

/-- A result is taken only where nothing is pending. -/
theorem takeResult_awaited (source : RuntimeSource) (purpose : RefreshPurpose)
    (monitorsReady : Bool) (result : Option RuntimeScanResult) :
    source.Steady (source.takeResult purpose monitorsReady result) ∧
      (source.Awaited → (source.takeResult purpose monitorsReady result).Awaited) := by
  unfold takeResult
  split
  · rename_i result
    split
    · rename_i haccepts
      simp only [accepts, Bool.and_eq_true, Bool.not_eq_true'] at haccepts
      have haccepted : source.Steady (source.acceptResult result) :=
        ⟨fun h => { h with }, .refl _, rfl, rfl⟩
      refine ⟨haccepted.trans (steady_settleRetry _ purpose _), fun _ _ hpending => ?_⟩
      rw [settleRetry_refreshPending] at hpending
      exact absurd (haccepts.2.symm.trans hpending) Bool.false_ne_true
    · exact ⟨.refl source, id⟩
  · exact ⟨.refl source, id⟩

theorem applyResult_awaited (source : RuntimeSource) (purpose : RefreshPurpose)
    {monitorsReady : Bool} (result : Option RuntimeScanResult)
    (hawaited : source.Awaited ∨ monitorsReady = false) :
    source.Steady (source.applyResult purpose monitorsReady result) ∧
      (source.applyResult purpose monitorsReady result).Awaited := by
  obtain ⟨hsteady, htaken⟩ := source.takeResult_awaited purpose monitorsReady result
  unfold applyResult
  dsimp only
  split
  · exact ⟨hsteady.trans (steady_scheduleRetry _ _), awaited_scheduleRetry _ _⟩
  · rename_i hready
    refine ⟨hsteady, ?_⟩
    rcases hawaited with hawaited | hmissing
    · exact htaken hawaited
    · exact fun hactive => absurd ⟨hactive, hmissing⟩ hready

/-- The scan that is asked for is started, or a timer will ask for it. -/
theorem endsPending_restartScan (h : source.Timers) (hawaited : source.Awaited)
    (hrunning : source.scanRunning = false) (hstarting : source.starting = false) :
    EndsPending order source.restartScan := by
  have hquiet : { source with scanQueued := false, scanPurpose := .reconcile }.Timers := { h with }
  unfold restartScan
  dsimp only
  split
  · refine Contract.Maintains.mono (maintains_startScan hquiet hrunning hstarting) fun s hs => ?_
    refine ⟨hs.timers, fun hactive hpending => ?_, hs.starting⟩
    exact absurd ((hs.taken hactive).symm.trans hpending) Bool.false_ne_true
  · rename_i hquiet'
    refine ⟨hquiet, fun hactive hpending _ => ?_, hstarting⟩
    rcases hawaited hactive hpending with hset | hset | hqueued
    · exact .inl hset
    · exact .inr (.inl hset)
    · refine absurd ?_ hquiet'
      have hactive : source.isActive = true := hactive
      have hpending : source.refreshPending = true := hpending
      rw [hactive, hpending, hqueued]
      rfl

theorem Ended.finishPublication (h : source.Ended) (notify wasChecking wasLoading : Bool) :
    EndsPending order (source.finishPublication notify wasChecking wasLoading) := by
  have hsettled : source.settleReconciliation.Ended := by
    unfold settleReconciliation
    split
    · exact h
    · exact ⟨{ h.timers with }, h.owned, h.starting⟩
  exact hsettled.keepsPending (keepsPending_notifyIf hsettled.timers hsettled.owned _)

theorem Ended.publishScan (h : source.Ended) {id : ℕ} {result : Option RuntimeScanResult}
    (hmem : (id, RuntimeTimer.publish result) ∈ source.sources) :
    EndsPending order ((source.removeSource id).publishScan result) := by
  have hended : (source.removeSource id).endScan.Timers := by
    have hstopped : source.endScan.Timers := { h.timers with runs := fun h => nomatch h }
    exact hstopped.removed (h.timers.only fun _ => hmem) (fun h => nomatch h) (fun h => nomatch h)
      fun _ _ => rfl
  have hawaited : (source.removeSource id).endScan.Awaited := by
    intro hactive hpending
    rcases h.owned hactive hpending h.starting with hset | hset | ⟨-, hqueued⟩
    · exact .inl hset
    · exact .inr (.inl hset)
    · exact .inr (.inr hqueued)
  unfold RuntimeSource.publishScan
  refine Contract.Maintains.bind (maintains_checkPublication_steady hawaited _ _) ?_
  intro checked hchecked
  obtain ⟨hsteady, hawaited⟩ := checked.source.applyResult_awaited
    (source.removeSource id).scanPurpose result hchecked.awaited
  have hsteady := hchecked.steady.trans hsteady
  refine Contract.Maintains.bind (endsPending_restartScan (hsteady.timers hended) hawaited
    hsteady.scanRunning (hsteady.starting.trans h.starting)) fun restarted hrestarted => ?_
  exact hrestarted.finishPublication _ _ _

theorem Ended.scanComplete (h : source.Ended) (task : ℕ) (result : Option RuntimeScanResult) :
    ({ source with tasks := source.tasks.eraseIdx task }.scanComplete result).Ended := by
  unfold RuntimeSource.scanComplete
  split
  · -- the publication takes the place of the scan
    have hadded := h.timers.added (.publish result)
    refine ⟨{ hadded with runs := fun _ => ?_ }, h.owned, h.starting⟩
    exact .inr (.inr ⟨source.newSource, result, List.mem_cons_self⟩)
  · rename_i hinactive
    refine ⟨{ h.timers with runs := fun h => nomatch h }, owned_of_inactive ?_, h.starting⟩
    exact Bool.eq_false_iff.mpr hinactive

/-! ## The other callbacks -/

/-- What the refresh timer leaves before it is removed. -/
structure Refreshed (source source' : RuntimeSource) : Prop where
  timers : source'.Timers
  later : source.Later source'
  starting : source'.starting = false
  owned : { source' with monitorDebounceSource := 0 }.Owned

theorem maintains_startOrQueue (h : source.Ended) :
    pendingContract.Maintains (runtimeComponent order) source.startOrQueue source.Refreshed := by
  unfold startOrQueue
  split
  · rename_i hrunning
    refine ⟨{ h.timers with }, .refl _, h.starting, fun _ _ _ => ?_⟩
    exact .inr (.inr ⟨hrunning, rfl⟩)
  · rename_i hidle
    refine Contract.Maintains.mono
      (maintains_startScan h.timers (Bool.eq_false_iff.mpr hidle) h.starting) fun s hs => ?_
    refine ⟨hs.timers, hs.later, hs.starting, fun hactive hpending => ?_⟩
    exact absurd ((hs.taken hactive).symm.trans hpending) Bool.false_ne_true

theorem Ended.scheduledRefresh (h : source.Ended) {id : ℕ}
    (hmem : (id, RuntimeTimer.refresh) ∈ source.sources) :
    EndsPending order ((·.removeSource id) <$> source.scheduledRefresh) := by
  have hrefreshed : pendingContract.Maintains (runtimeComponent order) source.scheduledRefresh
      fun source => (source.removeSource id).Ended := by
    refine Contract.Maintains.bind (maintains_startOrQueue h) fun s hs => ?_
    have hforgotten : { s with monitorDebounceSource := 0 }.Timers :=
      { hs.timers with debounce := fun hset => absurd rfl hset }
    -- no other source has got the id of the timer meanwhile
    have honly : ∀ timer, (id, timer) ∈ s.sources → timer = .refresh := by
      intro timer hmem'
      rcases hs.later.2 _ hmem' with hold | hnew
      · exact h.timers.unique hold hmem
      · exact absurd (h.timers.bounded _ hmem) (Nat.not_le.mpr hnew)
    exact ⟨hforgotten.removed honly (fun _ => rfl) (fun h => nomatch h) (fun _ h => nomatch h),
      hs.owned, hs.starting⟩
  exact Contract.Maintains.bind hrefreshed fun s hs => hs

theorem Ended.retry (h : source.Ended) {id : ℕ}
    (hmem : (id, RuntimeTimer.retry) ∈ source.sources) :
    EndsPending order (source.removeSource id).retry := by
  have hforgotten : { source with retrySource := 0, retryPurpose := .reconcile }.Timers :=
    { h.timers with retry := fun hset => absurd rfl hset }
  have hremoved : ({ source with retrySource := 0, retryPurpose := .reconcile }.removeSource
      id).Timers :=
    hforgotten.removed (h.timers.only fun _ => hmem) (fun h => nomatch h) (fun _ => rfl)
      (fun _ h => nomatch h)
  refine Contract.Maintains.mono (keepsPending_requestRefresh hremoved source.retryPurpose)
    fun s hs => ⟨hs.1.1, hs.1.2, hs.2.2.1.trans h.starting⟩

theorem keepsPending_scheduleMonitorRefresh (h : source.Timers) :
    KeepsPending order source source.scheduleMonitorRefresh := by
  unfold scheduleMonitorRefresh
  split
  · rename_i hinactive
    exact keepsPending_pure h (owned_of_inactive hinactive)
  · have hsteady := source.steady_refresh source.automaticRefreshPurpose
    exact (keepsPending_notifyIf (hsteady.timers h) (owned_scheduleRefresh _) _).after
      hsteady.relies

theorem Ended.monitorChanged (h : source.Ended) (monitor : RuntimeFileMonitor)
    (path otherPath : Option Bytes) (event : FileMonitorEvent) :
    EndsPending order (source.monitorChanged monitor path otherPath event) := by
  unfold RuntimeSource.monitorChanged
  split
  · exact h
  dsimp only
  split
  · exact h
  split
  · have hsteady := source.steady_clearMonitor
    exact h.keepsPending ((keepsPending_scheduleMonitorRefresh (hsteady.timers h.timers)).after
      hsteady.relies)
  · exact h.keepsPending (keepsPending_scheduleMonitorRefresh h.timers)

theorem Ended.linkMonitor (h : source.Ended) (broken : Bool) :
    EndsPending order (source.linkMonitor order broken) := by
  refine Contract.Maintains.bind (Contract.maintains_of_returns (Prog.returns_any _)
    (drainLink_uses source order broken)) fun drain _ => ?_
  split
  · have hsteady := source.steady_clearLinkMonitor
    exact h.keepsPending ((keepsPending_scheduleMonitorRefresh (hsteady.timers h.timers)).after
      hsteady.relies)
  split
  · exact h.keepsPending (keepsPending_scheduleMonitorRefresh h.timers)
  · exact h

/-! ## Every run -/

/-- Every entry between callbacks keeps the pending refreshes. -/
theorem Ended.run (h : source.Ended) {e : RuntimeEntry} (henabled : e.Enabled source) :
    EndsPending order (e.run order source) := by
  cases e with
  | scheduledRefresh id => exact h.scheduledRefresh henabled
  | retry id => exact h.retry henabled
  | publishScan id result => exact h.publishScan henabled
  | scanComplete task result => exact h.scanComplete task result
  | monitorChanged monitor path otherPath event => exact h.monitorChanged monitor path otherPath event
  | linkMonitor broken => exact h.linkMonitor broken
  | poll | requestRefresh | recordDelete | setNames | ensureMonitor | start | stop
  | setMonitorEnabled | setMutationActive =>
    exact h.keepsPending (keepsPending_call h.timers h.owned trivial)

theorem ended_new (changed : Bool) : (new changed).Ended where
  timers := {
    debounce := fun hset => absurd rfl hset
    retry := fun hset => absurd rfl hset
    positive := fun _ h => nomatch h
    bounded := fun _ h => nomatch h
    distinct := List.nodup_nil
    unmonitored := fun _ => rfl
    runs := fun h => nomatch h }
  owned := owned_of_inactive rfl
  starting := rfl

/-- The component keeps the contract of its pending refreshes. -/
theorem pending_keptBy (order : ByteOrder) : pendingContract.KeptBy (runtimeComponent order) where
  refl := Relies.refl
  trans _ _ _ h h' := h.trans h'
  init := by
    rintro _ ⟨changed, rfl⟩
    have h := ended_new changed
    exact ⟨⟨h.timers, h.owned⟩, h.starting⟩
  nested _ _ hcall _ h := keepsPending_call h.1 h.2 hcall
  settled _ _ henabled h hstarting :=
    Contract.Maintains.mono (Ended.run ⟨h.1, h.2, hstarting⟩ henabled)
      fun _ hs => ⟨⟨hs.timers, hs.owned⟩, hs.starting⟩

end RuntimeSource

/-- In every run, whoever calls back at whatever point: between callbacks a refresh that is pending
in an active source will be taken. The refresh timer or the retry timer named by the source is armed
in the main loop, or a scan runs that is to be followed by another one; its worker or its
publication is under way. -/
theorem runtimeRefresh_owned {order : ByteOrder} {source : RuntimeSource}
    (hreachable : (runtimeComponent order).Reachable (.idle source))
    (hactive : source.isActive = true) (hpending : source.refreshPending = true) :
    (source.monitorDebounceSource ≠ 0 ∧
      (source.monitorDebounceSource, RuntimeTimer.refresh) ∈ source.sources) ∨
    (source.retrySource ≠ 0 ∧ (source.retrySource, RuntimeTimer.retry) ∈ source.sources) ∨
    (source.scanRunning = true ∧ source.scanQueued = true ∧ (source.tasks ≠ [] ∨
      ∃ id result, (id, RuntimeTimer.publish result) ∈ source.sources)) := by
  obtain ⟨⟨htimers, howned⟩, hstarting⟩ := (RuntimeSource.pending_keptBy order).idle hreachable
  rcases howned hactive hpending hstarting with hset | hset | ⟨hrunning, hqueued⟩
  · exact .inl ⟨hset, htimers.debounce hset⟩
  · exact .inr (.inl ⟨hset, htimers.retry hset⟩)
  · refine .inr (.inr ⟨hrunning, hqueued, (htimers.runs hrunning).resolve_left fun hstopping => ?_⟩)
    simp only [RuntimeSource.isActive, RuntimeSource.isRunning, Bool.and_eq_true,
      Bool.not_eq_true'] at hactive
    exact absurd (hactive.1.2.symm.trans hstopping) Bool.false_ne_true

/-- The refresh that is pending after the start waits for the refresh timer. -/
theorem runtimeRefresh_owned_sample :
    sampleStarted.refreshPending = true ∧ sampleStarted.monitorDebounceSource = 1 ∧
      ((1, RuntimeTimer.refresh) ∈ sampleStarted.sources ∨ sampleStarted.retrySource ≠ 0 ∨
        sampleStarted.scanRunning = true) := by
  have hpending : sampleStarted.refreshPending = true := by decide +kernel
  have hid : sampleStarted.monitorDebounceSource = 1 := by decide +kernel
  refine ⟨hpending, hid, ?_⟩
  rcases runtimeRefresh_owned sampleStarted_reachable (by decide +kernel) hpending with
    ⟨-, harmed⟩ | ⟨hset, -⟩ | ⟨hrunning, -⟩
  · exact .inl (hid ▸ harmed)
  · exact .inr (.inl hset)
  · exact .inr (.inr hrunning)

end NmSidebar
