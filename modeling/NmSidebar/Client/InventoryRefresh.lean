import NmSidebar.Client.ProfileInventory

/-!
# Runs of the inventory

At most one request of the inventory is pending, and the reply to any other is without effect. While
the inventory may ask the service and has a refresh queued, the timer for it is armed.
-/

namespace NmSidebar

open Effects

namespace ProfileInventory

/-! ## The invariant -/

/-- The refresh timer of the inventory is there in the main loop. -/
structure Timed (inventory : ProfileInventory) : Prop where
  armed : inventory.refreshSource ≠ 0 → inventory.refreshSource ∈ inventory.sources
  positive : ∀ id ∈ inventory.sources, id ≠ 0
  bounded : ∀ id ∈ inventory.sources, id ≤ inventory.nextSource

/-- The requests that the backend has to answer have ids of their own. -/
structure Identified (inventory : ProfileInventory) : Prop where
  distinct : (inventory.requests.map (·.id)).Nodup
  bounded : ∀ request ∈ inventory.requests, request.id ≤ inventory.requestId

/-- Nothing was given up since the pending request was issued. -/
structure Numbered (inventory : ProfileInventory) : Prop extends Identified inventory where
  timely : inventory.pending = true → ∀ request ∈ inventory.requests,
    request.id = inventory.requestId → request.issuedAt = inventory.retirements
  running : inventory.pending = true → inventory.isRunning = true

/-- The service may be asked, and no request is pending. -/
def MayRefresh (inventory : ProfileInventory) : Prop :=
  inventory.isRunning = true ∧ inventory.authorized = true ∧ inventory.enabled = true ∧
    inventory.suspended = false ∧ inventory.pending = false

/-- A refresh that is queued has its timer, where it may be made. -/
def Armed (inventory : ProfileInventory) : Prop :=
  inventory.MayRefresh → inventory.dirty = true → inventory.refreshSource ≠ 0

/-- What happens to the requests from one state to a later one. -/
structure Serves (inventory inventory' : ProfileInventory) : Prop where
  later : inventory.requestId ≤ inventory'.requestId
  fresh : ∀ request ∈ inventory'.requests,
    request ∈ inventory.requests ∨ inventory.requestId < request.id
  same : inventory'.requestId = inventory.requestId → inventory'.pending = true →
    inventory.pending = true ∧ inventory'.retirements = inventory.retirements
  cancelling : inventory'.cancelling = inventory.cancelling

variable {inventory inventory' inventory'' : ProfileInventory}

theorem MayRefresh.running (h : inventory.MayRefresh) : inventory.isRunning = true := h.1

theorem MayRefresh.authorized (h : inventory.MayRefresh) : inventory.authorized = true := h.2.1

theorem MayRefresh.enabled (h : inventory.MayRefresh) : inventory.enabled = true := h.2.2.1

theorem MayRefresh.resumed (h : inventory.MayRefresh) : inventory.suspended = false := h.2.2.2.1

theorem MayRefresh.idle (h : inventory.MayRefresh) : inventory.pending = false := h.2.2.2.2

theorem Serves.refl (inventory : ProfileInventory) : inventory.Serves inventory :=
  ⟨le_rfl, fun _ h => .inl h, fun _ h => ⟨h, rfl⟩, rfl⟩

theorem Serves.trans (h : inventory.Serves inventory') (h' : inventory'.Serves inventory'') :
    inventory.Serves inventory'' where
  later := h.later.trans h'.later
  fresh request hmem := by
    rcases h'.fresh request hmem with hmem | hnew
    · exact h.fresh request hmem
    · exact .inr (h.later.trans_lt hnew)
  same hid hpending := by
    have hid' : inventory'.requestId = inventory.requestId :=
      le_antisymm (hid ▸ h'.later) h.later
    obtain ⟨hpending', hsame'⟩ := h'.same (hid.trans hid'.symm) hpending
    obtain ⟨hpending, hsame⟩ := h.same hid' hpending'
    exact ⟨hpending, hsame'.trans hsame⟩
  cancelling := h'.cancelling.trans h.cancelling

/-- A step that leaves the requests as they are. -/
structure Requeues (inventory inventory' : ProfileInventory) : Prop where
  timed : inventory.Timed → inventory'.Timed
  requests : inventory'.requests = inventory.requests
  requestId : inventory'.requestId = inventory.requestId
  pending : inventory'.pending = inventory.pending
  retirements : inventory'.retirements = inventory.retirements
  cancelling : inventory'.cancelling = inventory.cancelling
  running : inventory'.isRunning = inventory.isRunning

theorem Requeues.refl (inventory : ProfileInventory) : inventory.Requeues inventory :=
  ⟨id, rfl, rfl, rfl, rfl, rfl, rfl⟩

theorem Requeues.trans (h : inventory.Requeues inventory') (h' : inventory'.Requeues inventory'') :
    inventory.Requeues inventory'' where
  timed htimed := h'.timed (h.timed htimed)
  requests := h'.requests.trans h.requests
  requestId := h'.requestId.trans h.requestId
  pending := h'.pending.trans h.pending
  retirements := h'.retirements.trans h.retirements
  cancelling := h'.cancelling.trans h.cancelling
  running := h'.running.trans h.running

theorem Requeues.numbered (h : inventory.Requeues inventory') (hn : inventory.Numbered) :
    inventory'.Numbered where
  toIdentified := ⟨h.requests ▸ hn.distinct, by rw [h.requests, h.requestId]; exact hn.bounded⟩
  timely := by
    rw [h.requests, h.requestId, h.pending, h.retirements]
    exact hn.timely
  running := by
    rw [h.pending, h.running]
    exact hn.running

theorem Requeues.serves (h : inventory.Requeues inventory') : inventory.Serves inventory' where
  later := h.requestId.ge
  fresh _ hmem := .inl (h.requests ▸ hmem)
  same _ hpending := ⟨h.pending ▸ hpending, h.retirements⟩
  cancelling := h.cancelling

/-! ## The timer -/

theorem requeues_cancelRefreshSource (inventory : ProfileInventory) :
    inventory.Requeues inventory.cancelRefreshSource := by
  refine ⟨fun h => ?_, rfl, rfl, rfl, rfl, rfl, rfl⟩
  exact ⟨fun hset => absurd rfl hset, fun id hmem => h.positive id (List.mem_of_mem_filter hmem),
    fun id hmem => h.bounded id (List.mem_of_mem_filter hmem)⟩

theorem requeues_armRefresh (inventory : ProfileInventory) :
    inventory.Requeues inventory.armRefresh := by
  refine ⟨fun h => ?_, rfl, rfl, rfl, rfl, rfl, rfl⟩
  refine ⟨fun _ => List.mem_cons_self, fun id hmem => ?_, fun id hmem => ?_⟩
  · rcases List.mem_cons.mp hmem with rfl | hmem
    · exact Nat.succ_ne_zero _
    · exact h.positive id hmem
  · rcases List.mem_cons.mp hmem with rfl | hmem
    · exact le_rfl
    · exact (h.bounded id hmem).trans (Nat.le_succ _)

/-- Where no timer is to be armed, none is missing. -/
theorem armed_of_holdsRefresh (h : inventory.holdsRefresh = true) : inventory.Armed := by
  intro hmay hdirty
  simpa [holdsRefresh, hmay.running, hmay.authorized, hmay.enabled, hmay.resumed, hmay.idle,
    hdirty] using h

/-- What scheduling a queued refresh leaves: its timer is armed, and not too late. -/
structure Schedules (inventory inventory' : ProfileInventory) : Prop where
  requeues : inventory.Requeues inventory'
  armed : inventory'.Armed
  timer : inventory.MayRefresh → inventory.dirty = true → inventory'.refreshSource ≠ 0
  clock : inventory.clock ≤ inventory'.clock
  deadline : (inventory'.refreshSource = inventory.refreshSource ∧
      inventory'.sourceDeadline = inventory.sourceDeadline) ∨
    inventory'.sourceDeadline = inventory'.clock + max inventory.dirtyDelay 1 * 1000

theorem completes_scheduleQueuedRefresh (inventory : ProfileInventory) :
    inventoryComponent.Completes inventory.scheduleQueuedRefresh inventory.Schedules := by
  unfold scheduleQueuedRefresh
  split
  · rename_i holds
    exact ⟨.refl inventory, armed_of_holdsRefresh holds, armed_of_holdsRefresh holds, le_rfl,
      .inl ⟨rfl, rfl⟩⟩
  · intro now hnow
    have hread : inventory.armRefresh.Requeues { inventory.armRefresh with
        clock := now, sourceDeadline := now + max inventory.dirtyDelay 1 * 1000 } :=
      ⟨fun h => { h with }, rfl, rfl, rfl, rfl, rfl, rfl⟩
    exact ⟨inventory.requeues_armRefresh.trans hread, fun _ _ => Nat.succ_ne_zero _,
      fun _ _ => Nat.succ_ne_zero _, hnow, .inr rfl⟩

theorem requeues_requeue (inventory : ProfileInventory) (delay : ℕ) (purpose : RefreshPurpose) :
    inventory.Requeues (inventory.requeue delay purpose) := by
  have hmarked : inventory.Requeues (inventory.markDirty delay purpose) :=
    ⟨fun h => { h with }, rfl, rfl, rfl, rfl, rfl, rfl⟩
  unfold requeue
  split
  · exact hmarked.trans (requeues_cancelRefreshSource _)
  · exact hmarked

/-- What queueing a refresh leaves. -/
structure Queues (inventory : ProfileInventory) (delay : ℕ) (inventory' : ProfileInventory) :
    Prop where
  requeues : inventory.Requeues inventory'
  armed : inventory'.Armed
  timer : inventory.MayRefresh → inventory'.refreshSource ≠ 0
  /-- The timer is not later than the delay after it was armed. -/
  deadline : inventory.isRunning = true → inventory'.refreshSource ≠ 0 →
    inventory'.sourceDeadline ≤ inventory'.clock + max delay 1 * 1000

theorem armed_of_stopped (h : inventory.isRunning = false) : inventory.Armed :=
  fun hmay => absurd (h.symm.trans hmay.running) Bool.false_ne_true

/-- The delay of a refresh that is queued is at most the one it is queued with. -/
theorem markDirty_delay (inventory : ProfileInventory) (delay : ℕ) (purpose : RefreshPurpose) :
    (inventory.markDirty delay purpose).dirtyDelay ≤ delay := by
  unfold markDirty
  dsimp only
  split
  · exact le_rfl
  · rename_i hshorter
    exact not_lt.mp (not_or.mp (not_or.mp hshorter).2).2

/-- A timer that stays is not later than requested. -/
theorem requeue_deadline (inventory : ProfileInventory) (delay : ℕ) (purpose : RefreshPurpose) :
    (inventory.requeue delay purpose).dirtyDelay ≤ delay ∧
      ((inventory.requeue delay purpose).refreshSource ≠ 0 →
        (inventory.requeue delay purpose).sourceDeadline ≤ inventory.clock + delay * 1000) := by
  have hdelay := inventory.markDirty_delay delay purpose
  unfold requeue
  split
  · exact ⟨hdelay, fun hset => absurd rfl hset⟩
  · rename_i hstays
    refine ⟨hdelay, fun hset => ?_⟩
    have hset : inventory.refreshSource ≠ 0 := hset
    have htimely : ¬ inventory.sourceDeadline = 0 ∧
        inventory.sourceDeadline ≤ inventory.clock + delay * 1000 := by
      simpa [rearmsFor, hset] using hstays
    exact htimely.2

/-- Queueing a refresh does not tell whether it may be made. -/
theorem requeue_mayRefresh (inventory : ProfileInventory) (delay : ℕ) (purpose : RefreshPurpose) :
    (inventory.MayRefresh → (inventory.requeue delay purpose).MayRefresh) ∧
      (inventory.requeue delay purpose).dirty = true := by
  unfold requeue
  split
  · exact ⟨id, rfl⟩
  · exact ⟨id, rfl⟩

theorem completes_queueRefresh (inventory : ProfileInventory) (delay : ℕ)
    (purpose : RefreshPurpose) :
    inventoryComponent.Completes (inventory.queueRefresh delay purpose)
      (inventory.Queues delay) := by
  unfold queueRefresh
  split
  · rename_i hstopped
    exact ⟨.refl inventory, armed_of_stopped hstopped,
      fun hmay => absurd (hstopped.symm.trans hmay.running) Bool.false_ne_true,
      fun h => absurd (hstopped.symm.trans h) Bool.false_ne_true⟩
  · intro now hnow
    have hread : inventory.Requeues { inventory with clock := now } :=
      ⟨fun h => { h with }, rfl, rfl, rfl, rfl, rfl, rfl⟩
    have hqueued := hread.trans (requeues_requeue _ (max delay 1) purpose)
    refine (completes_scheduleQueuedRefresh _).mono fun scheduled hscheduled => ?_
    refine ⟨hqueued.trans hscheduled.requeues, hscheduled.armed, fun hmay => ?_, fun _ hset => ?_⟩
    · obtain ⟨hsame, hdirty⟩ := requeue_mayRefresh { inventory with clock := now } (max delay 1) purpose
      exact hscheduled.timer (hsame hmay) hdirty
    obtain ⟨hdelay, hstays⟩ := requeue_deadline { inventory with clock := now } (max delay 1) purpose
    have hclock : now ≤ scheduled.clock := by
      refine le_of_eq_of_le ?_ hscheduled.clock
      unfold requeue
      split <;> rfl
    rcases hscheduled.deadline with ⟨hsame, hdeadline⟩ | hdeadline
    · have hstays := hstays (hsame ▸ hset)
      rw [hdeadline]
      exact hstays.trans (Nat.add_le_add_right hclock _)
    · rw [hdeadline]
      refine Nat.add_le_add_left (Nat.mul_le_mul_right _ ?_) _
      exact max_le hdelay (le_max_right _ _)

theorem completes_scheduleRetry (inventory : ProfileInventory) (purpose : RefreshPurpose) :
    inventoryComponent.Completes (inventory.scheduleRetry purpose) fun inventory' =>
      inventory.Requeues inventory' ∧ inventory'.Armed := by
  unfold scheduleRetry
  split
  · rename_i hstopped
    exact ⟨.refl inventory, armed_of_stopped hstopped⟩
  · have hcounted (attempt : ℕ) : inventory.Requeues { inventory with retryAttempt := attempt } :=
      ⟨fun h => { h with }, rfl, rfl, rfl, rfl, rfl, rfl⟩
    refine (completes_queueRefresh _ _ purpose).mono fun queued hqueued => ?_
    exact ⟨(hcounted _).trans hqueued.requeues, hqueued.armed⟩

/-! ## The contract -/

/-- The contract of the inventory. -/
def inventoryContract : Contract ProfileInventory InventoryNote where
  invariant inventory := inventory.Timed ∧ inventory.Numbered
  rely inventory inventory' := inventory.Serves inventory' ∧ (inventory.Armed → inventory'.Armed)
  issues _ _ := True
  settled inventory := inventory.Armed ∧ inventory.cancelling = false

/-- A function keeps the contract, and arms the timer where `A` holds. -/
def KeepsInventory (inventory : ProfileInventory) (A : Prop) (p : InventoryM ProfileInventory) :
    Prop :=
  inventoryContract.Maintains inventoryComponent p fun inventory' =>
    (inventory'.Timed ∧ inventory'.Numbered) ∧ inventory.Serves inventory' ∧ (A → inventory'.Armed)

variable {A A' : Prop} {p : InventoryM ProfileInventory}

theorem KeepsInventory.mono (h : KeepsInventory inventory A p) (hA : A' → A) :
    KeepsInventory inventory A' p :=
  Contract.Maintains.mono h fun _ hs => ⟨hs.1, hs.2.1, fun h' => hs.2.2 (hA h')⟩

/-- What a function does after a step. -/
theorem KeepsInventory.after (h : KeepsInventory inventory' A p)
    (hserves : inventory.Serves inventory') : KeepsInventory inventory A p :=
  Contract.Maintains.mono h fun _ hs => ⟨hs.1, hserves.trans hs.2.1, hs.2.2⟩

theorem KeepsInventory.bind {f : ProfileInventory → InventoryM ProfileInventory}
    (h : KeepsInventory inventory A p) (hf : ∀ inventory', inventory'.Timed ∧ inventory'.Numbered →
      (A → inventory'.Armed) → KeepsInventory inventory' A' (f inventory')) :
    KeepsInventory inventory A' (p >>= f) :=
  Contract.Maintains.bind h fun inventory' hs => (hf inventory' hs.1 hs.2.2).after hs.2.1

theorem keepsInventory_pure (h : inventory.Timed ∧ inventory.Numbered) :
    KeepsInventory inventory inventory.Armed (return inventory) :=
  ⟨h, .refl inventory, id⟩

/-- A step that leaves the requests as they are. -/
theorem keepsInventory_completes (h : inventory.Timed ∧ inventory.Numbered)
    (hp : inventoryComponent.Completes p fun inventory' =>
      inventory.Requeues inventory' ∧ inventory'.Armed) : KeepsInventory inventory True p :=
  Contract.Maintains.mono (Contract.maintains_of_completes hp) fun _ hs =>
    ⟨⟨hs.1.timed h.1, hs.1.numbered h.2⟩, hs.1.serves, fun _ => hs.2⟩

theorem keepsInventory_schedule (h : inventory.Timed ∧ inventory.Numbered) :
    KeepsInventory inventory True inventory.scheduleQueuedRefresh :=
  keepsInventory_completes h
    ((completes_scheduleQueuedRefresh _).mono fun _ hs => ⟨hs.requeues, hs.armed⟩)

theorem keepsInventory_queueRefresh (h : inventory.Timed ∧ inventory.Numbered) (delay : ℕ)
    (purpose : RefreshPurpose) : KeepsInventory inventory True (inventory.queueRefresh delay purpose) :=
  keepsInventory_completes h
    ((completes_queueRefresh _ _ _).mono fun _ hs => ⟨hs.requeues, hs.armed⟩)

/-- A callout of the inventory. -/
theorem keepsInventory_callout (h : inventory.Timed ∧ inventory.Numbered) (n : InventoryNote) :
    KeepsInventory inventory inventory.Armed (callout n inventory) :=
  Contract.maintains_callout.mpr ⟨⟨h, trivial⟩, fun _ hs => hs⟩

theorem keepsInventory_notifyChanged (h : inventory.Timed ∧ inventory.Numbered)
    (change : InventoryChange) (purpose : RefreshPurpose) :
    KeepsInventory inventory inventory.Armed (inventory.notifyChanged change purpose) := by
  unfold notifyChanged
  split
  · exact keepsInventory_callout h _
  · exact keepsInventory_pure h

/-! ## Requests are given up -/

/-- A request that is given up is no longer pending. -/
theorem serves_retireRequest (h : inventory.Timed ∧ inventory.Identified) :
    (inventory.retireRequest.Timed ∧ inventory.retireRequest.Numbered) ∧
      inventory.Serves inventory.retireRequest := by
  have hidentified : inventory.retireRequest.Identified := { h.2 with }
  refine ⟨⟨{ h.1 with }, { hidentified with timely := ?_, running := ?_ }⟩, le_rfl,
    fun _ h => .inl h, ?_, rfl⟩
  · exact fun hpending => absurd hpending Bool.false_ne_true
  · exact fun hpending => absurd hpending Bool.false_ne_true
  · exact fun _ hpending => absurd hpending Bool.false_ne_true

theorem keepsInventory_cancelRequest (h : inventory.Timed ∧ inventory.Identified)
    (hidle : inventory.cancelling = false) :
    KeepsInventory inventory False inventory.cancelRequest := by
  obtain ⟨hretired, hserves⟩ := serves_retireRequest h
  unfold cancelRequest
  split
  · have hcancelling : { inventory.retireRequest with cancelling := true }.Timed ∧
        { inventory.retireRequest with cancelling := true }.Numbered :=
      ⟨{ hretired.1 with }, { hretired.2 with }⟩
    refine Contract.Maintains.bind (keepsInventory_callout hcancelling .cancel) fun s hs => ?_
    obtain ⟨⟨htimed, hnumbered⟩, hcancelled, -⟩ := hs
    refine ⟨⟨{ htimed with }, { hnumbered with }⟩, hserves.trans ?_, False.elim⟩
    exact ⟨hcancelled.later, hcancelled.fresh, hcancelled.same, hidle.symm⟩
  · exact ⟨hretired, hserves, False.elim⟩

/-- A request that has come to its end is no longer pending. -/
theorem serves_endRequest (h : inventory.Timed ∧ inventory.Numbered) :
    (inventory.endRequest.Timed ∧ inventory.endRequest.Numbered) ∧
      inventory.Serves inventory.endRequest := by
  refine ⟨⟨{ h.1 with }, { h.2 with timely := ?_, running := ?_ }⟩, le_rfl, fun _ h => .inl h, ?_, rfl⟩
  · exact fun hpending => absurd hpending Bool.false_ne_true
  · exact fun hpending => absurd hpending Bool.false_ne_true
  · exact fun _ hpending => absurd hpending Bool.false_ne_true

theorem keepsInventory_finishRequest (h : inventory.Timed ∧ inventory.Numbered)
    (request : InventoryRequest) (change : InventoryChange) :
    KeepsInventory inventory inventory.Armed (inventory.finishRequest request change) := by
  unfold finishRequest
  split
  · obtain ⟨hended, hserves⟩ := serves_endRequest h
    have hnotified := keepsInventory_notifyChanged hended change inventory.pendingPurpose
    have hscheduled := hnotified.bind fun notified hn _ => keepsInventory_schedule hn
    exact (hscheduled.after hserves).mono fun _ => trivial
  · exact keepsInventory_pure h

/-! ## Replies -/

theorem requeues_learnCapabilities (inventory : ProfileInventory) (result : BackendResult) :
    inventory.Requeues (inventory.learnCapabilities result) :=
  ⟨fun h => { h with }, rfl, rfl, rfl, rfl, rfl, rfl⟩

theorem requeues_takeProfiles (inventory : ProfileInventory) (result : BackendResult)
    (profiles : AwgModel) : inventory.Requeues (inventory.takeProfiles result profiles) :=
  ⟨fun h => { h with }, rfl, rfl, rfl, rfl, rfl, rfl⟩

theorem requeues_warnStale (inventory : ProfileInventory) (kind : ProfileWarningKind)
    (helperStatus : ℕ) : inventory.Requeues (inventory.warnStale kind helperStatus) :=
  ⟨fun h => { h with }, rfl, rfl, rfl, rfl, rfl, rfl⟩

theorem requeues_markService (inventory : ProfileInventory) (reachable : Bool) :
    inventory.Requeues (inventory.markService reachable) :=
  ⟨fun h => { h with }, rfl, rfl, rfl, rfl, rfl, rfl⟩

theorem requeues_learnFailure (inventory : ProfileInventory) (result : BackendResult) :
    inventory.Requeues (inventory.learnFailure result) := by
  unfold learnFailure
  split
  · exact .refl inventory
  · exact inventory.requeues_markService false
  · exact inventory.requeues_markService result.serviceReplied

/-- What the result of a request does before the request is finished. -/
def Applies (inventory : ProfileInventory) (applied : ProfileInventory × InventoryChange) : Prop :=
  (applied.1.Timed ∧ applied.1.Numbered) ∧ inventory.Serves applied.1 ∧
    (inventory.Armed → applied.1.Armed)

/-- A retry is scheduled after a warning. -/
theorem maintains_retried {warned : ProfileInventory} (h : inventory.Timed ∧ inventory.Numbered)
    (hwarned : inventory.Requeues warned) (purpose : RefreshPurpose) :
    inventoryContract.Maintains inventoryComponent (do
      let inventory ← warned.scheduleRetry purpose
      return (inventory, InventoryChange.stateChanged)) inventory.Applies := by
  have hkept := keepsInventory_completes ⟨hwarned.timed h.1, hwarned.numbered h.2⟩
    (warned.completes_scheduleRetry purpose)
  refine Contract.Maintains.bind (hkept.after hwarned.serves) fun retried hs => ?_
  exact ⟨hs.1, hs.2.1, fun _ => hs.2.2 trivial⟩

theorem maintains_applyResult (h : inventory.Timed ∧ inventory.Numbered) (result : BackendResult) :
    inventoryContract.Maintains inventoryComponent (inventory.applyResult result)
      inventory.Applies := by
  have hfailed : inventoryContract.Maintains inventoryComponent (do
      let inventory ← ((inventory.learnFailure result).warnStale (failureWarning result.kind)
        0).scheduleRetry inventory.pendingPurpose
      return (inventory, InventoryChange.stateChanged)) inventory.Applies :=
    maintains_retried h ((inventory.requeues_learnFailure result).trans (requeues_warnStale _ _ _)) _
  unfold applyResult
  split
  · unfold applyInventoryReply
    dsimp only
    have hlearned := inventory.requeues_learnCapabilities result
    split
    · rename_i profiles _
      have htaken := hlearned.trans (requeues_takeProfiles _ result profiles)
      exact ⟨⟨htaken.timed h.1, htaken.numbered h.2⟩, htaken.serves, id⟩
    · exact maintains_retried h (hlearned.trans (requeues_warnStale _ _ _)) _
  · exact ⟨h, .refl inventory, id⟩
  · have hmarked := inventory.requeues_markService result.serviceReplied
    have hinvalidated := keepsInventory_callout ⟨hmarked.timed h.1, hmarked.numbered h.2⟩
      .invalidateAuthorization
    exact Contract.Maintains.bind (hinvalidated.after hmarked.serves) fun _ hs => hs
  · exact hfailed
  · exact hfailed
  · exact hfailed
  · exact hfailed

theorem keepsInventory_inventoryResult (h : inventory.Timed ∧ inventory.Numbered)
    (request : InventoryRequest) (result : BackendResult) :
    KeepsInventory inventory inventory.Armed (inventory.inventoryResult request result) := by
  unfold inventoryResult
  split
  · refine Contract.Maintains.bind (maintains_applyResult h result) fun applied hs => ?_
    obtain ⟨happlied, hserves, harmed⟩ := hs
    exact ((keepsInventory_finishRequest happlied request applied.2).after hserves).mono harmed
  · exact keepsInventory_pure h

/-! ## Requests -/

/-- A request was issued since the state `base`, and may still be pending. -/
structure Issued (base inventory : ProfileInventory) (request : InventoryRequest) : Prop where
  serves : base.Serves inventory
  newer : base.requestId < request.id
  issued : request.id ≤ inventory.requestId
  absent : ∀ other ∈ inventory.requests, other.id ≠ request.id
  timely : inventory.pending = true → inventory.requestId = request.id →
    request.issuedAt = inventory.retirements

variable {base : ProfileInventory} {request : InventoryRequest}

theorem Issued.after (h : base.Issued inventory request) (hserves : inventory.Serves inventory') :
    base.Issued inventory' request where
  serves := h.serves.trans hserves
  newer := h.newer
  issued := h.issued.trans hserves.later
  absent other hmem := by
    rcases hserves.fresh other hmem with hmem | hnew
    · exact h.absent other hmem
    · exact (h.issued.trans_lt hnew).ne'
  timely hpending hid := by
    have hlater := hserves.later
    have hissued := h.issued
    have hsame : inventory'.requestId = inventory.requestId := by omega
    obtain ⟨hpending, hretirements⟩ := hserves.same hsame hpending
    exact (h.timely hpending (hsame.symm.trans hid)).trans hretirements.symm

/-- A function that starts from a state in which the request was issued. -/
theorem KeepsInventory.issued (h : KeepsInventory inventory A p)
    (hissued : base.Issued inventory request) : KeepsInventory base A p :=
  h.after hissued.serves

theorem keepsInventory_execute (h : inventory.Timed ∧ inventory.Numbered)
    (hissued : base.Issued inventory request) :
    KeepsInventory base inventory.Armed (inventory.execute request) := by
  unfold execute
  split
  · rename_i hcurrent
    simp only [requestIsCurrent, Bool.and_eq_true, decide_eq_true_eq] at hcurrent
    obtain ⟨⟨⟨-, -⟩, hpending⟩, hid⟩ := hcurrent
    have htimely := hissued.timely hpending hid
    have hsent : (inventory.send request).Timed ∧ (inventory.send request).Numbered := by
      refine ⟨{ h.1 with }, ⟨?_, fun other hmem => ?_⟩, fun _ other hmem hother => ?_, h.2.running⟩
      · refine List.nodup_cons.mpr ⟨fun hmem => ?_, h.2.distinct⟩
        obtain ⟨other, hother, hsame⟩ := List.mem_map.mp hmem
        exact hissued.absent other hother hsame
      · rcases List.mem_cons.mp hmem with rfl | hmem
        · exact hid.ge
        · exact h.2.bounded other hmem
      · rcases List.mem_cons.mp hmem with rfl | hmem
        · exact htimely
        · exact h.2.timely hpending other hmem hother
    have hserves : base.Serves (inventory.send request) := by
      refine ⟨hissued.serves.later, fun other hmem => ?_, hissued.serves.same,
        hissued.serves.cancelling⟩
      rcases List.mem_cons.mp hmem with rfl | hmem
      · exact .inr hissued.newer
      · exact hissued.serves.fresh other hmem
    exact (keepsInventory_callout hsent (.execute request)).after hserves
  · exact (keepsInventory_pure h).issued hissued

theorem keepsInventory_dispatch (h : inventory.Timed ∧ inventory.Numbered)
    (hissued : base.Issued inventory request) :
    KeepsInventory base inventory.Armed (inventory.dispatch request) := by
  unfold dispatch
  split
  · split
    · refine Contract.Maintains.bind (keepsInventory_callout h .canDispatch) fun asked hs => ?_
      obtain ⟨hasked, hserves, harmed⟩ := hs
      have hissued := hissued.after hserves
      refine Contract.Maintains.bind (Contract.maintains_system.mpr fun _ _ => trivial)
        fun answer (_ : True) => ?_
      split
      · exact (keepsInventory_execute hasked hissued).mono harmed
      · exact ((keepsInventory_finishRequest hasked request _).issued hissued).mono harmed
    · exact keepsInventory_execute h hissued
  · exact (keepsInventory_pure h).issued hissued

/-- The request that a refresh issues is new. -/
theorem issued_issue (h : inventory.Timed ∧ inventory.Numbered)
    (hrunning : inventory.isRunning = true) (purpose : RefreshPurpose) :
    ((inventory.takeQueued.issue purpose).Timed ∧ (inventory.takeQueued.issue purpose).Numbered) ∧
      inventory.Issued (inventory.takeQueued.issue purpose)
        ⟨inventory.requestId + 1, inventory.retirements⟩ := by
  have hnone {other : InventoryRequest} (hmem : other ∈ inventory.requests) :
      other.id ≠ inventory.requestId + 1 :=
    (Nat.lt_succ_of_le (h.2.bounded other hmem)).ne
  refine ⟨⟨{ h.1 with }, ?_⟩, ⟨⟨?_, fun _ h => .inl h, fun hid => ?_, rfl⟩, ?_, le_rfl, ?_, ?_⟩⟩
  · refine ⟨⟨h.2.distinct, fun other hmem => ?_⟩, fun _ other hmem hid => ?_, fun _ => hrunning⟩
    · exact (h.2.bounded other hmem).trans (Nat.le_succ _)
    · exact absurd hid (hnone hmem)
  · exact Nat.le_succ _
  · exact absurd hid (Nat.succ_ne_self _)
  · exact Nat.lt_succ_self _
  · exact fun other hmem => hnone hmem
  · exact fun _ _ => rfl

theorem completes_readClock (inventory : ProfileInventory) :
    inventoryComponent.Completes inventory.readClock fun inventory' =>
      ∃ now, inventory' = { inventory with clock := now } :=
  fun now _ => ⟨now, rfl⟩

theorem keepsInventory_beginRefresh (h : inventory.Timed ∧ inventory.Numbered)
    (hrunning : inventory.isRunning = true) (force : Bool) (purpose : RefreshPurpose) :
    KeepsInventory inventory (force = true ∨ inventory.Armed)
      (inventory.beginRefresh force purpose) := by
  unfold beginRefresh
  refine Contract.Maintains.bind
    (Contract.maintains_of_completes inventory.completes_readClock) ?_
  rintro _ ⟨now, rfl⟩
  have hread : inventory.Requeues { inventory with clock := now } :=
    ⟨fun h => { h with }, rfl, rfl, rfl, rfl, rfl, rfl⟩
  have hnow := And.intro (hread.timed h.1) (hread.numbered h.2)
  dsimp only
  split
  · rename_i hrecent
    refine ((keepsInventory_pure hnow).after hread.serves).mono fun harmed => ?_
    exact harmed.resolve_left fun hforce => absurd (hrecent.1.symm.trans hforce) Bool.false_ne_true
  split
  · have htaken : inventory.Requeues { inventory with clock := now }.takeQueued :=
      hread.trans ⟨fun h => { h with }, rfl, rfl, rfl, rfl, rfl, rfl⟩
    refine ((keepsInventory_pure ⟨htaken.timed h.1, htaken.numbered h.2⟩).after
      htaken.serves).mono fun _ _ hdirty => ?_
    exact absurd hdirty Bool.false_ne_true
  · obtain ⟨hstate, hissued⟩ := issued_issue hnow hrunning (purpose.max inventory.queuedPurpose)
    have harmed : ({ inventory with clock := now }.takeQueued.issue
        (purpose.max inventory.queuedPurpose)).Armed :=
      fun _ hdirty => absurd hdirty Bool.false_ne_true
    refine Contract.Maintains.bind (keepsInventory_notifyChanged hstate _ _) fun notified hs => ?_
    obtain ⟨hnotified, hserves, hkept⟩ := hs
    exact ((keepsInventory_dispatch hnotified (hissued.after hserves)).after hread.serves).mono
      fun _ => hkept harmed

theorem keepsInventory_requestRefresh (h : inventory.Timed ∧ inventory.Numbered) (force : Bool)
    (purpose : RefreshPurpose) : KeepsInventory inventory (force = true ∨ inventory.Armed)
      (inventory.requestRefresh force purpose) := by
  unfold requestRefresh
  split
  · rename_i hstopped
    refine (keepsInventory_pure h).mono fun _ hmay => ?_
    simp [hmay.running, hmay.authorized] at hstopped
  rename_i hrunning
  have hrunning : inventory.isRunning = true := by simpa using (not_or.mp hrunning).1
  split
  · exact (keepsInventory_queueRefresh h 1 purpose).mono fun _ => trivial
  split
  · rename_i hpending
    split
    · have hraised : inventory.Requeues { inventory with pendingPurpose := purpose } :=
        ⟨fun h => { h with }, rfl, rfl, rfl, rfl, rfl, rfl⟩
      refine ((keepsInventory_notifyChanged ⟨hraised.timed h.1, hraised.numbered h.2⟩ _ _).after
        hraised.serves).mono fun _ hmay => ?_
      exact absurd (hmay.idle.symm.trans hpending) Bool.false_ne_true
    · refine (keepsInventory_pure h).mono fun _ hmay => ?_
      exact absurd (hmay.idle.symm.trans hpending) Bool.false_ne_true
  split
  · exact (keepsInventory_queueRefresh h 1 purpose).mono fun _ => trivial
  split
  · rename_i hset
    have hqueued : inventory.Requeues { inventory with
        queuedPurpose := inventory.queuedPurpose.max purpose } :=
      ⟨fun h => { h with }, rfl, rfl, rfl, rfl, rfl, rfl⟩
    dsimp only
    split
    · rename_i hforce
      have hcancelled := hqueued.trans (requeues_cancelRefreshSource _)
      exact ((keepsInventory_beginRefresh ⟨hcancelled.timed h.1, hcancelled.numbered h.2⟩ hrunning
        force purpose).after hcancelled.serves).mono fun _ => .inl hforce
    · exact ((keepsInventory_pure ⟨hqueued.timed h.1, hqueued.numbered h.2⟩).after
        hqueued.serves).mono fun _ _ _ => hset
  · exact keepsInventory_beginRefresh h hrunning force purpose

/-! ## Functions of the inventory's owner -/

/-- A step after which the queued refresh is scheduled. -/
theorem keepsInventory_scheduled (h : inventory.Timed ∧ inventory.Numbered)
    (hstep : inventory.Requeues inventory') :
    KeepsInventory inventory True inventory'.scheduleQueuedRefresh :=
  (keepsInventory_schedule ⟨hstep.timed h.1, hstep.numbered h.2⟩).after hstep.serves

/-- A step that leaves the requests as they are, and the timer armed. -/
theorem keepsInventory_step (h : inventory.Timed ∧ inventory.Numbered)
    (hstep : inventory.Requeues inventory') (harmed : A → inventory'.Armed) :
    KeepsInventory inventory A (return inventory') :=
  ⟨⟨hstep.timed h.1, hstep.numbered h.2⟩, hstep.serves, harmed⟩

theorem keepsInventory_resetInventory (h : inventory.Timed ∧ inventory.Identified)
    (hidle : inventory.cancelling = false) :
    KeepsInventory inventory True inventory.resetInventory := by
  have hcancelled : inventory.cancelRefreshSource.Timed ∧
      inventory.cancelRefreshSource.Identified :=
    ⟨inventory.requeues_cancelRefreshSource.timed h.1, { h.2 with }⟩
  refine Contract.Maintains.bind (keepsInventory_cancelRequest hcancelled hidle) fun reset hs => ?_
  obtain ⟨⟨htimed, hnumbered⟩, hserves, -⟩ := hs
  have hforgotten : reset.Requeues reset.forgetProfiles :=
    ⟨fun h => { h with }, rfl, rfl, rfl, rfl, rfl, rfl⟩
  refine ⟨⟨hforgotten.timed htimed, hforgotten.numbered hnumbered⟩, ?_, fun _ _ hdirty => ?_⟩
  · exact (inventory.requeues_cancelRefreshSource.serves.trans hserves).trans hforgotten.serves
  · exact absurd hdirty Bool.false_ne_true

theorem keepsInventory_stop (h : inventory.Timed ∧ inventory.Numbered)
    (hidle : inventory.cancelling = false) :
    KeepsInventory inventory inventory.Armed inventory.stop := by
  unfold stop
  split
  · exact keepsInventory_pure h
  · have hdetached : inventory.detach.Timed ∧ inventory.detach.Identified :=
      ⟨{ h.1 with }, { h.2 with }⟩
    have hserves : inventory.Serves inventory.detach :=
      ⟨le_rfl, fun _ h => .inl h, fun _ h => ⟨h, rfl⟩, rfl⟩
    exact ((keepsInventory_resetInventory hdetached hidle).after hserves).mono fun _ => trivial

theorem keepsInventory_start (h : inventory.Timed ∧ inventory.Numbered) :
    KeepsInventory inventory inventory.Armed inventory.start := by
  unfold start
  split
  · exact keepsInventory_pure h
  · rename_i hfirst
    -- a request is pending only while the inventory is running
    have hidle : inventory.pending = false := by
      by_contra hpending
      have hrunning := h.2.running (Bool.not_eq_false _ ▸ hpending)
      simp only [isRunning, Bool.and_eq_true] at hrunning
      exact hfirst (.inl hrunning.1)
    have hstarted : { inventory with started := true }.Timed ∧
        { inventory with started := true }.Numbered := by
      refine ⟨{ h.1 with }, { h.2.toIdentified with timely := h.2.timely, running := fun hp => ?_ }⟩
      exact absurd (hidle.symm.trans hp) Bool.false_ne_true
    have hserves : inventory.Serves { inventory with started := true } :=
      ⟨le_rfl, fun _ h => .inl h, fun _ h => ⟨h, rfl⟩, rfl⟩
    exact ((keepsInventory_schedule hstarted).after hserves).mono fun _ => trivial

theorem keepsInventory_setAuthorized (h : inventory.Timed ∧ inventory.Numbered)
    (hidle : inventory.cancelling = false) (authorized : Bool) :
    KeepsInventory inventory inventory.Armed (inventory.setAuthorized authorized) := by
  have hset (authorized : Bool) : inventory.Requeues { inventory with authorized } :=
    ⟨fun h => { h with }, rfl, rfl, rfl, rfl, rfl, rfl⟩
  unfold setAuthorized
  split
  · exact keepsInventory_pure h
  split
  · exact (keepsInventory_scheduled h (hset true)).mono fun _ => trivial
  · have hreset := keepsInventory_resetInventory
      ⟨(hset false).timed h.1, ((hset false).numbered h.2).toIdentified⟩ hidle
    refine ((hreset.bind fun reset hs harmed => ?_).after (hset false).serves).mono fun _ => trivial
    split
    · exact (keepsInventory_notifyChanged hs _ _).mono fun (_ : True) => harmed trivial
    · exact (keepsInventory_pure hs).mono fun _ => harmed trivial

theorem keepsInventory_setEnabled (h : inventory.Timed ∧ inventory.Numbered) (enabled : Bool) :
    KeepsInventory inventory inventory.Armed (inventory.setEnabled enabled) := by
  unfold setEnabled
  split
  · exact keepsInventory_pure h
  split
  · have hset : inventory.Requeues { inventory with enabled := true, retryAttempt := 0 } :=
      ⟨fun h => { h with }, rfl, rfl, rfl, rfl, rfl, rfl⟩
    exact (keepsInventory_scheduled h hset).mono fun _ => trivial
  · have hset : inventory.Requeues { inventory with enabled := false } :=
      ⟨fun h => { h with }, rfl, rfl, rfl, rfl, rfl, rfl⟩
    refine keepsInventory_step h (hset.trans (requeues_cancelRefreshSource _)) ?_
    exact fun _ hmay => absurd hmay.enabled Bool.false_ne_true

theorem keepsInventory_setSuspended (h : inventory.Timed ∧ inventory.Numbered)
    (suspended : Bool) :
    KeepsInventory inventory inventory.Armed (inventory.setSuspended suspended) := by
  have hset (suspended : Bool) : inventory.Requeues { inventory with suspended } :=
    ⟨fun h => { h with }, rfl, rfl, rfl, rfl, rfl, rfl⟩
  unfold setSuspended
  split
  · exact keepsInventory_pure h
  split
  · refine keepsInventory_step h (hset true) ?_
    exact fun _ hmay => absurd hmay.resumed.symm Bool.false_ne_true
  · exact (keepsInventory_scheduled h (hset false)).mono fun _ => trivial

theorem keepsInventory_preempt (h : inventory.Timed ∧ inventory.Numbered)
    (hidle : inventory.cancelling = false) :
    KeepsInventory inventory inventory.Armed inventory.preempt := by
  have hset : inventory.Requeues { inventory with suspended := true } :=
    ⟨fun h => { h with }, rfl, rfl, rfl, rfl, rfl, rfl⟩
  unfold preempt
  split
  · exact keepsInventory_pure h
  dsimp only
  split
  · have hcancelled := keepsInventory_cancelRequest
      ⟨hset.timed h.1, (hset.numbered h.2).toIdentified⟩ hidle
    have hpreempted := (hcancelled.bind fun cancelled hs _ =>
      (keepsInventory_queueRefresh hs awgInventoryRecheckDelayMsec .reconcile).bind
        fun queued hq harmed => (keepsInventory_notifyChanged hq .stateChanged .reconcile).mono
          fun (_ : True) => harmed trivial)
    exact (hpreempted.after hset.serves).mono fun _ => trivial
  · refine keepsInventory_step h hset ?_
    exact fun _ hmay => absurd hmay.resumed.symm Bool.false_ne_true

theorem keepsInventory_setServiceReachable (h : inventory.Timed ∧ inventory.Numbered)
    (reachable : Bool) :
    KeepsInventory inventory inventory.Armed (inventory.setServiceReachable reachable) := by
  have hmarked := inventory.requeues_markService reachable
  unfold setServiceReachable
  split
  · exact keepsInventory_pure h
  split
  · exact keepsInventory_step h hmarked id
  · exact ((keepsInventory_notifyChanged ⟨hmarked.timed h.1, hmarked.numbered h.2⟩ _ _).after
      hmarked.serves).mono id

/-! ## Every run -/

/-- A timer that has fired is no longer armed. -/
theorem keepsInventory_refreshSourceFired (h : inventory.Timed ∧ inventory.Numbered) (id : ℕ) :
    KeepsInventory inventory True { inventory with
      sources := inventory.sources.filter (· ≠ id) }.refreshSourceFired := by
  have hfired : inventory.Requeues { inventory with
      sources := inventory.sources.filter (· ≠ id), refreshSource := 0, sourceDeadline := 0 } := by
    refine ⟨fun h => ?_, rfl, rfl, rfl, rfl, rfl, rfl⟩
    exact ⟨fun hset => absurd rfl hset, fun id hmem => h.positive id (List.mem_of_mem_filter hmem),
      fun id hmem => h.bounded id (List.mem_of_mem_filter hmem)⟩
  unfold refreshSourceFired
  dsimp only
  split
  · refine keepsInventory_step h
      (hfired.trans ⟨fun h => { h with }, rfl, rfl, rfl, rfl, rfl, rfl⟩) ?_
    exact fun _ _ hdirty => absurd hdirty Bool.false_ne_true
  split
  · rename_i hheld
    refine keepsInventory_step h hfired fun _ hmay => ?_
    rcases hheld with hdisabled | hheld
    · exact absurd (hdisabled.symm.trans hmay.enabled) Bool.false_ne_true
    · exact absurd (hmay.resumed.symm.trans hheld) Bool.false_ne_true
  · exact ((keepsInventory_requestRefresh ⟨hfired.timed h.1, hfired.numbered h.2⟩ true _).after
      hfired.serves).mono fun _ => .inl rfl

/-- A request that is answered is no longer awaited. -/
theorem serves_answered (h : inventory.Timed ∧ inventory.Numbered) (answered : ℕ) :
    ({ inventory with requests := inventory.requests.eraseIdx answered }.Timed ∧
      { inventory with requests := inventory.requests.eraseIdx answered }.Numbered) ∧
      inventory.Serves { inventory with requests := inventory.requests.eraseIdx answered } := by
  have hsublist := inventory.requests.eraseIdx_sublist answered
  refine ⟨⟨{ h.1 with }, ⟨⟨?_, ?_⟩, ?_, h.2.running⟩⟩, le_rfl, ?_, fun _ h => ⟨h, rfl⟩, rfl⟩
  · exact h.2.distinct.sublist (hsublist.map _)
  · exact fun request hmem => h.2.bounded request (hsublist.subset hmem)
  · exact fun hpending request hmem => h.2.timely hpending request (hsublist.subset hmem)
  · exact fun request hmem => .inl (hsublist.subset hmem)

/-- Every entry keeps the contract. -/
theorem keepsInventory_run (h : inventory.Timed ∧ inventory.Numbered) {e : InventoryEntry}
    (henabled : e.Enabled inventory) : KeepsInventory inventory inventory.Armed (e.run inventory) := by
  cases e with
  | start => exact keepsInventory_start h
  | stop => exact keepsInventory_stop h henabled
  | setAuthorized authorized => exact keepsInventory_setAuthorized h henabled authorized
  | setEnabled enabled => exact keepsInventory_setEnabled h enabled
  | setSuspended suspended => exact keepsInventory_setSuspended h suspended
  | preempt => exact keepsInventory_preempt h henabled
  | requestRefresh force purpose => exact (keepsInventory_requestRefresh h force purpose).mono .inr
  | queueRefresh delay purpose =>
    exact (keepsInventory_queueRefresh h delay purpose).mono fun _ => trivial
  | scheduleRetry purpose =>
    exact (keepsInventory_completes h (inventory.completes_scheduleRetry purpose)).mono
      fun _ => trivial
  | setServiceReachable reachable => exact keepsInventory_setServiceReachable h reachable
  | setModel model =>
    exact keepsInventory_step h ⟨fun h => { h with }, rfl, rfl, rfl, rfl, rfl, rfl⟩ id
  | inventoryResult request result =>
    obtain ⟨hanswered, hserves⟩ := serves_answered h request
    have hsome := List.getElem?_eq_getElem (henabled : request < inventory.requests.length)
    simp only [InventoryEntry.run, hsome]
    exact ((keepsInventory_inventoryResult hanswered _ result).after hserves).mono id
  | refreshSourceFired id => exact (keepsInventory_refreshSourceFired h id).mono fun _ => trivial

/-- The component keeps its contract. -/
theorem inventory_keptBy : inventoryContract.KeptBy inventoryComponent where
  refl inventory := ⟨.refl inventory, id⟩
  trans _ _ _ h h' := ⟨h.1.trans h'.1, fun harmed => h'.2 (h.2 harmed)⟩
  init := by
    rintro _ ⟨changed, canDispatch, model, rfl⟩
    refine ⟨⟨⟨fun hset => absurd rfl hset, fun _ h => (nomatch h), fun _ h => (nomatch h)⟩, ?_⟩, ?_⟩
    · exact ⟨⟨List.nodup_nil, fun _ h => (nomatch h)⟩, fun h => (nomatch h), fun h => (nomatch h)⟩
    · exact ⟨armed_of_stopped rfl, rfl⟩
  nested _ _ _ henabled h := keepsInventory_run h henabled
  settled _ _ henabled h hsettled := Contract.Maintains.mono (keepsInventory_run h henabled)
    fun _ hs => ⟨hs.1, hs.2.2 hsettled.1, hs.2.1.cancelling.trans hsettled.2⟩

/-! ## What a reply changes -/

/-- Two states agree on the profiles, the dependencies and the refresh that is queued. -/
def Agrees (inventory inventory' : ProfileInventory) : Prop :=
  inventory'.model = inventory.model ∧
    inventory'.missingDependencies = inventory.missingDependencies ∧
    inventory'.capabilitiesKnown = inventory.capabilitiesKnown ∧
    inventory'.retryAttempt = inventory.retryAttempt ∧ inventory'.dirty = inventory.dirty ∧
    inventory'.dirtyDelay = inventory.dirtyDelay ∧
    inventory'.queuedPurpose = inventory.queuedPurpose

theorem Agrees.refl (inventory : ProfileInventory) : inventory.Agrees inventory :=
  ⟨rfl, rfl, rfl, rfl, rfl, rfl, rfl⟩

theorem Agrees.trans (inventory inventory' inventory'' : ProfileInventory)
    (h : inventory.Agrees inventory') (h' : inventory'.Agrees inventory'') :
    inventory.Agrees inventory'' := by
  obtain ⟨hmodel, hmissing, hknown, hretry, hdirty, hdelay, hpurpose⟩ := h
  obtain ⟨hmodel', hmissing', hknown', hretry', hdirty', hdelay', hpurpose'⟩ := h'
  exact ⟨hmodel'.trans hmodel, hmissing'.trans hmissing, hknown'.trans hknown,
    hretry'.trans hretry, hdirty'.trans hdirty, hdelay'.trans hdelay, hpurpose'.trans hpurpose⟩

theorem agrees_scheduleQueuedRefresh (inventory : ProfileInventory) :
    inventoryComponent.Completes inventory.scheduleQueuedRefresh inventory.Agrees := by
  unfold scheduleQueuedRefresh
  split
  · exact .refl inventory
  · exact fun now _ => .refl inventory

theorem agrees_requeue (inventory : ProfileInventory) (now delay : ℕ) (purpose : RefreshPurpose) :
    (inventory.markDirty delay purpose).Agrees
      ({ inventory with clock := now }.requeue delay purpose) := by
  unfold requeue
  split
  · exact .refl (inventory.markDirty delay purpose)
  · exact .refl (inventory.markDirty delay purpose)

/-- What is queued does not depend on the time it is queued at. -/
theorem agrees_queueRefresh (inventory : ProfileInventory) (delay : ℕ) (purpose : RefreshPurpose) :
    ∃ queued, inventoryComponent.Completes (inventory.queueRefresh delay purpose)
      (Agrees queued) := by
  unfold queueRefresh
  split
  · exact ⟨inventory, .refl inventory⟩
  · refine ⟨inventory.markDirty (max delay 1) purpose, fun now _ => ?_⟩
    exact (agrees_scheduleQueuedRefresh _).mono fun _ =>
      Agrees.trans _ _ _ (inventory.agrees_requeue now (max delay 1) purpose)

theorem agrees_scheduleRetry (inventory : ProfileInventory) (purpose : RefreshPurpose) :
    ∃ queued, inventoryComponent.Completes (inventory.scheduleRetry purpose) (Agrees queued) := by
  unfold scheduleRetry
  split
  · exact ⟨inventory, .refl inventory⟩
  · exact agrees_queueRefresh _ _ _

/-- Finishing a request leaves what is known of the profiles. -/
theorem frames_finishRequest (inventory : ProfileInventory) (request : InventoryRequest)
    (change : InventoryChange) :
    inventoryComponent.Frames Agrees id inventory (inventory.finishRequest request change) := by
  unfold finishRequest
  split
  · have hnotified : inventoryComponent.Frames Agrees id inventory
        (inventory.endRequest.notifyChanged change inventory.pendingPurpose) := by
      unfold notifyChanged
      split
      · exact ⟨.refl inventory, fun notified => .refl notified⟩
      · exact .refl inventory
    exact hnotified.bind Agrees.trans fun notified =>
      (agrees_scheduleQueuedRefresh notified).frames
  · exact .refl inventory

/-- All that a reply changes of what is known, it changes before its first callout. -/
theorem frames_inventoryResult (inventory : ProfileInventory) (request : InventoryRequest)
    (result : BackendResult) : ∃ applied,
      inventoryComponent.Frames Agrees id applied (inventory.inventoryResult request result) := by
  have hfinish (applied : ProfileInventory) {p : InventoryM (ProfileInventory × InventoryChange)}
      (hp : inventoryComponent.Frames Agrees Prod.fst applied p) :
      inventoryComponent.Frames Agrees id applied (do
        let applied ← p
        applied.1.finishRequest request applied.2) :=
    hp.bind Agrees.trans fun applied => applied.1.frames_finishRequest request applied.2
  have hretried (warned : ProfileInventory) (purpose : RefreshPurpose) : ∃ applied,
      inventoryComponent.Frames Agrees Prod.fst applied (do
        let inventory ← warned.scheduleRetry purpose
        return (inventory, InventoryChange.stateChanged)) := by
    obtain ⟨queued, hqueued⟩ := warned.agrees_scheduleRetry purpose
    have hanswered : inventoryComponent.Completes (do
        let inventory ← warned.scheduleRetry purpose
        return (inventory, InventoryChange.stateChanged)) fun applied => Agrees queued applied.1 :=
      hqueued.bind fun _ hr => hr
    exact ⟨queued, hanswered.frames⟩
  have happly : ∃ applied,
      inventoryComponent.Frames Agrees Prod.fst applied (inventory.applyResult result) := by
    unfold applyResult
    split
    · unfold applyInventoryReply
      dsimp only
      split
      · exact ⟨_, .refl _⟩
      · exact hretried _ _
    · exact ⟨inventory, .refl inventory⟩
    · exact ⟨inventory.markService result.serviceReplied, .refl _, fun told => .refl told⟩
    all_goals exact hretried _ _
  unfold inventoryResult
  split
  · obtain ⟨applied, happlied⟩ := happly
    exact ⟨applied, hfinish applied happlied⟩
  · exact ⟨inventory, .refl inventory⟩

end ProfileInventory

/-! ## A run -/

/-- A clock that stands still, and an owner that lets every request go. -/
def calmInventory : (o : InventoryCall) → o.Reply
  | .monotonicTime last => last
  | .canDispatch => true

theorem calmInventory_allows (o : InventoryCall) : o.Allows (calmInventory o) := by
  cases o with
  | monotonicTime last => exact le_rfl
  | canDispatch => trivial

/-- Entries whose callouts return at once. -/
def calmInventoryRun (inventory : ProfileInventory) (entries : List InventoryEntry) :
    ProfileInventory :=
  entries.foldl (fun inventory e => Component.quietly calmInventory (e.run inventory)) inventory

/-- The functions of the owner can be called while no request is being cancelled. -/
theorem reachable_calmInventoryRun {entries : List InventoryEntry} {inventory : ProfileInventory}
    (hs : inventoryComponent.Reachable (.idle inventory))
    (hcalls : ∀ e ∈ entries, ∀ inventory : ProfileInventory, inventory.cancelling = false →
      e.Enabled inventory) :
    inventoryComponent.Reachable (.idle (calmInventoryRun inventory entries)) := by
  induction entries generalizing inventory with
  | nil => exact hs
  | cons e entries ih =>
    have hidle := (ProfileInventory.inventory_keptBy.idle hs).2.2
    refine ih (Component.Reachable.quietly calmInventory_allows hs ?_) fun e' hmem =>
      hcalls e' (List.mem_cons_of_mem e hmem)
    exact hcalls e List.mem_cons_self inventory hidle

/-- An inventory that may ask the service. -/
def sampleEnabled : ProfileInventory :=
  calmInventoryRun (.new true true ⟨⟨[]⟩, ⟨.none, 0, false⟩, false⟩)
    [.start, .setAuthorized true, .setEnabled true]

theorem sampleEnabled_reachable : inventoryComponent.Reachable (.idle sampleEnabled) := by
  refine reachable_calmInventoryRun (.start ⟨true, true, _, rfl⟩) fun e hmem inventory hidle => ?_
  simp only [List.mem_cons, List.not_mem_nil, or_false] at hmem
  rcases hmem with rfl | rfl | rfl <;> exact hidle

/-- An inventory whose request has been sent. -/
def sampleAsked : ProfileInventory :=
  calmInventoryRun sampleEnabled [.requestRefresh true .visible]

/-- An inventory with a refresh queued for one second. -/
def sampleQueued : ProfileInventory := calmInventoryRun sampleEnabled [.queueRefresh 1000 .visible]

theorem sampleAsked_reachable : inventoryComponent.Reachable (.idle sampleAsked) := by
  refine reachable_calmInventoryRun sampleEnabled_reachable fun e hmem inventory hidle => ?_
  obtain rfl := List.mem_singleton.mp hmem
  exact hidle

theorem sampleQueued_reachable : inventoryComponent.Reachable (.idle sampleQueued) := by
  refine reachable_calmInventoryRun sampleEnabled_reachable fun e hmem inventory hidle => ?_
  obtain rfl := List.mem_singleton.mp hmem
  exact hidle

/-- In every run, whoever calls or replies at whatever point: at most one request that the backend
has to answer is current, and a reply to any other is without effect. A request that is current has
not been given up since it was issued, and what its reply changes of the profiles, the dependencies,
the warning and the retry is changed before the first callout. -/
theorem inventoryReply_current {inventory : ProfileInventory}
    {stack : List (ProfileInventory → InventoryM ProfileInventory)}
    (hreachable : inventoryComponent.Reachable ⟨.waiting inventory, stack⟩) :
    (∀ request ∈ inventory.requests, ∀ request' ∈ inventory.requests,
      inventory.requestIsCurrent request = true → inventory.requestIsCurrent request' = true →
        request = request') ∧
    ∀ (i : ℕ) (request : InventoryRequest) (result : BackendResult),
      inventory.requests[i]? = some request →
      (inventory.requestIsCurrent request = false ∧
        InventoryEntry.run (.inventoryResult i result) inventory =
          .pure { inventory with requests := inventory.requests.eraseIdx i }) ∨
      (inventory.requestIsCurrent request = true ∧ request.issuedAt = inventory.retirements ∧
        ∃ applied, inventoryComponent.Frames ProfileInventory.Agrees id applied
          (InventoryEntry.run (.inventoryResult i result) inventory)) := by
  obtain ⟨-, hnumbered⟩ := ProfileInventory.inventory_keptBy.waiting hreachable
  have hcurrent {request : InventoryRequest} (h : inventory.requestIsCurrent request = true) :
      inventory.pending = true ∧ inventory.requestId = request.id := by
    simp only [ProfileInventory.requestIsCurrent, Bool.and_eq_true, decide_eq_true_eq] at h
    exact ⟨h.1.2, h.2⟩
  refine ⟨fun request hmem request' hmem' h h' => ?_, fun i request result hanswered => ?_⟩
  · exact List.inj_on_of_nodup_map hnumbered.distinct hmem hmem'
      ((hcurrent h).2.symm.trans (hcurrent h').2)
  · have hrun : InventoryEntry.run (.inventoryResult i result) inventory =
        { inventory with requests := inventory.requests.eraseIdx i }.inventoryResult request
          result := by
      simp only [InventoryEntry.run, hanswered]
    rw [hrun]
    cases hcase : inventory.requestIsCurrent request with
    | false =>
      refine .inl ⟨rfl, ?_⟩
      unfold ProfileInventory.inventoryResult
      exact if_neg (Bool.eq_false_iff.mp hcase)
    | true =>
      obtain ⟨hpending, hid⟩ := hcurrent hcase
      refine .inr ⟨rfl, ?_, ProfileInventory.frames_inventoryResult _ request result⟩
      exact hnumbered.timely hpending request (List.mem_of_getElem? hanswered) hid.symm

/-- The reply to the first request will be current, whatever it is. -/
theorem inventoryReply_current_sample : sampleAsked.requestIsCurrent ⟨1, 0⟩ = true ∧
    0 = sampleAsked.retirements := by
  have hcurrent : sampleAsked.requestIsCurrent ⟨1, 0⟩ = true := by decide
  rcases (inventoryReply_current sampleAsked_reachable).2 0 ⟨1, 0⟩
    ⟨.cancelled, false, 0, 0, false, none⟩ rfl with ⟨hretired, -⟩ | ⟨-, hissued, -⟩
  · exact absurd (hretired.symm.trans hcurrent) Bool.false_ne_true
  · exact ⟨hcurrent, hissued⟩

/-- In every run: between callbacks, where the service may be asked and a refresh is queued, the
refresh timer is armed. Wherever a refresh is queued under these conditions, the timer is armed
afterwards, and its deadline is not later than the delay after it was armed. -/
theorem inventoryRefresh_armed {inventory : ProfileInventory}
    {stack : List (ProfileInventory → InventoryM ProfileInventory)}
    (hreachable : inventoryComponent.Reachable ⟨.waiting inventory, stack⟩)
    (hmay : inventory.MayRefresh) :
    (stack = [] → inventory.dirty = true →
      inventory.refreshSource ≠ 0 ∧ inventory.refreshSource ∈ inventory.sources) ∧
    ∀ (delay : ℕ) (purpose : RefreshPurpose),
      inventoryComponent.Completes (inventory.queueRefresh delay purpose) fun inventory' =>
        inventory'.refreshSource ≠ 0 ∧ inventory'.refreshSource ∈ inventory'.sources ∧
          inventory'.sourceDeadline ≤ inventory'.clock + max delay 1 * 1000 := by
  obtain ⟨htimed, -⟩ := ProfileInventory.inventory_keptBy.waiting hreachable
  refine ⟨fun hidle hdirty => ?_, fun delay purpose => ?_⟩
  · subst hidle
    have harmed := (ProfileInventory.inventory_keptBy.idle hreachable).2.1 hmay hdirty
    exact ⟨harmed, htimed.armed harmed⟩
  · refine (inventory.completes_queueRefresh delay purpose).mono fun queued hqueued => ?_
    have hset := hqueued.timer hmay
    exact ⟨hset, (hqueued.requeues.timed htimed).armed hset, hqueued.deadline hmay.running hset⟩

/-- The refresh that is queued for one second has its timer. -/
theorem inventoryRefresh_armed_sample : sampleQueued.refreshSource ∈ sampleQueued.sources := by
  have hmay : sampleQueued.MayRefresh := by
    refine ⟨?_, ?_, ?_, ?_, ?_⟩ <;> decide
  exact ((inventoryRefresh_armed sampleQueued_reachable hmay).1 rfl (by decide)).2

/-- The clock is read once for the deadline that is requested and once more when the timer is armed:
where it moves in between, the timer is later than requested. -/
theorem inventoryRefresh_late : ∃ k k' queued,
    inventoryComponent.Reachable (.idle sampleEnabled) ∧ sampleEnabled.MayRefresh ∧
      sampleEnabled.queueRefresh 1 .visible = .call (.sys (.monotonicTime 0)) k ∧
      k 0 = .call (.sys (.monotonicTime 0)) k' ∧ k' 1 = .pure queued ∧
      0 + 1 * 1000 < queued.sourceDeadline := by
  refine ⟨_, _, _, sampleEnabled_reachable, ?_, rfl, rfl, rfl, by decide⟩
  refine ⟨?_, ?_, ?_, ?_, ?_⟩ <;> decide

end NmSidebar
