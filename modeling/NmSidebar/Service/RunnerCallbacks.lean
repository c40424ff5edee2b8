import NmSidebar.Service.Cancellation

/-!
# The runner's callbacks

The callback of the runner frees the request of a run that has ended, and progresses the action that
waits, which may start the next helper at once. A helper is started only with a request that may
start, and is spawned only where nothing is left of another one.
-/

namespace NmSidebar

open Text Effects

/-- A run that was started and is finished at once has sent its result. -/
theorem runnerStart_sent (operation config : Bytes) (runner : HelperRunner)
    (outcome : SpawnOutcome) :
    (runnerStart operation config runner outcome).Returns fun run =>
      run.finished = true → run.result.isSome = true := by
  by_cases hsetUp : ∃ deadlines pid, outcome = .spawned deadlines pid true true
  · obtain ⟨deadlines, pid, rfl⟩ := hsetUp
    exact fun hfinished => absurd hfinished Bool.false_ne_true
  · refine (runnerStart_failed operation config runner fun deadlines pid h =>
      hsetUp ⟨deadlines, pid, h⟩).mono fun run hrun hfinished => ?_
    rcases hrun with ⟨-, result, hresult, -⟩ | ⟨hopen, -⟩
    · rw [hresult]
      rfl
    · exact absurd (hopen.symm.trans hfinished) Bool.false_ne_true

namespace AwgService

open ServiceState

variable {s s' : AwgService} {id depth : ℕ} {request : AwgServiceRequest}
  {before run : AwgHelperRun}

/-! ## The runner's callbacks -/

/-- The request that is active is not in authorization, and nothing is awaited for it. -/
theorem no_call_of_done (h : s.Sane) (hrequest : s.requests id = some request)
    (hdone : request.authorizationPending = false) (call : RequestCall) : (id, call) ∉ s.calls := by
  intro hcall
  obtain ⟨request', hrequest', hpending⟩ :=
    (h.registers.pending id).mp (h.awaits.call id call hcall)
  obtain rfl : request' = request := Option.some.inj (hrequest'.symm.trans hrequest)
  exact Bool.false_ne_true (hdone.symm.trans hpending)

/-- A reply to another request than the action that is pending. -/
theorem Replied.consistent (h : s.Replied id s') (hs : s.Consistent) (hsane : s'.Sane)
    (hne : s.pendingAction ≠ some id) : s'.Consistent := by
  have hother := h.other
  obtain ⟨requests, replies, rfl⟩ := h.rest
  refine ⟨hsane, fun id' request' haction hrequest' => ?_, hs.stopped⟩
  have hid : id' ≠ id := by
    rintro rfl
    exact hne haction
  exact (hs.waits id' request' haction ((hother id' hid).symm.trans hrequest')).congr rfl rfl rfl

theorem Replied.held (h : s.Replied id s') (hheld : s.Held) : s'.Held := by
  intro id' request' hrequest'
  have hother := h.other
  have hnow := h.request
  have habsent := h.absent
  obtain ⟨requests, replies, rfl⟩ := h.rest
  by_cases hid : id' = id
  · subst hid
    cases hrequest : s.requests id' with
    | none => exact absurd ((habsent hrequest).symm.trans hrequest') (Option.some_ne_none _).symm
    | some request =>
      obtain rfl := Option.some.inj (hrequest'.symm.trans (hnow request hrequest))
      exact hheld id' request hrequest
  · exact hheld id' request' ((hother id' hid).symm.trans hrequest')

/-- The result of a run is what its request is answered. -/
theorem helperResultCb_replied (hactive : s.activeRequest = some id)
    (hrequest : s.requests id = some request) (result : HelperResult) :
    ∃ reply, s.helperResultCb result = s.sendReply id reply := by
  unfold helperResultCb
  rw [hactive]
  dsimp only
  rw [hrequest]
  dsimp only
  split
  · exact ⟨_, rfl⟩
  · exact ⟨_, rfl⟩

/-- A run is replaced by another one, or by none. -/
theorem consistent_setRun (h : s.Consistent) {run : Option AwgHelperRun}
    (hrun : ∀ run', run = some run' → run'.finished = false ∧ ∃ id request,
      s.activeRequest = some id ∧ s.requests id = some request ∧
        (run'.result.isSome = true → request.replySent = true)) :
    ({ s with run } : AwgService).Consistent where
  toSane := by
    have hsane := h.toSane
    constructor <;> constructor <;> simp only <;> grind [replyCount]
  waits id request haction hrequest := (h.waits id request haction hrequest).congr rfl rfl rfl
  stopped := h.stopped

theorem progressPendingAction_none (hnone : s.pendingAction = none) (depth : ℕ) :
    progressPendingAction depth s = return s := by
  cases depth with
  | zero =>
    unfold progressPendingAction
    rw [hnone]
  | succ depth =>
    unfold progressPendingAction
    rw [hnone]

/-- The callbacks may be nested once more, or there is nothing to nest them for. -/
def Shallow (depth : ℕ) (s : AwgService) : Prop := depth ≠ 0 ∨ s.pendingAction = none

/-- The action that is pending is progressed at a depth. -/
def ProgressesGood (depth : ℕ) : Prop :=
  ∀ s : AwgService, s.Good → s.Shallow depth → Keeps (progressPendingAction depth s) Good

/-- The first part of the runner's callback: no action waits where the runner has failed. -/
theorem keeps_stopIfRunnerFailed (h : s.Consistent) :
    Keeps s.stopIfRunnerFailed fun s' => s'.Consistent ∧ s.Cancels s' ∧
      (s'.pendingAction = s.pendingAction ∨ s'.pendingAction = none) ∧
        (s.runner.failed = true → s'.pendingAction = none) := by
  unfold stopIfRunnerFailed
  split
  · have hsane := @sane_setFlags s h.toSane true true s.policyReady s.policyGeneration fun _ => rfl
    refine (keeps_cancelPendingAuthorizations (s := { s with failed := true, stopping := true })
      hsane).mono ?_
    rintro s' ⟨hconsistent, hcancels, hnone, -⟩
    exact ⟨hconsistent, ⟨hcancels.run, hcancels.activeRequest, hcancels.calls,
      hcancels.pendingRequests, hcancels.kept, fun hheld => hcancels.held hheld⟩, .inr hnone,
      fun _ => hnone⟩
  · rename_i hbefore
    refine ⟨h, .refl s, .inl rfl, fun hfailed => h.stopped (h.holds.failed ?_)⟩
    by_contra hno
    exact hbefore ⟨hfailed, Bool.eq_false_iff.mpr hno⟩

/-- The second part of the runner's callback frees the request of a run that is finished, which was
answered. -/
theorem keeps_freeEnded (h : s.Consistent) (hheld : s.Held) (hsent : s.run = none →
    ∀ id request, s.activeRequest = some id → s.requests id = some request →
      request.replySent = true) :
    Keeps s.freeEnded fun s' => s'.Good ∧
      (s'.pendingAction = s.pendingAction ∨ s'.pendingAction = none) := by
  unfold freeEnded
  cases hactive : s.activeRequest with
  | none =>
    have hrun : s.run = none := by
      cases hrun : s.run with
      | none => rfl
      | some run =>
        obtain ⟨-, id, request, hactive', -⟩ := h.holds.run run hrun
        exact absurd (hactive.symm.trans hactive') (Option.some_ne_none _).symm
    exact ⟨⟨h, by rw [hactive, hrun]; rfl, hheld⟩, .inl rfl⟩
  | some id =>
    dsimp only
    cases hrun : s.run with
    | some run => exact ⟨⟨h, by rw [hactive, hrun]; rfl, hheld⟩, .inl rfl⟩
    | none =>
      obtain ⟨request, hrequest, hdone⟩ := h.holds.active id hactive
      refine Contract.Maintains.mono (keeps_requestFree h.toSane hrequest
        (hsent hrun id request hactive hrequest) (no_call_of_done h.toSane hrequest hdone)
          fun _ => hrun) ?_
      rintro s₂ ⟨hsane, hfreed⟩
      refine ⟨⟨hfreed.of_consistent hsane h, ?_, hfreed.held fun id' request' _ =>
        hheld id' request'⟩, ?_⟩
      · rw [hfreed.activeRequest, hfreed.run, if_pos hactive, hrun]
        rfl
      · rw [hfreed.pendingAction]
        split
        · exact .inr rfl
        · exact .inl rfl

/-- The failure of a runner whose run goes on stops the service. -/
theorem keeps_changed_running (h : s.Consistent) {run : AwgHelperRun} (hrun : s.run = some run)
    (hfailed : s.runner.failed = true) (depth : ℕ) :
    Keeps (helperRunnerChangedCb (progressPendingAction depth) s) fun s' =>
      s'.Consistent ∧ s.Cancels s' ∧ s'.pendingAction = none := by
  unfold helperRunnerChangedCb
  refine (keeps_stopIfRunnerFailed h).bind ?_
  rintro s₁ ⟨hconsistent, hcancels, -, hnone⟩
  have hnone := hnone hfailed
  have hends : Keeps s₁.freeEnded fun s' => s' = s₁ := by
    unfold freeEnded
    rw [hcancels.run, hrun]
    split
    · rfl
    · rfl
  refine hends.bind fun s₂ hsame => ?_
  rw [hsame, progressPendingAction_none hnone]
  refine (keeps_updateIdleState s₁).mono fun s₃ hidles => ⟨hidles.consistent hconsistent,
    hcancels.trans hidles.cancels, ?_⟩
  rw [hidles.state]
  exact hnone

/-- The runner's callback. -/
theorem good_changed (hprogress : ProgressesGood depth) (h : s.Consistent) (hheld : s.Held)
    (hsent : s.run = none → ∀ id request, s.activeRequest = some id →
      s.requests id = some request → request.replySent = true) (hshallow : s.Shallow depth) :
    Keeps (helperRunnerChangedCb (progressPendingAction depth) s) Good := by
  have hkept {s s' : AwgService} (hshallow : s.Shallow depth)
      (haction : s'.pendingAction = s.pendingAction ∨ s'.pendingAction = none) :
      s'.Shallow depth := by
    refine hshallow.imp_right fun hnone => ?_
    rcases haction with hsame | hnone'
    · exact hsame.trans hnone
    · exact hnone'
  unfold helperRunnerChangedCb
  refine (keeps_stopIfRunnerFailed h).bind ?_
  rintro s₁ ⟨h₁, hcancels, haction, -⟩
  have hsent₁ (hrun₁ : s₁.run = none) (id : ℕ) (request : AwgServiceRequest)
      (hactive₁ : s₁.activeRequest = some id) (hrequest₁ : s₁.requests id = some request) :
      request.replySent = true := by
    have hactive := hcancels.activeRequest.symm.trans hactive₁
    exact hsent (hcancels.run.symm.trans hrun₁) id request hactive
      ((hcancels.kept id hactive).symm.trans hrequest₁)
  refine (keeps_freeEnded h₁ (hcancels.held hheld) hsent₁).bind ?_
  rintro s₂ ⟨hgood, haction₂⟩
  refine (hprogress s₂ hgood (hkept (hkept hshallow haction) haction₂)).bind fun s₃ hgood₃ => ?_
  exact (keeps_updateIdleState s₃).mono fun _ hidles => hidles.good hgood₃

/-! ## The runner -/

/-- The result of a run is told to the active request. -/
theorem consistent_tellResult (h : s.Consistent) (hactive : s.activeRequest = some id)
    (hrequest : s.requests id = some request)
    (hbefore : before.result.isSome = true → request.replySent = true) :
    (s.tellResult before run).Consistent ∧ ∃ requests replies request',
      s.tellResult before run = { s with requests, replies } ∧ requests id = some request' ∧
        (s.Held → (s.tellResult before run).Held) ∧
          (run.result.isSome = true → request'.replySent = true) := by
  unfold tellResult
  split
  · rename_i result _ hresult
    obtain ⟨reply, hreply⟩ := helperResultCb_replied hactive hrequest result
    rw [hreply]
    have hreplied := sendReply_replied s id reply
    have hfree : s.pendingAction ≠ some id := fun haction =>
      (h.holds.action id haction).1 hactive
    refine ⟨hreplied.consistent h (sane_sendReply h.toSane id reply) hfree, ?_⟩
    have hnow := hreplied.request request hrequest
    have hheld := hreplied.held
    obtain ⟨requests, replies, hrest⟩ := hreplied.rest
    rw [hrest] at hnow
    exact ⟨requests, replies, _, hrest, hnow, hheld, fun _ => rfl⟩
  · rename_i hno
    refine ⟨h, s.requests, s.replies, request, rfl, hrequest, fun hheld => hheld, fun hresult => ?_⟩
    refine hbefore ?_
    obtain ⟨result, hresult⟩ := Option.isSome_iff_exists.mp hresult
    cases hnone : before.result with
    | none => exact absurd hresult (hno result hnone)
    | some result => rfl

/-- What the service does once a function of the runner has returned. -/
theorem good_afterRun (h : s.Consistent) (hheld : s.Held) {begun : AwgHelperRun}
    (hrun : s.run = some begun) {changed : AwgService → AwgServiceM AwgService}
    (hbefore : before.result.isSome = true → begun.result.isSome = true)
    (hended : run.finished = true → run.result.isSome = true)
    (hmid : ∀ s₁ : AwgService, s₁.Consistent → s₁.run = some begun → s₁.runner.failed = true →
      Keeps (changed s₁) fun s₂ => s₂.Consistent ∧ s₁.Cancels s₂ ∧
        (s₂.pendingAction = s₁.pendingAction ∨ s₂.pendingAction = none))
    (hend : run.finished = true → ∀ s₁ : AwgService, s₁.Consistent → s₁.Held → s₁.run = none →
      (∀ id request, s₁.activeRequest = some id → s₁.requests id = some request →
        request.replySent = true) →
      s₁.pendingAction = s.pendingAction ∨ s₁.pendingAction = none → Keeps (changed s₁) Good) :
    Keeps (s.afterRun changed before run) Good := by
  have hfirst : Keeps (s.tellFailure changed run.runner) fun s₁ => s₁.Consistent ∧ s.Cancels s₁ ∧
      (s₁.pendingAction = s.pendingAction ∨ s₁.pendingAction = none) := by
    unfold tellFailure
    split
    · rename_i hfailed
      refine (hmid { s with runner := run.runner } h hrun hfailed.2).mono ?_
      rintro s₁ ⟨hconsistent, hcancels, haction⟩
      exact ⟨hconsistent, ⟨hcancels.run, hcancels.activeRequest, hcancels.calls,
        hcancels.pendingRequests, hcancels.kept, hcancels.held⟩, haction⟩
    · exact ⟨h, ⟨rfl, rfl, rfl, fun _ => .rfl, fun _ _ => rfl, fun hheld => hheld⟩, .inl rfl⟩
  unfold afterRun
  refine hfirst.bind ?_
  rintro s₁ ⟨h₁, hcancels, haction⟩
  have hrun₁ : s₁.run = some begun := hcancels.run.trans hrun
  obtain ⟨-, id, request, hactive, hrequest, hsent⟩ := h₁.holds.run begun hrun₁
  obtain ⟨h₂, requests, replies, request', hrest, hrequest', hheld₂, hsent'⟩ :=
    @consistent_tellResult _ _ _ before run h₁ hactive hrequest fun hresult =>
      hsent (hbefore hresult)
  have hheld₂ := hheld₂ (hcancels.held hheld)
  rw [hrest] at h₂ hheld₂
  dsimp only
  rw [hrest]
  split
  · rename_i hfinished
    have hnone (run' : AwgHelperRun) (hrun' : none = some run') : run'.finished = false ∧
        ∃ id request, s₁.activeRequest = some id ∧ requests id = some request ∧
          (run'.result.isSome = true → request.replySent = true) :=
      absurd hrun' (Option.some_ne_none _).symm
    refine hend hfinished _ (consistent_setRun h₂ hnone) hheld₂ rfl ?_ haction
    intro id' request'' hactive' hrequest''
    obtain rfl : id = id' := Option.some.inj (hactive.symm.trans hactive')
    obtain rfl : request' = request'' := Option.some.inj (hrequest'.symm.trans hrequest'')
    exact hsent' (hended hfinished)
  · rename_i hopen
    refine ⟨consistent_setRun h₂ fun run' hrun' => ?_, ?_, hheld₂⟩
    · obtain rfl : run = run' := Option.some.inj hrun'
      exact ⟨Bool.eq_false_iff.mpr hopen, id, request', hactive, hrequest', hsent'⟩
    · show s₁.activeRequest.isSome = true
      rw [hactive]
      rfl

/-- The callbacks of the runner at a depth. -/
theorem good_afterRun_changed (hprogress : ProgressesGood depth) (h : s.Consistent)
    (hheld : s.Held) {begun : AwgHelperRun} (hrun : s.run = some begun)
    (hbefore : before.result.isSome = true → begun.result.isSome = true)
    (hended : run.finished = true → run.result.isSome = true) (hshallow : s.Shallow depth) :
    Keeps (s.afterRun (helperRunnerChangedCb (progressPendingAction depth)) before run) Good := by
  refine good_afterRun h hheld hrun hbefore hended
    (fun s₁ h₁ hrun₁ hfailed => (keeps_changed_running h₁ hrun₁ hfailed depth).mono
      fun _ hs => ⟨hs.1, hs.2.1, .inr hs.2.2⟩) ?_
  intro _ s₁ h₁ hheld₁ hrun₁ hsent haction
  refine good_changed hprogress h₁ hheld₁ (fun _ => hsent) ?_
  rcases hshallow with hdeep | hnone
  · exact .inl hdeep
  · refine .inr ?_
    rcases haction with hsame | hnone'
    · exact hsame.trans hnone
    · exact hnone'

/-- A helper is spawned only where the runner is free of another one. -/
theorem keeps_helperRunnerStart (hprogress : ProgressesGood depth) (h : s.Consistent)
    (hheld : s.Held) (hactive : s.activeRequest = some id) (hshallow : s.Shallow depth)
    (operation config : Bytes) :
    Keeps (s.helperRunnerStart (helperRunnerChangedCb (progressPendingAction depth)) operation
        config)
      fun started => (started.1 = true → started.2.Good) ∧
        (started.1 = false → s.Idles started.2) := by
  unfold helperRunnerStart
  split
  · exact ⟨fun hno => absurd hno Bool.false_ne_true, fun _ => ⟨rfl, rfl⟩⟩
  refine (keeps_isBusy s).bind ?_
  rintro ⟨busy, s₁⟩ ⟨hidles, hfree⟩
  dsimp only at hidles hfree ⊢
  split
  · exact ⟨fun hno => absurd hno Bool.false_ne_true, fun _ => hidles⟩
  rename_i hbusy
  have hfree := hfree (Bool.eq_false_iff.mpr hbusy)
  have h₁ := hidles.consistent h
  refine Contract.Maintains.bind (Q := fun s₂ => s₂ = s₁)
    (Contract.maintains_callout.mpr ⟨⟨h₁, hfree⟩, fun s₂ hs₂ => hs₂.2⟩) fun s₂ hsame => ?_
  rw [hsame]
  refine Contract.Maintains.bind (Q := fun _ => True)
    (Contract.maintains_system.mpr fun _ _ => trivial) fun spawned _ => ?_
  obtain ⟨runCapabilities, outcome⟩ := spawned
  refine Contract.Maintains.bind (keeps_onKernel (runnerStart_sent operation config s₁.runner
    outcome)) fun run hended => ?_
  have hactive₁ : s₁.activeRequest = some id := by
    rw [hidles.state]
    exact hactive
  obtain ⟨request, hrequest, -⟩ := h₁.holds.active id hactive₁
  have hheld₁ : s₁.Held := hidles.cancels.held hheld
  refine Contract.Maintains.bind (Q := Good) ?_ fun s₃ hgood => ⟨fun _ => hgood, fun hno =>
    absurd hno.symm Bool.false_ne_true⟩
  refine good_afterRun_changed (s := { s₁ with
    runCapabilities
    run := some { run with result := none, finished := false } }) hprogress ?_ hheld₁ rfl
    (fun hno => hno) hended ?_
  · refine consistent_setRun h₁ fun run' hrun' => ?_
    obtain rfl := Option.some.inj hrun'
    exact ⟨rfl, id, request, hactive₁, hrequest, fun hno => absurd hno Bool.false_ne_true⟩
  · refine hshallow.imp_right fun hnone => ?_
    show s₁.pendingAction = none
    rw [hidles.state]
    exact hnone

theorem mild_configValue (configValue : Option Bytes) :
    Mild fun request => { request with configValue } :=
  ⟨fun _ => rfl, fun _ => rfl, fun _ => rfl, fun _ => rfl, fun _ => rfl, fun _ h => h,
    fun _ => rfl, fun _ => rfl, fun _ => rfl⟩

/-- A helper is started with the active request, which may start. -/
theorem good_startHelper (hprogress : ProgressesGood depth) (h : s.Consistent) (hheld : s.Held)
    (hactive : s.activeRequest = some id) (hstart : s.MayStart id request) (hrun : s.run = none)
    (hshallow : s.Shallow depth) :
    Keeps (s.startHelper (helperRunnerChangedCb (progressPendingAction depth)) id) Good := by
  unfold startHelper
  refine Contract.Maintains.bind (Q := fun s₁ => s₁ = s)
    (Contract.maintains_callout.mpr ⟨⟨h, request, hstart⟩, fun s₁ hs₁ => hs₁.2⟩) fun s₁ hsame => ?_
  rw [hsame, hstart.found]
  dsimp only
  obtain ⟨request', hrequest', hdone⟩ := h.holds.active id hactive
  obtain rfl : request' = request := Option.some.inj (hrequest'.symm.trans hstart.found)
  have hsane := sane_modify h.toSane id (mild_configValue none)
  have hmodified : (s.modify id fun request => { request with configValue := none }).requests id =
      some { request' with configValue := none } := by
    show (if id = id then (s.requests id).map _ else _) = _
    rw [if_pos rfl, hrequest']
    rfl
  have hother (id' : ℕ) (hid' : id' ≠ id) : (s.modify id fun request =>
      { request with configValue := none }).requests id' = s.requests id' := if_neg hid'
  have hfree : s.pendingAction ≠ some id := fun haction => (h.holds.action id haction).1 hactive
  have h₁ : (s.modify id fun request => { request with configValue := none }).Consistent := by
    refine ⟨hsane, fun id' request'' haction hrequest'' => ?_, h.stopped⟩
    have hid' : id' ≠ id := by
      rintro rfl
      exact hfree haction
    exact (h.waits id' request'' haction ((hother id' hid').symm.trans hrequest'')).congr rfl rfl
      rfl
  have hheld₁ : (s.modify id fun request => { request with configValue := none }).Held := by
    intro id' request'' hrequest''
    by_cases hid' : id' = id
    · exact .inr (.inl (hid' ▸ hactive))
    · exact hheld id' request'' ((hother id' hid').symm.trans hrequest'')
  refine (keeps_helperRunnerStart hprogress h₁ hheld₁ hactive hshallow _ _).bind ?_
  rintro ⟨started, s₂⟩ ⟨hgood, hidles⟩
  dsimp only at hgood hidles ⊢
  split
  · rename_i hstarted
    exact hgood hstarted
  rename_i hstarted
  have hidles := hidles (Bool.eq_false_iff.mpr hstarted)
  have h₂ := hidles.consistent h₁
  have hcongr {α : Type} (f : ServiceState → α) := congrArg f hidles.state
  have hrequest₂ := (congrFun (hcongr ServiceState.requests) id).trans hmodified
  have hrun₂ : s₂.run = none := (hcongr ServiceState.run).trans hrun
  refine (keeps_replyFree h₂.toSane hrequest₂ (no_call_of_done h₂.toSane hrequest₂ hdone)
    (fun _ => hrun₂) _).mono ?_
  rintro s₃ ⟨hsane₃, hfreed⟩
  refine ⟨hfreed.of_consistent hsane₃ h₂, ?_, hfreed.held fun id' request'' _ =>
    hidles.cancels.held hheld₁ id' request''⟩
  rw [hfreed.activeRequest, hfreed.run, hrun₂,
    if_pos ((hcongr ServiceState.activeRequest).trans hactive)]
  rfl

/-- The action that waits is freed with a reply. -/
theorem good_replyFree_waiting (h : s.Good) (haction : s.pendingAction = some id)
    (hrequest : s.requests id = some request) (hdone : request.authorizationPending = false)
    (reply : ServiceReply) : Keeps ((s.sendReply id reply).requestFree id) Good := by
  obtain ⟨hactive, -⟩ := h.1.holds.action id haction
  refine (keeps_replyFree h.1.toSane hrequest (no_call_of_done h.1.toSane hrequest hdone)
    (fun hactive' => absurd hactive' hactive) reply).mono ?_
  rintro s₁ ⟨hsane, hfreed⟩
  refine ⟨hfreed.of_consistent hsane h.1, ?_, hfreed.held fun id' request' _ =>
    h.2.held id' request'⟩
  rw [hfreed.activeRequest, hfreed.run, if_neg hactive]
  exact h.2.running

/-- The action that waits becomes the active request. -/
theorem consistent_activate (h : s.Consistent) (haction : s.pendingAction = some id)
    (hrequest : s.requests id = some request) (hdone : request.authorizationPending = false)
    (hrun : s.run = none) : ({ s with
      pendingAction := none
      timers := s.timers.filter (· ≠ (id, RequestTimer.preempt))
      activeRequest := some id } : AwgService).Consistent := by
  have hsane := h.toSane
  refine ⟨?_, fun id' request' hno => absurd hno (Option.some_ne_none _).symm, fun _ => rfl⟩
  constructor <;> constructor <;> simp only <;> grind [replyCount]

/-- The action that is pending is progressed, and only where it may be. -/
theorem progressesGood (depth : ℕ) : ProgressesGood depth := by
  induction depth with
  | zero =>
    intro s hgood hshallow
    rw [progressPendingAction_none (hshallow.resolve_left fun h => h rfl)]
    exact hgood
  | succ depth ih =>
    intro s hgood _
    unfold progressPendingAction
    split
    · exact hgood
    rename_i id haction
    obtain ⟨-, request, hrequest⟩ := hgood.1.holds.action id haction
    rw [hrequest]
    dsimp only
    split
    · exact hgood
    rename_i hauthorized
    have hdone : request.authorizationPending = false := Bool.eq_false_iff.mpr hauthorized
    split
    · exact good_replyFree_waiting hgood haction hrequest hdone _
    refine (keeps_monotonicMsec s).bind ?_
    rintro _ ⟨clock, rfl⟩
    split
    · exact good_replyFree_waiting (s := { s with clock }) hgood haction hrequest hdone _
    have hbusy : Keeps ({ s with clock } : AwgService).actionMustWait fun busy =>
        s.toServiceState = busy.2.toServiceState ∧ (busy.1 = false → s.activeRequest = none) := by
      unfold actionMustWait
      split
      · exact ⟨rfl, fun hno => absurd hno.symm Bool.false_ne_true⟩
      · rename_i hnone
        exact (keeps_isBusy _).mono fun busy h => ⟨h.1.state.symm, fun _ =>
          Option.not_isSome_iff_eq_none.mp hnone⟩
    refine hbusy.bind ?_
    rintro ⟨busy, s₁⟩ ⟨hstate, hidle⟩
    dsimp only at hstate hidle ⊢
    have hgood₁ : s₁.Good := by
      unfold Good
      rw [← hstate]
      exact hgood
    have haction₁ : s₁.pendingAction = some id := by rw [← hstate]; exact haction
    have hrequest₁ : s₁.requests id = some request := by rw [← hstate]; exact hrequest
    split
    · exact hgood₁
    rename_i hfree
    have hactive₁ : s₁.activeRequest = none := by
      rw [← hstate]
      exact hidle (Bool.eq_false_iff.mpr hfree)
    have hrun₁ : s₁.run = none := by
      have hrunning := hgood₁.2.running
      rw [hactive₁] at hrunning
      exact Option.not_isSome_iff_eq_none.mp (by rw [← hrunning]; exact Bool.false_ne_true)
    refine (keeps_monotonicMsec s₁).bind ?_
    rintro _ ⟨clock', rfl⟩
    split
    · exact good_replyFree_waiting (s := { s₁ with clock := clock' }) hgood₁ haction₁ hrequest₁
        hdone _
    rename_i hintime
    have hwaits := hgood₁.1.waits id request haction₁ hrequest₁
    refine good_startHelper ih (s := { s₁ with
      clock := clock'
      pendingAction := none
      timers := s₁.timers.filter (· ≠ (id, RequestTimer.preempt))
      activeRequest := some id }) (consistent_activate hgood₁.1 haction₁ hrequest₁ hdone hrun₁)
      ?_ rfl (show MayStart _ id request from
        ⟨hrequest₁, ?_, hwaits.unsent, hwaits.current, fun _ => ?_⟩) hrun₁ (.inr rfl)
    · intro id' request' hrequest'
      rcases hgood₁.2.held id' request' hrequest' with hpending | hactive | haction'
      · exact .inl hpending
      · exact absurd (hactive₁.symm.trans hactive) (Option.some_ne_none _).symm
      · exact .inr (.inl (haction₁.symm.trans haction'))
    · obtain ⟨h1, h2, h3, h4⟩ := hwaits.granted hdone
      exact ⟨h1, h2, h3, h4⟩
    · exact not_le.mp hintime

end AwgService

end NmSidebar
