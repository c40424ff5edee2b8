import NmSidebar.Service.RunnerCallbacks

/-!
# Requests in authorization

The replies of polkit, the timers and the methods of the service: a request is admitted, goes
through its authorization, and is freed, refused or handed to the runner.
-/

namespace NmSidebar

open Text Effects

namespace AwgService

open ServiceState

variable {s s' : AwgService} {id : ℕ} {request : AwgServiceRequest}

/-! ## Stopping a run -/

theorem good_helperRunnerStop (h : s.Good) (reason : AwgHelperRun.HelperStopReason) :
    Keeps (s.helperRunnerStop reason) Good := by
  unfold helperRunnerStop
  split
  · exact h
  rename_i before hrun
  obtain ⟨hopen, -⟩ := h.1.holds.run before hrun
  refine (keeps_onKernel (AwgHelperRun.advances_runnerStop _ reason)).bind fun run honward => ?_
  have hfinished : run.finished = false := honward.finished.trans hopen
  refine good_afterRun h.1 h.2.held hrun (fun hresult => hresult)
    (fun hno => absurd (hfinished.symm.trans hno) Bool.false_ne_true)
    (fun s₁ h₁ _ _ => ⟨h₁, .refl s₁, .inl rfl⟩)
    (fun hno => absurd (hfinished.symm.trans hno) Bool.false_ne_true)

/-- A tick of the run. -/
theorem good_helperPollCb (h : s.Good) (rounds : ℕ) : Keeps (s.helperPollCb rounds) Good := by
  unfold helperPollCb
  split
  · exact h
  rename_i before hrun
  obtain ⟨hopen, -⟩ := h.1.holds.run before hrun
  refine (keeps_onKernel (AwgHelperRun.progresses_helperPollCb _ rounds)).bind fun ran hran => ?_
  split
  · exact keeps_hang
  rename_i run
  exact good_afterRun_changed (progressesGood 1) h.1 h.2.held hrun (fun hresult => hresult)
    (fun hfinished => (hran run rfl).isSome hopen hfinished) (.inl one_ne_zero)

/-- The children of the runner are reaped. -/
theorem good_reapChildrenCb (h : s.Good) : Keeps s.reapChildrenCb Good := by
  unfold reapChildrenCb
  refine (keeps_onKernel (Prog.returns_any _)).bind fun releasedGroups _ => ?_
  refine (keeps_onKernel (Prog.returns_any _)).bind fun pendingChildReaps _ => ?_
  refine good_changed (s := { s with
    runner := { s.runner with releasedGroups, pendingChildReaps } }) (progressesGood 1) h.1 h.2.held
    (fun hrun id request hactive => ?_) (.inl one_ne_zero)
  -- a request is active only while its run goes on
  have hrunning := h.2.running
  rw [show s.run = none from hrun, show s.activeRequest = some id from hactive] at hrunning
  exact absurd hrunning Bool.noConfusion

/-! ## Requests in authorization -/

/-- What `authorization_is_current` has found of a request. -/
structure Current (s : AwgService) (request : AwgServiceRequest) : Prop where
  pending : request.authorizationPending = true
  unsent : request.replySent = false
  running : s.stopping = false
  ready : s.policyReady = true
  generation : request.authorizationGeneration = s.policyGeneration
  uncancelled : request.cancelled = false

theorem keeps_authorizationIsCurrent (s : AwgService) (request : AwgServiceRequest) :
    Keeps (s.authorizationIsCurrent request) fun current =>
      (∃ clock, current.2 = { s with clock }) ∧ (current.1 = true → s.Current request) := by
  unfold authorizationIsCurrent
  split
  · rename_i h
    refine (keeps_monotonicMsec s).bind ?_
    rintro _ ⟨clock, rfl⟩
    exact ⟨⟨clock, rfl⟩, fun _ => ⟨h.1, h.2.1, h.2.2.1, h.2.2.2.1, h.2.2.2.2.1, h.2.2.2.2.2⟩⟩
  · exact ⟨⟨s.clock, rfl⟩, fun hno => absurd hno Bool.false_ne_true⟩

/-- A request that is not active, and for which nothing is awaited, is freed with a reply. -/
theorem good_replyFree (h : s.Consistent) (hrunning : s.activeRequest.isSome = s.run.isSome)
    (hheld : ∀ id' request', id' ≠ id → s.requests id' = some request' →
      request'.authorizationPending = true ∨ s.activeRequest = some id' ∨
        s.pendingAction = some id') (hrequest : s.requests id = some request)
    (hcalls : ∀ call, (id, call) ∉ s.calls) (hactive : s.activeRequest ≠ some id)
    (reply : ServiceReply) : Keeps ((s.sendReply id reply).requestFree id) Good := by
  refine (keeps_replyFree h.toSane hrequest hcalls (fun hactive' => absurd hactive' hactive)
    reply).mono ?_
  rintro s₁ ⟨hsane, hfreed⟩
  refine ⟨hfreed.of_consistent hsane h, ?_, hfreed.held hheld⟩
  rw [hfreed.activeRequest, hfreed.run, if_neg hactive]
  exact hrunning

/-- A request in authorization is not active. -/
theorem not_active_of_pending (h : s.Sane) (hrequest : s.requests id = some request)
    (hpending : request.authorizationPending = true) : s.activeRequest ≠ some id := by
  intro hactive
  obtain ⟨request', hrequest', hdone⟩ := h.holds.active id hactive
  obtain rfl : request' = request := Option.some.inj (hrequest'.symm.trans hrequest)
  exact Bool.false_ne_true (hdone.symm.trans hpending)

theorem good_rejectAuthorization (h : s.Good) (hrequest : s.requests id = some request)
    (hpending : request.authorizationPending = true) (hcalls : ∀ call, (id, call) ∉ s.calls) :
    Keeps (s.rejectAuthorization id) Good := by
  refine (good_replyFree h.1 h.2.running (fun id' request' _ => h.2.held id' request') hrequest
    hcalls (not_active_of_pending h.1.toSane hrequest hpending) _).bind fun s₁ h₁ => ?_
  exact progressesGood 1 s₁ h₁ (.inl one_ne_zero)

theorem mild_preemptDeadline (preemptDeadline : ℤ) :
    Mild fun request => { request with preemptDeadline } :=
  ⟨fun _ => rfl, fun _ => rfl, fun _ => rfl, fun _ => rfl, fun _ => rfl, fun _ h => h,
    fun _ => rfl, fun _ => rfl, fun _ => rfl⟩

/-- The action that waits gets a deadline and a timer. -/
theorem good_setPreempt (h : s.Good) (haction : s.pendingAction = some id)
    (hrequest : s.requests id = some request) (hdone : request.authorizationPending = false)
    (preemptDeadline : ℤ) : ({ s.modify id fun request => { request with preemptDeadline } with
      timers := (id, .preempt) :: s.timers } : AwgService).Good := by
  have hsane := sane_modify h.1.toSane id (mild_preemptDeadline preemptDeadline)
  have hnow : (s.modify id fun request => { request with preemptDeadline }).requests id =
      some { request with preemptDeadline } := by
    show (if id = id then (s.requests id).map _ else _) = _
    rw [if_pos rfl, hrequest]
    rfl
  have hother (id' : ℕ) (hid' : id' ≠ id) : (s.modify id fun request =>
      { request with preemptDeadline }).requests id' = s.requests id' := if_neg hid'
  have hidle : id ∉ s.pendingRequests := fun hmem => by
    obtain ⟨request', hrequest', hpending⟩ := (h.1.registers.pending id).mp hmem
    obtain rfl : request' = request := Option.some.inj (hrequest'.symm.trans hrequest)
    exact Bool.false_ne_true (hdone.symm.trans hpending)
  refine ⟨⟨?_, fun id' request' haction' hrequest' => ?_, h.1.stopped⟩, h.2.running,
    fun id' request' hrequest' => ?_⟩
  · obtain ⟨hregisters, ⟨h1, h2, h3, h4, h5⟩, hanswers, hholds⟩ := hsane
    obtain ⟨h6, h7, h8, h9, h10, h11, h12, h13, h14⟩ := hregisters
    obtain ⟨h15, h16, h17⟩ := hanswers
    obtain ⟨h18, h19, h20, h21, h22⟩ := hholds
    refine ⟨⟨h6, h7, h8, h9, h10, h11, h12, h13, h14⟩, ⟨h1, h2, h3, fun id' hmem => ?_,
      fun id' hmem => ?_⟩, ⟨h15, h16, h17⟩, ⟨h18, h19, h20, h21, h22⟩⟩
    · rcases List.mem_cons.mp hmem with heq | hmem
      · cases heq
      · exact h4 id' hmem
    · rcases List.mem_cons.mp hmem with heq | hmem
      · obtain rfl : id' = id := congrArg Prod.fst heq
        exact ⟨haction, hidle⟩
      · exact h5 id' hmem
  · obtain rfl : id = id' := Option.some.inj (haction.symm.trans haction')
    obtain rfl := Option.some.inj (hrequest'.symm.trans hnow)
    obtain ⟨h1, h2, h3, h4⟩ := h.1.waits id request haction hrequest
    refine ⟨h1, h2, h3, fun hdone => ?_⟩
    obtain ⟨h1, h2, h3, h4⟩ := h4 hdone
    exact ⟨h1, h2, h3, h4⟩
  · by_cases hid' : id' = id
    · exact .inr (.inr (hid' ▸ haction))
    · exact h.2.held id' request' ((hother id' hid').symm.trans hrequest')

/-- Where requests in authorization are cancelled, the service is as it is between callbacks. -/
theorem Cancelled.good {ids : List ℕ} (h : s.Cancelled ids s') (hs : s.Good) (hsane : s'.Sane)
    (hids : ∀ id ∈ ids, id ∈ s.pendingRequests) : s'.Good := by
  have hsettled := (h.cancels hs.1.toSane hids).settled hs.2
  have hkept {id : ℕ} (haction : s'.pendingAction = some id) :
      id ∉ ids ∧ s.pendingAction = some id := by
    cases haction' : s.pendingAction with
    | none => exact absurd ((h.none haction').symm.trans haction) (Option.some_ne_none _).symm
    | some id' =>
      have hnow := (h.action id' haction').symm.trans haction
      split at hnow
      · exact absurd hnow (Option.some_ne_none _).symm
      · rename_i hmem
        obtain rfl := Option.some.inj hnow
        exact ⟨hmem, rfl⟩
  refine ⟨⟨hsane, fun id request haction hrequest => ?_, fun hstopping => ?_⟩, hsettled⟩
  · obtain ⟨hmem, haction'⟩ := hkept haction
    have hwaits := hs.1.waits id request haction' ((h.other id hmem).symm.trans hrequest)
    obtain ⟨requests, replies, pendingAction, hrest⟩ := h.rest
    rw [hrest]
    exact hwaits.congr rfl rfl rfl
  · obtain ⟨requests, replies, pendingAction, hrest⟩ := h.rest
    rw [hrest] at hstopping
    exact h.none (hs.1.stopped hstopping)

/-- The action that was authorized preempts an inventory and waits. -/
theorem good_continuePendingAction (h : s.Good) (haction : s.pendingAction = some id)
    (hrequest : s.requests id = some request) (hdone : request.authorizationPending = false) :
    Keeps (s.continuePendingAction id) Good := by
  unfold continuePendingAction
  dsimp only
  have hids (id' : ℕ) (hid' : id' ∈ s.pendingRequests.filter fun id' =>
      (s.requests id').any (·.profileReport)) : id' ∈ s.pendingRequests :=
    (List.mem_filter.mp hid').1
  obtain ⟨hsane, hcancelled⟩ := cancelAuthorizations_cancelled h.1.toSane errorBusy
    (ascii "AmneziaWG inventory was superseded by a user action") _ hids
  have hidle : id ∉ s.pendingRequests.filter fun id' =>
      (s.requests id').any (·.profileReport) := fun hmem => by
    obtain ⟨request', hrequest', hpending⟩ := (h.1.registers.pending id).mp (hids id hmem)
    obtain rfl : request' = request := Option.some.inj (hrequest'.symm.trans hrequest)
    exact Bool.false_ne_true (hdone.symm.trans hpending)
  have haction₁ := (hcancelled.action id haction).trans (if_neg hidle)
  have hrequest₁ := (hcancelled.other id hidle).trans hrequest
  have hgood := hcancelled.good h hsane hids
  generalize List.foldl (fun s id' => cancelAuthorization s errorBusy
    (ascii "AmneziaWG inventory was superseded by a user action") id') s
      (s.pendingRequests.filter fun id' => (s.requests id').any (·.profileReport)) = s₁ at *
  refine (keeps_monotonicMsec s₁).bind ?_
  rintro _ ⟨clock, rfl⟩
  have hset := good_setPreempt (s := { s₁ with clock }) hgood haction₁ hrequest₁ hdone
    (deadlineCap clock maxInt64 preemptTimeoutMsec)
  have hpreempted : Keeps (preemptActive { ({ s₁ with clock } : AwgService).modify id fun request =>
      { request with preemptDeadline := deadlineCap clock maxInt64 preemptTimeoutMsec } with
      timers := (id, .preempt) :: s₁.timers }) Good := by
    unfold preemptActive
    split
    · exact good_helperRunnerStop hset .preempted
    · exact hset
  exact hpreempted.bind fun s₂ h₂ => progressesGood 1 s₂ h₂ (.inl one_ne_zero)

/-! ## Requests in authorization -/

/-- A call that returned is awaited no more, and it was awaited for a request in authorization. -/
theorem good_eraseCall (h : s.Good) {call : RequestCall} (hcall : (id, call) ∈ s.calls) :
    ({ s with calls := s.calls.erase (id, call) } : AwgService).Good ∧
      (∀ call', (id, call') ∉ s.calls.erase (id, call)) ∧
        ∃ request, s.requests id = some request ∧ request.authorizationPending = true := by
  have hnodup := h.1.awaits.nodup
  have hcalls : s.calls.Nodup := List.Nodup.of_map Prod.fst hnodup
  have hgone (call' : RequestCall) : (id, call') ∉ s.calls.erase (id, call) := by
    intro hmem
    obtain ⟨hne, hmem⟩ := (List.Nodup.mem_erase_iff hcalls).mp hmem
    exact hne (List.inj_on_of_nodup_map hnodup hmem hcall rfl)
  refine ⟨⟨⟨?_, fun id' request' haction hrequest' =>
    (h.1.waits id' request' haction hrequest').congr rfl rfl rfl, h.1.stopped⟩, h.2.running,
    h.2.held⟩, hgone, (h.1.registers.pending id).mp (h.1.awaits.call id call hcall)⟩
  obtain ⟨hregisters, ⟨h1, h2, h3, h4, h5⟩, hanswers, hholds⟩ := h.1.toSane
  obtain ⟨h6, h7, h8, h9, h10, h11, h12, h13, h14⟩ := hregisters
  obtain ⟨h15, h16, h17⟩ := hanswers
  obtain ⟨h18, h19, h20, h21, h22⟩ := hholds
  refine ⟨⟨h6, h7, h8, h9, h10, h11, h12, h13, h14⟩, ⟨?_, fun id' call' hmem => ?_,
    fun id' request' hmem => ?_, h4, h5⟩, ⟨h15, h16, h17⟩, ⟨h18, h19, h20, h21, h22⟩⟩
  · exact h1.sublist ((List.erase_sublist).map Prod.fst)
  · exact h2 id' call' (List.mem_of_mem_erase hmem)
  · exact h3 id' request' (List.mem_of_mem_erase hmem)

/-- The request that is no more in authorization, and the pending action, may be what they are. -/
theorem consistent_finishAuthorization (h : s.Consistent) (hrequest : s.requests id = some request)
    (hcurrent : s.Current request)
    (hpolicy : request.policyBegun = some request.authorizationGeneration)
    (hcalls : ∀ call, (id, call) ∉ s.calls) : (s.finishAuthorization id).Consistent := by
  obtain ⟨pendingAuthorizations, timers, hfinished⟩ := finishAuthorization_eq hrequest h.registers
  have hsane := sane_finishAuthorization h.toSane hcalls
  rw [hfinished] at hsane ⊢
  refine ⟨hsane, fun id' request' haction hrequest' => ?_, h.stopped⟩
  have haction : s.pendingAction = some id' := haction
  by_cases hid : id' = id
  · subst hid
    obtain rfl := Option.some.inj (hrequest'.symm.trans (if_pos rfl))
    obtain ⟨h1, h2, h3, -⟩ := h.waits id' request haction hrequest
    refine ⟨h1, h2, h3, fun _ => ⟨hcurrent.ready, hcurrent.running, ?_, ?_⟩⟩
    · exact (h.registers.begun id' request hrequest).trans hcurrent.generation
    · exact hpolicy.trans (congrArg some hcurrent.generation)
  · have hsame : s.requests id' = some request' := (if_neg hid).symm.trans hrequest'
    exact (h.waits id' request' haction hsame).congr rfl rfl rfl

/-- A request that may not go on is refused. -/
theorem good_refuseAuthorized (h : s.Consistent)
    (hrunning : s.activeRequest.isSome = s.run.isSome)
    (hheld : ∀ id' request', id' ≠ id → s.requests id' = some request' →
      request'.authorizationPending = true ∨ s.activeRequest = some id' ∨
        s.pendingAction = some id') (hrequest : s.requests id = some request)
    (hcalls : ∀ call, (id, call) ∉ s.calls) (hactive : s.activeRequest ≠ some id) :
    Keeps (s.refuseAuthorized id) Good :=
  (good_replyFree h hrunning hheld hrequest hcalls hactive _).bind fun s₁ h₁ =>
    progressesGood 1 s₁ h₁ (.inl one_ne_zero)

/-- An inventory that was authorized becomes the active request. -/
theorem consistent_activateInventory (h : s.Consistent) (hrequest : s.requests id = some request)
    (hdone : request.authorizationPending = false) (haction : s.pendingAction ≠ some id)
    (hrun : s.run = none) : ({ s with activeRequest := some id } : AwgService).Consistent := by
  have hsane := h.toSane
  refine ⟨?_, fun id' request' haction' hrequest' =>
    (h.waits id' request' haction' hrequest').congr rfl rfl rfl, h.stopped⟩
  constructor <;> constructor <;> simp only <;> grind [replyCount]

/-- The request that was authorized goes on. -/
theorem good_continueAuthorizedRequest (h : s.Good) (hrequest : s.requests id = some request)
    (hcurrent : s.Current request)
    (hpolicy : request.policyBegun = some request.authorizationGeneration)
    (hcalls : ∀ call, (id, call) ∉ s.calls) : Keeps (s.continueAuthorizedRequest id) Good := by
  have hconsistent := consistent_finishAuthorization h.1 hrequest hcurrent hpolicy hcalls
  have hinactive := not_active_of_pending h.1.toSane hrequest hcurrent.pending
  -- an action that is in authorization is the pending one
  have hclaimed := h.1.holds.claimed id request hrequest
  have hbegun := (h.1.registers.begun id request hrequest).trans hcurrent.generation
  obtain ⟨pendingAuthorizations, timers, hfinished⟩ :=
    finishAuthorization_eq hrequest h.1.registers
  unfold continueAuthorizedRequest
  dsimp only
  rw [hfinished] at hconsistent ⊢
  have hheld (id' : ℕ) (request' : AwgServiceRequest) (hid' : id' ≠ id) (hrequest' :
      (if id' = id then some { request with authorizationPending := false } else
        s.requests id') = some request') : request'.authorizationPending = true ∨
          s.activeRequest = some id' ∨ s.pendingAction = some id' :=
    h.2.held id' request' ((if_neg hid').symm.trans hrequest')
  generalize hs₁ : ({ s with
    requests := fun id' => if id' = id then some { request with authorizationPending := false }
      else s.requests id'
    pendingRequests := s.pendingRequests.filter (· ≠ id)
    pendingAuthorizations, timers } : AwgService) = s₁ at hconsistent ⊢
  have hrequests₁ : s₁.requests = fun id' => if id' = id then
    some { request with authorizationPending := false } else s.requests id' := by rw [← hs₁]
  have hrequest₁ : s₁.requests id = some { request with authorizationPending := false } := by
    rw [hrequests₁]
    exact if_pos rfl
  have hcalls₁ : s₁.calls = s.calls := by rw [← hs₁]
  have hactive₁ : s₁.activeRequest = s.activeRequest := by rw [← hs₁]
  have haction₁ : s₁.pendingAction = s.pendingAction := by rw [← hs₁]
  have hrun₁ : s₁.run = s.run := by rw [← hs₁]
  have hgranted₁ : s₁.Granted { request with authorizationPending := false } := by
    rw [← hs₁]
    exact ⟨hcurrent.ready, hcurrent.running, hbegun,
      hpolicy.trans (congrArg some hcurrent.generation)⟩
  have hrunning₁ : s₁.activeRequest.isSome = s₁.run.isSome := by
    rw [hactive₁, hrun₁]
    exact h.2.running
  have hheld₁ : ∀ id' request', id' ≠ id → s₁.requests id' = some request' →
      request'.authorizationPending = true ∨ s₁.activeRequest = some id' ∨
        s₁.pendingAction = some id' := by
    rw [hrequests₁, hactive₁, haction₁]
    exact hheld
  clear hheld hfinished hs₁ hrequests₁
  have hrefuse : Keeps (s₁.refuseAuthorized id) Good :=
    good_refuseAuthorized hconsistent hrunning₁ hheld₁ hrequest₁ (by rw [hcalls₁]; exact hcalls)
      (by rw [hactive₁]; exact hinactive)
  split
  · exact hrefuse
  rename_i hyields
  split
  · rename_i haction
    refine good_continuePendingAction ⟨hconsistent, hrunning₁, fun id' request' hrequest' => ?_⟩
      haction hrequest₁ rfl
    by_cases hid' : id' = id
    · exact .inr (.inr (hid' ▸ haction))
    · exact hheld₁ id' request' hid' hrequest'
  rename_i hinventory
  have hidle : s₁.activeRequest = none := by
    have hactiveYields : s₁.activeYields id = true :=
      Bool.eq_true_of_not_eq_false fun hno => hyields (.inr (.inl hno))
    unfold activeYields at hactiveYields
    split at hactiveYields
    · assumption
    · exact absurd (of_decide_eq_true (Bool.and_eq_true_iff.mp hactiveYields).1) hinventory
  have hfree : s₁.run = none := by
    rw [hidle] at hrunning₁
    exact Option.not_isSome_iff_eq_none.mp (by rw [← hrunning₁]; exact Bool.false_ne_true)
  refine (keeps_isBusy s₁).bind ?_
  rintro ⟨busy, s₂⟩ ⟨hidles, -⟩
  dsimp only at hidles ⊢
  have hstate := hidles.state
  have hclock := hidles.clock
  have hgranted₂ : s₂.Granted { request with authorizationPending := false } := by
    rw [hstate]
    exact hgranted₁
  have hconsistent₂ := hidles.consistent hconsistent
  rw [← hstate] at hrunning₁ hheld₁ hrequest₁ hcalls₁ hactive₁ hinventory hidle hfree
  have hcalls₂ (call : RequestCall) : (id, call) ∉ s₂.calls := by
    rw [hcalls₁]
    exact hcalls call
  split
  · exact good_refuseAuthorized hconsistent₂ hrunning₁ hheld₁ hrequest₁ hcalls₂
      (by rw [hactive₁]; exact hinactive)
  refine Contract.Maintains.bind (good_startHelper (progressesGood 1)
    (s := { s₂ with activeRequest := some id })
    (consistent_activateInventory hconsistent₂ hrequest₁ rfl hinventory hfree)
    (fun id' request' hrequest' => ?_) rfl
    ⟨hrequest₁, ⟨hgranted₂.ready, hgranted₂.running, hgranted₂.check, hgranted₂.policy⟩,
      hcurrent.unsent, hcurrent.uncancelled, fun hreport => ?_⟩ hfree (.inl one_ne_zero))
    fun s₃ h₃ => progressesGood 1 s₃ h₃ (.inl one_ne_zero)
  · by_cases hid' : id' = id
    · exact .inr (.inl (congrArg some hid'.symm))
    · rcases hheld₁ id' request' hid' hrequest' with hpending | hactive | haction
      · exact .inl hpending
      · exact absurd (hidle.symm.trans hactive) (Option.some_ne_none _).symm
      · exact .inr (.inr haction)
  · refine absurd ?_ hinventory
    rw [hstate, haction₁]
    exact hclaimed hreport hcurrent.pending hcurrent.uncancelled

end AwgService

end NmSidebar
