import NmSidebar.Service.Consistency

/-!
# Cancelled authorizations

Where the policy changes, turns out to be unsafe or the service stops, every request in
authorization is answered and cancelled, and no action waits any more.
-/

namespace NmSidebar

open Text Effects

namespace AwgService

open ServiceState

variable {s s' s'' : AwgService} {id : ℕ} {request : AwgServiceRequest}

/-! ## Cancelling -/

/-- The authorizations of the requests of a list are cancelled, and all else is as before. -/
structure Cancelled (s : AwgService) (ids : List ℕ) (s' : AwgService) : Prop where
  rest : ∃ requests replies pendingAction, s' = { s with requests, replies, pendingAction }
  other : ∀ id, id ∉ ids → s'.requests id = s.requests id
  request : ∀ id ∈ ids, ∀ request, s.requests id = some request →
    s'.requests id = some { request with replySent := true, cancelled := true }
  action : ∀ id, s.pendingAction = some id → s'.pendingAction = if id ∈ ids then none else some id
  none : s.pendingAction = none → s'.pendingAction = none

theorem cancelAuthorization_cancelled (s : AwgService) (name message : Bytes) (id : ℕ) :
    s.Cancelled [id] (s.cancelAuthorization name message id) := by
  have hreplied := sendReply_replied s id (.error name message)
  obtain ⟨requests, replies, hrest⟩ := hreplied.rest
  have hother := hreplied.other
  have hrequest := hreplied.request
  rw [cancelAuthorization_eq]
  unfold replyError
  rw [hrest] at hother hrequest ⊢
  clear hrest hreplied
  refine ⟨⟨_, _, _, rfl⟩, fun id' hid' => ?_, fun id' hid' request' hrequest' => ?_,
    fun id' haction => ?_, fun hnone => ?_⟩
  · rw [List.mem_singleton] at hid'
    exact (if_neg hid').trans (hother id' hid')
  · rw [List.mem_singleton] at hid'
    subst hid'
    have hnow : requests id' = some { request' with replySent := true } :=
      hrequest request' hrequest'
    show (if id' = id' then (requests id').map _ else _) = _
    rw [if_pos rfl, hnow]
    rfl
  · show (if s.pendingAction = some id then _ else s.pendingAction) = _
    grind
  · show (if s.pendingAction = some id then _ else s.pendingAction) = _
    grind

/-- The cancelled requests of two lists, one after the other. -/
theorem Cancelled.append {ids ids' : List ℕ} (h : s.Cancelled ids s') (h' : s'.Cancelled ids' s'') :
    s.Cancelled (ids ++ ids') s'' := by
  obtain ⟨requests, replies, pendingAction, rfl⟩ := h.rest
  obtain ⟨requests', replies', pendingAction', rfl⟩ := h'.rest
  refine ⟨⟨_, _, _, rfl⟩, fun id hid => ?_, fun id hid request hrequest => ?_, fun id haction => ?_,
    fun hnone => ?_⟩
  · rw [List.mem_append, not_or] at hid
    exact (h'.other id hid.2).trans (h.other id hid.1)
  · by_cases hfirst : id ∈ ids
    · have hnow := h.request id hfirst request hrequest
      by_cases hsecond : id ∈ ids'
      · exact h'.request id hsecond { request with replySent := true, cancelled := true } hnow
      · exact (h'.other id hsecond).trans hnow
    · have hsecond : id ∈ ids' := (List.mem_append.mp hid).resolve_left hfirst
      exact h'.request id hsecond request ((h.other id hfirst).trans hrequest)
  · have hfirst := h.action id haction
    split at hfirst
    · rename_i hmem
      rw [if_pos (List.mem_append_left ids' hmem)]
      exact h'.none hfirst
    · rename_i hmem
      rw [h'.action id hfirst]
      grind
  · exact h'.none (h.none hnone)

/-- Any requests in authorization are cancelled. -/
theorem cancelAuthorizations_cancelled (h : s.Sane) (name message : Bytes) (ids : List ℕ)
    (hids : ∀ id ∈ ids, id ∈ s.pendingRequests) :
    (ids.foldl (fun s id => s.cancelAuthorization name message id) s).Sane ∧
      s.Cancelled ids (ids.foldl (fun s id => s.cancelAuthorization name message id) s) := by
  induction ids generalizing s with
  | nil =>
    exact ⟨h, ⟨_, _, _, rfl⟩, fun _ _ => rfl, fun _ hid => absurd hid List.not_mem_nil,
      fun _ haction => haction, fun hnone => hnone⟩
  | cons id ids ih =>
    have hcancelled := cancelAuthorization_cancelled s name message id
    have hsane := sane_cancelAuthorization h (hids id List.mem_cons_self) name message
    obtain ⟨requests, replies, pendingAction, hrest⟩ := hcancelled.rest
    obtain ⟨hsane', hcancelled'⟩ := ih hsane fun id' hid' => by
      rw [hrest]
      exact hids id' (List.mem_cons_of_mem id hid')
    exact ⟨hsane', hcancelled.append hcancelled'⟩

/-- Requests in authorization stay in authorization when they are cancelled. -/
theorem Cancelled.held {ids : List ℕ} (h : s.Cancelled ids s') (hs : s.Registers)
    (hids : ∀ id ∈ ids, id ∈ s.pendingRequests) (hheld : s.Held) : s'.Held := by
  intro id request' hrequest'
  obtain ⟨requests, replies, pendingAction, hrest⟩ := h.rest
  by_cases hmem : id ∈ ids
  · obtain ⟨request, hrequest, hpending⟩ := (hs.pending id).mp (hids id hmem)
    have hnow := h.request id hmem request hrequest
    obtain rfl := Option.some.inj (hrequest'.symm.trans hnow)
    exact .inl hpending
  · have hrequest := (h.other id hmem).symm.trans hrequest'
    rcases hheld id request' hrequest with hpending | hactive | haction
    · exact .inl hpending
    · refine .inr (.inl ?_)
      rw [hrest]
      exact hactive
    · refine .inr (.inr ?_)
      rw [h.action id haction, if_neg hmem]

/-- What a cancellation of everything that is pending leaves as it was. -/
structure Cancels (s s' : AwgService) : Prop where
  run : s'.run = s.run
  activeRequest : s'.activeRequest = s.activeRequest
  calls : s'.calls = s.calls
  pendingRequests : ∀ id, id ∈ s'.pendingRequests ↔ id ∈ s.pendingRequests
  kept : ∀ id, s.activeRequest = some id → s'.requests id = s.requests id
  held : s.Held → s'.Held

theorem Cancels.trans (h : s.Cancels s') (h' : s'.Cancels s'') : s.Cancels s'' where
  run := h'.run.trans h.run
  activeRequest := h'.activeRequest.trans h.activeRequest
  calls := h'.calls.trans h.calls
  pendingRequests id := (h'.pendingRequests id).trans (h.pendingRequests id)
  kept id hactive := (h'.kept id (h.activeRequest.trans hactive)).trans (h.kept id hactive)
  held hheld := h'.held (h.held hheld)

theorem Cancels.refl (s : AwgService) : s.Cancels s :=
  ⟨rfl, rfl, rfl, fun _ => .rfl, fun _ _ => rfl, fun hheld => hheld⟩

theorem Idles.cancels (h : s.Idles s') : s.Cancels s' := by
  have hcongr {α : Type} (f : ServiceState → α) := congrArg f h.state
  exact {
    run := hcongr ServiceState.run
    activeRequest := hcongr ServiceState.activeRequest
    calls := hcongr ServiceState.calls
    pendingRequests := fun id => by rw [hcongr ServiceState.pendingRequests]
    kept := fun id _ => congrFun (hcongr ServiceState.requests) id
    held := fun hheld => by rw [h.state]; exact hheld }

theorem Cancelled.cancels {ids : List ℕ} (h : s.Cancelled ids s') (hs : s.Sane)
    (hids : ∀ id ∈ ids, id ∈ s.pendingRequests) : s.Cancels s' := by
  have hheld := h.held hs.registers hids
  have hother := h.other
  obtain ⟨requests, replies, pendingAction, rfl⟩ := h.rest
  refine ⟨rfl, rfl, rfl, fun _ => .rfl, fun id hactive => hother id fun hmem => ?_, hheld⟩
  -- the active request is not in authorization
  obtain ⟨request, hrequest, hdone⟩ := hs.holds.active id hactive
  obtain ⟨request', hrequest', hpending⟩ := (hs.registers.pending id).mp (hids id hmem)
  obtain rfl : request' = request := Option.some.inj (hrequest'.symm.trans hrequest)
  exact Bool.false_ne_true (hdone.symm.trans hpending)

/-- An action that waits is freed; one in authorization is not. -/
theorem keeps_cancelWaiting (h : s.Sane) :
    Keeps s.cancelWaiting fun s' => s'.Sane ∧ s.Cancels s' ∧
      ∀ id, s'.pendingAction = some id → id ∈ s'.pendingRequests := by
  unfold cancelWaiting
  split
  · rename_i hnone
    exact ⟨h, .refl s, fun id haction =>
      absurd (hnone.symm.trans haction) (Option.some_ne_none _).symm⟩
  rename_i id haction
  obtain ⟨hactive, request, hrequest⟩ := h.holds.action id haction
  rw [hrequest]
  dsimp only
  split
  · rename_i hpending
    refine ⟨h, .refl s, fun id' haction' => ?_⟩
    obtain rfl : id = id' := Option.some.inj (haction.symm.trans haction')
    exact (h.registers.pending id).mpr ⟨request, hrequest, hpending⟩
  rename_i hwaiting
  have hidle : id ∉ s.pendingRequests := fun hmem => by
    obtain ⟨request', hrequest', hpending⟩ := (h.registers.pending id).mp hmem
    obtain rfl : request' = request := Option.some.inj (hrequest'.symm.trans hrequest)
    exact hwaiting hpending
  refine (keeps_replyFree h hrequest (fun call hcall => hidle (h.awaits.call id call hcall))
    (fun hactive' => absurd hactive' hactive) _).mono fun s' hs' =>
      ⟨hs'.1, ?_, fun id' haction' => ?_⟩
  · have hfreed := hs'.2
    exact {
      run := hfreed.run
      activeRequest := hfreed.activeRequest.trans (if_neg hactive)
      calls := hfreed.calls
      kept := fun id' hactive' => by
        rw [hfreed.requests, if_neg]
        rintro rfl
        exact hactive hactive'
      pendingRequests := fun id' => by
        rw [hfreed.pendingRequests]
        exact ⟨And.left, fun hmem => ⟨hmem, fun heq => hidle (heq ▸ hmem)⟩⟩
      held := fun hheld => hfreed.held fun id' request' _ => hheld id' request' }
  · rw [hs'.2.pendingAction, if_pos haction] at haction'
    exact absurd haction' (Option.some_ne_none _).symm

/-- Whatever is pending is cancelled, and no action waits any more. -/
theorem keeps_cancelPendingAuthorizations (h : s.Sane) :
    Keeps s.cancelPendingAuthorizations fun s' => s'.Consistent ∧ s.Cancels s' ∧
      s'.pendingAction = none ∧
        ∀ id ∈ s.pendingRequests, ∃ request, s'.requests id = some request ∧
          request.replySent = true := by
  have hset (policyCancelled : Bool) : Keeps (do
      let s ← { s with policyCancelled }.cancelWaiting
      return s.pendingRequests.foldl (fun s id => s.cancelAuthorization errorNotAuthorized
        (ascii "AmneziaWG authorization was cancelled") id) s) fun s' => s'.Consistent ∧
          s.Cancels s' ∧ s'.pendingAction = none ∧
            ∀ id ∈ s.pendingRequests, ∃ request, s'.requests id = some request ∧
              request.replySent = true := by
    have hsane : { s with policyCancelled }.Sane := h
    refine (keeps_cancelWaiting hsane).bind ?_
    rintro s₁ ⟨hsane₁, hcancels₁, haction₁⟩
    obtain ⟨hsane₂, hcancelled⟩ := cancelAuthorizations_cancelled hsane₁ errorNotAuthorized
      (ascii "AmneziaWG authorization was cancelled") s₁.pendingRequests fun _ hid => hid
    have hnone : (s₁.pendingRequests.foldl (fun s id => s.cancelAuthorization errorNotAuthorized
        (ascii "AmneziaWG authorization was cancelled") id) s₁).pendingAction = none := by
      cases haction : s₁.pendingAction with
      | none => exact hcancelled.none haction
      | some id =>
        rw [hcancelled.action id haction, if_pos (haction₁ id haction)]
    refine ⟨⟨hsane₂, fun id request haction => ?_, fun _ => hnone⟩, ?_, hnone, fun id hid => ?_⟩
    · exact absurd (hnone.symm.trans haction) (Option.some_ne_none _).symm
    · have hfirst : s.Cancels s₁ := ⟨hcancels₁.run, hcancels₁.activeRequest, hcancels₁.calls,
        hcancels₁.pendingRequests, hcancels₁.kept, hcancels₁.held⟩
      exact hfirst.trans (hcancelled.cancels hsane₁ fun _ hid => hid)
    · have hmem := (hcancels₁.pendingRequests id).mpr hid
      obtain ⟨request, hrequest, -⟩ := (hsane₁.registers.pending id).mp hmem
      exact ⟨_, hcancelled.request id hmem request hrequest, rfl⟩
  unfold cancelPendingAuthorizations
  dsimp only
  split
  · exact hset true
  · exact hset s.policyCancelled

/-! ## The policy -/

/-- The service is as it is between callbacks. -/
def Good (s : AwgService) : Prop := s.Consistent ∧ s.Settled

/-- The flags of the service do not matter to its tables. -/
theorem sane_setFlags (h : s.Sane) {failed stopping : Bool} (policyReady : Bool)
    (policyGeneration : ℕ) (hfailed : failed = true → stopping = true) :
    { s with failed, stopping, policyReady, policyGeneration }.Sane := by
  constructor <;> constructor <;> simp only <;> grind [replyCount]

theorem Cancels.settled (h : s.Cancels s') (hs : s.Settled) : s'.Settled :=
  ⟨by rw [h.activeRequest, h.run]; exact hs.running, h.held hs.held⟩

theorem Idles.consistent (h : s.Idles s') (hs : s.Consistent) : s'.Consistent := by
  rw [h.state]
  exact hs

theorem Idles.good (h : s.Idles s') (hs : s.Good) : s'.Good :=
  ⟨h.consistent hs.1, h.cancels.settled hs.2⟩

/-- What a policy that is unsafe does to the requests. -/
theorem keeps_failUnsafePolicy (h : s.Consistent) :
    Keeps s.failUnsafePolicy fun s' => s'.Consistent ∧ (s.Settled → s'.Settled) ∧
      s'.activeRequest = s.activeRequest ∧ s'.run = s.run ∧ s'.calls = s.calls ∧
        (s.stopping = false → s'.pendingAction = none ∧
          ∀ id ∈ s.pendingRequests, ∃ request, s'.requests id = some request ∧
            request.replySent = true) := by
  unfold failUnsafePolicy
  dsimp only
  split
  · rename_i hstopping
    refine ⟨⟨sane_setFlags h.toSane s.policyReady s.policyGeneration fun _ => hstopping, ?_,
      h.stopped⟩, fun hs => ⟨hs.running, hs.held⟩, rfl, rfl, rfl, fun hrunning => ?_⟩
    · exact fun id request haction hrequest =>
        (h.waits id request haction hrequest).congr rfl rfl rfl
    · exact absurd (hstopping.symm.trans hrunning) Bool.noConfusion
  · have hsane := @sane_setFlags s h.toSane true true s.policyReady s.policyGeneration fun _ => rfl
    refine Contract.Maintains.bind (keeps_cancelPendingAuthorizations
      (s := { s with failed := true, stopping := true, idleSource := false }) hsane) ?_
    rintro s₁ ⟨hconsistent, hcancels, haction, hsent⟩
    refine (keeps_updateIdleState s₁).mono fun s₂ hidles => ?_
    have hcongr {α : Type} (f : ServiceState → α) := congrArg f hidles.state
    refine ⟨hidles.consistent hconsistent, fun hs => ?_, ?_, ?_, ?_,
      fun _ => ⟨?_, fun id hid => ?_⟩⟩
    · refine (hcancels.trans hidles.cancels).settled ?_
      exact ⟨hs.running, hs.held⟩
    · exact (hcongr ServiceState.activeRequest).trans hcancels.activeRequest
    · exact (hcongr ServiceState.run).trans hcancels.run
    · exact (hcongr ServiceState.calls).trans hcancels.calls
    · exact (hcongr ServiceState.pendingAction).trans haction
    · obtain ⟨request, hrequest, hreply⟩ := hsent id hid
      exact ⟨request, (congrFun (hcongr ServiceState.requests) id).trans hrequest, hreply⟩

theorem good_failUnsafePolicy (h : s.Good) : Keeps s.failUnsafePolicy Good :=
  (keeps_failUnsafePolicy h.1).mono fun _ hs => ⟨hs.1, hs.2.1 h.2⟩

/-- A validation of the policy is begun, which leaves the requests as they are where no action
waits. -/
theorem good_beginPolicyValidation (h : s.Good) (hwaiting : s.pendingAction = none) :
    Keeps s.beginPolicyValidation Good := by
  unfold beginPolicyValidation
  split
  · exact h
  refine Contract.Maintains.bind (keeps_monotonicMsec _) ?_
  rintro _ ⟨clock, rfl⟩
  refine (keeps_updateIdleState _).bind fun s₁ hidles => ?_
  have hgood : ({ s with policyReady := false } : AwgService).Good := by
    refine ⟨⟨sane_setFlags h.1.toSane false s.policyGeneration h.1.holds.failed, ?_, h.1.stopped⟩,
      ⟨h.2.running, h.2.held⟩⟩
    intro id request haction
    exact absurd (hwaiting.symm.trans haction) (Option.some_ne_none _).symm
  have hgood₁ : s₁.Good := hidles.good hgood
  split
  · exact hgood₁
  · exact hgood₁

/-- A change of the policy revokes every grant. -/
theorem good_authorizationChangedCb (h : s.Good) : Keeps s.authorizationChangedCb Good := by
  unfold authorizationChangedCb
  split
  · exact h
  split
  · exact good_failUnsafePolicy h
  have hsane := sane_setFlags h.1.toSane false (s.policyGeneration + 1) h.1.holds.failed
  refine (keeps_cancelPendingAuthorizations (s := { s with
    policyGeneration := s.policyGeneration + 1, policyReady := false }) hsane).bind ?_
  rintro s₁ ⟨hconsistent, hcancels, haction, -⟩
  refine good_beginPolicyValidation ⟨hconsistent, hcancels.settled ?_⟩ haction
  exact ⟨h.2.running, h.2.held⟩

theorem good_finishPolicyValidation (h : s.Good) : Keeps s.finishPolicyValidation Good :=
  (keeps_updateIdleState _).mono fun _ hidles => Idles.good
    (s := { s with policyPending := false, policyTimeoutSource := false, policyCancelled := false })
    hidles h

theorem good_failAndFinish (h : s.Good) : Keeps (do
    let s ← s.failUnsafePolicy
    s.finishPolicyValidation) Good :=
  (good_failUnsafePolicy h).bind fun _ => good_finishPolicyValidation

/-- The service may serve again once the policy of the present generation was found safe. -/
theorem good_servicePolicyCheckedCb (h : s.Good) (safe : Bool) :
    Keeps (s.servicePolicyCheckedCb safe) Good := by
  unfold servicePolicyCheckedCb
  split
  · exact good_finishPolicyValidation h
  refine (keeps_monotonicMsec s).bind ?_
  rintro _ ⟨clock, rfl⟩
  split
  · exact good_failAndFinish h
  split
  · exact h
  split
  · exact good_failAndFinish h
  have hgood : ({ s with policyReady := true } : AwgService).Good := by
    refine ⟨⟨sane_setFlags h.1.toSane true s.policyGeneration h.1.holds.failed, ?_, h.1.stopped⟩,
      ⟨h.2.running, h.2.held⟩⟩
    intro id request haction hrequest
    obtain ⟨h1, h2, h3, h4⟩ := h.1.waits id request haction hrequest
    refine ⟨h1, h2, h3, fun hdone => ?_⟩
    obtain ⟨-, h2, h3, h4⟩ := h4 hdone
    exact ⟨rfl, h2, h3, h4⟩
  exact good_finishPolicyValidation (s := { s with policyReady := true, ownsName := true, clock })
    hgood

theorem good_authorityReadyCb (h : s.Good) (authority : Bool) :
    Keeps (s.authorityReadyCb authority) Good := by
  unfold authorityReadyCb
  split
  · exact good_finishPolicyValidation h
  split
  · exact good_failAndFinish h
  refine (keeps_monotonicMsec s).bind ?_
  rintro _ ⟨clock, rfl⟩
  split
  · exact good_failAndFinish h
  · exact h

end AwgService

end NmSidebar
