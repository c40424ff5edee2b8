import NmSidebar.Service.Requests

/-!
# Every callback of the service

Polkit's replies, the timers, the methods and the end of the service: whatever comes leaves the
service consistent. So no helper starts on a grant that was revoked, none is spawned beside another
one, and every request is answered once.
-/

namespace NmSidebar

open Text Effects

namespace AwgService

open ServiceState

variable {s s' : AwgService} {id : ℕ} {request : AwgServiceRequest}

/-! ## Replies of polkit, and timers -/

/-- What polkit has said of the policy, when a request goes on or does not. -/
theorem good_requestPolicyCheckedCb (h : s.Good) (hcall : (id, .policy) ∈ s.calls) (safe : Bool) :
    Keeps ({ s with calls := s.calls.erase (id, .policy) }.requestPolicyCheckedCb id safe)
      Good := by
  obtain ⟨hgood, hcalls, request, hrequest, hpending⟩ := good_eraseCall h hcall
  have hpolicy := h.1.awaits.policy id request hcall hrequest
  unfold requestPolicyCheckedCb
  simp only [hrequest]
  refine (keeps_authorizationIsCurrent _ request).bind ?_
  rintro ⟨current, _⟩ ⟨⟨clock, rfl⟩, hcurrent⟩
  dsimp only at hcurrent ⊢
  have hgood₁ : ({ s with calls := s.calls.erase (id, .policy), clock } : AwgService).Good := hgood
  split
  · exact good_rejectAuthorization hgood₁ hrequest hpending hcalls
  rename_i hyes
  have hcurrent := hcurrent (Bool.eq_true_of_not_eq_false hyes)
  have hcurrent₁ : ({ s with calls := s.calls.erase (id, .policy), clock } : AwgService).Current
      request := ⟨hcurrent.pending, hcurrent.unsent, hcurrent.running, hcurrent.ready,
    hcurrent.generation, hcurrent.uncancelled⟩
  split
  · -- whatever is pending was answered when the service failed
    refine (keeps_failUnsafePolicy hgood₁.1).bind ?_
    rintro s₁ ⟨hconsistent, hsettled, hactive, hrun, hcalls₁, hfailed⟩
    have hmem : id ∈ s.pendingRequests := h.1.awaits.call id .policy hcall
    obtain ⟨request₁, hrequest₁, hsent⟩ := (hfailed hcurrent.running).2 id hmem
    have hsettled := hsettled hgood₁.2
    have hinactive : s₁.activeRequest ≠ some id := by
      rw [hactive]
      exact not_active_of_pending hgood₁.1.toSane hrequest hpending
    refine (keeps_requestFree hconsistent.toSane hrequest₁ hsent (by rw [hcalls₁]; exact hcalls)
      fun hactive' => absurd hactive' hinactive).mono ?_
    rintro s₂ ⟨hsane, hfreed⟩
    refine ⟨hfreed.of_consistent hsane hconsistent, ?_, hfreed.held fun id' request' _ =>
      hsettled.held id' request'⟩
    rw [hfreed.activeRequest, hfreed.run, if_neg hinactive]
    exact hsettled.running
  · exact good_continueAuthorizedRequest hgood₁ hrequest hcurrent₁ hpolicy hcalls

/-- The policy is enumerated for a request in authorization that waits for nothing. -/
theorem sane_enumerate (h : s.Sane) (hrequest : s.requests id = some request)
    (hpending : request.authorizationPending = true) (hfree : id ∉ s.calls.map Prod.fst)
    (hgeneration : request.authorizationGeneration = s.policyGeneration) :
    ({ s.modify id fun request => { request with policyBegun := some s.policyGeneration } with
      calls := (id, .policy) :: s.calls } : AwgService).Sane := by
  obtain ⟨hregisters, hawaits, hanswers, hholds⟩ := h
  have hmap : ((id, RequestCall.policy) :: s.calls).map Prod.fst = id :: s.calls.map Prod.fst := rfl
  refine ⟨?_, ?_, ?_, ?_⟩
  · constructor <;> simp only [modify] <;> grind
  · have hin : id ∈ s.pendingRequests := (hregisters.pending id).mpr ⟨request, hrequest, hpending⟩
    constructor <;> simp only [modify, hmap] <;> grind
  · constructor <;> simp only [modify] <;> grind [replyCount]
  · constructor <;> simp only [modify, hrequest, Option.map_some] <;> grind

/-- The policy is enumerated for a request that polkit has granted. -/
theorem good_enumerate (h : s.Good) (hrequest : s.requests id = some request)
    (hpending : request.authorizationPending = true) (hcalls : ∀ call, (id, call) ∉ s.calls)
    (hgeneration : request.authorizationGeneration = s.policyGeneration) :
    ({ s.modify id fun request => { request with policyBegun := some s.policyGeneration } with
      calls := (id, .policy) :: s.calls } : AwgService).Good := by
  have hfree : id ∉ s.calls.map Prod.fst := by
    intro hmap
    obtain ⟨⟨id', call⟩, hmem, heq⟩ := List.mem_map.mp hmap
    have heq : id' = id := heq
    exact hcalls call (heq ▸ hmem)
  have hother (id' : ℕ) (hid' : id' ≠ id) : (s.modify id fun request =>
      { request with policyBegun := some s.policyGeneration }).requests id' = s.requests id' :=
    if_neg hid'
  have hnow : (s.modify id fun request =>
      { request with policyBegun := some s.policyGeneration }).requests id =
        some { request with policyBegun := some s.policyGeneration } := by
    show (if id = id then (s.requests id).map _ else _) = _
    rw [if_pos rfl, hrequest]
    rfl
  refine ⟨⟨sane_enumerate h.1.toSane hrequest hpending hfree hgeneration,
    fun id' request' haction hrequest' => ?_, h.1.stopped⟩, h.2.running,
    fun id' request' hrequest' => ?_⟩
  · by_cases hid' : id' = id
    · subst hid'
      obtain rfl := Option.some.inj (hrequest'.symm.trans hnow)
      obtain ⟨h1, h2, h3, -⟩ := h.1.waits id' request haction hrequest
      exact ⟨h1, h2, h3, fun hdone => absurd (hdone.symm.trans hpending) Bool.false_ne_true⟩
    · exact (h.1.waits id' request' haction ((hother id' hid').symm.trans hrequest')).congr rfl rfl
        rfl
  · by_cases hid' : id' = id
    · subst hid'
      obtain rfl := Option.some.inj (hrequest'.symm.trans hnow)
      exact .inl hpending
    · exact h.2.held id' request' ((hother id' hid').symm.trans hrequest')

theorem good_authorizationCheckedCb (h : s.Good) (hcall : (id, .check) ∈ s.calls)
    (reply : CheckReply) :
    Keeps ({ s with calls := s.calls.erase (id, .check) }.authorizationCheckedCb id reply)
      Good := by
  obtain ⟨hgood, hcalls, request, hrequest, hpending⟩ := good_eraseCall h hcall
  unfold authorizationCheckedCb
  simp only [hrequest]
  split
  · exact good_rejectAuthorization hgood hrequest hpending hcalls
  refine (keeps_authorizationIsCurrent _ request).bind ?_
  rintro ⟨current, _⟩ ⟨⟨clock, rfl⟩, hcurrent⟩
  dsimp only at hcurrent ⊢
  split
  · exact good_rejectAuthorization (s := { s with calls := s.calls.erase (id, .check), clock })
      hgood hrequest hpending hcalls
  rename_i hyes
  have hcurrent := hcurrent (Bool.eq_true_of_not_eq_false hyes)
  exact good_enumerate (s := { s with calls := s.calls.erase (id, .check), clock })
    hgood hrequest hpending hcalls hcurrent.generation

/-- Timers that have fired or are removed. -/
theorem good_filterTimers (h : s.Good) (p : ℕ × RequestTimer → Bool) :
    ({ s with timers := s.timers.filter p } : AwgService).Good := by
  refine ⟨⟨?_, fun id request haction hrequest =>
    (h.1.waits id request haction hrequest).congr rfl rfl rfl, h.1.stopped⟩, h.2.running, h.2.held⟩
  obtain ⟨hregisters, ⟨h1, h2, h3, h4, h5⟩, hanswers, hholds⟩ := h.1.toSane
  obtain ⟨h6, h7, h8, h9, h10, h11, h12, h13, h14⟩ := hregisters
  obtain ⟨h15, h16, h17⟩ := hanswers
  obtain ⟨h18, h19, h20, h21, h22⟩ := hholds
  exact ⟨⟨h6, h7, h8, h9, h10, h11, h12, h13, h14⟩,
    ⟨h1, h2, h3, fun id hmem => h4 id (List.mem_of_mem_filter hmem),
      fun id hmem => h5 id (List.mem_of_mem_filter hmem)⟩,
    ⟨h15, h16, h17⟩, ⟨h18, h19, h20, h21, h22⟩⟩

theorem good_authorizationTimeoutCb (h : s.Good) (hid : id ∈ s.pendingRequests) :
    Keeps (s.authorizationTimeoutCb id) Good :=
  progressesGood 1 _ ((cancelAuthorization_cancelled s errorNotAuthorized
    (ascii "AmneziaWG authorization expired") id).good h
      (sane_cancelAuthorization h.1.toSane hid _ _) fun id' hid' => by
        rw [List.mem_singleton.mp hid']
        exact hid) (.inl one_ne_zero)

/-! ## Methods -/

/-- The next invocation is that of no request, and was not answered. -/
theorem fresh_invocation (h : s.Sane) : s.requests s.invocations = none := by
  cases hrequest : s.requests s.invocations with
  | none => rfl
  | some request => exact absurd (h.registers.numbered _ request hrequest) (lt_irrefl _)

/-- An invocation that is refused is answered at once. -/
theorem good_refused (h : s.Good) (reply : ServiceReply) :
    ({ s with invocations := s.invocations + 1 }.answer s.invocations reply).Good := by
  have hfresh := fresh_invocation h.1.toSane
  have hnumbered := h.1.registers.numbered
  have hcount (id : ℕ) : ({ s with invocations := s.invocations + 1 }.answer s.invocations
      reply).replyCount id = s.replyCount id + if s.invocations = id then 1 else 0 := by
    unfold replyCount answer
    rw [List.countP_cons]
    simp
  refine ⟨⟨⟨?_, ?_, ⟨fun id request hrequest => ?_, fun id hlt hnone => ?_, fun id hle => ?_⟩, ?_⟩,
    fun id request haction hrequest => (h.1.waits id request haction hrequest).congr rfl rfl rfl,
      h.1.stopped⟩, h.2.running, h.2.held⟩
  · obtain ⟨h1, h2, h3, h4, h5, h6, h7, h8, h9⟩ := h.1.registers
    exact ⟨h1, h2, fun id request hrequest => (h3 id request hrequest).trans (Nat.lt_succ_self _),
      h4, h5, h6, h7, h8, h9⟩
  · obtain ⟨h1, h2, h3, h4, h5⟩ := h.1.awaits
    exact ⟨h1, h2, h3, h4, h5⟩
  · rw [hcount, if_neg (hnumbered id request hrequest).ne']
    exact h.1.answers.sent id request hrequest
  · rw [hcount]
    rcases Nat.lt_succ_iff_lt_or_eq.mp hlt with hlt | rfl
    · rw [if_neg hlt.ne', h.1.answers.freed id hlt hnone]
    · rw [if_pos rfl, h.1.answers.unknown _ le_rfl]
  · have hlt : s.invocations < id := hle
    rw [hcount, if_neg hlt.ne, h.1.answers.unknown id hlt.le]
  · obtain ⟨h1, h2, h3, h4, h5⟩ := h.1.holds
    exact ⟨h1, h2, h3, h4, h5⟩

/-- The sender has no request of the kind. -/
theorem senderCanAdmit_iff (s : AwgService) (sender operation : Bytes) :
    s.senderCanAdmit sender operation = true ↔
      s.pendingSenders sender (senderOperation operation) = false := by
  unfold senderCanAdmit
  cases senderOperation operation with
  | inventory => simp
  | action => simp

/-- A request that is admitted is in authorization. -/
theorem sane_insert (h : s.Sane) {request : AwgServiceRequest}
    (hkind : request.profileReport = true ↔ senderOperation request.operation = .inventory)
    (hbegun : request.checkBegun = request.authorizationGeneration)
    (hpending : request.authorizationPending = true) (hsent : request.replySent = false)
    (haction : request.profileReport = false → s.pendingAction = none)
    (hcount : s.pendingAuthorizations < maxPendingAuthorizations)
    (hsender : s.pendingSenders request.sender (senderOperation request.operation) = false)
    (idleSource : Bool) : ({ s with
      invocations := s.invocations + 1
      requests := fun id' => if id' = s.invocations then some request else s.requests id'
      pendingAuthorizations := s.pendingAuthorizations + 1
      pendingSenders := fun sender' operation' =>
        if sender' = request.sender ∧ operation' = senderOperation request.operation then true
        else s.pendingSenders sender' operation'
      pendingRequests := s.invocations :: s.pendingRequests
      pendingAction := if senderOperation request.operation = .action then some s.invocations
        else s.pendingAction
      idleSource
      timers := (s.invocations, .authorization) :: s.timers
      calls := (s.invocations, .check) :: s.calls } : AwgService).Sane := by
  have hfresh := fresh_invocation h
  have hfind (id : ℕ) (request' : AwgServiceRequest) :
      (if id = s.invocations then some request else s.requests id) = some request' ↔
        (id = s.invocations ∧ request' = request) ∨ s.requests id = some request' := by
    grind
  have habsent (id : ℕ) : (if id = s.invocations then some request else s.requests id) = none ↔
      id ≠ s.invocations ∧ s.requests id = none := by
    grind
  have hcalls : s.invocations ∉ s.calls.map Prod.fst := by
    intro hmap
    obtain ⟨⟨id, call⟩, hmem, heq⟩ := List.mem_map.mp hmap
    obtain ⟨request, hrequest, -⟩ := (h.registers.pending id).mp (h.awaits.call id call hmem)
    exact (h.registers.numbered id request hrequest).ne heq
  have hkind' : request.profileReport = false ↔ senderOperation request.operation = .action := by
    cases hoperation : senderOperation request.operation <;> grind
  constructor
  · constructor <;> simp only [hfind, List.mem_cons, List.length_cons, List.nodup_cons]
    · grind
    · grind
    · grind
    · grind
    · grind
    · grind
    · grind
    · grind
    · grind
  · constructor <;> simp only [hfind, List.mem_cons, List.map_cons, List.nodup_cons]
    · grind
    · grind
    · grind
    · grind
    · grind
  · refine ⟨fun id request' hrequest' => ?_, fun id hlt hnone => ?_, fun id hle =>
      h.answers.unknown id (Nat.le_of_succ_le hle)⟩
    · rcases (hfind id request').mp hrequest' with ⟨rfl, rfl⟩ | hrequest'
      · rw [hsent]
        exact h.answers.unknown _ le_rfl
      · exact h.answers.sent id request' hrequest'
    · obtain ⟨hne, hnone⟩ := (habsent id).mp hnone
      exact h.answers.freed id (Nat.lt_of_le_of_ne (Nat.lt_succ_iff.mp hlt) hne) hnone
  · constructor <;> simp only [hfind]
    · grind
    · grind
    · grind
    · grind
    · grind

/-- A method invocation whose request is admitted, or refused. -/
theorem good_admit (h : s.Good) {operation : Bytes} (name : Bytes) (sender : Option Bytes)
    {profileReport : Bool} (configValue : Option Bytes)
    (hkind : profileReport = true ↔ senderOperation operation = .inventory)
    (hrunning : s.stopping = false)
    (haction : profileReport = false → s.pendingAction = none) :
    Keeps ({ s with invocations := s.invocations + 1 }.admitRequest s.invocations operation name sender
      profileReport configValue) Good := by
  unfold admitRequest
  split
  · exact good_refused h _
  rename_i sender
  split
  · exact good_refused h _
  rename_i hadmitted
  rw [not_or, not_le] at hadmitted
  have hsender := (senderCanAdmit_iff { s with invocations := s.invocations + 1 } sender
    operation).mp (Bool.eq_true_of_not_eq_false hadmitted.2)
  refine (keeps_monotonicMsec _).bind ?_
  rintro _ ⟨clock, rfl⟩
  have hsane := @sane_insert { s with clock } h.1.toSane {
    operation, name, sender, profileReport, configValue
    cancelled := false
    authorizationDeadline := deadlineCap clock maxInt64 authorizationTimeoutMsec
    authorizationGeneration := s.policyGeneration
    preemptDeadline := 0
    authorizationPending := true
    replySent := false
    checkBegun := s.policyGeneration
    policyBegun := none } hkind rfl rfl rfl haction hadmitted.1 hsender false
  refine ⟨⟨hsane, fun id request' haction' hrequest' => ?_, fun hstopping => ?_⟩, h.2.running,
    fun id request' hrequest' => ?_⟩
  · by_cases hid : id = s.invocations
    · subst hid
      obtain rfl := Option.some.inj (hrequest'.symm.trans (if_pos rfl))
      refine ⟨?_, rfl, rfl, fun hno => absurd hno.symm Bool.false_ne_true⟩
      show profileReport = false
      refine Bool.eq_false_iff.mpr fun hreport => ?_
      have hinventory := hkind.mp hreport
      have hpending : s.pendingAction = some s.invocations := by
        refine Eq.trans ?_ haction'
        rw [if_neg (by rw [hinventory]; exact SenderOperation.noConfusion)]
      obtain ⟨-, request, hrequest⟩ := h.1.holds.action _ hpending
      exact absurd ((fresh_invocation h.1.toSane).symm.trans hrequest) (Option.some_ne_none _).symm
    · have hpending : s.pendingAction = some id := by
        have haction' : (if senderOperation operation = .action then some s.invocations
          else s.pendingAction) = some id := haction'
        grind
      exact (h.1.waits id request' hpending ((if_neg hid).symm.trans hrequest')).congr rfl rfl rfl
  · exact absurd (hstopping.symm.trans hrunning) Bool.noConfusion
  · by_cases hid : id = s.invocations
    · obtain rfl := Option.some.inj (hrequest'.symm.trans (if_pos hid))
      exact .inl rfl
    · rcases h.2.held id request' ((if_neg hid).symm.trans hrequest')
        with hpending | hactive | haction'
      · exact .inl hpending
      · exact .inr (.inl hactive)
      · refine .inr (.inr ?_)
        show (if senderOperation operation = .action then some s.invocations
          else s.pendingAction) = some id
        rw [if_neg, haction']
        intro hoperation
        have hnone := haction (Bool.eq_false_iff.mpr fun hreport =>
          SenderOperation.noConfusion ((hkind.mp hreport).symm.trans hoperation))
        exact absurd (hnone.symm.trans haction') (Option.some_ne_none _).symm

/-- An operation that may be executed is an action. -/
theorem senderOperation_of_executeIsValid {operation name config : Bytes}
    (h : executeIsValid operation name config = true) : senderOperation operation = .action := by
  unfold senderOperation
  refine if_neg fun hlist => ?_
  have hnone : operationNeedsConfig operation = none := by
    rw [hlist]
    decide +kernel
  unfold executeIsValid at h
  rw [hnone] at h
  exact Bool.false_ne_true h

theorem good_handleExecute (h : s.Good) (operation name config : Bytes) (sender : Option Bytes) :
    Keeps ({ s with invocations := s.invocations + 1 }.handleExecute s.invocations operation name
      config sender) Good := by
  unfold handleExecute
  split
  · exact good_refused h _
  rename_i hidle
  split
  · exact good_refused h _
  rename_i hvalid
  have haction := senderOperation_of_executeIsValid (Bool.eq_true_of_not_eq_false hvalid)
  refine good_admit h name sender (some config) ?_ ?_ fun _ => ?_
  · rw [haction]
    exact ⟨fun hno => absurd hno Bool.false_ne_true, fun hno => SenderOperation.noConfusion hno⟩
  · exact Bool.eq_false_iff.mpr fun hstopping => hidle (.inl hstopping)
  · exact Option.not_isSome_iff_eq_none.mp fun hpending => hidle (.inr (.inr (.inr hpending)))

theorem good_handleListProfiles (h : s.Good) (sender : Option Bytes) :
    Keeps ({ s with invocations := s.invocations + 1 }.handleListProfiles s.invocations sender)
      Good := by
  unfold handleListProfiles
  split
  · exact good_refused h _
  rename_i hidle
  refine good_admit h [] sender none ⟨fun _ => ?_, fun _ => rfl⟩ ?_ fun hno =>
    absurd hno.symm Bool.false_ne_true
  · decide +kernel
  · exact Bool.eq_false_iff.mpr fun hstopping => hidle (.inl hstopping)

/-! ## The end of the service -/

/-- Where the service stops, whatever is pending is cancelled and the run is stopped. -/
theorem good_shutDown (hsane : ({ s with stopping := true } : AwgService).Sane)
    (hsettled : s.Settled) : Keeps s.shutDown Good := by
  refine (keeps_cancelPendingAuthorizations
    (s := { s with stopping := true, idleSource := false }) hsane).bind ?_
  rintro s₁ ⟨hconsistent, hcancels, -⟩
  have hgood : s₁.Good := ⟨hconsistent, hcancels.settled ⟨hsettled.running, hsettled.held⟩⟩
  refine (good_helperRunnerStop hgood .shutdown).bind fun s₂ h₂ => ?_
  exact (keeps_updateIdleState s₂).mono fun _ hidles => hidles.good h₂

theorem good_busAcquiredCb (h : s.Good) (registered : Bool) :
    Keeps (s.busAcquiredCb registered) Good := by
  unfold busAcquiredCb
  split
  · exact h
  split
  · exact h
  have hsane := @sane_setFlags s h.1.toSane true true s.policyReady s.policyGeneration fun _ => rfl
  refine (keeps_cancelPendingAuthorizations
    (s := { s with failed := true, stopping := true }) hsane).bind ?_
  rintro s₁ ⟨hconsistent, hcancels, -⟩
  have hgood : s₁.Good := ⟨hconsistent, hcancels.settled ⟨h.2.running, h.2.held⟩⟩
  exact (keeps_updateIdleState s₁).mono fun _ hidles => hidles.good hgood

/-! ## Every run -/

theorem good_new : AwgService.new.Good := by
  refine ⟨⟨⟨⟨?_, ?_, ?_, ?_, ?_, ?_, ?_, ?_, ?_⟩, ⟨?_, ?_, ?_, ?_, ?_⟩, ⟨?_, ?_, ?_⟩,
    ⟨?_, ?_, ?_, ?_, ?_⟩⟩, ?_, ?_⟩, ?_, ?_⟩
  all_goals simp [AwgService.new, replyCount, Held, maxPendingAuthorizations]

/-- Whatever the main loop delivers leaves the service as it is between callbacks. -/
theorem good_run (h : s.Good) {callback : ServiceCallback} (henabled : callback.Enabled s) :
    Keeps (callback.run s) Good := by
  cases callback with
  | begin =>
    have henabled : s = .new := henabled
    exact good_beginPolicyValidation h (by rw [henabled]; rfl)
  | execute operation name config sender => exact good_handleExecute h operation name config sender
  | listProfiles sender => exact good_handleListProfiles h sender
  | authorizationChecked id reply => exact good_authorizationCheckedCb h henabled reply
  | requestPolicyChecked id safe => exact good_requestPolicyCheckedCb h henabled safe
  | authorizationTimeout id =>
    exact good_authorizationTimeoutCb (good_filterTimers h _) (h.1.awaits.authorization id henabled)
  | preemptTimeout id => exact progressesGood 1 _ (good_filterTimers h _) (.inl one_ne_zero)
  | authorizationChanged => exact good_authorizationChangedCb h
  | authorityReady authority =>
    exact good_authorityReadyCb (s := { s with policyCalls := s.policyCalls.erase .authority }) h
      authority
  | servicePolicyChecked safe =>
    exact good_servicePolicyCheckedCb
      (s := { s with policyCalls := s.policyCalls.erase .enumeration }) h safe
  | policyValidationTimeout =>
    exact good_failUnsafePolicy (s := { s with policyTimeoutSource := false }) h
  | busAcquired registered => exact good_busAcquiredCb h registered
  | nameAcquired => exact (keeps_updateIdleState s).mono fun _ hidles => hidles.good h
  | nameLost =>
    exact good_shutDown (s := { s with failed := true })
      (@sane_setFlags s h.1.toSane true true s.policyReady s.policyGeneration fun _ => rfl)
      ⟨h.2.running, h.2.held⟩
  | shutdownSignal =>
    exact good_shutDown
      (@sane_setFlags s h.1.toSane s.failed true s.policyReady s.policyGeneration fun _ => rfl)
      ⟨h.2.running, h.2.held⟩
  | idleTimeout => exact (keeps_idleTimeoutCb s).mono fun _ hidles => hidles.good h
  | helperPoll rounds => exact good_helperPollCb h rounds
  | reapChildren => exact good_reapChildrenCb h

theorem contract_keptBy : contract.KeptBy serviceComponent where
  refl s := rfl
  trans s s' s'' h h' := h'.trans h
  init := by
    rintro _ rfl
    exact good_new
  nested _ _ hno := hno.elim
  settled s callback henabled h hsettled :=
    Contract.Maintains.mono (good_run ⟨h, hsettled⟩ henabled) fun _ hs => hs

end AwgService

end NmSidebar
