import NmSidebar.Service.AwgService

/-!
# Consistency of the service

What the service keeps account of agrees with the requests that are allocated: which are in
authorization, which sender has one of which kind, which slot a request is in, and what its
invocation was answered. Single functions keep it so.
-/

namespace NmSidebar

open Text Effects

namespace ServiceState

/-! ## What holds of the requests -/

/-- How often a method invocation was answered. -/
def replyCount (s : ServiceState) (id : ℕ) : ℕ := s.replies.countP (·.1 = id)

/-- The policy was checked for the request in the present generation, and is good. -/
structure Granted (s : ServiceState) (request : AwgServiceRequest) : Prop where
  ready : s.policyReady = true
  running : s.stopping = false
  check : request.checkBegun = s.policyGeneration
  policy : request.policyBegun = some s.policyGeneration

/-- The action that is pending is still wanted, and is granted if it is authorized. -/
structure Waits (s : ServiceState) (request : AwgServiceRequest) : Prop where
  action : request.profileReport = false
  unsent : request.replySent = false
  current : request.cancelled = false
  granted : request.authorizationPending = false → s.Granted request

theorem Waits.congr {s s' : ServiceState} {request : AwgServiceRequest} (h : s.Waits request)
    (hgeneration : s'.policyGeneration = s.policyGeneration)
    (hready : s'.policyReady = s.policyReady) (hstopping : s'.stopping = s.stopping) :
    s'.Waits request := by
  refine ⟨h.action, h.unsent, h.current, fun hdone => ?_⟩
  obtain ⟨hready', hrunning, hcheck, hpolicy⟩ := h.granted hdone
  exact ⟨hready.trans hready', hstopping.trans hrunning, hcheck.trans hgeneration.symm,
    hpolicy.trans (congrArg some hgeneration.symm)⟩

/-- The tables of the service agree with the requests that are allocated. -/
@[grind cases] structure Registers (s : ServiceState) : Prop where
  kind : ∀ id request, s.requests id = some request →
    (request.profileReport = true ↔ senderOperation request.operation = .inventory)
  begun : ∀ id request, s.requests id = some request →
    request.checkBegun = request.authorizationGeneration
  numbered : ∀ id request, s.requests id = some request → id < s.invocations
  nodup : s.pendingRequests.Nodup
  pending : ∀ id, id ∈ s.pendingRequests ↔
    ∃ request, s.requests id = some request ∧ request.authorizationPending = true
  counted : s.pendingAuthorizations = s.pendingRequests.length
  bounded : s.pendingAuthorizations ≤ maxPendingAuthorizations
  senders : ∀ sender operation, s.pendingSenders sender operation = true ↔
    ∃ id request, s.requests id = some request ∧ request.sender = sender ∧
      senderOperation request.operation = operation
  single : ∀ id id' request request', s.requests id = some request →
    s.requests id' = some request' → request.sender = request'.sender →
      senderOperation request.operation = senderOperation request'.operation → id = id'

/-- What the main loop waits for is for requests that are allocated. -/
@[grind cases] structure Awaits (s : ServiceState) : Prop where
  nodup : (s.calls.map Prod.fst).Nodup
  call : ∀ id call, (id, call) ∈ s.calls → id ∈ s.pendingRequests
  policy : ∀ id request, (id, .policy) ∈ s.calls → s.requests id = some request →
    request.policyBegun = some request.authorizationGeneration
  authorization : ∀ id, (id, .authorization) ∈ s.timers → id ∈ s.pendingRequests
  preempt : ∀ id, (id, .preempt) ∈ s.timers → s.pendingAction = some id ∧ id ∉ s.pendingRequests

/-- Every invocation was answered once, or is that of a request that is not answered yet. -/
@[grind cases] structure Answers (s : ServiceState) : Prop where
  sent : ∀ id request, s.requests id = some request →
    s.replyCount id = request.replySent.toNat
  freed : ∀ id, id < s.invocations → s.requests id = none → s.replyCount id = 1
  unknown : ∀ id, s.invocations ≤ id → s.replyCount id = 0

/-- The slots of the service hold requests that may hold them. -/
@[grind cases] structure Holds (s : ServiceState) : Prop where
  active : ∀ id, s.activeRequest = some id →
    ∃ request, s.requests id = some request ∧ request.authorizationPending = false
  action : ∀ id, s.pendingAction = some id → s.activeRequest ≠ some id ∧
    ∃ request, s.requests id = some request
  run : ∀ run, s.run = some run → run.finished = false ∧ ∃ id request,
    s.activeRequest = some id ∧ s.requests id = some request ∧
      (run.result.isSome = true → request.replySent = true)
  failed : s.failed = true → s.stopping = true
  claimed : ∀ id request, s.requests id = some request → request.profileReport = false →
    request.authorizationPending = true → request.cancelled = false → s.pendingAction = some id

/-- The service is consistent, but for the action that is pending. -/
@[grind cases] structure Sane (s : ServiceState) : Prop where
  registers : s.Registers
  awaits : s.Awaits
  answers : s.Answers
  holds : s.Holds

/-- The service is consistent. -/
structure Consistent (s : ServiceState) : Prop extends Sane s where
  waits : ∀ id request, s.pendingAction = some id → s.requests id = some request → s.Waits request
  stopped : s.stopping = true → s.pendingAction = none

/-- A request is in authorization, active, or the action that waits. -/
def Held (s : ServiceState) : Prop :=
  ∀ id request, s.requests id = some request → request.authorizationPending = true ∨
    s.activeRequest = some id ∨ s.pendingAction = some id

/-- Between callbacks no request is forgotten, and the active one is that of the run. -/
structure Settled (s : ServiceState) : Prop where
  running : s.activeRequest.isSome = s.run.isSome
  held : s.Held

end ServiceState

namespace AwgService

open ServiceState

variable {s s' : AwgService} {id : ℕ} {request : AwgServiceRequest}

/-! ## Single requests -/

/-- A request may be answered. -/
theorem sane_sendReply (h : s.Sane) (id : ℕ) (reply : ServiceReply) :
    (s.sendReply id reply).Sane := by
  unfold AwgService.sendReply
  split
  · exact h
  rename_i request hrequest
  split
  · exact h
  rename_i hsent
  constructor <;> constructor <;> simp only [modify, answer] <;> grind [replyCount]

/-- What a reply changes. -/
structure Replied (s : AwgService) (id : ℕ) (s' : AwgService) : Prop where
  rest : ∃ requests replies, s' = { s with requests, replies }
  other : ∀ id', id' ≠ id → s'.requests id' = s.requests id'
  request : ∀ request, s.requests id = some request →
    s'.requests id = some { request with replySent := true }
  absent : s.requests id = none → s'.requests id = none

theorem sendReply_replied (s : AwgService) (id : ℕ) (reply : ServiceReply) :
    s.Replied id (s.sendReply id reply) := by
  unfold AwgService.sendReply
  split
  · rename_i hnone
    exact ⟨⟨_, _, rfl⟩, fun _ _ => rfl, by simp [hnone], fun hnone => hnone⟩
  rename_i request hrequest
  have hsome {P : Prop} (hnone : s.requests id = none) : P :=
    absurd (hnone.symm.trans hrequest) (Option.some_ne_none _).symm
  split
  · rename_i hsent
    refine ⟨⟨_, _, rfl⟩, fun _ _ => rfl, fun request' hrequest' => ?_, hsome⟩
    obtain rfl : request' = request := Option.some.inj (hrequest'.symm.trans hrequest)
    rw [hrequest, ← hsent]
  · refine ⟨⟨_, _, rfl⟩, fun id' hid' => if_neg hid', fun request' hrequest' => ?_, hsome⟩
    simp only [modify, answer]
    grind

/-- A change of a request that the tables hold nothing of. -/
structure Mild (f : AwgServiceRequest → AwgServiceRequest) : Prop where
  operation : ∀ request, (f request).operation = request.operation
  sender : ∀ request, (f request).sender = request.sender
  profileReport : ∀ request, (f request).profileReport = request.profileReport
  authorizationPending : ∀ request,
    (f request).authorizationPending = request.authorizationPending
  replySent : ∀ request, (f request).replySent = request.replySent
  cancelled : ∀ request, (f request).cancelled = false → request.cancelled = false
  authorizationGeneration : ∀ request,
    (f request).authorizationGeneration = request.authorizationGeneration
  checkBegun : ∀ request, (f request).checkBegun = request.checkBegun
  policyBegun : ∀ request, (f request).policyBegun = request.policyBegun

theorem modify_absent (habsent : s.requests id = none)
    (f : AwgServiceRequest → AwgServiceRequest) : s.modify id f = s := by
  have hsame : (fun id' => if id' = id then (s.requests id).map f else s.requests id') =
      s.requests := by
    funext id'
    split
    · rename_i heq
      rw [heq, habsent]
      rfl
    · rfl
  unfold modify
  rw [hsame]

theorem sane_modify (h : s.Sane) (id : ℕ) {f : AwgServiceRequest → AwgServiceRequest}
    (hf : Mild f) : (s.modify id f).Sane := by
  cases hrequest : s.requests id with
  | none =>
    rw [modify_absent hrequest f]
    exact h
  | some request =>
    have hoperation := hf.operation request
    have hsender := hf.sender request
    have hreport := hf.profileReport request
    have hpending := hf.authorizationPending request
    have hsent := hf.replySent request
    have hcancelled := hf.cancelled request
    have hgeneration := hf.authorizationGeneration request
    have hcheck := hf.checkBegun request
    have hpolicy := hf.policyBegun request
    constructor <;> constructor <;> simp only [modify, hrequest, Option.map_some] <;>
      clear hf <;> generalize f request = changed at * <;> grind [replyCount]

/-- Only the slot of the pending action and the request itself change when it is cancelled. -/
theorem cancelAuthorization_eq (s : AwgService) (name message : Bytes) (id : ℕ) :
    s.cancelAuthorization name message id =
      { (s.replyError id name message).modify id fun request =>
          { request with cancelled := true } with
        pendingAction := if (s.replyError id name message).pendingAction = some id then none
          else (s.replyError id name message).pendingAction } := by
  unfold cancelAuthorization
  dsimp only
  split <;> rfl

/-- A request that is cancelled may be the pending action no more. -/
theorem sane_clearAction (h : s.Sane) (hid : id ∈ s.pendingRequests)
    (hcancelled : ∀ request, s.requests id = some request → request.cancelled = true) :
    { s with pendingAction := if s.pendingAction = some id then none
      else s.pendingAction : AwgService }.Sane := by
  constructor <;> constructor <;> simp only <;> grind [replyCount]

theorem sane_cancelAuthorization (h : s.Sane) (hid : id ∈ s.pendingRequests)
    (name message : Bytes) : (s.cancelAuthorization name message id).Sane := by
  rw [cancelAuthorization_eq]
  obtain ⟨requests, replies, hrest⟩ := (sendReply_replied s id (.error name message)).rest
  have hsane := sane_sendReply h id (.error name message)
  have hmild : Mild fun request => { request with cancelled := true } :=
    ⟨fun _ => rfl, fun _ => rfl, fun _ => rfl, fun _ => rfl, fun _ => rfl,
      fun _ hno => absurd hno.symm Bool.false_ne_true, fun _ => rfl, fun _ => rfl, fun _ => rfl⟩
  refine sane_clearAction (sane_modify hsane id hmild) ?_ fun request hrequest => ?_
  · show id ∈ (s.sendReply id (.error name message)).pendingRequests
    rw [hrest]
    exact hid
  · have hmap : ((s.sendReply id (.error name message)).requests id).map (fun request =>
        { request with cancelled := true }) = some request := (if_pos rfl).symm.trans hrequest
    obtain ⟨request', -, rfl⟩ := Option.map_eq_some_iff.mp hmap
    rfl

theorem length_filter_ne {l : List ℕ} (hl : l.Nodup) (hid : id ∈ l) :
    (l.filter (· ≠ id)).length = l.length - 1 := by
  have herase : l.filter (· ≠ id) = l.erase id := by
    rw [hl.erase_eq_filter]
    grind
  rw [herase, List.length_erase_of_mem hid]

/-- A request for which nothing is awaited is no more in authorization. -/
theorem sane_finishAuthorization (h : s.Sane) (hcalls : ∀ call, (id, call) ∉ s.calls) :
    (s.finishAuthorization id).Sane := by
  unfold finishAuthorization
  split
  · exact h
  rename_i request hid
  split
  · exact h
  have hlength := @length_filter_ne id s.pendingRequests h.registers.nodup
  constructor <;> constructor <;> simp only [modify] <;> grind [replyCount]

/-- The service without a request. -/
def freed (s : AwgService) (id : ℕ) (request : AwgServiceRequest) : AwgService :=
  { s.dropRequest id request with
    requests := fun id' => if id' = id then none else s.requests id' }

/-- A request that was answered may be freed. -/
theorem sane_freed (h : s.Sane) (hrequest : s.requests id = some request)
    (hsent : request.replySent = true) (hdone : request.authorizationPending = false)
    (hrun : s.activeRequest = some id → s.run = none) : (s.freed id request).Sane := by
  constructor <;> constructor <;> simp only [freed, dropRequest] <;> grind [replyCount]

/-! ## The contract -/

/-- What holds of a request with which a helper is started. -/
structure MayStart (s : AwgService) (id : ℕ) (request : AwgServiceRequest) : Prop where
  found : s.requests id = some request
  granted : s.Granted request
  unsent : request.replySent = false
  current : request.cancelled = false
  intime : request.profileReport = false → s.clock < request.preemptDeadline

/-- What the service promises: a helper is started only with a request that may start, and spawned
only where nothing is left of another one. -/
def contract : Contract AwgService ServicePoint where
  invariant s := s.Consistent
  rely s s' := s' = s
  issues
    | .startHelper id, s => ∃ request, s.MayStart id request
    | .spawnHelper, s => s.run = none ∧ s.runner.pendingChildReaps = []
    | .tooDeep, _ => False
  settled s := s.Settled

/-- A function keeps the contract and leaves what satisfies a condition. -/
abbrev Keeps {α : Type} (p : AwgServiceM α) (Q : α → Prop) : Prop :=
  contract.Maintains serviceComponent p Q

theorem keeps_onKernel {α : Type} {p : ServiceM α} {Q : α → Prop} (hp : p.Returns Q) :
    Keeps (onKernel p) Q := by
  induction p with
  | pure a => exact hp
  | call o k ih => exact Contract.maintains_sys.mpr fun r _ => ih r (hp r)

theorem keeps_hang {α : Type} {Q : α → Prop} : Keeps (hang : AwgServiceM α) Q :=
  Contract.maintains_sys.mpr fun r _ => r.elim

theorem keeps_monotonicMsec (s : AwgService) :
    Keeps s.monotonicMsec fun s' => ∃ clock, s' = { s with clock } :=
  (keeps_onKernel (Prog.returns_any _)).bind fun clock _ => ⟨clock, rfl⟩

/-! ## Idling -/

/-- Only what the requests do not depend on has changed. -/
structure Idles (s s' : AwgService) : Prop where
  state : s'.toServiceState = s.toServiceState
  clock : s'.clock = s.clock

theorem keeps_isBusy (s : AwgService) :
    Keeps s.isBusy fun busy => s.Idles busy.2 ∧
      (busy.1 = false → busy.2.run = none ∧ busy.2.runner.pendingChildReaps = []) := by
  refine (keeps_onKernel (Prog.returns_any _)).bind fun pending _ => ⟨⟨rfl, rfl⟩, ?_⟩
  intro hidle
  obtain ⟨hrun, hpending⟩ := Bool.or_eq_false_iff.mp hidle
  refine ⟨Option.not_isSome_iff_eq_none.mp (by simp [hrun]), ?_⟩
  simpa using hpending

theorem keeps_hasPendingWork (s : AwgService) :
    Keeps s.hasPendingWork fun work => s.Idles work.2 := by
  unfold hasPendingWork
  split
  · exact ⟨rfl, rfl⟩
  · exact (keeps_isBusy s).mono fun _ h => h.1

theorem keeps_updateIdleState (s : AwgService) : Keeps s.updateIdleState s.Idles := by
  refine (keeps_hasPendingWork s).bind fun work h => ?_
  dsimp only
  split
  · exact ⟨h.state, h.clock⟩
  split
  · exact ⟨h.state, h.clock⟩
  · exact ⟨h.state, h.clock⟩

theorem keeps_idleTimeoutCb (s : AwgService) : Keeps s.idleTimeoutCb s.Idles := by
  refine (keeps_hasPendingWork _).bind fun work h => ?_
  dsimp only
  split
  · exact ⟨h.state, h.clock⟩
  · exact ⟨h.state, h.clock⟩

/-! ## A request ends -/

/-- The request is no more, and all else is as before. -/
structure Freed (s : AwgService) (id : ℕ) (s' : AwgService) : Prop where
  requests : ∀ id', s'.requests id' = if id' = id then none else s.requests id'
  activeRequest : s'.activeRequest = if s.activeRequest = some id then none else s.activeRequest
  pendingAction : s'.pendingAction = if s.pendingAction = some id then none else s.pendingAction
  pendingRequests : ∀ id', id' ∈ s'.pendingRequests ↔ id' ∈ s.pendingRequests ∧ id' ≠ id
  run : s'.run = s.run
  failed : s'.failed = s.failed
  stopping : s'.stopping = s.stopping
  policyGeneration : s'.policyGeneration = s.policyGeneration
  policyReady : s'.policyReady = s.policyReady
  calls : s'.calls = s.calls

theorem finishAuthorization_eq (hrequest : s.requests id = some request)
    (hsane : s.Registers) : ∃ pendingAuthorizations timers, s.finishAuthorization id = { s with
      requests := fun id' => if id' = id then
        some { request with authorizationPending := false } else s.requests id'
      pendingRequests := s.pendingRequests.filter (· ≠ id)
      pendingAuthorizations, timers } := by
  unfold finishAuthorization
  rw [hrequest]
  dsimp only
  split
  · rename_i hdone
    refine ⟨s.pendingAuthorizations, s.timers, ?_⟩
    have hsame : { request with authorizationPending := false } = request := by
      rw [← hdone]
    have hfilter : s.pendingRequests.filter (· ≠ id) = s.pendingRequests := by
      refine List.filter_eq_self.mpr fun id' hid' => decide_eq_true ?_
      rintro rfl
      obtain ⟨request', hrequest', hpending⟩ := (hsane.pending id').mp hid'
      obtain rfl : request' = request := Option.some.inj (hrequest'.symm.trans hrequest)
      exact Bool.false_ne_true (hdone.symm.trans hpending)
    have hrequests :
        (fun id' => if id' = id then some request else s.requests id') = s.requests := by
      funext id'
      split
      · rename_i heq
        rw [heq, hrequest]
      · rfl
    rw [hsame, hfilter, hrequests]
  · refine ⟨s.pendingAuthorizations - 1,
      s.timers.filter (· ≠ (id, RequestTimer.authorization)), ?_⟩
    unfold modify
    rw [hrequest]
    rfl

/-- A request that was answered is freed. -/
theorem keeps_requestFree (h : s.Sane) (hrequest : s.requests id = some request)
    (hsent : request.replySent = true) (hcalls : ∀ call, (id, call) ∉ s.calls)
    (hrun : s.activeRequest = some id → s.run = none) :
    Keeps (s.requestFree id) fun s' => s'.Sane ∧ s.Freed id s' := by
  have hsane := sane_finishAuthorization h hcalls
  obtain ⟨pendingAuthorizations, timers, hfinished⟩ :=
    finishAuthorization_eq hrequest h.registers
  have hrequest' : (s.finishAuthorization id).requests id =
      some { request with authorizationPending := false } := by
    rw [hfinished]
    exact if_pos rfl
  have hfreed := sane_freed hsane hrequest' hsent rfl (by rw [hfinished]; exact hrun)
  unfold requestFree
  dsimp only
  rw [hrequest']
  refine (keeps_updateIdleState _).bind fun s₁ hidles => ?_
  have hstate : ({ s₁ with requests := fun id' => if id' = id then none else s₁.requests id' } :
      AwgService).toServiceState = (freed (s.finishAuthorization id) id
        { request with authorizationPending := false }).toServiceState := by
    show ({ s₁.toServiceState with requests := fun id' =>
      if id' = id then none else s₁.toServiceState.requests id' } : ServiceState) = _
    rw [hidles.state]
    rfl
  refine ⟨by rw [hstate]; exact hfreed, ?_⟩
  have hcongr {α : Type} (f : ServiceState → α) := congrArg f hstate
  rw [hfinished] at hcongr
  exact {
    requests := fun id' => by
      refine (congrFun (hcongr ServiceState.requests) id').trans ?_
      simp only [freed, dropRequest]
      grind
    activeRequest := hcongr ServiceState.activeRequest
    pendingAction := hcongr ServiceState.pendingAction
    pendingRequests := fun id' => by
      have hpending := hcongr ServiceState.pendingRequests
      rw [hpending]
      simp [freed, dropRequest]
    run := hcongr ServiceState.run
    failed := hcongr ServiceState.failed
    stopping := hcongr ServiceState.stopping
    policyGeneration := hcongr ServiceState.policyGeneration
    policyReady := hcongr ServiceState.policyReady
    calls := hcongr ServiceState.calls }

/-- A request is answered and freed. -/
theorem keeps_replyFree (h : s.Sane) (hrequest : s.requests id = some request)
    (hcalls : ∀ call, (id, call) ∉ s.calls) (hrun : s.activeRequest = some id → s.run = none)
    (reply : ServiceReply) :
    Keeps ((s.sendReply id reply).requestFree id) fun s' => s'.Sane ∧ s.Freed id s' := by
  have hreplied := sendReply_replied s id reply
  obtain ⟨requests, replies, hrest⟩ := hreplied.rest
  have hother := hreplied.other
  refine (keeps_requestFree (sane_sendReply h id reply) (hreplied.request request hrequest) rfl
    (by rw [hrest]; exact hcalls) (by rw [hrest]; exact hrun)).mono fun s' hs' => ⟨hs'.1, ?_⟩
  obtain ⟨h1, h2, h3, h4, h5, h6, h7, h8, h9, h10⟩ := hs'.2
  rw [hrest] at h1 h2 h3 h4 h5 h6 h7 h8 h9 h10 hother
  refine ⟨fun id' => ?_, h2, h3, h4, h5, h6, h7, h8, h9, h10⟩
  rw [h1]
  split
  · rfl
  · rename_i hne
    exact hother id' hne

theorem Freed.held (h : s.Freed id s') (hheld : ∀ id' request', id' ≠ id →
    s.requests id' = some request' → request'.authorizationPending = true ∨
      s.activeRequest = some id' ∨ s.pendingAction = some id') : s'.Held := by
  intro id' request' hrequest'
  rw [h.requests] at hrequest'
  split at hrequest'
  · exact absurd hrequest' (Option.some_ne_none _).symm
  rename_i hne
  rw [h.activeRequest, h.pendingAction]
  have := hheld id' request' hne hrequest'
  grind

theorem Freed.consistent (h : s.Freed id s') (hsane : s'.Sane)
    (hwaits : ∀ id' request', id' ≠ id → s.pendingAction = some id' →
      s.requests id' = some request' → s.Waits request')
    (hstopped : s.stopping = true → s.pendingAction = none ∨ s.pendingAction = some id) :
    s'.Consistent := by
  refine ⟨hsane, fun id' request' hpending hrequest' => ?_, fun hstopping => ?_⟩
  · rw [h.requests] at hrequest'
    split at hrequest'
    · exact absurd hrequest' (Option.some_ne_none _).symm
    rename_i hne
    rw [h.pendingAction] at hpending
    split at hpending
    · exact absurd hpending (Option.some_ne_none _).symm
    exact (hwaits id' request' hne hpending hrequest').congr h.policyGeneration h.policyReady
      h.stopping
  · rw [h.pendingAction]
    have hnone := hstopped (h.stopping.symm.trans hstopping)
    grind

/-- Where a request ends in a service that was consistent, it is so still. -/
theorem Freed.of_consistent (h : s.Freed id s') (hsane : s'.Sane) (hs : s.Consistent) :
    s'.Consistent :=
  h.consistent hsane (fun id' request' _ => hs.waits id' request') fun hstopping =>
    .inl (hs.stopped hstopping)

end AwgService

end NmSidebar
