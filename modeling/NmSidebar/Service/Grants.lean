import Mathlib.Data.Set.Card
import NmSidebar.Service.EveryCallback

/-!
# Grants and answers

What the consistency of the service comes to. A helper is started only with a request whose grant is
of the present policy, and is spawned only where nothing is left of another one; and every method
invocation is answered once.
-/

namespace NmSidebar

open Text Effects

variable {s : AwgService} {k : AwgService → AwgServiceM AwgService}
  {stack : List (AwgService → AwgServiceM AwgService)}

/-! ## Stale grants -/

/-- The request has been granted under the present policy, and nothing has revoked it since. -/
structure FreshGrant (s : AwgService) (request : AwgServiceRequest) : Prop where
  check : request.checkBegun = s.policyGeneration
  policy : request.policyBegun = some s.policyGeneration
  ready : s.policyReady = true
  running : s.stopping = false
  uncancelled : request.cancelled = false
  unanswered : request.replySent = false
  intime : request.profileReport = false → s.clock < request.preemptDeadline

/-- In every run, a helper is started only with a request that has a fresh grant. -/
theorem startHelper_granted {id : ℕ} (hreachable : serviceComponent.Reachable
    ⟨.running (.call (.note (.startHelper id) s) k), stack⟩) :
    ∃ request, s.requests id = some request ∧ FreshGrant s request := by
  obtain ⟨request, hstart⟩ : ∃ request, s.MayStart id request :=
    AwgService.contract_keptBy.callout hreachable
  have hgranted := hstart.granted
  exact ⟨request, hstart.found, hgranted.check, hgranted.policy, hgranted.ready, hgranted.running,
    hstart.current, hstart.unsent, hstart.intime⟩

/-! ## Answers -/

/-- The service keeps account of its requests. -/
structure RequestsAccounted (s : AwgService) : Prop where
  /-- No invocation is answered twice, and none is forgotten when its request is freed. -/
  answers : ∀ id < s.invocations, s.replyCount id ≤ 1 ∧
    (s.requests id = none → s.replyCount id = 1)
  /-- A run is that of the active request, and no other request holds the slot of one. -/
  active : ∀ run, s.run = some run → ∃ id request, s.activeRequest = some id ∧
    s.requests id = some request ∧ request.authorizationPending = false ∧
      s.pendingAction ≠ some id
  /-- A sender's bit is that of a live request. -/
  senders : ∀ sender operation, s.pendingSenders sender operation = true ↔
    ∃ id request, s.requests id = some request ∧ request.sender = sender ∧
      senderOperation request.operation = operation
  /-- The number of requests in authorization. -/
  authorizations : s.pendingAuthorizations = Set.ncard {id | ∃ request,
    s.requests id = some request ∧ request.authorizationPending = true}
  bounded : s.pendingAuthorizations ≤ 8

theorem accounted_of_consistent (h : s.Consistent) : RequestsAccounted s where
  answers id hid := by
    cases hrequest : s.requests id with
    | none => exact ⟨(h.answers.freed id hid hrequest).le, fun _ => h.answers.freed id hid hrequest⟩
    | some request =>
      rw [h.answers.sent id request hrequest]
      exact ⟨Bool.toNat_le _, fun hno => absurd hno (Option.some_ne_none _)⟩
  active run hrun := by
    obtain ⟨-, id, request, hactive, hrequest, -⟩ := h.holds.run run hrun
    obtain ⟨request', hrequest', hdone⟩ := h.holds.active id hactive
    exact ⟨id, request', hactive, hrequest', hdone, fun haction =>
      (h.holds.action id haction).1 hactive⟩
  senders := h.registers.senders
  authorizations := by
    have hset : {id | ∃ request, s.requests id = some request ∧
        request.authorizationPending = true} = (s.pendingRequests.toFinset : Set ℕ) := by
      ext id
      rw [Set.mem_ofPred_eq, List.coe_toFinset, Set.mem_ofPred_eq, h.registers.pending]
    rw [hset, Set.ncard_coe_finset, List.toFinset_card_of_nodup h.registers.nodup]
    exact h.registers.counted
  bounded := h.registers.bounded

/-- In every run, wherever the service waits its requests are accounted for, between callbacks each
is in authorization, active or the action that waits, and a helper is spawned only where no run is
left and every retired child was reaped. -/
theorem requests_accounted :
    (∀ s stack, serviceComponent.Reachable ⟨.waiting s, stack⟩ → RequestsAccounted s) ∧
      (∀ s, serviceComponent.Reachable (.idle s) → s.Held) ∧
        ∀ s k stack, serviceComponent.Reachable
            ⟨.running (.call (.note .spawnHelper s) k), stack⟩ →
          s.run = none ∧ s.runner.pendingChildReaps = [] :=
  ⟨fun _ _ hreachable => accounted_of_consistent (AwgService.contract_keptBy.waiting hreachable),
    fun _ hreachable => (AwgService.contract_keptBy.idle hreachable).2.held,
      fun _ _ _ hreachable => AwgService.contract_keptBy.callout hreachable⟩

/-! ## A run -/

/-- A kernel whose clock stands still, and that is not asked for anything else. -/
def stillClock : (o : HostCall) → Option o.Reply
  | .kernel .monotonicMsec => some (1 : ℤ)
  | _ => none

/-- The service after a callback. -/
def afterCallback (s : AwgService) (callback : ServiceCallback) : AwgService :=
  (Component.returned (Component.approach (S := hostSig) stillClock (callback.run s))).getD s

/-- A service that has found its policy safe and is on the bus. -/
def sampleService : AwgService :=
  afterCallback (afterCallback (afterCallback (afterCallback .new .begin) (.authorityReady true))
    (.servicePolicyChecked true)) (.busAcquired true)

/-- An action that polkit has granted, whose policy is being enumerated. -/
def sampleGranted : AwgService :=
  afterCallback (afterCallback sampleService
    (.execute (ascii "up") (ascii "a") [] (some (ascii "x"))))
    (.authorizationChecked 0 (.result true false))

/-- The enumeration of the policy has returned, up to the start of a helper. -/
def sampleStart : AwgServiceM AwgService :=
  Component.approach (S := hostSig) stillClock
    ((ServiceCallback.requestPolicyChecked 0 true).run sampleGranted)

theorem reachable_afterCallback (hs : serviceComponent.Reachable (.idle s))
    (callback : ServiceCallback) (henabled : callback.Enabled s) :
    serviceComponent.Reachable (.idle (afterCallback s callback)) :=
  Component.Reachable.returned (fun _ _ _ => trivial) hs henabled

theorem sampleGranted_reachable : serviceComponent.Reachable (.idle sampleGranted) := by
  have hnew : serviceComponent.Reachable (.idle .new) := .start rfl
  have hbegun := reachable_afterCallback hnew .begin rfl
  have hauthority := reachable_afterCallback hbegun (.authorityReady true)
    (show PolicyCall.authority ∈ _ by decide +kernel)
  have hchecked := reachable_afterCallback hauthority (.servicePolicyChecked true)
    (show PolicyCall.enumeration ∈ _ by decide +kernel)
  have hacquired := reachable_afterCallback hchecked (.busAcquired true)
    (show AwgService.ownsName _ = true by decide +kernel)
  have hexecuted := reachable_afterCallback hacquired
    (.execute (ascii "up") (ascii "a") [] (some (ascii "x")))
    (show AwgService.registered _ = true by decide +kernel)
  exact reachable_afterCallback hexecuted (.authorizationChecked 0 (.result true false))
    (show (0, RequestCall.check) ∈ ServiceState.calls _ by decide +kernel)

theorem sampleStart_reachable : serviceComponent.Reachable ⟨.running sampleStart, []⟩ :=
  @Component.Reachable.approach _ _ _ serviceComponent _ (fun _ _ _ => trivial) _
    sampleGranted_reachable (.requestPolicyChecked 0 true)
    (show (0, RequestCall.policy) ∈ sampleGranted.calls by decide +kernel)

/-- The action of the run has a fresh grant when its helper is started. -/
theorem startHelper_granted_sample : ∃ s k, serviceComponent.Reachable
    ⟨.running (.call (.note (.startHelper 0) s) k), []⟩ ∧
      ∃ request, s.requests 0 = some request ∧ FreshGrant s request := by
  obtain ⟨s, k, hstart⟩ := Component.exists_of_noted
    (show Component.noted sampleStart = some (.startHelper 0) by decide +kernel)
  have hreachable := sampleStart_reachable
  rw [hstart] at hreachable
  exact ⟨s, k, hreachable, startHelper_granted hreachable⟩

/-- The request of the run is accounted for, and its helper is the only one. -/
theorem requests_accounted_sample : RequestsAccounted sampleGranted ∧ sampleGranted.Held ∧
    ∃ s k, serviceComponent.Reachable ⟨.running (.call (.note .spawnHelper s) k), []⟩ ∧
      s.run = none ∧ s.runner.pendingChildReaps = [] := by
  obtain ⟨haccounted, hheld, hspawn⟩ := requests_accounted
  obtain ⟨s, k, hstart⟩ := Component.exists_of_noted
    (show Component.noted (Component.past (S := hostSig) stillClock sampleStart) =
      some .spawnHelper by decide +kernel)
  have hreachable := sampleStart_reachable.past (S := hostSig) (fun (o : HostCall) (_ : o.Reply)
    (_ : stillClock o = some _) => trivial)
  rw [hstart] at hreachable
  exact ⟨haccounted _ _ sampleGranted_reachable, hheld _ sampleGranted_reachable, s, k, hreachable,
    hspawn s k [] hreachable⟩

end NmSidebar
