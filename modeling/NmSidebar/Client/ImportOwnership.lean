import NmSidebar.Client.Callbacks
import NmSidebar.Client.ImportHolding

/-!
# An import is never stranded

Whoever selects a file has a chooser, and whoever loads one has a loader that will deliver: in every
run in which nobody calls back but those that `app.c`, the inventory, the runtime source and the
backend do.
-/

namespace NmSidebar

open Text Effects

/-! ## The contract -/

/-- The imports of the client. -/
def importAspect : Aspect ImportView where
  view := AwgClient.importView
  Kept := ImportView.Owned
  Tends := ImportView.Tends
  Settled := ImportView.Settled
  refl := .refl
  trans := ImportView.Tends.trans
  view_nextGeneration _ := rfl
  view_markExternal _ _ := rfl
  view_showNotice client event := by
    unfold AwgClient.showNotice
    split <;> rfl

namespace AwgClient

/-- What a function leaves, in a client that keeps its flight. -/
abbrev LeavesImport {α : Type} (p : ClientM α) (Q : α → Prop) : Prop :=
  Leaves importAspect.contract p Q

/-- A function keeps the contract, and its owner may be called from within a callout. -/
def KeepsImport (client : AwgClient) (p : ClientM AwgClient) : Prop :=
  LeavesImport p fun client' =>
    client'.importView.Owned ∧ client.importView.Tends client'.importView

/-- A function leaves no import. -/
def FreesImport {α : Type} (state : α → AwgClient) (p : ClientM α) : Prop :=
  LeavesImport p fun a => (state a).importView.Free

/-- A function leaves a client that is settled. -/
def SettlesImport (p : ClientM AwgClient) : Prop :=
  LeavesImport p fun client' => client'.importView.Owned ∧ client'.importView.Settled

variable {client client' : AwgClient} {activityId index : ℕ} {α β : Type}

/-- What a function does after a step. -/
theorem KeepsImport.after {p : ClientM AwgClient} (h : KeepsImport client' p)
    (htends : client.importView.Tends client'.importView) : KeepsImport client p :=
  Aspect.Keeps.after (A := importAspect) h htends

theorem KeepsImport.same {p : ClientM AwgClient} (h : KeepsImport client' p)
    (hview : client'.importView = client.importView) : KeepsImport client p :=
  Aspect.Keeps.same (A := importAspect) h hview

theorem KeepsImport.bind {p : ClientM AwgClient} {f : AwgClient → ClientM AwgClient}
    (h : KeepsImport client p) (hf : ∀ client', client'.importView.Owned →
      client.importView.Tends client'.importView → KeepsImport client' (f client')) :
    KeepsImport client (p >>= f) :=
  Aspect.Keeps.bind (A := importAspect) h hf

/-- Where there is no import, none begins. -/
theorem KeepsImport.frees {p : ClientM AwgClient} (h : KeepsImport client p)
    (hfree : client.importView.Free) : FreesImport id p :=
  h.mono fun _ hs => hfree.tends hs.1 hs.2

theorem KeepsImport.settles {p : ClientM AwgClient} (h : KeepsImport client p)
    (howned : client.importView.Owned) (hsettled : client.importView.Settled) : SettlesImport p :=
  h.mono fun _ hs => ⟨hs.1, hsettled.tends howned hs.1 hs.2⟩

theorem FreesImport.settles {p : ClientM AwgClient} (h : FreesImport id p) : SettlesImport p :=
  h.mono fun _ hs => ⟨hs.toOwned, hs.settled⟩

theorem keepsImport_pure (h : client.importView.Owned) : KeepsImport client (return client) :=
  ⟨h, .refl _⟩

/-- A callout gives a client back that has kept both contracts. -/
theorem leavesImport_callout (h : client.importView.Owned) (n : ClientNote) :
    LeavesImport (callout n client) fun client' => client'.flight.Sound ∧
      client'.importView.Owned ∧ client.importView.Tends client'.importView :=
  Aspect.leaves_callout (A := importAspect) h n

theorem keepsImport_callout (h : client.importView.Owned) (n : ClientNote) :
    KeepsImport client (callout n client) :=
  Aspect.keeps_callout (A := importAspect) h n

theorem freesImport_callout (h : client.importView.Free) (n : ClientNote) :
    FreesImport id (callout n client) :=
  (keepsImport_callout h.toOwned n).frees h

/-! ## What leaves the imports alone -/

@[simp] theorem importView_emitNotice (event : NoticeEvent) :
    (client.emitNotice event).importView = client.importView :=
  Aspect.view_emitNotice (A := importAspect) client event

@[simp] theorem importView_emitActionNotice (notice : AwgNotice) (action : ServiceAction) :
    (client.emitActionNotice notice action).importView = client.importView :=
  importView_emitNotice _

@[simp] theorem importView_acceptConfirmation (kind : ConfirmationKind) (activityId : ℕ)
    (name : Option Name) :
    (client.acceptConfirmation kind activityId name).1.importView = client.importView := by
  unfold acceptConfirmation
  split
  · rfl
  · split
    · rfl
    · rfl
    · split <;> rfl

theorem keepsImport_emitChanged (h : client.importView.Owned) (delayMs : ℕ) :
    KeepsImport client (client.emitChanged delayMs) :=
  Aspect.keeps_emitChanged (A := importAspect) h delayMs

theorem keepsImport_setExternalInteraction (h : client.importView.Owned) (active : Bool) :
    KeepsImport client (client.setExternalInteraction active) :=
  Aspect.keeps_setExternalInteraction (A := importAspect) h active

/-! ## Activities -/

/-- Where an operation is admitted the user is authorized, and nobody has been told anything. -/
theorem leavesImport_operationIsAllowed (h : client.importView.Owned)
    (operation : BackendOperation) (name : Option Name) (continuingActivity : Bool) :
    LeavesImport (client.operationIsAllowed operation name continuingActivity) fun reply =>
      reply.client.importView.Owned ∧ client.importView.Tends reply.client.importView ∧
        (reply.allowed = true → reply.client = client ∧ client.authorized = true) :=
  Aspect.leaves_operationIsAllowed (A := importAspect) h operation name continuingActivity

theorem freesImport_operationIsAllowed (h : client.importView.Free) (operation : BackendOperation)
    (name : Option Name) (continuingActivity : Bool) :
    FreesImport OperationReply.client
      (client.operationIsAllowed operation name continuingActivity) :=
  (leavesImport_operationIsAllowed h.toOwned operation name continuingActivity).mono
    fun _ hs => h.tends hs.1 hs.2.1

/-- An activity ends. Where it is an import, its chooser and its loader are gone. -/
theorem keepsImport_finishActivity (h : client.importView.Owned)
    (hended : client.activityId = activityId → client.activity.isImporting = true →
      client.chooser = none ∧ client.importLoader = none) (delayMs : ℕ) :
    KeepsImport client (client.finishActivity activityId delayMs) := by
  unfold finishActivity
  split
  · exact keepsImport_pure h
  · rename_i hmatches
    have hmatches := activityMatches_iff.mp (Bool.eq_true_of_not_eq_false hmatches)
    have hfinished : client.finished.importView.Owned := h.finish
    refine @KeepsImport.after client client.finished _ ?_
      (ImportView.tends_finish (hended hmatches.id))
    refine (keepsImport_emitChanged hfinished delayMs).bind fun emitted hs _ => ?_
    split
    · exact keepsImport_pure hs
    · refine (keepsImport_callout hs _).bind fun _ hs _ => ?_
      split
      · exact leaves_tell (keepsImport_pure hs)
      · exact keepsImport_pure hs

theorem freesImport_finishActivity (h : client.importView.Free) (activityId delayMs : ℕ) :
    FreesImport id (client.finishActivity activityId delayMs) :=
  (keepsImport_finishActivity h.toOwned (fun _ himporting =>
    absurd (h.other.symm.trans himporting) Bool.false_ne_true) delayMs).frees h

/-- The import ends that the chooser and the loader are gone of. -/
theorem freesImport_finishImport (h : client.importView.Bare)
    (hid : client.activity.isImporting = true → client.activityId = activityId) (delayMs : ℕ) :
    FreesImport id (client.finishActivity activityId delayMs) := by
  by_cases hfree : client.activity.isImporting = true
  · have hbusy : client.activity ≠ .idle := fun hidle => by
      rw [hidle] at hfree
      exact Bool.false_ne_true hfree
    have hmatches : client.activityMatches activityId = true :=
      activityMatches_iff.mpr ⟨(h.running hbusy).1, (h.running hbusy).2, hbusy, hid hfree⟩
    unfold finishActivity
    rw [if_neg (by simp [hmatches])]
    have hfinished : client.finished.importView.Free :=
      ⟨⟨h.toOwned.finish, h.unchosen, h.unheld⟩, rfl⟩
    refine ((keepsImport_emitChanged hfinished.toOwned delayMs).bind fun emitted hs _ => ?_).frees
      hfinished
    split
    · exact keepsImport_pure hs
    · refine (keepsImport_callout hs _).bind fun _ hs _ => ?_
      split
      · exact leaves_tell (keepsImport_pure hs)
      · exact keepsImport_pure hs
  · exact freesImport_finishActivity ⟨h, Bool.eq_false_iff.mpr hfree⟩ activityId delayMs

/-- The activity goes on as another one that is no import. -/
theorem freesImport_transitionActivity (h : client.importView.Bare)
    (hid : client.activity.isImporting = true → client.activityId = activityId)
    {activity : AwgActivity} (hactivity : activity ≠ .idle) (hother : activity.isImporting = false)
    (name : Option Name) :
    FreesImport Prod.fst (client.transitionActivity activityId activity name) := by
  unfold transitionActivity
  split
  · rename_i hrefused
    refine ⟨h, Bool.eq_false_iff.mpr fun himporting => ?_⟩
    have hbusy : client.activity ≠ .idle := fun hidle => by
      rw [show client.importView.activity = .idle from hidle] at himporting
      exact Bool.false_ne_true himporting
    rcases hrefused with hfails | hidle
    · refine Bool.false_ne_true (hfails.symm.trans (activityMatches_iff.mpr ?_))
      exact ⟨(h.running hbusy).1, (h.running hbusy).2, hbusy, hid himporting⟩
    · exact hactivity hidle
  · rename_i hgoes
    obtain ⟨hmatches, -⟩ := not_or.mp hgoes
    have hmatches := activityMatches_iff.mp (Bool.eq_true_of_not_eq_false hmatches)
    have hentered : (client.entered activity name).importView.Free :=
      ⟨h.enter hmatches.busy fun himporting =>
        absurd (hother.symm.trans himporting) Bool.false_ne_true, hother⟩
    exact Leaves.bind ((keepsImport_emitChanged hentered.toOwned 1).frees hentered) fun _ hs => hs

/-- A new activity begins where there was none. -/
theorem leaves_beginActivity (h : client.importView.Owned) (operation : BackendOperation)
    (activity : AwgActivity) (name : Option Name)
    (hbare : client.activity = .idle → client.importView.Bare) :
    LeavesImport (client.beginActivity operation activity name) fun begun => begun.1.importView.Owned ∧
      (begun.2 = false ∧ client.importView.Tends begun.1.importView ∨
        client.activity = .idle ∧ (client.importView.begin activity).Bare ∧
          (client.importView.begin activity).Tends begun.1.importView ∧
          begun.2 = (begun.1.activityMatches (client.activityId + 1) &&
            begun.1.activity == activity)) := by
  unfold beginActivity
  split
  · exact ⟨h, .inl ⟨rfl, .refl _⟩⟩
  · rename_i hgoes
    simp only [not_or, Bool.not_eq_false, not_not] at hgoes
    obtain ⟨hrunning, -, hidle, -⟩ := hgoes
    simp only [isRunning, Bool.and_eq_true, Bool.not_eq_true'] at hrunning
    refine Leaves.bind (leavesImport_operationIsAllowed h operation name false) fun reply hreply => ?_
    obtain ⟨hs, htends, hallowed⟩ := hreply
    split
    · exact ⟨hs, .inl ⟨rfl, htends⟩⟩
    · rename_i hyes
      obtain ⟨rfl, hauthorized⟩ := hallowed (Bool.eq_true_of_not_eq_false hyes)
      refine leaves_tell ?_
      have hbegun : (reply.client.begun activity name).importView.Bare :=
        (hbare hidle).begin hrunning fun _ => hauthorized
      refine Leaves.bind (keepsImport_emitChanged hbegun.toOwned 1) fun client' hs' => ?_
      exact ⟨hs'.1, .inr ⟨hidle, hbegun, hs'.2, rfl⟩⟩

/-! ## Operations of the service -/

theorem FreesImport.bind {state : α → AwgClient} {state' : β → AwgClient} {p : ClientM α}
    {f : α → ClientM β} (hp : FreesImport state p)
    (hf : ∀ a, (state a).importView.Free → FreesImport state' (f a)) :
    FreesImport state' (p >>= f) :=
  Leaves.bind hp hf

/-- The same after a notice. -/
theorem free_emitNotice (h : client.importView.Free) (event : NoticeEvent) :
    (client.emitNotice event).importView.Free := by
  rwa [importView_emitNotice]

theorem free_emitActionNotice (h : client.importView.Free) (notice : AwgNotice)
    (action : ServiceAction) : (client.emitActionNotice notice action).importView.Free :=
  free_emitNotice h _

theorem freesImport_complete (h : client.importView.Free) (action : ServiceAction)
    (inventoryDelayMs : ℕ) (purpose : RefreshPurpose) : FreesImport id
      (client.completeMutationActionWithPurpose action inventoryDelayMs purpose) := by
  unfold completeMutationActionWithPurpose
  split
  · exact h
  · refine leaves_tellIf ((@freesImport_callout client.verifying h _).bind fun told hs =>
      leaves_clientCall fun checking => ?_)
    split
    · exact freesImport_finishActivity hs _ _
    · exact hs

theorem freesImport_confirmationUnavailable (h : client.importView.Free) (action : ServiceAction)
    (kind : ConfirmationKind) : FreesImport id (client.confirmationUnavailable action kind) := by
  unfold confirmationUnavailable
  split
  · exact freesImport_complete (free_emitActionNotice h _ _) _ _ _
  · exact freesImport_finishActivity (free_emitActionNotice h _ _) _ _

theorem freesImport_presentConfirmationRequest (h : client.importView.Free)
    (action : ServiceAction) (kind : ConfirmationKind) :
    FreesImport id (client.presentConfirmationRequest action kind) := by
  unfold presentConfirmationRequest
  split
  · exact h
  · have haccepted : (if client.uiListens = true then
        client.acceptConfirmation kind action.activityId action.name
      else (client, false)).1.importView.Free := by
      split
      · rwa [importView_acceptConfirmation]
      · exact h
    have hpresents (accepted : AwgClient × Bool) (haccepted : accepted.1.importView.Free) :
        FreesImport id (if accepted.1.confirmationMatches kind action.activityId = false ∨
          accepted.2 = true then return accepted.1 else accepted.1.unwaiting.confirmationUnavailable
            (accepted.1.pendingConfirmation.getD action) kind) := by
      split
      · exact haccepted
      · exact @freesImport_confirmationUnavailable accepted.1.unwaiting haccepted _ _
    exact hpresents _ haccepted

theorem freesImport_requestConfirmation (h : client.importView.Free) (action : ServiceAction)
    (kind : ConfirmationKind) : FreesImport id (client.requestConfirmation action kind) := by
  unfold requestConfirmation completeMutationWithoutInventory
  split
  · exact h
  split
  · exact freesImport_finishActivity (free_emitNotice h _) _ _
  split
  · exact freesImport_confirmationUnavailable h _ _
  split
  · exact @freesImport_presentConfirmationRequest (client.waiting action) h _ _
  · have hother (himporting : client.activity.isImporting = true) :
        client.activityId = action.activityId :=
      absurd (h.other.symm.trans himporting) Bool.false_ne_true
    refine FreesImport.bind (@freesImport_transitionActivity (client.waiting action) _ h.toBare
      hother _ (confirmation_ne_idle kind) (isImporting_confirmation kind) _) fun entered hs => ?_
    split
    · exact freesImport_presentConfirmationRequest hs _ _
    split
    · exact hs
    · exact hs

theorem freesImport_serviceSucceeded (h : client.importView.Free) (action : ServiceAction) :
    FreesImport id (client.serviceSucceeded action) := by
  unfold serviceSucceeded completeMutationWithoutInventory
  have hdeleted : FreesImport id (client.recordDelete action) := by
    unfold recordDelete
    split
    · exact (@freesImport_callout client.forgetName h _).bind fun _ hs => freesImport_callout hs _
    · exact h
  refine hdeleted.bind fun deleted hs => ?_
  have hrecorded : FreesImport id (AwgClient.recordImport (id deleted) action) := by
    unfold recordImport
    split
    · exact freesImport_callout hs _
    · exact hs
  refine FreesImport.bind hrecorded fun recorded hs => ?_
  split
  · exact leaves_tell (freesImport_finishActivity (free_emitActionNotice hs _ _) _ _)
  · exact freesImport_complete (free_emitActionNotice hs _ _) _ _ _

theorem freesImport_serviceReplied (h : client.importView.Free) (action : ServiceAction)
    (status : ℕ) : FreesImport id (client.serviceReplied action status) := by
  unfold serviceReplied helperFailed
  refine (freesImport_callout h _).bind fun reached hs => ?_
  split
  · exact freesImport_serviceSucceeded hs action
  split
  · exact freesImport_requestConfirmation hs action _
  · exact leaves_tellIf (freesImport_complete (free_emitNotice hs _) _ _ _)

theorem freesImport_serviceResult (h : client.importView.Free) (result : BackendResult)
    (action : ServiceAction) : FreesImport id (client.backendServiceResult result action) := by
  unfold backendServiceResult completeMutationWithoutInventory
  split
  · exact h
  refine (freesImport_callout h _).bind fun told hs => ?_
  have hcompletes (client : AwgClient) (h : client.importView.Free) (notice : AwgNotice)
      (delayMs : ℕ) : FreesImport id
        ((client.emitActionNotice notice action).completeMutationAction action delayMs) :=
    freesImport_complete (free_emitActionNotice h notice action) action delayMs _
  split
  · exact freesImport_finishActivity hs _ _
  · exact hcompletes told hs _ _
  · exact (freesImport_callout hs _).bind fun reached hs => leaves_tell (hcompletes reached hs _ _)
  · refine (freesImport_callout hs _).bind fun reached hs => ?_
    exact (freesImport_callout hs _).bind fun invalidated hs =>
      freesImport_finishActivity (free_emitActionNotice hs _ _) _ _
  · exact (freesImport_callout hs _).bind fun reached hs => hcompletes reached hs _ _
  · exact (freesImport_callout hs _).bind fun reached hs => leaves_tell (hcompletes reached hs _ _)
  · exact freesImport_serviceReplied hs action result.status

theorem freesImport_backendExecute (h : client.importView.Free) (action : ServiceAction) :
    FreesImport id (client.backendExecute action) := by
  have hresult (result : BackendResult) :
      FreesImport id ((client.executed action).backendServiceResult result action) :=
    @freesImport_serviceResult (client.executed action) h result action
  unfold backendExecute
  split
  · exact hresult _
  · refine leaves_clientCall fun passed => ?_
    split
    · exact hresult _
    · exact h

theorem freesImport_refuse (h : client.importView.Free) (notice : AwgNotice)
    (action : ServiceAction) : FreesImport id (client.refuseAction notice action) :=
  freesImport_finishActivity (free_emitActionNotice h notice action) _ _

theorem freesImport_dispatchAdmitted (h : client.importView.Free) (action : ServiceAction) :
    FreesImport id (client.dispatchAdmitted action) := by
  unfold dispatchAdmitted completeMutationWithoutInventory
  split
  · exact h
  split
  · exact freesImport_refuse h _ _
  have hreply : FreesImport OperationReply.client (client.commandIsAllowed action) := by
    unfold commandIsAllowed
    split
    · exact h
    · exact freesImport_operationIsAllowed h _ _ _
  refine hreply.bind fun reply hs => ?_
  split
  · exact freesImport_finishActivity hs _ _
  · refine leaves_clientCall fun facts => ?_
    split
    · exact freesImport_refuse hs _ _
    · exact (freesImport_callout hs _).bind fun told hs => freesImport_backendExecute hs action

theorem freesImport_dispatch (h : client.importView.Free) (action : ServiceAction) :
    FreesImport id (client.dispatchServiceAction action) := by
  unfold dispatchServiceAction
  split
  · exact h
  split
  · exact freesImport_refuse h _ _
  split
  · exact freesImport_refuse h _ _
  · exact (freesImport_callout h _).bind fun preempted hs => freesImport_dispatchAdmitted hs action

/-- An activity goes on as that of its operation, which is dispatched. -/
theorem freesImport_enterDispatch (h : client.importView.Free) {activity : AwgActivity}
    (hactivity : activity ≠ .idle) (hother : activity.isImporting = false) (activityId : ℕ)
    (name : Option Name) (f : AwgClient → AwgClient) (hf : ∀ client, client.importView.Free →
      (f client).importView.Free) (action : ServiceAction) :
    FreesImport id (do
      let entered ← client.transitionActivity activityId activity name
      if entered.2 then (f entered.1).dispatchServiceAction action else return entered.1) := by
  refine FreesImport.bind (freesImport_transitionActivity h.toBare
    (fun himporting => absurd (h.other.symm.trans himporting) Bool.false_ne_true) hactivity hother
    name) fun entered hs => ?_
  split
  · exact freesImport_dispatch (hf entered.1 hs) action
  · exact hs

theorem freesImport_confirmReplace (h : client.importView.Free) (activityId : ℕ)
    (action : ServiceAction) : FreesImport id (client.confirmReplace activityId action) := by
  unfold confirmReplace
  refine (freesImport_operationIsAllowed h _ _ _).bind fun reply hs => ?_
  split
  · exact freesImport_complete hs _ _ _
  · exact freesImport_enterDispatch hs (by simp) rfl activityId _ id (fun _ h => h) _

theorem freesImport_confirmRemoval (h : client.importView.Free) (activityId : ℕ)
    (action : ServiceAction) : FreesImport id (client.confirmRemoval activityId action) := by
  unfold confirmRemoval completeMutationWithoutInventory
  refine (freesImport_operationIsAllowed h _ _ _).bind fun reply hs => ?_
  split
  · exact freesImport_finishActivity hs _ _
  · exact freesImport_enterDispatch hs (by simp) rfl activityId _
      (·.emitNotice ⟨.operationStarted, .delete, 0, .none, action.name⟩)
      (fun _ h => free_emitNotice h _) _

/-! ## What the user asks for -/

/-- What the user chooses in a dialog does not touch an import. -/
theorem settlesImport_confirmationChosenCb (h : client.importView.Owned)
    (hsettled : client.importView.Settled) (kind : ConfirmationKind) (activityId : ℕ)
    (confirmed : Bool) :
    SettlesImport (client.confirmationChosenCb kind activityId confirmed) := by
  unfold confirmationChosenCb confirmationResponse
  split
  · split
    · split
      · exact ⟨h, hsettled⟩
      · rename_i action hpending
        split
        · exact ⟨h, hsettled⟩
        rename_i hmatches
        obtain ⟨-, hactivity, -⟩ := confirmationMatches_iff.mp
          (Bool.eq_true_of_not_eq_false hmatches)
        -- while a confirmation is awaited there is no import
        have hfree : client.importView.Free := hsettled.free h (by
          rw [show client.importView.activity = kind.activity from hactivity]
          exact isImporting_confirmation kind)
        have hanswered : client.clearConfirmation.unwaiting.importView.Free := hfree
        split
        · exact (freesImport_complete hanswered _ _ _).settles
        · exact (freesImport_confirmReplace hanswered activityId action).settles
        · exact (freesImport_finishActivity hanswered _ _).settles
        · exact (freesImport_confirmRemoval hanswered activityId action).settles
    · exact ⟨h, hsettled⟩
  · exact ⟨h, hsettled⟩

/-- An activity that is no import begins where there was none. -/
theorem leaves_beginOther (h : client.importView.Owned) (hsettled : client.importView.Settled)
    {activity : AwgActivity} (hother : activity.isImporting = false) (operation : BackendOperation)
    (name : Option Name) :
    LeavesImport (client.beginActivity operation activity name) fun begun => begun.1.importView.Owned ∧
      begun.1.importView.Settled ∧ (begun.2 = true → begun.1.importView.Free) := by
  have hbare (hidle : client.activity = .idle) : client.importView.Free :=
    hsettled.free h (by rw [show client.importView.activity = .idle from hidle]; rfl)
  refine (leaves_beginActivity h operation activity name fun hidle => (hbare hidle).toBare).mono
    fun begun hs => ?_
  obtain ⟨hs, ⟨hrefused, htends⟩ | ⟨-, hbegun, htends, -⟩⟩ := hs
  · exact ⟨hs, hsettled.tends h hs htends, fun hbegun =>
      absurd (hrefused.symm.trans hbegun) Bool.false_ne_true⟩
  · have hfree : begun.1.importView.Free := ImportView.Free.tends ⟨hbegun, hother⟩ hs htends
    exact ⟨hs, hfree.settled, fun _ => hfree⟩

theorem settlesImport_controllerSetActive (h : client.importView.Owned)
    (hsettled : client.importView.Settled) (name : Name) (active : Bool) :
    SettlesImport (client.controllerSetActive name active) := by
  unfold controllerSetActive
  split
  · exact ⟨h, hsettled⟩
  · refine Leaves.bind (leavesImport_operationIsAllowed h _ _ _) fun reply hs => ?_
    have hsettled := hsettled.tends h hs.1 hs.2.1
    split
    · exact ⟨hs.1, hsettled⟩
    · have hother : (if active = true then AwgActivity.up else .down).isImporting = false := by
        cases active <;> rfl
      refine Leaves.bind (leaves_beginOther hs.1 hsettled hother _ _) fun begun hs => ?_
      obtain ⟨hs, hsettled, hfree⟩ := hs
      split
      · exact ⟨hs, hsettled⟩
      · rename_i hbegun
        have hfree := hfree (Bool.eq_true_of_not_eq_false hbegun)
        exact (freesImport_dispatch (free_emitActionNotice hfree _ _) _).settles

theorem settlesImport_controllerConfirmDelete (h : client.importView.Owned)
    (hsettled : client.importView.Settled) (name : Name) :
    SettlesImport (client.controllerConfirmDelete name) := by
  unfold controllerConfirmDelete
  split
  · exact ⟨h, hsettled⟩
  · refine Leaves.bind (leavesImport_operationIsAllowed h _ _ _) fun reply hs => ?_
    have hsettled := hsettled.tends h hs.1 hs.2.1
    split
    · exact ⟨hs.1, hsettled⟩
    split
    · show (reply.client.emitNotice _).importView.Owned ∧ (reply.client.emitNotice _).importView.Settled
      rw [importView_emitNotice]
      exact ⟨hs.1, hsettled⟩
    · refine Leaves.bind (leaves_beginOther hs.1 hsettled rfl _ _) fun begun hs => ?_
      obtain ⟨hs, hsettled, hfree⟩ := hs
      split
      · exact ⟨hs, hsettled⟩
      · rename_i hbegun
        have hfree := hfree (Bool.eq_true_of_not_eq_false hbegun)
        exact (freesImport_requestConfirmation hfree _ _).settles

end AwgClient

end NmSidebar
