import NmSidebar.Client.Awaiting

/-!
# Operations end, or ask

An operation of the service ends its activity, has it verified or asks the user; the user's answer
ends the activity or has the operation dispatched.
-/

namespace NmSidebar

open Text Effects

namespace AwgClient

/-- What a function leaves, in a client that keeps its flight. -/
abbrev LeavesAwait {α : Type} (p : ClientM α) (Q : α → Prop) : Prop :=
  Leaves awaitAspect.contract p Q

/-- A function keeps the contract, and its owner may be called from within a callout. -/
def KeepsAwait (client : AwgClient) (p : ClientM AwgClient) : Prop :=
  LeavesAwait p fun client' =>
    client'.awaitView.Kept ∧ client.awaitView.Tends client'.awaitView

/-- A function leaves an activity that awaits no confirmation. -/
def ServesActivity (p : ClientM AwgClient) : Prop :=
  LeavesAwait p fun client' => client'.awaitView.Served

/-- A function leaves a client that is settled. -/
def SettlesActivity (p : ClientM AwgClient) : Prop :=
  LeavesAwait p fun client' => client'.awaitView.Kept ∧ client'.awaitView.Settled

variable {client client' : AwgClient} {activityId : ℕ} {action : ServiceAction}
  {p : ClientM AwgClient}

theorem KeepsAwait.after (h : KeepsAwait client' p)
    (htends : client.awaitView.Tends client'.awaitView) : KeepsAwait client p :=
  Aspect.Keeps.after (A := awaitAspect) h htends

theorem KeepsAwait.bind {f : AwgClient → ClientM AwgClient} (h : KeepsAwait client p)
    (hf : ∀ client', client'.awaitView.Kept → client.awaitView.Tends client'.awaitView →
      KeepsAwait client' (f client')) : KeepsAwait client (p >>= f) :=
  Aspect.Keeps.bind (A := awaitAspect) h hf

theorem KeepsAwait.serves (h : KeepsAwait client p) (hserved : client.awaitView.Served) :
    ServesActivity p :=
  h.mono fun _ hs => hserved.tends hs.1 hs.2

theorem KeepsAwait.settles (h : KeepsAwait client p) (hsettled : client.awaitView.Settled) :
    SettlesActivity p :=
  h.mono fun _ hs => ⟨hs.1, hsettled.tends hs.1 hs.2⟩

theorem ServesActivity.settles (h : ServesActivity p) : SettlesActivity p :=
  h.mono fun _ hs => ⟨hs.toKept, .inl hs⟩

theorem settles_served (h : client.awaitView.Served) : SettlesActivity (return client) :=
  ⟨h.toKept, .inl h⟩

theorem keepsAwait_pure (h : client.awaitView.Kept) : KeepsAwait client (return client) :=
  ⟨h, .refl _⟩

theorem keepsAwait_callout (h : client.awaitView.Kept) (n : ClientNote) :
    KeepsAwait client (callout n client) :=
  Aspect.keeps_callout (A := awaitAspect) h n

theorem keepsAwait_emitChanged (h : client.awaitView.Kept) (delayMs : ℕ) :
    KeepsAwait client (client.emitChanged delayMs) :=
  Aspect.keeps_emitChanged (A := awaitAspect) h delayMs

theorem keepsAwait_setExternalInteraction (h : client.awaitView.Kept) (active : Bool) :
    KeepsAwait client (client.setExternalInteraction active) :=
  Aspect.keeps_setExternalInteraction (A := awaitAspect) h active

/-- Where an operation is admitted the user is authorized, and nobody has been told anything. -/
theorem leavesAwait_operationIsAllowed (h : client.awaitView.Kept) (operation : BackendOperation)
    (name : Option Name) (continuingActivity : Bool) :
    LeavesAwait (client.operationIsAllowed operation name continuingActivity) fun reply =>
      reply.client.awaitView.Kept ∧ client.awaitView.Tends reply.client.awaitView ∧
        (reply.allowed = true → reply.client = client ∧ client.authorized = true) :=
  Aspect.leaves_operationIsAllowed (A := awaitAspect) h operation name continuingActivity

@[simp] theorem awaitView_emitNotice (event : NoticeEvent) :
    (client.emitNotice event).awaitView = client.awaitView :=
  Aspect.view_emitNotice (A := awaitAspect) client event

@[simp] theorem awaitView_emitActionNotice (notice : AwgNotice) (action : ServiceAction) :
    (client.emitActionNotice notice action).awaitView = client.awaitView :=
  awaitView_emitNotice _

@[simp] theorem awaitView_disown (index : ℕ) :
    (client.disown index).awaitView = client.awaitView := by
  unfold disown
  split <;> rfl

/-- An activity that the controller does not recognize by its own id has ended. -/
theorem idle_of_mismatch (h : client.awaitView.Kept) (hid : client.activityId = activityId)
    (hfails : client.activityMatches activityId = false) : client.activity = .idle := by
  by_contra hbusy
  refine Bool.false_ne_true (hfails.symm.trans (activityMatches_iff.mpr ?_))
  exact ⟨(h.running hbusy).1, (h.running hbusy).2, hbusy, hid⟩

/-! ## Activities -/

/-- An activity ends. Where it awaits a confirmation, the presenter has let go of it. -/
theorem keepsAwait_finishActivity (h : client.awaitView.Kept)
    (hended : client.activity.isConfirming = true → client.deferredConfirmation = none)
    (activityId delayMs : ℕ) : KeepsAwait client (client.finishActivity activityId delayMs) := by
  unfold finishActivity
  split
  · exact keepsAwait_pure h
  · have hfinished : client.finished.awaitView.Kept := h.finish
    refine @KeepsAwait.after client client.finished _ ?_ (AwaitView.tends_finish hended)
    refine (keepsAwait_emitChanged hfinished delayMs).bind fun emitted hs _ => ?_
    split
    · exact keepsAwait_pure hs
    · refine (keepsAwait_callout hs _).bind fun _ hs _ => ?_
      split
      · exact leaves_tell (keepsAwait_pure hs)
      · exact keepsAwait_pure hs

theorem servesActivity_finish (h : client.awaitView.Quiet) (hid : client.activityId = activityId)
    (delayMs : ℕ) : ServesActivity (client.finishActivity activityId delayMs) := by
  by_cases hmatches : client.activityMatches activityId = true
  · unfold finishActivity
    rw [if_neg (by simp [hmatches])]
    have hfinished : client.finished.awaitView.Served := h.finish
    refine ((keepsAwait_emitChanged hfinished.toKept delayMs).bind fun emitted hs _ => ?_).serves
      hfinished
    split
    · exact keepsAwait_pure hs
    · refine (keepsAwait_callout hs _).bind fun _ hs _ => ?_
      split
      · exact leaves_tell (keepsAwait_pure hs)
      · exact keepsAwait_pure hs
  · have hfails := Bool.eq_false_iff.mpr hmatches
    unfold finishActivity
    rw [if_pos hfails]
    exact h.served_of_idle (idle_of_mismatch h.toKept hid hfails)

theorem servesActivity_finishNoticed (h : client.awaitView.Quiet)
    (hid : client.activityId = activityId) (event : NoticeEvent) (delayMs : ℕ) :
    ServesActivity ((client.emitNotice event).finishActivity activityId delayMs) := by
  have hview := client.awaitView_emitNotice event
  exact servesActivity_finish (hview ▸ h) ((congrArg AwaitView.activityId hview).trans hid) delayMs

/-- What a transition has come to. -/
structure Entered (client : AwgClient) (activity : AwgActivity) (entered : AwgClient × Bool) :
    Prop where
  quiet : entered.1.awaitView.Quiet
  id : entered.1.activityId = client.activityId
  goesOn : entered.2 = true → entered.1.activity = activity ∧
    entered.1.pendingConfirmation = client.pendingConfirmation
  ended : entered.2 = false → entered.1.activity = .idle

/-- The activity goes on as another one, or it has ended. -/
theorem leavesAwait_transitionActivity (h : client.awaitView.Quiet)
    (hid : client.activityId = activityId) {activity : AwgActivity} (hactivity : activity ≠ .idle)
    (hauthorized : activity.isConfirming = true → client.authorized = true) (name : Option Name) :
    LeavesAwait (client.transitionActivity activityId activity name) (client.Entered activity) := by
  unfold transitionActivity
  split
  · rename_i hrefused
    exact ⟨h, rfl, by simp, fun _ =>
      idle_of_mismatch h.toKept hid (hrefused.resolve_right hactivity)⟩
  · rename_i hgoes
    obtain ⟨hmatches, -⟩ := not_or.mp hgoes
    have hmatches := activityMatches_iff.mp (Bool.eq_true_of_not_eq_false hmatches)
    have hentered : (client.entered activity name).awaitView.Quiet :=
      h.enter hmatches.busy hauthorized
    refine Leaves.bind (keepsAwait_emitChanged hentered.toKept 1) fun told hs => ?_
    obtain ⟨hs, htends⟩ := hs
    have hsame (hbusy : told.activity ≠ .idle) : told.activity = activity :=
      htends.activity.resolve_right hbusy
    refine ⟨hentered.tends hs htends, htends.id, fun hok => ?_, fun hfails => ?_⟩
    · obtain ⟨-, hok⟩ := Bool.and_eq_true_iff.mp hok
      have hok : told.activity = activity := beq_iff_eq.mp hok
      exact ⟨hok, (htends.goesOn hactivity hok).1⟩
    · by_contra hbusy
      have hmatches' : told.activityMatches activityId = true := activityMatches_iff.mpr
        ⟨(hs.running hbusy).1, (hs.running hbusy).2, hbusy, htends.id.trans hid⟩
      rw [hmatches', hsame hbusy] at hfails
      exact absurd hfails (by simp)

/-! ## The end of an operation -/

/-- What an operation has changed is verified, or its activity ends. -/
theorem servesActivity_complete (h : client.awaitView.Quiet)
    (hid : client.activityId = action.activityId) (inventoryDelayMs : ℕ)
    (purpose : RefreshPurpose) : ServesActivity
      (client.completeMutationActionWithPurpose action inventoryDelayMs purpose) := by
  unfold completeMutationActionWithPurpose
  split
  · rename_i hfails
    exact h.served_of_idle (idle_of_mismatch h.toKept hid hfails)
  · have hverifying : client.verifying.awaitView.Quiet := h.verify
    refine leaves_tellIf (Leaves.bind (keepsAwait_callout hverifying.toKept _) fun told hs =>
      leaves_clientCall fun checking => ?_)
    obtain ⟨hs, htends⟩ := hs
    have hquiet := hverifying.tends hs htends
    split
    · exact servesActivity_finish hquiet (htends.id.trans hid) _
    · rename_i hwaits
      have hverified : told.runtimeVerificationPending = true :=
        Bool.eq_true_of_not_eq_false fun hnone => hwaits (.inl hnone)
      by_cases hidle : told.activity = .idle
      · exact hquiet.served_of_idle hidle
      · -- only an operation is verified
        have hsame : told.activity = client.activity := htends.activity.resolve_right hidle
        have hbusy : client.activity ≠ .idle := fun hidle' => hidle (hsame.trans hidle')
        have hsame' := (htends.goesOn hbusy hsame).2.1
        have hcommand : client.activity.isCommand = true := hsame'.symm.trans hverified
        refine ⟨hquiet, ?_, fun _ => .inr hverified⟩
        show told.activity.isConfirming = false
        rw [hsame]
        exact AwgActivity.not_isConfirming_of_isCommand hcommand

theorem servesActivity_completeNoticed (h : client.awaitView.Quiet)
    (hid : client.activityId = action.activityId) (event : NoticeEvent) (inventoryDelayMs : ℕ)
    (purpose : RefreshPurpose) : ServesActivity ((client.emitNotice
      event).completeMutationActionWithPurpose action inventoryDelayMs purpose) := by
  have hview := client.awaitView_emitNotice event
  exact servesActivity_complete (hview ▸ h) ((congrArg AwaitView.activityId hview).trans hid) _ _

theorem servesActivity_confirmationUnavailable (h : client.awaitView.Quiet)
    (hid : client.activityId = action.activityId) (kind : ConfirmationKind) :
    ServesActivity (client.confirmationUnavailable action kind) := by
  unfold confirmationUnavailable
  split
  · exact servesActivity_completeNoticed h hid _ _ _
  · exact servesActivity_finishNoticed h hid _ _

/-! ## Confirmations -/

/-- The presenter has taken a confirmation over. -/
def taking (client : AwgClient) (pending : DeferredConfirmation) : AwgClient :=
  { client with deferredConfirmation := some pending }

/-- A presenter that has taken none over takes the confirmation over or refuses it. -/
theorem acceptConfirmation_or {kind : ConfirmationKind}
    (hwaits : client.confirmationIsPending kind activityId = true)
    (hundeferred : client.deferredConfirmation = none) (name : Option Name) :
    client.acceptConfirmation kind activityId name = (client, false) ∨ ∃ found,
      client.acceptConfirmation kind activityId name =
        (client.taking ⟨kind, activityId, found⟩, true) := by
  unfold acceptConfirmation
  rw [if_neg (by simp [hwaits]), hundeferred]
  cases name with
  | none => exact .inl rfl
  | some found =>
    dsimp only
    split
    · exact .inr ⟨found, rfl⟩
    · exact .inl rfl

/-- The presenter takes the confirmation over, or the activity ends. -/
theorem settlesActivity_presentConfirmationRequest (h : client.awaitView.Quiet)
    (hid : client.activityId = action.activityId) {kind : ConfirmationKind}
    (hasks : action.operation = kind.asks) (hactivity : client.activity = kind.activity)
    (hpending : client.pendingConfirmation = some action) :
    SettlesActivity (client.presentConfirmationRequest action kind) := by
  have hbusy : client.activity ≠ .idle := fun hidle =>
    confirmation_ne_idle kind (hactivity.symm.trans hidle)
  obtain ⟨hstarted, hstopping⟩ := h.running hbusy
  have hmatches : client.confirmationMatches kind action.activityId = true :=
    confirmationMatches_iff.mpr ⟨⟨hstarted, hstopping, hbusy, hid⟩, hactivity, action, hpending,
      rfl, hasks⟩
  have hauthorized : client.authorized = true := h.authorized (by
    rw [show client.awaitView.activity = kind.activity from hactivity]
    exact isConfirming_confirmation kind)
  have hwaits : client.confirmationIsPending kind action.activityId = true := by
    unfold confirmationIsPending
    rw [hmatches, hauthorized]
    rfl
  have hlistens : client.uiListens = true := by
    unfold uiListens isRunning
    rw [show client.started = true from hstarted, show client.stopping = false from hstopping,
      show client.uiEvent = true from (h.listens hstopping).1]
    rfl
  unfold presentConfirmationRequest
  rw [if_neg (by simp [hwaits]), if_pos hlistens]
  rcases acceptConfirmation_or hwaits h.undeferred action.name with hrefused | ⟨name, htaken⟩
  · rw [hrefused]
    dsimp only
    rw [if_neg (by simp [hmatches]), hpending]
    exact (@servesActivity_confirmationUnavailable client.unwaiting action (h.await none) hid
      kind).settles
  · rw [htaken]
    dsimp only
    rw [if_pos (Or.inr rfl)]
    have hkept : (client.taking ⟨kind, action.activityId, name⟩).awaitView.Kept :=
      ⟨h.authorized, h.running, h.listens⟩
    refine ⟨hkept, .inr ⟨kind, hkept, hactivity, ⟨action, hpending, hid.symm, hasks⟩, name, ?_⟩⟩
    show some _ = some (DeferredConfirmation.mk kind client.activityId name)
    rw [hid]

/-- An action asks for its confirmation, or the activity ends. -/
theorem settlesActivity_requestConfirmation (h : client.awaitView.Quiet)
    (hid : client.activityId = action.activityId) {kind : ConfirmationKind}
    (hasks : action.operation = kind.asks) :
    SettlesActivity (client.requestConfirmation action kind) := by
  unfold requestConfirmation completeMutationWithoutInventory
  split
  · rename_i hfails
    exact settles_served (h.served_of_idle (idle_of_mismatch h.toKept hid hfails))
  split
  · exact (servesActivity_finishNoticed h hid _ _).settles
  rename_i hauthorized
  have hauthorized : client.authorized = true := Bool.eq_true_of_not_eq_false hauthorized
  split
  · exact (servesActivity_confirmationUnavailable h hid kind).settles
  have hwaiting : (client.waiting action).awaitView.Quiet := h.await (some action)
  split
  · rename_i hactivity
    exact settlesActivity_presentConfirmationRequest hwaiting hid hasks hactivity rfl
  · refine Leaves.bind (leavesAwait_transitionActivity hwaiting hid (confirmation_ne_idle kind)
      (fun _ => hauthorized) _) fun entered hs => ?_
    split
    · rename_i hok
      obtain ⟨hactivity, hpending⟩ := hs.goesOn hok
      exact settlesActivity_presentConfirmationRequest hs.quiet (hs.id.trans hid) hasks hactivity
        hpending
    · rename_i hfails
      have hidle := hs.ended (Bool.eq_false_iff.mpr hfails)
      have hunwaiting : entered.1.unwaiting.awaitView.Served :=
        (hs.quiet.await none).served_of_idle hidle
      split
      · exact settles_served hunwaiting
      · exact settles_served (hs.quiet.served_of_idle hidle)

/-! ## The results of operations -/

theorem servesActivity_serviceSucceeded (h : client.awaitView.Quiet)
    (hid : client.activityId = action.activityId) :
    ServesActivity (client.serviceSucceeded action) := by
  unfold serviceSucceeded completeMutationWithoutInventory
  have hdeleted : KeepsAwait client (client.recordDelete action) := by
    unfold recordDelete
    split
    · exact (@keepsAwait_callout client.forgetName h.toKept _).bind fun _ hs _ =>
        keepsAwait_callout hs _
    · exact keepsAwait_pure h.toKept
  refine Leaves.bind hdeleted fun deleted hs => ?_
  obtain ⟨hs, htends⟩ := hs
  have hrecorded : KeepsAwait deleted (deleted.recordImport action) := by
    unfold recordImport
    split
    · exact keepsAwait_callout hs _
    · exact keepsAwait_pure hs
  refine Leaves.bind hrecorded fun recorded hs' => ?_
  obtain ⟨hs', htends'⟩ := hs'
  have hquiet := (h.tends hs htends).tends hs' htends'
  have hid' : recorded.activityId = action.activityId := htends'.id.trans (htends.id.trans hid)
  split
  · exact leaves_tell (servesActivity_finishNoticed hquiet hid' _ _)
  · exact servesActivity_completeNoticed hquiet hid' _ _ _

theorem settlesActivity_serviceReplied (h : client.awaitView.Quiet)
    (hid : client.activityId = action.activityId) (status : ℕ) :
    SettlesActivity (client.serviceReplied action status) := by
  unfold serviceReplied helperFailed
  refine Leaves.bind (keepsAwait_callout h.toKept _) fun reached hs => ?_
  obtain ⟨hs, htends⟩ := hs
  have hquiet := h.tends hs htends
  have hid : reached.activityId = action.activityId := htends.id.trans hid
  split
  · exact (servesActivity_serviceSucceeded hquiet hid).settles
  split
  · rename_i hreplace
    exact settlesActivity_requestConfirmation hquiet hid hreplace.1
  · exact leaves_tellIf (servesActivity_completeNoticed hquiet hid _ _ _).settles

theorem settlesActivity_serviceResult (h : client.awaitView.Quiet)
    (hid : client.activityId = action.activityId) (result : BackendResult) :
    SettlesActivity (client.backendServiceResult result action) := by
  unfold backendServiceResult completeMutationWithoutInventory completeMutationAction
  split
  · rename_i hfails
    exact settles_served (h.served_of_idle (idle_of_mismatch h.toKept hid hfails))
  refine Leaves.bind (keepsAwait_callout h.toKept _) fun told hs => ?_
  obtain ⟨hs, htends⟩ := hs
  have hquiet := h.tends hs htends
  have hid : told.activityId = action.activityId := htends.id.trans hid
  split
  · exact (servesActivity_finish hquiet hid _).settles
  · exact (servesActivity_completeNoticed hquiet hid _ _ _).settles
  · refine Leaves.bind (keepsAwait_callout hs _) fun reached hs' => leaves_tell ?_
    exact (servesActivity_completeNoticed (hquiet.tends hs'.1 hs'.2) (hs'.2.id.trans hid) _ _
      _).settles
  · refine Leaves.bind (keepsAwait_callout hs _) fun reached hs' => ?_
    have hquiet := hquiet.tends hs'.1 hs'.2
    refine Leaves.bind (keepsAwait_callout hs'.1 _) fun invalidated hs'' => ?_
    exact (servesActivity_finishNoticed (hquiet.tends hs''.1 hs''.2)
      (hs''.2.id.trans (hs'.2.id.trans hid)) _ _).settles
  · refine Leaves.bind (keepsAwait_callout hs _) fun reached hs' => ?_
    exact (servesActivity_completeNoticed (hquiet.tends hs'.1 hs'.2) (hs'.2.id.trans hid) _ _
      _).settles
  · refine Leaves.bind (keepsAwait_callout hs _) fun reached hs' => leaves_tell ?_
    exact (servesActivity_completeNoticed (hquiet.tends hs'.1 hs'.2) (hs'.2.id.trans hid) _ _
      _).settles
  · exact settlesActivity_serviceReplied hquiet hid result.status

/-! ## The dispatch of operations -/

/-- The activity with the id may have its operation dispatched. -/
structure Ready (client : AwgClient) (activityId : ℕ) : Prop extends client.awaitView.Quiet where
  id : client.activityId = activityId
  answered : client.activity.isConfirming = false

theorem Ready.tends (h : client.Ready activityId) (hkept : client'.awaitView.Kept)
    (htends : client.awaitView.Tends client'.awaitView) : client'.Ready activityId where
  toQuiet := h.toQuiet.tends hkept htends
  id := htends.id.trans h.id
  answered := by
    rcases htends.activity with hsame | hidle
    · rw [show client'.activity = client.activity from hsame]
      exact h.answered
    · rw [show client'.activity = .idle from hidle]
      rfl

/-- The same after a notice. -/
theorem Ready.noticed (h : client.Ready activityId) (event : NoticeEvent) :
    (client.emitNotice event).Ready activityId := by
  have hview := client.awaitView_emitNotice event
  exact ⟨hview ▸ h.toQuiet, (congrArg AwaitView.activityId hview).trans h.id,
    (congrArg (·.activity.isConfirming) hview).trans h.answered⟩

theorem servesActivity_refuse (h : client.awaitView.Quiet)
    (hid : client.activityId = action.activityId) (notice : AwgNotice) :
    ServesActivity (client.refuseAction notice action) :=
  servesActivity_finishNoticed h hid _ _

/-- The operation is under way, or was answered at once. -/
theorem settlesActivity_backendExecute (h : client.Ready action.activityId) :
    SettlesActivity (client.backendExecute action) := by
  have hresult (result : BackendResult) :
      SettlesActivity ((client.executed action).backendServiceResult result action) :=
    @settlesActivity_serviceResult (client.executed action) action h.toQuiet h.id result
  unfold backendExecute
  split
  · exact hresult _
  · refine leaves_clientCall fun passed => ?_
    split
    · exact hresult _
    · have hsent : ((client.executed action).sent action).awaitView.Served :=
        ⟨⟨h.toKept.fly _, h.undeferred⟩, h.answered, fun _ => .inl (by
          show client.inFlight ++ [⟨action, false⟩] ≠ []
          simp)⟩
      exact settles_served hsent

theorem settlesActivity_dispatchAdmitted (h : client.Ready action.activityId) :
    SettlesActivity (client.dispatchAdmitted action) := by
  unfold dispatchAdmitted completeMutationWithoutInventory
  split
  · rename_i hfails
    exact settles_served (h.toQuiet.served_of_idle (idle_of_mismatch h.toKept h.id hfails))
  split
  · exact (servesActivity_refuse h.toQuiet h.id _).settles
  have hreply : LeavesAwait (client.commandIsAllowed action) fun reply =>
      reply.client.Ready action.activityId := by
    unfold commandIsAllowed
    split
    · exact h
    · exact (leavesAwait_operationIsAllowed h.toKept _ _ _).mono fun _ hs => h.tends hs.1 hs.2.1
  refine Leaves.bind hreply fun reply hs => ?_
  split
  · exact (servesActivity_finish hs.toQuiet hs.id _).settles
  · refine leaves_clientCall fun facts => ?_
    split
    · exact (servesActivity_refuse hs.toQuiet hs.id _).settles
    · exact Leaves.bind (keepsAwait_callout hs.toKept _) fun told hs' =>
        settlesActivity_backendExecute (hs.tends hs'.1 hs'.2)

theorem settlesActivity_dispatch (h : client.Ready action.activityId) :
    SettlesActivity (client.dispatchServiceAction action) := by
  unfold dispatchServiceAction
  split
  · rename_i hfails
    exact settles_served (h.toQuiet.served_of_idle (idle_of_mismatch h.toKept h.id hfails))
  split
  · exact (servesActivity_refuse h.toQuiet h.id _).settles
  split
  · exact (servesActivity_refuse h.toQuiet h.id _).settles
  · exact Leaves.bind (keepsAwait_callout h.toKept _) fun preempted hs =>
      settlesActivity_dispatchAdmitted (h.tends hs.1 hs.2)

/-- An activity that goes on as that of an operation may have it dispatched. -/
theorem Entered.ready {activity : AwgActivity} {entered : AwgClient × Bool}
    (h : client.Entered activity entered) (hid : client.activityId = activityId)
    (hcommand : activity.isCommand = true) (hok : entered.2 = true) :
    entered.1.Ready activityId where
  toQuiet := h.quiet
  id := h.id.trans hid
  answered := by
    rw [(h.goesOn hok).1]
    exact AwgActivity.not_isConfirming_of_isCommand hcommand

theorem settlesActivity_confirmReplace (h : client.awaitView.Quiet)
    (hid : client.activityId = activityId) (hsame : action.activityId = activityId) :
    SettlesActivity (client.confirmReplace activityId action) := by
  unfold confirmReplace completeMutationAction
  refine Leaves.bind (leavesAwait_operationIsAllowed h.toKept _ _ _) fun reply hs => ?_
  have hquiet := h.tends hs.1 hs.2.1
  have hid : reply.client.activityId = activityId := hs.2.1.id.trans hid
  split
  · exact (servesActivity_complete hquiet (hid.trans hsame.symm) _ _).settles
  · refine Leaves.bind (leavesAwait_transitionActivity hquiet hid (by simp) (by
      simp [AwgActivity.isConfirming]) _) fun entered hs' => ?_
    split
    · rename_i hok
      exact settlesActivity_dispatch (hsame ▸ hs'.ready hid rfl hok)
    · rename_i hfails
      exact settles_served (hs'.quiet.served_of_idle (hs'.ended (Bool.eq_false_iff.mpr hfails)))

theorem settlesActivity_confirmRemoval (h : client.awaitView.Quiet)
    (hid : client.activityId = activityId) (hsame : action.activityId = activityId) :
    SettlesActivity (client.confirmRemoval activityId action) := by
  unfold confirmRemoval completeMutationWithoutInventory
  refine Leaves.bind (leavesAwait_operationIsAllowed h.toKept _ _ _) fun reply hs => ?_
  have hquiet := h.tends hs.1 hs.2.1
  have hid : reply.client.activityId = activityId := hs.2.1.id.trans hid
  split
  · exact (servesActivity_finish hquiet (hid.trans hsame.symm) _).settles
  · refine Leaves.bind (leavesAwait_transitionActivity hquiet hid (by simp) (by
      simp [AwgActivity.isConfirming]) _) fun entered hs' => ?_
    split
    · rename_i hok
      exact settlesActivity_dispatch ((hsame ▸ hs'.ready hid rfl hok).noticed _)
    · rename_i hfails
      exact settles_served (hs'.quiet.served_of_idle (hs'.ended (Bool.eq_false_iff.mpr hfails)))

end AwgClient

end NmSidebar
