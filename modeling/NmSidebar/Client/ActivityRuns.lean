import NmSidebar.Client.ActivityEnds
import NmSidebar.Client.ImportRuns

/-!
# No activity is stuck

Between callbacks an activity that is under way waits for something that will end it: a chooser, a
loader with its timer, a dialog, an operation of the service or the runtime source.
-/

namespace NmSidebar

open Text Effects

namespace AwgClient

variable {client client' : AwgClient} {activityId index : ℕ}

/-! ## Imports -/

theorem settles_settled (h : client.awaitView.Kept) (hsettled : client.awaitView.Settled) :
    SettlesActivity (return client) :=
  ⟨h, hsettled⟩

/-- The activity that selects or loads a file awaits no confirmation. -/
theorem served_of_importing (hsettled : client.awaitView.Settled)
    (hactivity : client.activity = .importSelect ∨ client.activity = .importLoad) :
    client.awaitView.Served :=
  hsettled.served (AwgActivity.not_isConfirming_of_isImporting hactivity).1

theorem settlesActivity_importLoaded (h : client.awaitView.Kept)
    (hsettled : client.awaitView.Settled) (config : Option Bytes) :
    SettlesActivity (client.importLoaded activityId config) := by
  unfold importLoaded
  split
  · exact settles_settled h hsettled
  rename_i hgoes
  obtain ⟨hmatches, hactivity⟩ := not_or.mp hgoes
  have hmatches := activityMatches_iff.mp (Bool.eq_true_of_not_eq_false hmatches)
  have hserved := served_of_importing hsettled (.inr (not_not.mp hactivity))
  dsimp only
  refine Leaves.bind (leavesAwait_transitionActivity hserved.toQuiet hmatches.id (by simp) (by
    simp [AwgActivity.isConfirming]) _) fun entered hs => ?_
  split
  · rename_i hok
    exact settlesActivity_dispatch (hs.ready hmatches.id rfl hok)
  · rename_i hfails
    exact settles_served (hs.quiet.served_of_idle (hs.ended (Bool.eq_false_iff.mpr hfails)))

theorem settlesActivity_importFailed (h : client.awaitView.Kept)
    (hsettled : client.awaitView.Settled) (error : ImportError) :
    SettlesActivity (client.importFailed activityId error) := by
  unfold importFailed
  split
  · exact settles_settled h hsettled
  · rename_i hgoes
    obtain ⟨hmatches, hactivity, -⟩ := (not_or.mp hgoes).imp id not_or.mp
    have hmatches := activityMatches_iff.mp (Bool.eq_true_of_not_eq_false hmatches)
    have hserved := served_of_importing hsettled (.inr (not_not.mp hactivity))
    exact (servesActivity_finishNoticed hserved.toQuiet hmatches.id _ _).settles

theorem settlesActivity_importLoadCb (h : client.awaitView.Kept)
    (hsettled : client.awaitView.Settled) (index : ℕ) (result : ImportLoadResult)
    (config : Option Bytes) :
    SettlesActivity (client.importLoadCb index activityId result config) := by
  have hview := client.awaitView_disown index
  have hkept : (client.disown index).awaitView.Kept := hview.symm ▸ h
  have hsettled : (client.disown index).awaitView.Settled := hview.symm ▸ hsettled
  unfold importLoadCb
  dsimp only
  split
  · exact settles_settled hkept hsettled
  split
  · exact settlesActivity_importLoaded hkept hsettled config
  split
  · exact settlesActivity_importFailed hkept hsettled _
  · exact settles_settled hkept hsettled

theorem settlesActivity_completeLoad (h : client.awaitView.Kept)
    (hsettled : client.awaitView.Settled) (index : ℕ) (result : ImportLoadResult)
    (config : Option Bytes) : SettlesActivity (client.completeLoad index result config) := by
  unfold completeLoad
  split
  · exact settles_settled h hsettled
  split
  · exact settles_settled h hsettled
  · exact @settlesActivity_importLoadCb (client.mapLoader index _) _ h hsettled index result config

theorem settlesActivity_loadTimeoutCb (h : client.awaitView.Kept)
    (hsettled : client.awaitView.Settled) (index : ℕ) :
    SettlesActivity (client.loadTimeoutCb index) := by
  unfold loadTimeoutCb
  dsimp only
  split
  · exact @settles_settled (client.mapLoader index .fire) h hsettled
  · exact @settlesActivity_completeLoad ((client.mapLoader index .fire).mapLoader index .cancel) h
      hsettled index _ _

theorem settlesActivity_importReadCb (h : client.awaitView.Kept)
    (hsettled : client.awaitView.Settled) (index : ℕ) (result : ImportLoadResult × Option Bytes)
    (late : Bool) : SettlesActivity (client.importReadCb index result late) := by
  unfold importReadCb
  dsimp only
  split
  · exact @settles_settled (client.mapLoader index .returned) h hsettled
  split
  · exact @settles_settled (client.mapLoader index .returned) h hsettled
  · exact @settlesActivity_completeLoad (client.mapLoader index .returned) h hsettled index _ _

theorem keepsAwait_cancelImportInteraction (h : client.awaitView.Kept) :
    KeepsAwait client client.cancelImportInteraction := by
  unfold cancelImportInteraction
  refine KeepsAwait.bind (@keepsAwait_setExternalInteraction client.destroyChooser h false)
    fun told hs _ => ?_
  split
  · exact keepsAwait_pure hs
  · rename_i index _
    obtain ⟨importLoader, loaders, hreturns⟩ := told.importLoaderCancel_returns index
    rw [hreturns]
    exact ⟨hs, .refl told.awaitView⟩

theorem settlesActivity_startImportLoad (h : client.awaitView.Kept)
    (hsettled : client.awaitView.Settled) (activityId : ℕ) :
    SettlesActivity (client.startImportLoad activityId) := by
  unfold startImportLoad importLoaderStart
  split
  · exact settles_settled h hsettled
  · refine leaves_clientCall fun made => ?_
    split
    · exact settlesActivity_importFailed h hsettled _
    split
    · exact @settles_settled (client.withLoader activityId) h hsettled
    · refine leaves_clientCall fun found => ?_
      split
      · exact @settlesActivity_completeLoad ((client.withLoader activityId).mapLoader
          client.loaders.length .start) h hsettled _ _ _
      · exact @settles_settled (((client.withLoader activityId).mapLoader client.loaders.length
          .start).mapLoader client.loaders.length .startReading) h hsettled

theorem settlesActivity_importFileSelected (h : client.awaitView.Kept)
    (hsettled : client.awaitView.Settled) (basename : Option Bytes) :
    LeavesAwait (client.importFileSelected activityId basename) fun selected =>
      selected.1.awaitView.Kept ∧ selected.1.awaitView.Settled := by
  unfold importFileSelected
  split
  · exact ⟨h, hsettled⟩
  rename_i hgoes
  obtain ⟨hmatches, hactivity⟩ := not_or.mp hgoes
  have hmatches := activityMatches_iff.mp (Bool.eq_true_of_not_eq_false hmatches)
  have hserved := served_of_importing hsettled (.inl (not_not.mp hactivity))
  split
  · exact Leaves.bind (servesActivity_finishNoticed hserved.toQuiet hmatches.id _ _).settles
      fun ended hs => hs
  · refine (leavesAwait_transitionActivity hserved.toQuiet hmatches.id (by simp) (by
      simp [AwgActivity.isConfirming]) _).mono fun entered hs => ?_
    refine ⟨hs.quiet.toKept, .inl ?_⟩
    cases hok : entered.2 with
    | true =>
      have hactivity : entered.1.awaitView.activity = .importLoad := (hs.goesOn hok).1
      exact ⟨hs.quiet, by rw [hactivity]; rfl, by simp [hactivity, AwgActivity.isCommand]⟩
    | false => exact hs.quiet.served_of_idle (hs.ended hok)

theorem settlesActivity_fileChooserResponseCb (h : client.awaitView.Kept)
    (hsettled : client.awaitView.Settled) (activityId : ℕ) (file : Option (Option Bytes)) :
    SettlesActivity (client.fileChooserResponseCb activityId file) := by
  unfold fileChooserResponseCb
  refine Leaves.bind ((@keepsAwait_setExternalInteraction client.destroyChooser h false).settles
    hsettled) fun told hs => ?_
  obtain ⟨hs, hsettled⟩ := hs
  split
  · exact settles_settled hs hsettled
  split
  · unfold importSelectionCancelled
    split
    · rename_i hselects
      have hmatches := activityMatches_iff.mp hselects.1
      have hserved := served_of_importing hsettled (.inl hselects.2)
      exact (servesActivity_finish hserved.toQuiet hmatches.id _).settles
    · exact settles_settled hs hsettled
  · refine Leaves.bind (settlesActivity_importFileSelected hs hsettled _) fun selected hs => ?_
    split
    · exact settlesActivity_startImportLoad hs.1 hs.2 activityId
    · exact settles_settled hs.1 hs.2

theorem keepsAwait_emitSelectImport (h : client.awaitView.Kept) (activityId : ℕ) :
    LeavesAwait (client.emitSelectImport activityId) fun shown =>
      shown.1.awaitView.Kept ∧ client.awaitView.Tends shown.1.awaitView := by
  unfold emitSelectImport presentImportChooser
  split
  · split
    · exact ⟨h, .refl _⟩
    refine leaves_clientCall fun made => ?_
    split
    · exact ⟨h, .refl _⟩
    refine Leaves.bind (@keepsAwait_setExternalInteraction (client.withChooser activityId) h true)
      fun told hs => ?_
    obtain ⟨hs, htends⟩ := hs
    split
    · exact Leaves.bind (@keepsAwait_setExternalInteraction told.destroyChooser hs false)
        fun told' hs' => ⟨hs'.1, AwaitView.Tends.trans htends hs'.2⟩
    · exact ⟨hs, htends⟩
  · exact ⟨h, .refl _⟩

/-! ## What the user asks for -/

/-- A new activity begins where there was none. -/
theorem leavesAwait_beginActivity (h : client.awaitView.Kept)
    (hsettled : client.awaitView.Settled) (operation : BackendOperation) (activity : AwgActivity)
    (name : Option Name) :
    LeavesAwait (client.beginActivity operation activity name) fun begun =>
      begun.1.awaitView.Kept ∧ (begun.2 = false → begun.1.awaitView.Settled) ∧
        (begun.2 = true → begun.1.awaitView.Quiet ∧ begun.1.activity = activity) := by
  unfold beginActivity
  split
  · exact ⟨h, fun _ => hsettled, by simp⟩
  · rename_i hgoes
    simp only [not_or, Bool.not_eq_false, not_not] at hgoes
    obtain ⟨hrunning, -, hidle, -⟩ := hgoes
    simp only [isRunning, Bool.and_eq_true, Bool.not_eq_true'] at hrunning
    refine Leaves.bind (leavesAwait_operationIsAllowed h operation name false) fun reply hs => ?_
    obtain ⟨hs, htends, hallowed⟩ := hs
    split
    · exact ⟨hs, fun _ => hsettled.tends hs htends, by simp⟩
    · rename_i hyes
      obtain ⟨rfl, hauthorized⟩ := hallowed (Bool.eq_true_of_not_eq_false hyes)
      have hserved : reply.client.awaitView.Served := hsettled.served (by
        rw [show reply.client.awaitView.activity = .idle from hidle]
        rfl)
      have hbegun : (reply.client.begun activity name).awaitView.Quiet :=
        hserved.toQuiet.begin hrunning fun _ => hauthorized
      refine leaves_tell (Leaves.bind (keepsAwait_emitChanged hbegun.toKept 1) fun told hs' => ?_)
      obtain ⟨hs', htends'⟩ := hs'
      have hquiet := hbegun.tends hs' htends'
      refine ⟨hs', fun hfails => .inl (hquiet.served_of_idle ?_), fun hok => ⟨hquiet, ?_⟩⟩
      · by_contra hbusy
        have hbusy : told.activity ≠ .idle := hbusy
        have hsame : told.activity = activity := htends'.activity.resolve_right hbusy
        have hmatches : told.activityMatches (reply.client.activityId + 1) = true :=
          activityMatches_iff.mpr ⟨(hs'.running hbusy).1, (hs'.running hbusy).2, hbusy, htends'.id⟩
        rw [hmatches, hsame] at hfails
        exact absurd hfails (by simp)
      · exact beq_iff_eq.mp (Bool.and_eq_true_iff.mp hok).2

theorem settlesActivity_controllerImport (h : client.awaitView.Kept)
    (hsettled : client.awaitView.Settled) : SettlesActivity client.controllerImport := by
  unfold controllerImport
  split
  · exact settles_settled h hsettled
  refine Leaves.bind (leavesAwait_operationIsAllowed h _ _ _) fun reply hs => ?_
  have hsettled := hsettled.tends hs.1 hs.2.1
  split
  · exact settles_settled hs.1 hsettled
  split
  · exact ⟨(awaitView_emitNotice _).symm ▸ hs.1, (awaitView_emitNotice _).symm ▸ hsettled⟩
  refine Leaves.bind (leavesAwait_beginActivity hs.1 hsettled .import .importSelect none)
    fun begun hs => ?_
  obtain ⟨hs, hrefused, hbegun⟩ := hs
  split
  · rename_i hfails
    exact settles_settled hs (hrefused hfails)
  · rename_i hok
    obtain ⟨hquiet, hactivity⟩ := hbegun (Bool.eq_true_of_not_eq_false hok)
    have hserved : begun.1.awaitView.Served :=
      ⟨hquiet, by rw [show begun.1.awaitView.activity = .importSelect from hactivity]; rfl, by
        simp [show begun.1.awaitView.activity = .importSelect from hactivity,
          AwgActivity.isCommand]⟩
    refine Leaves.bind (keepsAwait_emitSelectImport hs begun.1.activityId) fun shown hs' => ?_
    split
    · exact (servesActivity_finishNoticed (hquiet.tends hs'.1 hs'.2) hs'.2.id _ _).settles
    · exact settles_served (hserved.tends hs'.1 hs'.2)

theorem settlesActivity_controllerSetActive (h : client.awaitView.Kept)
    (hsettled : client.awaitView.Settled) (name : Name) (active : Bool) :
    SettlesActivity (client.controllerSetActive name active) := by
  unfold controllerSetActive
  split
  · exact settles_settled h hsettled
  refine Leaves.bind (leavesAwait_operationIsAllowed h _ _ _) fun reply hs => ?_
  have hsettled := hsettled.tends hs.1 hs.2.1
  split
  · exact settles_settled hs.1 hsettled
  have hactivity : (if active = true then AwgActivity.up else .down).isCommand = true := by
    cases active <;> rfl
  refine Leaves.bind (leavesAwait_beginActivity hs.1 hsettled _ _ _) fun begun hs => ?_
  obtain ⟨hs, hrefused, hbegun⟩ := hs
  split
  · rename_i hfails
    exact settles_settled hs (hrefused hfails)
  · rename_i hok
    obtain ⟨hquiet, hsame⟩ := hbegun (Bool.eq_true_of_not_eq_false hok)
    have hready : begun.1.Ready begun.1.activityId :=
      ⟨hquiet, rfl, hsame ▸ AwgActivity.not_isConfirming_of_isCommand hactivity⟩
    exact settlesActivity_dispatch (hready.noticed _)

theorem settlesActivity_controllerConfirmDelete (h : client.awaitView.Kept)
    (hsettled : client.awaitView.Settled) (name : Name) :
    SettlesActivity (client.controllerConfirmDelete name) := by
  unfold controllerConfirmDelete
  split
  · exact settles_settled h hsettled
  refine Leaves.bind (leavesAwait_operationIsAllowed h _ _ _) fun reply hs => ?_
  have hsettled := hsettled.tends hs.1 hs.2.1
  split
  · exact settles_settled hs.1 hsettled
  split
  · exact ⟨(awaitView_emitNotice _).symm ▸ hs.1, (awaitView_emitNotice _).symm ▸ hsettled⟩
  refine Leaves.bind (leavesAwait_beginActivity hs.1 hsettled _ _ _) fun begun hs => ?_
  obtain ⟨hs, hrefused, hbegun⟩ := hs
  split
  · rename_i hfails
    exact settles_settled hs (hrefused hfails)
  · rename_i hok
    exact settlesActivity_requestConfirmation (hbegun (Bool.eq_true_of_not_eq_false hok)).1 rfl rfl

theorem settlesActivity_presenterCancelImport (h : client.awaitView.Kept)
    (hsettled : client.awaitView.Settled) : SettlesActivity client.presenterCancelImport := by
  unfold presenterCancelImport controllerCancelImport
  split
  · exact settles_settled h hsettled
  refine Leaves.bind ((keepsAwait_cancelImportInteraction h).settles hsettled) fun released hs => ?_
  obtain ⟨hs, hsettled⟩ := hs
  split
  · rename_i himporting
    have hserved := served_of_importing hsettled himporting.2
    exact (servesActivity_finishNoticed hserved.toQuiet rfl _ _).settles
  · exact settles_settled hs hsettled

/-- The presenter has taken over what the controller awaits the answer to. -/
theorem confirmationMatches_of_asking {kind : ConfirmationKind}
    (h : client.awaitView.Asking kind) :
    client.confirmationMatches kind client.activityId = true := by
  obtain ⟨action, hpending, hid, hasks⟩ := h.pending
  have hactivity : client.activity = kind.activity := h.asks
  have hbusy : client.activity ≠ .idle := fun hidle =>
    confirmation_ne_idle kind (hactivity.symm.trans hidle)
  obtain ⟨hstarted, hstopping⟩ := h.running hbusy
  exact confirmationMatches_iff.mpr
    ⟨⟨hstarted, hstopping, hbusy, rfl⟩, hactivity, action, hpending, hid, hasks⟩

theorem confirmationIsPending_of_asking {kind : ConfirmationKind}
    (h : client.awaitView.Asking kind) :
    client.confirmationIsPending kind client.activityId = true := by
  have hauthorized : client.authorized = true := h.authorized (by
    rw [h.asks]
    exact isConfirming_confirmation kind)
  unfold confirmationIsPending
  rw [confirmationMatches_of_asking h, hauthorized]
  rfl

/-- What the user has chosen goes to the activity that has asked. -/
theorem settlesActivity_confirmationChosenCb (h : client.awaitView.Kept)
    (hsettled : client.awaitView.Settled) (kind : ConfirmationKind) (activityId : ℕ)
    (confirmed : Bool) :
    SettlesActivity (client.confirmationChosenCb kind activityId confirmed) := by
  unfold confirmationChosenCb
  split
  swap
  · exact settles_settled h hsettled
  rename_i hchosen
  obtain ⟨-, hchosen⟩ := hchosen
  obtain ⟨pending, hpending, hmine⟩ := Option.any_eq_true _ _ |>.mp hchosen
  obtain ⟨hkind, hsame⟩ := Bool.and_eq_true_iff.mp hmine
  obtain rfl : pending.kind = kind := beq_iff_eq.mp hkind
  obtain rfl : pending.activityId = activityId := beq_iff_eq.mp hsame
  -- what the presenter has taken over is what the activity awaits
  obtain hserved | ⟨kind, hasking⟩ := hsettled
  · have hnone : client.deferredConfirmation = none := hserved.undeferred
    rw [hnone] at hpending
    exact absurd hpending (by simp)
  obtain ⟨name, hdeferred⟩ := hasking.deferred
  obtain rfl : pending = ⟨kind, client.activityId, name⟩ :=
    Option.some.inj (hpending.symm.trans hdeferred)
  have hwaits := confirmationIsPending_of_asking hasking
  have hmatches := confirmationMatches_of_asking hasking
  obtain ⟨action, hpending, hid, hasks⟩ := hasking.pending
  rw [if_pos (show client.clearConfirmation.confirmationIsPending kind _ = true from hwaits)]
  unfold confirmationResponse
  rw [show client.clearConfirmation.pendingConfirmation = some action from hpending]
  dsimp only
  rw [show client.clearConfirmation.confirmationMatches kind _ = true from hmatches,
    if_neg (by simp)]
  have hquiet : client.clearConfirmation.unwaiting.awaitView.Quiet := h.clear.await none
  split
  · exact (servesActivity_complete hquiet hid.symm _ _).settles
  · exact settlesActivity_confirmReplace hquiet rfl hid
  · exact (servesActivity_finish hquiet rfl _).settles
  · exact settlesActivity_confirmRemoval hquiet rfl hid

/-! ## Authorization -/

theorem awaitView_withdrawn : (client.withAuthorized false).cancelInteraction.awaitView =
    client.awaitView.withdraw := by
  by_cases hends : client.activity.isInteraction = true
  · simp [cancelInteraction, withAuthorized, interrupted, AwaitView.withdraw, awaitView, hends]
  · simp [cancelInteraction, withAuthorized, AwaitView.withdraw, awaitView, hends]

theorem leavesAwait_withdrawAuthorization (h : client.awaitView.Kept) :
    LeavesAwait client.withdrawAuthorization fun client' => client'.awaitView.Kept ∧
      client.awaitView.withdraw.Tends client'.awaitView := by
  unfold withdrawAuthorization
  have hview := client.awaitView_withdrawn
  have hkept : (client.withAuthorized false).cancelInteraction.awaitView.Kept :=
    hview.symm ▸ h.withdraw
  refine Leaves.bind (Aspect.leaves_callout (A := awaitAspect) hkept _) fun told hs => ?_
  obtain ⟨hsound, hs, htends⟩ := hs
  have hs : told.awaitView.Kept := hs
  have htends : (client.withAuthorized false).cancelInteraction.awaitView.Tends told.awaitView :=
    htends
  rw [hview] at htends
  have hfinished : KeepsAwait told told.finishVerified := by
    unfold finishVerified
    split
    · rename_i hverified
      -- what is verified is an operation, and no confirmation
      have hother := AwgActivity.not_isConfirming_of_isCommand (hsound.verified hverified).1
      exact keepsAwait_finishActivity hs (fun hconfirming =>
        absurd (hother.symm.trans hconfirming) Bool.false_ne_true) _ 1
    · exact keepsAwait_pure hs
  refine Leaves.bind hfinished fun finished hs' => ?_
  refine Leaves.bind (keepsAwait_callout hs'.1 _) fun told' hs'' => leaves_tell ?_
  exact ⟨hs''.1, htends.trans (hs'.2.trans hs''.2)⟩

theorem keepsAwait_dismissLost (h : client.awaitView.Kept)
    (hanswered : client.activity.isConfirming = false) (lost : Bool) :
    LeavesAwait (client.dismissLost lost) fun client' => client'.awaitView.Kept ∧
      client.awaitView.Tends client'.awaitView ∧
        (lost = true → client.isRunning = true → client'.deferredConfirmation = none) := by
  unfold dismissLost
  split
  · unfold emitDismissAll
    split
    · unfold dismissInteractions
      have hcleared : client.clearConfirmation.awaitView.Quiet := h.clear
      refine (keepsAwait_cancelImportInteraction hcleared.toKept).mono fun client' hs => ?_
      have hquiet := hcleared.tends hs.1 hs.2
      have hother (hconfirming : client.awaitView.activity.isConfirming = true) : False :=
        Bool.false_ne_true (hanswered.symm.trans hconfirming)
      refine ⟨hs.1, ⟨hs.2.id, hs.2.started, hs.2.stopping, hs.2.activity, .inr hquiet.undeferred,
        hs.2.goesOn, fun hconfirming => (hother hconfirming).elim,
        fun hconfirming => (hother hconfirming).elim⟩, fun _ _ => hquiet.undeferred⟩
    · rename_i hdeaf
      refine ⟨h, .refl _, fun _ hrunning => absurd ?_ hdeaf⟩
      have hstopping : client.stopping = false := by
        obtain ⟨-, hstopping⟩ := Bool.and_eq_true_iff.mp hrunning
        simpa using hstopping
      unfold uiListens
      rw [hrunning, show client.uiEvent = true from (h.listens hstopping).1]
      rfl
  · rename_i hkept
    exact ⟨h, .refl _, fun hlost => absurd hlost hkept⟩

theorem keepsAwait_setAuthorized (h : client.awaitView.Kept) (authorized : Bool) :
    KeepsAwait client (client.setAuthorized authorized) := by
  unfold setAuthorized
  dsimp only
  split
  · have hkept : (client.withAuthorized true).awaitView.Kept := h.authorize
    refine Leaves.bind (keepsAwait_callout hkept _) fun told hs => ?_
    have htends : client.awaitView.Tends told.awaitView := { hs.2 with }
    exact KeepsAwait.after (Aspect.keeps_authorizationSettled (A := awaitAspect) hs.1 _ _) htends
  · refine Leaves.bind (leavesAwait_withdrawAuthorization h) fun withdrawn hs => ?_
    obtain ⟨hs, htends⟩ := hs
    have hanswered : withdrawn.activity.isConfirming = false := by
      rcases htends.activity with hsame | hidle
      · rw [show withdrawn.activity = client.awaitView.withdraw.activity from hsame]
        exact AwaitView.not_isConfirming_withdraw
      · rw [show withdrawn.activity = .idle from hidle]
        rfl
    refine Leaves.bind (keepsAwait_dismissLost hs hanswered _) fun dismissed hs' => ?_
    obtain ⟨hs', htends', hgiven⟩ := hs'
    have hended (hconfirming : client.awaitView.activity.isConfirming = true) :
        dismissed.deferredConfirmation = none := by
      have hbusy := AwgActivity.ne_idle_of_isConfirming hconfirming
      have hauthorized : client.authorized = true := h.authorized hconfirming
      obtain ⟨hstarted, hstopping⟩ := h.running hbusy
      have hstarted' := htends.started.trans ((AwaitView.started_withdraw _).trans hstarted)
      have hstopping' := htends.stopping.trans ((AwaitView.stopping_withdraw _).trans hstopping)
      refine hgiven ?_ ?_
      · rename_i hlost
        simp only [Bool.not_eq_true] at hlost
        simp [hauthorized, hlost]
      · unfold isRunning
        rw [show withdrawn.started = true from hstarted',
          show withdrawn.stopping = false from hstopping']
        rfl
    have hview : (dismissed.explainCancelled client.activity).awaitView = dismissed.awaitView := by
      unfold explainCancelled
      split
      · exact awaitView_emitNotice _
      · rfl
    have hexplained : (dismissed.explainCancelled client.activity).awaitView.Kept :=
      hview.symm ▸ hs'
    refine KeepsAwait.after (Aspect.keeps_authorizationSettled (A := awaitAspect) hexplained _ _) ?_
    rw [hview]
    exact AwaitView.tends_withdraw (htends.trans htends') hended

/-! ## What the others tell the controller -/

theorem keepsAwait_runtimeSourceChanged (hsound : client.flight.Sound)
    (h : client.awaitView.Kept) : KeepsAwait client client.runtimeSourceChanged := by
  unfold runtimeSourceChanged
  refine leaves_clientCall fun checking => ?_
  split
  · rename_i hverified
    have hother := AwgActivity.not_isConfirming_of_isCommand (hsound.verified hverified.2.1).1
    exact keepsAwait_finishActivity h (fun hconfirming =>
      absurd (hother.symm.trans hconfirming) Bool.false_ne_true) _ 1
  split
  · exact keepsAwait_emitChanged h 1
  · exact keepsAwait_pure h

/-! ## Start and stop -/

/-- The controller stops, and its activity ends. -/
theorem leavesAwait_controllerStop (h : client.awaitView.Kept) :
    LeavesAwait client.closing.controllerStop fun client' => client'.awaitView.Kept ∧
      client'.stopping = true := by
  unfold controllerStop
  split
  · rename_i hstopping
    exact ⟨h.deafen hstopping false true, hstopping⟩
  have hdetached : client.closing.detach.awaitView.Kept := @AwaitView.kept_stop client.awaitView
  refine Leaves.bind (keepsAwait_callout hdetached _) fun told hs => ?_
  have hhalted : told.backendStop.awaitView.Kept := hs.1.fly _
  refine Leaves.bind (keepsAwait_callout hhalted _) fun told' hs' => ?_
  have hstopping : told'.stopping = true := hs'.2.stopping.trans hs.2.stopping
  have hdismissed : LeavesAwait told'.dismissPresented fun client' => client'.awaitView.Kept ∧
      client'.stopping = true := by
    unfold dismissPresented
    split
    · have hcleared : told'.clearConfirmation.awaitView.Kept := hs'.1.clear.toKept
      refine (keepsAwait_cancelImportInteraction hcleared).mono fun client' hs'' => ?_
      exact ⟨hs''.1, hs''.2.stopping.trans hstopping⟩
    · exact ⟨hs'.1, hstopping⟩
  refine Leaves.bind hdismissed fun dismissed hs'' => ?_
  exact ⟨hs''.1.deafen hs''.2 false _, hs''.2⟩

theorem settlesActivity_presenterStop (h : client.awaitView.Kept)
    (hsettled : client.awaitView.Settled) : SettlesActivity client.presenterStop := by
  unfold presenterStop
  split
  · exact settles_settled h hsettled
  refine Leaves.bind (leavesAwait_controllerStop h) fun stopped hs => ?_
  have hcleared : stopped.clearConfirmation.awaitView.Served :=
    hs.1.clear.served_of_idle (hs.1.idle_of_stopping hs.2)
  refine Leaves.bind ((keepsAwait_cancelImportInteraction hcleared.toKept).serves hcleared)
    fun dismissed hs' => ?_
  refine Leaves.bind ((keepsAwait_setExternalInteraction hs'.toKept false).serves hs')
    fun ended hs'' => ?_
  exact ⟨hs''.toKept, .inl hs''⟩

theorem settlesActivity_presenterStart (h : client.awaitView.Kept)
    (hsettled : client.awaitView.Settled) : SettlesActivity client.presenterStart := by
  unfold presenterStart controllerStart
  split
  · exact settles_settled h hsettled
  split
  · exact settles_settled h hsettled
  rename_i hfresh
  obtain ⟨hstarted, -⟩ := not_or.mp hfresh
  -- a controller that was not started has no activity yet
  have hidle : client.awaitView.activity = .idle := by
    by_contra hbusy
    exact hstarted (h.running hbusy).1
  have hserved := hsettled.served (by rw [hidle]; rfl)
  have hrunning : client.presenterBegun.beginRunning.awaitView.Served :=
    { hserved with running := fun hbusy => absurd hidle hbusy }
  refine leaves_tell (Leaves.bind ((keepsAwait_callout hrunning.toKept .runtimeStart).serves
    hrunning) fun told hs => leaves_tell ?_)
  unfold backendStart
  split
  · exact ServesActivity.settles hs
  · exact settles_served hs

/-! ## Every run -/

/-- What comes from within a callout keeps the contract. -/
theorem keepsAwait_run (hsound : client.flight.Sound) (h : client.awaitView.Kept)
    {e : ClientEntry} (he : e.IsCallback) : KeepsAwait client (e.run client) := by
  cases e with
  | setParent parent toastOverlay =>
    change KeepsAwait client (return client.presenterSetParent parent toastOverlay)
    unfold presenterSetParent
    split
    · exact keepsAwait_pure h
    · exact ⟨h, .refl _⟩
  | parentDestroyed => exact ⟨h, .refl _⟩
  | requestInventory force => exact Aspect.keeps_requestInventory (A := awaitAspect) h force
  | setInventoryEnabled enabled =>
    exact Aspect.keeps_setInventoryEnabled (A := awaitAspect) h enabled
  | authorizationChanged authorized =>
    change KeepsAwait client (client.backendAuthorizationChanged authorized)
    unfold backendAuthorizationChanged
    split
    · exact keepsAwait_setAuthorized h authorized
    · exact keepsAwait_pure h
  | runtimeSourceChanged => exact keepsAwait_runtimeSourceChanged hsound h
  | inventoryChanged change purpose =>
    exact Aspect.keeps_inventoryChanged (A := awaitAspect) h change purpose
  | start => exact he.elim
  | stop => exact he.elim
  | «import» => exact he.elim
  | cancelImport => exact he.elim
  | setActive name active => exact he.elim
  | requestDelete name => exact he.elim
  | chooserResponse file => exact he.elim
  | loadTimeout index => exact he.elim
  | readFinished index run late => exact he.elim
  | confirmationChosen confirmed => exact he.elim
  | flushDeferred => exact he.elim
  | backendResult index result => exact he.elim

/-- What the presenter has taken over is awaited, and stays so when it is shown. -/
theorem settlesActivity_flushDeferredCb (h : client.awaitView.Kept)
    (hsettled : client.awaitView.Settled) : SettlesActivity client.flushDeferredCb := by
  have hwaits : (client.deferredConfirmation.all fun pending =>
      client.confirmationIsPending pending.kind pending.activityId) = true := by
    obtain hserved | ⟨kind, hasking⟩ := hsettled
    · have hnone : client.deferredConfirmation = none := hserved.undeferred
      rw [hnone]
      rfl
    · obtain ⟨name, hdeferred⟩ := hasking.deferred
      have hdeferred : client.deferredConfirmation = some ⟨kind, client.activityId, name⟩ :=
        hdeferred
      rw [hdeferred]
      exact confirmationIsPending_of_asking hasking
  unfold flushDeferredCb
  simp only [hwaits, if_true]
  split
  · exact settles_settled h hsettled
  · refine leaves_clientCall fun mapped => ?_
    split
    · exact ⟨h, hsettled⟩
    · exact ⟨h, hsettled⟩

/-- An operation that has completed ends its activity, has it verified or asks. -/
theorem settlesActivity_backendResult (hsound : client.flight.Sound)
    (h : client.awaitView.Kept) (hsettled : client.awaitView.Settled) {call : BackendCall}
    (hcall : client.inFlight[index]? = some call) (result : BackendResult) :
    SettlesActivity ((client.answered index).backendServiceResult result call.action) := by
  have hmem := List.mem_of_getElem? hcall
  by_cases hidle : client.awaitView.activity = .idle
  · have hanswered : (client.answered index).awaitView.Served :=
      AwaitView.Quiet.served_of_idle ⟨h.fly _, (hsettled.served (by rw [hidle]; rfl)).undeferred⟩ hidle
    have hfails : (client.answered index).activityMatches call.action.activityId = false :=
      Bool.eq_false_iff.mpr fun hmatches => (activityMatches_iff.mp hmatches).busy hidle
    unfold backendServiceResult
    rw [if_pos hfails]
    exact settles_served hanswered
  · -- a call under way is that of the activity
    obtain ⟨hid, hcommand⟩ := hsound.owned (h.running hidle).2 call hmem
    have hserved := hsettled.served
      (AwgActivity.not_isConfirming_of_isCommand (isCommand_of_command hcommand))
    have hquiet : (client.answered index).awaitView.Quiet := ⟨h.fly _, hserved.undeferred⟩
    exact settlesActivity_serviceResult hquiet hid.symm result

/-- Every entry between callbacks leaves a client that is settled. -/
theorem settlesActivity_run (hsound : client.flight.Sound) (h : client.awaitView.Kept)
    (hsettled : client.awaitView.Settled) {e : ClientEntry} :
    SettlesActivity (e.run client) := by
  by_cases hcallback : e.IsCallback
  · exact (keepsAwait_run hsound h hcallback).settles hsettled
  cases e with
  | start => exact settlesActivity_presenterStart h hsettled
  | stop => exact settlesActivity_presenterStop h hsettled
  | «import» =>
    change SettlesActivity client.presenterImport
    unfold presenterImport
    split
    · exact settles_settled h hsettled
    · exact settlesActivity_controllerImport h hsettled
  | cancelImport => exact settlesActivity_presenterCancelImport h hsettled
  | setActive name active =>
    change SettlesActivity (client.presenterSetActive name active)
    unfold presenterSetActive
    split
    · exact settles_settled h hsettled
    · exact settlesActivity_controllerSetActive h hsettled name active
  | requestDelete name =>
    change SettlesActivity (client.presenterRequestDelete name)
    unfold presenterRequestDelete
    split
    · exact settles_settled h hsettled
    · exact settlesActivity_controllerConfirmDelete h hsettled name
  | chooserResponse file =>
    dsimp only [ClientEntry.run]
    split
    · exact settles_settled h hsettled
    · exact settlesActivity_fileChooserResponseCb h hsettled _ file
  | loadTimeout index => exact settlesActivity_loadTimeoutCb h hsettled index
  | readFinished index run late =>
    dsimp only [ClientEntry.run]
    split
    · exact settles_settled h hsettled
    · exact settlesActivity_importReadCb h hsettled index _ late
  | confirmationChosen confirmed =>
    dsimp only [ClientEntry.run]
    split
    · exact settles_settled h hsettled
    · exact settlesActivity_confirmationChosenCb h hsettled _ _ confirmed
  | flushDeferred => exact settlesActivity_flushDeferredCb h hsettled
  | backendResult index result =>
    dsimp only [ClientEntry.run]
    split
    · exact settles_settled h hsettled
    · rename_i call hcall
      exact settlesActivity_backendResult hsound h hsettled hcall result
  | setParent parent toastOverlay => exact absurd trivial hcallback
  | parentDestroyed => exact absurd trivial hcallback
  | requestInventory force => exact absurd trivial hcallback
  | setInventoryEnabled enabled => exact absurd trivial hcallback
  | authorizationChanged authorized => exact absurd trivial hcallback
  | runtimeSourceChanged => exact absurd trivial hcallback
  | inventoryChanged change purpose => exact absurd trivial hcallback

theorem served_new (externalInteraction : Bool) : (new externalInteraction).awaitView.Served where
  authorized hconfirming := absurd hconfirming Bool.false_ne_true
  running hbusy := absurd rfl hbusy
  listens _ := ⟨rfl, rfl⟩
  undeferred := rfl
  answered := rfl
  working hcommand := absurd hcommand Bool.false_ne_true

/-- The client keeps the contract about what its activity waits for. -/
theorem await_keptUnder :
    flightContract.KeptUnder awaitAspect.contract (clientComponent ClientEntry.IsCallback) where
  refl client := .refl client.awaitView
  trans _ _ _ h h' := h.trans h'
  init := by
    rintro _ ⟨externalInteraction, rfl⟩
    exact ⟨(served_new externalInteraction).toKept, .inl (served_new externalInteraction)⟩
  nested e client he _ hsound h :=
    (keepsAwait_run hsound h he).mono fun _ hs _ => hs
  settled e client _ hsound h _ hsettled :=
    (settlesActivity_run hsound h hsettled).mono fun _ hs _ => hs

/-- Between callbacks the activity of a client is served, or the presenter asks for it. -/
theorem await_settled
    (h : (clientComponent ClientEntry.IsCallback).Reachable (.idle client)) :
    client.flight.Sound ∧ client.awaitView.Settled := by
  have hkept := (flight_keptBy fun _ he => he.isCall).and await_keptUnder
  obtain ⟨hinvariant, hsettled⟩ := hkept.idle h
  exact ⟨hinvariant.1, hsettled.2⟩

end AwgClient

/-! ## The main result -/

/-- Between callbacks no activity is stuck. One that selects a file has its chooser, and one that
loads it a loader with a timer. A confirmation is awaited exactly where the presenter has taken it
over for this activity, and the controller will take the answer. In any other activity the operation
is under way at the backend, or it has completed and the runtime source is to verify it. -/
theorem activity_neverStuck {client : AwgClient}
    (h : (clientComponent ClientEntry.IsCallback).Reachable (.idle client)) :
    (client.activity = .importSelect → client.chooser = some client.activityId) ∧
    (client.activity = .importLoad → ∃ index ∈ client.importLoader,
      ∃ loader ∈ client.loaders[index]?, loader.activityId = client.activityId ∧
        loader.completed = false ∧ loader.timeoutSource = true) ∧
    (∀ kind : ConfirmationKind, client.activity = kind.activity ↔
      ∃ pending ∈ client.deferredConfirmation, pending.kind = kind) ∧
    (∀ pending ∈ client.deferredConfirmation, pending.activityId = client.activityId ∧
      client.confirmationIsPending pending.kind pending.activityId = true) ∧
    (client.activity.isCommand = true →
      (∃ call, client.inFlight = [call] ∧ call.action.activityId = client.activityId ∧
        call.action.operation.command = some client.activity ∧
        client.runtimeVerificationPending = false) ∨
      client.inFlight = [] ∧ client.runtimeVerificationPending = true) := by
  obtain ⟨hsound, hsettled⟩ := AwgClient.await_settled h
  obtain ⟨howned, himports⟩ := AwgClient.import_settled h
  refine ⟨fun hselect => ?_, fun hload => ?_, fun kind => ⟨fun hasks => ?_, ?_⟩, ?_,
    fun hcommand => ?_⟩
  · have hchooser := himports.select
    rw [show client.importView.activity = .importSelect from hselect, if_pos rfl] at hchooser
    exact hchooser
  · have hheld := himports.load
    rw [show client.importView.activity = .importLoad from hload, if_pos rfl] at hheld
    obtain ⟨loader, hloader, hid⟩ := Option.map_eq_some_iff.mp hheld
    obtain ⟨index, hindex, hloader⟩ := Option.bind_eq_some_iff.mp hloader
    obtain ⟨held, hheld, hpending⟩ := howned.held index hindex
    obtain rfl : loader = held := Option.some.inj (hloader.symm.trans hheld)
    exact ⟨index, hindex, loader, hloader, hid, hpending,
      (howned.pending index loader hloader hpending).2.timed⟩
  · obtain ⟨name, hdeferred⟩ := (hsettled.asking hasks).deferred
    exact ⟨_, hdeferred, rfl⟩
  · rintro ⟨pending, hpending, rfl⟩
    obtain hserved | ⟨kind, hasking⟩ := hsettled
    · have hnone : client.deferredConfirmation = none := hserved.undeferred
      rw [hnone] at hpending
      exact absurd hpending (by simp)
    · obtain ⟨name, hdeferred⟩ := hasking.deferred
      obtain rfl := Option.some.inj (hdeferred.symm.trans hpending)
      exact hasking.asks
  · intro pending hpending
    obtain hserved | ⟨kind, hasking⟩ := hsettled
    · have hnone : client.deferredConfirmation = none := hserved.undeferred
      rw [hnone] at hpending
      exact absurd hpending (by simp)
    · obtain ⟨name, hdeferred⟩ := hasking.deferred
      obtain rfl := Option.some.inj (hdeferred.symm.trans hpending)
      exact ⟨rfl, AwgClient.confirmationIsPending_of_asking hasking⟩
  · have hserved := hsettled.served (AwgActivity.not_isConfirming_of_isCommand hcommand)
    cases hverified : client.runtimeVerificationPending with
    | true => exact .inr ⟨(hsound.verified hverified).2, rfl⟩
    | false =>
      have hflying : client.inFlight ≠ [] :=
        (hserved.working hcommand).resolve_right (by simp [AwgClient.awaitView, hverified])
      obtain ⟨call, hcall⟩ : ∃ call, client.inFlight = [call] := by
        refine List.length_eq_one_iff.mp (le_antisymm hsound.few ?_)
        exact List.length_pos_iff.mpr hflying
      have hrunning := (hsound.running (AwgActivity.ne_idle_of_isCommand hcommand)).2
      obtain ⟨hid, hoperation⟩ := hsound.owned hrunning call (by
        show call ∈ client.inFlight
        rw [hcall]
        exact List.mem_singleton_self call)
      exact .inl ⟨call, hcall, hid, hoperation, rfl⟩

/-- A connection is being activated: its operation is under way. -/
theorem activity_neverStuck_up :
    ∃ call, (calmClientEntry sampleClient (.setActive (ascii "awg0") true)).inFlight = [call] ∧
      call.action.activityId = 1 := by
  have hup := @reachable_calmClientEntry ClientEntry.IsCallback _ sampleClient_reachable
    (.setActive (ascii "awg0") true) trivial
  obtain ⟨-, -, -, -, hcommand⟩ := activity_neverStuck hup
  have hactivity : (calmClientEntry sampleClient
      (.setActive (ascii "awg0") true)).activity.isCommand = true := by decide +kernel
  have hid : (calmClientEntry sampleClient (.setActive (ascii "awg0") true)).activityId = 1 := by
    decide +kernel
  have hflying : (calmClientEntry sampleClient
      (.setActive (ascii "awg0") true)).inFlight.isEmpty = false := by decide +kernel
  obtain ⟨call, hcall, hmine, -⟩ | ⟨hlanded, -⟩ := hcommand hactivity
  · exact ⟨call, hcall, hmine.trans hid⟩
  · rw [hlanded] at hflying
    exact absurd hflying (by simp)

end NmSidebar
