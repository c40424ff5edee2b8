import NmSidebar.Client.Callbacks

/-!
# What an activity waits for

An operation at the backend, the verification of what it has changed, or the answer to a
confirmation that the presenter has taken over.
-/

namespace NmSidebar

open Effects

/-- The part of the client that its activity waits for. -/
structure AwaitView where
  authorized : Bool
  activity : AwgActivity
  activityId : ℕ
  started : Bool
  stopping : Bool
  uiEvent : Bool
  presenterStopping : Bool
  pendingConfirmation : Option ServiceAction
  runtimeVerificationPending : Bool
  inFlight : List BackendCall
  deferredConfirmation : Option DeferredConfirmation

/-- What the activity of a client waits for. -/
def AwgClient.awaitView (client : AwgClient) : AwaitView where
  authorized := client.authorized
  activity := client.activity
  activityId := client.activityId
  started := client.started
  stopping := client.stopping
  uiEvent := client.uiEvent
  presenterStopping := client.presenterStopping
  pendingConfirmation := client.pendingConfirmation
  runtimeVerificationPending := client.runtimeVerificationPending
  inFlight := client.inFlight
  deferredConfirmation := client.deferredConfirmation

/-- The activity waits for the user to confirm it. -/
def AwgActivity.isConfirming : AwgActivity → Bool
  | .replaceConfirm | .deleteConfirm => true
  | .idle | .importSelect | .importLoad | .import | .replace | .up | .down | .delete => false

theorem AwgActivity.isInteraction_of_isConfirming {activity : AwgActivity}
    (h : activity.isConfirming = true) : activity.isInteraction = true := by
  cases activity <;> first | rfl | exact absurd h Bool.false_ne_true

theorem AwgActivity.ne_idle_of_isConfirming {activity : AwgActivity}
    (h : activity.isConfirming = true) : activity ≠ .idle := by
  rintro rfl
  exact Bool.false_ne_true h

theorem AwgActivity.not_isConfirming_of_isCommand {activity : AwgActivity}
    (h : activity.isCommand = true) : activity.isConfirming = false := by
  cases activity <;> first | rfl | exact absurd h Bool.false_ne_true

theorem AwgActivity.not_isConfirming_of_isImporting {activity : AwgActivity}
    (h : activity = .importSelect ∨ activity = .importLoad) :
    activity.isConfirming = false ∧ activity.isCommand = false := by
  rcases h with rfl | rfl <;> exact ⟨rfl, rfl⟩

@[simp] theorem isConfirming_confirmation (kind : ConfirmationKind) :
    kind.activity.isConfirming = true := by
  cases kind <;> rfl

namespace AwaitView

/-- Holds wherever the client calls out. -/
structure Kept (view : AwaitView) : Prop where
  authorized : view.activity.isConfirming = true → view.authorized = true
  running : view.activity ≠ .idle → view.started = true ∧ view.stopping = false
  listens : view.stopping = false → view.uiEvent = true ∧ view.presenterStopping = false

/-- The activity waits for nothing that the presenter has taken over. -/
structure Quiet (view : AwaitView) : Prop extends Kept view where
  undeferred : view.deferredConfirmation = none

/-- No confirmation is awaited, and an operation is under way or is being verified. -/
structure Served (view : AwaitView) : Prop extends Quiet view where
  answered : view.activity.isConfirming = false
  working : view.activity.isCommand = true →
    view.inFlight ≠ [] ∨ view.runtimeVerificationPending = true

/-- The presenter has taken over the confirmation that the activity awaits. -/
structure Asking (view : AwaitView) (kind : ConfirmationKind) : Prop extends Kept view where
  asks : view.activity = kind.activity
  pending : ∃ action, view.pendingConfirmation = some action ∧
    action.activityId = view.activityId ∧ action.operation = kind.asks
  deferred : ∃ name, view.deferredConfirmation = some ⟨kind, view.activityId, name⟩

/-- Holds between callbacks: somebody will end the activity, unless it is an import. -/
def Settled (view : AwaitView) : Prop := view.Served ∨ ∃ kind, view.Asking kind

/-- What the calls from within a callout do: an activity that goes on waits for the same, and one
that they end waits for nothing. -/
structure Tends (view view' : AwaitView) : Prop where
  id : view'.activityId = view.activityId
  started : view'.started = view.started
  stopping : view'.stopping = view.stopping
  activity : view'.activity = view.activity ∨ view'.activity = .idle
  deferred : view'.deferredConfirmation = view.deferredConfirmation ∨
    view'.deferredConfirmation = none
  goesOn : view.activity ≠ .idle → view'.activity = view.activity →
    view'.pendingConfirmation = view.pendingConfirmation ∧
    view'.runtimeVerificationPending = view.runtimeVerificationPending ∧
    view'.inFlight = view.inFlight
  keeps : view.activity.isConfirming = true → view'.activity = view.activity →
    view'.deferredConfirmation = view.deferredConfirmation
  ended : view.activity.isConfirming = true → view'.activity = .idle →
    view'.deferredConfirmation = none

variable {view view' view'' : AwaitView}

theorem Tends.refl (view : AwaitView) : view.Tends view where
  id := rfl
  started := rfl
  stopping := rfl
  activity := .inl rfl
  deferred := .inl rfl
  goesOn _ _ := ⟨rfl, rfl, rfl⟩
  keeps _ _ := rfl
  ended hconfirming hidle := by
    rw [hidle] at hconfirming
    exact absurd hconfirming Bool.false_ne_true

/-- An activity that has ended does not begin again. -/
theorem same_of_trans {activity activity' activity'' : AwgActivity}
    (h : activity' = activity ∨ activity' = .idle)
    (h' : activity'' = activity' ∨ activity'' = .idle)
    (hbusy : activity ≠ .idle) (hsame : activity'' = activity) : activity' = activity := by
  refine h.resolve_right fun hidle => hbusy (hsame.symm.trans ?_)
  exact h'.elim (fun hsame' => hsame'.trans hidle) fun hidle' => hidle'

theorem Tends.trans (h : view.Tends view') (h' : view'.Tends view'') : view.Tends view'' where
  id := h'.id.trans h.id
  started := h'.started.trans h.started
  stopping := h'.stopping.trans h.stopping
  activity := by
    rcases h'.activity with hsame | hidle
    · exact h.activity.imp hsame.trans hsame.trans
    · exact .inr hidle
  deferred := by
    rcases h'.deferred with hsame | hnone
    · exact h.deferred.imp hsame.trans hsame.trans
    · exact .inr hnone
  goesOn hbusy hactivity := by
    have hsame := same_of_trans h.activity h'.activity hbusy hactivity
    obtain ⟨hpending, hverified, hflight⟩ := h.goesOn hbusy hsame
    obtain ⟨hpending', hverified', hflight'⟩ :=
      h'.goesOn (hsame.symm ▸ hbusy) (hactivity.trans hsame.symm)
    exact ⟨hpending'.trans hpending, hverified'.trans hverified, hflight'.trans hflight⟩
  keeps hconfirming hactivity := by
    have hbusy := AwgActivity.ne_idle_of_isConfirming hconfirming
    have hsame := same_of_trans h.activity h'.activity hbusy hactivity
    exact (h'.keeps (hsame.symm ▸ hconfirming) (hactivity.trans hsame.symm)).trans
      (h.keeps hconfirming hsame)
  ended hconfirming hidle := by
    rcases h.activity with hsame | hended
    · exact h'.ended (hsame.symm ▸ hconfirming) hidle
    · have hnone := h.ended hconfirming hended
      exact h'.deferred.elim (fun hsame => hsame.trans hnone) fun hnone => hnone

theorem Quiet.tends (h : view.Quiet) (hkept : view'.Kept) (htends : view.Tends view') :
    view'.Quiet :=
  ⟨hkept, htends.deferred.elim (fun hsame => hsame.trans h.undeferred) fun hnone => hnone⟩

/-- What ends waits for nothing. -/
theorem Quiet.served_of_idle (h : view.Quiet) (hidle : view.activity = .idle) : view.Served where
  toQuiet := h
  answered := by
    rw [hidle]
    rfl
  working hcommand := by
    rw [hidle] at hcommand
    exact absurd hcommand Bool.false_ne_true

theorem Served.tends (h : view.Served) (hkept : view'.Kept) (htends : view.Tends view') :
    view'.Served := by
  have hquiet := h.toQuiet.tends hkept htends
  by_cases hidle : view'.activity = .idle
  · exact hquiet.served_of_idle hidle
  · have hsame : view'.activity = view.activity := htends.activity.resolve_right hidle
    obtain ⟨-, hverified, hflight⟩ := htends.goesOn (hsame ▸ hidle) hsame
    refine ⟨hquiet, hsame ▸ h.answered, fun hcommand => ?_⟩
    rw [hflight, hverified]
    exact h.working (hsame ▸ hcommand)

theorem Settled.tends (h : view.Settled) (hkept : view'.Kept) (htends : view.Tends view') :
    view'.Settled := by
  obtain hserved | ⟨kind, hasking⟩ := h
  · exact .inl (hserved.tends hkept htends)
  · have hconfirming : view.activity.isConfirming = true := by
      rw [hasking.asks]
      exact isConfirming_confirmation kind
    rcases htends.activity with hsame | hidle
    · obtain ⟨hpending, -, -⟩ :=
        htends.goesOn (AwgActivity.ne_idle_of_isConfirming hconfirming) hsame
      refine .inr ⟨kind, hkept, hsame.trans hasking.asks, ?_, ?_⟩
      · rw [hpending, htends.id]
        exact hasking.pending
      · rw [htends.keeps hconfirming hsame, htends.id]
        exact hasking.deferred
    · exact .inl (Quiet.served_of_idle ⟨hkept, htends.ended hconfirming hidle⟩ hidle)

/-- Where no confirmation is awaited, the presenter has taken none over. -/
theorem Settled.served (h : view.Settled) (hanswered : view.activity.isConfirming = false) :
    view.Served := by
  obtain hserved | ⟨kind, hasking⟩ := h
  · exact hserved
  · rw [hasking.asks, isConfirming_confirmation] at hanswered
    exact absurd hanswered (by simp)

/-- Where one is, the presenter has taken it over. -/
theorem Settled.asking (h : view.Settled) {kind : ConfirmationKind}
    (hasks : view.activity = kind.activity) : view.Asking kind := by
  obtain hserved | ⟨kind', hasking⟩ := h
  · have hanswered := hserved.answered
    rw [hasks, isConfirming_confirmation] at hanswered
    exact absurd hanswered (by simp)
  · have hkind : kind' = kind := by
      have hsame := hasking.asks.symm.trans hasks
      cases kind <;> cases kind' <;> simp [ConfirmationKind.activity] at hsame ⊢
    exact hkind ▸ hasking

theorem Kept.idle_of_stopping (h : view.Kept) (hstopping : view.stopping = true) :
    view.activity = .idle := by
  by_contra hbusy
  exact absurd (hstopping.symm.trans (h.running hbusy).2) (by simp)

/-! ## Steps -/

/-- The activity has ended. -/
def finish (view : AwaitView) : AwaitView :=
  { view with activity := .idle, runtimeVerificationPending := false }

theorem Kept.finish (h : view.Kept) : view.finish.Kept where
  authorized hconfirming := absurd hconfirming Bool.false_ne_true
  running hbusy := absurd rfl hbusy
  listens := h.listens

theorem Quiet.finish (h : view.Quiet) : view.finish.Served :=
  Quiet.served_of_idle ⟨h.toKept.finish, h.undeferred⟩ rfl

/-- Who ends an activity has nothing deferred for it any more. -/
theorem tends_finish (hended : view.activity.isConfirming = true →
    view.deferredConfirmation = none) : view.Tends view.finish where
  id := rfl
  started := rfl
  stopping := rfl
  activity := .inr rfl
  deferred := .inl rfl
  goesOn hbusy hsame := absurd hsame.symm hbusy
  keeps hconfirming hsame :=
    absurd hsame.symm (AwgActivity.ne_idle_of_isConfirming hconfirming)
  ended hconfirming _ := hended hconfirming

/-- The activity goes on as another one. -/
def enter (view : AwaitView) (activity : AwgActivity) : AwaitView := { view with activity }

theorem Quiet.enter (h : view.Quiet) {activity : AwgActivity} (hbusy : view.activity ≠ .idle)
    (hauthorized : activity.isConfirming = true → view.authorized = true) :
    (view.enter activity).Quiet where
  authorized := hauthorized
  running _ := h.running hbusy
  listens := h.listens
  undeferred := h.undeferred

/-- A new activity has begun. -/
def begin (view : AwaitView) (activity : AwgActivity) : AwaitView :=
  { view with activity, activityId := view.activityId + 1 }

theorem Quiet.begin (h : view.Quiet) {activity : AwgActivity}
    (hrunning : view.started = true ∧ view.stopping = false)
    (hauthorized : activity.isConfirming = true → view.authorized = true) :
    (view.begin activity).Quiet where
  authorized := hauthorized
  running _ := hrunning
  listens := h.listens
  undeferred := h.undeferred

/-- What the operation has changed is verified. -/
def verify (view : AwaitView) : AwaitView :=
  { view with runtimeVerificationPending := view.activity.isCommand }

theorem Quiet.verify (h : view.Quiet) : view.verify.Quiet where
  authorized := h.authorized
  running := h.running
  listens := h.listens
  undeferred := h.undeferred

/-- An action waits for the user, or waits no more. -/
def await (view : AwaitView) (action : Option ServiceAction) : AwaitView :=
  { view with pendingConfirmation := action }

theorem Quiet.await (h : view.Quiet) (action : Option ServiceAction) :
    (view.await action).Quiet where
  authorized := h.authorized
  running := h.running
  listens := h.listens
  undeferred := h.undeferred

/-- The presenter has taken nothing over any more. -/
def clear (view : AwaitView) : AwaitView := { view with deferredConfirmation := none }

theorem Kept.clear (h : view.Kept) : view.clear.Quiet where
  authorized := h.authorized
  running := h.running
  listens := h.listens
  undeferred := rfl

/-- The calls of the backend are other ones. -/
def fly (view : AwaitView) (inFlight : List BackendCall) : AwaitView := { view with inFlight }

theorem Kept.fly (h : view.Kept) (inFlight : List BackendCall) : (view.fly inFlight).Kept where
  authorized := h.authorized
  running := h.running
  listens := h.listens

/-- The user is authorized. -/
theorem Kept.authorize (h : view.Kept) : { view with authorized := true }.Kept where
  authorized _ := rfl
  running := h.running
  listens := h.listens

/-- The authorization is gone, and the activity with it that needs the user. -/
def withdraw (view : AwaitView) : AwaitView :=
  if view.activity.isInteraction then
    { view with authorized := false, activity := .idle, pendingConfirmation := none }
  else { view with authorized := false }

@[simp] theorem started_withdraw (view : AwaitView) : view.withdraw.started = view.started := by
  unfold withdraw
  split <;> rfl

@[simp] theorem stopping_withdraw (view : AwaitView) :
    view.withdraw.stopping = view.stopping := by
  unfold withdraw
  split <;> rfl

theorem not_isConfirming_withdraw : view.withdraw.activity.isConfirming = false := by
  unfold withdraw
  split
  · rfl
  · rename_i hother
    by_contra hconfirming
    exact hother (AwgActivity.isInteraction_of_isConfirming
      (Bool.eq_true_of_not_eq_false hconfirming))

theorem Kept.withdraw (h : view.Kept) : view.withdraw.Kept := by
  refine ⟨fun hconfirming => ?_, ?_, ?_⟩
  · exact absurd (not_isConfirming_withdraw.symm.trans hconfirming) Bool.false_ne_true
  · unfold AwaitView.withdraw
    split
    · exact fun hbusy => absurd rfl hbusy
    · exact h.running
  · unfold AwaitView.withdraw
    split
    · exact h.listens
    · exact h.listens

/-- What was done after the authorization was withdrawn, and the presenter has let go what it had
taken over. -/
theorem tends_withdraw (h : view.withdraw.Tends view')
    (hended : view.activity.isConfirming = true → view'.deferredConfirmation = none) :
    view.Tends view' := by
  unfold withdraw at h
  split at h
  · have hidle : view'.activity = .idle := h.activity.elim (fun hsame => hsame) fun hidle => hidle
    refine ⟨h.id, h.started, h.stopping, .inr hidle, h.deferred, fun hbusy hsame => ?_,
      fun hconfirming hsame => ?_, fun hconfirming _ => hended hconfirming⟩
    · exact absurd (hsame.symm.trans hidle) hbusy
    · exact absurd (hsame.symm.trans hidle) (AwgActivity.ne_idle_of_isConfirming hconfirming)
  · exact ⟨h.id, h.started, h.stopping, h.activity, h.deferred, h.goesOn, h.keeps,
      fun hconfirming _ => hended hconfirming⟩

/-- The controller has stopped. -/
def stop (view : AwaitView) : AwaitView :=
  { view with
    authorized := false
    activity := .idle
    activityId := min (view.activityId + 1) (2 ^ 64 - 1)
    started := false
    stopping := true
    uiEvent := false
    presenterStopping := true
    pendingConfirmation := none
    runtimeVerificationPending := false }

theorem kept_stop : view.stop.Kept where
  authorized hconfirming := absurd hconfirming Bool.false_ne_true
  running hbusy := absurd rfl hbusy
  listens hrunning := absurd hrunning.symm Bool.false_ne_true

/-- Who has stopped listens no more. -/
theorem Kept.deafen (h : view.Kept) (hstopping : view.stopping = true)
    (uiEvent presenterStopping : Bool) :
    { view with uiEvent := uiEvent, presenterStopping := presenterStopping }.Kept where
  authorized := h.authorized
  running := h.running
  listens hrunning := absurd (hstopping.symm.trans hrunning) (by simp)

end AwaitView

/-- What the activity waits for, as a part of the client. -/
def awaitAspect : Aspect AwaitView where
  view := AwgClient.awaitView
  Kept := AwaitView.Kept
  Tends := AwaitView.Tends
  Settled := AwaitView.Settled
  refl := .refl
  trans := AwaitView.Tends.trans
  view_nextGeneration _ := rfl
  view_markExternal _ _ := rfl
  view_showNotice client event := by
    unfold AwgClient.showNotice
    split <;> rfl

end NmSidebar
