import NmSidebar.Client.Flight

/-!
# One operation at a time

Whoever calls the controller back from wherever it calls out: at most one operation is under way at
the backend, and it is that of the activity.
-/

namespace NmSidebar

open Text Effects

/-! ## The contract -/

/-- The contract of the client about its activity. -/
def flightContract : Contract AwgClient ClientNote where
  invariant client := client.flight.Sound
  rely client client' := client.flight.Serves client'.flight
  issues _ _ := True
  settled _ := True

namespace AwgClient

variable {nested : ClientEntry → Prop}

/-- A function keeps the contract, and its owner may be called from within a callout. -/
def KeepsFlight (nested : ClientEntry → Prop) (client : AwgClient) (p : ClientM AwgClient) : Prop :=
  flightContract.Maintains (clientComponent nested) p fun client' =>
    client'.flight.Sound ∧ client.flight.Serves client'.flight

/-- A function keeps the contract, for an owner of the activity. -/
def MovesFlight (nested : ClientEntry → Prop) (client : AwgClient) (p : ClientM AwgClient) : Prop :=
  flightContract.Maintains (clientComponent nested) p fun client' =>
    client'.flight.Sound ∧ client.flight.Moves client'.flight

variable {client client' : AwgClient} {p : ClientM AwgClient} {activityId : ℕ}

theorem KeepsFlight.moves (h : KeepsFlight nested client p) : MovesFlight nested client p :=
  Contract.Maintains.mono h fun _ hs => ⟨hs.1, hs.2.toMoves⟩

/-- What a function does after a step. -/
theorem KeepsFlight.after (h : KeepsFlight nested client' p)
    (hserves : client.flight.Serves client'.flight) : KeepsFlight nested client p :=
  Contract.Maintains.mono h fun _ hs => ⟨hs.1, hserves.trans hs.2⟩

theorem MovesFlight.after (h : MovesFlight nested client' p)
    (hmoves : client.flight.Moves client'.flight) : MovesFlight nested client p :=
  Contract.Maintains.mono h fun _ hs => ⟨hs.1, hmoves.trans hs.2⟩

theorem KeepsFlight.same (h : KeepsFlight nested client' p)
    (hflight : client'.flight = client.flight) : KeepsFlight nested client p := by
  unfold KeepsFlight
  rw [← hflight]
  exact h

theorem MovesFlight.same (h : MovesFlight nested client' p)
    (hflight : client'.flight = client.flight) : MovesFlight nested client p := by
  unfold MovesFlight
  rw [← hflight]
  exact h

theorem KeepsFlight.bind {f : AwgClient → ClientM AwgClient} (h : KeepsFlight nested client p)
    (hf : ∀ client', client'.flight.Sound → client.flight.Serves client'.flight →
      KeepsFlight nested client' (f client')) : KeepsFlight nested client (p >>= f) :=
  Contract.Maintains.bind h fun client' hs => (hf client' hs.1 hs.2).after hs.2

theorem KeepsFlight.bindMoves {f : AwgClient → ClientM AwgClient}
    (h : KeepsFlight nested client p)
    (hf : ∀ client', client'.flight.Sound → client.flight.Serves client'.flight →
      MovesFlight nested client' (f client')) : MovesFlight nested client (p >>= f) :=
  Contract.Maintains.bind h fun client' hs => (hf client' hs.1 hs.2).after hs.2.toMoves

theorem keepsFlight_pure (h : client.flight.Sound) : KeepsFlight nested client (return client) :=
  ⟨h, .refl _⟩

theorem keepsFlight_callout (h : client.flight.Sound) (n : ClientNote) :
    KeepsFlight nested client (callout n client) :=
  Contract.maintains_callout.mpr ⟨⟨h, trivial⟩, fun _ hs => hs⟩

/-- A call that nobody calls back in. -/
theorem maintains_clientCall {o : ClientCall} {α : Type} {f : o.Reply → ClientM α} {Q : α → Prop}
    (hf : ∀ r, flightContract.Maintains (clientComponent nested) (f r) Q) :
    flightContract.Maintains (clientComponent nested) (clientCall o >>= f) Q :=
  Contract.maintains_sys.mpr fun r _ => hf r

/-- A call that nobody calls back in, and no reply is awaited. -/
theorem maintains_tell {n : ClientNote} {α : Type} {q : ClientM α} {Q : α → Prop}
    (hq : flightContract.Maintains (clientComponent nested) q Q) :
    flightContract.Maintains (clientComponent nested) (tell n >>= fun _ => q) Q :=
  Contract.maintains_sys.mpr fun _ _ => hq

/-! ## What leaves the flight alone -/

theorem activityMatches_iff :
    client.activityMatches activityId = true ↔ client.flight.Matches activityId := by
  unfold activityMatches isRunning
  simp only [Bool.and_eq_true, Bool.not_eq_true', bne_iff_ne, ne_eq, beq_iff_eq]
  constructor
  · rintro ⟨⟨⟨hstarted, hstopping⟩, hbusy⟩, hid⟩
    exact ⟨hstarted, hstopping, hbusy, hid⟩
  · rintro ⟨hstarted, hstopping, hbusy, hid⟩
    exact ⟨⟨⟨hstarted, hstopping⟩, hbusy⟩, hid⟩

@[simp] theorem flight_showNotice (event : NoticeEvent) :
    (client.showNotice event).flight = client.flight := by
  unfold showNotice
  split <;> rfl

@[simp] theorem flight_emitNotice (event : NoticeEvent) :
    (client.emitNotice event).flight = client.flight := by
  unfold emitNotice
  split
  · exact flight_showNotice event
  · rfl

@[simp] theorem flight_emitActionNotice (notice : AwgNotice) (action : ServiceAction) :
    (client.emitActionNotice notice action).flight = client.flight :=
  flight_emitNotice _

@[simp] theorem flight_acceptConfirmation (kind : ConfirmationKind) (activityId : ℕ)
    (name : Option Name) :
    (client.acceptConfirmation kind activityId name).1.flight = client.flight := by
  unfold acceptConfirmation
  split
  · rfl
  · split
    · rfl
    · rfl
    · split <;> rfl

@[simp] theorem flight_mapLoader (index : ℕ) (f : ImportLoader → ImportLoader) :
    (client.mapLoader index f).flight = client.flight := rfl

@[simp] theorem flight_explain (operation : BackendOperation) (name : Option Name)
    (notice : AdmissionNotice) : (client.explain operation name notice).flight = client.flight := by
  unfold explain
  split
  · rfl
  · exact flight_emitNotice _

theorem keepsFlight_emitChanged (h : client.flight.Sound) (delayMs : ℕ) :
    KeepsFlight nested client (client.emitChanged delayMs) := by
  unfold emitChanged forwardChanged
  split
  · split
    · exact @keepsFlight_pure nested client.nextGeneration h
    · exact @keepsFlight_callout nested client.nextGeneration h _
  · exact keepsFlight_pure h

theorem keepsFlight_requestInventory (h : client.flight.Sound) (force : Bool) :
    KeepsFlight nested client (client.requestInventory force) := by
  unfold requestInventory
  split
  · exact keepsFlight_pure h
  · exact (keepsFlight_callout h _).bind fun _ hs _ => keepsFlight_callout hs _

theorem keepsFlight_setExternalInteraction (h : client.flight.Sound) (active : Bool) :
    KeepsFlight nested client (client.setExternalInteraction active) := by
  unfold setExternalInteraction
  split
  · exact keepsFlight_pure h
  split
  · exact @keepsFlight_pure nested (client.markExternal active) h
  · exact @keepsFlight_callout nested (client.markExternal active) h _

/-! ## Activities -/

/-- An activity whose action is spare ends. Others may end it where no operation can come of it any
more. -/
theorem maintains_finishActivity (h : client.flight.Sound) (hspare : client.flight.Spare activityId)
    (delayMs : ℕ) :
    flightContract.Maintains (clientComponent nested) (client.finishActivity activityId delayMs)
      fun client' => client'.flight.Sound ∧ client.flight.Moves client'.flight ∧
        ((client.activity.isCommand = true → client.runtimeVerificationPending = true) →
          client.flight.Serves client'.flight) := by
  unfold finishActivity
  split
  · exact ⟨h, .refl _, fun _ => .refl _⟩
  · rename_i hmatches
    have hmatches := activityMatches_iff.mp (Bool.eq_true_of_not_eq_false hmatches)
    have hfinished : client.finished.flight.Sound := h.finish hmatches hspare
    refine Contract.Maintains.mono ((keepsFlight_emitChanged hfinished delayMs).bind
      fun emitted hs _ => ?_) fun client' hs => ?_
    · split
      · exact keepsFlight_pure hs
      · refine (keepsFlight_callout hs _).bind fun _ hs _ => ?_
        split
        · exact maintains_tell (keepsFlight_pure hs)
        · exact keepsFlight_pure hs
    · exact ⟨hs.1, (Flight.moves_finish client.flight).trans hs.2.toMoves,
        fun hended => (Flight.serves_finish hended).trans hs.2⟩

theorem movesFlight_finishActivity (h : client.flight.Sound)
    (hspare : client.flight.Spare activityId) (delayMs : ℕ) :
    MovesFlight nested client (client.finishActivity activityId delayMs) :=
  Contract.Maintains.mono (maintains_finishActivity h hspare delayMs) fun _ hs => ⟨hs.1, hs.2.1⟩

theorem keepsFlight_finishActivity (h : client.flight.Sound)
    (hspare : client.flight.Spare activityId)
    (hended : client.activity.isCommand = true → client.runtimeVerificationPending = true)
    (delayMs : ℕ) : KeepsFlight nested client (client.finishActivity activityId delayMs) :=
  Contract.Maintains.mono (maintains_finishActivity h hspare delayMs) fun _ hs =>
    ⟨hs.1, hs.2.2 hended⟩

/-- The activity that is verified ends. -/
theorem keepsFlight_finishVerified (h : client.flight.Sound)
    (hverified : client.runtimeVerificationPending = true) (delayMs : ℕ) :
    KeepsFlight nested client (client.finishActivity client.activityId delayMs) :=
  keepsFlight_finishActivity h (h.spare_of_verified hverified) (fun _ => hverified) delayMs

/-- The activity goes on as another one: where it still does afterwards, nobody has changed it. -/
theorem maintains_transitionActivity {activity : AwgActivity} (name : Option Name)
    (h : ¬ (client.flight.Matches activityId ∧ activity ≠ .idle) → client.flight.Sound)
    (hsound : client.flight.Matches activityId → activity ≠ .idle →
      (client.flight.enter activity).Sound) :
    flightContract.Maintains (clientComponent nested)
      (client.transitionActivity activityId activity name) fun entered =>
        entered.1.flight.Sound ∧ client.flight.Moves entered.1.flight ∧
          (entered.2 = true → client.flight.Matches activityId ∧
            entered.1.flight.Matches activityId ∧ entered.1.activity = activity ∧
              (client.flight.enter activity).Serves entered.1.flight) := by
  unfold transitionActivity
  split
  · rename_i hrefused
    refine ⟨h fun hgoes => ?_, .refl _, by simp⟩
    rcases hrefused with hother | hidle
    · exact Bool.false_ne_true (hother.symm.trans (activityMatches_iff.mpr hgoes.1))
    · exact hgoes.2 hidle
  · rename_i hgoes
    obtain ⟨hmatches, hactivity⟩ := not_or.mp hgoes
    have hmatches := activityMatches_iff.mp (Bool.eq_true_of_not_eq_false hmatches)
    have hentered : (client.entered activity name).flight.Sound := hsound hmatches hactivity
    refine Contract.Maintains.bind (keepsFlight_emitChanged hentered 1) fun client' hs => ?_
    refine ⟨hs.1, (Flight.moves_enter client.flight activity).trans hs.2.toMoves, fun hok => ?_⟩
    obtain ⟨hmatches', hactivity'⟩ := Bool.and_eq_true_iff.mp hok
    exact ⟨hmatches, activityMatches_iff.mp hmatches', beq_iff_eq.mp hactivity', hs.2⟩

theorem keepsFlight_respond (h : client.flight.Sound) (operation : BackendOperation)
    (name : Option Name) (response : AdmissionResponse) :
    KeepsFlight nested client (client.respond operation name response) := by
  unfold respond refresh
  have hexplained : (client.explain operation name response.notice).flight.Sound := by
    rwa [flight_explain]
  refine KeepsFlight.same (KeepsFlight.bind ?_ fun _ hs _ => ?_)
    (client.flight_explain operation name response.notice)
  · split
    · exact keepsFlight_requestInventory hexplained true
    split
    · exact keepsFlight_callout hexplained _
    · exact keepsFlight_pure hexplained
  · split
    · exact keepsFlight_emitChanged hs 1
    · exact keepsFlight_pure hs

/-- Where an operation is admitted, nobody has been told anything. -/
theorem maintains_operationIsAllowed (h : client.flight.Sound) (operation : BackendOperation)
    (name : Option Name) (continuingActivity : Bool) :
    flightContract.Maintains (clientComponent nested)
      (client.operationIsAllowed operation name continuingActivity) fun reply =>
        reply.client.flight.Sound ∧ client.flight.Serves reply.client.flight ∧
          (reply.allowed = true → reply.client = client) := by
  unfold operationIsAllowed
  refine maintains_clientCall fun facts => ?_
  split
  · exact ⟨h, .refl _, fun _ => rfl⟩
  · dsimp only
    split
    · exact ⟨h, .refl _, fun _ => rfl⟩
    · exact Contract.Maintains.bind (keepsFlight_respond h operation name _) fun _ hs =>
        ⟨hs.1, hs.2, by simp⟩

/-- A new activity that is still there when the others have been told. -/
structure Begun (client client' : AwgClient) (activity : AwgActivity) : Prop where
  idle : client.activity = .idle
  id : client'.activityId = client.activityId + 1
  matches' : client'.flight.Matches (client.activityId + 1)
  activity : client'.activity = activity
  held : client'.flight.Held (client.activityId + 1)
  fresh : ∀ entry ∈ client'.dispatched, entry.1 ≤ client.activityId

theorem maintains_beginActivity (h : client.flight.Sound) (operation : BackendOperation)
    (activity : AwgActivity) (name : Option Name) :
    flightContract.Maintains (clientComponent nested)
      (client.beginActivity operation activity name) fun begun =>
        begun.1.flight.Sound ∧ client.flight.Serves begun.1.flight ∧
          (begun.2 = true → Begun client begun.1 activity) := by
  unfold beginActivity
  split
  · exact ⟨h, .refl _, by simp⟩
  · rename_i hgoes
    simp only [not_or, Bool.not_eq_false, not_not] at hgoes
    obtain ⟨hrunning, hactivity, hidle, hbound⟩ := hgoes
    simp only [isRunning, Bool.and_eq_true, Bool.not_eq_true'] at hrunning
    refine Contract.Maintains.bind (maintains_operationIsAllowed h operation name false)
      fun reply hreply => ?_
    obtain ⟨hs, hserves, hallowed⟩ := hreply
    split
    · exact ⟨hs, hserves, by simp⟩
    · rename_i hyes
      obtain rfl := hallowed (Bool.eq_true_of_not_eq_false hyes)
      refine maintains_tell ?_
      have hbegun : (reply.client.begun activity name).flight.Sound :=
        hs.begin hrunning.1 hrunning.2 hidle hbound activity
      have hstep : reply.client.flight.Serves (reply.client.begun activity name).flight := by
        refine ⟨{ Flight.Moves.refl reply.client.flight with later := Nat.le_succ _ }, ?_, ?_,
          fun _ h => .inl h⟩
        · exact fun hmatches => absurd hmatches.id (Nat.succ_ne_self _)
        · intro _ hcommand
          rw [show reply.client.flight.activity = .idle from hidle] at hcommand
          exact absurd hcommand (by simp [AwgActivity.isCommand])
      refine Contract.Maintains.bind (keepsFlight_emitChanged hbegun 1) fun client' hs' => ?_
      refine ⟨hs'.1, hstep.trans hs'.2, fun hok => ?_⟩
      obtain ⟨hmatches, hactivity'⟩ := Bool.and_eq_true_iff.mp hok
      have hmatches := activityMatches_iff.mp hmatches
      have hlanded := hs.landed_of_not_command hrunning.2
        (by rw [show reply.client.flight.activity = .idle from hidle]; rfl)
      have hanswered : reply.client.flight.pendingConfirmation = none :=
        hs.answered_of fun kind hkind => confirmation_ne_idle kind (hkind.symm.trans hidle)
      have hverified := hs.unverified_of_not_command
        (by rw [show reply.client.flight.activity = .idle from hidle]; rfl)
      have hheld : (reply.client.begun activity name).flight.Held (reply.client.activityId + 1) :=
        ⟨⟨le_rfl, fun _ => hlanded, fun _ => hanswered⟩, fun _ => hverified⟩
      refine ⟨hidle, hmatches.id, hmatches, beq_iff_eq.mp hactivity', hheld.serves hs'.2, ?_⟩
      intro entry hmem
      rcases hs'.2.newer entry hmem with hold | hlater
      · exact hs.logged entry hold
      · have hle := hs'.1.logged entry hmem
        have hlater : reply.client.activityId + 1 < entry.1 := hlater
        have hid := hmatches.id
        omega

/-! ## Operations of the service -/

theorem maintains_tellIf {called : Bool} {n : ClientNote} {α : Type} {q : ClientM α}
    {Q : α → Prop} (hq : flightContract.Maintains (clientComponent nested) q Q) :
    flightContract.Maintains (clientComponent nested) (tellIf called n >>= fun _ => q) Q := by
  unfold tellIf
  split
  · exact maintains_tell hq
  · exact hq

theorem movesFlight_completeWithPurpose {action : ServiceAction} (h : client.flight.Sound)
    (hspare : client.flight.Spare action.activityId) (delayMs : ℕ) (purpose : RefreshPurpose) :
    MovesFlight nested client
      (client.completeMutationActionWithPurpose action delayMs purpose) := by
  unfold completeMutationActionWithPurpose
  split
  · exact (keepsFlight_pure h).moves
  · rename_i hmatches
    have hmatches := activityMatches_iff.mp (Bool.eq_true_of_not_eq_false hmatches)
    refine maintains_tellIf ?_
    have hverifying : client.verifying.flight.Sound := h.verify (hspare.landed hmatches)
    have hspare' : client.verifying.flight.Spare action.activityId :=
      ⟨hspare.le, fun _ => hspare.landed hmatches, fun _ => hspare.answered hmatches⟩
    refine MovesFlight.after (KeepsFlight.bindMoves (keepsFlight_callout hverifying _)
      fun refreshed hs hserves => ?_) (Flight.moves_verify client.flight)
    refine maintains_clientCall fun checking => ?_
    split
    · exact movesFlight_finishActivity hs (hspare'.serves hserves) 400
    · exact (keepsFlight_pure hs).moves

theorem movesFlight_complete {action : ServiceAction} (h : client.flight.Sound)
    (hspare : client.flight.Spare action.activityId) (delayMs : ℕ) :
    MovesFlight nested client (client.completeMutationAction action delayMs) :=
  movesFlight_completeWithPurpose h hspare delayMs .visible

theorem movesFlight_completeWithoutInventory {action : ServiceAction} (h : client.flight.Sound)
    (hspare : client.flight.Spare action.activityId) :
    MovesFlight nested client (client.completeMutationWithoutInventory action) :=
  movesFlight_finishActivity h hspare 1

/-- The end of an action after a notice about it. -/
theorem movesFlight_noticed {action : ServiceAction} {notice : AwgNotice}
    (h : client.flight.Sound) (hspare : client.flight.Spare action.activityId)
    {q : AwgClient → ClientM AwgClient}
    (hq : ∀ client' : AwgClient, client'.flight.Sound → client'.flight.Spare action.activityId →
      MovesFlight nested client' (q client')) :
    MovesFlight nested client (q (client.emitActionNotice notice action)) := by
  refine MovesFlight.same (hq _ ?_ ?_) (client.flight_emitActionNotice notice action)
  · rwa [flight_emitActionNotice]
  · rwa [flight_emitActionNotice]

theorem movesFlight_refuse {action : ServiceAction} (h : client.flight.Sound)
    (hspare : client.flight.Spare action.activityId) (notice : AwgNotice) :
    MovesFlight nested client (client.refuseAction notice action) :=
  movesFlight_noticed (q := (·.completeMutationWithoutInventory action)) h hspare
    fun _ => movesFlight_completeWithoutInventory

theorem movesFlight_confirmationUnavailable {action : ServiceAction} (h : client.flight.Sound)
    (hspare : client.flight.Spare action.activityId) (kind : ConfirmationKind) :
    MovesFlight nested client (client.confirmationUnavailable action kind) := by
  unfold confirmationUnavailable
  cases kind with
  | replace =>
    refine movesFlight_noticed (q := (·.completeMutationAction action 400)) h hspare ?_
    exact fun _ h hspare => movesFlight_complete h hspare 400
  | delete =>
    refine movesFlight_noticed (q := (·.finishActivity action.activityId 1)) h hspare ?_
    exact fun _ h hspare => movesFlight_finishActivity h hspare 1

/-- What is confirmed is the action that waits. -/
theorem confirmationMatches_iff {kind : ConfirmationKind} :
    client.confirmationMatches kind activityId = true ↔
      client.flight.Matches activityId ∧ client.activity = kind.activity ∧
        ∃ action ∈ client.pendingConfirmation, action.activityId = activityId ∧
          action.operation = kind.asks := by
  unfold confirmationMatches
  simp only [Bool.and_eq_true, activityMatches_iff, beq_iff_eq, Option.any_eq_true]
  constructor
  · rintro ⟨⟨hmatches, hactivity⟩, action, hmem, hid, hasks⟩
    exact ⟨hmatches, hactivity, action, hmem, hid, hasks⟩
  · rintro ⟨hmatches, hactivity, action, hmem, hid, hasks⟩
    exact ⟨⟨hmatches, hactivity⟩, action, hmem, hid, hasks⟩

/-- The action of a confirmation that is taken is spare. -/
theorem held_unwaiting {kind : ConfirmationKind} (h : client.flight.Sound)
    (hmatches : client.flight.Matches activityId) (hactivity : client.activity = kind.activity) :
    client.unwaiting.flight.Held activityId where
  le := hmatches.id.ge
  landed _ := h.landed_of_not_command hmatches.stopping
    (by rw [show client.flight.activity = kind.activity from hactivity, isCommand_confirmation])
  answered _ := rfl
  unverified _ := h.unverified_of_not_command
    (by rw [show client.flight.activity = kind.activity from hactivity, isCommand_confirmation])

theorem movesFlight_presentRequest {action : ServiceAction} (h : client.flight.Sound)
    (kind : ConfirmationKind) :
    MovesFlight nested client (client.presentConfirmationRequest action kind) := by
  unfold presentConfirmationRequest
  split
  · exact (keepsFlight_pure h).moves
  dsimp only
  have haccepted (accepted : AwgClient × Bool) (hflight : accepted.1.flight = client.flight) :
      MovesFlight nested client
        (if accepted.1.confirmationMatches kind action.activityId = false ∨ accepted.2 = true then
          return accepted.1
        else accepted.1.unwaiting.confirmationUnavailable
          (accepted.1.pendingConfirmation.getD action) kind) := by
    have h : accepted.1.flight.Sound := by rwa [hflight]
    refine MovesFlight.same ?_ hflight
    split
    · exact (keepsFlight_pure h).moves
    · rename_i hrefused
      obtain ⟨hmatches, hactivity, asked, hasked, hid, -⟩ := confirmationMatches_iff.mp
        (Bool.eq_true_of_not_eq_false (not_or.mp hrefused).1)
      rw [show accepted.1.pendingConfirmation.getD action = asked by
        rw [show accepted.1.pendingConfirmation = some asked from hasked, Option.getD_some]]
      have hheld := held_unwaiting h hmatches hactivity
      have hsound : accepted.1.unwaiting.flight.Sound := h.respond
      exact MovesFlight.after (movesFlight_confirmationUnavailable hsound
        (hid ▸ hheld.toSpare) kind) (Flight.moves_respond accepted.1.flight)
  split
  · exact haccepted _ (client.flight_acceptConfirmation kind _ _)
  · exact haccepted (client, false) rfl

/-- A confirmation is asked for by the action of the activity. -/
theorem movesFlight_requestConfirmation {action : ServiceAction} {kind : ConfirmationKind}
    (h : client.flight.Sound) (hheld : client.flight.Held action.activityId)
    (hasks : action.operation = kind.asks)
    (hpast : client.flight.Matches action.activityId →
      ∀ operation ∈ client.activity.past, operation ∈ kind.activity.past) :
    MovesFlight nested client (client.requestConfirmation action kind) := by
  unfold requestConfirmation
  split
  · exact (keepsFlight_pure h).moves
  rename_i hmatches
  have hmatches := activityMatches_iff.mp (Bool.eq_true_of_not_eq_false hmatches)
  split
  · refine MovesFlight.same (movesFlight_completeWithoutInventory ?_ ?_) (client.flight_emitNotice _)
    · rwa [flight_emitNotice]
    · rw [flight_emitNotice]
      exact hheld.toSpare
  split
  · exact movesFlight_confirmationUnavailable h hheld.toSpare kind
  have hawaits : (client.flight.await kind action).Sound :=
    h.await hmatches hheld hasks (hpast hmatches)
  have hstep : client.flight.Moves (client.flight.await kind action) :=
    { Flight.Moves.refl client.flight with }
  split
  · rename_i hactivity
    have hwaiting : (client.waiting action).flight = client.flight.await kind action := by
      unfold flight waiting Flight.await
      rw [hactivity]
    refine MovesFlight.after (movesFlight_presentRequest ?_ kind) (hwaiting ▸ hstep)
    rwa [hwaiting]
  · have hwaiting : (client.waiting action).flight.Matches action.activityId :=
      ⟨hmatches.started, hmatches.stopping, hmatches.busy, hmatches.id⟩
    refine Contract.Maintains.bind (@maintains_transitionActivity nested (client.waiting action)
      action.activityId kind.activity action.name
      (fun hother => absurd ⟨hwaiting, confirmation_ne_idle kind⟩ hother) fun _ _ => hawaits)
      fun entered hs => ?_
    have hmoves : client.flight.Moves entered.1.flight :=
      (show client.flight.Moves (client.waiting action).flight from
        { Flight.Moves.refl client.flight with }).trans hs.2.1
    split
    · exact (movesFlight_presentRequest hs.1 kind).after hmoves
    split
    · exact ⟨hs.1.respond, hmoves.trans (Flight.moves_respond _)⟩
    · exact ⟨hs.1, hmoves⟩

theorem movesFlight_serviceSucceeded {action : ServiceAction} (h : client.flight.Sound)
    (hspare : client.flight.Spare action.activityId) :
    MovesFlight nested client (client.serviceSucceeded action) := by
  unfold serviceSucceeded
  refine KeepsFlight.bindMoves (p := client.recordDelete action) ?_ fun deleted hs hserves => ?_
  · unfold recordDelete
    split
    · have hforgotten : client.forgetName.flight.Sound := h
      exact KeepsFlight.bind (keepsFlight_callout hforgotten _) fun _ hs _ =>
        keepsFlight_callout hs _
    · exact keepsFlight_pure h
  refine KeepsFlight.bindMoves (p := deleted.recordImport action) ?_ fun recorded hs hserves' => ?_
  · unfold recordImport
    split
    · exact keepsFlight_callout hs _
    · exact keepsFlight_pure hs
  have hspare := (hspare.serves hserves).serves hserves'
  dsimp only
  split
  · refine maintains_tell ?_
    exact movesFlight_noticed (q := (·.completeMutationWithoutInventory action)) hs hspare
      fun _ => movesFlight_completeWithoutInventory
  · exact movesFlight_noticed (q := (·.completeMutationActionWithPurpose action 400 _)) hs hspare
      fun _ h hspare => movesFlight_completeWithPurpose h hspare 400 _

theorem movesFlight_helperFailed {action : ServiceAction} (h : client.flight.Sound)
    (hspare : client.flight.Spare action.activityId) (status : ℕ) :
    MovesFlight nested client (client.helperFailed action status) := by
  unfold helperFailed
  dsimp only
  refine maintains_tellIf (MovesFlight.same (movesFlight_complete ?_ ?_ _)
    (client.flight_emitNotice _))
  · rwa [flight_emitNotice]
  · rwa [flight_emitNotice]

/-- A reply to the operation of the activity. -/
theorem movesFlight_serviceReplied {action : ServiceAction} (h : client.flight.Sound)
    (howns : client.flight.Owns action) (status : ℕ) :
    MovesFlight nested client (client.serviceReplied action status) := by
  unfold serviceReplied
  refine (keepsFlight_callout h _).bindMoves fun told hs hserves => ?_
  have howns := howns.serves hserves
  split
  · exact movesFlight_serviceSucceeded hs howns.toSpare
  split
  · rename_i hasks
    refine movesFlight_requestConfirmation hs howns.toHeld hasks.1 fun hmatches operation hpast => ?_
    have hactivity := howns.runs hmatches
    rw [hasks.1, BackendOperation.command, Option.some.injEq] at hactivity
    rw [show told.activity = .import from hactivity.symm] at hpast
    exact hpast
  · exact movesFlight_helperFailed hs howns.toSpare status

theorem movesFlight_serviceResult {action : ServiceAction} (h : client.flight.Sound)
    (howns : client.flight.Owns action) (result : BackendResult) :
    MovesFlight nested client (client.backendServiceResult result action) := by
  unfold backendServiceResult
  split
  · exact (keepsFlight_pure h).moves
  refine (keepsFlight_callout h _).bindMoves fun told hs hserves => ?_
  have howns := howns.serves hserves
  have hcompletes (client : AwgClient) (h : client.flight.Sound) (howns : client.flight.Owns action)
      (notice : AwgNotice) (delayMs : ℕ) : MovesFlight nested client
        ((client.emitActionNotice notice action).completeMutationAction action delayMs) :=
    movesFlight_noticed (q := (·.completeMutationAction action delayMs)) h howns.toSpare
      fun _ h hspare => movesFlight_complete h hspare delayMs
  split
  · exact movesFlight_completeWithoutInventory hs howns.toSpare
  · exact hcompletes told hs howns _ _
  · refine (keepsFlight_callout hs _).bindMoves fun reached hs hserves => maintains_tell ?_
    exact hcompletes reached hs (howns.serves hserves) _ _
  · refine (keepsFlight_callout hs _).bindMoves fun reached hs hserves => ?_
    have howns := howns.serves hserves
    refine (keepsFlight_callout hs _).bindMoves fun invalidated hs hserves => ?_
    exact movesFlight_noticed (q := (·.completeMutationWithoutInventory action)) hs
      (howns.serves hserves).toSpare fun _ => movesFlight_completeWithoutInventory
  · refine (keepsFlight_callout hs _).bindMoves fun reached hs hserves => ?_
    exact hcompletes reached hs (howns.serves hserves) _ _
  · refine (keepsFlight_callout hs _).bindMoves fun reached hs hserves => maintains_tell ?_
    exact hcompletes reached hs (howns.serves hserves) _ _
  · exact movesFlight_serviceReplied hs howns result.status

/-- The backend is asked to execute the action of the activity. -/
theorem maintains_backendExecute {action : ServiceAction} {base : Flight}
    (h : client.flight.Sound) (howns : client.flight.Owns action)
    (hnew : (action.activityId, action.operation) ∉ client.dispatched)
    (hready : client.backend = .running → client.flight.Matches action.activityId)
    (hbase : base.Moves client.flight) (hid : base.activityId ≤ action.activityId) :
    flightContract.Maintains (clientComponent nested) (client.backendExecute action) fun client' =>
      client'.flight.Sound ∧ base.Moves client'.flight := by
  have hexecuted : (client.executed action).flight.Sound := h.execute howns hnew
  have howns' : (client.executed action).flight.Owns action :=
    ⟨⟨⟨howns.le, fun hmatches => howns.landed { hmatches with },
      fun hmatches => howns.answered { hmatches with }⟩,
      fun hmatches => howns.unverified { hmatches with }⟩,
      fun hmatches => howns.runs { hmatches with }⟩
  have hmoves : base.Moves (client.executed action).flight := by
    refine { hbase with logged := fun entry hmem => ?_ }
    rcases List.mem_append.mp hmem with hold | hlast
    · exact hbase.logged entry hold
    · obtain rfl := List.mem_singleton.mp hlast
      exact .inr hid
  have hresult (result : BackendResult) :
      flightContract.Maintains (clientComponent nested)
        ((client.executed action).backendServiceResult result action) fun client' =>
        client'.flight.Sound ∧ base.Moves client'.flight :=
    Contract.Maintains.mono (movesFlight_serviceResult hexecuted howns' result) fun _ hs =>
      ⟨hs.1, hmoves.trans hs.2⟩
  unfold backendExecute
  split
  · exact hresult _
  · rename_i hrunning
    have hmatches := hready (not_not.mp hrunning)
    refine maintains_clientCall fun passed => ?_
    split
    · exact hresult _
    · have hknown : (action.activityId, action.operation) ∈ (client.executed action).dispatched :=
        List.mem_append_right _ (List.mem_singleton_self _)
      exact ⟨hexecuted.send howns' { hmatches with } hknown,
        hmoves.trans { Flight.Moves.refl _ with }⟩

/-- The action of the activity is dispatched, once. -/
theorem movesFlight_dispatchAdmitted {action : ServiceAction} (h : client.flight.Sound)
    (howns : client.flight.Owns action)
    (hnew : (action.activityId, action.operation) ∉ client.dispatched) :
    MovesFlight nested client (client.dispatchAdmitted action) := by
  unfold dispatchAdmitted
  split
  · exact (keepsFlight_pure h).moves
  rename_i hmatches
  have hmatches := activityMatches_iff.mp (Bool.eq_true_of_not_eq_false hmatches)
  split
  · exact movesFlight_refuse h howns.toSpare _
  have hreply : flightContract.Maintains (clientComponent nested) (client.commandIsAllowed action)
      fun reply => reply.client.flight.Sound ∧ client.flight.Serves reply.client.flight ∧
        (reply.allowed = true → reply.client = client) := by
    unfold commandIsAllowed
    split
    · exact ⟨h, .refl _, fun _ => rfl⟩
    · exact maintains_operationIsAllowed h _ _ _
  refine Contract.Maintains.bind hreply fun reply hs => ?_
  obtain ⟨hs, hserves, hallowed⟩ := hs
  split
  · exact (movesFlight_completeWithoutInventory hs (howns.serves hserves).toSpare).after
      hserves.toMoves
  · rename_i hyes
    obtain rfl := hallowed (Bool.eq_true_of_not_eq_false hyes)
    refine maintains_clientCall fun facts => ?_
    split
    · exact movesFlight_refuse hs howns.toSpare _
    · refine Contract.Maintains.bind (keepsFlight_callout hs _) fun told htold => ?_
      obtain ⟨hsound, hserves⟩ := htold
      have hnew := Flight.notMem_dispatched_serves howns.le hnew hserves
      refine maintains_backendExecute hsound (howns.serves hserves) hnew (fun hrunning => ?_)
        hserves.toMoves hmatches.id.le
      -- nobody but a stop ends the activity of a command whose operation is not under way
      have hcommand := isCommand_of_command (howns.runs hmatches)
      rcases hserves.held hmatches.started hcommand (howns.landed hmatches)
        (howns.unverified hmatches) with hstops | ⟨hactivity, hid⟩
      · have hstopped := hserves.halts hmatches.stopping hstops
        have hrunning : told.flight.backend = .running := hrunning
        rw [hstopped] at hrunning
        simp at hrunning
      · refine hsound.matches_of_busy ?_ (hid.trans hmatches.id)
        rw [hactivity]
        exact hmatches.busy

theorem movesFlight_dispatch {action : ServiceAction} (h : client.flight.Sound)
    (howns : client.flight.Owns action)
    (hnew : (action.activityId, action.operation) ∉ client.dispatched) :
    MovesFlight nested client (client.dispatchServiceAction action) := by
  unfold dispatchServiceAction
  split
  · exact (keepsFlight_pure h).moves
  split
  · exact movesFlight_refuse h howns.toSpare _
  split
  · exact movesFlight_refuse h howns.toSpare _
  · refine (keepsFlight_callout h _).bindMoves fun preempted hs hserves => ?_
    exact movesFlight_dispatchAdmitted hs (howns.serves hserves)
      (Flight.notMem_dispatched_serves howns.le hnew hserves)

/-! ## Imports -/

/-- The action of an activity that has gone on as that of its operation is dispatched. -/
theorem movesFlight_dispatchEntered {entered : AwgClient} {activity : AwgActivity}
    {action : ServiceAction} (h : client.flight.Sound)
    (hheld : client.flight.Held action.activityId)
    (hmatches : client.flight.Matches action.activityId)
    (hcommand : action.operation.command = some activity)
    (hpast : action.operation ∉ client.activity.past) (hentered : entered.flight.Sound)
    (hserves : (client.flight.enter activity).Serves entered.flight) :
    MovesFlight nested entered (entered.dispatchServiceAction action) :=
  movesFlight_dispatch hentered ((hheld.owns_enter hmatches hcommand).serves hserves)
    (@Flight.notMem_dispatched_serves (client.flight.enter activity) _ _ hheld.le
      (h.notMem_dispatched hmatches hpast) hserves)

theorem movesFlight_importLoaded (h : client.flight.Sound) (config : Option Bytes) :
    MovesFlight nested client (client.importLoaded activityId config) := by
  unfold importLoaded
  split
  · exact (keepsFlight_pure h).moves
  rename_i hgoes
  obtain ⟨hmatches, hactivity⟩ := not_or.mp hgoes
  have hmatches := activityMatches_iff.mp (Bool.eq_true_of_not_eq_false hmatches)
  have hactivity : client.flight.activity = .importLoad := not_not.mp hactivity
  have hheld : client.flight.Held activityId := hmatches.id ▸ h.held (by rw [hactivity]; rfl)
    fun kind hkind => by cases kind <;> simp [hactivity, ConfirmationKind.activity] at hkind
  dsimp only
  refine Contract.Maintains.bind (maintains_transitionActivity _ (fun _ => h) fun _ _ =>
    h.enter hmatches hheld ?_) fun entered hs => ?_
  · rw [hactivity]
    simp [AwgActivity.past]
  obtain ⟨hs, hmoves, hentered⟩ := hs
  split
  · rename_i hok
    obtain ⟨-, -, -, hserves⟩ := hentered hok
    refine (movesFlight_dispatchEntered h hheld hmatches rfl ?_ hs hserves).after hmoves
    rw [show client.activity = .importLoad from hactivity]
    simp [AwgActivity.past]
  · exact ⟨hs, hmoves⟩

/-- An import that is selected or loaded ends. -/
theorem keepsFlight_finishImport (h : client.flight.Sound)
    (hactivity : client.activity = .importSelect ∨ client.activity = .importLoad)
    (hid : client.activityId = activityId) (delayMs : ℕ) :
    KeepsFlight nested client (client.finishActivity activityId delayMs) := by
  have hcommand : client.flight.activity.isCommand = false := by
    rcases hactivity with hactivity | hactivity <;>
      rw [show client.flight.activity = _ from hactivity] <;> rfl
  have hheld := h.held hcommand fun kind hkind => by
    rcases hactivity with hactivity | hactivity <;> cases kind <;>
      simp [show client.flight.activity = _ from hactivity, ConfirmationKind.activity] at hkind
  refine keepsFlight_finishActivity h (hid ▸ hheld.toSpare) (fun hcommand' => ?_) delayMs
  exact absurd (hcommand.symm.trans hcommand') Bool.false_ne_true

/-- The same after a notice. -/
theorem keepsFlight_finishImportNoticed (h : client.flight.Sound)
    (hactivity : client.activity = .importSelect ∨ client.activity = .importLoad)
    (hid : client.activityId = activityId) (event : NoticeEvent) (delayMs : ℕ) :
    KeepsFlight nested client ((client.emitNotice event).finishActivity activityId delayMs) := by
  have hflight := client.flight_emitNotice event
  refine KeepsFlight.same (keepsFlight_finishImport (hflight ▸ h) ?_ ?_ delayMs) hflight
  · rw [show (client.emitNotice event).activity = client.activity from
      congrArg Flight.activity hflight]
    exact hactivity
  · exact (congrArg Flight.activityId hflight).trans hid

theorem movesFlight_importFailed (h : client.flight.Sound) (error : ImportError) :
    MovesFlight nested client (client.importFailed activityId error) := by
  unfold importFailed
  split
  · exact (keepsFlight_pure h).moves
  · rename_i hgoes
    obtain ⟨hmatches, hactivity, -⟩ := (not_or.mp hgoes).imp id not_or.mp
    have hmatches := activityMatches_iff.mp (Bool.eq_true_of_not_eq_false hmatches)
    exact (keepsFlight_finishImportNoticed h (.inr (not_not.mp hactivity)) hmatches.id _ 1).moves

@[simp] theorem flight_disown (index : ℕ) : (client.disown index).flight = client.flight := by
  unfold disown
  split <;> rfl

theorem movesFlight_importLoadCb (h : client.flight.Sound) (index : ℕ) (result : ImportLoadResult)
    (config : Option Bytes) :
    MovesFlight nested client (client.importLoadCb index activityId result config) := by
  unfold importLoadCb
  have hdisowned : (client.disown index).flight.Sound := by rwa [flight_disown]
  refine MovesFlight.same ?_ (client.flight_disown index)
  dsimp only
  split
  · exact (keepsFlight_pure hdisowned).moves
  split
  · exact movesFlight_importLoaded hdisowned config
  split
  · exact movesFlight_importFailed hdisowned _
  · exact (keepsFlight_pure hdisowned).moves

theorem movesFlight_completeLoad (h : client.flight.Sound) (index : ℕ) (result : ImportLoadResult)
    (config : Option Bytes) :
    MovesFlight nested client (client.completeLoad index result config) := by
  unfold completeLoad
  split
  · exact (keepsFlight_pure h).moves
  split
  · exact (keepsFlight_pure h).moves
  · rename_i loader _ _
    have hcompleted : (client.mapLoader index (·.complete ⟨result, config, client.activity,
      client.activityId⟩)).flight.Sound := h
    exact MovesFlight.same (movesFlight_importLoadCb hcompleted index result config) rfl

/-- A load that is cancelled tells the controller nothing. -/
theorem completeLoad_cancelled (index : ℕ) : ∃ importLoader loaders,
    client.completeLoad index .cancelled none =
      return { client with importLoader := importLoader, loaders := loaders } := by
  unfold completeLoad
  split
  · exact ⟨client.importLoader, client.loaders, rfl⟩
  split
  · exact ⟨client.importLoader, client.loaders, rfl⟩
  · let completed := client.mapLoader index (·.complete ⟨.cancelled, none, client.activity,
      client.activityId⟩)
    refine ⟨(completed.disown index).importLoader, completed.loaders, ?_⟩
    unfold importLoadCb disown
    dsimp only
    split
    · split <;> rfl
    · split <;> rfl

/-- Nor does a loader that is cancelled. -/
theorem importLoaderCancel_returns (index : ℕ) : ∃ importLoader loaders,
    client.importLoaderCancel index =
      return { client with importLoader := importLoader, loaders := loaders } := by
  unfold importLoaderCancel
  split
  · exact ⟨client.importLoader, client.loaders, rfl⟩
  · exact @completeLoad_cancelled (client.mapLoader index .cancel) index

theorem keepsFlight_importLoaderCancel (h : client.flight.Sound) (index : ℕ) :
    KeepsFlight nested client (client.importLoaderCancel index) := by
  obtain ⟨importLoader, loaders, hreturns⟩ := client.importLoaderCancel_returns index
  rw [hreturns]
  exact ⟨h, .refl client.flight⟩

theorem keepsFlight_cancelImportInteraction (h : client.flight.Sound) :
    KeepsFlight nested client client.cancelImportInteraction := by
  unfold cancelImportInteraction
  have hdestroyed : client.destroyChooser.flight.Sound := h
  refine KeepsFlight.bind (keepsFlight_setExternalInteraction hdestroyed false) fun ended hs _ => ?_
  split
  · exact keepsFlight_pure hs
  · exact keepsFlight_importLoaderCancel hs _

theorem keepsFlight_dismissInteractions (h : client.flight.Sound) :
    KeepsFlight nested client client.dismissInteractions :=
  KeepsFlight.same (keepsFlight_cancelImportInteraction h) rfl

/-- A chooser is presented, or not. -/
theorem maintains_emitSelectImport (h : client.flight.Sound) (activityId : ℕ) :
    flightContract.Maintains (clientComponent nested) (client.emitSelectImport activityId)
      fun shown => shown.1.flight.Sound ∧ client.flight.Serves shown.1.flight := by
  unfold emitSelectImport presentImportChooser
  split
  · split
    · exact ⟨h, .refl _⟩
    · refine maintains_clientCall fun made => ?_
      split
      · exact ⟨h, .refl _⟩
      · have hchooser : (client.withChooser activityId).flight.Sound := h
        refine Contract.Maintains.bind (keepsFlight_setExternalInteraction hchooser true)
          fun shown hs => ?_
        split
        · have hdestroyed : shown.destroyChooser.flight.Sound := hs.1
          refine Contract.Maintains.bind (keepsFlight_setExternalInteraction hdestroyed false)
            fun ended hs' => ?_
          exact ⟨hs'.1, hs.2.trans hs'.2⟩
        · exact hs
  · exact ⟨h, .refl _⟩

theorem keepsFlight_controllerImport (h : client.flight.Sound) :
    KeepsFlight nested client client.controllerImport := by
  unfold controllerImport
  split
  · exact keepsFlight_pure h
  refine Contract.Maintains.bind (maintains_operationIsAllowed h _ _ _) fun reply hreply => ?_
  obtain ⟨hs, hserves, -⟩ := hreply
  split
  · exact ⟨hs, hserves⟩
  split
  · refine ⟨?_, ?_⟩ <;> unfold importChooserUnavailable <;> rw [flight_emitNotice]
    · exact hs
    · exact hserves
  refine Contract.Maintains.bind (maintains_beginActivity hs _ _ _) fun begun hbegun => ?_
  obtain ⟨hs, hserves', hbegun⟩ := hbegun
  have hserves := hserves.trans hserves'
  split
  · exact ⟨hs, hserves⟩
  · rename_i hyes
    have hbegun := hbegun (Bool.eq_true_of_not_eq_false hyes)
    refine Contract.Maintains.bind (maintains_emitSelectImport hs _) fun shown hshown => ?_
    obtain ⟨hs, hserves'⟩ := hshown
    split
    · rename_i hrefused
      have hmatches := activityMatches_iff.mp hrefused.2
      obtain ⟨-, hactivity, -⟩ := hserves'.matches_back hmatches le_rfl
      have hactivity : shown.1.activity = .importSelect :=
        (show shown.1.activity = begun.1.activity from hactivity).trans hbegun.activity
      unfold importChooserUnavailable
      exact (keepsFlight_finishImportNoticed hs (.inl hactivity) hmatches.id _ 1).after
        (hserves.trans hserves')
    · exact ⟨hs, hserves.trans hserves'⟩

theorem keepsFlight_controllerCancelImport (h : client.flight.Sound) :
    KeepsFlight nested client client.controllerCancelImport := by
  unfold controllerCancelImport
  split
  · rename_i himport
    exact keepsFlight_finishImportNoticed h himport.2 rfl _ 1
  · exact keepsFlight_pure h

/-! ## The functions that only the main loop calls -/

theorem maintains_importFileSelected (h : client.flight.Sound) (basename : Option Bytes) :
    flightContract.Maintains (clientComponent nested)
      (client.importFileSelected activityId basename) fun selected =>
        selected.1.flight.Sound ∧ client.flight.Moves selected.1.flight := by
  unfold importFileSelected
  split
  · exact ⟨h, .refl _⟩
  rename_i hgoes
  obtain ⟨hmatches, hactivity⟩ := not_or.mp hgoes
  have hmatches := activityMatches_iff.mp (Bool.eq_true_of_not_eq_false hmatches)
  have hactivity : client.flight.activity = .importSelect := not_not.mp hactivity
  split
  · exact Contract.Maintains.bind
      (keepsFlight_finishImportNoticed h (.inl hactivity) hmatches.id _ 1).moves fun _ hs => hs
  · have hheld : client.flight.Held activityId := hmatches.id ▸ h.held (by rw [hactivity]; rfl)
      fun kind hkind => by cases kind <;> simp [hactivity, ConfirmationKind.activity] at hkind
    refine Contract.Maintains.mono (maintains_transitionActivity _ (fun _ => h) fun _ _ =>
      h.enter hmatches hheld ?_) fun _ hs => ⟨hs.1, hs.2.1⟩
    rw [hactivity]
    simp [AwgActivity.past]

theorem movesFlight_startImportLoad (h : client.flight.Sound) :
    MovesFlight nested client (client.startImportLoad activityId) := by
  unfold startImportLoad
  split
  · exact (keepsFlight_pure h).moves
  · refine maintains_clientCall fun made => ?_
    split
    · exact movesFlight_importFailed h _
    · unfold importLoaderStart
      split
      · exact ⟨h, .refl _⟩
      · refine maintains_clientCall fun found => ?_
        split
        · have hstarted : ((client.withLoader activityId).mapLoader client.loaders.length
            .start).flight.Sound := h
          exact MovesFlight.same (movesFlight_completeLoad hstarted _ _ _) rfl
        · exact ⟨h, .refl _⟩

theorem movesFlight_fileChooserResponseCb (h : client.flight.Sound)
    (file : Option (Option Bytes)) :
    MovesFlight nested client (client.fileChooserResponseCb activityId file) := by
  unfold fileChooserResponseCb
  have hdestroyed : client.destroyChooser.flight.Sound := h
  refine KeepsFlight.bindMoves (keepsFlight_setExternalInteraction hdestroyed false)
    fun ended hs _ => ?_
  split
  · exact (keepsFlight_pure hs).moves
  split
  · unfold importSelectionCancelled
    split
    · rename_i hselects
      exact (keepsFlight_finishImport hs (.inl hselects.2)
        (activityMatches_iff.mp hselects.1).id 1).moves
    · exact (keepsFlight_pure hs).moves
  · refine Contract.Maintains.bind (maintains_importFileSelected hs _) fun selected hselected => ?_
    split
    · exact (movesFlight_startImportLoad hselected.1).after hselected.2
    · exact hselected

theorem movesFlight_loadTimeoutCb (h : client.flight.Sound) (index : ℕ) :
    MovesFlight nested client (client.loadTimeoutCb index) := by
  unfold loadTimeoutCb
  dsimp only
  split
  · exact ⟨h, .refl _⟩
  · have hcancelled : ((client.mapLoader index .fire).mapLoader index .cancel).flight.Sound := h
    exact MovesFlight.same (movesFlight_completeLoad hcancelled _ _ _) rfl

theorem movesFlight_importReadCb (h : client.flight.Sound) (index : ℕ)
    (result : ImportLoadResult × Option Bytes) (late : Bool) :
    MovesFlight nested client (client.importReadCb index result late) := by
  unfold importReadCb
  dsimp only
  have hreturned : (client.mapLoader index .returned).flight.Sound := h
  split
  · exact ⟨h, .refl _⟩
  split
  · exact ⟨h, .refl _⟩
  · exact MovesFlight.same (movesFlight_completeLoad hreturned _ _ _) rfl

/-! ## What the backend and the others tell -/

theorem keepsFlight_authorizationSettled (h : client.flight.Sound) (changed authorized : Bool) :
    KeepsFlight nested client (client.authorizationSettled changed authorized) := by
  unfold authorizationSettled
  split
  · exact keepsFlight_pure h
  · refine (keepsFlight_emitChanged h 1).bind fun _ hs _ => ?_
    split
    · exact keepsFlight_pure hs
    · exact (keepsFlight_callout hs _).bind fun _ hs _ => keepsFlight_requestInventory hs true

/-- An activity that waits for the user ends with the authorization. -/
theorem serves_cancelInteraction (h : client.flight.Sound) :
    client.cancelInteraction.flight.Sound ∧
      client.flight.Serves client.cancelInteraction.flight := by
  unfold cancelInteraction
  split
  · rename_i hinteraction
    have hcommand : client.flight.activity.isCommand = false :=
      AwgActivity.not_isCommand_of_isInteraction hinteraction
    exact ⟨h.interrupt hcommand, Flight.serves_interrupt hcommand⟩
  · exact ⟨h, .refl _⟩

theorem keepsFlight_withdrawAuthorization (h : client.flight.Sound) :
    KeepsFlight nested client client.withdrawAuthorization := by
  unfold withdrawAuthorization
  have hdenied : (client.withAuthorized false).flight.Sound := h
  obtain ⟨hcancelled, hserves⟩ := serves_cancelInteraction hdenied
  refine KeepsFlight.after (KeepsFlight.bind (keepsFlight_callout hcancelled _)
    fun told hs _ => KeepsFlight.bind ?_ fun _ hs _ =>
      (keepsFlight_callout hs _).bind fun _ hs _ => maintains_tell (keepsFlight_pure hs)) hserves
  unfold finishVerified
  split
  · rename_i hverified
    exact keepsFlight_finishVerified hs hverified 1
  · exact keepsFlight_pure hs

theorem keepsFlight_setAuthorized (h : client.flight.Sound) (authorized : Bool) :
    KeepsFlight nested client (client.setAuthorized authorized) := by
  unfold setAuthorized
  dsimp only
  split
  · have hgranted : (client.withAuthorized true).flight.Sound := h
    exact KeepsFlight.bind (keepsFlight_callout hgranted _) fun _ hs _ =>
      keepsFlight_authorizationSettled hs _ _
  · refine KeepsFlight.bind (keepsFlight_withdrawAuthorization h) fun withdrawn hs _ => ?_
    refine KeepsFlight.bind (p := withdrawn.dismissLost _) ?_ fun dismissed hs _ => ?_
    · unfold dismissLost emitDismissAll
      split
      · split
        · exact keepsFlight_dismissInteractions hs
        · exact keepsFlight_pure hs
      · exact keepsFlight_pure hs
    · have hflight : (dismissed.explainCancelled client.activity).flight = dismissed.flight := by
        unfold explainCancelled
        split
        · exact flight_emitNotice _
        · rfl
      exact KeepsFlight.same (keepsFlight_authorizationSettled (hflight ▸ hs) _ _) hflight

theorem keepsFlight_runtimeSourceChanged (h : client.flight.Sound) :
    KeepsFlight nested client client.runtimeSourceChanged := by
  unfold runtimeSourceChanged
  refine maintains_clientCall fun checking => ?_
  split
  · rename_i hverified
    exact keepsFlight_finishVerified h hverified.2.1 1
  split
  · exact keepsFlight_emitChanged h 1
  · exact keepsFlight_pure h

theorem keepsFlight_inventoryChanged (h : client.flight.Sound) (change : InventoryChange)
    (purpose : RefreshPurpose) :
    KeepsFlight nested client (client.inventoryChanged change purpose) := by
  unfold inventoryChanged
  split
  · exact keepsFlight_pure h
  · refine KeepsFlight.bind (p := client.tellRuntime change purpose) ?_ fun _ hs _ =>
      keepsFlight_emitChanged hs 1
    unfold tellRuntime
    split
    · exact keepsFlight_callout h _
    · exact keepsFlight_callout h _
    · exact keepsFlight_pure h

/-! ## What the user asks for -/

theorem keepsFlight_presenterCancelImport (h : client.flight.Sound) :
    KeepsFlight nested client client.presenterCancelImport := by
  unfold presenterCancelImport
  split
  · exact keepsFlight_pure h
  · exact (keepsFlight_cancelImportInteraction h).bind fun _ hs _ =>
      keepsFlight_controllerCancelImport hs

/-- What is made of a new activity serves the calls before it. -/
theorem maintains_ofBegun {begun : AwgClient} {activity : AwgActivity}
    {base : AwgClient} (hbegun : Begun client begun activity)
    (hbase : base.flight.Serves client.flight) (hserves : client.flight.Serves begun.flight)
    (hp : MovesFlight nested begun p) : KeepsFlight nested base p := by
  refine Contract.Maintains.mono hp fun client' hs => ⟨hs.1, ?_⟩
  have hlater : client.flight.activityId < begun.flight.activityId :=
    lt_of_lt_of_eq (Nat.lt_succ_self _) hbegun.id.symm
  exact (hbase.trans hserves).of_later (hbase.later.trans_lt hlater) hs.2

theorem keepsFlight_controllerSetActive (h : client.flight.Sound) (name : Name) (active : Bool) :
    KeepsFlight nested client (client.controllerSetActive name active) := by
  unfold controllerSetActive
  split
  · exact keepsFlight_pure h
  dsimp only
  refine Contract.Maintains.bind (maintains_operationIsAllowed h _ _ _) fun reply hreply => ?_
  obtain ⟨hs, hbase, -⟩ := hreply
  split
  · exact ⟨hs, hbase⟩
  refine Contract.Maintains.bind (maintains_beginActivity hs _ _ _) fun begun hbegun => ?_
  obtain ⟨hs, hserves, hbegun⟩ := hbegun
  split
  · exact ⟨hs, hbase.trans hserves⟩
  · rename_i hyes
    have hbegun := hbegun (Bool.eq_true_of_not_eq_false hyes)
    refine maintains_ofBegun hbegun hbase hserves ?_
    have howns (action : ServiceAction) (hid : action.activityId = begun.1.activityId)
        (hcommand : action.operation.command = some (if active then .up else .down)) :
        MovesFlight nested begun.1
          ((begun.1.emitActionNotice .operationStarted action).dispatchServiceAction action) := by
      have hid : action.activityId = reply.client.activityId + 1 := hid.trans hbegun.id
      refine MovesFlight.same (movesFlight_dispatch ?_ ?_ ?_)
        (begun.1.flight_emitActionNotice _ action)
      · rwa [flight_emitActionNotice]
      · rw [flight_emitActionNotice]
        refine ⟨hid ▸ hbegun.held, fun _ => hcommand.trans ?_⟩
        exact congrArg some hbegun.activity.symm
      · rw [show (begun.1.emitActionNotice .operationStarted action).dispatched =
          begun.1.dispatched from congrArg Flight.dispatched (flight_emitActionNotice _ _)]
        intro hmem
        have hle := hbegun.fresh _ hmem
        rw [hid] at hle
        exact absurd hle (Nat.not_succ_le_self _)
    exact howns _ rfl (by cases active <;> rfl)

theorem keepsFlight_controllerConfirmDelete (h : client.flight.Sound) (name : Name) :
    KeepsFlight nested client (client.controllerConfirmDelete name) := by
  unfold controllerConfirmDelete
  split
  · exact keepsFlight_pure h
  refine Contract.Maintains.bind (maintains_operationIsAllowed h _ _ _) fun reply hreply => ?_
  obtain ⟨hs, hbase, -⟩ := hreply
  split
  · exact ⟨hs, hbase⟩
  split
  · refine ⟨?_, ?_⟩ <;> rw [flight_emitNotice]
    · exact hs
    · exact hbase
  refine Contract.Maintains.bind (maintains_beginActivity hs _ _ _) fun begun hbegun => ?_
  obtain ⟨hs, hserves, hbegun⟩ := hbegun
  split
  · exact ⟨hs, hbase.trans hserves⟩
  · rename_i hyes
    have hbegun := hbegun (Bool.eq_true_of_not_eq_false hyes)
    refine maintains_ofBegun hbegun hbase hserves ?_
    refine movesFlight_requestConfirmation hs ?_ rfl fun _ operation hpast => ?_
    · exact (show begun.1.activityId = _ from hbegun.id) ▸ hbegun.held
    · rw [show begun.1.activity = .deleteConfirm from hbegun.activity] at hpast
      exact hpast

/-- A confirmed replacement or removal. -/
theorem movesFlight_confirmed {action : ServiceAction} {kind : ConfirmationKind}
    (h : client.flight.Sound) (hheld : client.flight.Held action.activityId)
    (hmatches : client.flight.Matches action.activityId) (hactivity : client.activity = kind.activity)
    (hasks : action.operation = kind.asks) (hid : action.activityId = activityId) :
    MovesFlight nested client
      (match kind with
      | .replace => client.confirmReplace activityId action
      | .delete => client.confirmRemoval activityId action) := by
  subst hid
  have hpast {operation : BackendOperation} (hnew : operation ∉ kind.activity.past) :
      operation ∉ client.activity.past := by rwa [hactivity]
  cases kind with
  | replace =>
    dsimp only
    unfold confirmReplace
    refine Contract.Maintains.bind (maintains_operationIsAllowed h _ _ _) fun reply hreply => ?_
    obtain ⟨hs, hserves, hallowed⟩ := hreply
    split
    · exact (movesFlight_complete hs (hheld.toSpare.serves hserves) 400).after hserves.toMoves
    · rename_i hyes
      obtain rfl := hallowed (Bool.eq_true_of_not_eq_false hyes)
      refine Contract.Maintains.bind (maintains_transitionActivity _ (fun _ => hs) fun _ _ =>
        hs.enter hmatches hheld ?_) fun entered hentered => ?_
      · rw [show reply.client.flight.activity = .replaceConfirm from hactivity]
        simp [AwgActivity.past]
      obtain ⟨hs', hmoves, hentered⟩ := hentered
      split
      · rename_i hok
        obtain ⟨-, -, -, hserves⟩ := hentered hok
        exact (@movesFlight_dispatchEntered nested reply.client entered.1 .replace
          { action with operation := .replace } hs hheld hmatches rfl
          (hpast (by simp [ConfirmationKind.activity, AwgActivity.past])) hs' hserves).after hmoves
      · exact ⟨hs', hmoves⟩
  | delete =>
    dsimp only
    unfold confirmRemoval
    refine Contract.Maintains.bind (maintains_operationIsAllowed h _ _ _) fun reply hreply => ?_
    obtain ⟨hs, hserves, hallowed⟩ := hreply
    split
    · exact (movesFlight_completeWithoutInventory hs (hheld.toSpare.serves hserves)).after
        hserves.toMoves
    · rename_i hyes
      obtain rfl := hallowed (Bool.eq_true_of_not_eq_false hyes)
      refine Contract.Maintains.bind (maintains_transitionActivity _ (fun _ => hs) fun _ _ =>
        hs.enter hmatches hheld ?_) fun entered hentered => ?_
      · rw [show reply.client.flight.activity = .deleteConfirm from hactivity]
        simp [AwgActivity.past]
      obtain ⟨hs', hmoves, hentered⟩ := hentered
      split
      · rename_i hok
        obtain ⟨-, -, -, hserves⟩ := hentered hok
        have hflight := entered.1.flight_emitNotice
          ⟨.operationStarted, .delete, 0, .none, action.name⟩
        refine MovesFlight.after (MovesFlight.same (@movesFlight_dispatchEntered nested reply.client
          _ .delete action hs hheld hmatches ?_ (hpast ?_) ?_ ?_) hflight) hmoves
        · rw [hasks]
          rfl
        · rw [hasks]
          simp [ConfirmationKind.asks, ConfirmationKind.activity, AwgActivity.past]
        · rwa [hflight]
        · rwa [hflight]
      · exact ⟨hs', hmoves⟩

theorem movesFlight_confirmationChosenCb (h : client.flight.Sound) (kind : ConfirmationKind)
    (confirmed : Bool) :
    MovesFlight nested client (client.confirmationChosenCb kind activityId confirmed) := by
  unfold confirmationChosenCb
  have hcleared : client.clearConfirmation.flight.Sound := h
  split
  · split
    · unfold confirmationResponse
      refine @MovesFlight.same nested client client.clearConfirmation _ ?_ rfl
      split
      · exact (keepsFlight_pure hcleared).moves
      · rename_i action hpending
        split
        · exact (keepsFlight_pure hcleared).moves
        rename_i hmatches
        obtain ⟨hmatches, hactivity, asked, hasked, hid, hasks⟩ := confirmationMatches_iff.mp
          (Bool.eq_true_of_not_eq_false hmatches)
        obtain rfl : action = asked := Option.some.inj (hpending.symm.trans hasked)
        have hheld := held_unwaiting hcleared hmatches hactivity
        have htaken : client.clearConfirmation.unwaiting.flight.Sound := hcleared.respond
        have hmatches' : client.clearConfirmation.unwaiting.flight.Matches action.activityId :=
          ⟨hmatches.started, hmatches.stopping, hmatches.busy, hmatches.id.trans hid.symm⟩
        refine @MovesFlight.after nested client.clearConfirmation
          client.clearConfirmation.unwaiting _ ?_ (Flight.moves_respond _)
        have hconfirmed := @movesFlight_confirmed nested client.clearConfirmation.unwaiting activityId
          action kind htaken (hid ▸ hheld) hmatches' hactivity hasks hid
        split
        · exact movesFlight_complete htaken (hid ▸ hheld.toSpare) 400
        · exact hconfirmed
        · exact movesFlight_finishActivity htaken hheld.toSpare 1
        · exact hconfirmed
    · exact (keepsFlight_pure hcleared).moves
  · exact (keepsFlight_pure h).moves

/-! ## Start and stop -/

theorem keepsFlight_presenterStop (h : client.flight.Sound) :
    KeepsFlight nested client client.presenterStop := by
  unfold presenterStop
  split
  · exact keepsFlight_pure h
  have hclosing : client.closing.flight.Sound := h
  refine KeepsFlight.bind (@KeepsFlight.same nested client client.closing _ ?_ rfl) fun stopped hs _ =>
    (keepsFlight_dismissInteractions hs).bind fun dismissed hs _ =>
      (keepsFlight_setExternalInteraction hs false).bind fun ended hs _ =>
        ⟨hs, .refl ended.flight⟩
  unfold controllerStop
  split
  · exact keepsFlight_pure hclosing
  rename_i hrunning
  have hrunning : client.closing.flight.stopping = false := Bool.eq_false_iff.mpr hrunning
  have hdetached : client.closing.detach.flight.Sound := hclosing.stop
  -- the backend stops only after the inventory was told, and what is told first may call back
  refine Contract.Maintains.bind (keepsFlight_callout hdetached _) fun told hs => ?_
  obtain ⟨hs, hserves⟩ := hs
  have hstopping : told.flight.stopping = true := hserves.stops rfl
  have hhalted : told.backendStop.flight.Sound := hs.halt hstopping
  refine Contract.Maintains.bind (keepsFlight_callout hhalted _) fun told' hs' => ?_
  obtain ⟨hs', hserves'⟩ := hs'
  refine Contract.Maintains.bind (Q := fun dismissed => dismissed.flight.Sound ∧
    told'.flight.Serves dismissed.flight) ?_ fun dismissed hdismissed => ?_
  · unfold dismissPresented
    split
    · exact keepsFlight_dismissInteractions hs'
    · exact keepsFlight_pure hs'
  · obtain ⟨hs'', hserves''⟩ := hdismissed
    refine ⟨hs'', Flight.serves_stop hclosing hrunning ?_ ?_ ?_ hs'' ?_⟩
    · exact hserves.later.trans (hserves'.later.trans hserves''.later)
    · exact hserves''.stops (hserves'.stops hstopping)
    · exact hserves''.halted (hserves'.halted rfl)
    · intro entry hmem
      rcases (hserves'.trans hserves'').newer entry hmem with hold | hlater
      · exact hserves.newer entry hold
      · exact .inr (hserves.later.trans_lt hlater)

theorem maintains_presenterStart (h : client.flight.Sound) :
    flightContract.Maintains (clientComponent nested) client.presenterStart
      fun client' => client'.flight.Sound := by
  unfold presenterStart controllerStart
  split
  · exact h
  split
  · exact h
  · rename_i hfresh
    obtain ⟨hstarted, hstopping⟩ := not_or.mp hfresh
    -- a controller that was not started has no activity yet
    have hidle : client.flight.activity = .idle := by
      by_contra hbusy
      exact hstarted (h.running hbusy).1
    refine maintains_tell ?_
    have hrunning : client.presenterBegun.beginRunning.flight.Sound :=
      { h with running := fun hbusy => absurd hidle hbusy }
    refine Contract.Maintains.bind (keepsFlight_callout hrunning .runtimeStart) fun told hs =>
      maintains_tell ?_
    unfold backendStart
    split
    · exact { hs.1 with }
    · exact hs.1

/-! ## Every run -/

/-- Every entry from within a callout keeps the contract. -/
theorem keepsFlight_run (h : client.flight.Sound) {e : ClientEntry} (he : e.IsCall) :
    KeepsFlight nested client (e.run client) := by
  cases e with
  | stop => exact keepsFlight_presenterStop h
  | «import» =>
    change KeepsFlight nested client client.presenterImport
    unfold presenterImport
    split
    · exact keepsFlight_pure h
    · exact keepsFlight_controllerImport h
  | cancelImport => exact keepsFlight_presenterCancelImport h
  | setActive name active =>
    change KeepsFlight nested client (client.presenterSetActive name active)
    unfold presenterSetActive
    split
    · exact keepsFlight_pure h
    · exact keepsFlight_controllerSetActive h name active
  | requestDelete name =>
    change KeepsFlight nested client (client.presenterRequestDelete name)
    unfold presenterRequestDelete
    split
    · exact keepsFlight_pure h
    · exact keepsFlight_controllerConfirmDelete h name
  | setParent parent toastOverlay =>
    change KeepsFlight nested client (return client.presenterSetParent parent toastOverlay)
    unfold presenterSetParent
    split
    · exact keepsFlight_pure h
    · exact ⟨h, .refl _⟩
  | parentDestroyed => exact ⟨h, .refl _⟩
  | requestInventory force => exact keepsFlight_requestInventory h force
  | setInventoryEnabled enabled =>
    change KeepsFlight nested client (client.setInventoryEnabled enabled)
    unfold setInventoryEnabled
    split
    · exact keepsFlight_pure h
    · exact maintains_tell (keepsFlight_pure h)
  | authorizationChanged authorized =>
    change KeepsFlight nested client (client.backendAuthorizationChanged authorized)
    unfold backendAuthorizationChanged
    split
    · exact keepsFlight_setAuthorized h authorized
    · exact keepsFlight_pure h
  | runtimeSourceChanged => exact keepsFlight_runtimeSourceChanged h
  | inventoryChanged change purpose => exact keepsFlight_inventoryChanged h change purpose
  | start => exact he.elim
  | chooserResponse file => exact he.elim
  | loadTimeout index => exact he.elim
  | readFinished index run late => exact he.elim
  | confirmationChosen confirmed => exact he.elim
  | flushDeferred => exact he.elim
  | backendResult index result => exact he.elim

/-- Every entry leaves a sound flight. -/
theorem maintains_run (h : client.flight.Sound) (e : ClientEntry) :
    flightContract.Maintains (clientComponent nested) (e.run client)
      fun client' => client'.flight.Sound := by
  have hmoves {p : ClientM AwgClient} (hp : MovesFlight nested client p) :
      flightContract.Maintains (clientComponent nested) p fun client' => client'.flight.Sound :=
    Contract.Maintains.mono hp fun _ hs => hs.1
  by_cases hcall : e.IsCall
  · exact hmoves (keepsFlight_run h hcall).moves
  cases e with
  | start => exact maintains_presenterStart h
  | chooserResponse file =>
    dsimp only [ClientEntry.run]
    split
    · exact h
    · exact hmoves (movesFlight_fileChooserResponseCb h file)
  | loadTimeout index => exact hmoves (movesFlight_loadTimeoutCb h index)
  | readFinished index run late =>
    dsimp only [ClientEntry.run]
    split
    · exact h
    · exact hmoves (movesFlight_importReadCb h index _ late)
  | confirmationChosen confirmed =>
    dsimp only [ClientEntry.run]
    split
    · exact h
    · exact hmoves (movesFlight_confirmationChosenCb h _ confirmed)
  | flushDeferred =>
    change flightContract.Maintains _ client.flushDeferredCb _
    unfold flushDeferredCb
    split
    · exact h
    · refine maintains_clientCall fun mapped => ?_
      split
      · split <;> exact h
      · split <;> exact h
  | backendResult index result =>
    dsimp only [ClientEntry.run]
    split
    · exact h
    · rename_i call hfound
      obtain ⟨hlanded, howns⟩ := h.land hfound
      exact Contract.Maintains.mono
        (@movesFlight_serviceResult nested (client.answered index) _ hlanded howns result)
        fun _ hs => hs.1
  | stop => exact absurd trivial hcall
  | «import» => exact absurd trivial hcall
  | cancelImport => exact absurd trivial hcall
  | setActive name active => exact absurd trivial hcall
  | requestDelete name => exact absurd trivial hcall
  | setParent parent toastOverlay => exact absurd trivial hcall
  | parentDestroyed => exact absurd trivial hcall
  | requestInventory force => exact absurd trivial hcall
  | setInventoryEnabled enabled => exact absurd trivial hcall
  | authorizationChanged authorized => exact absurd trivial hcall
  | runtimeSourceChanged => exact absurd trivial hcall
  | inventoryChanged change purpose => exact absurd trivial hcall

/-- The client keeps the contract, whichever of the calls from outside may come from within a
callout. -/
theorem flight_keptBy (hnested : ∀ e, nested e → e.IsCall) :
    flightContract.KeptBy (clientComponent nested) where
  refl client := .refl client.flight
  trans _ _ _ h h' := h.trans h'
  init := by
    rintro _ ⟨externalInteraction, rfl⟩
    refine ⟨?_, trivial⟩
    constructor <;> simp [flight, AwgClient.new]
  nested e _ he _ h := keepsFlight_run h (hnested e he)
  settled e _ _ h _ := Contract.Maintains.mono (maintains_run h e) fun _ hs => ⟨hs, trivial⟩

/-! ## Answers to other activities -/

/-- Nothing that is answered for the activity with the id changes the client. -/
structure Ignores (client : AwgClient) (activityId : ℕ) : Prop where
  selected : ∀ basename, client.importFileSelected activityId basename = (return (client, false))
  selectionCancelled : client.importSelectionCancelled activityId = (return client)
  loaded : ∀ config, client.importLoaded activityId config = (return client)
  failed : ∀ error, client.importFailed activityId error = (return client)
  confirmed : ∀ kind confirmed,
    client.confirmationResponse kind activityId confirmed = (return client)
  result : ∀ result action, action.activityId = activityId →
    client.backendServiceResult result action = (return client)

/-- An answer that another activity was asked for changes nothing. -/
theorem ignores_of_ne (hother : activityId ≠ client.activityId) : client.Ignores activityId := by
  have hfails : client.activityMatches activityId = false := by
    apply Bool.eq_false_iff.mpr
    intro hmatches
    exact hother (activityMatches_iff.mp hmatches).id.symm
  constructor
  · exact fun basename => if_pos (.inl hfails)
  · exact if_neg fun h => Bool.false_ne_true (hfails.symm.trans h.1)
  · exact fun config => if_pos (.inl hfails)
  · exact fun error => if_pos (.inl hfails)
  · intro kind confirmed
    unfold confirmationResponse
    split
    · rfl
    · refine if_pos ?_
      unfold confirmationMatches
      rw [hfails]
      rfl
  · exact fun result action haction => if_pos (haction ▸ hfails)

end AwgClient

/-! ## A run -/

/-- The facts about a profile that is saved and not active. -/
def calmFacts : AdmissionFacts :=
  ⟨true, .none, ⟨true, .available, .inactive, false⟩⟩

/-- A system that makes every chooser and loader, and where nothing is late. -/
def calmClient : (o : ClientCall) → o.Reply
  | .facts _ => calmFacts
  | .isChecking => false
  | .deadlinePassed => false
  | .newChooser | .newLoader | .localPath | .mapped => true
  | .tell _ => ()

/-- An entry whose callouts return at once. -/
def calmClientEntry (client : AwgClient) (e : ClientEntry) : AwgClient :=
  Component.quietly calmClient (e.run client)

theorem reachable_calmClientEntry {nested : ClientEntry → Prop} {client : AwgClient}
    (hs : (clientComponent nested).Reachable (.idle client)) (e : ClientEntry)
    (henabled : e.Enabled client) :
    (clientComponent nested).Reachable (.idle (calmClientEntry client e)) :=
  hs.quietly (fun _ => trivial) henabled

/-- A client that is authorized and has a parent. -/
def sampleClient : AwgClient :=
  calmClientEntry (calmClientEntry (calmClientEntry (.new true) .start) (.authorizationChanged true))
    (.setParent (some 0) (some 0))

theorem sampleClient_reachable {nested : ClientEntry → Prop} :
    (clientComponent nested).Reachable (.idle sampleClient) := by
  have hnew : (clientComponent nested).Reachable (.idle (.new true)) := .start ⟨true, rfl⟩
  have hstarted := reachable_calmClientEntry hnew .start trivial
  have hauthorized := reachable_calmClientEntry hstarted (.authorizationChanged true) rfl
  exact reachable_calmClientEntry hauthorized (.setParent (some 0) (some 0)) trivial

/-! ## The main result -/

/-- Wherever the controller is called from within its callouts, at most one operation is under way at
the backend. While the controller runs it is the one of the activity and carries its id, and a
confirmation is awaited only by an activity that asks for it. No operation is dispatched twice for
one activity, and what is answered for another activity changes nothing. -/
theorem controller_singleFlight {client : AwgClient} {stack : List (AwgClient → ClientM AwgClient)}
    (h : (clientComponent ClientEntry.IsCall).Reachable ⟨.waiting client, stack⟩) :
    client.inFlight.length ≤ 1 ∧
    (client.stopping = false → ∀ call ∈ client.inFlight,
      call.action.activityId = client.activityId ∧
        call.action.operation.command = some client.activity) ∧
    (∀ action ∈ client.pendingConfirmation, action.activityId = client.activityId ∧
      ∃ kind : ConfirmationKind, client.activity = kind.activity ∧ action.operation = kind.asks) ∧
    client.dispatched.Nodup ∧
    ∀ activityId ≠ client.activityId, client.Ignores activityId := by
  have hsound : client.flight.Sound := (AwgClient.flight_keptBy fun _ he => he).waiting h
  exact ⟨hsound.few, hsound.owned, hsound.asked, hsound.once,
    fun _ hother => AwgClient.ignores_of_ne hother⟩

/-- A profile is being connected: its call is under way, and it is the one that was dispatched. -/
theorem controller_singleFlight_up :
    (calmClientEntry sampleClient (.setActive (ascii "awg0") true)).inFlight.length = 1 ∧
    (calmClientEntry sampleClient (.setActive (ascii "awg0") true)).dispatched.Nodup := by
  have hreachable := @reachable_calmClientEntry ClientEntry.IsCall _ sampleClient_reachable
    (.setActive (ascii "awg0") true) trivial
  obtain ⟨-, -, -, honce, -⟩ := controller_singleFlight hreachable
  exact ⟨by decide +kernel, honce⟩

end NmSidebar
