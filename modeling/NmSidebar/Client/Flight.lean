import NmSidebar.Client.AwgClient

/-!
# The activity of the client and its operation

What the activity, the operation under way at the backend and the confirmation have to do with one
another, and what those who call the controller back may do to them.
-/

namespace NmSidebar

open Effects

/-! ## The flight -/

/-- The part of the client that its activity is about. -/
structure Flight where
  activity : AwgActivity
  activityId : ℕ
  pendingConfirmation : Option ServiceAction
  runtimeVerificationPending : Bool
  started : Bool
  stopping : Bool
  backend : BackendPhase
  inFlight : List BackendCall
  dispatched : List (ℕ × BackendOperation)

/-- The flight of a client. -/
def AwgClient.flight (client : AwgClient) : Flight where
  activity := client.activity
  activityId := client.activityId
  pendingConfirmation := client.pendingConfirmation
  runtimeVerificationPending := client.runtimeVerificationPending
  started := client.started
  stopping := client.stopping
  backend := client.backend
  inFlight := client.inFlight
  dispatched := client.dispatched

/-- The activity that an operation is under way in. -/
def BackendOperation.command : BackendOperation → Option AwgActivity
  | .import => some .import
  | .replace => some .replace
  | .up => some .up
  | .down => some .down
  | .delete => some .delete
  | .listProfiles => none

/-- The operations that may have been dispatched for an activity. -/
def AwgActivity.past : AwgActivity → List BackendOperation
  | .import | .replaceConfirm => [.import]
  | .replace => [.import, .replace]
  | .up => [.up]
  | .down => [.down]
  | .delete => [.delete]
  | .idle | .importSelect | .importLoad | .deleteConfirm => []

theorem isCommand_of_command {operation : BackendOperation} {activity : AwgActivity}
    (h : operation.command = some activity) : activity.isCommand = true := by
  cases operation <;> simp only [BackendOperation.command, Option.some.injEq, reduceCtorEq] at h <;>
    subst h <;> rfl

theorem mem_past_of_command {operation : BackendOperation} {activity : AwgActivity}
    (h : operation.command = some activity) : operation ∈ activity.past := by
  cases operation <;> simp only [BackendOperation.command, Option.some.injEq, reduceCtorEq] at h <;>
    subst h <;> simp [AwgActivity.past]

@[simp] theorem isCommand_confirmation (kind : ConfirmationKind) :
    kind.activity.isCommand = false := by
  cases kind <;> rfl

theorem confirmation_ne_idle (kind : ConfirmationKind) : kind.activity ≠ .idle := by
  cases kind <;> simp [ConfirmationKind.activity]

theorem AwgActivity.ne_idle_of_isCommand {activity : AwgActivity} (h : activity.isCommand = true) :
    activity ≠ .idle := by
  rintro rfl
  simp [AwgActivity.isCommand] at h

theorem AwgActivity.not_isCommand_of_isInteraction {activity : AwgActivity}
    (h : activity.isInteraction = true) : activity.isCommand = false := by
  cases activity <;> simp [AwgActivity.isInteraction, AwgActivity.isCommand] at h ⊢

namespace Flight

/-- The controller is running and its activity has the id. -/
structure Matches (flight : Flight) (activityId : ℕ) : Prop where
  started : flight.started = true
  stopping : flight.stopping = false
  busy : flight.activity ≠ .idle
  id : flight.activityId = activityId

/-- The activity, the operation under way and the confirmation fit one another. -/
structure Sound (flight : Flight) : Prop where
  few : flight.inFlight.length ≤ 1
  owned : flight.stopping = false → ∀ call ∈ flight.inFlight,
    call.action.activityId = flight.activityId ∧
      call.action.operation.command = some flight.activity
  verified : flight.runtimeVerificationPending = true →
    flight.activity.isCommand = true ∧ flight.inFlight = []
  asked : ∀ action ∈ flight.pendingConfirmation, action.activityId = flight.activityId ∧
    ∃ kind : ConfirmationKind, flight.activity = kind.activity ∧ action.operation = kind.asks
  running : flight.activity ≠ .idle → flight.started = true ∧ flight.stopping = false
  bounded : flight.activityId ≤ 2 ^ 64 - 1
  logged : ∀ entry ∈ flight.dispatched, entry.1 ≤ flight.activityId
  once : flight.dispatched.Nodup
  known : ∀ call ∈ flight.inFlight,
    (call.action.activityId, call.action.operation) ∈ flight.dispatched
  past : ∀ entry ∈ flight.dispatched, entry.1 = flight.activityId → flight.activity ≠ .idle →
    entry.2 ∈ flight.activity.past

/-- What any function does to the flight. -/
structure Moves (flight flight' : Flight) : Prop where
  later : flight.activityId ≤ flight'.activityId
  stops : flight.stopping = true → flight'.stopping = true
  started : flight'.stopping = false → flight'.started = flight.started
  halts : flight.stopping = false → flight'.stopping = true → flight'.backend = .stopped
  halted : flight.backend = .stopped → flight'.backend = .stopped
  logged : ∀ entry ∈ flight'.dispatched, entry ∈ flight.dispatched ∨ flight.activityId ≤ entry.1

/-- What the calls from within a callout do to the flight: they leave the activity alone or end it,
and nobody but its owner ends an activity whose operation is not under way. -/
structure Serves (flight flight' : Flight) : Prop extends Moves flight flight' where
  same : flight'.Matches flight.activityId → flight'.activity = flight.activity ∧
    flight'.pendingConfirmation = flight.pendingConfirmation ∧
    flight'.runtimeVerificationPending = flight.runtimeVerificationPending ∧
    flight'.inFlight = flight.inFlight
  held : flight.started = true → flight.activity.isCommand = true → flight.inFlight = [] →
    flight.runtimeVerificationPending = false →
    flight'.stopping = true ∨
      flight'.activity = flight.activity ∧ flight'.activityId = flight.activityId
  newer : ∀ entry ∈ flight'.dispatched, entry ∈ flight.dispatched ∨ flight.activityId < entry.1

/-- The action of the activity with the id is neither under way nor waiting for an answer. -/
structure Spare (flight : Flight) (activityId : ℕ) : Prop where
  le : activityId ≤ flight.activityId
  landed : flight.Matches activityId → flight.inFlight = []
  answered : flight.Matches activityId → flight.pendingConfirmation = none

/-- Nor does the activity wait for its verification. -/
structure Held (flight : Flight) (activityId : ℕ) : Prop extends Spare flight activityId where
  unverified : flight.Matches activityId → flight.runtimeVerificationPending = false

variable {flight flight' flight'' : Flight} {activityId : ℕ}

theorem Moves.refl (flight : Flight) : flight.Moves flight :=
  ⟨le_rfl, id, fun _ => rfl, fun h h' => absurd (h.symm.trans h') Bool.false_ne_true, id,
    fun _ h => .inl h⟩

theorem Moves.trans (h : flight.Moves flight') (h' : flight'.Moves flight'') :
    flight.Moves flight'' where
  later := h.later.trans h'.later
  stops hstops := h'.stops (h.stops hstops)
  started hrunning := by
    have hrunning' : flight'.stopping = false := by
      by_contra hstops
      exact Bool.false_ne_true
        (hrunning.symm.trans (h'.stops (Bool.eq_true_of_not_eq_false hstops)))
    exact (h'.started hrunning).trans (h.started hrunning')
  halts hrunning hstops := by
    cases hstops' : flight'.stopping with
    | false => exact h'.halts hstops' hstops
    | true => exact h'.halted (h.halts hrunning hstops')
  halted hhalted := h'.halted (h.halted hhalted)
  logged entry hmem := by
    rcases h'.logged entry hmem with hmem | hlater
    · exact h.logged entry hmem
    · exact .inr (h.later.trans hlater)

theorem Serves.refl (flight : Flight) : flight.Serves flight :=
  { Moves.refl flight with
    same := fun _ => ⟨rfl, rfl, rfl, rfl⟩
    held := fun _ _ _ _ => .inr ⟨rfl, rfl⟩
    newer := fun _ h => .inl h }

/-- Where an activity is still there after the calls of others, it was there before and nothing of
it has changed. -/
theorem Serves.matches_back (h : flight.Serves flight') (hmatches : flight'.Matches activityId)
    (hle : activityId ≤ flight.activityId) :
    flight.Matches activityId ∧ flight'.activity = flight.activity ∧
      flight'.pendingConfirmation = flight.pendingConfirmation ∧
      flight'.runtimeVerificationPending = flight.runtimeVerificationPending ∧
      flight'.inFlight = flight.inFlight := by
  have hid : flight.activityId = activityId :=
    le_antisymm (h.later.trans hmatches.id.le) hle
  have hsame := h.same (hid ▸ hmatches)
  have hrunning : flight.stopping = false := by
    by_contra hstops
    exact Bool.false_ne_true
      (hmatches.stopping.symm.trans (h.stops (Bool.eq_true_of_not_eq_false hstops)))
  refine ⟨⟨?_, hrunning, hsame.1 ▸ hmatches.busy, hid⟩, hsame⟩
  exact (h.started hmatches.stopping).symm.trans hmatches.started

theorem Serves.trans (h : flight.Serves flight') (h' : flight'.Serves flight'') :
    flight.Serves flight'' where
  toMoves := h.toMoves.trans h'.toMoves
  same hmatches := by
    obtain ⟨hmatches', hactivity', hpending', hverified', hinFlight'⟩ :=
      h'.matches_back hmatches h.later
    obtain ⟨hactivity, hpending, hverified, hinFlight⟩ := h.same hmatches'
    exact ⟨hactivity'.trans hactivity, hpending'.trans hpending, hverified'.trans hverified,
      hinFlight'.trans hinFlight⟩
  held hstarted hcommand hlanded hunverified := by
    rcases h.held hstarted hcommand hlanded hunverified with hstops | ⟨hactivity, hid⟩
    · exact .inl (h'.stops hstops)
    cases hstops : flight'.stopping with
    | true => exact .inl (h'.stops hstops)
    | false =>
      have hstarted' := (h.started hstops).trans hstarted
      have hbusy : flight'.activity ≠ .idle := hactivity ▸ AwgActivity.ne_idle_of_isCommand hcommand
      obtain ⟨-, -, hverified, hinFlight⟩ := h.same ⟨hstarted', hstops, hbusy, hid⟩
      refine (h'.held hstarted' (hactivity ▸ hcommand) (hinFlight.trans hlanded)
        (hverified.trans hunverified)).imp id fun hkept => ?_
      exact ⟨hkept.1.trans hactivity, hkept.2.trans hid⟩
  newer entry hmem := by
    rcases h'.newer entry hmem with hmem | hlater
    · exact h.newer entry hmem
    · exact .inr (h.later.trans_lt hlater)

/-- An action that is spare stays so, whatever others call. -/
theorem Spare.serves (h : flight.Spare activityId) (hserves : flight.Serves flight') :
    flight'.Spare activityId where
  le := h.le.trans hserves.later
  landed hmatches := by
    obtain ⟨hmatches', -, -, -, hinFlight⟩ := hserves.matches_back hmatches h.le
    exact hinFlight.trans (h.landed hmatches')
  answered hmatches := by
    obtain ⟨hmatches', -, hpending, -⟩ := hserves.matches_back hmatches h.le
    exact hpending.trans (h.answered hmatches')

theorem Held.serves (h : flight.Held activityId) (hserves : flight.Serves flight') :
    flight'.Held activityId where
  toSpare := h.toSpare.serves hserves
  unverified hmatches := by
    obtain ⟨hmatches', -, -, hverified, -⟩ := hserves.matches_back hmatches h.le
    exact hverified.trans (h.unverified hmatches')

/-- What follows on a later activity is no concern of the calls before it. -/
theorem Serves.of_later (h : flight.Serves flight')
    (hlater : flight.activityId < flight'.activityId)
    (h' : flight'.Moves flight'') : flight.Serves flight'' where
  toMoves := h.toMoves.trans h'
  same hmatches := absurd hmatches.id (hlater.trans_le h'.later).ne'
  held hstarted hcommand hlanded hunverified := by
    rcases h.held hstarted hcommand hlanded hunverified with hstops | ⟨-, hid⟩
    · exact .inl (h'.stops hstops)
    · exact absurd hid hlater.ne'
  newer entry hmem := by
    rcases h'.logged entry hmem with hmem | hle
    · exact h.newer entry hmem
    · exact .inr (hlater.trans_le hle)

/-- A stop that is made serves. -/
theorem Serves.of_stopped (h : flight.Moves flight') (hstopped : flight'.stopping = true)
    (hidle : flight'.activity = .idle)
    (hnewer : ∀ entry ∈ flight'.dispatched, entry ∈ flight.dispatched ∨
      flight.activityId < entry.1) : flight.Serves flight' where
  toMoves := h
  same hmatches := absurd hidle hmatches.busy
  held _ _ _ _ := .inl hstopped
  newer := hnewer

/-- While the activity is none that an operation is under way in, none is under way. -/
theorem Sound.landed_of_not_command (h : flight.Sound) (hrunning : flight.stopping = false)
    (hcommand : flight.activity.isCommand = false) : flight.inFlight = [] := by
  apply List.eq_nil_iff_forall_not_mem.mpr
  intro call hmem
  have howned := isCommand_of_command (h.owned hrunning call hmem).2
  exact Bool.false_ne_true (hcommand.symm.trans howned)

/-- While the activity awaits no answer, there is no action that does. -/
theorem Sound.answered_of (h : flight.Sound)
    (hactivity : ∀ kind : ConfirmationKind, flight.activity ≠ kind.activity) :
    flight.pendingConfirmation = none := by
  cases hpending : flight.pendingConfirmation with
  | none => rfl
  | some action =>
    obtain ⟨-, kind, hkind, -⟩ := h.asked action hpending
    exact absurd hkind (hactivity kind)

theorem Sound.answered_of_command (h : flight.Sound) (hcommand : flight.activity.isCommand = true) :
    flight.pendingConfirmation = none := by
  apply h.answered_of
  intro kind hkind
  rw [hkind, isCommand_confirmation] at hcommand
  exact Bool.false_ne_true hcommand

theorem Sound.unverified_of_not_command (h : flight.Sound)
    (hcommand : flight.activity.isCommand = false) :
    flight.runtimeVerificationPending = false := by
  by_contra hverified
  have := (h.verified (Bool.eq_true_of_not_eq_false hverified)).1
  exact Bool.false_ne_true (hcommand.symm.trans this)

/-- The activity that is verified is spare. -/
theorem Sound.spare_of_verified (h : flight.Sound)
    (hverified : flight.runtimeVerificationPending = true) :
    flight.Spare flight.activityId where
  le := le_rfl
  landed _ := (h.verified hverified).2
  answered _ := h.answered_of_command (h.verified hverified).1

/-- An activity ends. -/
def finish (flight : Flight) : Flight :=
  { flight with activity := .idle, runtimeVerificationPending := false }

theorem Sound.finish (h : flight.Sound) (hmatches : flight.Matches activityId)
    (hspare : flight.Spare activityId) : flight.finish.Sound where
  few := h.few
  owned _ call hmem := by
    rw [show flight.finish.inFlight = [] from hspare.landed hmatches] at hmem
    exact absurd hmem List.not_mem_nil
  verified := by simp [Flight.finish]
  asked action hmem := by
    rw [show flight.finish.pendingConfirmation = none from hspare.answered hmatches] at hmem
    exact absurd hmem (by simp)
  running hbusy := absurd rfl hbusy
  bounded := h.bounded
  logged := h.logged
  once := h.once
  known call hmem := by
    rw [show flight.finish.inFlight = [] from hspare.landed hmatches] at hmem
    exact absurd hmem List.not_mem_nil
  past _ _ _ hbusy := absurd rfl hbusy

theorem moves_finish (flight : Flight) : flight.Moves flight.finish := { Moves.refl flight with }

/-- Others may end an activity that no operation can come of, or that is verified. -/
theorem serves_finish (hended : flight.activity.isCommand = true →
    flight.runtimeVerificationPending = true) : flight.Serves flight.finish where
  toMoves := moves_finish flight
  same hmatches := absurd rfl hmatches.busy
  held _ hcommand _ hunverified :=
    absurd (hunverified.symm.trans (hended hcommand)) Bool.false_ne_true
  newer _ h := .inl h

/-- The activity goes on as another one. -/
def enter (flight : Flight) (activity : AwgActivity) : Flight := { flight with activity }

theorem moves_enter (flight : Flight) (activity : AwgActivity) :
    flight.Moves (flight.enter activity) :=
  { Moves.refl flight with }

/-- A new activity begins. -/
theorem Sound.begin (h : flight.Sound) (hstarted : flight.started = true)
    (hrunning : flight.stopping = false)
    (hidle : flight.activity = .idle) (hbound : flight.activityId ≠ 2 ^ 64 - 1)
    (activity : AwgActivity) :
    Flight.Sound { flight with activityId := flight.activityId + 1, activity } := by
  have hlanded := h.landed_of_not_command hrunning (by rw [hidle]; rfl)
  have hverified := h.unverified_of_not_command (by rw [hidle]; rfl)
  have hanswered : flight.pendingConfirmation = none :=
    h.answered_of fun kind hkind => confirmation_ne_idle kind (hkind.symm.trans hidle)
  refine ⟨h.few, ?_, ?_, ?_, ?_, ?_, ?_, h.once, h.known, ?_⟩
  · intro _ call hmem
    rw [show _ = [] from hlanded] at hmem
    exact absurd hmem List.not_mem_nil
  · intro hpending
    exact absurd (hverified.symm.trans hpending) Bool.false_ne_true
  · intro action hmem
    rw [show _ = none from hanswered] at hmem
    exact absurd hmem (by simp)
  · exact fun _ => ⟨hstarted, hrunning⟩
  · have := h.bounded
    dsimp only
    omega
  · intro entry hmem
    exact (h.logged entry hmem).trans (Nat.le_succ _)
  · intro entry hmem hid
    have := h.logged entry hmem
    dsimp only at hid
    omega

/-- The activity with an id that is not idle. -/
theorem Sound.matches_of_busy (h : flight.Sound) (hbusy : flight.activity ≠ .idle)
    (hid : flight.activityId = activityId) : flight.Matches activityId :=
  ⟨(h.running hbusy).1, (h.running hbusy).2, hbusy, hid⟩

/-- An activity goes on as another one that more may have been dispatched for. -/
theorem Sound.enter (h : flight.Sound) (hmatches : flight.Matches activityId)
    (hheld : flight.Held activityId) {activity : AwgActivity}
    (hpast : ∀ operation ∈ flight.activity.past, operation ∈ activity.past) :
    (flight.enter activity).Sound where
  few := h.few
  owned _ call hmem := by
    rw [show (flight.enter activity).inFlight = [] from hheld.landed hmatches] at hmem
    exact absurd hmem List.not_mem_nil
  verified hverified := absurd ((hheld.unverified hmatches).symm.trans hverified) Bool.false_ne_true
  asked action hmem := by
    rw [show (flight.enter activity).pendingConfirmation = none from
      hheld.answered hmatches] at hmem
    exact absurd hmem (by simp)
  running _ := ⟨hmatches.started, hmatches.stopping⟩
  bounded := h.bounded
  logged := h.logged
  once := h.once
  known := h.known
  past entry hmem hid _ := hpast _ (h.past entry hmem hid hmatches.busy)

/-- The activity awaits the answer to an action of its own. -/
def await (flight : Flight) (kind : ConfirmationKind) (action : ServiceAction) : Flight :=
  { flight with activity := kind.activity, pendingConfirmation := some action }

theorem Sound.await (h : flight.Sound) {action : ServiceAction}
    (hmatches : flight.Matches action.activityId) (hheld : flight.Held action.activityId)
    {kind : ConfirmationKind} (hasks : action.operation = kind.asks)
    (hpast : ∀ operation ∈ flight.activity.past, operation ∈ kind.activity.past) :
    (flight.await kind action).Sound where
  few := h.few
  owned _ call hmem := by
    rw [show (flight.await kind action).inFlight = [] from hheld.landed hmatches] at hmem
    exact absurd hmem List.not_mem_nil
  verified hverified := absurd ((hheld.unverified hmatches).symm.trans hverified) Bool.false_ne_true
  asked asked hmem := by
    obtain rfl : action = asked := Option.some.inj hmem
    exact ⟨hmatches.id.symm, kind, rfl, hasks⟩
  running _ := ⟨hmatches.started, hmatches.stopping⟩
  bounded := h.bounded
  logged := h.logged
  once := h.once
  known := h.known
  past entry hmem hid _ := hpast _ (h.past entry hmem hid hmatches.busy)

/-- The answer has come. -/
def respond (flight : Flight) : Flight := { flight with pendingConfirmation := none }

theorem Sound.respond (h : flight.Sound) : flight.respond.Sound :=
  { h with asked := fun action hmem => absurd hmem (by simp [Flight.respond]) }

theorem moves_respond (flight : Flight) : flight.Moves flight.respond :=
  { Moves.refl flight with }

/-- What an operation has changed is verified. -/
def verify (flight : Flight) : Flight :=
  { flight with runtimeVerificationPending := flight.activity.isCommand }

theorem Sound.verify (h : flight.Sound) (hlanded : flight.inFlight = []) : flight.verify.Sound :=
  { h with verified := fun hcommand => ⟨hcommand, hlanded⟩ }

theorem moves_verify (flight : Flight) : flight.Moves flight.verify := { Moves.refl flight with }

/-- The activity is that of the action, which is not under way. -/
structure Owns (flight : Flight) (action : ServiceAction) : Prop
    extends Held flight action.activityId where
  runs : flight.Matches action.activityId → action.operation.command = some flight.activity

theorem Owns.serves {action : ServiceAction} (h : flight.Owns action)
    (hserves : flight.Serves flight') : flight'.Owns action where
  toHeld := h.toHeld.serves hserves
  runs hmatches := by
    obtain ⟨hmatches', hactivity, -⟩ := hserves.matches_back hmatches h.le
    exact hactivity ▸ h.runs hmatches'

/-- What others dispatch is not the operation of an action that is held. -/
theorem notMem_dispatched_serves {action : ServiceAction} (hle : action.activityId ≤
    flight.activityId) (hnew : (action.activityId, action.operation) ∉ flight.dispatched)
    (hserves : flight.Serves flight') :
    (action.activityId, action.operation) ∉ flight'.dispatched := by
  intro hmem
  rcases hserves.newer _ hmem with hold | hlater
  · exact hnew hold
  · exact absurd hlater (not_lt.mpr hle)

/-- An operation is dispatched. -/
def execute (flight : Flight) (action : ServiceAction) : Flight :=
  { flight with dispatched := flight.dispatched ++ [(action.activityId, action.operation)] }

theorem Sound.execute (h : flight.Sound) {action : ServiceAction} (howns : flight.Owns action)
    (hnew : (action.activityId, action.operation) ∉ flight.dispatched) :
    (flight.execute action).Sound :=
  { h with
    logged := fun entry hmem => by
      rcases List.mem_append.mp hmem with hold | hlast
      · exact h.logged entry hold
      · obtain rfl := List.mem_singleton.mp hlast
        exact howns.le
    known := fun call hmem => List.mem_append_left _ (h.known call hmem)
    once := by
      refine h.once.append (List.nodup_singleton _) fun entry hold hlast => ?_
      obtain rfl := List.mem_singleton.mp hlast
      exact hnew hold
    past := fun entry hmem hid hbusy => by
      rcases List.mem_append.mp hmem with hold | hlast
      · exact h.past entry hold hid hbusy
      · obtain rfl := List.mem_singleton.mp hlast
        exact mem_past_of_command (howns.runs (h.matches_of_busy hbusy hid.symm)) }

/-- The operation of an action is under way. -/
def send (flight : Flight) (action : ServiceAction) : Flight :=
  { flight with inFlight := flight.inFlight ++ [⟨action, false⟩] }

theorem Sound.send (h : flight.Sound) {action : ServiceAction} (howns : flight.Owns action)
    (hmatches : flight.Matches action.activityId)
    (hknown : (action.activityId, action.operation) ∈ flight.dispatched) :
    (flight.send action).Sound := by
  have hlanded := howns.landed hmatches
  have hone : (flight.send action).inFlight = [⟨action, false⟩] := by
    show flight.inFlight ++ [_] = _
    rw [hlanded]
    rfl
  refine { h with
    few := ?_
    owned := fun _ call hmem => ?_
    verified := fun hverified => ?_
    known := fun call hmem => ?_ }
  · rw [hone]
    exact le_rfl
  · rw [hone] at hmem
    obtain rfl := List.mem_singleton.mp hmem
    exact ⟨hmatches.id.symm, howns.runs hmatches⟩
  · exact absurd ((howns.unverified hmatches).symm.trans hverified) Bool.false_ne_true
  · rw [hone] at hmem
    obtain rfl := List.mem_singleton.mp hmem
    exact hknown

/-- A call of the backend has completed. -/
def land (flight : Flight) (index : ℕ) : Flight :=
  { flight with inFlight := flight.inFlight.eraseIdx index }

/-- A call that has completed gives its action back to the activity. -/
theorem Sound.land (h : flight.Sound) {index : ℕ} {call : BackendCall}
    (hcall : flight.inFlight[index]? = some call) :
    (flight.land index).Sound ∧ (flight.land index).Owns call.action := by
  have hmem := List.mem_of_getElem? hcall
  have hlanded : (flight.land index).inFlight = [] := by
    obtain ⟨hindex, -⟩ := List.getElem?_eq_some_iff.mp hcall
    have hfew := h.few
    apply List.eq_nil_of_length_eq_zero
    show (flight.inFlight.eraseIdx index).length = 0
    rw [List.length_eraseIdx_of_lt hindex]
    omega
  have hunverified : flight.runtimeVerificationPending = false := by
    by_contra hverified
    have := (h.verified (Bool.eq_true_of_not_eq_false hverified)).2
    rw [this] at hmem
    exact absurd hmem List.not_mem_nil
  refine ⟨{ h with few := ?_, owned := ?_, verified := ?_, known := ?_ }, ?_⟩
  · rw [hlanded]
    exact Nat.zero_le 1
  · intro _ call hmem
    rw [hlanded] at hmem
    exact absurd hmem List.not_mem_nil
  · exact fun hverified => absurd (hunverified.symm.trans hverified) Bool.false_ne_true
  · intro call hmem
    rw [hlanded] at hmem
    exact absurd hmem List.not_mem_nil
  · have howned (hmatches : (flight.land index).Matches call.action.activityId) :=
      (h.owned hmatches.stopping call hmem).2
    refine ⟨⟨⟨h.logged _ (h.known call hmem), fun _ => hlanded, fun hmatches => ?_⟩,
      fun _ => hunverified⟩, howned⟩
    exact h.answered_of_command (isCommand_of_command (howned hmatches))

/-- The action of an activity that nothing is under way for and that awaits no answer. -/
theorem Sound.held (h : flight.Sound) (hcommand : flight.activity.isCommand = false)
    (hasks : ∀ kind : ConfirmationKind, flight.activity ≠ kind.activity) :
    flight.Held flight.activityId where
  le := le_rfl
  landed hmatches := h.landed_of_not_command hmatches.stopping hcommand
  answered _ := h.answered_of hasks
  unverified _ := h.unverified_of_not_command hcommand

/-- The operation of an activity that goes on has not been dispatched for it. -/
theorem Sound.notMem_dispatched (h : flight.Sound) (hmatches : flight.Matches activityId)
    {operation : BackendOperation} (hpast : operation ∉ flight.activity.past) :
    (activityId, operation) ∉ flight.dispatched :=
  fun hmem => hpast (h.past _ hmem hmatches.id.symm hmatches.busy)

/-- The action of an activity that goes on as the one of an operation. -/
theorem Held.owns_enter {action : ServiceAction} {activity : AwgActivity}
    (h : flight.Held action.activityId) (hmatches : flight.Matches action.activityId)
    (hcommand : action.operation.command = some activity) :
    (flight.enter activity).Owns action :=
  ⟨⟨⟨h.le, fun _ => h.landed hmatches, fun _ => h.answered hmatches⟩,
    fun _ => h.unverified hmatches⟩, fun _ => hcommand⟩

/-- The activity and its action are given up. -/
def interrupt (flight : Flight) : Flight :=
  { flight with activity := .idle, pendingConfirmation := none }

theorem Sound.interrupt (h : flight.Sound) (hcommand : flight.activity.isCommand = false) :
    flight.interrupt.Sound where
  few := h.few
  owned hrunning call hmem := by
    rw [show flight.interrupt.inFlight = [] from h.landed_of_not_command hrunning hcommand] at hmem
    exact absurd hmem List.not_mem_nil
  verified hverified :=
    absurd ((h.unverified_of_not_command hcommand).symm.trans hverified) Bool.false_ne_true
  asked action hmem := absurd hmem (by simp [Flight.interrupt])
  running hbusy := absurd rfl hbusy
  bounded := h.bounded
  logged := h.logged
  once := h.once
  known := h.known
  past _ _ _ hbusy := absurd rfl hbusy

/-- Others may give up an activity that no operation is under way in. -/
theorem serves_interrupt (hcommand : flight.activity.isCommand = false) :
    flight.Serves flight.interrupt where
  toMoves := { Moves.refl flight with }
  same hmatches := absurd rfl hmatches.busy
  held _ hcommand' := absurd (hcommand.symm.trans hcommand') Bool.false_ne_true
  newer _ h := .inl h

/-- The controller has stopped. -/
def stop (flight : Flight) : Flight :=
  { flight with
    stopping := true
    started := false
    activityId := min (flight.activityId + 1) (2 ^ 64 - 1)
    activity := .idle
    runtimeVerificationPending := false
    pendingConfirmation := none }

theorem Sound.stop (h : flight.Sound) : flight.stop.Sound where
  few := h.few
  owned hrunning := absurd hrunning.symm Bool.false_ne_true
  verified hverified := absurd hverified Bool.false_ne_true
  asked action hmem := absurd hmem (by simp [Flight.stop])
  running hbusy := absurd rfl hbusy
  bounded := min_le_right _ _
  logged entry hmem := (h.logged entry hmem).trans (le_min (Nat.le_succ _) h.bounded)
  once := h.once
  known := h.known
  past _ _ _ hbusy := absurd rfl hbusy

/-- The calls of the backend are cancelled. -/
def halt (flight : Flight) : Flight :=
  { flight with backend := .stopped, inFlight := flight.inFlight.map .cancel }

theorem Sound.halt (h : flight.Sound) (hstopping : flight.stopping = true) : flight.halt.Sound where
  few := by
    show (flight.inFlight.map BackendCall.cancel).length ≤ 1
    rw [List.length_map]
    exact h.few
  owned hrunning := absurd (hstopping.symm.trans hrunning) (by simp)
  verified hverified := ⟨(h.verified hverified).1, by
    show flight.inFlight.map BackendCall.cancel = []
    rw [(h.verified hverified).2]
    rfl⟩
  asked := h.asked
  running := h.running
  bounded := h.bounded
  logged := h.logged
  once := h.once
  known call hmem := by
    obtain ⟨sent, hsent, rfl⟩ := List.mem_map.mp hmem
    exact h.known sent hsent
  past := h.past

/-- The controller that stops, once its backend has. -/
theorem serves_stop (h : flight.Sound) (hrunning : flight.stopping = false)
    (hlater : flight.stop.activityId ≤ flight'.activityId) (hstopping : flight'.stopping = true)
    (hbackend : flight'.backend = .stopped) (hsound : flight'.Sound)
    (hnewer : ∀ entry ∈ flight'.dispatched,
      entry ∈ flight.dispatched ∨ flight.stop.activityId < entry.1) :
    flight.Serves flight' := by
  have hle : flight.activityId ≤ flight.stop.activityId := le_min (Nat.le_succ _) h.bounded
  have hnewer' : ∀ entry ∈ flight'.dispatched,
      entry ∈ flight.dispatched ∨ flight.activityId < entry.1 :=
    fun entry hmem => (hnewer entry hmem).imp id hle.trans_lt
  have hmoves : flight.Moves flight' := by
    refine ⟨hle.trans hlater, fun h => absurd (hrunning.symm.trans h) Bool.false_ne_true, ?_,
      fun _ _ => hbackend, fun _ => hbackend, fun entry hmem => (hnewer' entry hmem).imp id le_of_lt⟩
    exact fun h => absurd (hstopping.symm.trans h) (by simp)
  refine .of_stopped hmoves hstopping ?_ hnewer'
  by_contra hbusy
  exact absurd (hstopping.symm.trans (hsound.running hbusy).2) (by simp)

end Flight

end NmSidebar
