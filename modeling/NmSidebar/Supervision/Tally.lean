import NmSidebar.Supervision.RunnerInvariant

/-!
# The tally of a run

The tally follows the calls of a run: the groups that were registered and not ended since, whether a
pipe failed, and whether the input was written to its end. A supervisor that has not failed owns
every group of the tally, or has handed it out.
-/

namespace NmSidebar

open Text Effects Supervisor

/-! ## Tallies -/

/-- What the calls of a run tell of its groups and its pipes. `standing` holds the groups that were
registered and whose end was not acknowledged to the helper since. -/
structure Tally where
  standing : List ℤ
  disturbed : Bool
  inputDone : Bool

/-- The tally before any call. -/
def Tally.empty : Tally := ⟨[], false, false⟩

/-- The response acknowledges that a group is unregistered. -/
def SupervisionMessage.EndsGroup (message : SupervisionMessage) : Prop :=
  message.type = SupervisionType.unregister.code ∧ message.status = 0

instance (message : SupervisionMessage) : Decidable message.EndsGroup :=
  inferInstanceAs (Decidable (_ ∧ _))

namespace Tally

/-- The tally without a group. -/
def unregister (l : Tally) (processGroup : ℤ) : Tally :=
  { l with standing := l.standing.filter (· ≠ processGroup) }

/-- The tally after a call. -/
def after (l : Tally) : (o : ServiceCall) → o.Reply → Tally
  | .spawnSentinel processGroup, some _ => { l with standing := processGroup :: l.standing }
  | .send message, true => if message.EndsGroup then l.unregister message.processGroup else l
  | .writeHelperInput, .done => { l with inputDone := true }
  | .writeHelperInput, .failed | .readHelperOutput, (_, .failed) => { l with disturbed := true }
  | _, _ => l

/-- The calls that the tally has nothing of. -/
def Untallied (o : ServiceCall) : Prop := ∀ l r, after l o r = l

theorem records_of_untallied {α : Type} {p : ServiceM α} {l : Tally} (hp : p.Uses Untallied) :
    p.Records after (fun _ l' => l' = l) l :=
  hp.records fun _ ho => ho

end Tally

open Tally

namespace Supervisor

/-! ## The supervisor -/

theorem untallied_unreaped (sentinels : List ℕ) : (unreaped sentinels).Uses Untallied := by
  induction sentinels with
  | nil => trivial
  | cons sentinel sentinels ih => exact ⟨fun _ _ => rfl, fun _ => ih.bind fun _ => trivial⟩

theorem untallied_reapRetiredSentinels (s : Supervisor) :
    s.reapRetiredSentinels.Uses Untallied :=
  (untallied_unreaped _).bind fun _ => trivial

theorem untallied_killSentinel (group : SupervisedGroup) :
    (killSentinel group).Uses Untallied := by
  unfold killSentinel
  split
  · trivial
  · exact ⟨fun _ _ => rfl, fun _ => trivial⟩

theorem untallied_reapSentinel (group : SupervisedGroup) :
    (reapSentinel group).Uses Untallied := by
  unfold reapSentinel
  split
  · trivial
  · exact ⟨fun _ _ => rfl, fun _ => ⟨fun _ _ => rfl, fun _ => trivial⟩⟩

theorem untallied_sentinelIsSafe (group : SupervisedGroup) :
    (sentinelIsSafe group).Uses Untallied := by
  unfold sentinelIsSafe
  split
  · trivial
  refine ⟨fun _ _ => rfl, fun state => ?_⟩
  cases state with
  | failed | noChild | running => trivial
  | exited =>
    show Prog.Uses _ (if _ then _ else _)
    split
    · trivial
    split
    · trivial
    · exact ⟨fun _ _ => rfl, fun _ => trivial⟩

theorem untallied_allSentinelsAreSafe (groups : List SupervisedGroup) :
    (allSentinelsAreSafe groups).Uses Untallied := by
  induction groups with
  | nil => trivial
  | cons group groups ih =>
    refine (untallied_sentinelIsSafe group).bind fun safe => ?_
    split
    · exact ih
    · trivial

/-- The supervisor has not failed or begun its cleanup, and a group that stands is owned or was
handed out. -/
structure Upholds (s : Supervisor) (out : Option ℤ) (l : Tally) : Prop where
  sound : s.failed = false
  begun : s.cleanupStarted = false
  standing : ∀ number ∈ l.standing,
    out = some number ∨ ∃ group ∈ s.ownedGroups, group.processGroup = number

variable {s s' : Supervisor} {out : Option ℤ} {l : Tally}

theorem Upholds.congr (h : s.Upholds out l) (howned : s'.ownedGroups = s.ownedGroups)
    (hfailed : s'.failed = s.failed) (hbegun : s'.cleanupStarted = s.cleanupStarted) :
    s'.Upholds out l := by
  refine ⟨hfailed.trans h.sound, hbegun.trans h.begun, ?_⟩
  rw [howned]
  exact h.standing

/-- An update of flags leaves the numbers of the groups. -/
theorem Upholds.update (h : s.Upholds out l) {processGroup : ℤ}
    {f : SupervisedGroup → SupervisedGroup}
    (hnumber : ∀ group, (f group).processGroup = group.processGroup)
    (howned : s'.ownedGroups = (s.update processGroup f).ownedGroups)
    (hfailed : s'.failed = s.failed) (hbegun : s'.cleanupStarted = s.cleanupStarted) :
    s'.Upholds out l := by
  refine ⟨hfailed.trans h.sound, hbegun.trans h.begun, fun number hmem => ?_⟩
  rw [howned]
  refine (h.standing number hmem).imp_right ?_
  rintro ⟨group, hgroup, rfl⟩
  refine ⟨_, List.mem_map_of_mem hgroup, ?_⟩
  show (if _ then _ else _ : SupervisedGroup).processGroup = _
  split
  · exact hnumber group
  · rfl

/-! ## Requests of the helper -/

/-- What a request leaves: a tally of the same pipes, and a supervisor that upholds it but for the
group that a granted request unregisters. -/
structure HandledFor (out : Option ℤ) (type : SupervisionType) (processGroup : ℤ) (l : Tally)
    (handled : Handled) (l' : Tally) : Prop where
  sound : handled.supervisor.failed = false
  begun : handled.supervisor.cleanupStarted = false
  standing : ∀ number ∈ l'.standing, out = some number ∨
    (∃ group ∈ handled.supervisor.ownedGroups, group.processGroup = number) ∨
      (type = .unregister ∧ handled.status = 0 ∧ number = processGroup)
  disturbed : l'.disturbed = l.disturbed
  inputDone : l'.inputDone = l.inputDone

theorem Upholds.handled {handled : Handled} {type : SupervisionType} {processGroup : ℤ}
    (h : handled.supervisor.Upholds out l) : HandledFor out type processGroup l handled l :=
  ⟨h.sound, h.begun, fun number hmem => (h.standing number hmem).imp_right .inl, rfl, rfl⟩

theorem handled_register (h : s.Upholds out l) (processGroup : ℤ) :
    (s.handleRegister processGroup (s.lookup processGroup)).Records after
      (HandledFor out .register processGroup l) l := by
  refine ((records_of_untallied s.untallied_reapRetiredSentinels).and
    s.reapRetiredSentinels_returns.records).bind ?_
  rintro s₁ l₁ ⟨rfl, sentinels, -, rfl⟩
  have hreaped : { s with retiredSentinels := sentinels }.Upholds out l₁ := h.congr rfl rfl rfl
  split_ifs
  · exact hreaped.handled
  · exact hreaped.handled
  · exact hreaped.handled
  · intro sentinel
    cases sentinel with
    | none => exact hreaped.handled
    | some sentinel =>
      refine ⟨h.sound, h.begun, fun number hmem => ?_, rfl, rfl⟩
      rcases List.mem_cons.mp hmem with rfl | hmem
      · exact .inr (.inl ⟨_, List.mem_cons_self, rfl⟩)
      · refine (h.standing number hmem).imp_right fun ⟨group, hgroup, hnumber⟩ => ?_
        exact .inl ⟨group, List.mem_cons_of_mem _ hgroup, hnumber⟩

theorem handled_unregister (h : s.Upholds out l) (processGroup : ℤ) :
    (s.handleUnregister (s.lookup processGroup)).Records after
      (HandledFor out .unregister processGroup l) l := by
  cases hlookup : s.lookup processGroup with
  | none => exact h.handled
  | some group =>
    have hnumber : group.processGroup = processGroup := by
      simpa using List.find?_some hlookup
    intro scan
    cases scan with
    | failed | live => exact h.handled
    | empty =>
      refine Prog.Records.bind (R := fun left l' => l' = l ∧ ∀ s', left = some s' →
        ∃ sentinels, s' = { (s.steal group.processGroup).unreleased group with
          retiredSentinels := sentinels }) ?_ ?_
      · refine (records_of_untallied (untallied_killSentinel group)).bind ?_
        rintro killed _ rfl
        split
        · exact ⟨rfl, fun s' h => nomatch h⟩
        · refine ((records_of_untallied (untallied_reapRetiredSentinels _)).and
            (reapRetiredSentinels_returns _).records).bind ?_
          rintro s₁ _ ⟨rfl, sentinels, -, rfl⟩
          refine ⟨rfl, ?_⟩
          rintro s' ⟨⟩
          exact ⟨_, rfl⟩
      · rintro left _ ⟨rfl, hleft⟩
        cases left with
        | none => exact h.handled
        | some s' =>
          obtain ⟨sentinels, rfl⟩ := hleft s' rfl
          refine ⟨h.sound, h.begun, fun number hmem => ?_, rfl, rfl⟩
          refine (h.standing number hmem).imp_right ?_
          rintro ⟨group', hgroup', rfl⟩
          by_cases hsame : group'.processGroup = processGroup
          · exact .inr ⟨rfl, rfl, hsame⟩
          · refine .inl ⟨group', List.mem_filter.mpr ⟨hgroup', ?_⟩, rfl⟩
            rw [hnumber]
            exact decide_eq_true hsame

theorem handled_terminating (h : s.Upholds out l) (group : Option SupervisedGroup)
    (processGroup : ℤ) :
    (s.handleTerminating group).Records after (HandledFor out .terminating processGroup l) l := by
  cases group with
  | none => exact h.handled
  | some group =>
    refine (records_of_untallied (untallied_allSentinelsAreSafe s.ownedGroups)).bind ?_
    rintro safe _ rfl
    split
    · refine Upholds.handled (h.update ?_ rfl rfl rfl)
      exact fun _ => rfl
    · exact h.handled

theorem handled_release (h : s.Upholds out l) (group : Option SupervisedGroup)
    (processGroup : ℤ) :
    (s.handleRelease group).Records after (HandledFor out .release processGroup l) l := by
  unfold handleRelease
  split
  · exact h.handled
  split
  · exact h.handled
  split
  · exact h.handled
  split
  · exact h.handled
  split
  · exact h.handled
  split
  · exact h.handled
  intro scan
  cases scan with
  | failed | empty => exact h.handled
  | live =>
    refine Upholds.handled (h.update ?_ rfl rfl rfl)
    exact fun _ => rfl

theorem handled_withdrawRelease (h : s.Upholds out l) (group : Option SupervisedGroup)
    (processGroup : ℤ) :
    HandledFor out .withdrawRelease processGroup l (s.handleWithdrawRelease group) l := by
  unfold handleWithdrawRelease
  split
  · exact h.handled
  split
  · exact h.handled
  · refine Upholds.handled (h.update ?_ rfl rfl rfl)
    exact fun _ => rfl

theorem handled_request (h : s.Upholds out l) (type : SupervisionType) (processGroup : ℤ) :
    (s.handleRequest type processGroup).Records after (HandledFor out type processGroup l) l := by
  cases type with
  | register => exact handled_register h processGroup
  | unregister => exact handled_unregister h processGroup
  | release => exact handled_release h _ processGroup
  | withdrawRelease => exact handled_withdrawRelease h _ processGroup
  | terminating => exact handled_terminating h _ processGroup

/-- The type of a message that passes the checks is its own. -/
theorem type_of_requestType {message : SupervisionMessage} {type : SupervisionType}
    (h : requestType message = some type) : message.type = type.code := by
  unfold requestType at h
  split at h
  · exact absurd h.symm (Option.some_ne_none _)
  · have hfind := List.find?_some h
    exact (of_decide_eq_true hfind).symm

/-- What a call of the supervisor leaves of the tally where it reports no failure. -/
def Going (out : Option ℤ) (l : Tally) (s : Supervisor) (l' : Tally) : Prop :=
  s.Upholds out l' ∧ l'.disturbed = l.disturbed ∧ l'.inputDone = l.inputDone

theorem going_handleMessage (h : s.Upholds out l) (message : SupervisionMessage) :
    (s.handleMessage message).Records after
      (fun handled l' => handled.1 = true → Going out l handled.2 l') l := by
  unfold handleMessage
  cases htype : requestType message with
  | none => exact fun h => absurd h Bool.false_ne_true
  | some type =>
    refine (handled_request h type message.processGroup).bind fun handled l₁ h₁ => ?_
    intro sent
    cases sent with
    | false => exact fun h => absurd h Bool.false_ne_true
    | true =>
      intro _
      show Going out l handled.supervisor (if _ then _ else _)
      have hmessage := type_of_requestType htype
      split
      · refine ⟨⟨h₁.sound, h₁.begun, fun number hmem => ?_⟩, h₁.disturbed, h₁.inputDone⟩
        obtain ⟨hmem, hne⟩ := List.mem_filter.mp hmem
        rcases h₁.standing number hmem with hout | howned | ⟨-, -, hnumber⟩
        · exact .inl hout
        · exact .inr howned
        · exact absurd hnumber (of_decide_eq_true hne)
      · rename_i hstays
        refine ⟨⟨h₁.sound, h₁.begun, fun number hmem => ?_⟩, h₁.disturbed, h₁.inputDone⟩
        rcases h₁.standing number hmem with hout | howned | ⟨rfl, hstatus, -⟩
        · exact .inl hout
        · exact .inr howned
        · exact absurd ⟨hmessage, hstatus⟩ hstays

/-! ## Polling -/

/-- A supervisor that is polled without a failure upholds the tally. -/
theorem going_pollMessages (h : s.Upholds out l) (rounds : ℕ) :
    (s.pollMessages rounds).Records after
      (fun polled l' => ∀ s', polled = some (true, s') → Going out l s' l') l := by
  induction rounds generalizing s l with
  | zero => exact fun s' h => absurd h.symm (Option.some_ne_none _)
  | succ rounds ih =>
    have hfalse {s₁ s' : Supervisor} (h : some (false, s₁) = some (true, s')) : False :=
      Bool.false_ne_true (Prod.mk.inj (Option.some.inj h)).1
    intro received
    cases received with
    | wouldBlock =>
      refine ((records_of_untallied s.untallied_reapRetiredSentinels).and
        s.reapRetiredSentinels_returns.records).bind ?_
      rintro s₁ l₁ ⟨rfl, sentinels, -, rfl⟩
      refine (records_of_untallied (untallied_allSentinelsAreSafe _)).bind ?_
      rintro safe _ rfl
      split
      · rintro s' ⟨⟩
        exact ⟨h.congr rfl rfl rfl, rfl, rfl⟩
      · refine ((Prog.returns_any _).records).bind fun s₂ l₂ _ => ?_
        intro _ s' h
        exact (hfalse h).elim
    | closed =>
      refine (records_of_untallied (untallied_allSentinelsAreSafe _)).bind ?_
      rintro safe _ rfl
      split
      · intro _ s' hs'
        obtain rfl := (Prod.mk.inj (Option.some.inj hs')).2
        exact ⟨h.congr rfl rfl rfl, rfl, rfl⟩
      · have hfails : s.failSentinels.Returns fun s' => s'.failed = true :=
          (Prog.returns_any _).bind fun _ _ => rfl
        refine (hfails.records).bind fun s₂ l₂ h₂ => ?_
        intro _ s' h
        have hpolled := (Prod.mk.inj (Option.some.inj h)).1
        rw [h₂] at hpolled
        exact absurd hpolled Bool.false_ne_true
    | malformed =>
      intro _ s' h
      exact (hfalse h).elim
    | message message =>
      refine (going_handleMessage h message).bind ?_
      rintro ⟨handled, s₁⟩ l₁ h₁
      cases handled with
      | false =>
        intro _ s' h
        exact (hfalse h).elim
      | true =>
        obtain ⟨h₁, hdisturbed, hdone⟩ := h₁ rfl
        refine (ih h₁).mono fun polled l₂ h₂ s' hs' => ?_
        obtain ⟨h₂, hdisturbed', hdone'⟩ := h₂ s' hs'
        exact ⟨h₂, hdisturbed'.trans hdisturbed, hdone'.trans hdone⟩

theorem going_poll (h : s.Upholds out l) (rounds : ℕ) :
    (s.poll rounds).Records after
      (fun polled l' => ∀ s', polled = some (true, s') → Going out l s' l') l := by
  refine ((records_of_untallied s.untallied_reapRetiredSentinels).and
    s.reapRetiredSentinels_returns.records).bind ?_
  rintro s₁ l₁ ⟨rfl, sentinels, -, rfl⟩
  have h₁ : { s with retiredSentinels := sentinels }.Upholds out l₁ := h.congr rfl rfl rfl
  split
  · rename_i hfailed
    exact absurd (h.sound.symm.trans hfailed) Bool.false_ne_true
  split
  · rintro s' ⟨⟩
    exact ⟨h₁, rfl, rfl⟩
  · exact going_pollMessages h₁ rounds

end Supervisor

end NmSidebar
