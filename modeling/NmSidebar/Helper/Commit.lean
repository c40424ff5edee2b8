import NmSidebar.Helper.CleanupSafety
import NmSidebar.Helper.DownSafety
import NmSidebar.Helper.Main

/-!
# Only a committed activation succeeds

Whatever the operations of the helper's `up` reply, it returns success only where the
compare-and-swap of `commit_operation` has succeeded. Nothing of the machine is needed for this:
the world is the commit bit alone.
-/

namespace NmSidebar

open Text Effects

/-- The commit bit, as the operations read and write it. A failed reading has a failure's
status. -/
def commits : Behaviour helperSig Bool := fun o committed r committed' =>
  match o with
  | .compareExchangeCommitted => r = true → committed' = true
  | .isCommitted => r = committed ∧ committed' = committed
  | .readConfig _ => ∀ failure, r = .error failure → failure ≠ .success
  | _ => committed' = committed

/-- Operations may be issued anywhere. -/
def anywhere : HelperCall → Bool → Prop := fun _ _ => True

/-- The replies the statements below rest on. -/
def ReadsFail : (o : HelperCall) → o.Reply → Prop
  | .readConfig _, r => ∀ failure, r = .error failure → failure ≠ .success
  | _, _ => True

/-- A failure that is reported is none of success. -/
def Failing {α : Type} (result : Except HelperExit α) : Prop :=
  ∀ failure, result = .error failure → failure ≠ .success

theorem failing_error {α : Type} {failure : HelperExit} (h : failure ≠ .success) :
    Failing (.error failure : Except HelperExit α) := by
  rintro failure ⟨⟩
  exact h

theorem failing_ok {α : Type} (a : α) : Failing (.ok a) :=
  fun _ h => nomatch h

theorem readsFail_of_commits (o : HelperCall) (c : Bool) (r : o.Reply) (c' : Bool)
    (h : commits o c r c') : ReadsFail o r := by
  cases o with
  | readConfig => exact h
  | _ => trivial

/-- A statement about what a program returns, as one about its runs. -/
theorem safe_of_returns {α : Type} {Q : α → Prop} {p : HelperM α} {c : Bool}
    (hp : p.ReturnsOn ReadsFail Q) : Safe commits anywhere p (fun a _ => Q a) c :=
  Safe.of_returnsOn hp (fun _ _ => trivial) readsFail_of_commits

/-! ## The failures of the preparation -/

theorem phaseFailureOr_returns (deadline : ℤ) {fallback : HelperExit} (h : fallback ≠ .success) :
    (phaseFailureOr deadline fallback).Returns fun result => result ≠ .success := by
  refine (Prog.returns_any _).bind fun stop _ => ?_
  show (if stop = .success then fallback else stop) ≠ _
  split
  · exact h
  · assumption

theorem sessionRuntimeState_returns (name : Name) :
    (sessionRuntimeState name).Returns Failing := by
  intro read
  cases read with
  | missing => exact fun reply failure h => runtimeStateOf_error h
  | invalid => exact fun failure h => runtimeStateOf_error h
  | valid parsed => exact fun reply failure h => runtimeStateOf_error h

theorem loadStoredConfig_returns (configName : Name) :
    (loadStoredConfig configName).ReturnsOn ReadsFail Failing := by
  intro read hread
  cases read with
  | error failure => exact failing_error (hread failure rfl)
  | ok stored =>
    obtain ⟨contents, identity⟩ := stored
    dsimp only [Prog.bind]
    split
    · exact failing_error HelperExit.noConfusion
    · exact failing_ok _

theorem discardCandidate_fails (tempName : Name) {result : HelperExit} (h : result ≠ .success) :
    (discardCandidate tempName result).Returns Failing := by
  intro removed
  cases removed with
  | true => exact failing_error h
  | false => exact failing_error HelperExit.noConfusion

theorem writeCandidate_fails (contents : Bytes) (deadline : ℤ) :
    (writeCandidate contents deadline).Returns Failing := by
  unfold writeCandidate
  split
  · exact failing_error HelperExit.noConfusion
  intro written
  cases written with
  | notCreated => exact failing_error HelperExit.noConfusion
  | incomplete tempName => exact discardCandidate_fails tempName HelperExit.noConfusion
  | complete tempName =>
    dsimp only [Prog.bind]
    split
    · exact discardCandidate_fails tempName HelperExit.noConfusion
    refine (Prog.returns_any _).bind fun quick _ => ?_
    split
    · rename_i hquick
      apply discardCandidate_fails
      split
      · exact HelperExit.noConfusion
      · exact hquick
    split
    · exact discardCandidate_fails tempName HelperExit.noConfusion
    · exact failing_ok _

theorem profilesPrepareRuntime_returns (configName : Name) (deadline : ℤ) :
    (profilesPrepareRuntime configName deadline).ReturnsOn ReadsFail Failing := by
  refine (loadStoredConfig_returns configName).bind fun stored hstored => ?_
  cases stored with
  | error failure => exact failing_error (hstored failure rfl)
  | ok stored =>
    refine (writeCandidate_fails stored.original deadline).on.bind fun candidate hcandidate => ?_
    cases candidate with
    | error failure => exact failing_error (hcandidate failure rfl)
    | ok candidate =>
      intro removed _
      cases removed with
      | true => exact failing_ok _
      | false => exact failing_error HelperExit.noConfusion

theorem tunnelPrepareUp_returns (name : Name) (deadline : ℤ) :
    (tunnelPrepareUp name deadline).ReturnsOn ReadsFail Failing := by
  unfold tunnelPrepareUp
  split
  · exact failing_error HelperExit.noConfusion
  refine (Prog.returns_any _).on.bind fun stop _ => ?_
  split
  · rename_i hstop
    exact failing_error hstop
  split
  · exact failing_error HelperExit.noConfusion
  · exact failing_error HelperExit.noConfusion
  intro security _
  cases security with
  | missing => exact failing_error HelperExit.noConfusion
  | invalid => exact failing_error HelperExit.noConfusion
  | valid =>
    refine (sessionRuntimeState_returns name).on.bind fun state hstate => ?_
    cases state with
    | error failure => exact failing_error (hstate failure rfl)
    | ok state =>
      dsimp only
      split
      · exact failing_error HelperExit.noConfusion
      split
      · exact failing_error HelperExit.noConfusion
      intro random _
      cases random with
      | none => exact failing_error HelperExit.noConfusion
      | some random =>
        refine (profilesPrepareRuntime_returns _ deadline).bind fun profile hprofile => ?_
        cases profile with
        | error failure => exact failing_error (hprofile failure rfl)
        | ok profile =>
          dsimp only
          split
          · exact failing_error HelperExit.noConfusion
          · exact failing_error HelperExit.noConfusion
          refine (Prog.returns_any _).on.bind fun backend _ => ?_
          cases backend with
          | error failure =>
            refine (phaseFailureOr_returns deadline ?_).on.bind fun result hresult =>
              failing_error hresult
            split <;> exact HelperExit.noConfusion
          | ok backend =>
            intro captured _
            show Prog.ReturnsOn _ _ (if captured.complete = false then _ else _)
            split
            · exact (phaseFailureOr_returns deadline HelperExit.noConfusion).on.bind
                fun result hresult => failing_error hresult
            refine (Prog.returns_any _).on.bind fun stop _ => ?_
            split
            · rename_i hstop
              exact failing_error hstop
            · exact failing_ok _

/-! ## The failures of a rollback -/

theorem abortBeforeInterfaceTeardown_returns (name : Name) (s : TunnelState)
    (dns : Option DnsConfig) (beganActive : Bool) {failure : HelperExit} (deadline : ℤ)
    (h : failure ≠ .success) :
    (abortBeforeInterfaceTeardown name s dns beganActive failure deadline).Returns
      fun result => result.1 ≠ .success := by
  have hcleanup : (if beganActive = true then HelperExit.dnsRollbackFailed else .rollbackFailed) ≠
      .success := by
    split <;> exact HelperExit.noConfusion
  unfold abortBeforeInterfaceTeardown
  dsimp only
  split
  · exact h
  refine (Prog.returns_any _).bind fun owned _ => ?_
  obtain ⟨state, observation⟩ := owned
  cases state with
  | conflict => exact (Prog.returns_any _).bind fun _ _ => HelperExit.noConfusion
  | unknown => exact HelperExit.noConfusion
  | absent => exact h
  | present =>
    refine (Prog.returns_any _).bind fun stop _ => ?_
    split
    · exact hcleanup
    refine (Prog.returns_any _).bind fun written _ => ?_
    split
    · split
      · exact h
      refine (Prog.returns_any _).bind fun applied _ => ?_
      split
      · exact HelperExit.noConfusion
      refine (Prog.returns_any _).bind fun written _ => ?_
      split
      · exact h
      · exact HelperExit.noConfusion
    · exact hcleanup

theorem rollbackStarted_returns (name configName : Name) (snapshotPath : Bytes) (s : TunnelState)
    {failure : HelperExit} (cleanupDeadline : ℤ) (h : failure ≠ .success) :
    (rollbackStarted name configName snapshotPath s failure cleanupDeadline).Returns
      fun result => result.1 ≠ .success := by
  refine (Prog.returns_any _).bind fun refreshed _ => ?_
  dsimp only
  split
  · rename_i hrefreshed
    exact (Prog.returns_any _).bind fun _ _ => hrefreshed
  refine (Prog.returns_any _).bind fun reverted _ => ?_
  split
  · exact HelperExit.noConfusion
  refine (Prog.returns_any _).bind fun teardown _ => ?_
  obtain ⟨teardown, s⟩ := teardown
  dsimp only
  split
  · split
    · exact HelperExit.noConfusion
    refine (Prog.returns_any _).bind fun removed _ => ?_
    show (if removed = .success then failure else removed) ≠ _
    split
    · exact h
    · assumption
  split
  · exact HelperExit.noConfusion
  split
  · exact abortBeforeInterfaceTeardown_returns _ _ _ _ _
      (rollbackCleanupFailure_ne_success teardown _)
  · exact rollbackCleanupFailure_ne_success teardown _

/-- A rollback fails with the failure it is for, or with another. -/
theorem Activation.rollback_returns (a : Activation) (s : TunnelState) {failure : HelperExit}
    (deadlines : Deadlines) (h : failure ≠ .success) :
    (a.rollback s failure deadlines).Returns fun result => result.1 ≠ .success := by
  have himpl : (rollbackActivationImpl a.name a.configName a.snapshotPath s failure
      deadlines.cleanupAt).Returns fun result => result.1 ≠ .success := by
    unfold rollbackActivationImpl
    split
    · exact h
    refine (Prog.returns_any _).bind fun written _ => ?_
    split
    · exact rollbackStarted_returns _ _ _ _ _ h
    · exact HelperExit.noConfusion
  intro _
  exact himpl.bind fun result hresult => fun _ => hresult

/-! ## The commit -/

variable {c : Bool}

/-- The result is success only in a committed process. -/
def OnlyCommitted (result : HelperExit) (c : Bool) : Prop := result = .success → c = true

/-- Any program leaves some commit bit. -/
theorem safe_any {α : Type} (p : HelperM α) : Safe commits anywhere p (fun _ _ => True) c :=
  safe_of_returns (Prog.returns_any p).on

/-- `commit_operation` returns true only with the commit bit set. -/
theorem commitOperation_commits (deadline : ℤ) :
    Safe commits anywhere (commitOperation deadline) (fun committed c => committed = true → c = true)
      c := by
  refine (safe_any _).bind fun now c₁ _ => ?_
  split
  · exact fun h => nomatch h
  refine (safe_any _).bind fun active c₂ _ => ?_
  split
  · exact fun h => nomatch h
  refine (safe_any _).bind fun pending c₃ _ => ?_
  split
  · exact fun h => nomatch h
  · exact ⟨trivial, fun committed c₄ h => h⟩

/-- `release_retained_group` returns true only with the commit bit set. -/
theorem processReleaseRetainedGroup_commits (deadline cleanupDeadline : ℤ) :
    Safe commits anywhere (processReleaseRetainedGroup deadline cleanupDeadline)
      (fun released c => released = true → c = true) c := by
  have hrestored (committed : Bool) (c : Bool) (h : committed = true → c = true) :
      Safe commits anywhere (do ask .restoreMask; return committed)
        (fun released c => released = true → c = true) c := by
    refine ⟨trivial, fun _ c' hc' => ?_⟩
    rintro rfl
    exact hc'.trans (h rfl)
  have hcommit (child : Option ℕ) (c : Bool) :
      Safe commits anywhere (commitOperation deadline >>= settleRelease child cleanupDeadline)
        (fun released c => released = true → c = true) c := by
    refine (commitOperation_commits deadline).bind fun committed c₁ hcommitted => ?_
    rcases committed with _ | _ <;> rcases child with _ | child
    · exact hrestored false c₁ hcommitted
    · exact (safe_any _).bind fun _ c₂ _ => hrestored false c₂ fun h => absurd h Bool.false_ne_true
    · exact hrestored true c₁ hcommitted
    · exact hrestored true c₁ hcommitted
  refine (safe_any _).bind fun child c₁ _ => ?_
  refine (safe_any _).bind fun blocked c₂ _ => ?_
  cases blocked with
  | false => exact fun h => absurd h Bool.false_ne_true
  | true =>
    refine (safe_any _).bind fun now c₃ _ => ?_
    refine (safe_any _).bind fun pending c₄ _ => ?_
    split
    · exact hrestored false c₄ fun h => absurd h Bool.false_ne_true
    cases child with
    | none => exact hcommit none c₄
    | some child =>
      refine (safe_any _).bind fun released c₅ _ => ?_
      cases released with
      | false => exact hrestored false c₅ fun h => absurd h Bool.false_ne_true
      | true => exact hcommit (some child) c₅

/-- The end of a failed activation. -/
theorem terminate_fails {result : HelperExit} (deadline : ℤ) (h : result ≠ .success) :
    (processTerminateRetainedGroup deadline >>= fun terminated =>
      if terminated = true then pure result else pure .rollbackFailed : HelperM _).Returns
        fun result => result ≠ .success := by
  refine (Prog.returns_any _).bind fun terminated _ => ?_
  split
  · exact h
  · exact HelperExit.noConfusion

theorem onlyCommitted_of_ne {p : HelperM HelperExit}
    (hp : p.ReturnsOn ReadsFail fun result => result ≠ .success) :
    Safe commits anywhere p OnlyCommitted c :=
  (safe_of_returns hp).mono fun _ _ h hresult => absurd hresult h

theorem Activation.settle_commits (a : Activation) (s : TunnelState) (result : HelperExit)
    (deadlines : Deadlines) : Safe commits anywhere (a.settle s result deadlines) OnlyCommitted c := by
  unfold Activation.settle
  split
  · refine (processReleaseRetainedGroup_commits _ _).bind fun released c₁ hreleased => ?_
    cases released with
    | true => exact fun _ => hreleased rfl
    | false =>
      refine (safe_any _).bind fun stop c₂ _ => ?_
      have hstop : (if stop = .success then HelperExit.childSignaled else stop) ≠ .success := by
        split
        · exact HelperExit.noConfusion
        · assumption
      refine (safe_of_returns (a.rollback_returns s deadlines hstop).on).bind ?_
      intro rolledBack c₃ hresult
      exact onlyCommitted_of_ne (terminate_fails _ hresult).on
  · rename_i hresult
    exact onlyCommitted_of_ne (terminate_fails _ hresult).on

theorem Activation.finish_commits (a : Activation) (run : ActivationRun) (deadlines : Deadlines) :
    Safe commits anywhere (a.finish run deadlines) OnlyCommitted c := by
  unfold Activation.finish
  split
  · refine (safe_any _).bind fun stop c₁ _ => ?_
    split
    · exact (safe_any _).bind fun rolledBack c₂ _ => a.settle_commits _ _ _
    · exact a.settle_commits _ _ _
  · exact a.settle_commits _ _ _

theorem Activation.admission_returns (a : Activation) (deadlines : Deadlines) :
    (a.admission deadlines).Returns Failing := by
  refine (Prog.returns_any _).bind fun stop _ => ?_
  split
  · rename_i hstop
    exact failing_error hstop
  refine (sessionRuntimeState_returns a.name).bind fun state hstate => ?_
  cases state with
  | error failure => exact failing_error (hstate failure rfl)
  | ok state =>
    dsimp only
    split
    · exact failing_error HelperExit.noConfusion
    split
    · exact failing_error HelperExit.noConfusion
    split
    · exact failing_error HelperExit.noConfusion
    · exact failing_ok _

/-- An activation succeeds only where it has committed. -/
theorem tunnelActivate_commits (dnsRecoveryBlocked : Bool) (a : Activation)
    (deadlines : Deadlines) :
    Safe commits anywhere (tunnelActivate dnsRecoveryBlocked (some a) deadlines) OnlyCommitted c := by
  unfold tunnelActivate
  dsimp only
  split
  · exact fun h => nomatch h
  refine (safe_of_returns (a.admission_returns deadlines).on).bind fun admitted c₁ hadmitted => ?_
  cases admitted with
  | error failure => exact fun h => absurd h (hadmitted failure rfl)
  | ok dnsName => exact (safe_any _).bind fun run c₂ _ => a.finish_commits run deadlines

/-! ## The switch and `main` -/

/-- What the functions the switch calls say about the commit bit. -/
def switchCommits : Behaviour switchSig Bool := fun o _ r c =>
  match o with
  | .prepareUp .. => Failing r
  | .activate .. => OnlyCommitted r c
  | _ => True

theorem switchCall_commits (o : SwitchCall) :
    Safe commits anywhere o.run (fun r c' => switchCommits o c r c') c := by
  cases o with
  | prepareUp name deadline => exact safe_of_returns (tunnelPrepareUp_returns name deadline)
  | activate activation deadlines => exact tunnelActivate_commits false activation deadlines
  | _ => exact safe_any _

theorem previousSessionFailure_ne_success (result : HelperExit) :
    previousSessionFailure result ≠ .success := by
  unfold previousSessionFailure
  split
  · rintro rfl
    simp_all
  · exact HelperExit.noConfusion

theorem switchProgram_commits (name : Name) (deadlines : Deadlines) :
    Safe switchCommits (fun _ _ => True) (switchProgram name deadlines) OnlyCommitted c := by
  have hany {α : Type} (p : SwitchM α) (c : Bool) :
      Safe switchCommits (fun _ _ => True) p (fun _ _ => True) c :=
    Safe.of_returnsOn (R := fun _ _ => True) (Prog.returns_any p).on (fun _ _ => trivial)
      fun _ _ _ _ _ => trivial
  have hprevious (result : HelperExit) (c : Bool) : OnlyCommitted (previousSessionFailure result) c :=
    fun h => absurd h (previousSessionFailure_ne_success result)
  unfold switchProgram
  split
  · exact fun h => nomatch h
  refine (hany _ c).bind fun previous c₁ _ => ?_
  cases previous with
  | error failure => exact hprevious failure c₁
  | ok previous =>
    refine ⟨trivial, fun prepared c₂ hprepared => ?_⟩
    cases prepared with
    | error failure => exact fun h => absurd h (hprepared failure rfl)
    | ok activation =>
      show Safe switchCommits _ (switchPrevious previous.names activation deadlines) _ _
      unfold switchPrevious
      refine (hany (checkAll deadlines previous.names) c₂).bind fun admitted c₃ _ => ?_
      split
      · exact hprevious admitted c₃
      refine (hany _ c₃).bind fun disconnected c₄ _ => ?_
      split
      · exact hprevious disconnected c₄
      refine ⟨trivial, fun remaining c₅ _ => ?_⟩
      cases remaining with
      | error failure => exact hprevious failure c₅
      | ok remaining =>
        show Safe switchCommits _ (if remaining.names ≠ [] then _ else _) _ _
        split
        · exact hprevious _ c₅
        refine ⟨trivial, fun stop c₆ _ => ?_⟩
        show Safe switchCommits _ (if stop ≠ .success then _ else _) _ _
        split
        · rename_i hstop
          exact fun h => absurd h hstop
        · exact ⟨trivial, fun result c₇ h => h⟩

/-- What `main` may return as success is committed. -/
def ExitCommitted (result : Option HelperExit) (c : Bool) : Prop := result = some .success → c = true

/-- The end of `main` leaves the commit bit as it is. -/
theorem helperExit_commits (deadlines : Deadlines) {result : HelperExit}
    (h : OnlyCommitted result c) :
    Safe commits anywhere (some <$> helperExit deadlines result) ExitCommitted c := by
  have hresult (result : HelperExit) {c' : Bool} (h : OnlyCommitted result c') :
      ExitCommitted (some result) c' := fun heq => h (Option.some.inj heq)
  refine ⟨trivial, ?_⟩
  rintro committed c' ⟨rfl, rfl⟩
  cases c' with
  | true => exact hresult result h
  | false =>
    show Safe _ _ ((if result = .success ∨ result = .inventoryPartial then _ else _) >>= _) _ _
    split
    · have hne : result ≠ .success := fun hsuccess => nomatch h hsuccess
      have hstop (stop : HelperExit) : (if stop ≠ .success then stop else result) ≠ .success := by
        split
        · assumption
        · exact hne
      rw [safe_bind]
      refine (safe_any _).bind fun stop c₁ _ => ?_
      exact hresult _ fun heq => absurd heq (hstop stop)
    · exact hresult result h

theorem helperArguments_error {argv : List Bytes} {failure : HelperExit}
    (h : helperArguments argv = .error failure) : failure ≠ .success := by
  unfold helperArguments at h
  rintro rfl
  split at h
  · split at h
    · split at h
      · cases h
      · split at h
        · cases h
        · split at h <;> cases h
    · cases h
  · cases h

theorem helperArguments_up {path name name' forward cleanup : Bytes} {operation : HelperOperation}
    {deadlines : Deadlines}
    (h : helperArguments [path, ascii "up", name, forward, cleanup] =
      .ok (operation, name', deadlines)) : operation = .up := by
  have hup : helperOperationOf (ascii "up") = some .up := by decide +kernel
  simp only [helperArguments, hup] at h
  split at h
  · split at h
    · cases h
    · split at h <;> cases h
      rfl
  · cases h

/-- The storage of `main`, opened for a part that keeps what `main` returns. -/
theorem opened_commits {deadlines : Deadlines} {next : HelperM (Option HelperExit)}
    (hnext : ∀ c, Safe commits anywhere next ExitCommitted c) :
    Safe commits anywhere (openRuntime deadlines (openProfiles deadlines next)) ExitCommitted c := by
  have hfailed (c : Bool) : Safe commits anywhere
      (phaseFailureOr deadlines.forwardAt .filesystemFailed >>= fun result => pure (some result))
      ExitCommitted c := by
    refine (safe_of_returns (phaseFailureOr_returns _ HelperExit.noConfusion).on).bind ?_
    exact fun result c₁ hresult h => absurd (Option.some.inj h) hresult
  refine (safe_any _).bind fun opened c₁ _ => ?_
  split
  · refine (safe_any _).bind fun opened c₂ _ => ?_
    split
    · exact hnext c₂
    · exact hfailed c₂
  · exact hfailed c₁

/-- The helper's `up` exits with success only where it has committed. -/
theorem helperMain_up_commits (entries : ℕ) (path name forward cleanup : Bytes) :
    Safe commits anywhere (helperMain entries [path, ascii "up", name, forward, cleanup])
      ExitCommitted c := by
  unfold helperMain
  split
  · rename_i failure hfailure
    exact fun h => absurd (Option.some.inj h) (helperArguments_error hfailure)
  rename_i operation name deadlines harguments
  have hup : operation = .up := helperArguments_up harguments
  subst hup
  refine (safe_any _).bind fun started c₁ _ => ?_
  split
  · rename_i hstarted
    exact fun h => absurd (Option.some.inj h) hstarted
  split
  · exact fun h => nomatch h
  · exact fun h => nomatch h
  refine (opened_commits fun c => ?_).bind fun result c₂ hresult => ?_
  · exact Safe.bind (Safe.interpret (fun o c _ => switchCall_commits o)
      (switchProgram_commits name deadlines)) fun result c' hresult h => hresult (Option.some.inj h)
  · cases result with
    | none => exact fun h => nomatch h
    | some result => exact helperExit_commits deadlines fun h => hresult (congrArg some h)

end NmSidebar
