import NmSidebar.Supervision.RunnerInvariant

/-!
# Results of a run

The result callback is called at most once: what was sent stays what was sent, a run is finished
only with a result, and only a report is sent before its run is finished. A run that can no longer
be a success does not become one again. All this holds on any replies of the kernel, with or
without a supervisor.
-/

namespace NmSidebar

open Effects Supervisor

namespace AwgHelperRun

/-! ## How a run goes on -/

/-- How a run goes on to another state that is finished only if it was. -/
structure Onward (run run' : AwgHelperRun) : Prop where
  profileReport : run'.profileReport = run.profileReport
  doomed : run.Doomed → run'.Doomed
  sent : ∀ result, run.result = some result → run'.result = some result
  unsent : run.profileReport = false → run'.result = run.result
  finished : run'.finished = run.finished

theorem Onward.refl (run : AwgHelperRun) : run.Onward run :=
  ⟨rfl, id, fun _ => id, fun _ => rfl, rfl⟩

variable {run run' run'' : AwgHelperRun}

theorem Onward.trans (h : run.Onward run') (h' : run'.Onward run'') : run.Onward run'' where
  profileReport := h'.profileReport.trans h.profileReport
  doomed hdoomed := h'.doomed (h.doomed hdoomed)
  sent result hresult := h'.sent result (h.sent result hresult)
  unsent hreport := (h'.unsent (h.profileReport.trans hreport)).trans (h.unsent hreport)
  finished := h'.finished.trans h.finished

/-- A function that neither sends nor finishes, and forgets no failure. -/
theorem onward_of (hreport : run'.profileReport = run.profileReport)
    (hresult : run'.result = run.result) (hfinished : run'.finished = run.finished)
    (hdoomed : run.Doomed → run'.Doomed) : run.Onward run' :=
  ⟨hreport, hdoomed, fun _ h => hresult.trans h, fun _ => hresult, hfinished⟩

/-- A program after which the run has gone on. -/
abbrev Advances (run : AwgHelperRun) (p : ServiceM AwgHelperRun) : Prop := p.Returns run.Onward

theorem Advances.andThen {p : ServiceM AwgHelperRun} {f : AwgHelperRun → ServiceM AwgHelperRun}
    (hp : run.Advances p) (hf : ∀ run' : AwgHelperRun, run'.Advances (f run')) :
    run.Advances (p >>= f) :=
  hp.bind fun run' h => (hf run').mono fun _ h' => h.trans h'

theorem Advances.since {run run' : AwgHelperRun} {p : ServiceM AwgHelperRun}
    (hp : AwgHelperRun.Advances run' p) (h : run.Onward run') : AwgHelperRun.Advances run p :=
  hp.mono fun _ h' => h.trans h'

/-- Calls before a program do not matter to the run. -/
theorem Advances.after {α : Type} {p : ServiceM α} {f : α → ServiceM AwgHelperRun}
    (hf : ∀ a, run.Advances (f a)) : run.Advances (p >>= f) :=
  (Prog.returns_any p).bind fun a _ => hf a

/-! ## Stopping -/

theorem advances_beginStop (run : AwgHelperRun) (reason : RunStopReason) :
    run.Advances (run.beginStop reason) := by
  have hstopped : run.Onward { run.closePipes with
      stopReason := if run.stopReason = RunStopReason.none then reason else run.stopReason } := by
    refine onward_of rfl rfl rfl fun hdoomed => ?_
    rcases hdoomed with hstop | hforward | hio
    · left
      show (if run.stopReason = RunStopReason.none then reason else run.stopReason) ≠ .none
      rwa [if_neg hstop]
    · exact .inr (.inl hforward)
    · exact .inr (.inr hio)
  unfold beginStop
  dsimp only
  split
  · exact hstopped
  split
  · exact Advances.after fun _ => Advances.after fun _ =>
      hstopped.trans (onward_of rfl rfl rfl id)
  · exact Advances.after fun _ => hstopped.trans (onward_of rfl rfl rfl id)

theorem advances_failHelperIo (run : AwgHelperRun) : run.Advances run.failHelperIo := by
  have hfailed : run.Onward { run with helperIoFailed := true } :=
    onward_of rfl rfl rfl fun _ => .inr (.inr rfl)
  exact Advances.since (advances_beginStop _ .ioFailure) hfailed

/-- A stop that has a reason leaves a run that is no success. -/
theorem beginStop_doomed (run : AwgHelperRun) {reason : RunStopReason} (hreason : reason ≠ .none) :
    (run.beginStop reason).Returns Doomed := by
  have hstop : (if run.stopReason = RunStopReason.none then reason else run.stopReason) ≠
      .none := by
    split
    · exact hreason
    · assumption
  unfold beginStop
  dsimp only
  split
  · exact .inl hstop
  split
  · exact (Prog.returns_any _).bind fun _ _ => (Prog.returns_any _).bind fun _ _ => .inl hstop
  · exact (Prog.returns_any _).bind fun _ _ => .inl hstop

theorem failHelperIo_doomed (run : AwgHelperRun) : run.failHelperIo.Returns Doomed :=
  beginStop_doomed _ RunStopReason.noConfusion

theorem onward_markFailed (run : AwgHelperRun) : run.Onward run.markFailed :=
  onward_of rfl rfl rfl id

/-! ## Cleanup of groups -/

theorem advances_beginSupervisorCleanup (run : AwgHelperRun) (signal : Signal) :
    run.Advances (run.beginSupervisorCleanup signal) := by
  have hdeadline : run.Advances (run.setGroupCleanupDeadline signal) := by
    unfold setGroupCleanupDeadline
    split
    · exact Advances.after fun _ => onward_of rfl rfl rfl id
    · exact .refl run
  refine hdeadline.andThen fun run₁ => ?_
  split
  · exact onward_of rfl rfl rfl id
  · exact Advances.after fun _ => onward_of rfl rfl rfl id

theorem advances_refreshSupervisorCleanup (run : AwgHelperRun) :
    run.Advances run.refreshSupervisorCleanup := by
  unfold refreshSupervisorCleanup
  split
  · exact onward_of rfl rfl rfl id
  · exact Advances.after fun _ => onward_of rfl rfl rfl id

theorem advances_trackReleasedGroup (run : AwgHelperRun) (processGroup : ℤ) :
    run.Advances (run.trackReleasedGroup processGroup) := by
  refine (run.trackReleasedGroup_returns processGroup).mono ?_
  rintro _ ⟨runner, rfl⟩
  exact onward_of rfl rfl rfl id

theorem advances_trackReleasedGroups (run : AwgHelperRun) (groups : List ℤ) :
    run.Advances (run.trackReleasedGroups groups) := by
  induction groups generalizing run with
  | nil => exact .refl run
  | cons processGroup groups ih =>
    exact (run.advances_trackReleasedGroup processGroup).andThen fun run₁ => ih run₁

theorem advances_detachStalledGroupCleanup (run : AwgHelperRun) (s : Supervisor) :
    run.Advances (run.detachStalledGroupCleanup s) := by
  unfold detachStalledGroupCleanup
  refine Advances.after fun detached => ?_
  exact (run.advances_trackReleasedGroups detached.1).andThen fun run₁ =>
    onward_of rfl rfl rfl id

theorem advances_cleanLeftGroups (run : AwgHelperRun) : run.Advances run.cleanLeftGroups := by
  have hfailed : run.Onward
      (if run.stopReason = RunStopReason.none then { run with helperIoFailed := true }
        else run) := by
    split
    · exact onward_of rfl rfl rfl fun _ => .inr (.inr rfl)
    · exact .refl run
  unfold cleanLeftGroups
  refine Advances.since ?_ hfailed
  refine (advances_beginSupervisorCleanup _ .kill).andThen fun run₁ => ?_
  refine (advances_refreshSupervisorCleanup run₁).andThen fun run₂ => ?_
  split
  · refine Advances.after fun now => ?_
    split
    · split
      · exact advances_detachStalledGroupCleanup run₂ _
      · exact .refl run₂
    · exact .refl run₂
  · exact .refl run₂

/-- A run with groups that are left is no success. -/
theorem cleanLeftGroups_doomed (run : AwgHelperRun) : run.cleanLeftGroups.Returns Doomed := by
  have hdoomed : Doomed
      (if run.stopReason = RunStopReason.none then { run with helperIoFailed := true }
        else run) := by
    split
    · exact .inr (.inr rfl)
    · exact .inl ‹_›
  unfold cleanLeftGroups
  refine Prog.Returns.bind ((advances_beginSupervisorCleanup _ .kill).mono fun _ h =>
    h.doomed hdoomed) fun run₁ h₁ => ?_
  refine Prog.Returns.bind ((advances_refreshSupervisorCleanup run₁).mono fun _ h => h.doomed h₁)
    fun run₂ h₂ => ?_
  split
  · refine (Prog.returns_any _).bind fun now _ => ?_
    split
    · split
      · exact (advances_detachStalledGroupCleanup run₂ _).mono fun _ h => h.doomed h₂
      · exact h₂
    · exact h₂
  · exact h₂

theorem advances_finalizeRelease (run : AwgHelperRun) (s : Supervisor) :
    run.Advances (run.finalizeRelease s) := by
  unfold AwgHelperRun.finalizeRelease
  split
  · refine Advances.after fun finalized => ?_
    dsimp only
    split
    · exact onward_of rfl rfl rfl id
    · exact Advances.since (advances_trackReleasedGroup _ _) (onward_of rfl rfl rfl id)
  · exact onward_of rfl rfl rfl id

theorem advances_completeClosed (run : AwgHelperRun) (s : Supervisor) :
    run.Advances (run.completeClosed s) := by
  refine (run.advances_finalizeRelease s).andThen fun run₁ => ?_
  split
  · exact onward_of rfl rfl rfl id
  · exact run₁.advances_cleanLeftGroups

theorem advances_completeHelperSupervision (run : AwgHelperRun) :
    run.Advances run.completeHelperSupervision := by
  unfold completeHelperSupervision
  split
  · exact .refl run
  split
  · exact onward_of rfl rfl rfl id
  split
  · exact run.advances_completeClosed _
  refine Advances.after fun now => ?_
  split
  · exact onward_of rfl rfl rfl id
  split
  · exact .refl run
  · refine (run.advances_beginStop .ioFailure).andThen fun run₁ => ?_
    exact Advances.after fun s => Advances.since (advances_completeClosed _ _)
      (onward_of rfl rfl rfl fun _ => .inr (.inr rfl))

/-! ## Input, output and the supervisor -/

/-- An outcome that is there is of a run that has gone on. -/
abbrev AdvancesTo (run : AwgHelperRun) (p : ServiceM (Option AwgHelperRun)) : Prop :=
  p.Returns fun ran => ∀ run', ran = some run' → run.Onward run'

theorem Advances.toSome {p : ServiceM AwgHelperRun} (h : run.Advances p) :
    run.AdvancesTo (some <$> p) := by
  refine Prog.Returns.bind h fun run₁ h₁ => ?_
  rintro run' ⟨⟩
  exact h₁

theorem advancesTo_some (h : run.Onward run') : run.AdvancesTo (return some run') := by
  rintro _ ⟨⟩
  exact h

theorem advances_pollSupervisor (run : AwgHelperRun) (rounds : ℕ) :
    run.AdvancesTo (run.pollSupervisor rounds) := by
  unfold pollSupervisor
  split
  · split
    · exact run.advances_failHelperIo.toSome
    · exact advancesTo_some (.refl run)
  · refine (Prog.returns_any _).bind fun polled _ => ?_
    split
    · exact fun _ h => absurd h.symm (Option.some_ne_none _)
    · dsimp only
      split
      · exact Advances.toSome (.since (advances_failHelperIo _) (onward_of rfl rfl rfl id))
      · exact advancesTo_some (onward_of rfl rfl rfl id)

theorem advances_writeHelperInput (run : AwgHelperRun) : run.Advances run.writeHelperInput := by
  unfold writeHelperInput
  split
  · refine Advances.after fun result => ?_
    split
    · exact .refl run
    · exact onward_of rfl rfl rfl id
    · exact run.advances_failHelperIo
  · exact .refl run

theorem advances_readHelperOutput (run : AwgHelperRun) : run.Advances run.readHelperOutput := by
  unfold readHelperOutput
  split
  · refine Advances.after fun read => ?_
    dsimp only
    split
    · exact onward_of rfl rfl rfl id
    · exact onward_of rfl rfl rfl id
    · exact Advances.since (advances_failHelperIo _) (onward_of rfl rfl rfl id)
  · exact .refl run

/-! ## The end of the helper -/

/-- A helper that was lost is no success. -/
theorem helperLost_returns (run : AwgHelperRun) :
    run.helperLost.Returns fun run' => run.Onward run' ∧ run'.Doomed := by
  unfold helperLost
  refine (advances_beginSupervisorCleanup _ .kill).bind fun run₁ h₁ => ?_
  have hlost : run.Onward run₁.closePipes ∧ run₁.Doomed := by
    refine ⟨?_, h₁.doomed (.inr (.inr rfl))⟩
    refine Onward.trans ?_ (h₁.trans ?_)
    · exact onward_of rfl rfl rfl fun _ => .inr (.inr rfl)
    · exact onward_of rfl rfl rfl id
  exact hlost

theorem helperHasExited_onward (run : AwgHelperRun) :
    run.helperHasExited.Returns fun exited => run.Onward exited.2 := by
  have hlost : (Prod.mk false <$> run.helperLost).Returns fun exited => run.Onward exited.2 :=
    run.helperLost_returns.bind fun _ h => h.1
  intro state
  cases state with
  | exited | running => exact .refl run
  | noChild => exact hlost
  | failed =>
    intro waited
    cases waited with
    | reaped status => exact onward_of rfl rfl rfl id
    | noChild => exact hlost
    | running | failed =>
      show Prog.Returns _ (if _ then _ else _)
      split
      · exact run.markFailed.advances_failHelperIo.bind fun _ h =>
          run.onward_markFailed.trans h
      · exact run.onward_markFailed

theorem observeExit_onward (run : AwgHelperRun) :
    run.observeExit.Returns fun exited => run.Onward exited.2 := by
  unfold observeExit
  split
  · exact .refl run
  · exact run.helperHasExited_onward

theorem advances_reapHelper (run : AwgHelperRun) : run.Advances run.reapHelper := by
  unfold reapHelper
  split
  · exact onward_of rfl rfl rfl fun _ => .inr (.inr rfl)
  refine Advances.after fun waited => ?_
  split
  · exact onward_of rfl rfl rfl id
  · exact onward_of rfl rfl rfl fun _ => .inr (.inr rfl)
  · exact onward_of rfl rfl rfl fun _ => .inr (.inr rfl)
  · exact onward_of rfl rfl rfl fun _ => .inr (.inr rfl)

theorem detachStalledHelper_returns (run : AwgHelperRun) :
    run.detachStalledHelper.Returns fun run' =>
      run.Onward run' ∧ (run.helperReaped = false → run'.Doomed) := by
  unfold detachStalledHelper
  split
  · rename_i hreaped
    exact ⟨.refl run, fun h => absurd (h.symm.trans hreaped) Bool.false_ne_true⟩
  · dsimp only
    split
    · exact ⟨onward_of rfl rfl rfl fun _ => .inr (.inr rfl), fun _ => .inr (.inr rfl)⟩
    · exact (Prog.returns_any _).bind fun _ _ =>
        ⟨onward_of rfl rfl rfl fun _ => .inr (.inr rfl), fun _ => .inr (.inr rfl)⟩

/-! ## The timer -/

theorem advances_forwardTimeout (run : AwgHelperRun) (exited : Bool) (now : ℤ) :
    run.Advances (run.forwardTimeout exited now) := by
  unfold forwardTimeout
  split
  · exact Advances.after fun _ => onward_of rfl rfl rfl fun _ => .inr (.inl rfl)
  · exact .refl run

theorem advances_cleanupTimeout (run : AwgHelperRun) (exited : Bool) (now : ℤ) :
    run.Advances (run.cleanupTimeout exited now) := by
  unfold cleanupTimeout
  split
  · exact run.advances_beginStop .timeout
  · exact .refl run

theorem advances_channelTimeout (run : AwgHelperRun) (exited : Bool) (now : ℤ) :
    run.Advances (run.channelTimeout exited now) := by
  unfold channelTimeout
  split
  · split
    · exact onward_of rfl rfl rfl id
    split
    · exact run.advances_failHelperIo
    · exact .refl run
  · exact .refl run

theorem advances_forceKill (run : AwgHelperRun) (now : ℤ) : run.Advances (run.forceKill now) := by
  unfold forceKill
  split
  · split
    · refine Advances.after fun _ => (run.advances_beginSupervisorCleanup .term).andThen ?_
      exact fun run₁ => onward_of rfl rfl rfl id
    split
    · refine Advances.after fun _ => (run.advances_beginSupervisorCleanup .kill).andThen ?_
      exact fun run₁ => onward_of rfl rfl rfl id
    · exact .refl run
  · exact .refl run

theorem advances_enforceDeadlines (run : AwgHelperRun) (exited : Bool) (now : ℤ) :
    run.Advances (run.enforceDeadlines exited now) :=
  (run.advances_cleanupTimeout exited now).andThen fun run₁ =>
    (run₁.advances_channelTimeout exited now).andThen fun run₂ => run₂.advances_forceKill now

theorem advances_reapOrDetach (run : AwgHelperRun) (rounds : ℕ) (exited : Bool) (now : ℤ) :
    run.AdvancesTo (run.reapOrDetach rounds exited now) := by
  unfold reapOrDetach
  split
  · refine (run.advances_pollSupervisor rounds).bind fun polled h => ?_
    cases polled with
    | none => exact fun _ h => absurd h.symm (Option.some_ne_none _)
    | some run₁ => exact Advances.toSome (.since run₁.advances_reapHelper (h run₁ rfl))
  split
  · exact Advances.toSome (run.detachStalledHelper_returns.mono fun _ h => h.1)
  · exact advancesTo_some (.refl run)

/-! ## The end of a run -/

/-- The result is sent where none was. -/
theorem publishResult_result (run : AwgHelperRun) :
    run.publishResult.result = some (run.result.getD run.resultOf) ∧
      run.publishResult = { run with result := run.publishResult.result } := by
  unfold publishResult
  split
  · rename_i hsome
    obtain ⟨result, hresult⟩ := Option.isSome_iff_exists.mp hsome
    exact ⟨by rw [hresult]; rfl, rfl⟩
  · rename_i hnone
    simp [Option.not_isSome_iff_eq_none.mp hnone]

theorem onward_publishResult (hreport : run.profileReport = true) :
    run.Onward run.publishResult := by
  obtain ⟨hresult, hsame⟩ := run.publishResult_result
  rw [hsame]
  refine ⟨rfl, id, fun result h => ?_, fun h => ?_, rfl⟩
  · show run.publishResult.result = some result
    rw [hresult, h]
    rfl
  · exact absurd (hreport.symm.trans h) (Ne.symm Bool.false_ne_true)

/-- The run that `finish_run` leaves: its result has been sent. -/
def Finishes (run run' : AwgHelperRun) : Prop :=
  ∃ runner, run' =
    { run with runner, result := some (run.result.getD run.resultOf), finished := true }

theorem finishRun_finishes (run : AwgHelperRun) : run.finishRun.Returns run.Finishes := by
  obtain ⟨hresult, hsame⟩ := run.publishResult_result
  have hend (runner : HelperRunner) : run.Finishes
      { run with runner, result := some (run.result.getD run.resultOf), finished := true } :=
    ⟨runner, rfl⟩
  unfold finishRun
  rw [hsame, hresult]
  dsimp only
  split
  · exact (Prog.returns_any _).bind fun runner _ => (Prog.returns_any _).bind fun pending _ =>
      hend _
  · refine (Prog.returns_any _).bind fun detached _ => (Prog.returns_any _).bind fun _ _ => ?_
    exact (Prog.returns_any _).bind fun runner _ => (Prog.returns_any _).bind fun pending _ =>
      hend _

/-- How a run that is not finished goes on: to one that is not, or to its end. -/
def Progresses (run run' : AwgHelperRun) : Prop :=
  run.Onward run' ∨ ∃ last, run.Onward last ∧ last.mayFinish = true ∧ last.Finishes run'

theorem Onward.progresses (h : run.Onward run') (h' : run'.Progresses run'') :
    run.Progresses run'' :=
  h'.imp h.trans fun ⟨last, hlast, hend⟩ => ⟨last, h.trans hlast, hend⟩

theorem advances_completeReaped (run : AwgHelperRun) : run.Advances run.completeReaped := by
  unfold completeReaped
  split
  · exact run.advances_completeHelperSupervision
  · exact .refl run

theorem completePoll_progresses (run : AwgHelperRun) (now : ℤ) :
    (run.completePoll now).Returns run.Progresses := by
  refine run.advances_completeReaped.bind fun run₁ h₁ => ?_
  have hinput : run₁.Onward (if run₁.helperReaped = true ∧ run₁.helperInputDone = false then
      { run₁ with helperIoFailed := true, stdinOpen := false, helperInputDone := true }
      else run₁) := by
    split
    · exact onward_of rfl rfl rfl fun _ => .inr (.inr rfl)
    · exact .refl run₁
  refine (advances_readHelperOutput _).bind fun run₂ h₂ => ?_
  have h := (h₁.trans hinput).trans h₂
  split
  · rename_i hready
    exact run₂.finishRun_finishes.mono fun run' hend => .inr ⟨run₂, h, hready, hend⟩
  split
  · rename_i hlate
    exact .inl (h.trans (onward_publishResult hlate.1))
  · exact .inl h

/-- An outcome that is there is of a run that has progressed. -/
abbrev ProgressesTo (run : AwgHelperRun) (p : ServiceM (Option AwgHelperRun)) : Prop :=
  p.Returns fun ran => ∀ run', ran = some run' → run.Progresses run'

theorem progresses_helperPollCb (run : AwgHelperRun) (rounds : ℕ) :
    run.ProgressesTo (run.helperPollCb rounds) := by
  refine run.advances_writeHelperInput.bind fun run₁ h₁ => ?_
  refine run₁.advances_readHelperOutput.bind fun run₂ h₂ => ?_
  refine run₂.observeExit_onward.bind fun observed h₃ => ?_
  refine (Prog.returns_any _).bind fun now _ => ?_
  refine (advances_forwardTimeout _ observed.1 now).bind fun run₄ h₄ => ?_
  have h := ((h₁.trans h₂).trans h₃).trans h₄
  refine (run₄.advances_pollSupervisor rounds).bind fun polled h₅ => ?_
  cases polled with
  | none => exact fun _ h => absurd h.symm (Option.some_ne_none _)
  | some run₅ =>
    have h₅ := h.trans (h₅ run₅ rfl)
    refine (run₅.advances_enforceDeadlines observed.1 now).bind fun run₆ h₆ => ?_
    refine (run₆.advances_reapOrDetach rounds observed.1 now).bind fun reaped h₇ => ?_
    cases reaped with
    | none => exact fun _ h => absurd h.symm (Option.some_ne_none _)
    | some run₇ =>
      have h₇ := h₅.trans (h₆.trans (h₇ run₇ rfl))
      refine (run₇.completePoll_progresses now).bind fun run₈ h₈ => ?_
      rintro run' ⟨⟩
      exact h₇.progresses h₈

theorem advances_runnerStop (run : AwgHelperRun) (reason : HelperStopReason) :
    run.Advances (run.runnerStop reason) := by
  refine (run.advances_beginStop _).andThen fun run₁ => ?_
  split
  · rename_i hreport
    exact onward_publishResult hreport.1
  · exact .refl run₁

/-- An event goes on with the run. -/
theorem progresses_onEvent (run : AwgHelperRun) (rounds : ℕ) (event : RunnerEvent) :
    run.ProgressesTo (run.onEvent rounds event) := by
  unfold onEvent
  split
  · rintro run' ⟨⟩
    exact .inl (.refl run)
  cases event with
  | tick => exact run.progresses_helperPollCb rounds
  | stop reason =>
    refine (run.advances_runnerStop reason).bind fun run₁ h => ?_
    rintro run' ⟨⟩
    exact .inl h

/-- Any number of events go on with the run. -/
theorem progresses_onEvents (run : AwgHelperRun) (rounds : ℕ) (events : List RunnerEvent) :
    run.ProgressesTo (run.onEvents rounds events) := by
  induction events generalizing run with
  | nil =>
    rintro run' ⟨⟩
    exact .inl (.refl run)
  | cons event events ih =>
    refine (run.progresses_onEvent rounds event).bind fun ran h => ?_
    cases ran with
    | none => exact fun _ h => absurd h.symm (Option.some_ne_none _)
    | some run₁ =>
      rcases h run₁ rfl with honward | ⟨last, hlast, hready, runner, rfl⟩
      · exact (ih run₁).mono fun _ h' run' hrun' => honward.progresses (h' run' hrun')
      · -- the run is finished, and nothing happens to it any more
        dsimp only
        rw [onEvents_finished rfl]
        rintro run' ⟨⟩
        exact .inr ⟨last, hlast, hready, runner, rfl⟩

/-- What was sent stays what was sent. -/
theorem Progresses.sent (h : run.Progresses run') {result : HelperResult}
    (hresult : run.result = some result) : run'.result = some result := by
  rcases h with h | ⟨last, hlast, -, runner, rfl⟩
  · exact h.sent result hresult
  · show some (last.result.getD last.resultOf) = some result
    rw [hlast.sent result hresult]
    rfl

theorem Progresses.doomed (h : run.Progresses run') (hdoomed : run.Doomed) : run'.Doomed := by
  rcases h with h | ⟨last, hlast, -, runner, rfl⟩
  · exact h.doomed hdoomed
  · exact hlast.doomed hdoomed

/-- A run that is finished has sent its result. -/
theorem Progresses.isSome (h : run.Progresses run') (hopen : run.finished = false)
    (hfinished : run'.finished = true) : run'.result.isSome = true := by
  rcases h with h | ⟨last, -, -, runner, rfl⟩
  · exact absurd (hopen.symm.trans (h.finished.symm.trans hfinished)) Bool.false_ne_true
  · rfl

/-- The result of an operation other than a report is sent by a run that ends, and is a success
only where nothing failed. The input was done by then. -/
theorem Progresses.success (h : run.Progresses run') (hnone : run.result = none)
    (hreport : run.profileReport = false) {result : HelperResult}
    (hresult : run'.result = some result) (hsuccess : result.status = .success) :
    run'.finished = true ∧ run'.helperInputDone = true ∧ run'.effectiveStatus = .success ∧
      ¬ run'.Doomed := by
  rcases h with h | ⟨last, hlast, hready, runner, rfl⟩
  · rw [h.unsent hreport, hnone] at hresult
    exact absurd hresult.symm (Option.some_ne_none _)
  · have hsent : last.resultOf = result := by
      have hget : last.result.getD last.resultOf = result := Option.some.inj hresult
      rwa [hlast.unsent hreport, hnone] at hget
    have heffective : last.effectiveStatus = .success := by
      rw [← resultOf_status (hlast.profileReport.trans hreport), hsent]
      exact hsuccess
    simp only [mayFinish, Bool.and_eq_true] at hready
    exact ⟨rfl, hready.1.1.2, heffective,
      fun hdoomed => effectiveStatus_ne_success hdoomed heffective⟩

end AwgHelperRun

end NmSidebar
