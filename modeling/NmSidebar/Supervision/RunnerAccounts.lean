import NmSidebar.Supervision.Accounts
import NmSidebar.Supervision.Runner

/-!
# Accounts of a run

What holds of a run between its events, with the account of the calls it has made: a group that is
on the account is owned by the supervisor or was handed out, and a group was handed out only where
a helper that exited with success has been reaped.
-/

namespace NmSidebar

open Effects Account Supervisor

namespace AwgHelperRun

/-! ## What is left alone -/

/-- The pipes of the helper are done with. -/
def PipesDone (run : AwgHelperRun) : Prop :=
  run.stdinOpen = false ∧ run.stdoutOpen = false ∧ run.helperInputDone = true ∧
    run.helperOutputDone = true

/-- The run can no longer be reported as a success. -/
def Doomed (run : AwgHelperRun) : Prop :=
  run.stopReason ≠ .none ∨ run.forwardTimeoutSent = true ∨ run.helperIoFailed = true

/-- What a function leaves alone that neither works on the supervisor nor sees the helper's end. -/
structure Follows (run run' : AwgHelperRun) : Prop where
  supervisor : run'.supervisor = run.supervisor
  handedOut : run'.handedOut = run.handedOut
  groupCleanupDone : run'.groupCleanupDone = run.groupCleanupDone
  helperReaped : run'.helperReaped = run.helperReaped
  helperStatus : run'.helperStatus = run.helperStatus
  finished : run'.finished = run.finished
  profileReport : run'.profileReport = run.profileReport
  result : run.profileReport = false → run'.result = run.result
  stopped : run.stopReason ≠ .none → run'.stopReason ≠ .none
  doomed : run.Doomed → run'.Doomed
  pipes : run.PipesDone → run'.PipesDone

theorem Follows.refl (run : AwgHelperRun) : run.Follows run :=
  ⟨rfl, rfl, rfl, rfl, rfl, rfl, rfl, fun _ => rfl, id, id, id⟩

theorem Follows.trans {run run' run'' : AwgHelperRun} (h : run.Follows run')
    (h' : run'.Follows run'') : run.Follows run'' where
  supervisor := h'.supervisor.trans h.supervisor
  handedOut := h'.handedOut.trans h.handedOut
  groupCleanupDone := h'.groupCleanupDone.trans h.groupCleanupDone
  helperReaped := h'.helperReaped.trans h.helperReaped
  helperStatus := h'.helperStatus.trans h.helperStatus
  finished := h'.finished.trans h.finished
  profileReport := h'.profileReport.trans h.profileReport
  result hreport := (h'.result (h.profileReport.trans hreport)).trans (h.result hreport)
  stopped hstop := h'.stopped (h.stopped hstop)
  doomed hdoomed := h'.doomed (h.doomed hdoomed)
  pipes hpipes := h'.pipes (h.pipes hpipes)

variable {run : AwgHelperRun} {l : Account}

theorem follows_markFailed (run : AwgHelperRun) : run.Follows run.markFailed :=
  ⟨rfl, rfl, rfl, rfl, rfl, rfl, rfl, fun _ => rfl, id, id, id⟩

theorem records_signalHelper (run : AwgHelperRun) (signal : Signal) (l : Account) :
    (run.signalHelper signal).Records after (fun _ l' => l' = l) l := by
  unfold signalHelper
  split
  · rfl
  · exact fun _ => rfl

/-- `begin_stop` stops the run. -/
theorem records_beginStop (run : AwgHelperRun) {reason : RunStopReason} (hreason : reason ≠ .none)
    (l : Account) : (run.beginStop reason).Records after (fun run' l' =>
      l' = l ∧ run.Follows run' ∧ run'.stopReason ≠ .none) l := by
  have hstop : (if run.stopReason = .none then reason else run.stopReason) ≠ .none := by
    split
    · exact hreason
    · assumption
  have hfollows : run.Follows { run.closePipes with
      stopReason := if run.stopReason = .none then reason else run.stopReason } :=
    ⟨rfl, rfl, rfl, rfl, rfl, rfl, rfl, fun _ => rfl, fun _ => hstop, fun _ => .inl hstop,
      fun _ => ⟨rfl, rfl, rfl, rfl⟩⟩
  have hdeadline {run : AwgHelperRun} (deadline : ℤ) :
      run.Follows { run with forceKillDeadline := deadline } :=
    ⟨rfl, rfl, rfl, rfl, rfl, rfl, rfl, fun _ => rfl, id, id, id⟩
  unfold beginStop
  dsimp only
  split
  · exact ⟨rfl, hfollows, hstop⟩
  split
  · refine (records_signalHelper _ _ l).bind ?_
    rintro _ _ rfl now
    exact ⟨rfl, hfollows.trans (hdeadline _), hstop⟩
  · intro now
    exact ⟨rfl, hfollows.trans (hdeadline _), hstop⟩

/-- `fail_helper_io` stops the run too. -/
theorem records_failHelperIo (run : AwgHelperRun) (l : Account) :
    run.failHelperIo.Records after (fun run' l' =>
      l' = l ∧ run.Follows run' ∧ run'.stopReason ≠ .none) l := by
  refine (records_beginStop { run with helperIoFailed := true } RunStopReason.noConfusion l).mono ?_
  rintro run' l' ⟨rfl, h, hstop⟩
  have hfailed : run.Follows { run with helperIoFailed := true } :=
    ⟨rfl, rfl, rfl, rfl, rfl, rfl, rfl, fun _ => rfl, id, fun _ => .inr (.inr rfl), id⟩
  exact ⟨rfl, hfailed.trans h, hstop⟩

theorem records_setGroupCleanupDeadline (run : AwgHelperRun) (signal : Signal) (l : Account) :
    (run.setGroupCleanupDeadline signal).Records after
      (fun run' l' => l' = l ∧ run.Follows run') l := by
  unfold setGroupCleanupDeadline
  split
  · exact fun now => ⟨rfl, rfl, rfl, rfl, rfl, rfl, rfl, rfl, fun _ => rfl, id, id, id⟩
  · exact ⟨rfl, .refl run⟩

/-- Only the runner keeps track of a released group. -/
theorem trackReleasedGroup_returns (run : AwgHelperRun) (processGroup : ℤ) :
    (run.trackReleasedGroup processGroup).Returns fun run' =>
      ∃ runner, run' = { run with runner } := by
  rintro ⟨-, last⟩
  cases last with
  | running => exact ⟨_, rfl⟩
  | noChild => exact ⟨_, rfl⟩
  | failed => exact ⟨_, rfl⟩

theorem records_trackReleasedGroup (run : AwgHelperRun) (processGroup : ℤ) (l : Account) :
    (run.trackReleasedGroup processGroup).Records after
      (fun run' l' => l' = l ∧ run.Follows run') l := by
  rintro ⟨reaped, last⟩
  cases last with
  | running => exact ⟨rfl, rfl, rfl, rfl, rfl, rfl, rfl, rfl, fun _ => rfl, id, id, id⟩
  | noChild => exact ⟨rfl, .refl run⟩
  | failed => exact ⟨rfl, follows_markFailed run⟩

theorem records_trackReleasedGroups (run : AwgHelperRun) (groups : List ℤ) (l : Account) :
    (run.trackReleasedGroups groups).Records after
      (fun run' l' => l' = l ∧ run.Follows run') l := by
  induction groups generalizing run with
  | nil => exact ⟨rfl, .refl run⟩
  | cons processGroup groups ih =>
    refine (records_trackReleasedGroup run processGroup l).bind ?_
    rintro run₁ _ ⟨rfl, h₁⟩
    refine (ih run₁).mono ?_
    rintro run₂ _ ⟨rfl, h₂⟩
    exact ⟨rfl, h₁.trans h₂⟩

theorem records_writeHelperInput (run : AwgHelperRun) (l : Account) :
    run.writeHelperInput.Records after (fun run' l' => l' = l ∧ run.Follows run') l := by
  unfold writeHelperInput
  split
  · intro result
    cases result with
    | «open» => exact ⟨rfl, .refl run⟩
    | done =>
      exact ⟨rfl, rfl, rfl, rfl, rfl, rfl, rfl, rfl, fun _ => rfl, id, id,
        fun h => ⟨rfl, h.2.1, rfl, h.2.2.2⟩⟩
    | failed => exact (run.records_failHelperIo l).mono fun _ _ h => ⟨h.1, h.2.1⟩
  · exact ⟨rfl, .refl run⟩

theorem records_readHelperOutput (run : AwgHelperRun) (l : Account) :
    run.readHelperOutput.Records after (fun run' l' => l' = l ∧ run.Follows run') l := by
  unfold readHelperOutput
  split
  · rintro ⟨output, result⟩
    have hread : run.Follows { run with helperOutput := run.helperOutput ++ output } :=
      ⟨rfl, rfl, rfl, rfl, rfl, rfl, rfl, fun _ => rfl, id, id, id⟩
    cases result with
    | «open» => exact ⟨rfl, hread⟩
    | done =>
      exact ⟨rfl, rfl, rfl, rfl, rfl, rfl, rfl, rfl, fun _ => rfl, id, id,
        fun h => ⟨h.1, rfl, h.2.2.1, rfl⟩⟩
    | failed =>
      refine (records_failHelperIo _ l).mono ?_
      rintro run' l' ⟨rfl, h, -⟩
      exact ⟨rfl, hread.trans h⟩
  · exact ⟨rfl, .refl run⟩

theorem records_cleanupTimeout (run : AwgHelperRun) (exited : Bool) (now : ℤ) (l : Account) :
    (run.cleanupTimeout exited now).Records after
      (fun run' l' => l' = l ∧ run.Follows run') l := by
  unfold cleanupTimeout
  split
  · exact (run.records_beginStop RunStopReason.noConfusion l).mono fun _ _ h => ⟨h.1, h.2.1⟩
  · exact ⟨rfl, .refl run⟩

theorem records_channelTimeout (run : AwgHelperRun) (exited : Bool) (now : ℤ) (l : Account) :
    (run.channelTimeout exited now).Records after
      (fun run' l' => l' = l ∧ run.Follows run') l := by
  unfold channelTimeout
  split
  · split
    · exact ⟨rfl, rfl, rfl, rfl, rfl, rfl, rfl, rfl, fun _ => rfl, id, id, id⟩
    split
    · exact (run.records_failHelperIo l).mono fun _ _ h => ⟨h.1, h.2.1⟩
    · exact ⟨rfl, .refl run⟩
  · exact ⟨rfl, .refl run⟩

/-- A report may be published before its run is over. -/
theorem follows_publishResult (hreport : run.profileReport = true) :
    run.Follows run.publishResult := by
  unfold publishResult
  split
  · exact .refl run
  · exact ⟨rfl, rfl, rfl, rfl, rfl, rfl, rfl,
      fun h => absurd (hreport.symm.trans h) Bool.noConfusion, id, id, id⟩

end AwgHelperRun

/-! ## What the changes of the supervisor keep -/

namespace Supervisor

/-- No group is owned, and none can be registered any more. -/
def Emptied (s : Supervisor) : Prop :=
  s.ownedGroups = [] ∧ (s.cleanupStarted = true ∨ s.channelClosed = true)

/-- No release is pending, and none will be. -/
def Unreleasable (s : Supervisor) : Prop :=
  s.allowRelease = false ∧ ∀ group ∈ s.ownedGroups, group.pendingRelease = false

variable {allowed : SupervisionType → Prop} {s s' : Supervisor}

/-- What a change does not take back. -/
structure Final (s s' : Supervisor) : Prop where
  cleanupStarted : s.cleanupStarted = true → s'.cleanupStarted = true
  channelClosed : s.channelClosed = true → s'.channelClosed = true
  failed : s.failed = true → s'.failed = true

theorem Change.final (h : Change allowed s s') : Final s s' := by
  cases h with
  | stopped failed channelClosed hfailed hclosed => exact ⟨id, hclosed, hfailed⟩
  | cleanupBegun => exact ⟨fun _ => rfl, id, id⟩
  | reaped | registered | unregistered | terminating | released | withdrawn | releaseDisabled
  | cleaned => exact ⟨id, id, id⟩

theorem Changes.final (h : Changes allowed s s') : Final s s' := by
  induction h with
  | refl => exact ⟨id, id, id⟩
  | tail _ hchange ih =>
    exact ⟨hchange.final.cleanupStarted ∘ ih.cleanupStarted,
      hchange.final.channelClosed ∘ ih.channelClosed, hchange.final.failed ∘ ih.failed⟩

theorem Change.emptied (h : Change allowed s s')
    (hregister : allowed .register → s.cleanupStarted = true) (hs : s.Emptied) : s'.Emptied := by
  have hend : s'.cleanupStarted = true ∨ s'.channelClosed = true :=
    hs.2.imp h.final.cleanupStarted h.final.channelClosed
  have hnone {group : SupervisedGroup} : group ∉ s.ownedGroups := by
    rw [hs.1]
    exact List.not_mem_nil
  cases h with
  | reaped | stopped | cleanupBegun | releaseDisabled => exact ⟨hs.1, hend⟩
  | registered hallowed _ hcleanup =>
    exact absurd ((hregister hallowed).symm.trans hcleanup) Bool.noConfusion
  | unregistered _ h | terminating _ h | released _ h | withdrawn _ h => exact absurd h hnone
  | @cleaned groups _ h =>
    refine ⟨?_, hend⟩
    rw [hs.1] at h
    cases h
    rfl

theorem Changes.emptied (h : Changes allowed s s')
    (hregister : allowed .register → s.cleanupStarted = true) (hs : s.Emptied) : s'.Emptied := by
  induction h with
  | refl => exact hs
  | tail h hchange ih =>
    exact hchange.emptied (fun hallowed => (Changes.final h).cleanupStarted (hregister hallowed)) ih

theorem Change.unreleasable (h : Change allowed s s') (hs : s.Unreleasable) : s'.Unreleasable := by
  have hupdate (processGroup : ℤ) (f : SupervisedGroup → SupervisedGroup)
      (hf : ∀ group, (f group).pendingRelease = false) :
      ∀ group ∈ (s.update processGroup f).ownedGroups, group.pendingRelease = false := by
    intro group hmem
    obtain ⟨group', hmem', ⟨-, rfl⟩ | ⟨-, rfl⟩⟩ := mem_update hmem
    · exact hf group'
    · exact hs.2 _ hmem'
  cases h with
  | reaped | stopped | cleanupBegun => exact hs
  | releaseDisabled => exact ⟨rfl, hs.2⟩
  | registered =>
    refine ⟨hs.1, fun group hmem => ?_⟩
    rcases List.mem_cons.mp hmem with rfl | hmem
    · rfl
    · exact hs.2 group hmem
  | unregistered => exact ⟨hs.1, fun group hmem => hs.2 group (mem_steal hmem).1⟩
  | terminating | withdrawn => exact ⟨hs.1, hupdate _ _ fun _ => rfl⟩
  | released _ _ _ _ _ hrelease => exact absurd (hs.1.symm.trans hrelease) Bool.noConfusion
  | cleaned _ h =>
    refine ⟨hs.1, fun group hmem => ?_⟩
    obtain ⟨group', hmem', -, hpending⟩ := h.pending hmem
    exact hpending.symm.trans (hs.2 group' hmem')

theorem Changes.unreleasable (h : Changes allowed s s') (hs : s.Unreleasable) :
    s'.Unreleasable := by
  induction h with
  | refl => exact hs
  | tail _ hchange ih => exact hchange.unreleasable ih

/-- Polling registers nothing once no group can be registered. -/
theorem poll_emptied (hs : s.Emptied) (rounds : ℕ) :
    (s.poll rounds).Returns fun polled =>
      ∀ handled s', polled = some (handled, s') → s'.Emptied := by
  rcases hs.2 with hcleanup | hclosed
  · refine (s.poll_changes rounds).mono fun polled h handled s' hs' => ?_
    exact Changes.emptied (h handled s' hs') (fun _ => hcleanup) hs
  · refine (poll_closed hclosed rounds).mono fun polled h handled s' hs' => ?_
    obtain ⟨sentinels, rfl⟩ := h handled s' hs'
    exact hs

end Supervisor

end NmSidebar
