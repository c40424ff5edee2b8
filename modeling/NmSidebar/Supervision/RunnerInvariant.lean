import NmSidebar.Supervision.RunnerAccounts

/-!
# The invariant of a run

Every function of the runner keeps the invariant; what a tick or a stop does to it is put together
from these.
-/

namespace NmSidebar

open Effects Account Supervisor

/-- The supervisor that `network_sidebar_awg_supervisor_abort` leaves. -/
def Supervisor.aborted (s : Supervisor) : Supervisor :=
  { s with failed := true, channelClosed := true }

namespace AwgHelperRun

/-! ## The invariant -/

/-- What holds of a run and its supervisor to the end: what is on the account is owned or was handed
out, and a group was handed out only for an `up` run whose helper has been reaped with success. -/
structure Audited (up : Bool) (run : AwgHelperRun) (s : Supervisor) (l : Account) : Prop where
  supervisor : run.supervisor = some s
  kept : s.Kept run.handedOut l.helper l
  asked : l.helper.unasked = false
  plain : up = true → run.profileReport = false
  reaped : run.helperReaped = true → run.helperStatus = .success →
    l.helper.reaped = some (.exited HelperExit.success.code)
  handedOut : run.handedOut.isSome = true →
    run.helperReaped = true ∧ run.helperStatus = .success ∧ s.Emptied ∧ up = true

/-- What holds of a run that is not finished. `piped` says whether the helper has pipes, and
`doomed` is anything after which the run cannot be reported as a success. -/
structure Sound (up piped : Bool) (doomed : Prop) (run : AwgHelperRun) (s : Supervisor)
    (l : Account) : Prop extends Audited up run s l where
  consistent : s.Consistent
  agrees : run.handedOut = none → s.ReleaseAgrees
  unreleasable : up = false → s.Unreleasable
  emptied : run.groupCleanupDone = true → s.Emptied
  cleanup : s.cleanupStarted = true →
    run.helperReaped = true ∨ s.failed = true ∨ run.stopReason ≠ .none
  pipes : piped = false → run.PipesDone
  report : piped = false → run.profileReport = false
  unfinished : run.finished = false
  unpublished : run.profileReport = false → run.result = none
  doomed : doomed → run.Doomed

/-- What holds of a run that is finished. -/
structure Concluded (up : Bool) (doomed : Prop) (run : AwgHelperRun) (s : Supervisor) (l : Account) :
    Prop extends Audited up run s l where
  emptied : s.ownedGroups = []
  ended : run.helperReaped = true
  finished : run.finished = true
  judged : run.profileReport = false →
    ∀ result, run.result = some result → result.status = .success → ¬ doomed

/-- The invariant between the calls of a tick. -/
def Balanced (up piped : Bool) (doomed : Prop) (run : AwgHelperRun) (l : Account) : Prop :=
  ∃ s, run.Sound up piped doomed s l

variable {up piped : Bool} {doomed : Prop} {run run' : AwgHelperRun} {s s' : Supervisor}
  {l l' : Account}

theorem Sound.balanced (h : run.Sound up piped doomed s l) : run.Balanced up piped doomed l :=
  ⟨s, h⟩

theorem Sound.weaken {doomed' : Prop} (h : run.Sound up piped doomed s l)
    (hdoomed : doomed' → doomed) : run.Sound up piped doomed' s l :=
  { h with doomed := fun h' => h.doomed (hdoomed h') }

/-- Before the helper is reaped nothing has been handed out. -/
theorem Audited.handedOut_none (h : run.Audited up s l) (hreaped : run.helperReaped = false) :
    run.handedOut = none := by
  refine Option.not_isSome_iff_eq_none.mp fun hhanded => ?_
  exact absurd (hreaped.symm.trans (h.handedOut hhanded).1) Bool.noConfusion

theorem Sound.follows (h : run.Sound up piped doomed s l) (hf : run.Follows run') :
    run'.Sound up piped doomed s l where
  supervisor := hf.supervisor.trans h.supervisor
  kept := hf.handedOut ▸ h.kept
  asked := h.asked
  plain hup := hf.profileReport.trans (h.plain hup)
  reaped := by
    rw [hf.helperReaped, hf.helperStatus]
    exact h.reaped
  handedOut := by
    rw [hf.handedOut, hf.helperReaped, hf.helperStatus]
    exact h.handedOut
  consistent := h.consistent
  agrees := by
    rw [hf.handedOut]
    exact h.agrees
  unreleasable := h.unreleasable
  emptied := by
    rw [hf.groupCleanupDone]
    exact h.emptied
  cleanup hcleanup := by
    rw [hf.helperReaped]
    exact (h.cleanup hcleanup).imp_right fun hend => hend.imp_right hf.stopped
  pipes hpiped := hf.pipes (h.pipes hpiped)
  report hpiped := hf.profileReport.trans (h.report hpiped)
  unfinished := hf.finished.trans h.unfinished
  unpublished hreport := by
    have hreport : run.profileReport = false := hf.profileReport.symm.trans hreport
    exact (hf.result hreport).trans (h.unpublished hreport)
  doomed hdoomed := hf.doomed (h.doomed hdoomed)

/-- The supervisor has gone on to another state. -/
theorem Sound.supervise {allowed : SupervisionType → Prop} (h : run.Sound up piped doomed s l)
    (hchanges : Supervisor.Changes allowed s s') (hemptied : s.Emptied → s'.Emptied)
    (hkept : s'.KeptListening run.handedOut l.helper l')
    (hcleanup : s'.cleanupStarted = true →
      run.helperReaped = true ∨ s'.failed = true ∨ run.stopReason ≠ .none) :
    { run with supervisor := some s' }.Sound up piped doomed s' l' := by
  obtain ⟨told, hkept, hlistens⟩ := hkept
  obtain rfl := hkept.told
  exact { h with
    supervisor := rfl
    kept := hkept
    asked := hlistens.asked h.asked
    reaped := fun hreaped hstatus => hlistens.reaped.trans (h.reaped hreaped hstatus)
    handedOut := fun hhanded => by
      obtain ⟨hreaped, hstatus, hempty, hup⟩ := h.handedOut hhanded
      exact ⟨hreaped, hstatus, hemptied hempty, hup⟩
    consistent := hchanges.consistent h.consistent
    agrees := fun hnone => hchanges.releaseAgrees h.consistent (h.agrees hnone)
    unreleasable := fun hup => hchanges.unreleasable (h.unreleasable hup)
    emptied := fun hdone => hemptied (h.emptied hdone)
    cleanup := hcleanup }

theorem Sound.aborted (h : run.Sound up piped doomed s l) :
    { run with supervisor := some s.aborted }.Sound up piped doomed s.aborted l := by
  have hchanges : Supervisor.Changes (fun _ => False) s s.aborted :=
    .single (.stopped true true (fun _ => rfl) fun _ => rfl)
  have hkept : s.aborted.Kept run.handedOut l.helper l := h.kept.congr rfl id
  exact h.supervise hchanges (Supervisor.Changes.emptied hchanges fun h => h.elim) hkept.listening
    fun _ => .inr (.inl rfl)

/-- The state of a run after a step of the cleanup. -/
theorem Sound.cleaned (h : run.Sound up piped doomed s l)
    (hchanges : Supervisor.Changes (fun _ => False) s s') (hkept : s'.Kept run.handedOut l.helper l')
    (hcleanup : s'.cleanupStarted = true)
    (hend : run.helperReaped = true ∨ s'.failed = true ∨ run.stopReason ≠ .none) :
    (run.cleaned s').Sound up piped doomed s' l' :=
  { h.supervise hchanges (Supervisor.Changes.emptied hchanges fun h => h.elim) hkept.listening fun _ => hend with
    emptied := fun hempty => ⟨List.isEmpty_iff.mp hempty, .inl hcleanup⟩ }

/-! ## Cleanup of groups -/

theorem records_beginSupervisorCleanup (h : run.Sound up piped doomed s l) (signal : Signal)
    (hend : run.helperReaped = true ∨ run.stopReason ≠ .none) :
    (run.beginSupervisorCleanup signal).Records after (fun run' l' => ∃ s',
      run'.Sound up piped doomed s' l' ∧ s'.cleanupStarted = true ∧
        run'.helperReaped = run.helperReaped) l := by
  refine (run.records_setGroupCleanupDeadline signal l).bind ?_
  rintro run₁ l₁ ⟨rfl, hf⟩
  have h₁ := h.follows hf
  rw [h₁.supervisor]
  have hbegun : s.beginCleanup.Kept run₁.handedOut l₁.helper l₁ := h₁.kept.congr rfl fun _ => rfl
  refine ((kept_signalGroups hbegun rfl signal).and
    (s.beginCleanup.signalGroups_changes (fun _ => False) signal rfl).records).bind ?_
  rintro s₂ l₂ ⟨hkept, hchanges⟩
  have hcleanup := hchanges.final.cleanupStarted rfl
  refine ⟨s₂, h₁.cleaned (hchanges.head (.cleanupBegun s)) hkept hcleanup ?_, hcleanup,
    hf.helperReaped⟩
  exact hend.imp hf.helperReaped.trans fun hstop => .inr (hf.stopped hstop)

theorem records_refreshSupervisorCleanup (h : run.Sound up piped doomed s l)
    (hcleanup : s.cleanupStarted = true) (hreaped : run.helperReaped = true) :
    run.refreshSupervisorCleanup.Records after (fun run' l' => ∃ s',
      run'.Sound up piped doomed s' l' ∧ s'.cleanupStarted = true ∧
        run'.helperReaped = true) l := by
  unfold refreshSupervisorCleanup
  rw [h.supervisor]
  refine ((kept_pollCleanup h.kept).and (s.pollCleanup_changes fun _ => False).records).bind ?_
  rintro s₁ l₁ ⟨hkept, hchanges⟩
  have hcleanup := hchanges.final.cleanupStarted hcleanup
  exact ⟨s₁, h.cleaned hchanges hkept hcleanup (.inl hreaped), hcleanup, hreaped⟩

theorem records_detachStalledGroupCleanup (h : run.Sound up piped doomed s l)
    (hcleanup : s.cleanupStarted = true) (hreaped : run.helperReaped = true) :
    (run.detachStalledGroupCleanup s).Records after (fun run' => run'.Balanced up piped doomed) l := by
  refine ((kept_detachTerminatedGroups h.kept).and
    (s.detachTerminatedGroups_changes fun _ => False).records).bind ?_
  rintro ⟨groups, s₁⟩ l₁ ⟨hkept, hchanges⟩
  refine (run.records_trackReleasedGroups groups l₁).bind ?_
  rintro run₁ _ ⟨rfl, hf⟩
  have h₁ := h.follows hf
  refine (h₁.cleaned hchanges ?_ (hchanges.final.cleanupStarted hcleanup) (.inl ?_)).balanced
  · rw [hf.handedOut]
    exact hkept
  · exact hf.helperReaped.trans hreaped

/-- A run with groups that are left is doomed. -/
theorem records_cleanLeftGroups (h : run.Sound up piped doomed s l)
    (hreaped : run.helperReaped = true) :
    run.cleanLeftGroups.Records after (fun run' => run'.Balanced up piped True) l := by
  have hfailed : (if run.stopReason = .none then { run with helperIoFailed := true } else run).Sound
      up piped True s l ∧ (if run.stopReason = .none then { run with helperIoFailed := true }
        else run).helperReaped = true := by
    split
    · refine ⟨{ h.follows (?_ : run.Follows { run with helperIoFailed := true }) with
        doomed := fun _ => .inr (.inr rfl) }, hreaped⟩
      exact ⟨rfl, rfl, rfl, rfl, rfl, rfl, rfl, fun _ => rfl, id, fun _ => .inr (.inr rfl), id⟩
    · rename_i hstop
      exact ⟨{ h with doomed := fun _ => .inl hstop }, hreaped⟩
  refine (records_beginSupervisorCleanup hfailed.1 .kill (.inl hfailed.2)).bind ?_
  rintro run₁ l₁ ⟨s₁, h₁, hcleanup₁, hreaped₁⟩
  have hreaped₁ := hreaped₁.trans hfailed.2
  refine (records_refreshSupervisorCleanup h₁ hcleanup₁ hreaped₁).bind ?_
  rintro run₂ l₂ ⟨s₂, h₂, hcleanup₂, hreaped₂⟩
  split
  · intro now
    dsimp only
    rw [h₂.supervisor]
    show Prog.Records _ (if _ then _ else _) _ _
    split
    · exact records_detachStalledGroupCleanup h₂ hcleanup₂ hreaped₂
    · exact h₂.balanced
  · exact h₂.balanced

/-! ## The end of the supervision -/

theorem finalizeRelease_nil (h : s.ownedGroups = []) :
    s.finalizeRelease = pure (none, s) := by
  unfold Supervisor.finalizeRelease
  rw [h]

/-- A group is handed out once the helper is reaped with success and the channel is closed. -/
theorem records_finalizeRelease (h : run.Sound up piped doomed s l)
    (hreaped : run.helperReaped = true) (hclosed : s.channelClosed = true) :
    (run.finalizeRelease s).Records after (fun run' l' => ∃ s', run'.Sound up piped doomed s' l' ∧
      run'.helperReaped = true ∧ s'.channelClosed = true ∧
        (s' = s ∨ ∃ group, s.ownedGroups = [group] ∧ group.pendingRelease = true)) l := by
  have hsame : { run with supervisor := some s } = run := by rw [← h.supervisor]
  have hunchanged : ∃ s', { run with supervisor := some s }.Sound up piped doomed s' l ∧
      run.helperReaped = true ∧ s'.channelClosed = true ∧
        (s' = s ∨ ∃ group, s.ownedGroups = [group] ∧ group.pendingRelease = true) :=
    ⟨s, hsame ▸ h, hreaped, hclosed, .inl rfl⟩
  unfold AwgHelperRun.finalizeRelease
  split
  · rename_i hclean
    simp only [cleanExit, Bool.and_eq_true, decide_eq_true_eq] at hclean
    obtain ⟨⟨⟨-, -⟩, hstatus⟩, -⟩ := hclean
    by_cases hhanded : run.handedOut = none
    · have hkept := h.kept
      rw [hhanded] at hkept
      refine ((records_of_unaccounted s.uses_finalizeRelease).and
        ((kept_finalizeRelease hkept).and s.finalizeRelease_returns.records)).bind ?_
      rintro finalized l₁ ⟨rfl, hkept₁, rfl | ⟨group, hgroups, hcleanup, hpending, -, -, rfl⟩⟩
      · exact hunchanged
      · show Prog.Records _ (trackReleasedGroup _ group.processGroup) _ _
        refine (records_trackReleasedGroup _ group.processGroup l₁).mono ?_
        rintro run₂ l₂ ⟨rfl, hf⟩
        have hempty : (s.steal group.processGroup).Emptied := by
          refine ⟨?_, .inr hclosed⟩
          simp [steal, hgroups]
        have hup : up = true := by
          by_contra hup
          have hquiet := (h.unreleasable (Bool.eq_false_iff.mpr hup)).2 group
          rw [hgroups] at hquiet
          exact absurd ((hquiet (List.mem_singleton_self group)).symm.trans hpending) Bool.noConfusion
        refine ⟨s.steal group.processGroup, Sound.follows ?_ hf, hf.helperReaped.trans hreaped,
          hclosed, .inr ⟨group, hgroups, hpending⟩⟩
        exact {
          supervisor := rfl
          kept := hkept₁
          asked := h.asked
          plain := h.plain
          reaped := h.reaped
          handedOut := fun _ => ⟨hreaped, hstatus, hempty, hup⟩
          consistent := h.consistent.steal _
          agrees := fun hnone => absurd hnone (Option.some_ne_none _)
          unreleasable := fun hno => absurd (hup.symm.trans hno) Bool.noConfusion
          emptied := fun _ => hempty
          cleanup := h.cleanup
          pipes := h.pipes
          report := h.report
          unfinished := h.unfinished
          unpublished := h.unpublished
          doomed := h.doomed }
    · -- nothing is owned once a group was handed out
      have hnone := (h.handedOut (Option.isSome_iff_ne_none.mpr hhanded)).2.2.1.1
      rw [finalizeRelease_nil hnone]
      exact hunchanged
  · exact hunchanged

/-- The supervision is over, or the groups that are left are killed and the run is doomed. A group
whose release is not pending is left. -/
theorem records_completeClosed (h : run.Sound up piped doomed s l)
    (hreaped : run.helperReaped = true) (hclosed : s.channelClosed = true) :
    (run.completeClosed s).Records after (fun run' => run'.Balanced up piped
      (doomed ∨ ∃ group ∈ s.ownedGroups, group.pendingRelease = false)) l := by
  refine (records_finalizeRelease h hreaped hclosed).bind ?_
  rintro run₁ l₁ ⟨s₁, h₁, hreaped₁, hclosed₁, howned⟩
  have hall : run₁.supervisor.all (·.groupsEmpty) = s₁.groupsEmpty := by
    rw [h₁.supervisor]
    rfl
  rw [hall]
  split
  · rename_i hempty
    have hempty : s₁.ownedGroups = [] := List.isEmpty_iff.mp hempty
    refine ⟨s₁, { h₁ with emptied := fun _ => ⟨hempty, .inr hclosed₁⟩, doomed := ?_ }⟩
    rintro (hdoomed | ⟨group, hmem, hquiet⟩)
    · exact h₁.doomed hdoomed
    · rcases howned with rfl | ⟨group', hgroups, hpending⟩
      · rw [hempty] at hmem
        cases hmem
      · rw [hgroups] at hmem
        rw [List.mem_singleton.mp hmem] at hquiet
        exact absurd (hquiet.symm.trans hpending) Bool.noConfusion
  · refine (records_cleanLeftGroups h₁ hreaped₁).mono ?_
    rintro run₂ l₂ ⟨s₂, h₂⟩
    exact (h₂.weaken fun _ => trivial).balanced

theorem records_completeHelperSupervision (h : run.Sound up piped doomed s l) :
    run.completeHelperSupervision.Records after (fun run' => run'.Balanced up piped doomed) l := by
  unfold completeHelperSupervision
  split
  · exact h.balanced
  rename_i hopen
  have hreaped : run.helperReaped = true := by
    simpa using (not_or.mp hopen).1
  rw [h.supervisor]
  dsimp only
  split
  · rename_i hclosed
    refine (records_completeClosed h hreaped hclosed).mono ?_
    rintro run₁ l₁ ⟨s₁, h₁⟩
    exact (h₁.weaken .inl).balanced
  · intro now
    show Prog.Records _ (if _ then _ else _) _ _
    split
    · refine Sound.balanced (h.follows ?_)
      exact ⟨h.supervisor.symm, rfl, rfl, rfl, rfl, rfl, rfl, fun _ => rfl, id, id, id⟩
    split
    · exact h.balanced
    · refine (run.records_beginStop RunStopReason.noConfusion l).bind ?_
      rintro run₁ l₁ ⟨rfl, hf, -⟩
      have h₁ := h.follows hf
      intro _
      have h₂ := h₁.aborted
      have hfailed : { run₁ with supervisor := some s.aborted }.Follows
          { run₁ with supervisor := some s.aborted, helperIoFailed := true } :=
        ⟨rfl, rfl, rfl, rfl, rfl, rfl, rfl, fun _ => rfl, id, fun _ => .inr (.inr rfl), id⟩
      show Prog.Records _ (completeClosed { run₁ with
        supervisor := some s.aborted, helperIoFailed := true } s.aborted) _ _
      refine (records_completeClosed (h₂.follows hfailed) ?_ rfl).mono ?_
      · exact hf.helperReaped.trans hreaped
      · rintro run₃ l₃ ⟨s₃, h₃⟩
        exact (h₃.weaken .inl).balanced

/-! ## Polling the supervisor -/

/-- A poll that did not end leaves nothing to say. -/
def BalancedAfter (up piped : Bool) (doomed : Prop) (run : Option AwgHelperRun) (l : Account) :
    Prop :=
  ∀ run', run = some run' → run'.Balanced up piped doomed l

theorem Balanced.after (h : run.Balanced up piped doomed l) :
    BalancedAfter up piped doomed (some run) l := by
  rintro run' ⟨⟩
  exact h

theorem balancedAfter_none : BalancedAfter up piped doomed none l :=
  fun _ h => nomatch h

theorem records_pollSupervisor (h : run.Sound up piped doomed s l) (rounds : ℕ) :
    (run.pollSupervisor rounds).Records after (BalancedAfter up piped doomed) l := by
  unfold pollSupervisor
  rw [h.supervisor]
  refine ((kept_poll h.kept rounds).and (((s.poll_changes rounds).records).and
    ((s.poll_cleanupStarted rounds).records.and
      (Prog.Returns.records (Q := fun polled => s.Emptied → ∀ handled s',
        polled = some (handled, s') → s'.Emptied) ?_)))).bind ?_
  · by_cases hempty : s.Emptied
    · exact (poll_emptied hempty rounds).mono fun _ h _ => h
    · exact (Prog.returns_any _).mono fun _ _ h => absurd h hempty
  rintro polled l₁ ⟨hkept, hchanges, hcleanup, hemptied⟩
  cases polled with
  | none => exact balancedAfter_none
  | some polled =>
    obtain ⟨handled, s₁⟩ := polled
    have h₁ := h.supervise (hchanges handled s₁ rfl) (fun hempty => hemptied hempty handled s₁ rfl)
      (hkept handled s₁ rfl) fun hstarted => by
        rcases hcleanup handled s₁ rfl hstarted with hstarted | hfailed
        · refine (h.cleanup hstarted).imp_right fun hend => hend.imp_left ?_
          exact (Supervisor.Changes.final (hchanges handled s₁ rfl)).failed
        · exact .inr (.inl hfailed)
    dsimp only
    split
    · refine (records_failHelperIo _ l₁).bind ?_
      rintro run₂ _ ⟨rfl, hf, -⟩
      exact (h₁.follows hf).balanced.after
    · exact h₁.balanced.after

/-! ## The end of the helper -/

theorem helperExitOf_code {code : ℕ} {exit : HelperExit} (h : helperExitOf code = some exit) :
    exit.code = code := by
  simpa using List.find?_some h

/-- Success is reported only of a helper that exited with success. -/
theorem reapedStatus_success {profileReport : Bool} {wait : HelperWait}
    (h : reapedStatus profileReport wait = .success) : wait = .exited HelperExit.success.code := by
  unfold reapedStatus at h
  split at h
  · cases h
  · cases h
  · split at h
    · cases h
    · rename_i code exit hexit
      split at h
      · cases h
      · subst h
        exact congrArg HelperWait.exited (helperExitOf_code hexit).symm

theorem Sound.recorded (h : run.Sound up piped doomed s l) (hreaped : run.helperReaped = false)
    (status : Option HelperWait) (howed : l'.owed = l.owed) (hsignalled : l'.signalled = l.signalled)
    (hasked : l'.helper.unasked = l.helper.unasked)
    (hexit : ∀ wait, status = some wait → l'.helper.reaped = some wait) :
    (run.recordHelperReap status).Sound up piped doomed s l' := by
  have hnone := h.handedOut_none hreaped
  exact { h with
    kept := ⟨howed ▸ h.kept.owed, howed ▸ h.kept.killed, hsignalled ▸ h.kept.signalled, rfl⟩
    asked := hasked.trans h.asked
    reaped := fun _ hstatus => by
      cases status with
      | none => cases hstatus
      | some wait =>
        rw [hexit wait rfl]
        exact congrArg some (reapedStatus_success hstatus)
    handedOut := fun hhanded => by
      have hhanded : run.handedOut.isSome = true := hhanded
      rw [hnone] at hhanded
      cases hhanded
    cleanup := fun _ => .inl rfl }

theorem records_helperLost (h : run.Sound up piped doomed s l)
    (hreaped : run.helperReaped = false) :
    run.helperLost.Records after (fun run' => run'.Balanced up piped doomed) l := by
  have hfollows : run.Follows { run.markFailed with
      stopReason := if run.stopReason = .none then .ioFailure else run.stopReason
      helperIoFailed := true } := by
    refine ⟨rfl, rfl, rfl, rfl, rfl, rfl, rfl, fun _ => rfl, fun hstop => ?_, fun _ => .inr (.inr rfl),
      id⟩
    show (if run.stopReason = .none then RunStopReason.ioFailure else run.stopReason) ≠ .none
    rw [if_neg hstop]
    exact hstop
  have h₁ := (h.follows hfollows).recorded hreaped none rfl rfl rfl fun _ h => nomatch h
  refine (records_beginSupervisorCleanup h₁ .kill (.inl rfl)).bind ?_
  rintro run₂ l₂ ⟨s₂, h₂, -⟩
  have hclosed : run₂.Follows run₂.closePipes :=
    ⟨rfl, rfl, rfl, rfl, rfl, rfl, rfl, fun _ => rfl, id, id, fun _ => ⟨rfl, rfl, rfl, rfl⟩⟩
  exact (h₂.follows hclosed).balanced

theorem records_helperHasExited (h : run.Sound up piped doomed s l)
    (hreaped : run.helperReaped = false) :
    run.helperHasExited.Records after (fun exited l' =>
      exited.2.Balanced up piped doomed l' ∧
        (exited.1 = true → exited.2.helperReaped = false)) l := by
  have hlost : (Prod.mk false <$> run.helperLost).Records after (fun exited l' =>
      exited.2.Balanced up piped doomed l' ∧
        (exited.1 = true → exited.2.helperReaped = false)) l :=
    (records_helperLost h hreaped).bind fun _ _ h₁ => ⟨h₁, fun h => nomatch h⟩
  intro state
  cases state with
  | running => exact ⟨h.balanced, fun h => nomatch h⟩
  | exited => exact ⟨h.balanced, fun _ => hreaped⟩
  | noChild => exact hlost
  | failed =>
    intro waited
    cases waited with
    | reaped status =>
      exact ⟨Sound.balanced (h.recorded hreaped (some status) rfl rfl rfl fun _ h => h),
        fun h => nomatch h⟩
    | noChild => exact hlost
    | running | failed =>
      show Prog.Records _ (if _ then _ else _) _ _
      have h₁ := h.follows (follows_markFailed run)
      split
      · refine (records_failHelperIo run.markFailed l).bind ?_
        rintro run₂ l₂ ⟨rfl, hf, -⟩
        exact ⟨(h₁.follows hf).balanced, fun h => nomatch h⟩
      · exact ⟨h₁.balanced, fun h => nomatch h⟩

theorem records_reapHelper (h : run.Sound up piped doomed s l) :
    run.reapHelper.Records after (fun run' => run'.Balanced up piped doomed) l := by
  have hfailed : run.Follows { run.markFailed with helperIoFailed := true } :=
    ⟨rfl, rfl, rfl, rfl, rfl, rfl, rfl, fun _ => rfl, id, fun _ => .inr (.inr rfl), id⟩
  unfold reapHelper
  split
  · exact (h.follows hfailed).balanced
  rename_i hreaped
  have hreaped := Bool.eq_false_iff.mpr hreaped
  intro waited
  cases waited with
  | reaped status =>
    exact Sound.balanced (h.recorded hreaped (some status) rfl rfl rfl fun _ h => h)
  | failed => exact (h.follows hfailed).balanced
  | running | noChild =>
    exact ((h.follows hfailed).recorded hreaped none rfl rfl rfl fun _ h => nomatch h).balanced

theorem records_detachStalledHelper (h : run.Sound up piped doomed s l) :
    run.detachStalledHelper.Records after (fun run' => run'.Balanced up piped doomed) l := by
  unfold detachStalledHelper
  split
  · exact h.balanced
  rename_i hreaped
  have hfollows : run.Follows { run.closePipes with
      runner := { run.runner with
        pendingChildReaps := run.helperPid :: run.runner.pendingChildReaps }
      helperIoFailed := true } :=
    ⟨rfl, rfl, rfl, rfl, rfl, rfl, rfl, fun _ => rfl, id, fun _ => .inr (.inr rfl),
      fun _ => ⟨rfl, rfl, rfl, rfl⟩⟩
  have h₁ := (h.follows hfollows).recorded (Bool.eq_false_iff.mpr hreaped) none rfl rfl rfl
    fun _ h => absurd h.symm (Option.some_ne_none _)
  have hsupervisor : run.closePipes.supervisor = some s := h.supervisor
  dsimp only
  rw [hsupervisor]
  exact fun _ => h₁.aborted.balanced

/-! ## The timer -/

theorem records_forwardTimeout (h : run.Sound up piped doomed s l) (exited : Bool) (now : ℤ) :
    (run.forwardTimeout exited now).Records after (fun run' => run'.Balanced up piped doomed) l := by
  unfold forwardTimeout
  split
  · refine (run.records_signalHelper .term l).bind ?_
    rintro _ l₁ rfl
    have hchanges : Supervisor.Changes (fun _ => False) s s.disableRelease := .single (.releaseDisabled s)
    have hkept : s.disableRelease.Kept run.handedOut l₁.helper l₁ := h.kept.congr rfl id
    have h₁ := h.supervise hchanges (Supervisor.Changes.emptied hchanges fun h => h.elim) hkept.listening
      h.cleanup
    show Balanced up piped doomed { run with
      supervisor := run.supervisor.map (·.disableRelease), forwardTimeoutSent := true } l₁
    rw [h.supervisor]
    refine Sound.balanced (h₁.follows ?_)
    exact ⟨rfl, rfl, rfl, rfl, rfl, rfl, rfl, fun _ => rfl, id, fun _ => .inr (.inl rfl), id⟩
  · exact h.balanced

theorem records_forceKill (h : run.Sound up piped doomed s l) (now : ℤ) :
    (run.forceKill now).Records after (fun run' => run'.Balanced up piped doomed) l := by
  have hforced (run : AwgHelperRun) (requested sent : Bool) (deadline : ℤ) : run.Follows { run with
      helperCleanupKillRequested := requested
      helperForceKillSent := sent
      forceKillDeadline := deadline } :=
    ⟨rfl, rfl, rfl, rfl, rfl, rfl, rfl, fun _ => rfl, id, id, id⟩
  unfold forceKill
  split
  · rename_i hstop
    split
    · refine (run.records_signalHelper .int l).bind ?_
      rintro _ l₁ rfl
      refine (records_beginSupervisorCleanup h .term (.inr hstop.1)).bind ?_
      rintro run₁ l₂ ⟨s₁, h₁, -⟩
      exact Sound.balanced (h₁.follows (hforced run₁ true run₁.helperForceKillSent _))
    split
    · refine (run.records_signalHelper .kill l).bind ?_
      rintro _ l₁ rfl
      refine (records_beginSupervisorCleanup h .kill (.inr hstop.1)).bind ?_
      rintro run₁ l₂ ⟨s₁, h₁, -⟩
      exact Sound.balanced
        (h₁.follows (hforced run₁ run₁.helperCleanupKillRequested true run₁.forceKillDeadline))
    · exact h.balanced
  · exact h.balanced

theorem records_enforceDeadlines (h : run.Sound up piped doomed s l) (exited : Bool) (now : ℤ) :
    (run.enforceDeadlines exited now).Records after
      (fun run' => run'.Balanced up piped doomed) l := by
  refine (run.records_cleanupTimeout exited now l).bind ?_
  rintro run₁ l₁ ⟨rfl, hf₁⟩
  refine (run₁.records_channelTimeout exited now l₁).bind ?_
  rintro run₂ l₂ ⟨rfl, hf₂⟩
  exact records_forceKill ((h.follows hf₁).follows hf₂) now

theorem records_reapOrDetach (h : run.Sound up piped doomed s l) (rounds : ℕ) (exited : Bool)
    (now : ℤ) :
    (run.reapOrDetach rounds exited now).Records after (BalancedAfter up piped doomed) l := by
  unfold reapOrDetach
  split
  · refine (records_pollSupervisor h rounds).bind fun polled l₁ h₁ => ?_
    cases polled with
    | none => exact balancedAfter_none
    | some run₁ =>
      obtain ⟨s₁, h₁⟩ := h₁ run₁ rfl
      exact (records_reapHelper h₁).bind fun run₂ l₂ h₂ => h₂.after
  split
  · exact (records_detachStalledHelper h).bind fun run₁ l₁ h₁ => h₁.after
  · exact h.balanced.after

/-! ## The end of a run -/

theorem effectiveStatus_ne_success (h : run.Doomed) : run.effectiveStatus ≠ .success := by
  unfold effectiveStatus
  generalize hstatus : (if run.helperIoFailed ∧ run.stopReason = .none then
    HelperExit.childSetupFailed else run.helperStatus) = status
  dsimp only
  split
  · exact HelperExit.noConfusion
  split
  · rename_i hrollback
    rcases hrollback with rfl | rfl <;> exact HelperExit.noConfusion
  split
  · exact HelperExit.noConfusion
  rename_i htimeout
  obtain ⟨htimeout, hforward⟩ := not_or.mp htimeout
  split
  · exact HelperExit.noConfusion
  split
  · exact HelperExit.noConfusion
  -- nothing stopped the run, so that its helper's input or output failed
  have hnone : run.stopReason = .none := by
    cases hstop : run.stopReason <;> simp_all
  have hio : run.helperIoFailed = true :=
    (h.resolve_left (not_not.mpr hnone)).resolve_left hforward
  rw [← hstatus, if_pos ⟨hio, hnone⟩]
  exact HelperExit.noConfusion

theorem resultOf_status (hreport : run.profileReport = false) :
    run.resultOf.status = run.effectiveStatus := by
  unfold resultOf
  simp [hreport]

theorem uses_reapSentinels (groups : List SupervisedGroup) :
    (freeSupervisor.reapSentinels groups).Uses Unaccounted := by
  induction groups with
  | nil => trivial
  | cons group groups ih => exact (uses_reapSentinel group).bind fun _ => ih

theorem uses_freeSupervisor (hempty : s.ownedGroups = []) :
    (freeSupervisor s).Uses Unaccounted := by
  unfold freeSupervisor
  rw [if_pos hempty]
  refine Prog.Uses.bind (p := pure s) trivial fun s₁ => ?_
  refine (uses_reapSentinels s₁.ownedGroups).bind fun _ => ?_
  refine s₁.uses_reapRetiredSentinels.bind fun _ => ?_
  split
  · trivial
  · exact ⟨fun _ _ => rfl, fun _ => trivial⟩

theorem uses_detachRetiredSentinels (s : Supervisor) :
    s.detachRetiredSentinels.Uses Unaccounted :=
  s.uses_reapRetiredSentinels.bind fun _ => trivial

theorem detachRetiredSentinels_owned (s : Supervisor) :
    s.detachRetiredSentinels.Returns fun detached => detached.2.ownedGroups = s.ownedGroups := by
  refine s.reapRetiredSentinels_returns.bind fun s₁ hs₁ => ?_
  obtain ⟨sentinels, -, rfl⟩ := hs₁
  rfl

/-- `publish_result` writes the result only. -/
theorem publishResult_eq (run : AwgHelperRun) : ∃ result, run.publishResult = { run with result } ∧
    (run.result = none → result = some run.resultOf) := by
  unfold publishResult
  split
  · rename_i hsome
    exact ⟨run.result, rfl, fun hnone => by simp [hnone] at hsome⟩
  · exact ⟨_, rfl, fun _ => rfl⟩

theorem records_finishRun (h : run.Sound up piped doomed s l)
    (hreaped : run.helperReaped = true) (hdone : run.groupCleanupDone = true) :
    run.finishRun.Records after (fun run' l' => run'.Concluded up doomed s l') l := by
  obtain ⟨result, hpublish, hresult⟩ := publishResult_eq run
  unfold finishRun
  rw [hpublish]
  dsimp only
  rw [h.supervisor]
  dsimp only
  refine ((records_of_unaccounted (uses_detachRetiredSentinels s)).and
    (detachRetiredSentinels_owned s).records).bind ?_
  rintro ⟨sentinels, s₁⟩ l₁ ⟨rfl, howned⟩
  refine (records_of_unaccounted
    (uses_freeSupervisor (howned.trans (h.emptied hdone).1))).bind ?_
  rintro _ l₂ rfl
  refine Prog.Records.bind (p := pure _) (R := fun _ l => l = l₂) rfl ?_
  rintro runner l₃ rfl
  refine (records_of_unaccounted (uses_unreaped runner.pendingChildReaps)).bind ?_
  rintro pending l₄ rfl
  exact {
    supervisor := rfl
    kept := h.kept
    asked := h.asked
    plain := h.plain
    reaped := h.reaped
    handedOut := h.handedOut
    emptied := (h.emptied hdone).1
    ended := hreaped
    finished := rfl
    judged := by
      rintro hreport published hpublished hsuccess hdoomed
      have hreport : run.profileReport = false := hreport
      have hpublished : result = some published := hpublished
      rw [hresult (h.unpublished hreport)] at hpublished
      rw [← Option.some.inj hpublished, resultOf_status hreport] at hsuccess
      exact effectiveStatus_ne_success (h.doomed hdoomed) hsuccess }

/-- What holds of a run after an event. -/
def Accounted (up piped : Bool) (doomed : Prop) (run : Option AwgHelperRun) (l : Account) : Prop :=
  ∀ run', run = some run' →
    run'.Balanced up piped doomed l ∨ ∃ s, run'.Concluded up doomed s l

theorem Balanced.accounted (h : run.Balanced up piped doomed l) :
    Accounted up piped doomed (some run) l := by
  rintro run' ⟨⟩
  exact .inl h

/-- The end of a tick keeps what its supervision leaves. -/
theorem records_completePoll_of (now : ℤ)
    (hcompleted : run.completeReaped.Records after (fun run' => run'.Balanced up piped doomed) l) :
    (run.completePoll now).Records after
      (fun run' => Accounted up piped doomed (some run')) l := by
  refine hcompleted.bind ?_
  rintro run₁ l₁ ⟨s₁, h₁⟩
  have hinput : (if run₁.helperReaped = true ∧ run₁.helperInputDone = false then
      { run₁ with helperIoFailed := true, stdinOpen := false, helperInputDone := true }
      else run₁).Sound up piped doomed s₁ l₁ := by
    split
    · refine h₁.follows ?_
      exact ⟨rfl, rfl, rfl, rfl, rfl, rfl, rfl, fun _ => rfl, id, fun _ => .inr (.inr rfl),
        fun h => ⟨rfl, h.2.1, rfl, h.2.2.2⟩⟩
    · exact h₁
  refine (records_readHelperOutput _ l₁).bind ?_
  rintro run₂ l₂ ⟨rfl, hf⟩
  have h₂ := hinput.follows hf
  split
  · rename_i hfinish
    simp only [mayFinish, Bool.and_eq_true] at hfinish
    refine (records_finishRun h₂ hfinish.1.1.1.1 hfinish.1.1.1.2).mono fun run₃ l₃ h₃ => ?_
    rintro run' ⟨⟩
    exact .inr ⟨s₁, h₃⟩
  split
  · rename_i hlate
    exact (Sound.balanced (h₂.follows (follows_publishResult hlate.1))).accounted
  · exact h₂.balanced.accounted

theorem records_completePoll (h : run.Sound up piped doomed s l) (now : ℤ) :
    (run.completePoll now).Records after
      (fun run' => Accounted up piped doomed (some run')) l := by
  apply records_completePoll_of now
  unfold completeReaped
  split
  · exact records_completeHelperSupervision h
  · exact h.balanced

/-- A tick of the timer keeps the invariant. -/
theorem records_helperPollCb (h : run.Sound up piped doomed s l) (rounds : ℕ) :
    (run.helperPollCb rounds).Records after (Accounted up piped doomed) l := by
  refine (run.records_writeHelperInput l).bind ?_
  rintro run₁ l₁ ⟨rfl, hf₁⟩
  refine (run₁.records_readHelperOutput l₁).bind ?_
  rintro run₂ l₂ ⟨rfl, hf₂⟩
  have h₂ := (h.follows hf₁).follows hf₂
  have hexited : run₂.observeExit.Records after
      (fun exited l' => exited.2.Balanced up piped doomed l') l₂ := by
    unfold observeExit
    split
    · exact h₂.balanced
    · rename_i hreaped
      exact (records_helperHasExited h₂ (Bool.eq_false_iff.mpr hreaped)).mono fun _ _ h => h.1
  refine hexited.bind ?_
  rintro ⟨exited, run₃⟩ l₃ ⟨s₃, h₃⟩ now
  refine (records_forwardTimeout h₃ exited now).bind ?_
  rintro run₄ l₄ ⟨s₄, h₄⟩
  refine (records_pollSupervisor h₄ rounds).bind fun polled l₅ h₅ => ?_
  cases polled with
  | none => exact fun _ h => nomatch h
  | some run₅ =>
    obtain ⟨s₅, h₅⟩ := h₅ run₅ rfl
    refine (records_enforceDeadlines h₅ exited now).bind ?_
    rintro run₆ l₆ ⟨s₆, h₆⟩
    refine (records_reapOrDetach h₆ rounds exited now).bind fun reaped l₇ h₇ => ?_
    cases reaped with
    | none => exact fun _ h => nomatch h
    | some run₇ =>
      obtain ⟨s₇, h₇⟩ := h₇ run₇ rfl
      exact (records_completePoll h₇ now).bind fun _ _ h => h

theorem records_runnerStop (h : run.Sound up piped doomed s l) (reason : HelperStopReason) :
    (run.runnerStop reason).Records after (fun run' => run'.Balanced up piped doomed) l := by
  have hreason : (if reason = .preempted then RunStopReason.preempted else .shutdown) ≠ .none := by
    split <;> exact RunStopReason.noConfusion
  refine (run.records_beginStop hreason l).bind ?_
  rintro run₁ l₁ ⟨rfl, hf, -⟩
  split
  · rename_i hreport
    exact Sound.balanced ((h.follows hf).follows (follows_publishResult hreport.1))
  · exact (h.follows hf).balanced

/-- An event keeps the invariant, or ends the run. -/
theorem records_onEvent (h : run.Sound up piped doomed s l) (rounds : ℕ) (event : RunnerEvent) :
    (run.onEvent rounds event).Records after (Accounted up piped doomed) l := by
  unfold onEvent
  rw [if_neg (by simp [h.unfinished])]
  cases event with
  | tick => exact records_helperPollCb h rounds
  | stop reason => exact (records_runnerStop h reason).bind fun _ _ h => h.accounted

/-- Nothing happens to a run that is finished. -/
theorem onEvents_finished (h : run.finished = true) (rounds : ℕ) (events : List RunnerEvent) :
    run.onEvents rounds events = pure (some run) := by
  induction events with
  | nil => rfl
  | cons event events ih =>
    have hevent : run.onEvent rounds event = pure (some run) := if_pos h
    rw [onEvents, hevent]
    exact ih

/-- Any number of events keep the invariant until the run ends. -/
theorem records_onEvents (h : run.Sound up piped doomed s l) (rounds : ℕ)
    (events : List RunnerEvent) :
    (run.onEvents rounds events).Records after (Accounted up piped doomed) l := by
  induction events generalizing run s l with
  | nil => exact h.balanced.accounted
  | cons event events ih =>
    refine (records_onEvent h rounds event).bind fun ran l₁ h₁ => ?_
    cases ran with
    | none => exact fun _ h => nomatch h
    | some run₁ =>
      rcases h₁ run₁ rfl with ⟨s₁, h₁⟩ | ⟨s₁, h₁⟩
      · exact ih h₁
      · show Prog.Records _ (run₁.onEvents rounds events) _ _
        rw [onEvents_finished h₁.finished]
        rintro run' ⟨⟩
        exact .inr ⟨s₁, h₁⟩

end AwgHelperRun

end NmSidebar
