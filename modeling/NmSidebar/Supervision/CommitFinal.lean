import NmSidebar.Supervision.Channel

/-!
# What becomes of a commit

Once the helper has committed and exited with success, the poll that reaps it decides what is
reported. No timeout of that poll counts any more, but what began before it does: a stop, the
forward timeout, or a failure of the helper's input and output makes a failure of the run, although
the activation is committed.
-/

namespace NmSidebar

open Text Effects Account Supervisor

/-- No call of the service is disturbed: the channel gives whole messages, the helper can be waited
for, and no sentinel has died. -/
def Undisturbed : (o : ServiceCall) → o.Reply → Prop
  | .receive, r => r ≠ .malformed
  | .peekHelper, r => r ≠ .noChild ∧ r ≠ .failed
  | .reapHelper, r => ∃ status, r = .reaped status
  | .peekSentinel _, r => r = .running
  | _, _ => True

/-- What the calls reply when the helper has exited with success and its channel is empty. -/
def Closing : (o : ServiceCall) → o.Reply → Prop
  | .receive, r => r = .closed
  | .peekHelper, r => r = .exited
  | .reapHelper, r => r = .reaped (.exited HelperExit.success.code)
  | .peekSentinel _, r => r = .running
  | _, _ => True

/-- The helper has exited with success, and it has left no message. -/
def Supervision.Closed (w : Supervision) : Prop :=
  w.helper.exit = some (.exited HelperExit.success.code) ∧ w.requests = []

theorem closing_serves (o : ServiceCall) (w : Supervision) (r : o.Reply) (w' : Supervision)
    (hw : w.Closed) (hr : Undisturbed o r) (hserves : serves o w r w') :
    Closing o r ∧ w'.Closed := by
  obtain ⟨w₁, hsteps, heffect⟩ := hserves
  obtain ⟨hexit, hrequests⟩ := hw
  obtain rfl := HelperSteps.ended hsteps hexit
  have hhelper := heffect.helper
  have hclosed (h : w'.requests = w₁.requests) : w'.Closed :=
    ⟨hhelper ▸ hexit, h.trans hrequests⟩
  have hpeer : w₁.peerOpen = false := by simp [Supervision.peerOpen, hexit]
  cases o with
  | receive =>
    cases r with
    | message message => exact nomatch hrequests.symm.trans heffect.1
    | wouldBlock => exact absurd (hpeer.symm.trans heffect.2.1) Bool.noConfusion
    | closed =>
      obtain ⟨-, -, rfl⟩ := heffect
      exact ⟨rfl, hclosed rfl⟩
    | malformed => exact absurd rfl hr
  | send => rcases heffect with ⟨-, rfl⟩ | ⟨-, rfl⟩ <;> exact ⟨trivial, hclosed rfl⟩
  | peekHelper =>
    obtain ⟨-, hrunning, rfl⟩ := heffect
    cases r with
    | exited => exact ⟨rfl, hclosed rfl⟩
    | running => exact nomatch hexit.symm.trans (hrunning rfl)
    | noChild => exact absurd rfl hr.1
    | failed => exact absurd rfl hr.2
  | reapHelper =>
    obtain ⟨hreaped, rfl⟩ := heffect
    obtain ⟨status, rfl⟩ := hr
    obtain rfl := Option.some.inj ((hreaped status rfl).symm.trans hexit)
    exact ⟨rfl, hclosed rfl⟩
  | reapHelperNow =>
    obtain ⟨-, rfl⟩ := heffect
    exact ⟨trivial, hclosed rfl⟩
  | peekSentinel =>
    obtain rfl := heffect
    exact ⟨hr, hclosed rfl⟩
  | closeChannel =>
    obtain rfl := heffect
    exact ⟨trivial, hclosed rfl⟩
  | _ =>
    obtain rfl := heffect
    exact ⟨trivial, hclosed rfl⟩

/-! ## The supervisor at the end of the channel -/

namespace Supervisor

/-- Sentinels that run keep their groups safe. -/
theorem allSentinelsAreSafe_closing {groups : List SupervisedGroup}
    (hguarded : ∀ group ∈ groups, group.sentinel.isSome = true) :
    (allSentinelsAreSafe groups).ReturnsOn Closing (fun safe => safe = true) := by
  induction groups with
  | nil => rfl
  | cons group groups ih =>
    have hsafe : (sentinelIsSafe group).ReturnsOn Closing (fun safe => safe = true) := by
      obtain ⟨sentinel, hsentinel⟩ :=
        Option.isSome_iff_exists.mp (hguarded group List.mem_cons_self)
      unfold sentinelIsSafe
      rw [hsentinel]
      rintro state rfl
      rfl
    refine hsafe.bind fun safe hsafe => ?_
    rw [if_pos hsafe]
    exact ih fun group hmem => hguarded group (List.mem_cons_of_mem _ hmem)

/-- The last poll finds the channel at its end. -/
theorem poll_closing {s : Supervisor} (hfailed : s.failed = false)
    (hguarded : ∀ group ∈ s.ownedGroups, group.sentinel.isSome = true) {rounds : ℕ}
    (hrounds : 0 < rounds) :
    (s.poll rounds).ReturnsOn Closing (fun polled => ∃ sentinels, polled =
      some (true, { s with retiredSentinels := sentinels, channelClosed := true })) := by
  refine s.reapRetiredSentinels_returns.on.bind fun s₁ hs₁ => ?_
  obtain ⟨sentinels, -, rfl⟩ := hs₁
  rw [if_neg (by simp [hfailed])]
  split
  · rename_i hclosed
    refine ⟨sentinels, ?_⟩
    rw [← show s.channelClosed = true from hclosed]
  · obtain ⟨rounds, rfl⟩ := Nat.exists_eq_add_one.mpr hrounds
    rintro received rfl
    refine (allSentinelsAreSafe_closing hguarded).bind fun safe hsafe => ?_
    rw [if_pos hsafe]
    refine fun _ _ => ⟨sentinels, ?_⟩
    show some (!s.failed, _) = _
    rw [hfailed]
    rfl

end Supervisor

namespace AwgHelperRun

variable {piped : Bool} {doomed : Prop} {run : AwgHelperRun} {s : Supervisor} {l : Account}
  {rounds : ℕ}

/-- The run after the last poll. -/
def polledOut (run : AwgHelperRun) (s : Supervisor) (sentinels : List ℕ) : AwgHelperRun :=
  { run with supervisor := some { s with retiredSentinels := sentinels, channelClosed := true } }

theorem pollSupervisor_closing (hsupervisor : run.supervisor = some s) (hfailed : s.failed = false)
    (hguarded : ∀ group ∈ s.ownedGroups, group.sentinel.isSome = true) (hrounds : 0 < rounds) :
    (run.pollSupervisor rounds).ReturnsOn Closing
      (fun polled => ∃ sentinels, polled = some (run.polledOut s sentinels)) := by
  unfold pollSupervisor
  rw [hsupervisor]
  refine (poll_closing hfailed hguarded hrounds).bind ?_
  rintro polled ⟨sentinels, rfl⟩
  exact ⟨sentinels, rfl⟩

theorem writeHelperInput_done (hpipes : run.PipesDone) : run.writeHelperInput = pure run := by
  unfold writeHelperInput
  rw [if_neg (by simp [hpipes.1])]

theorem readHelperOutput_done (hpipes : run.PipesDone) : run.readHelperOutput = pure run := by
  unfold readHelperOutput
  rw [if_neg (by simp [hpipes.2.1])]

/-- The run in which the helper has been reaped. -/
def reapedOut (run : AwgHelperRun) (s : Supervisor) (sentinels : List ℕ) : AwgHelperRun :=
  (run.polledOut s sentinels).recordHelperReap (some (.exited HelperExit.success.code))

theorem reapedOut_helperStatus (run : AwgHelperRun) (s : Supervisor) (sentinels : List ℕ)
    (hreport : run.profileReport = false) :
    (run.reapedOut s sentinels).helperStatus = .success := by
  have hstatus : (run.reapedOut s sentinels).helperStatus =
      reapedStatus run.profileReport (.exited HelperExit.success.code) := rfl
  rw [hstatus, hreport]
  rfl

/-- A program of the service, on the replies of the end, with its account. -/
abbrev Ending {α : Type} (p : ServiceM α) (Q : α → Account → Prop) (l : Account) : Prop :=
  Safe (ledgerOf Closing after) (fun _ _ => True) p Q l

/-- The poll of the supervisor in such a tick. -/
theorem pollSupervisor_ending (h : run.Sound true false doomed s l) (hfailed : s.failed = false)
    (hcleanup : s.cleanupStarted = false) (hrounds : 0 < rounds) :
    Ending (run.pollSupervisor rounds) (fun polled l' => ∃ sentinels,
      polled = some (run.polledOut s sentinels) ∧ (run.polledOut s sentinels).Sound true false doomed
        { s with retiredSentinels := sentinels, channelClosed := true } l') l := by
  have hguarded := h.consistent.guarded hcleanup
  refine ((records_pollSupervisor h rounds).safeOn
    (pollSupervisor_closing h.supervisor hfailed hguarded hrounds)).mono ?_
  rintro polled l' ⟨hbalanced, sentinels, rfl⟩
  obtain ⟨s', h'⟩ := hbalanced _ rfl
  obtain rfl : _ = s' := Option.some.inj h'.supervisor
  exact ⟨sentinels, rfl, h'⟩

/-- No deadline counts once the helper has exited and nothing has stopped the run. -/
theorem enforceDeadlines_exited (hstop : run.stopReason = .none) (now : ℤ) :
    run.enforceDeadlines true now = pure run := by
  have hcleanup : run.cleanupTimeout true now = pure run := by
    unfold cleanupTimeout
    rw [if_neg (by simp)]
  have hchannel : run.channelTimeout true now = pure run := by
    unfold channelTimeout
    rw [if_neg (by simp)]
  have hforce : run.forceKill now = pure run := by
    unfold forceKill
    rw [if_neg (by simp [hstop])]
  unfold enforceDeadlines
  rw [hcleanup]
  show run.channelTimeout true now >>= _ = _
  rw [hchannel]
  exact hforce

/-- The helper is reaped in such a tick, after one more poll. -/
theorem reapOrDetach_ending (h : run.Sound true false doomed s l) (hreaped : run.helperReaped = false)
    (hfailed : s.failed = false) (hcleanup : s.cleanupStarted = false) (hrounds : 0 < rounds)
    (now : ℤ) :
    Ending (run.reapOrDetach rounds true now) (fun reaped l' => ∃ sentinels,
      reaped = some (run.reapedOut s sentinels) ∧ (run.reapedOut s sentinels).Sound true false doomed
        { s with retiredSentinels := sentinels, channelClosed := true } l') l := by
  refine (pollSupervisor_ending h hfailed hcleanup hrounds).bind ?_
  rintro polled l₁ ⟨sentinels, rfl, h₁⟩
  show Ending (some <$> (run.polledOut s sentinels).reapHelper) _ l₁
  unfold reapHelper
  rw [if_neg (by simp [polledOut, hreaped])]
  refine ⟨trivial, ?_⟩
  rintro waited l₂ ⟨rfl, rfl⟩
  refine ⟨sentinels, rfl, ?_⟩
  refine h₁.recorded hreaped (some _) rfl rfl rfl ?_
  rintro wait ⟨⟩
  rfl

/-- The tick that finds a helper that has exited, and that nothing has stopped, comes to the end of
the supervision. -/
theorem helperPollCb_ending {Q : Option AwgHelperRun → Account → Prop}
    (h : run.Sound true false doomed s l) (hreaped : run.helperReaped = false)
    (hstop : run.stopReason = .none) (hfailed : s.failed = false)
    (hcleanup : s.cleanupStarted = false) (hrounds : 0 < rounds)
    (hcomplete : ∀ sentinels now l', (run.reapedOut s sentinels).Sound true false doomed
        { s with retiredSentinels := sentinels, channelClosed := true } l' →
      Ending ((run.reapedOut s sentinels).completePoll now) (fun run' => Q (some run')) l') :
    Ending (run.helperPollCb rounds) Q l := by
  have hpipes := h.pipes rfl
  unfold helperPollCb
  rw [writeHelperInput_done hpipes]
  show Ending (run.readHelperOutput >>= _) Q l
  rw [readHelperOutput_done hpipes]
  show Ending (run.observeExit >>= _) Q l
  unfold observeExit helperHasExited
  rw [if_neg (by simp [hreaped])]
  refine ⟨trivial, ?_⟩
  rintro state l₁ ⟨rfl, rfl⟩
  refine ⟨trivial, ?_⟩
  rintro now l₂ ⟨-, rfl⟩
  -- the helper has exited, so that no deadline counts any more
  have hforward : run.forwardTimeout true now = pure run := by
    unfold forwardTimeout
    rw [if_neg (by simp)]
  show Ending (run.forwardTimeout true now >>= _) Q _
  rw [hforward]
  refine (pollSupervisor_ending h hfailed hcleanup hrounds).bind ?_
  rintro polled l₃ ⟨sentinels, rfl, h₃⟩
  show Ending ((run.polledOut s sentinels).enforceDeadlines true now >>= _) Q l₃
  rw [@enforceDeadlines_exited (run.polledOut s sentinels) hstop]
  refine (reapOrDetach_ending h₃ hreaped hfailed hcleanup hrounds now).bind ?_
  rintro reaped l₄ ⟨sentinels, rfl, h₄⟩
  exact (hcomplete sentinels now l₄ h₄).bind fun run₅ l₅ h₅ => h₅

/-! ## The end of the supervision -/

/-- Nothing has stopped the run, failed it or let it run out of time, and the release of every
supervised group is pending. -/
structure Unhindered (run : AwgHelperRun) (s : Supervisor) : Prop where
  stopReason : run.stopReason = .none
  forwardTimeoutSent : run.forwardTimeoutSent = false
  helperIoFailed : run.helperIoFailed = false
  pending : ∀ group ∈ s.ownedGroups, group.pendingRelease = true

/-- Nothing has been signalled in a run that nothing has stopped. -/
theorem Sound.calm (h : run.Sound true piped doomed s l) (hstop : run.stopReason = .none)
    (hreaped : run.helperReaped = false) (hfailed : s.failed = false) : s.cleanupStarted = false := by
  by_contra hcleanup
  rcases h.cleanup (Bool.not_eq_false _ ▸ hcleanup) with hended | hbroken | hstopped
  · exact absurd (hreaped.symm.trans hended) Bool.noConfusion
  · exact absurd (hfailed.symm.trans hbroken) Bool.noConfusion
  · exact hstopped hstop

/-- Such a run is reported as its helper ended. -/
theorem Unhindered.effectiveStatus (h : run.Unhindered s) :
    run.effectiveStatus = run.helperStatus := by
  unfold AwgHelperRun.effectiveStatus
  rw [h.stopReason, h.forwardTimeoutSent, h.helperIoFailed]
  simp

/-- What the end of the supervision leaves of such a run: everything is done, and no cleanup was
begun. -/
structure Completed (run : AwgHelperRun) (status : HelperExit) (s : Supervisor) : Prop where
  supervisor : run.supervisor = some s
  status : run.effectiveStatus = status
  reaped : run.helperReaped = true
  cleanupDone : run.groupCleanupDone = true
  closed : s.channelClosed = true
  cleanup : s.cleanupStarted = false

/-- Where the release of every group is pending, the release leaves none. -/
theorem finalizeRelease_pending (h : run.Sound true false doomed s l) (hrun : run.Unhindered s)
    (hstatus : run.helperStatus = .success) (hfailed : s.failed = false)
    (hcleanup : s.cleanupStarted = false) :
    (run.finalizeRelease s).Returns fun run' => ∃ runner handedOut s',
      run' = { run with runner, handedOut, supervisor := some s' } ∧ s'.ownedGroups = [] ∧
        s'.channelClosed = s.channelClosed ∧ s'.cleanupStarted = false := by
  have hclean : run.cleanExit s = true := by
    simp [cleanExit, hrun.stopReason, hrun.helperIoFailed, hstatus, hfailed]
  unfold AwgHelperRun.finalizeRelease
  rw [if_pos hclean]
  by_cases hempty : s.ownedGroups = []
  · rw [finalizeRelease_nil hempty]
    exact ⟨run.runner, run.handedOut, s, rfl, hempty, rfl, hcleanup⟩
  · have hnone : run.handedOut = none := by
      by_contra hsome
      exact hempty (h.handedOut (Option.isSome_iff_ne_none.mpr hsome)).2.2.1.1
    have hagrees := h.agrees hnone
    -- the group whose release is pending is the only one
    obtain ⟨group, hmem⟩ := List.exists_mem_of_ne_nil _ hempty
    have hreleased := hagrees.pending hcleanup group hmem (hrun.pending group hmem)
    obtain ⟨hgroups, hpending, hterminating, hsent⟩ := hagrees.eq_singleton hcleanup hmem hreleased
    unfold Supervisor.finalizeRelease
    rw [hgroups]
    dsimp only
    rw [if_neg (by simp [hcleanup, hpending, hterminating, hsent])]
    refine Prog.Returns.bind (Q := fun finalized =>
      finalized = (some group.processGroup, s.steal group.processGroup)) ?_ ?_
    · exact (Prog.returns_any (reapSentinel group)).bind fun _ _ => rfl
    · rintro _ rfl
      refine (trackReleasedGroup_returns _ group.processGroup).mono ?_
      rintro _ ⟨runner, rfl⟩
      refine ⟨runner, some group.processGroup, s.steal group.processGroup, rfl, ?_, rfl, hcleanup⟩
      simp [steal, hgroups]

theorem completeReaped_pending (h : run.Sound true false doomed s l) (hrun : run.Unhindered s)
    (hreaped : run.helperReaped = true) (hstatus : run.helperStatus = .success)
    (hfailed : s.failed = false) (hcleanup : s.cleanupStarted = false)
    (hclosed : s.channelClosed = true) :
    run.completeReaped.Returns fun run' => run'.PipesDone ∧ run'.profileReport = false ∧
      run'.result = none ∧ ∃ s', run'.Completed .success s' := by
  have hreport := h.report rfl
  have hresult := h.unpublished hreport
  have hsuccess : run.effectiveStatus = .success := hrun.effectiveStatus.trans hstatus
  unfold completeReaped
  rw [if_pos hreaped]
  unfold completeHelperSupervision
  by_cases hdone : run.groupCleanupDone = true
  · rw [if_pos (.inr hdone)]
    exact ⟨h.pipes rfl, hreport, hresult, s, h.supervisor, hsuccess, hreaped, hdone, hclosed, hcleanup⟩
  · rw [if_neg (by simp [hreaped, hdone]), h.supervisor]
    dsimp only
    rw [if_pos hclosed]
    refine (finalizeRelease_pending h hrun hstatus hfailed hcleanup).bind ?_
    rintro _ ⟨runner, handedOut, s', rfl, hempty, hclosed', hcleanup'⟩
    rw [if_pos (by simp [groupsEmpty, hempty])]
    exact ⟨h.pipes rfl, hreport, hresult, s', rfl, hsuccess, hreaped, rfl, hclosed'.trans hclosed,
      hcleanup'⟩

/-- A finished run has published its result. -/
theorem finishRun_returns (run : AwgHelperRun) (hsupervisor : run.supervisor = some s)
    (hreport : run.profileReport = false) (hresult : run.result = none) :
    run.finishRun.Returns fun run' => run'.finished = true ∧ run'.supervisor = run.supervisor ∧
      ∃ result, run'.result = some result ∧ result.status = run.effectiveStatus := by
  have hpublish : run.publishResult = { run with result := some run.resultOf } := by
    unfold publishResult
    rw [if_neg (by simp [hresult])]
  unfold finishRun
  rw [hpublish]
  dsimp only
  rw [hsupervisor]
  dsimp only
  refine (Prog.returns_any _).bind fun detached _ => ?_
  refine (Prog.returns_any (freeSupervisor detached.2)).bind fun _ _ => ?_
  refine Prog.Returns.bind (p := pure _) (Prog.returns_any _) fun runner _ => ?_
  refine (Prog.returns_any _).bind fun pending _ => ?_
  exact ⟨rfl, rfl, run.resultOf, rfl, resultOf_status hreport⟩

/-- Such a run ends with this tick, as a success. -/
theorem completePoll_pending (h : run.Sound true false doomed s l) (hrun : run.Unhindered s)
    (hreaped : run.helperReaped = true) (hstatus : run.helperStatus = .success)
    (hfailed : s.failed = false) (hcleanup : s.cleanupStarted = false)
    (hclosed : s.channelClosed = true) (now : ℤ) :
    (run.completePoll now).Returns fun run' => run'.finished = true ∧
      (∃ s', run'.supervisor = some s' ∧ s'.cleanupStarted = false) ∧
        ∃ result, run'.result = some result ∧ result.status = .success := by
  refine (completeReaped_pending h hrun hreaped hstatus hfailed hcleanup hclosed).bind ?_
  rintro run₁ ⟨hpipes, hreport, hresult, s₁, h₁⟩
  rw [if_neg (by simp [hpipes.2.2.1])]
  show (run₁.readHelperOutput >>= _).Returns _
  rw [readHelperOutput_done hpipes]
  have hfinish : run₁.mayFinish = true := by
    simp [mayFinish, h₁.reaped, h₁.cleanupDone, hpipes.2.2.1, hpipes.2.2.2, h₁.supervisor, h₁.closed]
  show (if run₁.mayFinish then run₁.finishRun else _).Returns _
  rw [if_pos hfinish]
  refine (finishRun_returns run₁ h₁.supervisor hreport hresult).mono ?_
  rintro run₂ ⟨hfinished, hsupervisor, result, hpublished, hstatus⟩
  exact ⟨hfinished, ⟨s₁, hsupervisor.trans h₁.supervisor, h₁.cleanup⟩, result, hpublished,
    hstatus.trans h₁.status⟩

/-- A group whose release is not pending makes a failure of the run. -/
theorem records_completePoll_left (h : run.Sound true false doomed s l)
    (hreaped : run.helperReaped = true) (hclosed : s.channelClosed = true)
    {group : SupervisedGroup} (hmem : group ∈ s.ownedGroups) (hquiet : group.pendingRelease = false)
    (now : ℤ) :
    (run.completePoll now).Records after (fun run' => Accounted true false True (some run')) l := by
  apply records_completePoll_of now
  have hopen : ¬ (run.helperReaped = false ∨ run.groupCleanupDone = true) := by
    rintro (hrunning | hdone)
    · exact absurd (hrunning.symm.trans hreaped) Bool.noConfusion
    · rw [(h.emptied hdone).1] at hmem
      cases hmem
  unfold completeReaped
  rw [if_pos hreaped]
  unfold completeHelperSupervision
  rw [if_neg hopen, h.supervisor]
  dsimp only
  rw [if_pos hclosed]
  refine (records_completeClosed h hreaped hclosed).mono ?_
  rintro run₁ l₁ ⟨s₁, h₁⟩
  exact (h₁.weaken fun _ => .inr ⟨group, hmem, hquiet⟩).balanced

end AwgHelperRun

/-! ## The commit -/

/-- The service signals a group. -/
def SignalsGroup (e : ServiceEvent) : Prop := ∃ number signal, e.op = .killGroup number signal

theorem signalled_after {l : Account} (h : l.signalled = true) (o : ServiceCall) (r : o.Reply) :
    (l.after o r).signalled = true := by
  cases o with
  | killGroup processGroup signal => cases signal <;> cases r <;> first | exact h | rfl
  | receive | scanProcessGroup | spawnSentinel | reapHelper | reapHelperNow => cases r <;> exact h
  | _ => exact h

/-- A signal stays on the account. -/
theorem signalled_entries {l : Account} {tr : List ServiceEvent}
    (h : l.signalled = true ∨ ∃ e ∈ tr, SignalsGroup e) :
    (Prog.entries after l tr).signalled = true := by
  induction tr generalizing l with
  | nil => exact h.resolve_right fun ⟨e, he, _⟩ => nomatch he
  | cons e tr ih =>
    apply ih
    rcases h with h | ⟨e', he', hsignals⟩
    · exact .inl (signalled_after h e.op e.reply)
    rcases List.mem_cons.mp he' with rfl | he'
    · left
      obtain ⟨o, w, r, w'⟩ := e'
      obtain ⟨number, signal, rfl⟩ := hsignals
      cases signal <;> cases r <;> rfl
    · exact .inr ⟨e', he', hsignals⟩

/-- The activation is reported as a success, and no group of it is signalled. -/
def ReportedCommitted (ran : Option AwgHelperRun) (tr : List ServiceEvent) : Prop :=
  ∃ run result, ran = some run ∧ run.result = some result ∧ result.status = .success ∧
    ∀ e ∈ tr, ¬ SignalsGroup e

/-- A run that can no longer be a success is not reported as one. -/
theorem not_reportedCommitted {ran : Option AwgHelperRun} {tr : List ServiceEvent} {l : Account}
    (h : AwgHelperRun.Accounted true false True ran l) : ¬ ReportedCommitted ran tr := by
  rintro ⟨run, result, hran, hresult, hsuccess, -⟩
  rcases h run hran with ⟨s, hsound⟩ | ⟨s, hconcluded⟩
  · exact nomatch (hsound.unpublished (hsound.report rfl)).symm.trans hresult
  · exact hconcluded.judged (hconcluded.plain rfl) result hresult hsuccess trivial

/-- The start of a run has nothing on the channel. -/
theorem inSync_spawned (entries : ℕ) (path operation name : Bytes) (deadlines : Deadlines) :
    InSync Account.empty.helper (spawned entries path operation name deadlines) :=
  ⟨fun _ _ => Nat.zero_le _, fun h => nomatch h⟩

/-- Let the helper of an `up` have exited with success, which it does only once it has committed,
with the channel intact at both ends. Then the tick that finds it reports success, and no group of
the run was ever signalled, if and only if before that tick nothing had stopped the run, failed it
or sent the helper the forward timeout, and the release of every supervised group was pending. -/
theorem commit_final {entries rounds pid : ℕ} {path name : Bytes} {deadlines : Deadlines}
    {runner : HelperRunner} {events : List AwgHelperRun.RunnerEvent} {tr₀ tr : List ServiceEvent}
    {run : AwgHelperRun} {ran : Option AwgHelperRun} {s : Supervisor} {w w₁ w₂ : Supervision}
    (hrun : Steps serves ((spawnedRun (ascii "up") deadlines pid false runner).onEvents rounds events)
      (spawned entries path (ascii "up") name deadlines) tr₀ (.pure (some run)) w)
    (hexits : HelperSteps w w₁)
    (hexit : w₁.helper.exit = some (.exited HelperExit.success.code))
    (hopen : w₁.helper.channelOpen = true) (hsupervisor : run.supervisor = some s)
    (hintact : s.failed = false) (hreaped : run.helperReaped = false) (hrounds : 0 < rounds)
    (htick : Steps serves (run.helperPollCb rounds) w₁ tr (.pure ran) w₂)
    (hundisturbed : ∀ e ∈ tr, Undisturbed e.op e.reply) :
    w₁.helper.committed = true ∧ (ReportedCommitted ran (tr₀ ++ tr) ↔ run.Unhindered s) := by
  -- the helper commits before it succeeds, and nothing is left on the channel of an idle helper
  have hkeep (o : ServiceCall) (l : Account) (w : Supervision) (r : o.Reply) (w' : Supervision)
      (h : InSync l.helper w ∧ w.helper.CommitsFirst) (hserves : serves o w r w') :
      InSync (l.after o r).helper w' ∧ w'.helper.CommitsFirst :=
    ⟨inSync_serves h.1 hserves, commitsFirst_serves h.2 hserves⟩
  have hjoint := hrun.ledger hkeep
    ⟨inSync_spawned entries path (ascii "up") name deadlines,
      commitsFirst_start entries path name deadlines⟩
  have hsync := HelperSteps.inSync hexits hjoint.1
  refine ⟨(HelperSteps.commitsFirst hexits hjoint.2).2 hexit, ?_⟩
  -- the run is not over
  have haccounted := (AwgHelperRun.records_onEvents
    (sound_spawnedRun (ascii "up") deadlines pid false runner) rounds events).returned hrun
  obtain ⟨s', h⟩ := (haccounted run rfl).resolve_right fun ⟨s', h'⟩ =>
    absurd (hreaped.symm.trans h'.ended) Bool.noConfusion
  obtain rfl : s = s' := Option.some.inj (hsupervisor.symm.trans h.supervisor)
  replace h : run.Sound true false False s (Prog.entries after .empty tr₀) := h
  have hclosed : w₁.Closed := by
    refine ⟨hexit, List.length_eq_zero_iff.mp ?_⟩
    have hcount := hsync.count h.asked hopen
    have hslots : w₁.helper.slots = 0 := by
      rw [HelperProcess.slots, hsync.idle hexit]
      rfl
    omega
  obtain ⟨tr', hledger⟩ : ∃ tr', Steps (ledgerOf Closing after) (run.helperPollCb rounds)
      (Prog.entries after .empty tr₀) tr' (.pure ran)
      (Prog.entries after (Prog.entries after .empty tr₀) tr) :=
    htick.toLedger closing_serves (Prog.entries after .empty tr₀) hclosed hundisturbed
  constructor
  · rintro hreported
    -- a run that is doomed, or that has a group whose release is not pending, fails
    have hlive : ¬ run.Doomed := fun hdoomed =>
      not_reportedCommitted ((AwgHelperRun.records_helperPollCb
        { h with doomed := fun _ => hdoomed } rounds).returned htick) hreported
    obtain ⟨hstop, hlive⟩ := not_or.mp hlive
    obtain ⟨hforward, hio⟩ := not_or.mp hlive
    have hstop : run.stopReason = .none := not_not.mp hstop
    refine ⟨hstop, Bool.eq_false_iff.mpr hforward, Bool.eq_false_iff.mpr hio, ?_⟩
    intro group hmem
    by_contra hquiet
    have hquiet : group.pendingRelease = false := Bool.eq_false_iff.mpr hquiet
    have hending : AwgHelperRun.Ending (run.helperPollCb rounds)
        (AwgHelperRun.Accounted true false True) (Prog.entries after .empty tr₀) := by
      apply AwgHelperRun.helperPollCb_ending h hreaped hstop hintact (h.calm hstop hreaped hintact)
        hrounds
      intro sentinels now l' h'
      exact (AwgHelperRun.records_completePoll_left h' rfl rfl hmem hquiet now).safe
    exact not_reportedCommitted (hending.returned hledger) hreported
  · intro hrun'
    have hcleanup := h.calm hrun'.stopReason hreaped hintact
    have hending : AwgHelperRun.Ending (run.helperPollCb rounds) (fun ran _ => ∃ run',
        ran = some run' ∧ run'.finished = true ∧
          (∃ s', run'.supervisor = some s' ∧ s'.cleanupStarted = false) ∧
          ∃ result, run'.result = some result ∧ result.status = .success)
        (Prog.entries after .empty tr₀) := by
      apply AwgHelperRun.helperPollCb_ending h hreaped hrun'.stopReason hintact hcleanup hrounds
      intro sentinels now l' h'
      have hunhindered : (run.reapedOut s sentinels).Unhindered
          { s with retiredSentinels := sentinels, channelClosed := true } :=
        ⟨hrun'.stopReason, hrun'.forwardTimeoutSent, hrun'.helperIoFailed, hrun'.pending⟩
      refine ((AwgHelperRun.completePoll_pending h' hunhindered rfl
        (run.reapedOut_helperStatus s sentinels (h.report rfl)) hintact hcleanup rfl
        now).records.safe).mono ?_
      exact fun run' _ hfinal => ⟨run', rfl, hfinal⟩
    have haccounted' := (AwgHelperRun.records_helperPollCb h rounds).returned htick
    obtain ⟨run', rfl, hfinished, ⟨s', hsupervisor', hcleanup'⟩, result, hresult, hsuccess⟩ :=
      hending.returned hledger
    refine ⟨run', result, rfl, hresult, hsuccess, ?_⟩
    -- a signal would have begun the cleanup
    intro e he hsignals
    rcases haccounted' run' rfl with ⟨s₁, h₁⟩ | ⟨s₁, h₁⟩
    · exact absurd (h₁.unfinished.symm.trans hfinished) Bool.noConfusion
    · obtain rfl : s' = s₁ := Option.some.inj (hsupervisor'.symm.trans h₁.supervisor)
      have hsignalled := @signalled_entries .empty (tr₀ ++ tr) (.inr ⟨e, he, hsignals⟩)
      rw [Prog.entries_append] at hsignalled
      exact absurd (hcleanup'.symm.trans (h₁.kept.signalled hsignalled)) Bool.noConfusion

/-! ## Two runs -/

/-- `Undisturbed`, computed. -/
def undisturbed : (o : ServiceCall) → o.Reply → Bool
  | .receive, r => decide (r ≠ .malformed)
  | .peekHelper, r => decide (r = .exited)
  | .reapHelper, r => decide (r = .reaped (.exited HelperExit.success.code))
  | .peekSentinel _, r => decide (r = .running)
  | _, _ => true

theorem undisturbed_sound {o : ServiceCall} {r : o.Reply} (h : undisturbed o r = true) :
    Undisturbed o r := by
  cases o with
  | receive =>
    have h : r ≠ .malformed := of_decide_eq_true h
    exact h
  | peekHelper =>
    have h : r = .exited := of_decide_eq_true h
    subst h
    exact ⟨nofun, nofun⟩
  | reapHelper => exact ⟨_, of_decide_eq_true h⟩
  | peekSentinel =>
    have h : r = .running := of_decide_eq_true h
    exact h
  | _ => trivial

/-- The calm system after the first tick of `up`, in which the helper has committed and exited. -/
def calmCommitted : CalmSystem := (calmRun [.tick]).2.2

/-- The events after the first tick. -/
def calmLater (run : AwgHelperRun) (p : AwgHelperRun → ServiceM (Option AwgHelperRun)) :
    List (Event serviceSig CalmSystem) × ServiceM (Option AwgHelperRun) × CalmSystem :=
  CalmSystem.environment.run 60 (p run) calmCommitted

/-- What the first tick leaves. -/
def afterTick (run : AwgHelperRun) : Bool :=
  !run.helperReaped && decide (run.stopReason = .none) && !run.forwardTimeoutSent &&
    !run.helperIoFailed && run.supervisor.any fun s =>
      !s.failed && s.ownedGroups.all (·.pendingRelease)

theorem calmCommitted_exited : calmCommitted.system.helper.exit =
    some (.exited HelperExit.success.code) ∧ calmCommitted.system.helper.channelOpen = true := by
  decide +kernel

/-- With nothing but ticks the second tick reports the activation. -/
theorem commit_final_sample : ∃ ran tr, ReportedCommitted ran tr := by
  have hfirst : (calmOutcome [.tick]).any (fun run => afterTick run &&
      (calmLater run (·.helperPollCb 9)).2.1.result.isSome &&
      (calmLater run (·.helperPollCb 9)).1.all fun e => undisturbed e.op e.reply) = true := by
    decide +kernel
  obtain ⟨run, hrun, hfacts⟩ := (Option.any_eq_true _ _).mp hfirst
  simp only [Bool.and_eq_true, afterTick, decide_eq_true_eq, Bool.not_eq_true', List.all_eq_true]
    at hfacts
  obtain ⟨⟨⟨⟨⟨⟨hreaped, hstop⟩, hforward⟩, hio⟩, hs⟩, hresult⟩, hundisturbed⟩ := hfacts
  obtain ⟨s, hsupervisor, hs⟩ := (Option.any_eq_true _ _).mp hs
  simp only [Bool.and_eq_true, Bool.not_eq_true', List.all_eq_true] at hs
  obtain ⟨ran, hran⟩ := Option.isSome_iff_exists.mp hresult
  have hfinal := commit_final (steps_calmRun hrun) .refl calmCommitted_exited.1
    calmCommitted_exited.2 hsupervisor hs.1 hreaped (by decide : 0 < 9) (CalmSystem.steps_run hran)
    (by
      intro e he
      obtain ⟨e', he', rfl⟩ := List.mem_map.mp he
      exact undisturbed_sound (hundisturbed e' he'))
  exact ⟨ran, _, hfinal.2.mpr ⟨hstop, hforward, hio, hs.2⟩⟩

/-- When the service stops the run between the commit and the tick that would report it, a failure
is reported and the group of the activation is killed. -/
theorem commit_final_stopped : ∃ (tr₀ tr : List ServiceEvent) (run run' : AwgHelperRun)
    (w w' : Supervision) (result : HelperResult),
    Steps serves (calmUp.onEvents 9 [.tick]) calmStart.system tr₀ (.pure (some run)) w ∧
    w.helper.committed = true ∧ w.helper.exit = some (.exited HelperExit.success.code) ∧
    w.helper.channelOpen = true ∧
    Steps serves (run.onEvents 9 [.stop .shutdown, .tick]) w tr (.pure (some run')) w' ∧
    (∀ e ∈ tr, Undisturbed e.op e.reply) ∧
    run'.finished = true ∧ run'.result = some result ∧ result.status = .childSignaled ∧
    ∃ e ∈ tr, e.op = .killGroup 5 .kill := by
  have hfirst : (calmOutcome [.tick]).any (fun run =>
      let later := calmLater run (·.onEvents 9 [.stop .shutdown, .tick])
      later.2.1.result.join.any (fun run' => run'.finished && run'.result.any fun result =>
        decide (result.status = .childSignaled)) &&
      later.1.all (fun e => undisturbed e.op e.reply) &&
      later.1.any fun e => decide (e.op = .killGroup 5 .kill)) = true := by
    decide +kernel
  obtain ⟨run, hrun, hfacts⟩ := (Option.any_eq_true _ _).mp hfirst
  simp only [Bool.and_eq_true, List.all_eq_true, List.any_eq_true, decide_eq_true_eq] at hfacts
  obtain ⟨⟨hran, hundisturbed⟩, e, he, hkill⟩ := hfacts
  obtain ⟨run', hran, hfinished⟩ := (Option.any_eq_true _ _).mp hran
  simp only [Bool.and_eq_true] at hfinished
  obtain ⟨result, hresult, hstatus⟩ := (Option.any_eq_true _ _).mp hfinished.2
  have hcommitted : calmCommitted.system.helper.committed = true := by decide +kernel
  refine ⟨_, _, run, run', _, _, result, steps_calmRun hrun, hcommitted, calmCommitted_exited.1,
    calmCommitted_exited.2, CalmSystem.steps_run (Option.join_eq_some_iff.mp hran), ?_, hfinished.1,
    hresult, of_decide_eq_true hstatus, _, List.mem_map_of_mem he, hkill⟩
  intro e he
  obtain ⟨e', he', rfl⟩ := List.mem_map.mp he
  exact undisturbed_sound (hundisturbed e' he')

end NmSidebar
