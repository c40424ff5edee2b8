import NmSidebar.Supervision.HandOut
import NmSidebar.Supervision.RunnerResults
import NmSidebar.Supervision.Tally

/-!
# Runs that agree with their tally

A run that may still succeed agrees with the tally of its calls: no pipe has failed, its input is
done only if all of it was written, and its supervisor upholds the groups of the tally. Every event
leaves it so, or leaves a run that can no longer succeed.
-/

namespace NmSidebar

open Text Effects Supervisor Tally

namespace Supervisor

/-! ## Freeing the supervisor -/

theorem untallied_signalAll (signal : Signal) (groups : List SupervisedGroup) :
    (signalAll signal groups).Uses Untallied := by
  induction groups with
  | nil => trivial
  | cons group groups ih =>
    unfold signalAll
    split
    · exact ih.bind fun _ => trivial
    · refine ⟨fun _ r => ?_, fun _ => ih.bind fun _ => trivial⟩
      cases signal <;> cases r <;> rfl

theorem untallied_freeSupervisor (s : Supervisor) :
    (AwgHelperRun.freeSupervisor s).Uses Untallied := by
  have hreap (groups : List SupervisedGroup) :
      (AwgHelperRun.freeSupervisor.reapSentinels groups).Uses Untallied := by
    induction groups with
    | nil => trivial
    | cons group groups ih => exact (untallied_reapSentinel group).bind fun _ => ih
  have hrest (s : Supervisor) : (do
      AwgHelperRun.freeSupervisor.reapSentinels s.ownedGroups
      let _ ← s.reapRetiredSentinels
      if s.channelClosed then return () else sys .closeChannel : ServiceM Unit).Uses
        Untallied := by
    refine (hreap _).bind fun _ => s.untallied_reapRetiredSentinels.bind fun _ => ?_
    split
    · trivial
    · exact ⟨fun _ _ => rfl, fun _ => trivial⟩
  have hsignal : (s.signalGroups .kill).Uses Untallied :=
    (untallied_signalAll .kill s.ownedGroups).bind fun _ => trivial
  unfold AwgHelperRun.freeSupervisor
  split
  · exact hrest s
  · exact hsignal.bind fun s₁ => hrest s₁

end Supervisor

namespace AwgHelperRun

/-! ## Runs that may succeed -/

/-- Nothing has failed in a run: its supervisor upholds the tally, its pipes were not disturbed, and
the input that is done was written, or there was none. -/
structure Clean (fed : Bool) (run : AwgHelperRun) (l : Tally) : Prop where
  supervised : ∃ s, run.supervisor = some s ∧ s.Upholds run.handedOut l ∧
    (run.handedOut.isSome = true → s.Emptied)
  quiet : l.disturbed = false
  input : run.helperInputDone = true → fed = true ∨ l.inputDone = true

/-- A run is no success any more, or nothing has failed in it. -/
def Upright (fed : Bool) (run : AwgHelperRun) (l : Tally) : Prop := run.Doomed ∨ run.Clean fed l

/-- A program that leaves a run upright. -/
abbrev Uprights (fed : Bool) (l : Tally) (p : ServiceM AwgHelperRun) : Prop :=
  p.Records Tally.after (fun run => run.Upright fed) l

variable {fed : Bool} {run run' : AwgHelperRun} {s : Supervisor} {l : Tally}

theorem Clean.congr (h : run.Clean fed l) (hsupervisor : run'.supervisor = run.supervisor)
    (hout : run'.handedOut = run.handedOut)
    (hinput : run'.helperInputDone = run.helperInputDone) : run'.Clean fed l := by
  refine ⟨?_, h.quiet, fun hdone => h.input (hinput.symm.trans hdone)⟩
  rw [hsupervisor, hout]
  exact h.supervised

/-- A program after which nothing can succeed leaves the run upright. -/
theorem uprights_of_doomed {p : ServiceM AwgHelperRun} (hp : p.Returns Doomed) :
    Uprights fed l p :=
  hp.records.mono fun _ _ h => .inl h

/-- A program is looked at from a clean run only. -/
theorem uprights_of_clean {p : ServiceM AwgHelperRun} (h : run.Upright fed l)
    (hp : run.Advances p) (hclean : run.Clean fed l → Uprights fed l p) : Uprights fed l p :=
  h.elim (fun hdoomed => uprights_of_doomed (hp.mono fun _ h => h.doomed hdoomed)) hclean

/-! ## Input and output -/

theorem uprights_writeHelperInput (h : run.Clean fed l) : Uprights fed l run.writeHelperInput := by
  unfold writeHelperInput
  split
  · intro result
    cases result with
    | «open» => exact .inr h
    | done =>
      obtain ⟨s, hs, hupholds, hemptied⟩ := h.supervised
      exact .inr ⟨⟨s, hs, ⟨hupholds.sound, hupholds.begun, hupholds.standing⟩, hemptied⟩, h.quiet,
        fun _ => .inr rfl⟩
    | failed => exact uprights_of_doomed run.failHelperIo_doomed
  · exact .inr h

theorem uprights_readHelperOutput (h : run.Clean fed l) :
    Uprights fed l run.readHelperOutput := by
  unfold readHelperOutput
  split
  · rintro ⟨output, result⟩
    cases result with
    | «open» | done => exact .inr (h.congr rfl rfl rfl)
    | failed => exact uprights_of_doomed (failHelperIo_doomed _)
  · exact .inr h

/-- An outcome that is there is of an upright run. -/
def UprightTo (fed : Bool) (ran : Option AwgHelperRun) (l : Tally) : Prop :=
  ∀ run, ran = some run → run.Upright fed l

theorem Upright.to (h : run.Upright fed l) : UprightTo fed (some run) l := by
  rintro run' ⟨⟩
  exact h

theorem uprightTo_none : UprightTo fed none l := fun _ h => absurd h.symm (Option.some_ne_none _)

theorem Uprights.toSome {p : ServiceM AwgHelperRun} (h : Uprights fed l p) :
    (some <$> p).Records Tally.after (UprightTo fed) l :=
  Prog.Records.bind h fun _ _ h => h.to

theorem uprightTo_pollSupervisor (h : run.Clean fed l) (rounds : ℕ) :
    (run.pollSupervisor rounds).Records Tally.after (UprightTo fed) l := by
  obtain ⟨s, hs, hupholds, hemptied⟩ := h.supervised
  have hempty : (s.poll rounds).Returns fun polled => run.handedOut.isSome = true →
      ∀ handled s', polled = some (handled, s') → s'.Emptied := by
    cases hout : run.handedOut.isSome with
    | false => exact (Prog.returns_any _).mono fun _ _ h => absurd h Bool.false_ne_true
    | true => exact (poll_emptied (hemptied hout) rounds).mono fun _ h _ => h
  unfold pollSupervisor
  rw [hs]
  refine ((going_poll hupholds rounds).and hempty.records).bind ?_
  rintro polled l₁ ⟨hgoing, hempty⟩
  cases polled with
  | none => exact uprightTo_none
  | some polled =>
    obtain ⟨polled, s'⟩ := polled
    dsimp only
    cases polled with
    | true =>
      obtain ⟨hupholds', hdisturbed, hdone⟩ := hgoing s' rfl
      rw [if_neg (by simp)]
      refine Upright.to (.inr ⟨⟨s', rfl, hupholds', fun hout => hempty hout true s' rfl⟩, ?_, ?_⟩)
      · exact hdisturbed.trans h.quiet
      · rw [hdone]
        exact h.input
    | false =>
      split
      · exact (uprights_of_doomed (failHelperIo_doomed _)).toSome
      · rename_i hstopped
        exact Upright.to (.inl (.inl fun hnone => hstopped ⟨rfl, hnone⟩))

/-! ## The end of the helper -/

theorem observeExit_upright (h : run.Clean fed l) :
    run.observeExit.Records Tally.after (fun exited => exited.2.Upright fed) l := by
  have hlost : (Prod.mk false <$> run.helperLost).Records Tally.after
      (fun exited => exited.2.Upright fed) l :=
    run.helperLost_returns.records.bind fun _ _ h => .inl h.2
  unfold observeExit
  split
  · exact .inr h
  intro state
  cases state with
  | exited | running => exact .inr h
  | noChild => exact hlost
  | failed =>
    intro waited
    cases waited with
    | reaped status => exact .inr (h.congr rfl rfl rfl)
    | noChild => exact hlost
    | running | failed =>
      show Prog.Records _ (if _ then _ else _) _ _
      split
      · exact (uprights_of_doomed (failHelperIo_doomed _)).bind fun _ _ h => h
      · exact .inr (h.congr rfl rfl rfl)

theorem uprights_reapHelper (h : run.Clean fed l) : Uprights fed l run.reapHelper := by
  unfold reapHelper
  split
  · exact .inl (.inr (.inr rfl))
  intro waited
  cases waited with
  | reaped status => exact .inr (h.congr rfl rfl rfl)
  | failed | running | noChild => exact .inl (.inr (.inr rfl))

/-! ## The timer -/

theorem uprights_forwardTimeout (h : run.Clean fed l) (exited : Bool) (now : ℤ) :
    Uprights fed l (run.forwardTimeout exited now) := by
  unfold forwardTimeout
  split
  · exact uprights_of_doomed ((Prog.returns_any _).bind fun _ _ => .inr (.inl rfl))
  · exact .inr h

theorem uprights_enforceDeadlines (h : run.Upright fed l) (exited : Bool) (now : ℤ) :
    Uprights fed l (run.enforceDeadlines exited now) := by
  have hcleanup (h : run.Clean fed l) : Uprights fed l (run.cleanupTimeout exited now) := by
    unfold cleanupTimeout
    split
    · exact uprights_of_doomed (run.beginStop_doomed RunStopReason.noConfusion)
    · exact .inr h
  have hchannel {run : AwgHelperRun} {l : Tally} (h : run.Clean fed l) :
      Uprights fed l (run.channelTimeout exited now) := by
    unfold channelTimeout
    split
    · split
      · exact .inr (h.congr rfl rfl rfl)
      split
      · exact uprights_of_doomed run.failHelperIo_doomed
      · exact .inr h
    · exact .inr h
  have hforce {run : AwgHelperRun} {l : Tally} (h : run.Clean fed l) :
      Uprights fed l (run.forceKill now) := by
    by_cases hstopped : run.stopReason = .none
    · unfold forceKill
      rw [if_neg fun hcond => hcond.1 hstopped]
      exact .inr h
    · exact uprights_of_clean (.inl (.inl hstopped)) (run.advances_forceKill now) fun hclean =>
        uprights_of_doomed ((run.advances_forceKill now).mono fun _ h => h.doomed (.inl hstopped))
  refine (uprights_of_clean h (run.advances_cleanupTimeout exited now) hcleanup).bind ?_
  intro run₁ l₁ h₁
  refine (uprights_of_clean h₁ (run₁.advances_channelTimeout exited now) hchannel).bind ?_
  exact fun run₂ l₂ h₂ => uprights_of_clean h₂ (run₂.advances_forceKill now) hforce

/-- Polling and reaping are looked at from a clean run only. -/
theorem uprightTo_of_clean {p : ServiceM (Option AwgHelperRun)} (h : run.Upright fed l)
    (hp : run.AdvancesTo p) (hclean : run.Clean fed l → p.Records Tally.after (UprightTo fed) l) :
    p.Records Tally.after (UprightTo fed) l :=
  h.elim (fun hdoomed => hp.records.mono fun _ _ h run' hrun' =>
    .inl ((h run' hrun').doomed hdoomed)) hclean

theorem uprightTo_reapOrDetach (h : run.Upright fed l) (rounds : ℕ) (exited : Bool) (now : ℤ) :
    (run.reapOrDetach rounds exited now).Records Tally.after (UprightTo fed) l := by
  refine uprightTo_of_clean h (run.advances_reapOrDetach rounds exited now) fun h => ?_
  unfold reapOrDetach
  split
  · refine (uprightTo_pollSupervisor h rounds).bind fun polled l₁ h₁ => ?_
    cases polled with
    | none => exact uprightTo_none
    | some run₁ =>
      exact (uprights_of_clean (h₁ run₁ rfl) run₁.advances_reapHelper uprights_reapHelper).toSome
  split
  · rename_i hstalled
    exact (uprights_of_doomed (run.detachStalledHelper_returns.mono fun _ h =>
      h.2 hstalled.2.2.1)).toSome
  · exact (Upright.to (.inr h))

end AwgHelperRun

namespace AwgHelperRun

variable {fed : Bool} {run run' : AwgHelperRun} {s : Supervisor} {l : Tally}

/-! ## Completing the supervision -/

theorem untallied_trackReleasedGroup (run : AwgHelperRun) (processGroup : ℤ) :
    (run.trackReleasedGroup processGroup).Uses Untallied := by
  unfold trackReleasedGroup
  refine ⟨fun _ _ => rfl, fun reaped => ?_⟩
  obtain ⟨-, last⟩ := reaped
  cases last <;> trivial

/-- A release is of the only group there is. -/
theorem records_finalizeRelease_tally (s : Supervisor) (l : Tally) :
    s.finalizeRelease.Records Tally.after (fun released l' => l' = l ∧ (released = (none, s) ∨
      ∃ group, s.ownedGroups = [group] ∧
        released = (some group.processGroup, s.steal group.processGroup))) l := by
  unfold Supervisor.finalizeRelease
  split
  · rename_i group hgroup
    split
    · exact ⟨rfl, .inl rfl⟩
    · refine (records_of_untallied (untallied_reapSentinel group)).bind ?_
      rintro _ _ rfl
      exact ⟨rfl, .inr ⟨group, hgroup, rfl⟩⟩
  · exact ⟨rfl, .inl rfl⟩

theorem uprights_finalizeRelease (h : run.Clean fed l) (hs : run.supervisor = some s)
    (hclosed : s.channelClosed = true) : Uprights fed l (run.finalizeRelease s) := by
  have hsame : ({ run with supervisor := some s } : AwgHelperRun).Clean fed l :=
    h.congr hs.symm rfl rfl
  unfold finalizeRelease
  split
  · refine (records_finalizeRelease_tally s l).bind ?_
    rintro released _ ⟨rfl, rfl | ⟨group, hgroup, rfl⟩⟩
    · exact .inr hsame
    · obtain ⟨s', hs', hupholds, hemptied⟩ := h.supervised
      obtain rfl : s' = s := Option.some.inj (hs'.symm.trans hs)
      -- nothing was handed out before, since then no group would be owned
      have hnone : run.handedOut = none := by
        refine Option.not_isSome_iff_eq_none.mp fun hout => ?_
        have hempty := (hemptied hout).1
        rw [hgroup] at hempty
        exact absurd hempty (List.cons_ne_nil _ _)
      have hstolen : (s'.steal group.processGroup).ownedGroups = [] := by
        simp [Supervisor.steal, hgroup]
      refine ((records_of_untallied (untallied_trackReleasedGroup _ _)).and
        (trackReleasedGroup_returns _ _).records).mono ?_
      rintro run' _ ⟨rfl, runner, rfl⟩
      refine .inr ⟨⟨_, rfl, ⟨hupholds.sound, hupholds.begun, fun number hmem => ?_⟩,
        fun _ => ⟨hstolen, .inr hclosed⟩⟩, h.quiet, h.input⟩
      rcases hupholds.standing number hmem with hout | ⟨group', hmem', rfl⟩
      · exact absurd (hnone.symm.trans hout).symm (Option.some_ne_none _)
      · rw [hgroup, List.mem_singleton] at hmem'
        exact .inl (congrArg (fun group => some group.processGroup) hmem'.symm)
  · exact .inr hsame

theorem uprights_completeClosed (h : run.Clean fed l) (hs : run.supervisor = some s)
    (hclosed : s.channelClosed = true) : Uprights fed l (run.completeClosed s) := by
  refine (uprights_finalizeRelease h hs hclosed).bind fun run₁ l₁ h₁ => ?_
  split
  · exact h₁.imp id fun hclean => hclean.congr rfl rfl rfl
  · exact uprights_of_doomed run₁.cleanLeftGroups_doomed

theorem uprights_completeHelperSupervision (h : run.Clean fed l) :
    Uprights fed l run.completeHelperSupervision := by
  unfold completeHelperSupervision
  split
  · exact .inr h
  obtain ⟨s, hs, -, -⟩ := h.supervised
  rw [hs]
  dsimp only
  split
  · rename_i hclosed
    exact uprights_completeClosed h hs hclosed
  intro now
  show Prog.Records _ (if _ then _ else _) _ _
  split
  · exact .inr (h.congr hs.symm rfl rfl)
  split
  · exact .inr h
  · refine uprights_of_doomed ?_
    refine (beginStop_doomed run RunStopReason.noConfusion).bind fun run₁ hdoomed => ?_
    refine (Prog.returns_any _).bind fun s _ => ?_
    exact (advances_completeClosed _ s).mono fun _ h => h.doomed (.inr (.inr rfl))

/-! ## The end of a tick -/

theorem untallied_finishRun (run : AwgHelperRun) : run.finishRun.Uses Untallied := by
  unfold finishRun
  dsimp only
  split
  · exact (untallied_unreaped _).bind fun _ => trivial
  · rename_i s _
    have hdetach : s.detachRetiredSentinels.Uses Untallied :=
      s.untallied_reapRetiredSentinels.bind fun _ => trivial
    refine hdetach.bind fun _ => ?_
    refine (untallied_freeSupervisor _).bind fun _ => ?_
    exact (untallied_unreaped _).bind fun _ => trivial

theorem Upright.finishes (h : run.Upright fed l) (hend : run.Finishes run') :
    run'.Upright fed l := by
  obtain ⟨runner, rfl⟩ := hend
  exact h.imp id fun hclean => hclean.congr rfl rfl rfl

theorem uprights_completePoll (h : run.Upright fed l) (now : ℤ) :
    Uprights fed l (run.completePoll now) := by
  have hcompleted : run.Clean fed l → Uprights fed l run.completeReaped := fun h => by
    unfold completeReaped
    split
    · exact uprights_completeHelperSupervision h
    · exact .inr h
  refine (uprights_of_clean h run.advances_completeReaped hcompleted).bind fun run₁ l₁ h₁ => ?_
  have hinput : (if run₁.helperReaped = true ∧ run₁.helperInputDone = false then
      { run₁ with helperIoFailed := true, stdinOpen := false, helperInputDone := true }
      else run₁).Upright fed l₁ := by
    split
    · exact .inl (.inr (.inr rfl))
    · exact h₁
  refine (uprights_of_clean hinput (advances_readHelperOutput _) uprights_readHelperOutput).bind ?_
  intro run₂ l₂ h₂
  split
  · refine ((records_of_untallied (untallied_finishRun run₂)).and
      run₂.finishRun_finishes.records).mono ?_
    rintro run' _ ⟨rfl, hend⟩
    exact h₂.finishes hend
  split
  · obtain ⟨hresult, hsame⟩ := run₂.publishResult_result
    rw [hsame]
    exact h₂.imp id fun hclean => hclean.congr rfl rfl rfl
  · exact h₂

/-- A tick leaves an upright run upright. -/
theorem uprightTo_helperPollCb (h : run.Upright fed l) (rounds : ℕ) :
    (run.helperPollCb rounds).Records Tally.after (UprightTo fed) l := by
  refine (uprights_of_clean h run.advances_writeHelperInput uprights_writeHelperInput).bind ?_
  intro run₁ l₁ h₁
  refine (uprights_of_clean h₁ run₁.advances_readHelperOutput uprights_readHelperOutput).bind ?_
  intro run₂ l₂ h₂
  have hobserved : run₂.observeExit.Records Tally.after
      (fun exited l' => exited.2.Upright fed l') l₂ :=
    h₂.elim (fun hdoomed => run₂.observeExit_onward.records.mono fun _ _ h =>
      .inl (h.doomed hdoomed)) observeExit_upright
  refine hobserved.bind ?_
  rintro ⟨exited, run₃⟩ l₃ h₃ now
  refine (uprights_of_clean h₃ (run₃.advances_forwardTimeout exited now) fun h =>
    uprights_forwardTimeout h exited now).bind ?_
  intro run₄ l₄ h₄
  refine (uprightTo_of_clean h₄ (run₄.advances_pollSupervisor rounds) fun h =>
    uprightTo_pollSupervisor h rounds).bind ?_
  intro polled l₅ h₅
  cases polled with
  | none => exact uprightTo_none
  | some run₅ =>
    refine (uprights_enforceDeadlines (h₅ run₅ rfl) exited now).bind fun run₆ l₆ h₆ => ?_
    refine (uprightTo_reapOrDetach h₆ rounds exited now).bind fun reaped l₇ h₇ => ?_
    cases reaped with
    | none => exact uprightTo_none
    | some run₇ => exact (uprights_completePoll (h₇ run₇ rfl) now).toSome

/-- A stop leaves a run that is no success. -/
theorem runnerStop_doomed (run : AwgHelperRun) (reason : HelperStopReason) :
    (run.runnerStop reason).Returns Doomed := by
  have hreason : (if reason = .preempted then RunStopReason.preempted else .shutdown) ≠ .none := by
    split <;> exact RunStopReason.noConfusion
  refine (run.beginStop_doomed hreason).bind fun run₁ h₁ => ?_
  split
  · obtain ⟨-, hsame⟩ := run₁.publishResult_result
    rw [hsame]
    exact h₁
  · exact h₁

theorem uprightTo_onEvent (h : run.Upright fed l) (rounds : ℕ) (event : RunnerEvent) :
    (run.onEvent rounds event).Records Tally.after (UprightTo fed) l := by
  unfold onEvent
  split
  · exact h.to
  cases event with
  | tick => exact uprightTo_helperPollCb h rounds
  | stop reason => exact (uprights_of_doomed (run.runnerStop_doomed reason)).toSome

/-- Any number of events leave an upright run upright. -/
theorem uprightTo_onEvents (h : run.Upright fed l) (rounds : ℕ) (events : List RunnerEvent) :
    (run.onEvents rounds events).Records Tally.after (UprightTo fed) l := by
  induction events generalizing run l with
  | nil => exact h.to
  | cons event events ih =>
    refine (uprightTo_onEvent h rounds event).bind fun ran l₁ h₁ => ?_
    cases ran with
    | none => exact uprightTo_none
    | some run₁ => exact ih (h₁ run₁ rfl)

end AwgHelperRun

end NmSidebar
