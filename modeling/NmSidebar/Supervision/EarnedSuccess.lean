import NmSidebar.Program.Environment
import NmSidebar.Supervision.HelperInput
import NmSidebar.Supervision.TalliedRun

/-!
# Successes are earned

A run is started with a helper that could be set up, or fails at once, and goes on with the ticks of
its timer and the stops it is asked for, in any order. Its result is sent once, and a success of an
operation other than a report is sent only where the helper was given all of its input and ended
with success, nothing failed or was stopped, and no group is left that the run answers for.
-/

namespace NmSidebar

open Text Effects Supervisor Tally

/-! ## Starting a run -/

/-- What `spawn_helper` comes to: the helper could not be spawned, or it was, with a supervisor or
without, and the rest of the set-up may have failed. -/
inductive SpawnOutcome where
  | failed
  | spawned (deadlines : Deadlines) (pid : ℕ) (supervised setUp : Bool)

/-- `network_sidebar_awg_helper_runner_start` from the point where the runner is free. -/
def runnerStart (operation config : Bytes) (runner : HelperRunner) :
    SpawnOutcome → ServiceM AwgHelperRun
  | .failed =>
    { spawnedRun operation ⟨0, 0, 0⟩ 0 (decide (config ≠ [])) runner with
      supervisor := none, helperStatus := .childSetupFailed }.finishRun
  | .spawned deadlines pid supervised setUp =>
    let run := spawnedRun operation deadlines pid (decide (config ≠ [])) runner
    if supervised = false then { run with supervisor := none }.failHelperIo
    else if setUp = false then run.failHelperIo
    else return run

section Start

variable {operation config : Bytes} {runner : HelperRunner} {run : AwgHelperRun}

open AwgHelperRun

/-- A run that is not set up sends a result that is no success, or is no success any more. -/
theorem runnerStart_failed (operation config : Bytes) (runner : HelperRunner)
    {outcome : SpawnOutcome} (h : ∀ deadlines pid, outcome ≠ .spawned deadlines pid true true) :
    (runnerStart operation config runner outcome).Returns fun run =>
      (run.finished = true ∧ ∃ result, run.result = some result ∧ result.status ≠ .success) ∨
        run.finished = false ∧ run.Doomed ∧
          (operation ≠ ascii "list-profiles" → run.result = none ∧ run.profileReport = false) := by
  cases outcome with
  | failed =>
    unfold runnerStart
    refine (finishRun_finishes _).mono ?_
    rintro run ⟨runner, rfl⟩
    refine .inl ⟨rfl, _, rfl, ?_⟩
    simp [resultOf, effectiveStatus, spawnedRun]
  | spawned deadlines pid supervised setUp =>
    have hfailed (run : AwgHelperRun) (hopen : run.finished = false) (hnone : run.result = none)
        (hreport : run.profileReport = decide (operation = ascii "list-profiles")) :
        run.failHelperIo.Returns fun run => run.finished = false ∧ run.Doomed ∧
          (operation ≠ ascii "list-profiles" → run.result = none ∧ run.profileReport = false) := by
      refine (run.advances_failHelperIo.and run.failHelperIo_doomed).mono fun run' h => ?_
      obtain ⟨honward, hdoomed⟩ := h
      refine ⟨honward.finished.trans hopen, hdoomed, fun hother => ?_⟩
      have hno : run.profileReport = false := hreport.trans (decide_eq_false hother)
      exact ⟨(honward.unsent hno).trans hnone, honward.profileReport.trans hno⟩
    unfold runnerStart
    dsimp only
    split
    · exact (hfailed _ rfl rfl rfl).mono fun _ => .inr
    split
    · exact (hfailed _ rfl rfl rfl).mono fun _ => .inr
    · rename_i hsupervised hsetUp
      rw [Bool.not_eq_false] at hsupervised hsetUp
      exact absurd (by rw [hsupervised, hsetUp]) (h deadlines pid)

end Start

/-! ## What a success is earned by -/

/-- An event of the service beside a helper that reads its input. -/
abbrev InputEvent := Event serviceSig HelperInput

/-- The event is this call with this reply. -/
def Told (e : InputEvent) (o : ServiceCall) (reply : o.Reply) : Prop :=
  (⟨e.op, e.reply⟩ : (o : ServiceCall) × o.Reply) = ⟨o, reply⟩

/-- The helper is reaped with a status. -/
def ReapsHelper (e : InputEvent) (wait : HelperWait) : Prop :=
  Told e .reapHelper (.reaped wait) ∨ Told e .reapHelperNow (.reaped wait)

/-- A pipe of the helper fails. -/
def PipeFails (e : InputEvent) : Prop :=
  Told e .writeHelperInput .failed ∨ ∃ output, Told e .readHelperOutput (output, .failed)

/-- The service registers a group. -/
def RegistersGroup (e : InputEvent) (number : ℤ) : Prop :=
  ∃ sentinel, Told e (.spawnSentinel number) (some sentinel)

/-- The service acknowledges to the helper that a group is unregistered. -/
def UnregistersGroup (e : InputEvent) (number : ℤ) : Prop :=
  ∃ message, Told e (.send message) true ∧ message.EndsGroup ∧ message.processGroup = number

/-- What a published success is earned by: the helper was reaped with the exit status of success,
it was given all of its input, nothing failed, stopped or timed out, and every group that was
registered was unregistered, or is the one that was handed out. -/
structure Earned (config : Bytes) (tr : List InputEvent) (run : AwgHelperRun) (w : HelperInput) :
    Prop where
  finished : run.finished = true
  reaped : ∃ e ∈ tr, ReapsHelper e (.exited HelperExit.success.code)
  input : w.taken = config
  pipes : ∀ e ∈ tr, ¬ PipeFails e
  ioFailed : run.helperIoFailed = false
  stopped : run.stopReason = .none
  forward : run.forwardTimeoutSent = false
  supervisor : ∃ s, run.supervisor = some s ∧ s.failed = false ∧ s.cleanupStarted = false ∧
    s.ownedGroups = []
  groups : ∀ before e later number, tr = before ++ e :: later → RegistersGroup e number →
    run.handedOut = some number ∨ ∃ e' ∈ later, UnregistersGroup e' number

section Traces

variable {tr : List InputEvent} {l : Tally} {number : ℤ}

theorem standing_registers {e : InputEvent} (h : RegistersGroup e number) :
    number ∈ (l.after e.op e.reply).standing := by
  obtain ⟨o, w, r, w'⟩ := e
  obtain ⟨sentinel, h⟩ := h
  cases h
  exact List.mem_cons_self

theorem standing_after {e : InputEvent} (h : number ∈ l.standing)
    (hends : ¬ UnregistersGroup e number) : number ∈ (l.after e.op e.reply).standing := by
  obtain ⟨o, w, r, w'⟩ := e
  cases o with
  | spawnSentinel processGroup =>
    cases r with
    | none => exact h
    | some sentinel => exact List.mem_cons_of_mem _ h
  | send message =>
    cases r with
    | false => exact h
    | true =>
      show number ∈ (if _ then _ else _ : Tally).standing
      split
      · rename_i hend
        refine List.mem_filter.mpr ⟨h, decide_eq_true ?_⟩
        exact fun hsame => hends ⟨message, rfl, hend, hsame.symm⟩
      · exact h
  | writeHelperInput => cases r <;> exact h
  | readHelperOutput =>
    obtain ⟨output, result⟩ := r
    cases result <;> exact h
  | _ => exact h

/-- A group that is not unregistered goes on standing. -/
theorem standing_entries (h : number ∈ l.standing)
    (hends : ∀ e ∈ tr, ¬ UnregistersGroup e number) :
    number ∈ (Prog.entries Tally.after l tr).standing := by
  induction tr generalizing l with
  | nil => exact h
  | cons e tr ih =>
    refine ih (standing_after h (hends e List.mem_cons_self)) fun e he => ?_
    exact hends e (List.mem_cons_of_mem _ he)

/-- A disturbance is not taken back. -/
theorem disturbed_after (h : l.disturbed = true) (e : InputEvent) :
    (l.after e.op e.reply).disturbed = true := by
  obtain ⟨o, w, r, w'⟩ := e
  cases o with
  | spawnSentinel processGroup => cases r <;> exact h
  | send message =>
    cases r with
    | false => exact h
    | true =>
      show (if _ then _ else _ : Tally).disturbed = true
      split <;> exact h
  | writeHelperInput =>
    cases r with
    | «open» | done => exact h
    | failed => rfl
  | readHelperOutput =>
    obtain ⟨output, result⟩ := r
    cases result with
    | «open» | done => exact h
    | failed => rfl
  | _ => exact h

theorem disturbed_entries (h : l.disturbed = true) :
    (Prog.entries Tally.after l tr).disturbed = true := by
  induction tr generalizing l with
  | nil => exact h
  | cons e tr ih => exact ih (disturbed_after h e)

/-- A pipe that fails disturbs the tally. -/
theorem disturbed_of_pipeFails {e : InputEvent} (he : e ∈ tr) (hfails : PipeFails e) :
    (Prog.entries Tally.after l tr).disturbed = true := by
  induction tr generalizing l with
  | nil => exact absurd he List.not_mem_nil
  | cons e' tr ih =>
    rcases List.mem_cons.mp he with rfl | he
    · have hnow : (l.after e.op e.reply).disturbed = true := by
        obtain ⟨o, w, r, w'⟩ := e
        rcases hfails with h | ⟨output, h⟩ <;> cases h <;> rfl
      show (Prog.entries Tally.after (l.after e.op e.reply) tr).disturbed = true
      exact disturbed_entries hnow
    · exact ih he

/-- A status that the account has of the helper was told by an event. -/
theorem reaps_of_reaped {l : Account} {wait : HelperWait}
    (h : (Prog.entries Account.after l tr).helper.reaped = some wait)
    (hnone : l.helper.reaped ≠ some wait) : ∃ e ∈ tr, ReapsHelper e wait := by
  induction tr generalizing l with
  | nil => exact absurd h hnone
  | cons e tr ih =>
    by_cases hreaped : (l.after e.op e.reply).helper.reaped = some wait
    · refine ⟨e, List.mem_cons_self, ?_⟩
      obtain ⟨o, w, r, w'⟩ := e
      cases o with
      | reapHelper =>
        cases r with
        | reaped status =>
          obtain rfl : status = wait := Option.some.inj hreaped
          exact .inl rfl
        | running | noChild | failed => exact absurd hreaped hnone
      | reapHelperNow =>
        cases r with
        | reaped status =>
          obtain rfl : status = wait := Option.some.inj hreaped
          exact .inr rfl
        | running | noChild | failed => exact absurd hreaped hnone
      | receive | spawnSentinel | scanProcessGroup => cases r <;> exact absurd hreaped hnone
      | killGroup processGroup signal =>
        cases signal <;> cases r <;> exact absurd hreaped hnone
      | _ => exact absurd hreaped hnone
    · obtain ⟨e', he', hreaps⟩ := ih h hreaped
      exact ⟨e', List.mem_cons_of_mem _ he', hreaps⟩

end Traces

/-! ## Successes -/

open AwgHelperRun

/-- What a run has given to the helper's pipe, and that it has given all once the tally says that
the input is done. -/
structure FedBy (config : Bytes) (l : Tally) (w : HelperInput) : Prop where
  feeds : w.Feeds config
  done : l.inputDone = true → w.offset = config.length

theorem FedBy.behaves {config : Bytes} {o : ServiceCall} {l : Tally} {w : HelperInput}
    {reply : o.Reply} {w' : HelperInput} (h : FedBy config l w)
    (hb : inputBehaviour config o w reply w') : FedBy config (l.after o reply) w' := by
  obtain ⟨hfeeds, hle, hdone⟩ := h.feeds.behaves hb
  have hkept (hbefore : l.inputDone = true) : w'.offset = config.length := by
    have hend := h.done hbefore
    have hbound := hfeeds.offset_le
    omega
  refine ⟨hfeeds, fun hafter => ?_⟩
  cases o with
  | spawnSentinel processGroup => cases reply <;> exact hkept hafter
  | send message =>
    cases reply with
    | false => exact hkept hafter
    | true =>
      refine hkept ?_
      change (if _ then _ else _ : Tally).inputDone = true at hafter
      split at hafter <;> exact hafter
  | writeHelperInput =>
    cases reply with
    | «open» | failed => exact hkept hafter
    | done => exact hdone rfl
  | readHelperOutput =>
    obtain ⟨output, result⟩ := reply
    cases result <;> exact hkept hafter
  | _ => exact hkept hafter

/-- A run that was spawned and ends with a success that is published has earned it. -/
theorem earned_of_success {operation config : Bytes} {deadlines : Deadlines} {pid rounds : ℕ}
    {runner : HelperRunner} {events : List RunnerEvent} {tr : List InputEvent}
    {run : AwgHelperRun} {w : HelperInput}
    (hrun : Steps (inputBehaviour config)
      ((spawnedRun operation deadlines pid (decide (config ≠ [])) runner).onEvents rounds events)
      .start tr (.pure (some run)) w)
    (hreport : operation ≠ ascii "list-profiles") {result : HelperResult}
    (hresult : run.result = some result) (hsuccess : result.status = .success) :
    Earned config tr run w := by
  have hstart : (spawnedRun operation deadlines pid (decide (config ≠ [])) runner).profileReport =
      false := decide_eq_false hreport
  obtain ⟨hfinished, hdone, heffective, hsound⟩ :=
    ((progresses_onEvents _ rounds events).returned hrun run rfl).success rfl hstart hresult
      hsuccess
  obtain ⟨hstopped, hforward, hio⟩ : run.stopReason = .none ∧ run.forwardTimeoutSent = false ∧
      run.helperIoFailed = false := by
    simpa [Doomed] using hsound
  -- the account knows how the helper was reaped, and that no group is left
  have haudited : ∃ s, run.supervisor = some s ∧ s.ownedGroups = [] ∧
      (Prog.entries Account.after Account.empty tr).helper.reaped =
        some (.exited HelperExit.success.code) := by
    have hrecords := (records_onEvents
      (sound_spawnedRun operation deadlines pid (decide (config ≠ [])) runner) rounds
        events).returned hrun
    rcases hrecords run rfl with ⟨s, h⟩ | ⟨s, h⟩
    · exact absurd (h.unfinished.symm.trans hfinished) Bool.false_ne_true
    · refine ⟨s, h.supervisor, h.emptied, h.reaped h.ended ?_⟩
      have hstatus : run.effectiveStatus = run.helperStatus := by
        unfold effectiveStatus
        simp [hstopped, hforward, hio]
      exact hstatus.symm.trans heffective
  -- the tally knows the rest
  have hclean : run.Clean (decide (config = [])) (Prog.entries Tally.after Tally.empty tr) := by
    have hspawned : (spawnedRun operation deadlines pid (decide (config ≠ [])) runner).Clean
        (decide (config = [])) .empty := by
      refine ⟨⟨_, rfl, ⟨rfl, rfl, fun _ h => absurd h List.not_mem_nil⟩, fun h => ?_⟩, rfl,
        fun hdone => .inl ?_⟩
      · exact absurd h Bool.false_ne_true
      · have hnone : (!decide (config ≠ [])) = true := hdone
        simpa using hnone
    have hupright := (uprightTo_onEvents (.inr hspawned) rounds events).returned hrun
    exact (hupright run rfl).resolve_left hsound
  obtain ⟨s, hs, hempty, hreaped⟩ := haudited
  obtain ⟨s', hs', hupholds, -⟩ := hclean.supervised
  obtain rfl : s' = s := Option.some.inj (hs'.symm.trans hs)
  refine ⟨hfinished, reaps_of_reaped hreaped (Option.some_ne_none _).symm, ?_, fun e he hfails => ?_,
    hio, hstopped, hforward, ⟨s', hs, hupholds.sound, hupholds.begun, hempty⟩, ?_⟩
  · have hfed : FedBy config (Prog.entries Tally.after Tally.empty tr) w :=
      hrun.ledger (fun _ _ _ _ _ h hb => h.behaves hb)
        ⟨HelperInput.feeds_start config, fun h => absurd h Bool.false_ne_true⟩
    rw [hfed.feeds.taken]
    rcases hclean.input hdone with hnone | hwritten
    · rw [of_decide_eq_true hnone, List.take_nil]
    · rw [hfed.done hwritten, List.take_length]
  · exact Bool.false_ne_true (hclean.quiet.symm.trans (disturbed_of_pipeFails he hfails))
  · rintro before e later number rfl hregisters
    by_cases hends : ∃ e' ∈ later, UnregistersGroup e' number
    · exact .inr hends
    · left
      have hstands : number ∈
          (Prog.entries Tally.after Tally.empty (before ++ e :: later)).standing := by
        rw [Prog.entries_append, Prog.entries_cons]
        refine standing_entries (standing_registers hregisters) fun e' he' hend => ?_
        exact hends ⟨e', he', hend⟩
      refine (hupholds.standing number hstands).resolve_right ?_
      rintro ⟨group, hmem, -⟩
      rw [hempty] at hmem
      exact absurd hmem List.not_mem_nil

/-! ## Results of a run -/

/-- Events one after the other. -/
theorem AwgHelperRun.onEvents_append (run : AwgHelperRun) (rounds : ℕ)
    (before later : List RunnerEvent) :
    run.onEvents rounds (before ++ later) = run.onEvents rounds before >>= fun ran =>
      ran.elim (return none) fun run => run.onEvents rounds later := by
  induction before generalizing run with
  | nil => rfl
  | cons event before ih =>
    rw [List.cons_append, onEvents, onEvents, bind_assoc]
    congr 1
    funext ran
    cases ran with
    | none => rfl
    | some run₁ => exact ih run₁

/-- After a stop a run that was not finished is no success. -/
theorem AwgHelperRun.onEvents_stop {run : AwgHelperRun} (hopen : run.finished = false)
    (rounds : ℕ) (reason : HelperStopReason) (events : List RunnerEvent) :
    (run.onEvents rounds (.stop reason :: events)).Returns fun ran =>
      ∀ run', ran = some run' → run'.Doomed := by
  have hevent : run.onEvent rounds (.stop reason) = some <$> run.runnerStop reason := by
    rw [onEvent, if_neg (by simp [hopen])]
  rw [onEvents, hevent]
  have hstopped : (some <$> run.runnerStop reason).Returns fun ran =>
      ∃ run₁, ran = some run₁ ∧ run₁.Doomed :=
    (run.runnerStop_doomed reason).bind fun run₁ h => ⟨run₁, rfl, h⟩
  refine hstopped.bind ?_
  rintro _ ⟨run₁, rfl, hdoomed⟩
  exact (run₁.progresses_onEvents rounds events).mono fun _ h run' hrun' =>
    (h run' hrun').doomed hdoomed

/-- Results of a run are earned. Whatever is replied to the calls of a run, and in whatever order
the events come: at any moment at which the run is finished its result has been sent, what has been
sent stays what was sent, and a success of another operation than a report is earned. No stop came
before the run that succeeds was finished. -/
theorem result_earned {operation config : Bytes} {runner : HelperRunner} {outcome : SpawnOutcome}
    {rounds : ℕ} {before later : List RunnerEvent} {tr₀ tr₁ tr₂ : List InputEvent}
    {run₀ run₁ run : AwgHelperRun} {w₀ w₁ w : HelperInput}
    (hstart : Steps (inputBehaviour config) (runnerStart operation config runner outcome) .start tr₀
      (.pure run₀) w₀)
    (hbefore : Steps (inputBehaviour config) (run₀.onEvents rounds before) w₀ tr₁
      (.pure (some run₁)) w₁)
    (hlater : Steps (inputBehaviour config) (run₁.onEvents rounds later) w₁ tr₂
      (.pure (some run)) w) :
    (run₁.finished = true → run₁.result.isSome = true ∧ run = run₁) ∧
    (∀ result, run₁.result = some result → run.result = some result) ∧
    (operation ≠ ascii "list-profiles" → ∀ result, run.result = some result →
      result.status = .success → Earned config (tr₀ ++ (tr₁ ++ tr₂)) run w ∧
        ∀ reason rest, later = .stop reason :: rest → run₁.finished = true) := by
  have hfirst := (run₀.progresses_onEvents rounds before).returned hbefore run₁ rfl
  have hsecond := (run₁.progresses_onEvents rounds later).returned hlater run rfl
  have hended (hfinished : run₁.finished = true) : run = run₁ := by
    rw [onEvents_finished hfinished] at hlater
    obtain ⟨-, h, -⟩ := hlater.of_return
    exact Option.some.inj h
  have hwhole : run₀.Progresses run := by
    rcases hfirst with honward | ⟨last, hlast, hready, runner, rfl⟩
    · exact honward.progresses hsecond
    · rw [hended rfl]
      exact .inr ⟨last, hlast, hready, runner, rfl⟩
  by_cases hsetUp : ∃ deadlines pid, outcome = .spawned deadlines pid true true
  · obtain ⟨deadlines, pid, rfl⟩ := hsetUp
    obtain ⟨rfl, rfl, rfl⟩ : tr₀ = [] ∧
        run₀ = spawnedRun operation deadlines pid (decide (config ≠ [])) runner ∧
          w₀ = .start := Steps.of_return hstart
    refine ⟨fun h => ⟨hfirst.isSome rfl h, hended h⟩, fun result => hsecond.sent,
      fun hother result hresult hsuccess => ⟨?_, fun reason rest hstop => ?_⟩⟩
    · have hrun : Steps (inputBehaviour config)
          ((spawnedRun operation deadlines pid (decide (config ≠ [])) runner).onEvents rounds
            (before ++ later)) .start (tr₁ ++ tr₂) (.pure (some run)) w := by
        rw [onEvents_append]
        exact (hbefore.bind_append _).append hlater
      exact earned_of_success hrun hother hresult hsuccess
    · -- a stop of a run that is not finished leaves no success
      by_contra hopen
      subst hstop
      have hdoomed := (onEvents_stop (Bool.eq_false_iff.mpr hopen) rounds reason rest).returned
        hlater run rfl
      have hstart : (spawnedRun operation deadlines pid (decide (config ≠ [])) runner).profileReport
          = false := decide_eq_false hother
      exact (hwhole.success rfl hstart hresult hsuccess).2.2.2 hdoomed
  · have hfailed := (runnerStart_failed operation config runner fun deadlines pid h =>
      hsetUp ⟨deadlines, pid, h⟩).returned hstart
    refine ⟨fun h => ⟨?_, hended h⟩, fun result => hsecond.sent,
      fun hother result hresult hsuccess => absurd hsuccess ?_⟩
    · rcases hfailed with ⟨hfinished, result, hresult, -⟩ | ⟨hopen, -⟩
      · rw [hfirst.sent hresult]
        rfl
      · exact hfirst.isSome hopen h
    · rcases hfailed with ⟨hfinished, result₀, hresult₀, hno⟩ | ⟨hopen, hdoomed, hunsent⟩
      · rw [hwhole.sent hresult₀] at hresult
        rw [← Option.some.inj hresult]
        exact hno
      · obtain ⟨hnone, hreport⟩ := hunsent hother
        intro hsuccess
        exact (hwhole.success hnone hreport hresult hsuccess).2.2.2 (hwhole.doomed hdoomed)

/-! ## A success that is earned -/

/-- The helper's side of an import that goes well: the pipe takes all that is left at once, the
helper has ended with success and the channel is closed. -/
def importAnswer (config : Bytes) : (o : ServiceCall) → HelperInput → o.Reply × HelperInput
  | .receive, w => (.closed, w)
  | .send _, w => (true, w)
  | .closeChannel, w => ((), w)
  | .scanProcessGroup _ _, w => (.empty, w)
  | .spawnSentinel _, w => (some 1, w)
  | .killSentinel _, w => (.noProcess, w)
  | .reapSentinel _, w => (.exited, w)
  | .peekSentinel _, w => (.exited, w)
  | .killGroup _ _, w => (true, w)
  | .reapGroup _, w => (([], .noChild), w)
  | .monotonicMsec, w => (0, w)
  | .signalHelper _, w => ((), w)
  | .peekHelper, w => (.exited, w)
  | .reapHelperNow, w => (.reaped (.exited HelperExit.success.code), w)
  | .reapHelper, w => (.reaped (.exited HelperExit.success.code), w)
  | .readHelperOutput, w => (([], .done), w)
  | .writeHelperInput, w => (.done, ⟨max w.offset config.length, w.taken ++ config.drop w.offset⟩)

/-- A pipe that takes all that is left at once. -/
theorem steps_writeInputFrom_whole (config : Bytes) (w : HelperInput) :
    ∃ rounds tr, Steps pipeBehaviour (writeInputFrom config rounds w.offset) w.taken tr
      (.pure (some (.done, max w.offset config.length))) (w.taken ++ config.drop w.offset) := by
  by_cases hleft : w.offset < config.length
  · refine ⟨2, [⟨⟨config.drop w.offset⟩, w.taken, .took (config.drop w.offset).length,
      w.taken ++ config.drop w.offset⟩], ?_⟩
    have htook : pipeBehaviour ⟨config.drop w.offset⟩ w.taken
        (.took (config.drop w.offset).length) (w.taken ++ config.drop w.offset) :=
      ⟨le_rfl, by rw [List.take_length]⟩
    have hcount : (config.drop w.offset).length > 0 := by
      rw [List.length_drop]
      omega
    have hend : w.offset + (config.drop w.offset).length = max w.offset config.length := by
      rw [List.length_drop]
      omega
    have hlast : Steps pipeBehaviour (writeInputFrom config 1
        (w.offset + (config.drop w.offset).length)) (w.taken ++ config.drop w.offset) []
        (.pure (some (.done, max w.offset config.length))) (w.taken ++ config.drop w.offset) := by
      unfold writeInputFrom
      rw [if_neg (by rw [hend]; omega), hend]
      exact .here _ _
    unfold writeInputFrom
    rw [if_pos hleft]
    refine .step htook ?_
    show Steps pipeBehaviour (if (config.drop w.offset).length > 0 then _ else _) _ _ _ _
    rw [if_pos hcount]
    exact hlast
  · refine ⟨1, [], ?_⟩
    have hnone : config.drop w.offset = [] := List.drop_eq_nil_of_le (by omega)
    unfold writeInputFrom
    rw [if_neg hleft, hnone, List.append_nil, max_eq_left (by omega)]
    exact .here _ _

def importEnvironment (config : Bytes) : Environment (inputBehaviour config) where
  answer := importAnswer config
  allowed o w := by
    cases o with
    | writeHelperInput => exact steps_writeInputFrom_whole config w
    | _ => rfl

/-- An import of one byte and what its first tick comes to. -/
def importRun : List InputEvent × ServiceM (Option AwgHelperRun) × HelperInput :=
  (importEnvironment (ascii "c")).run 40
    ((spawnedRun (ascii "import") ⟨1, 2, 3⟩ 9 true ⟨[], [], false⟩).onEvents 4 [.tick]) .start

theorem result_earned_import : ∃ run : AwgHelperRun, ∃ tr w,
    run.result.map HelperResult.status = some .success ∧ Earned (ascii "c") tr run w := by
  have hrun : importRun.2.1.result.join.any (fun run =>
      decide (run.result.map HelperResult.status = some .success)) = true := by decide +kernel
  cases houtcome : importRun.2.1.result.join with
  | none =>
    rw [houtcome] at hrun
    exact absurd hrun Bool.false_ne_true
  | some run =>
    rw [houtcome] at hrun
    have hsuccess : run.result.map HelperResult.status = some .success := of_decide_eq_true hrun
    obtain ⟨result, hresult, hstatus⟩ := Option.map_eq_some_iff.mp hsuccess
    have hsteps := (importEnvironment (ascii "c")).steps 40
      ((spawnedRun (ascii "import") ⟨1, 2, 3⟩ 9 true ⟨[], [], false⟩).onEvents 4 [.tick]) .start
    have hreturned : importRun.2.1 = .pure (some run) :=
      Prog.eq_pure_of_result (Option.join_eq_some_iff.mp houtcome)
    rw [show ((importEnvironment (ascii "c")).run 40 ((spawnedRun (ascii "import") ⟨1, 2, 3⟩ 9 true
      ⟨[], [], false⟩).onEvents 4 [.tick]) .start).2.1 = .pure (some run) from hreturned] at hsteps
    have hstart : Steps (inputBehaviour (ascii "c")) (runnerStart (ascii "import") (ascii "c")
        ⟨[], [], false⟩ (.spawned ⟨1, 2, 3⟩ 9 true true)) .start []
          (.pure (spawnedRun (ascii "import") ⟨1, 2, 3⟩ 9 true ⟨[], [], false⟩)) .start := .here _ _
    have hbefore : Steps (inputBehaviour (ascii "c")) ((spawnedRun (ascii "import") ⟨1, 2, 3⟩ 9 true
        ⟨[], [], false⟩).onEvents 4 []) .start [] (.pure (some (spawnedRun (ascii "import")
          ⟨1, 2, 3⟩ 9 true ⟨[], [], false⟩))) .start := .here _ _
    have hearned := (result_earned hstart hbefore hsteps).2.2 (by decide +kernel) result hresult
      hstatus
    exact ⟨run, _, _, hsuccess, hearned.1⟩

end NmSidebar
