import NmSidebar.Helper.Commit
import NmSidebar.Supervision.CalmSystem
import NmSidebar.Supervision.RunnerInvariant

/-!
# A group is handed out only after a commit

The helper's program and the runner's are put together: the account of the service's calls knows
how the helper ended, and a helper that exited with success from `up` has committed.
-/

namespace NmSidebar

open Text Effects Account

/-! ## The helper -/

namespace HelperProcess

/-- What is left of the helper's program exits with success only after a commit. -/
def CommitsFirst (h : HelperProcess) : Prop :=
  (h.exit = none → Safe commits anywhere h.program ExitCommitted h.committed) ∧
    (h.exit = some (.exited HelperExit.success.code) → h.committed = true)

/-- An operation that is answered does to the commit bit what `commits` says. -/
theorem commits_of_answers {h h' : HelperProcess} {o : HelperCall} {r : o.Reply}
    (hanswer : h.Answers o r h') : commits o h.committed r h'.committed := by
  cases o with
  | terminationRequested | terminationIsPending | retainedProcessGroup | activeProcessGroup =>
    obtain ⟨-, rfl⟩ := hanswer
    rfl
  | setCleanupMode enabled =>
    obtain rfl := hanswer
    rfl
  | isCommitted =>
    obtain ⟨hr, rfl⟩ := hanswer
    exact ⟨hr, rfl⟩
  | readConfig configName => exact hanswer.1
  | compareExchangeCommitted =>
    simp only [Answers] at hanswer
    split at hanswer
    · obtain ⟨-, rfl⟩ := hanswer
      exact fun _ => rfl
    · obtain ⟨rfl, -⟩ := hanswer
      exact fun h => absurd h Bool.false_ne_true
  | superviseRelease | superviseWithdrawRelease => exact hanswer.elim
  | beginGroupTermination | unregisterGroup =>
    obtain ⟨-, -, rfl⟩ := hanswer
    rfl
  | _ => exact congrArg HelperProcess.committed hanswer

/-- An operation that is answered does not end the process. -/
theorem exit_of_answers {h h' : HelperProcess} {o : HelperCall} {r : o.Reply}
    (hanswer : h.Answers o r h') : h'.exit = h.exit := by
  cases o with
  | terminationRequested | terminationIsPending | retainedProcessGroup | activeProcessGroup
  | isCommitted | readConfig =>
    obtain ⟨-, rfl⟩ := hanswer
    rfl
  | setCleanupMode enabled =>
    obtain rfl := hanswer
    rfl
  | compareExchangeCommitted =>
    simp only [Answers] at hanswer
    split at hanswer <;> obtain ⟨-, rfl⟩ := hanswer <;> rfl
  | superviseRelease | superviseWithdrawRelease => exact hanswer.elim
  | beginGroupTermination | unregisterGroup =>
    obtain ⟨-, -, rfl⟩ := hanswer
    rfl
  | _ => exact congrArg HelperProcess.exit hanswer

/-- The reply to a request is one that `commits` allows. -/
theorem safe_answered {program : HelperM (Option HelperExit)} {c : Bool}
    (h : Safe commits anywhere program ExitCommitted c) (ok : Bool) :
    Safe commits anywhere (answered program ok) ExitCommitted c := by
  unfold answered
  split
  · exact h.2 ok c rfl
  · exact h.2 ok c rfl
  · exact h.2 ok c rfl
  · exact h.2 ok c rfl
  · exact h

/-- A process that makes a request keeps its program and its commit bit. -/
theorem Asks.same {h h' : HelperProcess} {purpose : Purpose} {type : SupervisionType} {child : ℕ}
    (hasks : h.Asks purpose type child h') :
    h'.program = h.program ∧ h'.committed = h.committed ∧ h'.exit = h.exit := by
  cases hasks <;> exact ⟨rfl, rfl, rfl⟩

theorem takeBack_same (h : HelperProcess) (type : SupervisionType) (child : ℕ) :
    (h.takeBack type child).program = h.program ∧
      (h.takeBack type child).committed = h.committed ∧ (h.takeBack type child).exit = h.exit := by
  unfold takeBack
  split <;> exact ⟨rfl, rfl, rfl⟩

theorem concluded_same (h : HelperProcess) (purpose : Purpose) (type : SupervisionType) (child : ℕ)
    (ok : Bool) : (h.concluded purpose type child ok).committed = h.committed ∧
      (h.concluded purpose type child ok).exit = h.exit ∧
      ((h.concluded purpose type child ok).program = h.program ∨
        (h.concluded purpose type child ok).program = answered h.program ok) := by
  cases purpose with
  | operation => exact ⟨rfl, rfl, .inr rfl⟩
  | tool =>
    unfold concluded
    dsimp only
    split <;> exact ⟨rfl, rfl, .inl rfl⟩
  | escalation => exact ⟨rfl, rfl, .inl rfl⟩

theorem CommitsFirst.concluded {h : HelperProcess} (hh : h.CommitsFirst) (purpose : Purpose)
    (type : SupervisionType) (child : ℕ) (ok : Bool) :
    (h.concluded purpose type child ok).CommitsFirst := by
  obtain ⟨hcommitted, hexit, hprogram⟩ := h.concluded_same purpose type child ok
  refine ⟨fun halive => ?_, fun hsuccess => hcommitted.trans (hh.2 (hexit.symm.trans hsuccess))⟩
  rw [hcommitted]
  have hsafe := hh.1 (hexit.symm.trans halive)
  rcases hprogram with heq | heq <;> rw [heq]
  · exact hsafe
  · exact safe_answered hsafe ok

end HelperProcess

open HelperProcess

/-- Only success has the exit status of success. -/
theorem code_eq_success {status : HelperExit} (h : status.code = HelperExit.success.code) :
    status = .success := by
  cases status <;> first | rfl | cases h

/-- One step of the helper keeps what is left of its program committed before it succeeds. -/
theorem HelperStep.commitsFirst {w w' : Supervision} (hstep : HelperStep w w')
    (h : w.helper.CommitsFirst) : w'.helper.CommitsFirst := by
  have hw := h
  have hfailed {h : HelperProcess} (hh : h.CommitsFirst) (purpose : Purpose)
      (type : SupervisionType) (child : ℕ) : (h.failed purpose type child).CommitsFirst :=
    hh.concluded purpose type child false
  have hsame {h h' : HelperProcess} (hh : h.CommitsFirst) (hprogram : h'.program = h.program)
      (hcommitted : h'.committed = h.committed) (hexit : h'.exit = h.exit) : h'.CommitsFirst := by
    unfold CommitsFirst
    rw [hprogram, hcommitted, hexit]
    exact hh
  have hasked {h : HelperProcess} {purpose : Purpose} {type : SupervisionType} {child : ℕ}
      (hasks : w.helper.Asks purpose type child h) : h.CommitsFirst :=
    hsame hw hasks.same.1 hasks.same.2.1 hasks.same.2.2
  cases hstep with
  | @operate o k r h' halive _ hp hanswer =>
    have hsafe := h.1 halive
    rw [hp] at hsafe
    have hcommits : commits o w.helper.committed r h'.committed := commits_of_answers hanswer
    refine ⟨fun _ => hsafe.2 r _ hcommits, fun hexit => ?_⟩
    have hnone : h'.exit = none := (exit_of_answers hanswer).trans halive
    exact nomatch hnone.symm.trans hexit
  | retain => exact h
  | @send purpose type child h' _ _ hasks =>
    obtain ⟨hprogram, hcommitted, hexit⟩ := h'.takeBack_same type child
    exact hsame (hsame (hasked hasks) hprogram hcommitted hexit) rfl rfl rfl
  | sendFails _ _ hasks => exact hfailed (hasked hasks) _ _ _
  | acknowledge => exact h.concluded _ _ _ true
  | refuse => exact h.concluded _ _ _ false
  | acknowledgeLate | reject | giveUp => exact hfailed h _ _ _
  | signal => exact h
  | @exit status halive _ hp =>
    refine ⟨fun hnone => (nomatch hnone), fun hexit => ?_⟩
    have hsafe := h.1 halive
    rw [hp] at hsafe
    have hcode : status.code = HelperExit.success.code := by
      simpa using hexit
    exact hsafe (congrArg some (code_eq_success hcode))
  | die wait _ hwait =>
    exact ⟨fun hnone => (nomatch hnone), fun hexit => absurd (Option.some.inj hexit) hwait⟩

theorem HelperSteps.commitsFirst {w w' : Supervision} (hsteps : HelperSteps w w')
    (h : w.helper.CommitsFirst) : w'.helper.CommitsFirst := by
  induction hsteps with
  | refl => exact h
  | tail _ hstep ih => exact hstep.commitsFirst ih

/-- A helper that has ended makes no more steps. -/
theorem HelperSteps.ended {w w' : Supervision} (hsteps : HelperSteps w w') {wait : HelperWait}
    (hexit : w.helper.exit = some wait) : w' = w := by
  rcases Relation.ReflTransGen.cases_head hsteps with rfl | ⟨w₁, hstep, -⟩
  · rfl
  · have hnone : w.helper.exit = none := by
      cases hstep <;> assumption
    exact nomatch hnone.symm.trans hexit

/-! ## The system -/

/-- The calls of the service leave the helper's process alone. -/
theorem ServiceCall.Effect.helper {o : ServiceCall} {w w' : Supervision} {r : o.Reply}
    (h : o.Effect w r w') : w'.helper = w.helper := by
  cases o with
  | receive =>
    cases r with
    | message =>
      obtain ⟨-, h⟩ := h
      rw [h]
    | wouldBlock | closed =>
      obtain ⟨-, -, rfl⟩ := h
      rfl
    | malformed =>
      obtain rfl := h
      rfl
  | send =>
    rcases h with ⟨-, rfl⟩ | ⟨-, rfl⟩ <;> rfl
  | peekHelper =>
    obtain ⟨-, -, rfl⟩ := h
    rfl
  | reapHelper | reapHelperNow =>
    obtain ⟨-, rfl⟩ := h
    rfl
  | closeChannel =>
    obtain rfl := h
    rfl
  | _ =>
    obtain rfl := h
    rfl

/-- What the account says of the helper is how it ended. -/
def Account.Agrees (l : Account) (w : Supervision) : Prop :=
  ∀ wait, l.helper.reaped = some wait → w.helper.exit = some wait

theorem Account.Agrees.serves {l : Account} {o : ServiceCall} {w w' : Supervision} {r : o.Reply}
    (h : l.Agrees w) (hserves : NmSidebar.serves o w r w') : (l.after o r).Agrees w' := by
  obtain ⟨w₁, hsteps, heffect⟩ := hserves
  have hkept : l.Agrees w' := by
    intro wait hwait
    have hexit := h wait hwait
    rw [heffect.helper, HelperSteps.ended hsteps hexit]
    exact hexit
  cases o with
  | reapHelper | reapHelperNow =>
    cases r with
    | reaped status =>
      rintro wait ⟨⟩
      obtain ⟨hexit, rfl⟩ := heffect
      exact hexit status rfl
    | running | noChild | failed => exact hkept
  | receive | scanProcessGroup => cases r <;> exact hkept
  | spawnSentinel => cases r <;> exact hkept
  | killGroup processGroup signal => cases signal <;> cases r <;> exact hkept
  | _ => exact hkept

/-- The helper of the system has the program of an `up` that commits before it succeeds. -/
theorem commitsFirst_serves {o : ServiceCall} {w w' : Supervision} {r : o.Reply}
    (h : w.helper.CommitsFirst) (hserves : serves o w r w') : w'.helper.CommitsFirst := by
  obtain ⟨w₁, hsteps, heffect⟩ := hserves
  rw [heffect.helper]
  exact HelperSteps.commitsFirst hsteps h

theorem commitsFirst_start (entries : ℕ) (path name : Bytes) (deadlines : Deadlines) :
    (HelperProcess.start (helperMain entries
      (spawnArguments path (ascii "up") name deadlines))).CommitsFirst :=
  ⟨fun _ => helperMain_up_commits entries path name _ _, fun h => nomatch h⟩

/-- The run that is spawned meets the invariant. -/
theorem sound_spawnedRun (operation : Bytes) (deadlines : Deadlines) (pid : ℕ) (hasConfig : Bool)
    (runner : HelperRunner) :
    (spawnedRun operation deadlines pid hasConfig runner).Sound
      (decide (operation = ascii "up")) (hasConfig || decide (operation = ascii "list-profiles"))
      False (supervisorNew (decide (operation = ascii "up"))) .empty where
  supervisor := rfl
  kept := ⟨fun _ h => (nomatch h), fun _ h => (nomatch h), fun h => (nomatch h), rfl⟩
  asked := rfl
  plain hup := by
    have hup : operation = ascii "up" := by simpa using hup
    subst hup
    rfl
  reaped h := nomatch h
  handedOut h := nomatch h
  consistent := Supervisor.consistent_new _
  agrees _ := Supervisor.releaseAgrees_new _
  unreleasable h := ⟨h, fun _ h => nomatch h⟩
  emptied h := nomatch h
  cleanup h := nomatch h
  pipes h := by
    obtain ⟨hconfig, hreport⟩ := Bool.or_eq_false_iff.mp h
    exact ⟨hconfig, hreport, by simp [spawnedRun, hconfig], by simp [spawnedRun, hreport]⟩
  report h := (Bool.or_eq_false_iff.mp h).2
  unfinished := rfl
  unpublished _ := rfl
  doomed h := h.elim

/-! ## Groups that do not survive -/

/-- An event of the service in the system. -/
abbrev ServiceEvent := Event serviceSig Supervision

/-- The service registers a group: it starts the group's sentinel. -/
def Registers (e : ServiceEvent) (number : ℤ) : Prop :=
  ∃ sentinel, (⟨e.op, e.reply⟩ : (o : ServiceCall) × o.Reply) =
    ⟨.spawnSentinel number, some sentinel⟩

/-- The service kills a group, or finds that nothing of it lives. -/
def Ends (e : ServiceEvent) (number : ℤ) : Prop :=
  (⟨e.op, e.reply⟩ : (o : ServiceCall) × o.Reply) = ⟨.killGroup number .kill, true⟩ ∨
    ∃ sentinel, (⟨e.op, e.reply⟩ : (o : ServiceCall) × o.Reply) =
      ⟨.scanProcessGroup number sentinel, .empty⟩

theorem registers_owed {l : Account} {e : ServiceEvent} {number : ℤ} (h : Registers e number) :
    number ∈ (l.after e.op e.reply).owed := by
  obtain ⟨o, w, r, w'⟩ := e
  obtain ⟨sentinel, h⟩ := h
  cases h
  exact List.mem_cons_self

theorem owed_after {l : Account} {e : ServiceEvent} {number : ℤ} (h : number ∈ l.owed)
    (hends : ¬ Ends e number) : number ∈ (l.after e.op e.reply).owed := by
  have hsettle {processGroup : ℤ} (hne : number ≠ processGroup) :
      number ∈ (l.settle processGroup).owed :=
    List.mem_filter.mpr ⟨h, by simpa using hne⟩
  obtain ⟨o, w, r, w'⟩ := e
  cases o with
  | spawnSentinel processGroup =>
    cases r with
    | none => exact h
    | some sentinel => exact List.mem_cons_of_mem _ h
  | scanProcessGroup processGroup sentinel =>
    cases r with
    | failed | live => exact h
    | empty =>
      refine hsettle ?_
      rintro rfl
      exact hends (.inr ⟨sentinel, rfl⟩)
  | killGroup processGroup signal =>
    cases signal with
    | term | int => cases r <;> exact h
    | kill =>
      cases r with
      | false => exact h
      | true =>
        refine hsettle ?_
        rintro rfl
        exact hends (.inl rfl)
  | receive | reapHelper | reapHelperNow => cases r <;> exact h
  | _ => exact h

/-- A group that does not end stays on the account. -/
theorem owed_entries {l : Account} {tr : List ServiceEvent} {number : ℤ} (h : number ∈ l.owed)
    (hends : ∀ e ∈ tr, ¬ Ends e number) : number ∈ (Prog.entries after l tr).owed := by
  induction tr generalizing l with
  | nil => exact h
  | cons e tr ih =>
    refine ih (owed_after h (hends e List.mem_cons_self)) fun e he => ?_
    exact hends e (List.mem_cons_of_mem _ he)

/-! ## The handshake -/

/-- Whatever the helper and the service do and in whatever order, a group is handed out only in a
run of `up` whose helper has committed and has exited with success. When a run is finished, every
group that was registered in it was killed or found empty later on, unless it was handed out. -/
theorem release_committed {entries rounds pid : ℕ} {path operation name : Bytes}
    {deadlines : Deadlines} {hasConfig : Bool} {runner : HelperRunner}
    {events : List AwgHelperRun.RunnerEvent} {tr : List ServiceEvent} {run : AwgHelperRun} {w : Supervision}
    (hrun : Steps serves ((spawnedRun operation deadlines pid hasConfig runner).onEvents rounds events)
      (spawned entries path operation name deadlines) tr (.pure (some run)) w) :
    (∀ number, run.handedOut = some number → operation = ascii "up" ∧
      w.helper.committed = true ∧ w.helper.exit = some (.exited HelperExit.success.code)) ∧
    (run.finished = true → ∀ before e later number, tr = before ++ e :: later →
      Registers e number → run.handedOut = some number ∨ ∃ e' ∈ later, Ends e' number) := by
  have hrecords := AwgHelperRun.records_onEvents
    (sound_spawnedRun operation deadlines pid hasConfig runner) rounds events
  have haudited : ∃ s, run.Audited (decide (operation = ascii "up")) s (Prog.entries after .empty tr) ∧
      (run.finished = true → s.ownedGroups = []) := by
    rcases (hrecords.returned hrun) run rfl with ⟨s, h⟩ | ⟨s, h⟩
    · refine ⟨s, h.toAudited, fun hfinished => ?_⟩
      exact absurd (h.unfinished.symm.trans hfinished) Bool.noConfusion
    · exact ⟨s, h.toAudited, fun _ => h.emptied⟩
  obtain ⟨s, haudited, hemptied⟩ := haudited
  refine ⟨fun number hnumber => ?_, fun hfinished before e later number htr hregisters => ?_⟩
  · obtain ⟨hreaped, hstatus, -, hup⟩ := haudited.handedOut (hnumber ▸ rfl)
    have hup : operation = ascii "up" := by simpa using hup
    subst hup
    -- the account agrees with the helper's end, and the helper commits before it succeeds
    have hstart : Account.empty.Agrees (spawned entries path (ascii "up") name deadlines) ∧
        (spawned entries path (ascii "up") name deadlines).helper.CommitsFirst :=
      ⟨fun _ h => (nomatch h), commitsFirst_start entries path name deadlines⟩
    have hkeep (o : ServiceCall) (l : Account) (w : Supervision) (r : o.Reply) (w' : Supervision)
        (h : l.Agrees w ∧ w.helper.CommitsFirst) (hserves : serves o w r w') :
        (l.after o r).Agrees w' ∧ w'.helper.CommitsFirst :=
      ⟨h.1.serves hserves, commitsFirst_serves h.2 hserves⟩
    have hjoint := hrun.ledger hkeep hstart
    have hexit := hjoint.1 _ (haudited.reaped hreaped hstatus)
    exact ⟨rfl, hjoint.2.2 hexit, hexit⟩
  · by_cases hends : ∃ e' ∈ later, Ends e' number
    · exact .inr hends
    · left
      have howed : number ∈ (Prog.entries after Account.empty tr).owed := by
        subst htr
        rw [Prog.entries_append, Prog.entries_cons]
        refine owed_entries (registers_owed hregisters) fun e' he' hend => ?_
        exact hends ⟨e', he', hend⟩
      refine (haudited.kept.owed number howed).resolve_right ?_
      rintro ⟨group, hmem, -⟩
      rw [hemptied hfinished] at hmem
      cases hmem

/-- An `up` with a userspace backend, reaped at the second tick: its group is handed out, and the
helper has committed. -/
theorem release_committed_sample : ∃ (run : AwgHelperRun) (w : Supervision),
    run.handedOut = some 5 ∧ run.finished = true ∧
    w.helper.committed = true ∧ w.helper.exit = some (.exited HelperExit.success.code) := by
  have hrun : (calmOutcome [.tick, .tick]).any (fun run =>
      decide (run.handedOut = some 5) && run.finished) = true := by decide +kernel
  cases houtcome : calmOutcome [.tick, .tick] with
  | none =>
    rw [houtcome] at hrun
    cases hrun
  | some run =>
    rw [houtcome] at hrun
    have hboth : run.handedOut = some 5 ∧ run.finished = true := by simpa using hrun
    obtain ⟨-, hcommitted, hexit⟩ := (release_committed (steps_calmRun houtcome)).1 5 hboth.1
    exact ⟨run, _, hboth.1, hboth.2, hcommitted, hexit⟩

end NmSidebar
