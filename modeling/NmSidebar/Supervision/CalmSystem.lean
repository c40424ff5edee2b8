import NmSidebar.Helper.Calm
import NmSidebar.Supervision.SupervisorRuns
import NmSidebar.Supervision.System

/-!
# A calm system

A schedule of the helper and the service: before every call of the service the helper runs until it
has to wait, and the kernel does what it is asked to. The runs against it are the examples that the
helper and the service can do together what is said of them.
-/

namespace NmSidebar

open Text Effects HelperProcess

/-- The system, what the helper's operations see, and whether `awg-quick up` has run. -/
structure CalmSystem where
  system : Supervision
  machine : World
  isUp : Bool

namespace CalmSystem

/-! ## The helper -/

/-- The operation is `awg-quick up`. -/
def isUpCall : HelperCall → Bool
  | .subprocessRun .up .. => true
  | _ => false

/-- The operation makes a request of the service. -/
def requests : HelperCall → Bool
  | .superviseRelease .. | .superviseWithdrawRelease .. | .beginGroupTermination ..
  | .unregisterGroup .. => true
  | _ => false

/-- What is replied to an operation that makes no request. -/
def reply (c : CalmSystem) : (o : HelperCall) → o.Reply × World
  | .terminationRequested => (c.system.helper.terminationRequested, c.machine)
  | .terminationIsPending => (decide (c.system.helper.level ≠ 0), c.machine)
  | .isCommitted => (c.system.helper.committed, c.machine)
  | .retainedProcessGroup => (c.system.helper.retained, c.machine)
  | .activeProcessGroup => (c.system.helper.active.isSome, c.machine)
  | .compareExchangeCommitted =>
    (decide (c.system.helper.level = 0 ∧ c.system.helper.cleanup = false ∧
      c.system.helper.committed = false), c.machine)
  | .readConfig _ => (.ok (sampleConfig, sampleIdentity), c.machine)
  | .writeStagingCandidate _ => (.complete (ascii "t"), c.machine)
  | .iteratorNew _ => (true, c.machine)
  | .iteratorNext => (.done, c.machine)
  | .subprocessRun .strip .. =>
    (⟨.exited, true, .exited 0, true, .silent, ascii "[Interface]"⟩, c.machine)
  | .subprocessRun .up .. =>
    (⟨.exited, true, .exited 0, true, { QuickDiagnostics.silent with
      userspaceStarted := c.system.helper.retained.isSome, interfaceSeen := true }, []⟩, c.machine)
  | o => (⟨if c.isUp then [sampleLink] else [], wideScope, true⟩ : Calm).answer o c.machine

/-- What the operation does to the process. -/
def effect (h : HelperProcess) : HelperCall → HelperProcess
  | .setCleanupMode enabled => { h with cleanup := enabled }
  | .compareExchangeCommitted =>
    if h.level = 0 ∧ h.cleanup = false ∧ h.committed = false then
      { h with committed := true, retained := none }
    else h
  | _ => h

theorem answers_reply (c : CalmSystem) {o : HelperCall} (ho : requests o = false) :
    c.system.helper.Answers o (c.reply o).1 (effect c.system.helper o) := by
  cases o with
  | superviseRelease | superviseWithdrawRelease | beginGroupTermination | unregisterGroup => cases ho
  | compareExchangeCommitted =>
    simp only [Answers, reply, effect]
    split
    · exact ⟨decide_eq_true ‹_›, rfl⟩
    · exact ⟨decide_eq_false ‹_›, rfl⟩
  | terminationIsPending => exact ⟨fun h => decide_eq_true h, rfl⟩
  | readConfig => exact ⟨fun _ h => (nomatch h), rfl⟩
  | terminationRequested | isCommitted | retainedProcessGroup | activeProcessGroup =>
    exact ⟨rfl, rfl⟩
  | _ => rfl

/-- The helper makes a request. -/
def request (c : CalmSystem) (purpose : Purpose) (type : SupervisionType) (child : ℕ) :
    CalmSystem :=
  { c with system := { c.system with
      helper := c.system.helper.sent purpose type child
      requests := c.system.requests ++ [c.system.helper.request type child] } }

/-- `awg-quick up` of a userspace backend registers a group and keeps it. -/
def runUp (c : CalmSystem) : Option CalmSystem :=
  if c.system.helper.retained.isSome then none
  else if c.system.helper.active = some 5 then
    some { c with system := { c.system with
      helper := { c.system.helper with active := none, retained := some 5 } } }
  else if c.system.helper.channelOpen ∧ c.system.serviceOpen then
    some (c.request .tool .register 5)
  else none

/-- The operation replies. -/
def operate (c : CalmSystem) (o : HelperCall) (k : o.Reply → HelperM (Option HelperExit)) :
    CalmSystem :=
  { system := { c.system with
      helper := { effect c.system.helper o with program := k (c.reply o).1 } }
    machine := (c.reply o).2
    isUp := c.isUp || isUpCall o }

/-- The step of a helper that does not wait for a reply. -/
def advance (c : CalmSystem) : Option CalmSystem :=
  match c.system.helper.program with
  | .pure (some status) =>
    some { c with system := { c.system with
      helper := { c.system.helper with exit := some (.exited status.code) } } }
  | .pure none => none
  | .call (.superviseRelease child _) _ =>
    if c.system.helper.channelOpen ∧ c.system.serviceOpen ∧ 0 < child then
      some (c.request .operation .release child)
    else none
  | .call o k =>
    if requests o then none
    else if isUpCall o ∧ c.system.helper.retained.isNone then c.runUp
    else some (c.operate o k)

/-- The helper's next step, or none where it has to wait. -/
def next (c : CalmSystem) : Option CalmSystem :=
  if c.system.helper.exit.isSome then none
  else
    match c.system.helper.exchange, c.system.replies with
    | some exchange, response :: rest =>
      if exchangeEnd exchange response = .acknowledged then
        some { c with system := { c.system with
          helper := c.system.helper.concluded exchange.purpose exchange.type exchange.child true
          replies := rest } }
      else none
    | some _, [] => none
    | none, _ => c.advance

theorem runsUp_call {o : HelperCall} (h : isUpCall o = true)
    (k : o.Reply → HelperM (Option HelperExit)) : runsUp (.call o k) = true := by
  unfold isUpCall at h
  split at h
  · rfl
  · cases h

theorem runUp_step {c c' : CalmSystem} (h : c.runUp = some c') (halive : c.system.helper.exit = none)
    (hidle : c.system.helper.exchange = none) (hup : runsUp c.system.helper.program = true) :
    HelperStep c.system c'.system := by
  have htool : runsTool c.system.helper.program = true := by
    revert hup
    unfold runsUp runsTool
    split <;> simp_all
  unfold runUp at h
  split at h
  · cases h
  split at h
  · rename_i hactive
    cases h
    exact .retain halive hidle hup hactive
  split at h
  · rename_i hopen
    cases h
    exact .send halive hidle (.registerTool 5 htool) hopen.1 hopen.2 (by decide)
  · cases h

theorem advance_step {c c' : CalmSystem} (h : c.advance = some c')
    (halive : c.system.helper.exit = none) (hidle : c.system.helper.exchange = none) :
    HelperStep c.system c'.system := by
  unfold advance at h
  split at h
  · rename_i status hp
    cases h
    exact .exit halive hidle hp
  · cases h
  · rename_i child deadline k hp
    split at h
    · rename_i hopen
      cases h
      exact .send halive hidle (.release hp) hopen.1 hopen.2.1 hopen.2.2
    · cases h
  · rename_i o k _ hp
    split at h
    · cases h
    rename_i hrequests
    split at h
    · rename_i hup
      refine runUp_step h halive hidle ?_
      rw [hp]
      exact runsUp_call hup.1 k
    · cases h
      exact .operate halive hidle hp (c.answers_reply (Bool.eq_false_iff.mpr hrequests))

/-- The step is one the helper may take. -/
theorem next_step {c c' : CalmSystem} (h : c.next = some c') : HelperStep c.system c'.system := by
  unfold next at h
  split at h
  · cases h
  rename_i halive
  have halive : c.system.helper.exit = none := Option.not_isSome_iff_eq_none.mp halive
  split at h
  · rename_i exchange response rest hexchange hreplies
    split at h
    · rename_i hend
      cases h
      exact .acknowledge halive hexchange hreplies hend
    · cases h
  · cases h
  · rename_i hidle
    exact advance_step h halive hidle

/-- The helper runs on until it has to wait. -/
def run : ℕ → CalmSystem → CalmSystem
  | 0, c => c
  | n + 1, c =>
    match c.next with
    | none => c
    | some c => c.run n

theorem run_steps (n : ℕ) (c : CalmSystem) : HelperSteps c.system (c.run n).system := by
  induction n generalizing c with
  | zero => exact .refl
  | succ n ih =>
    unfold run
    split
    · exact .refl
    · rename_i c' hnext
      exact (ih c').head (next_step hnext)

/-! ## The service -/

/-- What the service's calls reply when the helper has run on. -/
def serve (c : CalmSystem) : (o : ServiceCall) → o.Reply × CalmSystem
  | .receive =>
    match c.system.requests with
    | message :: rest => (.message message, { c with system := { c.system with requests := rest } })
    | [] => (if c.system.peerOpen then .wouldBlock else .closed, c)
  | .send message =>
    (true, { c with system := { c.system with replies := c.system.replies ++ [message] } })
  | .closeChannel => ((), { c with system := { c.system with serviceOpen := false } })
  | .peekHelper => (if c.system.helper.exit.isSome then .exited else .running, c)
  | .reapHelper | .reapHelperNow =>
    (match c.system.helper.exit with
      | some status => .reaped status
      | none => .running, c)
  | .reapGroup _ => (([], .noChild), c)
  | o => (granting o, c)

theorem effect_serve (c : CalmSystem) (o : ServiceCall) :
    o.Effect c.system (c.serve o).1 (c.serve o).2.system := by
  cases o with
  | receive =>
    unfold serve
    split
    · rename_i message rest hrequests
      exact ⟨hrequests, rfl⟩
    · rename_i hrequests
      dsimp only
      split
      · exact ⟨hrequests, ‹_›, rfl⟩
      · exact ⟨hrequests, Bool.eq_false_iff.mpr ‹_›, rfl⟩
  | send => exact .inl ⟨rfl, rfl⟩
  | peekHelper =>
    unfold serve
    dsimp only
    split
    · exact ⟨fun _ => ‹_›, fun h => (nomatch h), rfl⟩
    · exact ⟨fun h => (nomatch h), fun _ => Option.not_isSome_iff_eq_none.mp ‹_›, rfl⟩
  | reapHelper | reapHelperNow =>
    unfold serve
    dsimp only
    split
    · rename_i status hexit
      refine ⟨?_, rfl⟩
      rintro status' ⟨⟩
      exact hexit
    · exact ⟨fun _ h => (nomatch h), rfl⟩
  | _ => rfl

/-- The behaviour of the service's calls, with the helper's machine beside the system. -/
def servesCalm : Behaviour serviceSig CalmSystem := fun o c r c' => serves o c.system r c'.system

/-- The calm system's answers. The helper makes at most 200 steps before each. -/
def environment : Environment servesCalm where
  answer o c := (c.run 200).serve o
  allowed o c := ⟨(c.run 200).system, c.run_steps 200, effect_serve _ o⟩

end CalmSystem

/-! ## Runs of `up` -/

/-- Deadlines of a run that are not reached. -/
def calmDeadlines : Deadlines := ⟨100000, 200000, 300000⟩

/-- The run of `up` that the service starts. -/
def calmUp : AwgHelperRun := spawnedRun (ascii "up") calmDeadlines 9 false ⟨[], [], false⟩

/-- The system when `up` has been started, with the profile on disk. -/
def calmStart : CalmSystem :=
  ⟨spawned 5 (ascii "helper") (ascii "up") (ascii "a") calmDeadlines,
    emptyWorld.setFile .config (configNameOf (ascii "a")) (some sampleConfig), false⟩

/-- The run after some events in the calm system. -/
def calmRun (events : List AwgHelperRun.RunnerEvent) :
    List (Event serviceSig CalmSystem) × ServiceM (Option AwgHelperRun) × CalmSystem :=
  CalmSystem.environment.run 60 (calmUp.onEvents 9 events) calmStart

/-- What it has come to. -/
def calmOutcome (events : List AwgHelperRun.RunnerEvent) : Option AwgHelperRun :=
  (calmRun events).2.1.result.join

/-- A run in the calm system is one of the runs of the system. -/
theorem CalmSystem.steps_run {α : Type} {n : ℕ} {p : ServiceM α} {c : CalmSystem} {a : α}
    (h : (CalmSystem.environment.run n p c).2.1.result = some a) :
    Steps serves p c.system ((CalmSystem.environment.run n p c).1.map fun e =>
        ⟨e.op, e.before.system, e.reply, e.after.system⟩)
      (.pure a) (CalmSystem.environment.run n p c).2.2.system := by
  have himage := Steps.image (f := CalmSystem.system) (CalmSystem.environment.steps n p c)
  rw [← Prog.eq_pure_of_result h]
  exact himage

theorem steps_calmRun {events : List AwgHelperRun.RunnerEvent} {run : AwgHelperRun}
    (h : calmOutcome events = some run) :
    Steps serves (calmUp.onEvents 9 events) calmStart.system
      ((calmRun events).1.map fun e => ⟨e.op, e.before.system, e.reply, e.after.system⟩)
      (.pure (some run)) (calmRun events).2.2.system :=
  CalmSystem.steps_run (Option.join_eq_some_iff.mp h)

end NmSidebar
