import NmSidebar.Helper.Main
import NmSidebar.Supervision.Release
import NmSidebar.Supervision.Runner

/-!
# The helper and the service together

The helper runs its `main` in one process and the service its timer in another. They share the
supervision channel, a queue in each direction, and nothing else. The helper's program goes on one
operation at a time; a request on the channel is one step to send it and another to take the reply,
and the service may do anything in between. Replies of the kernel, the clock, signals and the death
of the helper are not determined.
-/

namespace NmSidebar

open Text Effects

/-! ## The helper's process -/

/-- What a request is made for: an operation of the helper's program, a tool that it runs, or an
escalated termination that `dispatch_termination` answers. -/
inductive Purpose where
  | operation
  | tool
  | escalation
  deriving DecidableEq

/-- A request that waits for its reply in `supervision_exchange`. -/
structure Exchange where
  purpose : Purpose
  type : SupervisionType
  child : ℕ
  message : SupervisionMessage
  deriving DecidableEq

/-- The helper's process: what is left of `main`, and the statics of `amneziawg_process.c`. The
atomic `termination_state` is `level`, `cleanup` and `committed`. `granted` is not in the source:
it is the group whose release the service has acknowledged and the helper has not taken back. -/
structure HelperProcess where
  program : HelperM (Option HelperExit)
  exchange : Option Exchange
  channelOpen : Bool
  sequence : UInt32
  level : ℕ
  cleanup : Bool
  committed : Bool
  active : Option ℕ
  retained : Option ℕ
  granted : Option ℕ
  exit : Option HelperWait

namespace HelperProcess

/-- The process as `main` starts it. -/
def start (program : HelperM (Option HelperExit)) : HelperProcess :=
  ⟨program, none, true, 1, 0, false, false, none, none, none, none⟩

/-- `network_sidebar_amneziawg_process_termination_requested`. -/
def terminationRequested (h : HelperProcess) : Bool :=
  !h.committed && (decide (h.level = 2) || (decide (h.level = 1) && !h.cleanup))

/-- The group is one the process may have to terminate. -/
def registered (h : HelperProcess) (child : ℕ) : Bool :=
  decide (h.active = some child) || decide (h.retained = some child)

/-- `unregister_group` up to its request. -/
def forget (h : HelperProcess) (child : ℕ) : HelperProcess :=
  { h with
    active := if h.active = some child then none else h.active
    retained := if h.retained = some child then none else h.retained }

/-- What an operation may reply, and the process it leaves, where it makes no request. A committed
release no longer has a retained group. -/
def Answers (h : HelperProcess) : (o : HelperCall) → o.Reply → HelperProcess → Prop
  | .terminationRequested, r, h' => r = h.terminationRequested ∧ h' = h
  | .setCleanupMode enabled, _, h' => h' = { h with cleanup := enabled }
  | .isCommitted, r, h' => r = h.committed ∧ h' = h
  | .terminationIsPending, r, h' => (h.level ≠ 0 → r = true) ∧ h' = h
  | .retainedProcessGroup, r, h' => r = h.retained ∧ h' = h
  | .activeProcessGroup, r, h' => r = h.active.isSome ∧ h' = h
  | .compareExchangeCommitted, r, h' =>
    if h.level = 0 ∧ h.cleanup = false ∧ h.committed = false then
      r = true ∧ h' = { h with committed := true, retained := none }
    else r = false ∧ h' = h
  | .readConfig _, r, h' => (∀ failure, r = .error failure → failure ≠ .success) ∧ h' = h
  | .superviseRelease .., _, _ | .superviseWithdrawRelease .., _, _ => False
  | .beginGroupTermination child _, r, h' | .unregisterGroup child _, r, h' =>
    h.registered child = false ∧ r = true ∧ h' = h
  | _, _, h' => h' = h

/-- The operation runs a tool. -/
def runsTool : HelperM (Option HelperExit) → Bool
  | .call (.subprocessRun ..) _ | .call (.resolvconfApply ..) _ | .call (.resolvconfRevert ..) _
  | .call (.firewallCaptureScope ..) _ | .call (.firewallProbe ..) _ => true
  | _ => false

/-- The operation is `awg-quick up`, whose group is retained where a backend was started. -/
def runsUp : HelperM (Option HelperExit) → Bool
  | .call (.subprocessRun .up ..) _ => true
  | _ => false

/-- The requests a process may make, with the process that waits for the reply. -/
inductive Asks (h : HelperProcess) : Purpose → SupervisionType → ℕ → HelperProcess → Prop
  | release {child : ℕ} {deadline : ℤ} {k : Bool → HelperM (Option HelperExit)}
      (hp : h.program = .call (.superviseRelease child deadline) k) :
      Asks h .operation .release child h
  | withdraw {child : ℕ} {deadline : ℤ} {k : Bool → HelperM (Option HelperExit)}
      (hp : h.program = .call (.superviseWithdrawRelease child deadline) k) :
      Asks h .operation .withdrawRelease child h
  | terminate {child : ℕ} {deadline : ℤ} {k : Bool → HelperM (Option HelperExit)}
      (hp : h.program = .call (.beginGroupTermination child deadline) k)
      (hregistered : h.registered child = true) : Asks h .operation .terminating child h
  | unregister {child : ℕ} {deadline : ℤ} {k : Bool → HelperM (Option HelperExit)}
      (hp : h.program = .call (.unregisterGroup child deadline) k)
      (hregistered : h.registered child = true) :
      Asks h .operation .unregister child (h.forget child)
  | registerTool (child : ℕ) (htool : runsTool h.program = true) : Asks h .tool .register child h
  | terminateTool {child : ℕ} (htool : runsTool h.program = true) (hactive : h.active = some child) :
      Asks h .tool .terminating child h
  | unregisterTool {child : ℕ} (htool : runsTool h.program = true)
      (hactive : h.active = some child) : Asks h .tool .unregister child (h.forget child)
  | escalate {child : ℕ} (hlevel : h.level = 2) (hcommitted : h.committed = false)
      (hregistered : h.registered child = true) : Asks h .escalation .terminating child h

/-- The request of `supervision_exchange`. -/
def request (h : HelperProcess) (type : SupervisionType) (child : ℕ) : SupervisionMessage :=
  ⟨supervisionMagic, supervisionVersion, type.code, child, h.sequence, 0⟩

/-- The sequence number after one that was used. -/
def nextSequence (sequence : UInt32) : UInt32 := if sequence + 1 = 0 then 1 else sequence + 1

/-- A request other than a registration takes a granted release of its group back. -/
def takeBack (h : HelperProcess) (type : SupervisionType) (child : ℕ) : HelperProcess :=
  if type ≠ .register ∧ type ≠ .release ∧ h.granted = some child then { h with granted := none }
  else h

/-- The process that waits for the reply to a request it has sent. -/
def sent (h : HelperProcess) (purpose : Purpose) (type : SupervisionType) (child : ℕ) :
    HelperProcess :=
  { h.takeBack type child with
    exchange := some ⟨purpose, type, child, h.request type child⟩
    sequence := nextSequence h.sequence }

/-- The program after a request that one of its operations made. -/
def answered : HelperM (Option HelperExit) → Bool → HelperM (Option HelperExit)
  | .call (.superviseRelease ..) k, ok => k ok
  | .call (.superviseWithdrawRelease ..) k, ok => k ok
  | .call (.beginGroupTermination ..) k, ok => k ok
  | .call (.unregisterGroup ..) k, ok => k ok
  | program, _ => program

/-- The process after `supervision_request` has returned. -/
def concluded (h : HelperProcess) (purpose : Purpose) (type : SupervisionType) (child : ℕ)
    (ok : Bool) : HelperProcess :=
  let h := { h with exchange := none }
  match purpose with
  | .operation =>
    { h with
      program := answered h.program ok
      granted := if type = .release ∧ ok then some child else h.granted }
  | .tool => if type = .register ∧ ok then { h with active := some child } else h
  | .escalation => h

/-- The process after a request failed: `fail_supervision` has closed the channel. -/
def failed (h : HelperProcess) (purpose : Purpose) (type : SupervisionType) (child : ℕ) :
    HelperProcess :=
  { h.concluded purpose type child false with channelOpen := false }

/-- What `supervision_exchange` makes of a response. -/
inductive ExchangeEnd where
  | acknowledged
  | refused
  | failed
  deriving DecidableEq

/-- The checks of `supervision_exchange` on a response, but for the deadline. -/
def exchangeEnd (exchange : Exchange) (response : SupervisionMessage) : ExchangeEnd :=
  if { response with status := 0 } ≠ exchange.message then .failed
  else if response.status = 0 then .acknowledged
  else if exchange.type = .release ∧ response.status = Errno.ecanceled.code then .refused
  else .failed

end HelperProcess

/-! ## The system -/

/-- The helper and the two queues of the channel. -/
structure Supervision where
  helper : HelperProcess
  requests : List SupervisionMessage
  replies : List SupervisionMessage
  serviceOpen : Bool

/-- The helper's end of the channel is open. -/
def Supervision.peerOpen (w : Supervision) : Bool :=
  w.helper.channelOpen && w.helper.exit.isNone

open HelperProcess in
/-- One step of the helper. -/
inductive HelperStep : Supervision → Supervision → Prop
  | operate {w : Supervision} {o : HelperCall} {k : o.Reply → HelperM (Option HelperExit)}
      {r : o.Reply} {h : HelperProcess} (halive : w.helper.exit = none)
      (hidle : w.helper.exchange = none) (hp : w.helper.program = .call o k)
      (hanswer : w.helper.Answers o r h) : HelperStep w { w with helper := { h with program := k r } }
  /-- `awg-quick up` keeps its group. -/
  | retain {w : Supervision} {child : ℕ} (halive : w.helper.exit = none)
      (hidle : w.helper.exchange = none) (hup : runsUp w.helper.program = true)
      (hactive : w.helper.active = some child) :
      HelperStep w { w with helper := { w.helper with active := none, retained := some child } }
  | send {w : Supervision} {purpose : Purpose} {type : SupervisionType} {child : ℕ}
      {h : HelperProcess} (halive : w.helper.exit = none) (hidle : w.helper.exchange = none)
      (hasks : w.helper.Asks purpose type child h) (hopen : w.helper.channelOpen = true)
      (hservice : w.serviceOpen = true) (hchild : 0 < child) :
      HelperStep w { w with
        helper := h.sent purpose type child
        requests := w.requests ++ [h.request type child] }
  /-- The channel is closed, a deadline has passed, or `send` fails. -/
  | sendFails {w : Supervision} {purpose : Purpose} {type : SupervisionType} {child : ℕ}
      {h : HelperProcess} (halive : w.helper.exit = none) (hidle : w.helper.exchange = none)
      (hasks : w.helper.Asks purpose type child h) :
      HelperStep w { w with helper := h.failed purpose type child }
  | acknowledge {w : Supervision} {e : Exchange} {response : SupervisionMessage}
      {rest : List SupervisionMessage} (halive : w.helper.exit = none)
      (hexchange : w.helper.exchange = some e) (hreplies : w.replies = response :: rest)
      (hend : exchangeEnd e response = .acknowledged) :
      HelperStep w { w with
        helper := w.helper.concluded e.purpose e.type e.child true, replies := rest }
  /-- The reply to a request other than a release came after the deadline. -/
  | acknowledgeLate {w : Supervision} {e : Exchange} {response : SupervisionMessage}
      {rest : List SupervisionMessage} (halive : w.helper.exit = none)
      (hexchange : w.helper.exchange = some e) (hreplies : w.replies = response :: rest)
      (hend : exchangeEnd e response = .acknowledged) (htype : e.type ≠ .release) :
      HelperStep w { w with
        helper := w.helper.failed e.purpose e.type e.child, replies := rest }
  | refuse {w : Supervision} {e : Exchange} {response : SupervisionMessage}
      {rest : List SupervisionMessage} (halive : w.helper.exit = none)
      (hexchange : w.helper.exchange = some e) (hreplies : w.replies = response :: rest)
      (hend : exchangeEnd e response = .refused) :
      HelperStep w { w with
        helper := w.helper.concluded e.purpose e.type e.child false, replies := rest }
  | reject {w : Supervision} {e : Exchange} {response : SupervisionMessage}
      {rest : List SupervisionMessage} (halive : w.helper.exit = none)
      (hexchange : w.helper.exchange = some e) (hreplies : w.replies = response :: rest)
      (hend : exchangeEnd e response = .failed) :
      HelperStep w { w with
        helper := w.helper.failed e.purpose e.type e.child, replies := rest }
  /-- No reply came in time, or the channel broke. -/
  | giveUp {w : Supervision} {e : Exchange} (halive : w.helper.exit = none)
      (hexchange : w.helper.exchange = some e) :
      HelperStep w { w with helper := w.helper.failed e.purpose e.type e.child }
  /-- `termination_signal_handler`. -/
  | signal {w : Supervision} (halive : w.helper.exit = none)
      (hcommitted : w.helper.committed = false) (hlevel : w.helper.level < 2) :
      HelperStep w { w with helper := { w.helper with level := w.helper.level + 1 } }
  /-- `main` returns. -/
  | exit {w : Supervision} {status : HelperExit} (halive : w.helper.exit = none)
      (hidle : w.helper.exchange = none) (hp : w.helper.program = .pure (some status)) :
      HelperStep w { w with
        helper := { w.helper with exit := some (.exited status.code) } }
  /-- The helper ends in another way: it is killed, or it could not be started. -/
  | die {w : Supervision} (wait : HelperWait) (halive : w.helper.exit = none)
      (hwait : wait ≠ .exited HelperExit.success.code) :
      HelperStep w { w with helper := { w.helper with exit := some wait } }

/-- Any number of steps of the helper. -/
abbrev HelperSteps : Supervision → Supervision → Prop := Relation.ReflTransGen HelperStep

/-- What a system call of the service may reply, and what it does to the channel. A reception may
fail at any time, and so may a wait. -/
def ServiceCall.Effect : (o : ServiceCall) → Supervision → o.Reply → Supervision → Prop
  | receive, w, r, w' =>
    match r with
    | .message message =>
      w.requests = message :: w'.requests ∧ w' = { w with requests := w'.requests }
    | .wouldBlock => w.requests = [] ∧ w.peerOpen = true ∧ w' = w
    | .closed => w.requests = [] ∧ w.peerOpen = false ∧ w' = w
    | .malformed => w' = w
  | send message, w, r, w' =>
    (r = true ∧ w' = { w with replies := w.replies ++ [message] }) ∨ (r = false ∧ w' = w)
  | closeChannel, w, _, w' => w' = { w with serviceOpen := false }
  | peekHelper, w, r, w' =>
    (r = .exited → w.helper.exit.isSome) ∧ (r = .running → w.helper.exit = none) ∧ w' = w
  | reapHelper, w, r, w' | reapHelperNow, w, r, w' =>
    (∀ status, r = .reaped status → w.helper.exit = some status) ∧ w' = w
  | _, w, _, w' => w' = w

/-- The behaviour of the service's calls: the helper runs on for any time before each of them. -/
def serves : Behaviour serviceSig Supervision := fun o w r w' =>
  ∃ w₁, HelperSteps w w₁ ∧ o.Effect w₁ r w'

/-! ## Starting a run -/

/-- The run `spawn_helper` starts for an operation. -/
def spawnedRun (operation : Bytes) (deadlines : Deadlines) (helperPid : ℕ) (hasConfig : Bool)
    (runner : HelperRunner) : AwgHelperRun :=
  let profileReport := decide (operation = ascii "list-profiles")
  { runner, profileReport, helperPid
    stdinOpen := hasConfig
    stdoutOpen := profileReport
    helperOutput := []
    supervisor := some (supervisorNew (decide (operation = ascii "up")))
    helperOutputDone := !profileReport
    helperInputDone := !hasConfig
    helperReaped := false
    groupCleanupDone := false
    helperCleanupKillRequested := false
    helperForceKillSent := false
    helperIoFailed := false
    helperStatus := .success
    deadlines
    forceKillDeadline := 0
    groupCleanupDeadline := 0
    supervisorCloseObservedAt := 0
    helperExitObservedAt := 0
    forwardTimeoutSent := false
    result := none
    stopReason := .none
    handedOut := none
    finished := false }

/-- The arguments `spawn_helper` gives the helper installed at `path`. -/
def spawnArguments (path operation name : Bytes) (deadlines : Deadlines) : List Bytes :=
  [path, operation, name, deadlineText deadlines.forwardAt, deadlineText deadlines.cleanupAt]
where
  /-- A deadline as `g_snprintf` prints it. -/
  deadlineText (deadline : ℤ) : Bytes :=
    if deadline < 0 then 0x2d :: decimal deadline.natAbs else decimal deadline.natAbs

/-- The system right after the spawn. -/
def spawned (entries : ℕ) (path operation name : Bytes) (deadlines : Deadlines) : Supervision :=
  ⟨.start (helperMain entries (spawnArguments path operation name deadlines)), [], [], true⟩

end NmSidebar
