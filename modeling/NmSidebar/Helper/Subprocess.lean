import NmSidebar.Helper.ProcessGroups

/-!
# Runs of a child

`awg_subprocess_run`: a child is started in a group of its own, its input is written and its output
and its diagnostics are read until it has ended, and then its group is ended too, or retained. What
the child does between the fork and `fexecve` is its own.
-/

namespace NmSidebar

open Text Effects

/-! ## Data -/

/-- `AwgSubprocessCompletion`. -/
inductive SubprocessCompletion where
  | waitForEof
  | drainOnExit
  deriving DecidableEq

/-- `AwgSubprocessRequest`, where `diagnostics` and `retainDescendants` tell whether there is such a
callback. -/
structure AwgSubprocessRequest where
  argv : List Bytes
  input : Bytes
  outputLimit : ℕ
  timeoutMsec : ℕ
  terminationGraceMsec : ℕ
  completion : SubprocessCompletion
  diagnostics : Bool
  retainDescendants : Bool

/-- `AwgSubprocessResult`, with the output that is returned. -/
structure AwgSubprocessResult where
  status : SubprocessStatus
  mayHaveRun : Bool
  waitStatus : ℕ
  diagnosticsComplete : Bool
  output : Option Bytes
  deriving DecidableEq

/-- A result without a child. -/
def AwgSubprocessResult.notRun (status : SubprocessStatus) : AwgSubprocessResult :=
  ⟨status, false, 0, false, none⟩

/-- `IO_CHUNK_SIZE`. -/
def ioChunkSize : ℕ := 16384

/-- `DIAGNOSTIC_DRAIN_READS`. -/
def diagnosticDrainReads : ℕ := 16

/-- `G_MAXSIZE`. -/
def gMaxSize : ℕ := 2 ^ 64 - 1

/-- The variables of the loop of `awg_subprocess_run`: which pipes are open, how much is written,
what the buffer holds, and whether the child has ended. -/
structure ChildIo where
  inputOpen : Bool
  outputOpen : Bool
  diagnosticsOpen : Bool
  written : ℕ
  buffer : Bytes
  childDone : Bool
  finalDrain : Bool
  deriving DecidableEq

/-- The variables before the loop. -/
def AwgSubprocessRequest.io (request : AwgSubprocessRequest) (capture : Bool) : ChildIo where
  inputOpen := 0 < request.input.length
  outputOpen := capture
  diagnosticsOpen := request.diagnostics
  written := 0
  buffer := []
  childDone := false
  finalDrain := false

/-! ## Reading and writing -/

/-- `write_input`. -/
def writeInput (request : AwgSubprocessRequest) (io : ChildIo) : ChildM (Bool × ChildIo) :=
  if io.inputOpen = false then return (true, io)
  else do
    match ← childCall (.write ((request.input.drop io.written).take ioChunkSize)) with
    | .wrote count =>
      if count = 0 then return (false, io)
      else
        let written := io.written + count
        return (true, { io with written, inputOpen := written != request.input.length })
    | .interrupted => return (true, io)
    | .failed => return (false, io)

/-- `read_output`. -/
def readOutput (request : AwgSubprocessRequest) (io : ChildIo) :
    ChildM (SubprocessStatus × ChildIo) :=
  if io.outputOpen = false then return (.exited, io)
  else do
    match ← childCall (.read .output
      (min (request.outputLimit + 1 - io.buffer.length) ioChunkSize)) with
    | .data bytes =>
      let buffer := io.buffer ++ bytes
      return (if request.outputLimit < buffer.length then .outputTooLarge else .exited,
        { io with buffer })
    | .ended => return (.exited, { io with outputOpen := false })
    | .interrupted => return (.exited, io)
    | .failed => return (.ioFailed, io)

/-- `read_diagnostics`, for so many reads. -/
def readDiagnosticsUpTo : ℕ → ChildIo → ChildM (Bool × ChildIo)
  | 0, io => return (true, io)
  | reads + 1, io =>
    if io.diagnosticsOpen = false then return (true, io)
    else do
      match ← childCall (.read .diagnostics 4096) with
      | .data bytes =>
        childCall (.diagnostics bytes)
        readDiagnosticsUpTo reads io
      | .ended => readDiagnosticsUpTo reads { io with diagnosticsOpen := false }
      | .interrupted => return (true, io)
      | .failed => return (false, io)

/-- `read_diagnostics`. -/
def readDiagnostics (io : ChildIo) : ChildM (Bool × ChildIo) :=
  readDiagnosticsUpTo diagnosticDrainReads io

/-! ## The loop -/

/-- What `waitid` tells of the child in the loop: whether it is done, unless it failed. -/
def childIsDone (child : ℕ) (io : ChildIo) : ChildM (Option Bool) :=
  if io.childDone then return some true
  else do
    match ← childCall (.peek child) with
    | .ended _ => return some true
    | .running | .interrupted => return some false
    | .failed => return none

/-- The end of a round of the loop, which waits for the pipes or for 25 ms. -/
def awaitChild (deadline now : ℤ) (io : ChildIo) :
    ChildM (Round ChildIo (SubprocessStatus × ChildIo)) := do
  match ← childCall (.poll (min (deadline - now) 25)) with
  | .polled | .interrupted => return .again io
  | .failed => return .done (.ioFailed, io)

/-- What a round of the loop does when it has read and written. -/
def concludeRound (request : AwgSubprocessRequest) (child : ℕ) (deadline now : ℤ) (io : ChildIo) :
    ChildM (Round ChildIo (SubprocessStatus × ChildIo)) := do
  match ← childIsDone child io with
  | none => return .done (.ioFailed, io)
  | some childDone =>
    let io := { io with childDone }
    if childDone = false then awaitChild deadline now io
    else if io.written ≠ request.input.length then return .done (.ioFailed, io)
    else if io.outputOpen = false ∧ io.diagnosticsOpen = false then return .done (.exited, io)
    else if request.completion = .drainOnExit then
      if io.finalDrain then return .done (.exited, io)
      else return .again { io with finalDrain := true }
    else awaitChild deadline now io

/-- A round of the loop of `awg_subprocess_run`. It ends with the status. -/
def subprocessRound (request : AwgSubprocessRequest) (child : ℕ) (deadline : ℤ) (io : ChildIo) :
    ChildM (Round ChildIo (SubprocessStatus × ChildIo)) := do
  let now ← childCall .monotonicMsec
  if ← childCall .terminationRequested then return .done (.cancelled, io)
  else if now < 0 ∨ now ≥ deadline then return .done (.timedOut, io)
  else
    let (ok, io) ← writeInput request io
    if ok = false then return .done (.ioFailed, io)
    else
      let (ok, io) ← readDiagnostics io
      if ok = false then return .done (.ioFailed, io)
      else
        let (status, io) ← readOutput request io
        if status ≠ .exited then return .done (status, io)
        else concludeRound request child deadline now io

/-- The loop of `awg_subprocess_run`, for a child that is registered. -/
def exchangeWithChild (request : AwgSubprocessRequest) (capture : Bool) (child : ℕ) (deadline : ℤ)
    (rounds : ℕ) (registered : Bool) : ChildLoopM (SubprocessStatus × ChildIo) :=
  if registered then
    Prog.loop (fun io => liftM (subprocessRound request child deadline io)) rounds
      (request.io capture)
  else return (.setupFailed, request.io capture)

/-! ## The end -/

/-- `retain`: the launcher has succeeded, and the caller wants its group. -/
def wantsRetained (request : AwgSubprocessRequest) (child : ℕ) (status : SubprocessStatus) :
    ChildM Bool :=
  if status ≠ .exited then return false
  else do
    match ← childCall (.peek child) with
    | .ended (.exited 0) =>
      if request.retainDescendants then childCall .retainDescendants else return false
    | _ => return false

/-- What a run has come to when its group is ended: the status and the wait status, the variables
and the groups. -/
structure ChildEnd where
  status : SubprocessStatus
  waitStatus : ℕ
  io : ChildIo
  groups : ProcessGroups
  deriving DecidableEq

/-- What follows the label `finish_child` for a child that is done. -/
def finishDone (request : AwgSubprocessRequest) (groups : ProcessGroups) (child : ℕ)
    (outerDeadline : ℤ) (rounds : ℕ) (status : SubprocessStatus) (io : ChildIo) :
    ChildLoopM ChildEnd := do
  let retain ← wantsRetained request child status
  let ended ← finishGroup groups child (!retain) outerDeadline rounds
  let status := if ended.ok = false ∧ status = .exited then .ioFailed else status
  if retain = false ∧ status = .exited then
    let (ok, io) ← readDiagnostics io
    return ⟨if ok then status else .ioFailed, ended.status.getD 0, io, ended.groups⟩
  else return ⟨status, ended.status.getD 0, io, ended.groups⟩

/-- What follows the label `finish_child`, up to the last look at the clock. -/
def finishChild (request : AwgSubprocessRequest) (groups : ProcessGroups) (child : ℕ)
    (outerDeadline : ℤ) (rounds : ℕ) (status : SubprocessStatus) (io : ChildIo) :
    ChildLoopM ChildEnd := do
  if io.childDone then finishDone request groups child outerDeadline rounds status io
  else
    let ended ← terminateGroup groups child request.terminationGraceMsec outerDeadline rounds
    return ⟨status, ended.status.getD 0, io, ended.groups⟩

/-- The status that a run returns, which may be cancelled or too late. -/
def lastStatus (cancelled : Bool) (now outerDeadline : ℤ) (status : SubprocessStatus) :
    SubprocessStatus :=
  let status := if cancelled then .cancelled else status
  if status = .exited ∧ (now < 0 ∨ now ≥ outerDeadline) then .timedOut else status

/-- The last part of `awg_subprocess_run`. -/
def concludeRun (request : AwgSubprocessRequest) (capture : Bool) (outerDeadline : ℤ)
    (ended : ChildEnd) : ChildM (AwgSubprocessResult × ProcessGroups) := do
  let cancelled ← childCall .terminationRequested
  let now ← childCall .monotonicMsec
  let status := lastStatus cancelled now outerDeadline ended.status
  return (⟨status, true, ended.waitStatus,
    request.diagnostics && !ended.io.diagnosticsOpen && ended.io.childDone,
    if capture = true ∧ status = .exited then some ended.io.buffer else none⟩, ended.groups)

/-- What a run does with its child. -/
def runChild (request : AwgSubprocessRequest) (capture : Bool) (groups : ProcessGroups)
    (child : ℕ) (deadline outerDeadline : ℤ) (rounds : ℕ) :
    ChildLoopM (AwgSubprocessResult × ProcessGroups) := do
  let (registered, groups) ← registerGroup groups child deadline
  let (status, io) ← exchangeWithChild request capture child deadline rounds registered
  let ended ← finishChild request groups child outerDeadline rounds status io
  concludeRun request capture outerDeadline ended

/-- `open_pipe`, where the pipe is needed. -/
def openPipeIf (needed : Bool) (pipe : ChildPipe) : ChildM Bool :=
  if needed then childCall (.openPipe pipe) else return true

/-- The descriptors that a run opens before it forks. -/
def openDescriptors (request : AwgSubprocessRequest) (capture : Bool) : ChildM Bool := do
  if (← childCall .dupExecutable) = false then return false
  else if (← openPipeIf (0 < request.input.length) .input) = false then return false
  else if (← openPipeIf capture .output) = false then return false
  else if (← openPipeIf request.diagnostics .diagnostics) = false then return false
  else childCall .openStartGate

/-- The child, where one is started. -/
def forkChild : ChildM (Option ℕ) := do
  if (← childCall .blockTermination) = false then return none
  else
    match ← childCall .fork with
    | some child => return some child
    | none =>
      let _ ← childCall .restoreMask
      return none

/-- The deadline of a run. -/
def AwgSubprocessRequest.deadline (request : AwgSubprocessRequest) (now outerDeadline : ℤ) : ℤ :=
  deadlineCap now (if outerDeadline > childCleanupReserveMsec then
    outerDeadline - childCleanupReserveMsec else -1) request.timeoutMsec

/-- What is refused of a request, where the output is captured. -/
def AwgSubprocessRequest.isRefused (request : AwgSubprocessRequest)
    (output outputLength : Bool) : Bool :=
  request.argv.isEmpty || output != outputLength ||
    (output && outputLength && (request.outputLimit == 0 || request.outputLimit == gMaxSize))

/-- `awg_subprocess_run`, where `output` and `outputLength` tell whether there are such pointers. -/
def subprocessRun (request : AwgSubprocessRequest) (outerDeadline : ℤ)
    (output outputLength : Bool) (groups : ProcessGroups) (rounds : ℕ) :
    ChildLoopM (AwgSubprocessResult × ProcessGroups) := do
  let now ← childCall .monotonicMsec
  if request.isRefused output outputLength then return (.notRun .setupFailed, groups)
  else
    let deadline := request.deadline now outerDeadline
    if now < 0 ∨ now ≥ deadline then return (.notRun .timedOut, groups)
    else if ← childCall .terminationRequested then return (.notRun .cancelled, groups)
    else if (← openDescriptors request (output && outputLength)) = false then
      return (.notRun .setupFailed, groups)
    else
      match ← (liftM forkChild : ChildLoopM (Option ℕ)) with
      | none => return (.notRun .setupFailed, groups)
      | some child =>
        runChild request (output && outputLength) groups child deadline outerDeadline rounds

end NmSidebar
