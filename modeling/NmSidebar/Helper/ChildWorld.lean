import NmSidebar.Helper.Subprocess
import NmSidebar.Program.Environment

/-!
# The world of a run

The kernel, the service and the child, as a run sees them: between any two of its calls the clock
advances, signals arrive, and the child and whoever has its pipes write, close and end as they like.
-/

namespace NmSidebar

open Text Effects

/-! ## Streams -/

/-- A pipe that the run reads: what was ever written to it, how much of it the run has read, and
whether no writer is left. -/
structure ChildStream where
  sent : Bytes
  taken : ℕ
  closed : Bool
  deriving DecidableEq

namespace ChildStream

/-- What the run has read. -/
def got (stream : ChildStream) : Bytes := stream.sent.take stream.taken

/-- What is in the pipe. -/
def pending (stream : ChildStream) : Bytes := stream.sent.drop stream.taken

/-- More is read. -/
def take (stream : ChildStream) (count : ℕ) : ChildStream :=
  { stream with taken := stream.taken + count }

/-- The run has read all there will ever be. -/
def Exhausted (stream : ChildStream) : Prop := stream.closed = true ∧ stream.pending = []

/-- What may happen to a pipe behind the back of the run. -/
structure Grows (stream stream' : ChildStream) : Prop where
  taken : stream'.taken = stream.taken
  sent : stream.sent <+: stream'.sent
  closed : stream.closed = true → stream' = stream

/-- What a read of so many bytes may come to. -/
def Reads (limit : ℕ) (stream : ChildStream) : ReadReply → ChildStream → Prop
  | .data bytes, stream' => bytes ≠ [] ∧ bytes.length ≤ limit ∧ bytes <+: stream.pending ∧
      stream' = stream.take bytes.length
  | .ended, stream' => stream.Exhausted ∧ stream' = stream
  | .interrupted, stream' | .failed, stream' => stream' = stream

end ChildStream

/-! ## Worlds -/

/-- What a run can tell. `clockFailed`, `supervisionFailed` and `waitFailed` say that a call of the
kind has failed, `signalled` that the run has sent the child a signal, `forced` that it had done so
when the child ended, and `killed` that the group was sent `SIGKILL`. `emptied` says that the run
was told that no child of the group is left. `input` is what was written to the child, `received`
what the callback for the diagnostics was given, and `retained` what the other callback has
answered. -/
structure ChildWorld where
  now : ℤ
  cancelled : Bool
  escalated : Bool
  child : Option ℕ
  exit : Option ChildExit
  output : ChildStream
  diagnostics : ChildStream
  clockFailed : Bool
  supervisionFailed : Bool
  waitFailed : Bool
  registered : Bool
  started : Bool
  signalled : Bool
  forced : Bool
  killed : Bool
  reaped : Bool
  emptied : Bool
  unregistered : Bool
  input : Bytes
  received : Bytes
  retained : Bool

namespace ChildWorld

/-- The world before a run. -/
def fresh (now : ℤ) (cancelled escalated : Bool) : ChildWorld where
  now
  cancelled
  escalated
  child := none
  exit := none
  output := ⟨[], 0, false⟩
  diagnostics := ⟨[], 0, false⟩
  clockFailed := false
  supervisionFailed := false
  waitFailed := false
  registered := false
  started := false
  signalled := false
  forced := false
  killed := false
  reaped := false
  emptied := false
  unregistered := false
  input := []
  received := []
  retained := false

/-- The child has ended. -/
def withExit (w : ChildWorld) (how : ChildExit) : ChildWorld :=
  { w with exit := some how, forced := w.signalled }

/-- What happens on its own. -/
inductive Drifts : ChildWorld → ChildWorld → Prop
  | tick {w : ChildWorld} {now : ℤ} (h : w.now ≤ now) : Drifts w { w with now }
  | cancel {w : ChildWorld} {escalated : Bool} (h : w.escalated = true → escalated = true) :
      Drifts w { w with cancelled := true, escalated }
  | exit {w : ChildWorld} {child : ℕ} (hchild : w.child = some child) (hruns : w.exit = none)
      (how : ChildExit) : Drifts w (w.withExit how)
  | output {w : ChildWorld} {output : ChildStream} (h : w.output.Grows output) :
      Drifts w { w with output }
  | diagnostics {w : ChildWorld} {diagnostics : ChildStream} (h : w.diagnostics.Grows diagnostics) :
      Drifts w { w with diagnostics }
  | none (w : ChildWorld) : Drifts w w
  | trans {w w' w'' : ChildWorld} (h : Drifts w w') (h' : Drifts w' w'') : Drifts w w''

/-! ## Calls -/

/-- A call of the clock has failed. -/
def clockFails (w : ChildWorld) : ChildWorld := { w with clockFailed := true }

/-- A request to the service has failed. -/
def supervisionFails (w : ChildWorld) : ChildWorld := { w with supervisionFailed := true }

/-- A call that waits for a child has failed. -/
def waitFails (w : ChildWorld) : ChildWorld := { w with waitFailed := true }

/-- A request to the service was acknowledged. -/
def acknowledged (w : ChildWorld) : SupervisionType → ChildWorld
  | .register => { w with registered := true }
  | .unregister => { w with unregistered := true }
  | .release | .withdrawRelease | .terminating => w

/-- A child was forked. -/
def forked (w : ChildWorld) (child : ℕ) : ChildWorld := { w with child := some child }

/-- The child was let go. -/
def letGo (w : ChildWorld) : ChildWorld := { w with started := true }

/-- The child or its group was sent a signal. -/
def signal (w : ChildWorld) (group : Bool) (signal : EndSignal) : ChildWorld :=
  { w with signalled := true, killed := w.killed || (group && signal == .kill) }

/-- The child was reaped. -/
def reap (w : ChildWorld) : ChildWorld := { w with reaped := true }

/-- No child of the group is left. -/
def empty (w : ChildWorld) : ChildWorld := { w with emptied := true }

/-- More of the input was written. -/
def write (w : ChildWorld) (bytes : Bytes) : ChildWorld := { w with input := w.input ++ bytes }

/-- The callback for the diagnostics was given more. -/
def receive (w : ChildWorld) (bytes : Bytes) : ChildWorld :=
  { w with received := w.received ++ bytes }

/-- The callback has answered whether the group is retained. -/
def retain (w : ChildWorld) (answer : Bool) : ChildWorld := { w with retained := answer }

/-- Termination is dispatched: where it was requested, the child and its group are sent a signal,
and the service may have been asked before. -/
def Dispatches (w w' : ChildWorld) : Prop :=
  w' = w ∨ w.cancelled = true ∧ (w' = w.signal true .term ∨ w' = w.signal true .kill ∨
    w' = (w.signal true .kill).supervisionFails)

/-- What a read may do. -/
def Reads (w : ChildWorld) (limit : ℕ) (reply : ReadReply) : ChildPipe → ChildWorld → Prop
  | .output, w' => ∃ output, w.output.Reads limit reply output ∧ w' = { w with output }
  | .diagnostics, w' => ∃ diagnostics, w.diagnostics.Reads limit reply diagnostics ∧
      w' = { w with diagnostics }
  | .input, w' => w' = w

/-- What a call may do, at the moment that it is done. A request to the service and `poll` dispatch
termination while they wait. -/
def Does (w : ChildWorld) : (o : ChildCall) → o.Reply → ChildWorld → Prop
  | .monotonicMsec, now, w' => now = w.now ∧ w' = w ∨ now < 0 ∧ w' = w.clockFails
  | .terminationRequested, requested, w' => requested = w.cancelled ∧ w' = w
  | .terminationEscalated, escalated, w' => escalated = w.escalated ∧ w' = w
  | .dispatchTermination, _, w' | .poll _, _, w' => w.Dispatches w'
  | .supervise type _ _, ok, w' => ∃ w₁, w.Dispatches w₁ ∧
      w' = if ok then w₁.acknowledged type else w₁.supervisionFails
  | .collectPendingTermination, _, w' | .dupExecutable, _, w' | .openPipe _, _, w' => w' = w
  | .openStartGate, _, w' | .blockTermination, _, w' | .restoreMask, _, w' => w' = w
  | .setProcessGroup _, _, w' => w' = w
  | .fork, none, w' => w' = w
  | .fork, some child, w' => w.child = none ∧ w' = w.forked child
  | .startChild, started, w' => w' = if started then w.letGo else w
  | .kill group child signal, _, w' =>
    w' = if w.child = some child then w.signal group signal else w
  | .peek child, .running, w' => (w.child = some child → w.exit = none) ∧ w' = w
  | .peek child, .ended how, w' => (w.child = some child → w.exit = some how) ∧ w' = w
  | .peek _, .interrupted, w' => w' = w
  | .peek _, .failed, w' => w' = w.waitFails
  | .wait child, .running, w' => (w.child = some child → w.exit = none) ∧ w' = w
  | .wait child, .reaped status, w' =>
    if w.child = some child then
      (∃ how, w.exit = some how ∧ status = how.waitStatus) ∧ w' = w.reap
    else w' = w
  | .wait _, .failed, w' => w' = w.waitFails
  | .waitGroup _, .running, w' | .waitGroup _, .reaped, w' => w' = w
  | .waitGroup child, .noChild, w' => w' = if w.child = some child then w.empty else w
  | .waitGroup _, .failed, w' => w' = w.waitFails
  | .write data, .wrote count, w' => count ≤ data.length ∧ w' = w.write (data.take count)
  | .write _, .interrupted, w' | .write _, .failed, w' => w' = w
  | .read pipe limit, reply, w' => w.Reads limit reply pipe w'
  | .diagnostics data, _, w' => w' = w.receive data
  | .retainDescendants, answer, w' => w' = w.retain answer

end ChildWorld

/-- Whatever happens, and then the call. -/
def childBehaviour : Behaviour childSig ChildWorld := fun o w r w' =>
  ∃ w₁, w.Drifts w₁ ∧ w₁.Does o r w'

end NmSidebar
