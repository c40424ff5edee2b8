import NmSidebar.Helper.Tools
import NmSidebar.Program.Loops
import NmSidebar.Supervision.Protocol

/-!
# The groups of the helper's children

The part of `amneziawg_process.c` that registers a child with the service, and ends its process
group or retains it. The loops are looked at for a number of rounds. A call that the source repeats
only because it was interrupted before it did anything, in `register_group` and in the loops around
`waitpid`, is one call here.
-/

namespace NmSidebar

open Text Effects

/-! ## Calls -/

/-- How a child has ended: `si_code` and `si_status`. -/
inductive ChildExit where
  | exited (code : ℕ)
  | killed (signal : ℕ)
  | dumped (signal : ℕ)
  deriving DecidableEq

/-- The status that `waitpid` reports, and that `peek_status` makes of `waitid`. -/
def ChildExit.waitStatus : ChildExit → ℕ
  | exited code => code <<< 8
  | killed signal => signal &&& 0x7f
  | dumped signal => (signal &&& 0x7f) ||| 0x80

/-- The pipes to a child and from it. -/
inductive ChildPipe where
  | input
  | output
  | diagnostics
  deriving DecidableEq

/-- What `waitid` tells of a child, which it does not reap. -/
inductive PeekReply where
  | running
  | ended (how : ChildExit)
  | interrupted
  | failed
  deriving DecidableEq

/-- What `waitpid` on a child comes to. -/
inductive WaitReply where
  | running
  | reaped (status : ℕ)
  | failed
  deriving DecidableEq

/-- What `waitpid` on a group comes to. -/
inductive WaitGroupReply where
  | running
  | reaped
  | noChild
  | failed
  deriving DecidableEq

/-- What `write` comes to. -/
inductive WriteReply where
  | wrote (count : ℕ)
  | interrupted
  | failed
  deriving DecidableEq

/-- What `read` comes to; `ended` is the end of the file. -/
inductive ReadReply where
  | data (bytes : Bytes)
  | ended
  | interrupted
  | failed
  deriving DecidableEq

/-- What `network_sidebar_amneziawg_process_poll` comes to. -/
inductive PollReply where
  | polled
  | interrupted
  | failed
  deriving DecidableEq

/-- The two signals that end a child. -/
inductive EndSignal where
  | term
  | kill
  deriving DecidableEq

/-- The calls of a run of a child. `supervise` is `supervision_request`, `setProcessGroup` tells
whether the child is in its group, `startChild` whether the byte that lets it go was written, and
`kill` goes to the group or to the child alone. -/
inductive ChildCall where
  | monotonicMsec
  | terminationRequested
  | terminationEscalated
  | dispatchTermination
  | collectPendingTermination
  | supervise (type : SupervisionType) (child : ℕ) (deadline : ℤ)
  | dupExecutable
  | openPipe (pipe : ChildPipe)
  | openStartGate
  | blockTermination
  | restoreMask
  | fork
  | setProcessGroup (child : ℕ)
  | startChild
  | kill (group : Bool) (child : ℕ) (signal : EndSignal)
  | peek (child : ℕ)
  | wait (child : ℕ)
  | waitGroup (child : ℕ)
  | write (data : Bytes)
  | read (pipe : ChildPipe) (limit : ℕ)
  | diagnostics (data : Bytes)
  | retainDescendants
  | poll (timeoutMsec : ℤ)

/-- The reply to each call. -/
@[reducible] def ChildCall.Reply : ChildCall → Type
  | monotonicMsec => ℤ
  | terminationRequested | terminationEscalated | supervise .. | dupExecutable | openPipe _ => Bool
  | openStartGate | blockTermination | restoreMask | setProcessGroup _ | startChild => Bool
  | retainDescendants => Bool
  | dispatchTermination | collectPendingTermination | kill .. | diagnostics _ => Unit
  | fork => Option ℕ
  | peek _ => PeekReply
  | wait _ => WaitReply
  | waitGroup _ => WaitGroupReply
  | write _ => WriteReply
  | read .. => ReadReply
  | poll _ => PollReply

/-- The signature of a run. -/
@[reducible] def childSig : Signature := ⟨ChildCall, ChildCall.Reply⟩

/-- Programs that run a child, and always end. -/
abbrev ChildM := Prog childSig

/-- Programs that run a child, and may go on. -/
abbrev ChildLoopM := OptionT ChildM

/-- Makes a call. -/
abbrev childCall (o : ChildCall) : ChildM o.Reply := Prog.request (S := childSig) o

/-! ## The groups -/

/-- `active_process_group` and `retained_process_group`. -/
structure ProcessGroups where
  active : Option ℕ
  retained : Option ℕ
  deriving DecidableEq

namespace ProcessGroups

/-- The group is the active one or the retained one. -/
def has (groups : ProcessGroups) (child : ℕ) : Bool :=
  groups.active == some child || groups.retained == some child

/-- The groups without a child's. -/
def without (groups : ProcessGroups) (child : ℕ) : ProcessGroups where
  active := if groups.active = some child then none else groups.active
  retained := if groups.retained = some child then none else groups.retained

end ProcessGroups

/-- `begin_group_termination`. -/
def beginGroupTermination (groups : ProcessGroups) (child : ℕ) (deadline : ℤ) : ChildM Bool :=
  if groups.has child = false then return true
  else childCall (.supervise .terminating child deadline)

/-- The part of `network_sidebar_amneziawg_process_register_group` up to its label. -/
def registerChild (groups : ProcessGroups) (child : ℕ) (deadline : ℤ) :
    ChildM (Bool × ProcessGroups) := do
  if (← childCall (.setProcessGroup child)) = false then return (false, groups)
  else if (← childCall (.supervise .register child deadline)) = false then return (false, groups)
  else
    childCall .collectPendingTermination
    if ← childCall .terminationRequested then return (false, { groups with active := some child })
    else
      let started ← childCall .startChild
      return (started, { groups with active := some child })

/-- `network_sidebar_amneziawg_process_register_group`. -/
def registerGroup (groups : ProcessGroups) (child : ℕ) (deadline : ℤ) :
    ChildM (Bool × ProcessGroups) := do
  let (started, groups) ← registerChild groups child deadline
  let restored ← childCall .restoreMask
  childCall .dispatchTermination
  return (started && restored, groups)

/-- `unregister_group`. -/
def unregisterGroup (groups : ProcessGroups) (child : ℕ) (deadline : ℤ) :
    ChildM (Bool × ProcessGroups) := do
  if groups.has child then
    let removed ← childCall (.supervise .unregister child deadline)
    return (removed, groups.without child)
  else return (true, groups)

/-- `retain_group`. -/
def retainGroup (groups : ProcessGroups) (child : ℕ) : ProcessGroups where
  active := if groups.active = some child then none else groups.active
  retained := some child

/-! ## Reaping -/

/-- `GROUP_REAP_GRACE_MSEC`. -/
def groupReapGraceMsec : ℕ := 100

/-- A round of `reap_descendants`. -/
def reapDescendantsRound (processGroup : ℕ) (deadline : ℤ) (_ : Unit) :
    ChildLoopM (Round Unit Bool) := do
  childCall .dispatchTermination
  match ← childCall (.waitGroup processGroup) with
  | .reaped => return .again ()
  | .noChild => return .done true
  | .failed => return .done false
  | .running =>
    if deadline < 0 then return .done false
    else
      let now ← childCall .monotonicMsec
      if now < 0 ∨ now ≥ deadline then return .done false
      else
        let _ ← childCall (.poll 10)
        return .again ()

/-- `reap_descendants`. -/
def reapDescendants (processGroup graceMsec : ℕ) (outerDeadline : ℤ) (rounds : ℕ) :
    ChildLoopM Bool := do
  let now ← childCall .monotonicMsec
  if now < 0 then return false
  else
    let deadline := deadlineCap now outerDeadline graceMsec
    Prog.loop (reapDescendantsRound processGroup deadline) rounds ()

/-- A round of `reap_child`. It ends with the status that it has reaped, if it has. -/
def reapChildRound (child : ℕ) (deadline : ℤ) (_ : Unit) :
    ChildLoopM (Round Unit (Option ℕ)) := do
  childCall .dispatchTermination
  match ← childCall (.wait child) with
  | .reaped status => return .done (some status)
  | .failed => return .done none
  | .running =>
    let now ← childCall .monotonicMsec
    if now < 0 ∨ now ≥ deadline then return .done none
    else
      let _ ← childCall (.poll 10)
      return .again ()

/-- `reap_child`. -/
def reapChild (child : ℕ) (deadline : ℤ) (rounds : ℕ) : ChildLoopM (Option ℕ) :=
  Prog.loop (reapChildRound child deadline) rounds ()

/-- `reap_group`, with the status that it has written. -/
def reapGroup (child : ℕ) (deadline : ℤ) (rounds : ℕ) : ChildLoopM (Bool × Option ℕ) := do
  match ← reapChild child deadline rounds with
  | none => return (false, none)
  | some status =>
    let reaped ← reapDescendants child groupReapGraceMsec deadline rounds
    return (reaped, some status)

/-- `waitid`, repeated where it is interrupted. -/
def peekAgain (child : ℕ) (rounds : ℕ) : ChildLoopM PeekReply :=
  Prog.retry (· == .interrupted) (childCall (.peek child)) rounds

/-- A round of `peek_status`. -/
def peekStatusRound (child : ℕ) (deadline : ℤ) (rounds : ℕ) (_ : Unit) :
    ChildLoopM (Round Unit (Option ℕ)) := do
  childCall .dispatchTermination
  match ← peekAgain child rounds with
  | .ended how => return .done (some how.waitStatus)
  | .failed | .interrupted => return .done none
  | .running =>
    let now ← childCall .monotonicMsec
    if now < 0 ∨ now ≥ deadline then return .done none
    else
      let _ ← childCall (.poll 10)
      return .again ()

/-- `peek_status`. -/
def peekStatus (child : ℕ) (deadline : ℤ) (rounds : ℕ) : ChildLoopM (Option ℕ) :=
  Prog.loop (peekStatusRound child deadline rounds) rounds ()

/-! ## The end of a group -/

/-- What the end of a group comes to, with the status that was written. -/
structure GroupEnd where
  ok : Bool
  status : Option ℕ
  groups : ProcessGroups
  deriving DecidableEq

/-- A group whose children are reaped is unregistered. -/
def unregisterReaped (groups : ProcessGroups) (child : ℕ) (deadline : ℤ) (acknowledged : Bool)
    (reaped : Bool × Option ℕ) : ChildM GroupEnd := do
  if reaped.1 then
    let (removed, groups) ← unregisterGroup groups child deadline
    return ⟨removed && acknowledged, reaped.2, groups⟩
  else return ⟨false, reaped.2, groups⟩

/-- `network_sidebar_amneziawg_process_finish_group`. -/
def finishGroup (groups : ProcessGroups) (child : ℕ) (terminateDescendants : Bool) (deadline : ℤ)
    (rounds : ℕ) : ChildLoopM GroupEnd := do
  if terminateDescendants then
    let acknowledged ← beginGroupTermination groups child deadline
    childCall (.kill true child .term)
    childCall (.kill false child .term)
    childCall (.kill true child .kill)
    childCall (.kill false child .kill)
    let reaped ← reapGroup child deadline rounds
    unregisterReaped groups child deadline acknowledged reaped
  else
    match ← peekStatus child deadline rounds with
    | none => return ⟨false, none, groups⟩
    | some status => return ⟨true, some status, retainGroup groups child⟩

/-- A round of the loop of `network_sidebar_amneziawg_process_terminate_group`. -/
def terminateGroupRound (deadline : ℤ) (_ : Unit) : ChildLoopM (Round Unit Unit) := do
  if deadline < 0 then return .done ()
  else
    let now ← childCall .monotonicMsec
    if now < 0 ∨ now ≥ deadline then return .done ()
    else if ← childCall .terminationEscalated then return .done ()
    else
      let _ ← childCall (.poll 25)
      return .again ()

/-- `network_sidebar_amneziawg_process_terminate_group`. -/
def terminateGroup (groups : ProcessGroups) (child graceMsec : ℕ) (outerDeadline : ℤ)
    (rounds : ℕ) : ChildLoopM GroupEnd := do
  let acknowledged ← beginGroupTermination groups child outerDeadline
  childCall (.kill true child .term)
  childCall (.kill false child .term)
  let graceMsec := if ← childCall .terminationEscalated then 0 else graceMsec
  let now ← childCall .monotonicMsec
  if now < 0 then return ⟨false, none, groups⟩
  else
    let deadline := deadlineCap now outerDeadline graceMsec
    Prog.loop (terminateGroupRound deadline) rounds ()
    childCall (.kill true child .kill)
    childCall (.kill false child .kill)
    let reaped ← reapGroup child outerDeadline rounds
    unregisterReaped groups child outerDeadline acknowledged reaped

end NmSidebar
