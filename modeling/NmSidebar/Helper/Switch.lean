import NmSidebar.Helper.Activation

/-!
# Switching

`amneziawg_helper_switch.c`. The switch is written over a signature of its own, whose operations
are the functions it calls, so that statements about the order of its phases need nothing of what
those functions do. The helper's program replaces every operation by the function.
-/

namespace NmSidebar

open Text Effects

/-- The functions `awg_helper_switch_up` calls. -/
inductive SwitchCall where
  | listRuntimeNames (deadline : ℤ)
  | prepareUp (name : Name) (deadline : ℤ)
  | checkDown (name : Name) (deadline : ℤ)
  | phaseStop (deadline : ℤ)
  | down (name configName : Name) (snapshotPath : Bytes) (deadlines : Deadlines)
  | runtimeState (name : Name)
  | activate (activation : Activation) (deadlines : Deadlines)

/-- What each function returns. -/
@[reducible] def SwitchCall.Reply : SwitchCall → Type
  | listRuntimeNames _ => Except HelperExit RuntimeNames
  | prepareUp .. => Except HelperExit Activation
  | runtimeState _ => Except HelperExit SessionState
  | checkDown .. | phaseStop _ | down .. | activate .. => HelperExit

/-- The signature of the switch. -/
@[reducible] def switchSig : Signature := ⟨SwitchCall, SwitchCall.Reply⟩

/-- Programs of the switch. -/
abbrev SwitchM := Prog switchSig

/-- Calls a function. -/
abbrev invoke (o : SwitchCall) : SwitchM o.Reply := Prog.request (S := switchSig) o

/-- `previous_session_failure`. -/
def previousSessionFailure (result : HelperExit) : HelperExit :=
  if result = .timedOut ∨ result = .childSignaled then result else .switchCleanupFailed

/-- `disconnect_previous`. -/
def disconnectPrevious (name : Name) (deadlines : Deadlines) : SwitchM HelperExit := do
  let stop ← invoke (.phaseStop deadlines.forwardAt)
  if stop ≠ .success then return stop
  else
    match storageMakeConfigFilename name, storageMakeRuntimeConfigPath name with
    | none, _ | _, none => return .invalidName
    | some configName, some snapshotPath =>
      let result ← invoke (.down name configName snapshotPath deadlines)
      if result ≠ .success then return result
      else
        let stop ← invoke (.phaseStop deadlines.forwardAt)
        if stop ≠ .success then return stop
        else
          match ← invoke (.runtimeState name) with
          | .error failure => return failure
          | .ok state =>
            return if state.marker.isSome ∨ state.interface then .runtimeFailed else .success

/-- The admission loop of `awg_helper_switch_up`. -/
def checkAll (deadlines : Deadlines) : List Name → SwitchM HelperExit
  | [] => return .success
  | name :: rest => do
    let result ← invoke (.checkDown name deadlines.forwardAt)
    if result ≠ .success then return result else checkAll deadlines rest

/-- The disconnection loop of `awg_helper_switch_up`. -/
def disconnectAll (deadlines : Deadlines) : List Name → SwitchM HelperExit
  | [] => return .success
  | name :: rest => do
    let result ← disconnectPrevious name deadlines
    if result ≠ .success then return result else disconnectAll deadlines rest

/-- `awg_helper_switch_up` once every previous session is disconnected. -/
def switchTarget (activation : Activation) (deadlines : Deadlines) : SwitchM HelperExit := do
  match ← invoke (.listRuntimeNames deadlines.forwardAt) with
  | .error failure => return previousSessionFailure failure
  | .ok remaining =>
    if remaining.names ≠ [] then return previousSessionFailure .runtimeFailed
    else
      let stop ← invoke (.phaseStop deadlines.forwardAt)
      if stop ≠ .success then return stop else invoke (.activate activation deadlines)

/-- `awg_helper_switch_up` once the previous sessions are listed and the target is prepared. -/
def switchPrevious (previous : List Name) (activation : Activation) (deadlines : Deadlines) :
    SwitchM HelperExit := do
  let admitted ← checkAll deadlines previous
  if admitted ≠ .success then return previousSessionFailure admitted
  else
    let disconnected ← disconnectAll deadlines previous
    if disconnected ≠ .success then return previousSessionFailure disconnected
    else switchTarget activation deadlines

/-- `awg_helper_switch_up`. -/
def switchProgram (name : Name) (deadlines : Deadlines) : SwitchM HelperExit := do
  if nameIsValid name = false then return .invalidName
  else
    match ← invoke (.listRuntimeNames deadlines.forwardAt) with
    | .error failure => return previousSessionFailure failure
    | .ok previous =>
      match ← invoke (.prepareUp name deadlines.forwardAt) with
      | .error failure => return failure
      | .ok activation => switchPrevious previous.names activation deadlines

/-- The functions themselves. Every disconnection has a tunnel of its own, and the resolver is
not blocked in the target's. -/
def SwitchCall.run : (o : SwitchCall) → HelperM o.Reply
  | listRuntimeNames deadline => storageListRuntimeNames deadline
  | prepareUp name deadline => tunnelPrepareUp name deadline
  | checkDown name deadline => tunnelCheckDown name deadline
  | phaseStop deadline => phaseStopStatus deadline
  | down name configName snapshotPath deadlines =>
    tunnelDown false name configName snapshotPath deadlines
  | runtimeState name => sessionRuntimeState name
  | activate activation deadlines => tunnelActivate false (some activation) deadlines

/-- The helper's `awg_helper_switch_up`. -/
def switchUp (name : Name) (deadlines : Deadlines) : HelperM HelperExit :=
  (switchProgram name deadlines).interpret (T := helperSig) SwitchCall.run

end NmSidebar
