import NmSidebar.Helper.World

/-!
# Sessions

Deadlines and cancellation (`amneziawg_helper_util.c`), and the reconciliation of the journal with
the kernel's links (`amneziawg_helper_session.c`).
-/

namespace NmSidebar

open Text Effects

/-! ## Deadlines -/

/-- `awg_helper_phase_stop_status`. -/
def phaseStopStatus (deadline : ℤ) : HelperM HelperExit := do
  if ← ask .terminationRequested then
    return .childSignaled
  else
    let now ← ask .monotonicMsec
    return if now < 0 ∨ now ≥ deadline then .timedOut else .success

/-- `awg_helper_phase_failure_or`. -/
def phaseFailureOr (deadline : ℤ) (fallback : HelperExit) : HelperM HelperExit := do
  let stop ← phaseStopStatus deadline
  return if stop = .success then fallback else stop

/-! ## Owned links -/

/-- `AwgHelperOwnedLinkState`. -/
inductive OwnedLinkState where
  | absent
  | present
  | conflict
  | unknown
  deriving DecidableEq

/-- The decision of `awg_helper_session_owned_link_state`; there is no observation where the
kernel could not be asked. -/
def ownedLinkStateOf (marker : RuntimeMarker) : Option LinkObservation → OwnedLinkState
  | none => .unknown
  | some current =>
    if current.tokenMatches > 1 then .unknown
    else if current.tokenMatches = 0 then
      if current.namedExists then .conflict else .absent
    else if ¬current.tokenHasExpectedName ∨
        (current.namedExists ∧ current.namedIfindex ≠ current.tokenIfindex) ∨
        (marker.ifindex ≠ 0 ∧ marker.ifindex ≠ current.tokenIfindex) then
      .conflict
    else .present

/-- The observation an operation replied with. -/
def observationOf {name : Name} {token : Option Bytes} (reply : Option (ObservedLink name token)) :
    Option LinkObservation := reply.map fun link => link.observation

/-- `awg_helper_session_owned_link_state`. -/
def sessionOwnedLinkState (name : Name) (marker : RuntimeMarker) :
    HelperM (OwnedLinkState × LinkObservation) := do
  let reply ← ask (.linkObserve name (some marker.linkToken))
  return (ownedLinkStateOf marker (observationOf reply), (observationOf reply).getD .zero)

/-- What `awg_helper_session_runtime_state` finds: `has_marker` with its value, and
`has_interface`. -/
structure SessionState where
  marker : Option ParsedMarker
  interface : Bool

/-- The decision of `awg_helper_session_runtime_state` on a marker and an observation. -/
def runtimeStateOf : MarkerRead → Option LinkObservation → Except HelperExit SessionState
  | .missing, none => .error .runtimeFailed
  | .missing, some observation => .ok ⟨none, observation.namedExists⟩
  | .invalid, _ => .error .runtimeFailed
  | .valid parsed, observation =>
    match ownedLinkStateOf parsed.marker observation with
    | .unknown => .error .runtimeFailed
    | .conflict => .error .interfaceConflict
    | .present => .ok ⟨some parsed, true⟩
    | .absent => .ok ⟨some parsed, false⟩

/-- `awg_helper_session_runtime_state`. -/
def sessionRuntimeState (name : Name) : HelperM (Except HelperExit SessionState) := do
  match ← ask (.readRuntimeMarker name) with
  | .missing =>
    let reply ← ask (.linkObserve name none)
    return runtimeStateOf .missing (observationOf reply)
  | .invalid => return runtimeStateOf .invalid none
  | .valid parsed =>
    let reply ← ask (.linkObserve name (some parsed.marker.linkToken))
    return runtimeStateOf (.valid parsed) (observationOf reply)

/-- `awg_helper_session_refresh_owned_interface`, with the journal it leaves in memory. -/
def sessionRefreshOwnedInterface (name : Name) (marker : RuntimeMarker) :
    HelperM (HelperExit × Bool × RuntimeMarker) := do
  let (state, observation) ← sessionOwnedLinkState name marker
  match state with
  | .unknown => return (.runtimeFailed, false, marker)
  | .conflict => return (.interfaceConflict, false, marker)
  | .absent => return (.success, false, marker)
  | .present =>
    if marker.ifindex = 0 then
      let marker := { marker with ifindex := observation.tokenIfindex }
      if ← ask (.writeRuntimeMarker name marker) then
        return (.success, true, marker)
      else return (.runtimeFailed, true, marker)
    else return (.success, true, marker)

end NmSidebar
