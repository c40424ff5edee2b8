import NmSidebar.AmneziaWG.ProfileReport
import NmSidebar.AmneziaWG.RuntimeJournal

/-!
# Admission of actions

What the panel offers for a session in a state, and why an action is blocked (`admission.c`).
-/

namespace NmSidebar

/-- `NetworkSidebarAwgAction`. -/
inductive AwgAction where
  | import
  | replace
  | up
  | down
  | delete
  deriving DecidableEq

/-- `runtime_can_disconnect`. -/
def runtimeCanDisconnect (state : RuntimeState) : Bool :=
  state == .active || runtimeStateIsRecoverable state

/-- `network_sidebar_awg_primary_action`. -/
def awgPrimaryAction (state : RuntimeState) : AwgAction :=
  if runtimeCanDisconnect state = true ∨ state = .manualIntervention then .down else .up

/-! ## What an action is evaluated against -/

/-- `NetworkSidebarAwgDependency`: what is missing. -/
structure MissingDependencies where
  helper : Bool
  service : Bool
  awgQuick : Bool
  deriving DecidableEq

/-- `NETWORK_SIDEBAR_AWG_DEPENDENCY_NONE`. -/
def MissingDependencies.none : MissingDependencies := ⟨false, false, false⟩

/-- `NetworkSidebarAwgActionBlockedReason`. -/
inductive ActionBlockedReason where
  | none
  | authorization
  | busy
  | capabilities
  | dependencies
  | profileMissing
  | profileActivation
  | profileRemoval
  | runtimeUnknown
  | conflict
  | manualCleanup
  | alreadyInState
  deriving DecidableEq

/-- `NetworkSidebarAwgAdmissionContext`. -/
structure AdmissionContext where
  authorized : Bool
  busy : Bool
  capabilitiesKnown : Bool
  missingDependencies : MissingDependencies

/-- `NetworkSidebarAwgAdmissionTarget`. -/
structure AdmissionTarget where
  hasProfile : Bool
  profileStatus : ProfileStatus
  runtimeState : RuntimeState
  interfaceExists : Bool
  deriving DecidableEq

/-- `NetworkSidebarAwgActionAvailability`. -/
structure ActionAvailability where
  action : AwgAction
  offered : Bool
  allowed : Bool
  blockedReason : ActionBlockedReason
  missingDependencies : MissingDependencies

/-- `network_sidebar_amneziawg_profile_status_allows_removal`. -/
def profileStatusAllowsRemoval (status : ProfileStatus) : Bool :=
  status == .available || status == .invalidConfiguration || status == .incompatibleConfiguration

/-! ## The policy -/

/-- The link of a target is known to be absent. -/
def AdmissionTarget.linkIsAbsent (target : AdmissionTarget) : Bool :=
  target.runtimeState != .unknown && !target.interfaceExists

/-- `network_sidebar_awg_action_missing_dependencies`. -/
def actionMissingDependencies (action : AwgAction) (context : AdmissionContext)
    (target : Option AdmissionTarget) (runtimeCleanupOnly : Bool) : MissingDependencies :=
  let missing := context.missingDependencies
  match action with
  | .down =>
    if context.capabilitiesKnown = false then ⟨false, missing.service, false⟩
    else if runtimeCleanupOnly ∨ target.any (·.linkIsAbsent) then { missing with awgQuick := false }
    else missing
  | .delete => if target.any (·.linkIsAbsent) then { missing with awgQuick := false } else missing
  | .import | .replace | .up => missing

/-- `dependency_blocked_reason`. -/
def dependencyBlockedReason (context : AdmissionContext) (missing : MissingDependencies) :
    ActionBlockedReason :=
  if missing = .none then .none
  else if context.capabilitiesKnown = false ∧ missing.service = false then .capabilities
  else .dependencies

/-- What `action_blocked_reason` makes of the runtime state of a target. -/
def runtimeBlockedReason (action : AwgAction) (context : AdmissionContext)
    (target : AdmissionTarget) (missing : MissingDependencies) : ActionBlockedReason :=
  if target.runtimeState = .unknown then .runtimeUnknown
  else if target.runtimeState = .conflict then .conflict
  else if target.runtimeState = .manualIntervention then .manualCleanup
  else if action = .delete then dependencyBlockedReason context missing
  else if runtimeCanDisconnect target.runtimeState = decide (action = .up) then .alreadyInState
  else dependencyBlockedReason context missing

/-- `action_blocked_reason`. -/
def actionBlockedReason (action : AwgAction) (context : AdmissionContext)
    (target : Option AdmissionTarget) (missing : MissingDependencies) : ActionBlockedReason :=
  if context.authorized = false then .authorization
  else if context.busy then .busy
  else
    match action, target with
    | .import, _ | .replace, _ => dependencyBlockedReason context missing
    | .up, none => .profileMissing
    | .delete, none => .profileRemoval
    | .down, none => .runtimeUnknown
    | .up, some target =>
      if target.hasProfile = false then .profileMissing
      else if target.profileStatus ≠ .available then .profileActivation
      else runtimeBlockedReason .up context target missing
    | .delete, some target =>
      if target.hasProfile = false ∨ profileStatusAllowsRemoval target.profileStatus = false then
        .profileRemoval
      else runtimeBlockedReason .delete context target missing
    | .down, some target => runtimeBlockedReason .down context target missing

/-- Whether `network_sidebar_awg_action_evaluate` offers the action. -/
def actionOffered (action : AwgAction) (target : Option AdmissionTarget) : Bool :=
  match action with
  | .import | .replace => true
  | .up => target.any fun target => target.hasProfile && target.profileStatus == .available
  | .down => target.any fun target => runtimeCanDisconnect target.runtimeState
  | .delete => target.any fun target =>
    target.hasProfile && profileStatusAllowsRemoval target.profileStatus

/-- `network_sidebar_awg_action_evaluate`. -/
def actionEvaluate (action : AwgAction) (context : AdmissionContext)
    (target : Option AdmissionTarget) : ActionAvailability :=
  let missing := actionMissingDependencies action context target false
  let blockedReason := actionBlockedReason action context target missing
  { action
    offered := actionOffered action target
    allowed := blockedReason == .none
    blockedReason
    missingDependencies := missing }

end NmSidebar
