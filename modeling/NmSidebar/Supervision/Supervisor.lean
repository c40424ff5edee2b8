import NmSidebar.Supervision.Protocol

/-!
# The supervisor

`amneziawg_supervisor.c`. The table of owned groups is a list; which group a loop over the table
meets first is left to the list's order, on which nothing depends. The descriptor is closed
exactly when `channelClosed` is set.
-/

namespace NmSidebar

open Effects

/-- `MAX_SUPERVISED_GROUPS`. -/
def maxSupervisedGroups : ℕ := 8

/-- `SupervisedGroup`. A sentinel of zero or less is none. -/
structure SupervisedGroup where
  processGroup : ℤ
  sentinel : Option ℕ
  pendingRelease : Bool
  helperTerminating : Bool
  terminalSignalSent : Bool
  deriving DecidableEq

/-- `NetworkSidebarAwgSupervisor`. -/
structure Supervisor where
  ownedGroups : List SupervisedGroup
  retiredSentinels : List ℕ
  allowRelease : Bool
  channelClosed : Bool
  failed : Bool
  cleanupStarted : Bool
  groupReleased : Bool
  releaseCancelled : Bool
  deriving DecidableEq

/-- `network_sidebar_awg_supervisor_new`. -/
def supervisorNew (allowRelease : Bool) : Supervisor :=
  ⟨[], [], allowRelease, false, false, false, false, false⟩

namespace Supervisor

/-! ## The table of owned groups -/

/-- `g_hash_table_lookup`. -/
def lookup (s : Supervisor) (processGroup : ℤ) : Option SupervisedGroup :=
  s.ownedGroups.find? (·.processGroup = processGroup)

/-- `g_hash_table_steal`. -/
def steal (s : Supervisor) (processGroup : ℤ) : Supervisor :=
  { s with ownedGroups := s.ownedGroups.filter (·.processGroup ≠ processGroup) }

/-- Writes to the fields of an owned group. -/
def update (s : Supervisor) (processGroup : ℤ) (f : SupervisedGroup → SupervisedGroup) :
    Supervisor :=
  { s with
    ownedGroups := s.ownedGroups.map fun group =>
      if group.processGroup = processGroup then f group else group }

/-- The end of a release that is pending for the group. -/
def unreleased (s : Supervisor) (group : SupervisedGroup) : Supervisor :=
  { s with groupReleased := if group.pendingRelease then false else s.groupReleased }

/-! ## Sentinels -/

/-- `reap_sentinel`: the group with the sentinel it is left with. -/
def reapSentinel (group : SupervisedGroup) : ServiceM SupervisedGroup := do
  match group.sentinel with
  | none => return group
  | some sentinel =>
    let _ ← sys (.killSentinel sentinel)
    let waited ← sys (.reapSentinel sentinel)
    return if waited = .exited ∨ waited = .noChild then { group with sentinel := none } else group

/-- The sentinels that cannot be reaped yet. -/
def unreaped : List ℕ → ServiceM (List ℕ)
  | [] => return []
  | sentinel :: sentinels => do
    let waited ← sys (.reapSentinel sentinel)
    let rest ← unreaped sentinels
    return if waited = .exited ∨ waited = .noChild then rest else sentinel :: rest

/-- `reap_retired_sentinels`. -/
def reapRetiredSentinels (s : Supervisor) : ServiceM Supervisor := do
  let retiredSentinels ← unreaped s.retiredSentinels
  return { s with retiredSentinels }

/-- `sentinels_are_safe` for one group. -/
def sentinelIsSafe (group : SupervisedGroup) : ServiceM Bool := do
  match group.sentinel with
  | none => return group.terminalSignalSent
  | some sentinel =>
    match ← sys (.peekSentinel sentinel) with
    | .failed | .noChild => return false
    | .running => return true
    | .exited =>
      if group.terminalSignalSent ∨ group.helperTerminating then return true
      else if group.pendingRelease then return false
      else
        let scan ← sys (.scanProcessGroup group.processGroup group.sentinel)
        return decide (scan = .empty)

/-- `sentinels_are_safe` for the groups of a list. -/
def allSentinelsAreSafe : List SupervisedGroup → ServiceM Bool
  | [] => return true
  | group :: groups => do
    if ← sentinelIsSafe group then allSentinelsAreSafe groups else return false

/-- `sentinels_are_safe`. -/
def sentinelsAreSafe (s : Supervisor) : ServiceM Bool :=
  allSentinelsAreSafe s.ownedGroups

/-! ## Requests of the helper -/

/-- What the switch of `handle_message` leaves: the state, the status of the response and whether
a rejection is recoverable. -/
structure Handled where
  supervisor : Supervisor
  status : ℤ
  recoverable : Bool

/-- A request that is granted. -/
def granted (s : Supervisor) : Handled := ⟨s, 0, false⟩

/-- A request that is rejected. -/
def rejected (s : Supervisor) (error : Errno) : Handled := ⟨s, error.code, false⟩

/-- The `kill` of a group's sentinel, where it has one. -/
def killSentinel (group : SupervisedGroup) : ServiceM KillResult :=
  match group.sentinel with
  | none => return .sent
  | some sentinel => sys (.killSentinel sentinel)

/-- `unregister_group`, where it succeeds. -/
def unregisterGroup (s : Supervisor) (group : SupervisedGroup) : ServiceM (Option Supervisor) := do
  if (← killSentinel group) = .refused then return none
  else
    let s := (s.steal group.processGroup).unreleased group
    let s := { s with retiredSentinels := s.retiredSentinels ++ group.sentinel.toList }
    some <$> reapRetiredSentinels s

/-- `REGISTER`. -/
def handleRegister (s : Supervisor) (processGroup : ℤ) (group : Option SupervisedGroup) :
    ServiceM Handled := do
  let s ← reapRetiredSentinels s
  if s.cleanupStarted ∨ s.groupReleased then return rejected s .eshutdown
  else if group.isSome then return rejected s .eexist
  else if s.ownedGroups.length + s.retiredSentinels.length ≥ maxSupervisedGroups then
    return rejected s .enospc
  else
    match ← sys (.spawnSentinel processGroup) with
    | none => return rejected s .eio
    | some sentinel =>
      return granted { s with
        ownedGroups := ⟨processGroup, some sentinel, false, false, false⟩ :: s.ownedGroups }

/-- `UNREGISTER`. -/
def handleUnregister (s : Supervisor) (group : Option SupervisedGroup) : ServiceM Handled := do
  match group with
  | none => return rejected s .enoent
  | some group =>
    match ← sys (.scanProcessGroup group.processGroup group.sentinel) with
    | .failed => return rejected s .eio
    | .live => return rejected s .ebusy
    | .empty =>
      match ← s.unregisterGroup group with
      | none => return rejected s .eio
      | some s => return granted s

/-- `TERMINATING`. -/
def handleTerminating (s : Supervisor) (group : Option SupervisedGroup) : ServiceM Handled := do
  match group with
  | none => return rejected s .enoent
  | some group =>
    if ← s.sentinelsAreSafe then
      let s := s.update group.processGroup fun group =>
        { group with helperTerminating := true, pendingRelease := false }
      return granted (s.unreleased group)
    else return rejected s .eio

/-- `RELEASE`. -/
def handleRelease (s : Supervisor) (group : Option SupervisedGroup) : ServiceM Handled := do
  if s.cleanupStarted ∨ s.groupReleased then return rejected s .eperm
  else if s.releaseCancelled then return ⟨s, Errno.ecanceled.code, true⟩
  else if s.allowRelease = false then return rejected s .eperm
  else
    match group with
    | none => return rejected s .enoent
    | some group =>
      if group.helperTerminating ∨ group.terminalSignalSent then return rejected s .eperm
      else if s.ownedGroups.length ≠ 1 then return rejected s .ebusy
      else
        match ← sys (.scanProcessGroup group.processGroup group.sentinel) with
        | .failed => return rejected s .eio
        | .empty => return rejected s .enotsup
        | .live =>
          let s := s.update group.processGroup fun group => { group with pendingRelease := true }
          return granted { s with groupReleased := true }

/-- `WITHDRAW_RELEASE`. -/
def handleWithdrawRelease (s : Supervisor) (group : Option SupervisedGroup) : Handled :=
  match group with
  | none => rejected s .eperm
  | some group =>
    if s.cleanupStarted ∨ group.pendingRelease = false ∨ s.groupReleased = false ∨
        group.terminalSignalSent then
      rejected s .eperm
    else
      let s := s.update group.processGroup fun group => { group with pendingRelease := false }
      granted { s with groupReleased := false }

/-- The switch of `handle_message`. -/
def handleRequest (s : Supervisor) (type : SupervisionType) (processGroup : ℤ) :
    ServiceM Handled :=
  let group := s.lookup processGroup
  match type with
  | .register => s.handleRegister processGroup group
  | .unregister => s.handleUnregister group
  | .terminating => s.handleTerminating group
  | .release => s.handleRelease group
  | .withdrawRelease => return s.handleWithdrawRelease group

/-- The checks `handle_message` makes before its switch: the type of a message that passes. -/
def requestType (message : SupervisionMessage) : Option SupervisionType :=
  if message.magic ≠ supervisionMagic ∨ message.version ≠ supervisionVersion ∨
      message.sequence = 0 ∨ message.status ≠ 0 ∨ message.processGroup ≤ 0 then
    none
  else supervisionTypeOf message.type

/-- `handle_message`. -/
def handleMessage (s : Supervisor) (message : SupervisionMessage) :
    ServiceM (Bool × Supervisor) := do
  match requestType message with
  | none => return (false, s)
  | some type =>
    let handled ← s.handleRequest type message.processGroup
    if ← sys (.send { message with status := handled.status }) then
      return (decide (handled.status = 0) || handled.recoverable, handled.supervisor)
    else return (false, handled.supervisor)

/-! ## Cleanup -/

/-- `network_sidebar_awg_supervisor_begin_cleanup`. -/
def beginCleanup (s : Supervisor) : Supervisor := { s with cleanupStarted := true }

/-- `network_sidebar_awg_supervisor_disable_release`. -/
def disableRelease (s : Supervisor) : Supervisor :=
  { s with allowRelease := false, releaseCancelled := true }

/-- `network_sidebar_awg_supervisor_release_pending`. -/
def releasePending (s : Supervisor) : Bool := s.groupReleased

/-- `network_sidebar_awg_supervisor_groups_empty`. -/
def groupsEmpty (s : Supervisor) : Bool := s.ownedGroups.isEmpty

/-- `network_sidebar_awg_supervisor_signal_groups` for the groups of a list. -/
def signalAll (signal : Signal) : List SupervisedGroup → ServiceM (List SupervisedGroup)
  | [] => return []
  | group :: groups => do
    if group.terminalSignalSent then
      let rest ← signalAll signal groups
      return group :: rest
    else
      let sent ← sys (.killGroup group.processGroup signal)
      let rest ← signalAll signal groups
      return { group with terminalSignalSent := sent && decide (signal = .kill) } :: rest

/-- `network_sidebar_awg_supervisor_signal_groups`. -/
def signalGroups (s : Supervisor) (signal : Signal) : ServiceM Supervisor := do
  let ownedGroups ← signalAll signal s.ownedGroups
  return { s with ownedGroups }

/-- `network_sidebar_awg_supervisor_poll_cleanup` for the groups of a list: the ones that are
left. -/
def reapTerminated : List SupervisedGroup → ServiceM (List SupervisedGroup)
  | [] => return []
  | group :: groups => do
    if group.terminalSignalSent then
      let (reaped, last) ← sys (.reapGroup group.processGroup)
      let rest ← reapTerminated groups
      if last = .noChild then return rest
      else
        return { group with sentinel := group.sentinel.filter fun pid => !reaped.contains pid } ::
          rest
    else
      let rest ← reapTerminated groups
      return group :: rest

/-- `network_sidebar_awg_supervisor_poll_cleanup`. -/
def pollCleanup (s : Supervisor) : ServiceM Supervisor := do
  let s ← s.reapRetiredSentinels
  if s.cleanupStarted then
    let ownedGroups ← reapTerminated s.ownedGroups
    return { s with ownedGroups }
  else return s

/-- `network_sidebar_awg_supervisor_detach_retired_sentinels`: the children that are handed on. -/
def detachRetiredSentinels (s : Supervisor) : ServiceM (List ℕ × Supervisor) := do
  let s ← s.reapRetiredSentinels
  return (s.retiredSentinels, { s with retiredSentinels := [] })

/-- `network_sidebar_awg_supervisor_detach_terminated_groups` for the groups of a list: the numbers
that are handed on and the groups that are left. -/
def detachTerminated : List SupervisedGroup → ServiceM (List ℤ × List SupervisedGroup)
  | [] => return ([], [])
  | group :: groups => do
    if group.terminalSignalSent then
      let _ ← reapSentinel group
      let (numbers, rest) ← detachTerminated groups
      return (group.processGroup :: numbers, rest)
    else
      let (numbers, rest) ← detachTerminated groups
      return (numbers, group :: rest)

/-- `network_sidebar_awg_supervisor_detach_terminated_groups`. -/
def detachTerminatedGroups (s : Supervisor) : ServiceM (List ℤ × Supervisor) := do
  if s.cleanupStarted then
    let (numbers, ownedGroups) ← detachTerminated s.ownedGroups
    return (numbers, { s with ownedGroups })
  else return ([], s)

/-- `network_sidebar_awg_supervisor_finalize_release`: the group that is handed out. -/
def finalizeRelease (s : Supervisor) : ServiceM (Option ℤ × Supervisor) := do
  match s.ownedGroups with
  | [group] =>
    if s.cleanupStarted ∨ group.pendingRelease = false ∨ group.helperTerminating ∨
        group.terminalSignalSent then
      return (none, s)
    else
      let _ ← reapSentinel group
      return (some group.processGroup, s.steal group.processGroup)
  | _ => return (none, s)

/-- `network_sidebar_awg_supervisor_abort`. -/
def abort (s : Supervisor) : ServiceM Supervisor := do
  sys .closeChannel
  return { s with failed := true, channelClosed := true }

/-! ## Polling -/

/-- The cleanup that `network_sidebar_awg_supervisor_poll` starts when a sentinel has died. -/
def failSentinels (s : Supervisor) : ServiceM Supervisor := do
  let s ← s.beginCleanup.signalGroups .kill
  return { s with failed := true }

/-- The loop of `network_sidebar_awg_supervisor_poll`. There is no outcome where more than `rounds`
receptions are needed. -/
def pollMessages (s : Supervisor) : ℕ → ServiceM (Option (Bool × Supervisor))
  | 0 => return none
  | rounds + 1 => do
    match ← sys .receive with
    | .wouldBlock =>
      let s ← s.reapRetiredSentinels
      if ← s.sentinelsAreSafe then return some (true, s)
      else
        let s ← s.failSentinels
        sys .closeChannel
        return some (false, { s with channelClosed := true })
    | .closed =>
      if ← s.sentinelsAreSafe then
        sys .closeChannel
        return some (!s.failed, { s with channelClosed := true })
      else
        let s ← s.failSentinels
        sys .closeChannel
        return some (!s.failed, { s with channelClosed := true })
    | .malformed => some <$> (Prod.mk false <$> s.abort)
    | .message message =>
      let (handled, s) ← s.handleMessage message
      if handled then s.pollMessages rounds else some <$> (Prod.mk false <$> s.abort)

/-- `network_sidebar_awg_supervisor_poll`. -/
def poll (s : Supervisor) (rounds : ℕ) : ServiceM (Option (Bool × Supervisor)) := do
  let s ← s.reapRetiredSentinels
  if s.failed then return some (false, s)
  else if s.channelClosed then return some (true, s)
  else s.pollMessages rounds

end Supervisor

end NmSidebar
