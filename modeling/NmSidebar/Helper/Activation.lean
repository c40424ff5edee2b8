import NmSidebar.Helper.Tunnel

/-!
# Activation and disconnection

The entry points of `amneziawg_helper_tunnel.c`: preparing and running an activation, the check
before a switch, and the disconnection of a session.
-/

namespace NmSidebar

open Text Effects

/-! ## Link tokens -/

/-- The digits of `generate_link_token`. -/
def hexDigits : Bytes := ascii "0123456789abcdef"

/-- The token made of random bytes: two digits a byte, the upper half first. -/
def linkTokenOf (random : Bytes) : Bytes :=
  random.flatMap fun b => [hexDigits.getD (b.toNat / 16) 0, hexDigits.getD (b.toNat % 16) 0]

/-- Two digits for every byte. -/
theorem length_linkTokenOf (random : Bytes) : (linkTokenOf random).length = 2 * random.length := by
  induction random with
  | nil => rfl
  | cons b rest ih =>
    simp only [linkTokenOf, List.flatMap_cons, List.length_append, List.length_cons] at ih ⊢
    rw [ih]
    simp only [List.length_nil]
    omega

/-- A token made of sixteen random bytes is valid. -/
theorem linkTokenIsValid_linkTokenOf (random : RandomBytes (linkTokenLength / 2)) :
    linkTokenIsValid (linkTokenOf random.1) = true := by
  have hdigit : ∀ n, n < 16 → (isDigit (hexDigits.getD n 0) ||
      (decide (0x61 ≤ hexDigits.getD n 0) && decide (hexDigits.getD n 0 ≤ 0x66))) = true := by
    decide
  rw [linkTokenIsValid, Bool.and_eq_true]
  constructor
  · rw [beq_iff_eq, length_linkTokenOf, random.2]
    rfl
  · rw [List.all_eq_true]
    intro digit hmem
    obtain ⟨b, -, hb⟩ := List.mem_flatMap.mp hmem
    have hlt : b.toNat < 256 := b.toNat_lt
    rcases List.mem_cons.mp hb with rfl | hb
    · exact hdigit _ (by omega)
    · obtain rfl := List.mem_singleton.mp hb
      exact hdigit _ (by omega)

/-! ## Prepared activations -/

/-- The journal of a session that has not begun: what is in it before `up` may run. -/
structure FreshJournal (journal : RuntimeMarker) : Prop where
  valid : runtimeMarkerFieldsAreValid journal
  state : journal.state = .activating
  ifindex : journal.ifindex = 0
  dnsState : journal.dnsState = .absent
  wasActive : journal.wasActive = false

/-- `AwgHelperActivation`, with its prepared profile. Only a valid name is prepared, and the
journal is fresh. -/
structure Activation where
  name : Name
  runtimeSnapshot : Bytes
  dns : DnsConfig
  dnsPayload : Bytes
  journal : RuntimeMarker
  consumed : Bool
  nameValid : nameIsValid name = true
  fresh : FreshJournal journal

/-- The name of the activation's configuration. -/
def Activation.configName (a : Activation) : Name := configNameOf a.name

/-- The path `awg-quick` is given. -/
def Activation.snapshotPath (a : Activation) : Bytes := runtimeConfigPathOf a.name

/-- The journal `awg_helper_tunnel_prepare_up` writes down. -/
def preparedJournal (random : RandomBytes (linkTokenLength / 2)) (dnsBackend : DnsBackend)
    (scope : FirewallScope) : RuntimeMarker :=
  { linkToken := linkTokenOf random.1, ifindex := 0, dnsBackend, state := .activating,
    dnsState := .absent, wasActive := false, firewallScope := scope.bits }

theorem fresh_preparedJournal (random : RandomBytes (linkTokenLength / 2))
    (dnsBackend : DnsBackend) (scope : FirewallScope) :
    FreshJournal (preparedJournal random dnsBackend scope) where
  valid := by
    refine ⟨scope.within, linkTokenIsValid_linkTokenOf random, ?_, ?_, ?_, ?_⟩ <;>
      simp [preparedJournal]
  state := rfl
  ifindex := rfl
  dnsState := rfl
  wasActive := rfl

/-- `awg_helper_tunnel_prepare_up`. -/
def tunnelPrepareUp (name : Name) (deadline : ℤ) : HelperM (Except HelperExit Activation) := do
  if hname : nameIsValid name = false then return .error .invalidName
  else
    let stop ← phaseStopStatus deadline
    if stop ≠ .success then return .error stop
    else
      match storageMakeConfigFilename name, storageMakeRuntimeConfigPath name with
      | none, _ | _, none => return .error .invalidName
      | some configName, some _ =>
        match ← ask (.secureFileState .config configName 0o600) with
        | .missing => return .error .notFound
        | .invalid => return .error .filesystemFailed
        | .valid =>
          match ← sessionRuntimeState name with
          | .error failure => return .error failure
          | .ok state =>
            if state.marker.isSome then return .error .active
            else if state.interface then return .error .interfaceConflict
            else
              match ← ask (.getrandom (linkTokenLength / 2)) with
              | none => return .error .runtimeFailed
              | some random =>
                match ← profilesPrepareRuntime configName deadline with
                | .error failure => return .error failure
                | .ok profile =>
                  match profile.addLinkClaim (linkTokenOf random.1),
                      dnsConfigSerialize profile.dns with
                  | none, _ | _, none => return .error .runtimeFailed
                  | some claimed, some dnsPayload =>
                    match ← dnsSelectBackend profile.dns deadline with
                    | .error failure =>
                      let result ← phaseFailureOr deadline
                        (if failure = .unavailable then .dnsBackendUnavailable
                        else .dnsApplyFailed)
                      return .error result
                    | .ok dnsBackend =>
                      let captured ← ask (.firewallCaptureScope name deadline)
                      if captured.complete = false then
                        let result ← phaseFailureOr deadline .firewallFailed
                        return .error result
                      else
                        let stop ← phaseStopStatus deadline
                        if stop ≠ .success then return .error stop
                        else
                          return .ok
                            { name, runtimeSnapshot := claimed.runtimeSnapshot
                              dns := profile.dns, dnsPayload
                              journal := preparedJournal random dnsBackend captured.scope
                              consumed := false
                              nameValid := eq_true_of_ne_false hname
                              fresh := fresh_preparedJournal random dnsBackend captured.scope }

/-! ## Activation -/

/-- `rollback_activation` with the arguments `awg_helper_tunnel_activate` gives it. -/
def Activation.rollback (a : Activation) (s : TunnelState) (failure : HelperExit)
    (deadlines : Deadlines) : HelperM (HelperExit × TunnelState) :=
  rollbackActivation a.name a.configName a.snapshotPath s failure deadlines.cleanupAt

/-- A step of `awg_helper_tunnel_activate` behind its check of the deadline: the activation is
rolled back where the phase has to stop. -/
def Activation.unlessStopped (a : Activation) (s : TunnelState) (deadlines : Deadlines)
    (next : HelperM (HelperExit × TunnelState)) : HelperM (HelperExit × TunnelState) := do
  let stop ← phaseStopStatus deadlines.forwardAt
  if stop ≠ .success then a.rollback s stop deadlines else next

/-- The journal of a session that has become active. -/
def TunnelState.activated (s : TunnelState) : TunnelState :=
  { s with journal := { s.journal with state := .active, wasActive := true } }

/-- The journal after the write of the active one has failed. -/
def TunnelState.deactivated (s : TunnelState) : TunnelState :=
  { s with journal := { s.journal with state := .activating, wasActive := false } }

/-- The end of `awg_helper_tunnel_activate` before its label `out`: the session becomes active
and is looked at once more. -/
def Activation.confirm (a : Activation) (s : TunnelState) (deadlines : Deadlines) :
    HelperM (HelperExit × TunnelState) := do
  let s := s.activated
  if ← writeJournal a.name s then
    a.unlessStopped s deadlines do
      match ← sessionRuntimeState a.name with
      | .error failure => a.rollback s failure deadlines
      | .ok state =>
        if state.marker.isNone ∨ state.interface = false then
          a.rollback s .runtimeFailed deadlines
        else return (.success, s)
  else a.rollback s.deactivated .runtimeFailed deadlines

/-- The resolver step of `awg_helper_tunnel_activate` and what follows. -/
def Activation.configureDns (a : Activation) (s : TunnelState) (deadlines : Deadlines) :
    HelperM (HelperExit × TunnelState) := do
  let (dnsResult, s) ← applyDnsDurably a.name s (some a.dns) deadlines.forwardAt
  match dnsResult with
  | .ok => a.unlessStopped s deadlines (a.confirm s deadlines)
  | .changeFailed =>
    let failure ← phaseFailureOr deadlines.forwardAt .dnsApplyFailed
    a.rollback s failure deadlines
  | .uncertain | .journalFailed => a.rollback s .runtimeFailed deadlines

/-- `awg_helper_tunnel_activate` from the point where the tunnel has started. -/
def Activation.started (a : Activation) (s : TunnelState) (deadlines : Deadlines) :
    HelperM (HelperExit × TunnelState) :=
  a.unlessStopped s deadlines do
    let (result, interface, journal) ← sessionRefreshOwnedInterface a.name s.journal
    let s := { s with journal }
    if result ≠ .success ∨ interface = false then
      a.rollback s (if result = .success then .runtimeFailed else result) deadlines
    else
      -- the source checks the deadline twice here
      a.unlessStopped s deadlines (a.unlessStopped s deadlines (a.configureDns s deadlines))

/-- What `awg_helper_tunnel_activate` reaches its label `out` with. -/
structure ActivationRun where
  result : HelperExit
  tunnelStarted : Bool
  tunnel : TunnelState

/-- `awg_helper_tunnel_activate` after `awg-quick up`. -/
def Activation.afterUp (a : Activation) (s : TunnelState) (quick : QuickResult)
    (deadlines : Deadlines) : HelperM ActivationRun := do
  let s ← includeCurrentFirewallScope a.name s deadlines.forwardAt
  let written ← writeJournal a.name s
  let result := if written then quick.status else .runtimeFailed
  if result ≠ .success then
    match ← tryFinalizeEarlyUpFailure a.name a.configName s quick deadlines.cleanupAt result with
    | some result => return ⟨result, false, s⟩
    | none =>
      let (result, s) ← a.rollback s result deadlines
      return ⟨result, false, s⟩
  else
    let (result, s) ← a.started s deadlines
    return ⟨result, true, s⟩

/-- `awg_helper_tunnel_activate` with all its artifacts written: `awg-quick up` is run. -/
def Activation.bringUp (a : Activation) (s : TunnelState) (deadlines : Deadlines) :
    HelperM ActivationRun := do
  let quick ← quickRun .up a.snapshotPath deadlines.forwardAt
  if quick.status ≠ .success ∧ quick.mayHaveRun = false then
    let cleanup ← discardUnstartedRuntime a.name a.configName s deadlines.cleanupAt
    return ⟨if cleanup ≠ .success then cleanup else quick.status, false, s⟩
  else a.afterUp s quick deadlines

/-- The three writes of `awg_helper_tunnel_activate` that precede `awg-quick up`. -/
def Activation.writeArtifacts (a : Activation) (s : TunnelState) (dnsName : Name) :
    HelperM Bool := do
  if ← ask (.atomicWrite .runtimeConfigs a.configName a.runtimeSnapshot 0o600) then
    if ← ask (.atomicWrite .runtimeConfigs dnsName a.dnsPayload 0o600) then
      writeJournal a.name s
    else return false
  else return false

/-- `awg_helper_tunnel_activate` from its first write to its label `out`. -/
def Activation.run (a : Activation) (s : TunnelState) (dnsName : Name) (deadlines : Deadlines) :
    HelperM ActivationRun := do
  if ← a.writeArtifacts s dnsName then a.bringUp s deadlines
  else
    let cleanup ← discardUnstartedRuntime a.name a.configName s deadlines.cleanupAt
    return ⟨if cleanup = .success then .runtimeFailed else .rollbackFailed, false, s⟩

/-- `awg_helper_tunnel_activate` with the retained process group still to be settled. -/
def Activation.settle (a : Activation) (s : TunnelState) (result : HelperExit)
    (deadlines : Deadlines) : HelperM HelperExit := do
  if result = .success then
    if ← processReleaseRetainedGroup deadlines.forwardAt deadlines.cleanupAt then
      return .success
    else
      let stop ← phaseStopStatus deadlines.forwardAt
      let (result, _) ← a.rollback s (if stop = .success then .childSignaled else stop) deadlines
      if ← processTerminateRetainedGroup deadlines.cleanupAt then return result
      else return .rollbackFailed
  else if ← processTerminateRetainedGroup deadlines.cleanupAt then return result
  else return .rollbackFailed

/-- `awg_helper_tunnel_activate` from its label `out`. -/
def Activation.finish (a : Activation) (run : ActivationRun) (deadlines : Deadlines) :
    HelperM HelperExit := do
  if run.tunnelStarted ∧ run.result = .success then
    let stop ← phaseStopStatus deadlines.forwardAt
    if stop ≠ .success then
      let (result, s) ← a.rollback run.tunnel stop deadlines
      a.settle s result deadlines
    else a.settle run.tunnel .success deadlines
  else a.settle run.tunnel run.result deadlines

/-- The admission checks of `awg_helper_tunnel_activate`; the name of the DNS payload is what
it goes on with. -/
def Activation.admission (a : Activation) (deadlines : Deadlines) :
    HelperM (Except HelperExit Name) := do
  let stop ← phaseStopStatus deadlines.forwardAt
  if stop ≠ .success then return .error stop
  else
    match ← sessionRuntimeState a.name with
    | .error failure => return .error failure
    | .ok state =>
      if state.marker.isSome then return .error .active
      else if state.interface then return .error .interfaceConflict
      else
        match storageMakeDnsFilename a.name with
        | none => return .error .runtimeFailed
        | some dnsName => return .ok dnsName

/-- `awg_helper_tunnel_activate` past its admission checks. -/
def Activation.admitted (a : Activation) (dnsRecoveryBlocked : Bool) (dnsName : Name)
    (deadlines : Deadlines) : HelperM HelperExit := do
  let run ← a.run ⟨a.journal, dnsRecoveryBlocked⟩ dnsName deadlines
  a.finish run deadlines

/-- `awg_helper_tunnel_activate`. -/
def tunnelActivate (dnsRecoveryBlocked : Bool) (activation : Option Activation)
    (deadlines : Deadlines) : HelperM HelperExit := do
  match activation with
  | none => return .usage
  | some a =>
    if a.consumed then return .usage
    else
      match ← a.admission deadlines with
      | .error failure => return failure
      | .ok dnsName => a.admitted dnsRecoveryBlocked dnsName deadlines

/-! ## Disconnection -/

/-- The journal-and-link gate of `awg_helper_tunnel_check_down`: the failure, or the marker whose
files have still to be checked. -/
def checkDownGate (state : SessionState) : Except HelperExit (Option RuntimeMarker) :=
  match state.marker with
  | none => if state.interface then .error .interfaceConflict else .ok none
  | some ⟨journal, _⟩ =>
    if journal.state = .cleanupComplete ∨ journal.state = .firewallPending then
      if state.interface then .error .interfaceConflict else .ok none
    else if state.interface = false ∨
        (journal.state ≠ .active ∧ journal.state ≠ .activating ∧
          journal.state ≠ .cleanupRequired) ∨
        (journal.dnsBackend = .resolved ∧ journal.dnsState = .unknown) then
      .error .runtimeFailed
    else .ok (some journal)

/-- The check of a session's runtime files that `awg_helper_tunnel_check_down` and
`awg_helper_tunnel_down` both make, with the DNS configuration that was read. -/
def checkRuntimeFiles (name configName : Name) (journal : RuntimeMarker) :
    HelperM (Option DnsConfig) := do
  match ← loadRuntimeDns name with
  | none => return none
  | some dns =>
    let state ← ask (.secureFileState .runtimeConfigs configName 0o600)
    if state ≠ .valid ∨ (decide (journal.dnsBackend = .none) != !dnsConfigPresent dns) then
      return none
    else return some dns

/-- `awg_helper_tunnel_check_down`. -/
def tunnelCheckDown (name : Name) (deadline : ℤ) : HelperM HelperExit := do
  let stop ← phaseStopStatus deadline
  if stop ≠ .success then return stop
  else if nameIsValid name = false then return .invalidName
  else
    match storageMakeConfigFilename name with
    | none => return .invalidName
    | some configName =>
      match ← sessionRuntimeState name with
      | .error failure => return failure
      | .ok state =>
        match checkDownGate state with
        | .error failure => return failure
        | .ok none => return .success
        | .ok (some journal) =>
          let dns ← checkRuntimeFiles name configName journal
          phaseFailureOr deadline (if dns.isSome then .success else .runtimeFailed)

/-- What `awg_helper_tunnel_down` goes on with past its gate. -/
inductive DownPlan where
  | nothing
  | finalize (s : TunnelState)
  | verify (s : TunnelState)
  | disconnect (s : TunnelState) (dns : DnsConfig)

/-- The gate of `awg_helper_tunnel_down` for a session that has still to be torn down. -/
def downDisconnectGate (name configName : Name) (s : TunnelState) :
    HelperM (Except HelperExit DownPlan) := do
  match ← checkRuntimeFiles name configName s.journal with
  | none => return .error .runtimeFailed
  | some dns => return .ok (.disconnect s dns)

/-- The gate of `awg_helper_tunnel_down`. -/
def tunnelDownGate (dnsRecoveryBlocked : Bool) (name configName : Name) (deadlines : Deadlines) :
    HelperM (Except HelperExit DownPlan) := do
  let stop ← phaseStopStatus deadlines.forwardAt
  if stop ≠ .success then return .error stop
  else
    match ← sessionRuntimeState name with
    | .error failure => return .error failure
    | .ok ⟨none, interface⟩ =>
      if interface then return .error .interfaceConflict else return .ok .nothing
    | .ok ⟨some ⟨journal, _⟩, interface⟩ =>
      let s : TunnelState := ⟨journal, dnsRecoveryBlocked⟩
      if journal.state = .cleanupComplete then
        if interface then return .error .interfaceConflict else return .ok (.finalize s)
      else if journal.state = .firewallPending then
        if interface then return .error .interfaceConflict else return .ok (.verify s)
      else if journal.state = .cleanupUnconfirmed then return .error .runtimeFailed
      else if journal.dnsBackend = .resolved ∧ journal.dnsState = .unknown then
        let _ ← writeJournal name (s.setState .cleanupUnconfirmed)
        return .error .runtimeFailed
      else if interface ∧ journal.ifindex = 0 then
        let (result, interface, journal) ← sessionRefreshOwnedInterface name journal
        if result ≠ .success then return .error result
        else if interface = false then return .error .runtimeFailed
        else downDisconnectGate name configName { s with journal }
      else downDisconnectGate name configName s

/-- The result of `awg_helper_tunnel_down` after a teardown that left the link. -/
def downFailure (teardown : InterfaceTeardown) : HelperExit :=
  if teardown.state = .conflict then .interfaceConflict
  else if teardown.state = .journalFailed then .rollbackFailed
  else if teardown.state = .unknown then .runtimeFailed
  else if teardown.commandResult ≠ .success then teardown.commandResult
  else .runtimeFailed

/-- `awg_helper_tunnel_down` from its label `abort_before_teardown`. -/
def downAbort (name : Name) (s : TunnelState) (dns : DnsConfig) (beganActive : Bool)
    (failure : HelperExit) (deadlines : Deadlines) : HelperM HelperExit := do
  ask (.setCleanupMode true)
  let (result, _) ←
    abortBeforeInterfaceTeardown name s (some dns) beganActive failure deadlines.cleanupAt
  ask (.setCleanupMode false)
  return result

/-- `awg_helper_tunnel_down` once the session's configuration is out of the resolver. -/
def downTeardown (name configName : Name) (snapshotPath : Bytes) (s : TunnelState)
    (dns : DnsConfig) (beganActive : Bool) (deadlines : Deadlines) : HelperM HelperExit := do
  let (teardown, s) ←
    teardownOwnedInterface name snapshotPath s .cleanupRequired deadlines.forwardAt
  if teardown.state = .absent then verifyRuntimeCleanup name configName s deadlines.forwardAt
  else if teardown.state = .remains ∧ teardown.mayHaveRun = false then
    downAbort name s dns beganActive (downFailure teardown) deadlines
  else return downFailure teardown

/-- `awg_helper_tunnel_down` past its gate, for a session that has still to be torn down. -/
def downDisconnect (name configName : Name) (snapshotPath : Bytes) (s : TunnelState)
    (dns : DnsConfig) (deadlines : Deadlines) : HelperM HelperExit := do
  let beganActive := decide (s.journal.state = .active)
  let s ← includeCurrentFirewallScope name s deadlines.forwardAt
  let s := s.setState .cleanupRequired
  if ← writeJournal name s then
    let (dnsResult, s) ← revertDnsDurably name s deadlines.forwardAt
    if s.dnsRecoveryBlocked then return .runtimeFailed
    else
      match dnsResult with
      | .ok => downTeardown name configName snapshotPath s dns beganActive deadlines
      | .changeFailed =>
        let failure ← phaseFailureOr deadlines.forwardAt .dnsRevertFailed
        downAbort name s dns beganActive failure deadlines
      | .uncertain | .journalFailed =>
        downAbort name s dns beganActive .runtimeFailed deadlines
  else return .runtimeFailed

/-- `awg_helper_tunnel_down`. -/
def tunnelDown (dnsRecoveryBlocked : Bool) (name configName : Name) (snapshotPath : Bytes)
    (deadlines : Deadlines) : HelperM HelperExit := do
  match ← tunnelDownGate dnsRecoveryBlocked name configName deadlines with
  | .error failure => return failure
  | .ok .nothing => return .success
  | .ok (.finalize s) => finalizeRuntimeEntries name configName s
  | .ok (.verify s) => verifyRuntimeCleanup name configName s deadlines.forwardAt
  | .ok (.disconnect s dns) => downDisconnect name configName snapshotPath s dns deadlines

end NmSidebar
