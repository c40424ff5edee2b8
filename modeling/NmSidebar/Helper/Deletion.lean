import NmSidebar.Helper.Calm
import NmSidebar.Helper.Commit
import NmSidebar.Program.Runs

/-!
# Deletion

A saved profile is removed only behind a disconnection that succeeded, and a disconnection
succeeds only where it has removed all that the session had left at runtime.
-/

namespace NmSidebar

open Text Effects

/-! ## What a disconnection uses -/

/-- An operation that changes no saved profile. -/
def HelperCall.SparesProfiles (o : HelperCall) : Prop := o.changesArea .config = false

theorem sparesProfiles_of_isPassive {o : HelperCall} (h : o.isPassive = true) :
    o.SparesProfiles := by
  cases o with
  | removeAndSync area name =>
    cases area with
    | staging => rfl
    | config | runtime | runtimeConfigs => cases h
  | renameStagingNoreplace | exchangeStagingConfig | atomicWrite => cases h
  | _ => rfl

theorem spares_of_worksOn {α : Type} {p : HelperM α} (hp : p.Uses (HelperCall.WorksOn none)) :
    p.Uses HelperCall.SparesProfiles := by
  apply hp.mono
  rintro o (ho | ⟨configName, hprofile, -⟩)
  · exact sparesProfiles_of_isPassive ho
  · cases hprofile

theorem spares_writeJournal (name : Name) (s : TunnelState) :
    (writeJournal name s).Uses HelperCall.SparesProfiles :=
  ⟨rfl, fun _ => trivial⟩

theorem spares_setCleanupMode (enabled : Bool) :
    (ask (.setCleanupMode enabled)).Uses HelperCall.SparesProfiles :=
  ⟨rfl, fun _ => trivial⟩

theorem spares_firewallProbe (name : Name) (scope : UInt32) (deadline : ℤ) :
    (ask (.firewallProbe name scope deadline)).Uses HelperCall.SparesProfiles :=
  ⟨rfl, fun _ => trivial⟩

theorem spares_phaseStopStatus (deadline : ℤ) :
    (phaseStopStatus deadline).Uses HelperCall.SparesProfiles :=
  spares_of_worksOn (worksOn_phaseStopStatus deadline)

theorem spares_phaseFailureOr (deadline : ℤ) (fallback : HelperExit) :
    (phaseFailureOr deadline fallback).Uses HelperCall.SparesProfiles :=
  spares_of_worksOn (worksOn_phaseFailureOr deadline fallback)

theorem spares_sessionRuntimeState (name : Name) :
    (sessionRuntimeState name).Uses HelperCall.SparesProfiles :=
  spares_of_worksOn (worksOn_sessionRuntimeState name)

theorem spares_checkRuntimeFiles (name configName : Name) (journal : RuntimeMarker) :
    (checkRuntimeFiles name configName journal).Uses HelperCall.SparesProfiles :=
  (uses_checkRuntimeFiles name configName journal).mono fun _ => sparesProfiles_of_isPassive

theorem spares_sessionOwnedLinkState (name : Name) (marker : RuntimeMarker) :
    (sessionOwnedLinkState name marker).Uses HelperCall.SparesProfiles :=
  ⟨rfl, fun _ => trivial⟩

theorem spares_sessionRefreshOwnedInterface (name : Name) (marker : RuntimeMarker) :
    (sessionRefreshOwnedInterface name marker).Uses HelperCall.SparesProfiles := by
  refine (spares_sessionOwnedLinkState name marker).bind fun r => ?_
  obtain ⟨state, observation⟩ := r
  cases state with
  | unknown | conflict | absent => trivial
  | present =>
    dsimp only
    split
    · refine uses_ask rfl fun written => ?_
      cases written <;> trivial
    · trivial

theorem spares_includeCurrentFirewallScope (name : Name) (s : TunnelState) (deadline : ℤ) :
    (includeCurrentFirewallScope name s deadline).Uses HelperCall.SparesProfiles :=
  ⟨rfl, fun _ => trivial⟩

theorem spares_quickRun (command : QuickCommand) (configPath : Bytes) (deadline : ℤ) :
    (quickRun command configPath deadline).Uses HelperCall.SparesProfiles := by
  refine (spares_phaseStopStatus deadline).bind fun stop => ?_
  split
  · trivial
  · refine uses_ask rfl fun opened => ?_
    cases opened with
    | false => trivial
    | true => exact uses_ask rfl fun _ => trivial

/-! ## Its resolver changes -/

theorem spares_dnsApplySelected (identity : LinkIdentity) (dns : Option DnsConfig)
    (backend : DnsBackend) (deadline : ℤ) :
    (dnsApplySelected identity dns backend deadline).Uses HelperCall.SparesProfiles := by
  unfold dnsApplySelected
  split
  · trivial
  cases dns with
  | none => trivial
  | some dns =>
    dsimp only
    split
    · trivial
    split
    · exact uses_ask rfl fun _ => trivial
    · exact ⟨rfl, fun _ => trivial⟩

theorem spares_dnsRevertSelected (identity : LinkIdentity) (backend : DnsBackend)
    (deadline : ℤ) :
    (dnsRevertSelected identity backend deadline).Uses HelperCall.SparesProfiles := by
  unfold dnsRevertSelected
  split
  · trivial
  split
  · trivial
  split
  · refine uses_ask rfl fun reverted => ?_
    cases reverted <;> trivial
  · exact ⟨rfl, fun _ => trivial⟩

theorem spares_completeDnsChange (name : Name) (s : TunnelState)
    (previousState confirmedState : JournalDnsState) (outcome : DnsChangeOutcome) :
    (completeDnsChange name s previousState confirmedState outcome).Uses
      HelperCall.SparesProfiles := by
  refine (spares_writeJournal name _).bind fun written => ?_
  cases written <;> trivial

theorem spares_applyDnsDurably (name : Name) (s : TunnelState) (dns : Option DnsConfig)
    (deadline : ℤ) :
    (applyDnsDurably name s dns deadline).Uses HelperCall.SparesProfiles := by
  unfold applyDnsDurably
  split
  · trivial
  split
  · trivial
  split
  · trivial
  refine (spares_writeJournal name _).bind fun written => ?_
  cases written with
  | false => trivial
  | true =>
    exact (spares_dnsApplySelected _ dns _ deadline).bind fun outcome =>
      spares_completeDnsChange name _ _ _ outcome

theorem spares_revertMayProceed (name : Name) (s : TunnelState) :
    (revertMayProceed name s).Uses HelperCall.SparesProfiles := by
  unfold revertMayProceed
  split
  · exact (spares_sessionOwnedLinkState name _).bind fun _ => trivial
  · trivial

theorem spares_revertDnsDurably (name : Name) (s : TunnelState) (deadline : ℤ) :
    (revertDnsDurably name s deadline).Uses HelperCall.SparesProfiles := by
  unfold revertDnsDurably
  split
  · trivial
  split
  · trivial
  refine (spares_revertMayProceed name s).bind fun proceed => ?_
  split
  · exact spares_completeDnsChange name _ _ _ _
  refine (spares_writeJournal name _).bind fun written => ?_
  cases written with
  | false => trivial
  | true =>
    exact (spares_dnsRevertSelected _ _ deadline).bind fun outcome =>
      spares_completeDnsChange name _ _ _ outcome

theorem spares_abortBeforeInterfaceTeardown (name : Name) (s : TunnelState)
    (dns : Option DnsConfig) (beganActive : Bool) (failure : HelperExit) (deadline : ℤ) :
    (abortBeforeInterfaceTeardown name s dns beganActive failure deadline).Uses
      HelperCall.SparesProfiles := by
  unfold abortBeforeInterfaceTeardown
  dsimp only
  split
  · trivial
  refine (spares_sessionOwnedLinkState name _).bind fun r => ?_
  obtain ⟨state, observation⟩ := r
  cases state with
  | unknown | absent => trivial
  | conflict => exact (spares_writeJournal name _).bind fun _ => trivial
  | present =>
    refine (spares_phaseStopStatus deadline).bind fun stop => ?_
    split
    · trivial
    refine (spares_writeJournal name _).bind fun written => ?_
    cases written with
    | false => trivial
    | true =>
      rw [if_pos rfl]
      split
      · trivial
      refine (spares_applyDnsDurably name _ dns deadline).bind fun r => ?_
      obtain ⟨applied, s'⟩ := r
      dsimp only
      split
      · trivial
      refine (spares_writeJournal name _).bind fun written => ?_
      cases written <;> trivial

theorem spares_teardownOwnedInterface (name : Name) (snapshotPath : Bytes) (s : TunnelState)
    (absentState : JournalState) (deadline : ℤ) :
    (teardownOwnedInterface name snapshotPath s absentState deadline).Uses
      HelperCall.SparesProfiles := by
  refine (spares_sessionRefreshOwnedInterface name _).bind fun r => ?_
  obtain ⟨identityResult, interfaceExists, journal⟩ := r
  dsimp only
  split
  · trivial
  split
  · trivial
  refine (spares_writeJournal name _).bind fun written => ?_
  cases written with
  | false => trivial
  | true =>
    rw [if_pos rfl]
    split
    · trivial
    refine (spares_quickRun .down snapshotPath deadline).bind fun quick => ?_
    refine (spares_sessionOwnedLinkState name _).bind fun r => ?_
    obtain ⟨link, observation⟩ := r
    dsimp only
    split
    · refine (spares_writeJournal name _).bind fun written => ?_
      cases written <;> trivial
    · trivial

/-! ## What a successful disconnection has removed -/

/-- The files a session has at runtime, in the order of their removal. -/
def runtimeFilesOf (name : Name) : List (StorageArea × Name) :=
  [(.runtimeConfigs, configNameOf name), (.runtimeConfigs, dnsNameOf name), (.runtime, name)]

/-- Every runtime file of the session has been removed, with the removal on disk, and none is
there any more. -/
structure RuntimeRemoved (name : Name) (tr : List HelperEvent) (w : World) : Prop where
  removed : ∀ file ∈ runtimeFilesOf name, ∃ before after,
    (⟨.removeAndSync file.1 file.2, before, true, after⟩ : HelperEvent) ∈ tr
  gone : ∀ file ∈ runtimeFilesOf name, w.files file.1 file.2 = none

/-- Where a program is: its world and its events. -/
abbrev Logged := World × List HelperEvent

/-- The issue condition of a disconnection. -/
def Sparing (o : HelperCall) (_ : Logged) : Prop := o.SparesProfiles

/-- Success means that the runtime files have been removed. -/
def SuccessRemoves (name : Name) (result : HelperExit) (σ : Logged) : Prop :=
  result = .success → RuntimeRemoved name σ.2 σ.1

variable {name : Name} {σ : Logged}

theorem sparing_of_uses {α : Type} {p : HelperM α} (hp : p.Uses HelperCall.SparesProfiles) :
    Safe behaves.logged Sparing p (fun _ _ => True) σ :=
  Safe.of_uses hp trivial (fun _ _ ho _ => ho) fun _ _ _ _ _ _ _ => trivial

/-- What a program that uses nothing else returns. -/
theorem sparing_of_returns {α : Type} {p : HelperM α} {Q : α → Prop}
    (hp : p.Uses HelperCall.SparesProfiles) (hreturns : p.Returns Q) :
    Safe behaves.logged Sparing p (fun a _ => Q a) σ := by
  have hQ := Safe.of_returnsOn (B := behaves.logged) (A := fun _ _ => True) (w := σ)
    (R := fun _ _ => True) hreturns.on (fun _ _ => trivial) fun _ _ _ _ _ => trivial
  exact (((@sparing_of_uses σ _ _ hp).and hQ).weaken fun _ _ => And.left).mono fun _ _ => And.right

/-- One removal that succeeded: the file is gone, and the removal is in the log. -/
theorem removed_of_logged {area : StorageArea} {file : Name} {σ' : Logged}
    (h : behaves.logged (.removeAndSync area file) σ true σ') :
    σ'.1 = σ.1.setFile area file none ∧
      σ'.2 = σ.2 ++ [⟨.removeAndSync area file, σ.1, true, σ'.1⟩] := by
  refine ⟨?_, h.2⟩
  obtain ⟨w', tr'⟩ := σ'
  cases h.1
  rfl

/-- `finalize_runtime_entries` succeeds only behind its three removals. -/
theorem finalizeRuntimeEntries_removes (s : TunnelState) :
    Safe behaves.logged Sparing (finalizeRuntimeEntries name (configNameOf name) s)
      (SuccessRemoves name) σ := by
  unfold finalizeRuntimeEntries
  split
  · exact HelperExit.noConfusion
  refine (sparing_of_uses (spares_writeJournal name s)).bind fun written σ₀ _ => ?_
  cases written with
  | false => exact HelperExit.noConfusion
  | true =>
    rw [if_pos rfl]
    cases hdns : storageMakeDnsFilename name with
    | none => exact HelperExit.noConfusion
    | some dnsName =>
      obtain rfl : dnsName = dnsNameOf name := formatted_eq_some hdns
      refine ⟨rfl, fun removed σ₁ h₁ => ?_⟩
      cases removed with
      | false => exact HelperExit.noConfusion
      | true =>
        refine ⟨rfl, fun removed σ₂ h₂ => ?_⟩
        cases removed with
        | false => exact HelperExit.noConfusion
        | true =>
          refine ⟨rfl, fun removed σ₃ h₃ => ?_⟩
          cases removed with
          | false => exact HelperExit.noConfusion
          | true =>
            obtain ⟨hw₁, htr₁⟩ := removed_of_logged h₁
            obtain ⟨hw₂, htr₂⟩ := removed_of_logged h₂
            obtain ⟨hw₃, htr₃⟩ := removed_of_logged h₃
            intro _
            refine ⟨fun file hfile => ?_, fun file hfile => ?_⟩
            · rw [htr₃, htr₂, htr₁]
              simp only [runtimeFilesOf, List.mem_cons, List.not_mem_nil, or_false] at hfile
              rcases hfile with rfl | rfl | rfl
              · exact ⟨σ₀.1, σ₁.1, by simp⟩
              · exact ⟨σ₁.1, σ₂.1, by simp⟩
              · exact ⟨σ₂.1, σ₃.1, by simp⟩
            · rw [hw₃, hw₂, hw₁]
              simp only [runtimeFilesOf, List.mem_cons, List.not_mem_nil, or_false] at hfile
              rcases hfile with rfl | rfl | rfl <;> simp [World.setFile]

/-- `verify_runtime_cleanup` succeeds only by its end. -/
theorem verifyRuntimeCleanup_removes (s : TunnelState) (deadline : ℤ) :
    Safe behaves.logged Sparing (verifyRuntimeCleanup name (configNameOf name) s deadline)
      (SuccessRemoves name) σ := by
  have hlink : ∀ (link : OwnedLinkState) (σ : Logged),
      SuccessRemoves name (linkFailure link) σ := by
    intro link σ h
    unfold linkFailure at h
    split at h <;> cases h
  unfold verifyRuntimeCleanup
  split
  · exact HelperExit.noConfusion
  refine (sparing_of_uses (spares_sessionOwnedLinkState name _)).bind fun r σ₁ _ => ?_
  obtain ⟨link, observation⟩ := r
  dsimp only
  split
  · exact hlink link σ₁
  refine (sparing_of_uses (spares_writeJournal name _)).bind fun written σ₂ _ => ?_
  cases written with
  | false => exact HelperExit.noConfusion
  | true =>
    refine (sparing_of_uses (spares_firewallProbe name _ deadline)).bind fun firewall σ₃ _ => ?_
    split
    · exact HelperExit.noConfusion
    refine (sparing_of_uses (spares_sessionOwnedLinkState name _)).bind fun r σ₄ _ => ?_
    obtain ⟨link, observation⟩ := r
    dsimp only
    split
    · exact hlink link σ₄
    refine (sparing_of_uses (spares_phaseStopStatus deadline)).bind fun stop σ₅ _ => ?_
    split
    · exact HelperExit.noConfusion
    · exact finalizeRuntimeEntries_removes _

theorem downAbort_removes {s : TunnelState} {dns : DnsConfig} {beganActive : Bool}
    {failure : HelperExit} {deadlines : Deadlines} (hfailure : failure ≠ .success) :
    Safe behaves.logged Sparing (downAbort name s dns beganActive failure deadlines)
      (SuccessRemoves name) σ := by
  refine (sparing_of_returns ?_ ?_).mono fun result _ h hsuccess => absurd hsuccess h
  · refine (spares_setCleanupMode true).bind fun _ => ?_
    refine (spares_abortBeforeInterfaceTeardown ..).bind fun _ => ?_
    exact (spares_setCleanupMode false).bind fun _ => trivial
  · refine (Prog.returns_any (ask (.setCleanupMode true))).bind fun _ _ => ?_
    refine (abortBeforeInterfaceTeardown_returns name s (some dns) beganActive deadlines.cleanupAt
      hfailure).bind fun r hr => ?_
    exact (Prog.returns_any (ask (.setCleanupMode false))).bind fun _ _ => hr

theorem downTeardown_removes {snapshotPath : Bytes} {s : TunnelState} {dns : DnsConfig}
    {beganActive : Bool} {deadlines : Deadlines} :
    Safe behaves.logged Sparing
      (downTeardown name (configNameOf name) snapshotPath s dns beganActive deadlines)
      (SuccessRemoves name) σ := by
  refine (sparing_of_uses (spares_teardownOwnedInterface ..)).bind fun r σ₁ _ => ?_
  obtain ⟨teardown, s₁⟩ := r
  dsimp only
  split
  · exact verifyRuntimeCleanup_removes s₁ deadlines.forwardAt
  split
  · exact downAbort_removes (downFailure_ne_success teardown)
  · exact fun h => absurd h (downFailure_ne_success teardown)

theorem downDisconnect_removes {snapshotPath : Bytes} {s : TunnelState} {dns : DnsConfig}
    {deadlines : Deadlines} :
    Safe behaves.logged Sparing
      (downDisconnect name (configNameOf name) snapshotPath s dns deadlines)
      (SuccessRemoves name) σ := by
  refine (sparing_of_uses (spares_includeCurrentFirewallScope name s _)).bind fun s₁ σ₁ _ => ?_
  refine (sparing_of_uses (spares_writeJournal name _)).bind fun written σ₂ _ => ?_
  cases written with
  | false => exact HelperExit.noConfusion
  | true =>
    rw [if_pos rfl]
    refine (sparing_of_uses (spares_revertDnsDurably name _ _)).bind fun r σ₃ _ => ?_
    obtain ⟨dnsResult, s₃⟩ := r
    dsimp only
    split
    · exact HelperExit.noConfusion
    cases dnsResult with
    | ok => exact downTeardown_removes
    | changeFailed =>
      refine (sparing_of_returns (spares_phaseFailureOr deadlines.forwardAt .dnsRevertFailed)
        (phaseFailureOr_returns _ HelperExit.noConfusion)).bind fun failure σ₄ hfailure => ?_
      exact downAbort_removes hfailure
    | uncertain | journalFailed => exact downAbort_removes HelperExit.noConfusion

/-! ## What is seen before a removal -/

/-- A run shows that there is neither a marker of the name nor an interface. -/
def ShowsClear (name : Name) (tr : List HelperEvent) : Prop :=
  ∃ (w : World) (link : ObservedLink name none), link.observation.namedExists = false ∧
    w.files .runtime name = none ∧
    [(⟨.readRuntimeMarker name, w, .missing, w⟩ : HelperEvent),
      ⟨.linkObserve name none, w, some link, w⟩] <:+: tr

/-- What `awg_helper_session_runtime_state` leaves in the log where it finds no marker. -/
structure SessionLogged (name : Name) (seen : Except HelperExit SessionState) (σ σ' : Logged) :
    Prop where
  world : σ'.1 = σ.1
  failure : ∀ failure, seen = .error failure → failure ≠ .success
  missing : ∀ interface, seen = .ok ⟨none, interface⟩ →
    ∃ link : ObservedLink name none, link.observation.namedExists = interface ∧
      σ.1.files .runtime name = none ∧
      σ'.2 = σ.2 ++ [(⟨.readRuntimeMarker name, σ.1, .missing, σ.1⟩ : HelperEvent),
        ⟨.linkObserve name none, σ.1, some link, σ.1⟩]

theorem safe_sessionRuntimeState_logged :
    Safe behaves.logged Sparing (sessionRuntimeState name) (SessionLogged name · σ ·) σ := by
  refine ⟨rfl, fun read σ₁ h₁ => ?_⟩
  obtain ⟨hw₁, hread⟩ := h₁.1
  cases read with
  | invalid =>
    exact ⟨hw₁, fun failure h => runtimeStateOf_error h, fun interface h => by cases h⟩
  | missing =>
    refine ⟨rfl, fun reply σ₂ h₂ => ?_⟩
    have hw₂ : σ₂.1 = σ₁.1 := h₂.1
    refine ⟨hw₂.trans hw₁, fun failure h => runtimeStateOf_error h, fun interface h => ?_⟩
    cases reply with
    | none => cases h
    | some link =>
      refine ⟨link, ?_, hread, ?_⟩
      · cases h
        rfl
      · rw [h₂.2, h₁.2, hw₂, hw₁]
        exact List.append_assoc σ.2 _ _
  | valid parsed =>
    refine ⟨rfl, fun reply σ₂ h₂ => ?_⟩
    have hw₂ : σ₂.1 = σ₁.1 := h₂.1
    refine ⟨hw₂.trans hw₁, fun failure h => runtimeStateOf_error h, fun interface h => ?_⟩
    dsimp only [runtimeStateOf] at h
    split at h <;> cases h

/-- `awg_helper_phase_stop_status` leaves the world as it is. -/
theorem safe_phaseStopStatus_world (deadline : ℤ) :
    Safe behaves.logged Sparing (phaseStopStatus deadline) (fun _ σ' => σ'.1 = σ.1) σ := by
  refine ⟨rfl, fun stopped σ₁ h₁ => ?_⟩
  cases stopped with
  | true => exact h₁.1
  | false => exact ⟨rfl, fun now σ₂ h₂ => Eq.trans (show σ₂.1 = σ₁.1 from h₂.1) h₁.1⟩

/-- What the gate of a disconnection goes on with: it lets a name pass with nothing to do only
where the name had no marker. -/
def GateSays (name : Name) (w : World) : Except HelperExit DownPlan → Prop
  | .error failure => failure ≠ .success
  | .ok .nothing => w.files .runtime name = none
  | .ok _ => True

theorem downDisconnectGate_says {configName : Name} {s : TunnelState} {w : World} :
    Safe behaves.logged Sparing (downDisconnectGate name configName s)
      (fun plan _ => GateSays name w plan) σ := by
  refine (sparing_of_uses (spares_checkRuntimeFiles name configName s.journal)).bind ?_
  intro dns σ₁ _
  cases dns with
  | none => exact HelperExit.noConfusion
  | some dns => trivial

theorem tunnelDownGate_says {blocked : Bool} {configName : Name} {deadlines : Deadlines} :
    Safe behaves.logged Sparing (tunnelDownGate blocked name configName deadlines)
      (fun plan _ => GateSays name σ.1 plan) σ := by
  refine (safe_phaseStopStatus_world deadlines.forwardAt).bind fun stop σ₁ hσ₁ => ?_
  split
  · assumption
  refine safe_sessionRuntimeState_logged.bind fun seen σ₂ hseen => ?_
  cases seen with
  | error failure => exact hseen.failure failure rfl
  | ok state =>
    obtain ⟨marker, interface⟩ := state
    cases marker with
    | none =>
      obtain ⟨link, -, hnone, -⟩ := hseen.missing interface rfl
      rw [hσ₁] at hnone
      cases interface with
      | false => exact hnone
      | true => exact HelperExit.noConfusion
    | some parsed =>
      dsimp only
      split
      · cases interface with
        | false => trivial
        | true => exact HelperExit.noConfusion
      split
      · cases interface with
        | false => trivial
        | true => exact HelperExit.noConfusion
      split
      · exact HelperExit.noConfusion
      split
      · refine (sparing_of_uses (spares_writeJournal name _)).bind fun _ _ _ => ?_
        exact HelperExit.noConfusion
      split
      · refine (sparing_of_uses (spares_sessionRefreshOwnedInterface name _)).bind ?_
        rintro ⟨result, interface', journal⟩ σ₃ -
        dsimp only
        split
        · assumption
        split
        · exact HelperExit.noConfusion
        · exact downDisconnectGate_says
      · exact downDisconnectGate_says

/-- A disconnection that succeeds for a name that had a marker has removed the runtime files. -/
theorem tunnelDown_removes {blocked : Bool} {snapshotPath : Bytes} {deadlines : Deadlines} :
    Safe behaves.logged Sparing
      (tunnelDown blocked name (configNameOf name) snapshotPath deadlines)
      (fun result σ' => result = .success → σ.1.files .runtime name ≠ none →
        RuntimeRemoved name σ'.2 σ'.1) σ := by
  have hremoves : ∀ {p : HelperM HelperExit} {σ₁ : Logged},
      Safe behaves.logged Sparing p (SuccessRemoves name) σ₁ →
      Safe behaves.logged Sparing p (fun result σ' => result = .success →
        σ.1.files .runtime name ≠ none → RuntimeRemoved name σ'.2 σ'.1) σ₁ :=
    fun h => h.mono fun _ _ hresult hsuccess _ => hresult hsuccess
  refine tunnelDownGate_says.bind fun plan σ₁ hplan => ?_
  cases plan with
  | error failure => exact fun hsuccess => absurd hsuccess hplan
  | ok plan =>
    cases plan with
    | nothing => exact fun _ hmarker => absurd hplan hmarker
    | finalize s => exact hremoves (finalizeRuntimeEntries_removes s)
    | verify s => exact hremoves (verifyRuntimeCleanup_removes s deadlines.forwardAt)
    | disconnect s dns => exact hremoves downDisconnect_removes

/-! ## The deletion of a profile -/

/-- A run of the disconnection that `awg_helper_remove` makes, with success as its result. -/
def Disconnects (name : Name) (deadlines : Deadlines) (w : World) (tr : List HelperEvent)
    (w' : World) : Prop :=
  Steps behaves (tunnelDown false name (configNameOf name) (runtimeConfigPathOf name) deadlines)
    w tr (.pure .success) w'

/-- The issue condition of a disconnection, without its log. -/
def Spares (o : HelperCall) (_ : World) : Prop := o.SparesProfiles

theorem spares_of_uses {α : Type} {p : HelperM α} {w : World}
    (hp : p.Uses HelperCall.SparesProfiles) : Safe behaves Spares p (fun _ _ => True) w :=
  Safe.of_uses hp trivial (fun _ _ ho _ => ho) fun _ _ _ _ _ _ _ => trivial

/-- A run of `awg_helper_phase_stop_status` that returned has left the world as it was. -/
theorem world_of_phaseStopStatus {deadline : ℤ} {stop : HelperExit} {w w' : World}
    {tr : List HelperEvent} (hs : Steps behaves (phaseStopStatus deadline) w tr (.pure stop) w') :
    w' = w :=
  (safe_phaseStopStatus_world deadline).logged hs

/-- A program that has returned issues nothing. -/
theorem not_steps_pure {α : Type} {a : α} {w w' : World} {pre post : List HelperEvent}
    {e : HelperEvent} {q : HelperM α}
    (hs : Steps behaves (.pure a) w (pre ++ e :: post) q w') : False := by
  simpa using hs.of_pure.1

/-- A program that changes no saved profile issues no operation that does. -/
theorem not_issued {α : Type} {p : HelperM α} (hp : p.Uses HelperCall.SparesProfiles)
    {w w' : World} {pre post : List HelperEvent} {e : HelperEvent} {q : HelperM α}
    (hs : Steps behaves p w (pre ++ e :: post) q w') (he : ¬e.op.SparesProfiles) : False :=
  he (hp.issued hs e (by simp))

/-- The world that a check of a file's security leaves. -/
theorem world_of_secureFileState {area : StorageArea} {name : Name} {mode : ℕ} {w w' : World}
    {tr : List HelperEvent} {state : EntryState}
    (hs : Steps behaves (ask (.secureFileState area name mode)) w tr (.pure state) w') :
    w' = w := by
  cases hs with
  | step hb hs =>
    rw [hs.of_pure.2.2]
    exact hb.2.2

/-- What `awg_helper_profiles_delete` has seen when it changes a saved profile. -/
theorem profilesDelete_shows {configName : Name} {deadline : ℤ} {w w' : World}
    {pre post : List HelperEvent} {e : HelperEvent} {q : HelperM HelperExit}
    (hs : Steps behaves (profilesDelete name configName deadline) w (pre ++ e :: post) q w')
    (he : ¬e.op.SparesProfiles) :
    e.op = .removeAndSync .config configName ∧ e.before = w ∧ ShowsClear name pre := by
  obtain ⟨state, w₁, tr₁, pre₁, rfl, hstate, -, h₁⟩ :=
    hs.passed (spares_of_uses ⟨rfl, fun _ => trivial⟩) he
  obtain rfl := world_of_secureFileState hstate
  split at h₁
  · exact (not_steps_pure h₁).elim
  obtain ⟨seen, w₂, tr₂, pre₂, rfl, hseen, -, h₂⟩ :=
    h₁.passed (spares_of_uses (spares_sessionRuntimeState name)) he
  have hsession := safe_sessionRuntimeState_logged.logged hseen
  obtain rfl : w₂ = w₁ := hsession.world
  cases seen with
  | error failure => exact (not_steps_pure h₂).elim
  | ok session =>
    obtain ⟨marker, interface⟩ := session
    cases marker with
    | some parsed => exact (not_steps_pure h₂).elim
    | none =>
      cases interface with
      | true => exact (not_steps_pure h₂).elim
      | false =>
        obtain ⟨link, hlink, hnone, hlog⟩ := hsession.missing false rfl
        obtain ⟨stop, w₃, tr₃, pre₃, rfl, hstop, -, h₃⟩ :=
          h₂.passed (spares_of_uses (spares_phaseStopStatus deadline)) he
        obtain rfl := world_of_phaseStopStatus hstop
        obtain rfl : tr₂ = [(⟨.readRuntimeMarker name, w₃, .missing, w₃⟩ : HelperEvent),
          ⟨.linkObserve name none, w₃, some link, w₃⟩] := hlog
        have hshows : ShowsClear name (tr₁ ++ (_ ++ (tr₃ ++ pre₃))) :=
          ⟨w₃, link, hlink, hnone, tr₁, tr₃ ++ pre₃, List.append_assoc ..⟩
        split at h₃
        · exact (not_steps_pure h₃).elim
        split at h₃
        · -- the removal is the only operation that is left and changes a profile
          cases pre₃ with
          | nil =>
            cases h₃
            exact ⟨rfl, rfl, hshows⟩
          | cons e' pre₃ =>
            cases h₃ with
            | @step _ _ _ _ _ removed _ _ _ h₄ =>
              cases removed with
              | true => exact (not_issued (spares_phaseStopStatus deadline) h₄ he).elim
              | false => exact (not_steps_pure h₄).elim
        · exact (not_issued (spares_phaseStopStatus deadline) h₃ he).elim

/-- A disconnection changes no saved profile. -/
theorem spares_tunnelDown {blocked : Bool} {snapshotPath : Bytes} {deadlines : Deadlines}
    {w : World} :
    Safe behaves Spares (tunnelDown blocked name (configNameOf name) snapshotPath deadlines)
      (fun _ _ => True) w :=
  (@tunnelDown_removes name (w, []) blocked snapshotPath deadlines).unmonitor
    (fun _ _ ho => ho) fun _ _ _ => trivial

/-- What `awg_helper_remove` has done and seen when it changes a saved profile. -/
theorem helperRemove_shows {deadlines : Deadlines} {w w' : World} {pre post : List HelperEvent}
    {e : HelperEvent} {q : HelperM HelperExit}
    (hs : Steps behaves (helperRemove name deadlines) w (pre ++ e :: post) q w')
    (he : ¬e.op.SparesProfiles) :
    e.op = .removeAndSync .config (configNameOf name) ∧
      ∃ first down rest, pre = first ++ down ++ rest ∧
        Disconnects name deadlines w down e.before ∧ ShowsClear name rest := by
  obtain ⟨stop, w₁, tr₁, pre₁, rfl, hstop, -, h₁⟩ :=
    hs.passed (spares_of_uses (spares_phaseStopStatus deadlines.forwardAt)) he
  obtain rfl := world_of_phaseStopStatus hstop
  split at h₁
  · exact (not_steps_pure h₁).elim
  split at h₁
  · exact (not_steps_pure h₁).elim
  split at h₁
  · exact (not_steps_pure h₁).elim
  · exact (not_steps_pure h₁).elim
  rename_i configName snapshotPath hconfig hsnapshot
  obtain rfl : configName = configNameOf name := formatted_eq_some hconfig
  obtain rfl : snapshotPath = runtimeConfigPathOf name := formatted_eq_some hsnapshot
  obtain ⟨state, w₂, tr₂, pre₂, rfl, hstate, -, h₂⟩ :=
    h₁.passed (spares_of_uses ⟨rfl, fun _ => trivial⟩) he
  obtain rfl := world_of_secureFileState hstate
  split at h₂
  · exact (not_steps_pure h₂).elim
  obtain ⟨result, w₃, tr₃, pre₃, rfl, hdowned, -, h₃⟩ := h₂.passed spares_tunnelDown he
  split at h₃
  · exact (not_steps_pure h₃).elim
  rename_i hresult
  obtain rfl : result = .success := not_not.mp hresult
  obtain ⟨stop', w₄, tr₄, pre₄, rfl, hstop', -, h₄⟩ :=
    h₃.passed (spares_of_uses (spares_phaseStopStatus deadlines.forwardAt)) he
  obtain rfl := world_of_phaseStopStatus hstop'
  split at h₄
  · exact (not_steps_pure h₄).elim
  obtain ⟨hop, hbefore, hshows⟩ := profilesDelete_shows h₄ he
  refine ⟨hop, tr₁ ++ tr₂, tr₃, tr₄ ++ pre₄, by simp, ?_, ?_⟩
  · rw [hbefore]
    exact hdowned
  · obtain ⟨w₅, link, hlink, hnone, hinfix⟩ := hshows
    exact ⟨w₅, link, hlink, hnone, hinfix.trans (List.suffix_append tr₄ pre₄).isInfix⟩

/-- Deletion implies a clean runtime. A saved profile is changed by a removal of its file alone,
behind a disconnection in the same command that succeeded and a look at the name that showed
neither a marker nor an interface; without such a disconnection all profiles stay in place. A
disconnection that succeeds for a name with a marker has removed the marker, the configuration
and the DNS payload. -/
theorem profileDeletion_clean {deadlines : Deadlines} {w w' : World} {tr : List HelperEvent}
    {q : HelperM HelperExit} (hs : Steps behaves (helperRemove name deadlines) w tr q w') :
    (∀ pre e post, tr = pre ++ e :: post → ¬e.op.SparesProfiles →
      e.op = .removeAndSync .config (configNameOf name) ∧
        ∃ first down rest, pre = first ++ down ++ rest ∧
          Disconnects name deadlines w down e.before ∧ ShowsClear name rest) ∧
    ((∀ first down rest w₁, tr = first ++ down ++ rest → ¬Disconnects name deadlines w down w₁) →
      w'.files .config = w.files .config) ∧
    ∀ blocked snapshotPath deadlines w₁ w₂ down,
      Steps behaves (tunnelDown blocked name (configNameOf name) snapshotPath deadlines) w₁ down
        (.pure .success) w₂ →
      w₁.files .runtime name ≠ none → RuntimeRemoved name down w₂ := by
  have hshows : ∀ pre e post, tr = pre ++ e :: post → ¬e.op.SparesProfiles →
      e.op = .removeAndSync .config (configNameOf name) ∧
        ∃ first down rest, pre = first ++ down ++ rest ∧
          Disconnects name deadlines w down e.before ∧ ShowsClear name rest := by
    rintro pre e post rfl he
    exact helperRemove_shows hs he
  refine ⟨hshows, fun hnever => ?_, fun blocked snapshotPath deadlines w₁ w₂ down hdown hmarker => ?_⟩
  · refine @Steps.kept _ _ _ _ _ (fun w => w.files .config) _ _ _ _ _ hs fun e he => ?_
    have hspares : e.op.SparesProfiles := by
      by_contra hchanges
      obtain ⟨pre, post, hsplit⟩ := List.append_of_mem he
      obtain ⟨-, first, down, rest, hpre, hdown, -⟩ := hshows pre e post hsplit hchanges
      exact hnever first down (rest ++ e :: post) e.before (by rw [hsplit, hpre]; simp) hdown
    exact files_of_behaves (hs.behaved e he) hspares
  · exact tunnelDown_removes.logged hdown rfl hmarker

/-- A machine with a saved profile whose last session has still its marker. -/
def savedWorld : World :=
  (emptyWorld.setFile .config (configNameOf (ascii "a")) (some [])).setFile .runtime (ascii "a")
    (runtimeMarkerSerialize { sampleJournal with state := .cleanupComplete })

/-- The removal of the profile. -/
def sampleRemoval : List HelperEvent × HelperM HelperExit × World :=
  (noLink wideScope).run 40 (helperRemove (ascii "a") farDeadlines) savedWorld

/-- The nineteenth operation removes the profile. -/
theorem length_sampleRemoval : 18 < sampleRemoval.1.length := by decide +kernel

theorem profileDeletion_clean_sample :
    ∃ down w, Disconnects (ascii "a") farDeadlines savedWorld down w ∧
      RuntimeRemoved (ascii "a") down w := by
  obtain ⟨hshows, -, hremoved⟩ := @profileDeletion_clean (ascii "a") farDeadlines _ _ _ _
    ((noLink wideScope).steps 40 (helperRemove (ascii "a") farDeadlines) savedWorld)
  obtain ⟨-, first, down, rest, -, hdown, -⟩ :=
    hshows _ _ _ (split_at sampleRemoval.1 length_sampleRemoval) (by
      show ¬HelperCall.changesArea _ _ = false
      decide +kernel)
  exact ⟨down, _, hdown, hremoved _ _ _ _ _ _ hdown (by decide +kernel)⟩

end NmSidebar
