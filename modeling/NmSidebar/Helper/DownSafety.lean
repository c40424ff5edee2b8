import NmSidebar.Helper.CleanupSafety

/-!
# Safety of disconnection

What a look at a session tells of the disk and the ledger, and the disconnection of a session
from its gate to its end.
-/

namespace NmSidebar

open Text Effects

variable {k : Name} {quiet : Bool} {σ : Tracked}

/-! ## Looks at a session -/

/-- A session whose marker can be read is admitted with its link present or absent. -/
theorem runtimeStateOf_valid {parsed parsed' : ParsedMarker} {interface : Bool}
    {observation : Option LinkObservation}
    (h : runtimeStateOf (.valid parsed) observation = .ok ⟨some parsed', interface⟩) :
    parsed' = parsed ∧ ownedLinkStateOf parsed.marker observation =
      if interface then .present else .absent := by
  unfold runtimeStateOf at h
  dsimp only at h
  split at h <;> cases h <;> exact ⟨rfl, ‹_›⟩

/-- The failures of a look at a session. -/
theorem runtimeStateOf_failure {read : MarkerRead} {observation : Option LinkObservation}
    {failure : HelperExit} (h : runtimeStateOf read observation = .error failure) :
    failure = .runtimeFailed ∨ failure = .interfaceConflict := by
  unfold runtimeStateOf at h
  split at h
  · cases h
    exact .inl rfl
  · cases h
  · cases h
    exact .inl rfl
  · split at h
    · cases h
      exact .inl rfl
    · cases h
      exact .inr rfl
    · cases h
    · cases h

theorem runtimeStateOf_error {read : MarkerRead} {observation : Option LinkObservation}
    {failure : HelperExit} (h : runtimeStateOf read observation = .error failure) :
    failure ≠ .success := by
  rcases runtimeStateOf_failure h with rfl | rfl <;> exact HelperExit.noConfusion

theorem marker_of_runtimeStateOf_missing {observation : Option LinkObservation}
    {state : SessionState} (h : runtimeStateOf .missing observation = .ok state) :
    state.marker = none := by
  cases observation <;> cases h
  rfl

/-- What a look at the session of `k` tells. -/
structure SessionSeen (k : Name) (seen : Except HelperExit SessionState) (σ σ' : Tracked) :
    Prop where
  steady : Steady σ σ'
  failure : ∀ failure, seen = .error failure → failure ≠ .success
  missing : ∀ interface, seen = .ok ⟨none, interface⟩ →
    σ.1.files .runtime k = none ∧ (σ'.2 k).toSessionLedger = .empty
  present : ∀ parsed interface, seen = .ok ⟨some parsed, interface⟩ →
    σ.1.marker k = some parsed.marker ∧ nameIsValid k = true ∧
      (interface = false → (σ'.2 k).up = true →
        (σ'.2 k).evidence = (σ.2 k).evidence.confirmed)

/-- The reading of a marker is an idle operation. -/
theorem still_of_readRuntimeMarker {name : Name} {read : MarkerRead} {σ' : Tracked}
    (h : tracked (.readRuntimeMarker name) σ read σ') : Still σ σ' := still_of_isIdle h rfl

/-- The reading of a marker leaves the world as it is, and tells of it. -/
theorem world_of_readRuntimeMarker {name : Name} {read : MarkerRead} {σ' : Tracked}
    (h : tracked (.readRuntimeMarker name) σ read σ') :
    σ'.1 = σ.1 ∧ (read = .missing → σ.1.files .runtime name = none) ∧
      ∀ parsed, read = .valid parsed → σ.1.marker name = some parsed.marker := by
  obtain ⟨hw, hread⟩ := h.1
  refine ⟨hw, ?_, ?_⟩
  · rintro rfl
    exact hread
  · rintro parsed rfl
    exact hread

/-- The ledger knows the session of `k` by the token of its marker. -/
def TokenKnown (k : Name) (σ : Tracked) : Prop :=
  ∀ marker, σ.1.marker k = some marker → (σ.2 k).up = true → (σ.2 k).token = marker.linkToken

theorem Accounted.tokenKnown (hσ : Accounted k σ.1 (σ.2 k)) : TokenKnown k σ := by
  intro marker hmarker hup
  obtain ⟨marker', hmarker', htoken, -⟩ := hσ.session hup
  rw [hmarker] at hmarker'
  obtain rfl := Option.some.inj hmarker'
  exact htoken.symm

/-- `awg_helper_session_runtime_state` touches no session and tells of this one. -/
theorem safe_sessionRuntimeState (hσ : TokenKnown k σ) :
    Safe tracked (Allowed k quiet) (sessionRuntimeState k)
      (fun seen σ' => SessionSeen k seen σ σ') σ := by
  refine safe_bind.mpr (safe_request.mpr ⟨trivial, fun read σ₁ h₁ => ?_⟩)
  have hstill := still_of_readRuntimeMarker h₁
  obtain ⟨hworld, hmissing, hvalid⟩ := world_of_readRuntimeMarker h₁
  cases read with
  | invalid =>
    refine ⟨hstill.toSteady, ?_, ?_, ?_⟩
    · exact fun failure h => runtimeStateOf_error h
    · exact fun interface h => by cases h
    · exact fun parsed interface h => by cases h
  | missing =>
    refine safe_bind.mpr (safe_request.mpr ⟨trivial, fun reply σ₂ h₂ => ?_⟩)
    have hsteady := hstill.toSteady.trans (steady_of_isPassive h₂ rfl)
    have hnone := hmissing rfl
    refine ⟨hsteady, fun failure h => runtimeStateOf_error h, ?_, ?_⟩
    · intro interface _
      refine ⟨hnone, ?_⟩
      have hafter : σ₂.2 k = (σ₁.2 k).after k ⟨.linkObserve k none, σ₁.1, reply, σ₂.1⟩ :=
        congrFun h₂.2 k
      rw [hafter]
      apply after_of_missing
      rw [hsteady.runtime]
      exact hnone
    · intro parsed interface h
      cases marker_of_runtimeStateOf_missing h
  | valid parsed =>
    refine safe_bind.mpr (safe_request.mpr ⟨trivial, fun reply σ₂ h₂ => ?_⟩)
    have hmarker := hvalid parsed rfl
    have htoken : (σ₁.2 k).up = true → (σ₁.2 k).token = parsed.marker.linkToken := by
      intro hup
      obtain ⟨hup, heq, -⟩ := (hstill.keeps k).session hup
      rw [heq, hσ parsed.marker hmarker hup]
    have hseen := @linkSeen_of_observe k σ₁ _ reply parsed.marker σ₂ h₂ htoken
    refine ⟨hstill.toSteady.trans hseen.steady, fun failure h => runtimeStateOf_error h, ?_, ?_⟩
    · intro interface h
      dsimp only [runtimeStateOf] at h
      split at h <;> cases h
    · intro parsed' interface h
      obtain ⟨rfl, howned⟩ := runtimeStateOf_valid h
      refine ⟨hmarker, ?_, ?_⟩
      · cases reply with
        | none => cases interface <;> cases howned
        | some link =>
          obtain ⟨snapshot, hobserved⟩ := link.observed
          exact linkSnapshotObserve_valid hobserved
      · rintro rfl hup
        have hup₁ := ((hseen.steady.keeps k).session hup).1
        rw [hseen.absent howned hup, hstill.evidence hup₁]

/-- The marker on disk is a faithful journal of a session that nothing was begun with. -/
theorem Accounted.faithful {marker : RuntimeMarker} {l : Ledger} {w : World}
    (h : Accounted k w l) (hmarker : w.marker k = some marker) (hl : l.Unbegun) :
    Faithful false marker l where
  valid := by
    obtain ⟨contents, -, hparse⟩ := Option.bind_eq_some_iff.mp hmarker
    exact fieldsAreValid_of_parse hparse
  inactive := fun h => Bool.noConfusion h
  carried := by
    intro token ht
    obtain ⟨marker', hmarker', htoken, hdns⟩ := h.carried token ht
    rw [hmarker] at hmarker'
    obtain rfl := Option.some.inj hmarker'
    exact ⟨htoken.symm, hdns⟩
  token := by
    intro hup
    obtain ⟨marker', hmarker', htoken, -⟩ := h.session hup
    rw [hmarker] at hmarker'
    obtain rfl := Option.some.inj hmarker'
    exact htoken.symm
  recorded := by
    intro hup
    obtain ⟨marker', hmarker', -, hscope, -⟩ := h.session hup
    rw [hmarker] at hmarker'
    obtain rfl := Option.some.inj hmarker'
    rw [hscope]
    exact scopeWithin_refl _
  captured := by
    intro hup
    rw [(hl hup).1]
    exact scopeWithin_zero _

/-- Where the marker on disk is complete, the end of the session was verified, and a look that
finds its link absent again is all that is missing. -/
theorem Accounted.endVerified {marker : RuntimeMarker} {l l' : Ledger} {w : World}
    (h : Accounted k w l) (hmarker : w.marker k = some marker)
    (hcomplete : marker.state = .cleanupComplete) (hl : l.Unbegun) (hkeeps : l.Keeps l')
    (hevidence : l'.up = true → l'.evidence = l.evidence.confirmed) : EndVerified marker l' := by
  intro hup'
  obtain ⟨hup, -, -, -, hcompleted⟩ := hkeeps.session hup'
  obtain ⟨marker', hmarker', -, hscope, hverified⟩ := h.session hup
  rw [hmarker] at hmarker'
  obtain rfl := Option.some.inj hmarker'
  obtain ⟨scope, hsome, hwithin⟩ := hverified hcomplete
  have habsent : l'.evidence = .linkAbsent := by
    rw [hevidence hup']
    rcases (hl hup).2 with heq | heq <;> rw [heq] <;> rfl
  refine ⟨by rw [habsent]; simp, scope, ?_, ?_⟩
  · rw [SessionLedger.certificate, habsent, ← hsome]
    exact hcompleted
  · rw [hscope]
    exact hwithin

/-! ## The gate -/

/-- What the gate of `awg_helper_tunnel_down` leaves the rest of it with. -/
def PlanReady (k : Name) (σ : Tracked) : DownPlan → Prop
  | .nothing => True
  | .finalize s => nameIsValid k = true ∧ Faithful false s.journal (σ.2 k) ∧
      EndVerified s.journal (σ.2 k)
  | .verify s | .disconnect s _ => nameIsValid k = true ∧ Faithful false s.journal (σ.2 k)

theorem uses_loadRuntimeDns (name : Name) :
    (loadRuntimeDns name).Uses fun o : HelperCall => o.isPassive = true := by
  unfold loadRuntimeDns
  cases storageMakeDnsFilename name with
  | none => trivial
  | some dnsName =>
    refine Prog.Uses.bind (Prog.uses_request _ |>.mpr rfl) fun contents => ?_
    cases contents <;> trivial

theorem uses_checkRuntimeFiles (name configName : Name) (journal : RuntimeMarker) :
    (checkRuntimeFiles name configName journal).Uses
      fun o : HelperCall => o.isPassive = true := by
  refine (uses_loadRuntimeDns name).bind fun dns => ?_
  cases dns with
  | none => trivial
  | some dns =>
    refine Prog.Uses.bind (Prog.uses_request _ |>.mpr rfl) fun state => ?_
    split <;> trivial

theorem safe_downDisconnectGate (hk : nameIsValid k = true) {configName : Name}
    {s : TunnelState} (hf : Faithful false s.journal (σ.2 k)) :
    Safe tracked (Allowed k false) (downDisconnectGate k configName s)
      (fun plan σ' => ∀ p, plan = .ok p → PlanReady k σ' p) σ := by
  refine (safe_passive (uses_checkRuntimeFiles k configName s.journal)).bind fun dns σ₁ hσ₁ => ?_
  cases dns with
  | none => exact fun p h => by cases h
  | some dns =>
    rintro p h
    cases h
    exact ⟨hk, hf.steady hσ₁⟩

/-- The gate of `awg_helper_tunnel_down` reads a faithful journal. -/
theorem safe_tunnelDownGate {blocked : Bool} {configName : Name} {deadlines : Deadlines}
    (hσ : Accounted k σ.1 (σ.2 k)) (hl : (σ.2 k).Unbegun) :
    Safe tracked (Allowed k false) (tunnelDownGate blocked k configName deadlines)
      (fun plan σ' => ∀ p, plan = .ok p → PlanReady k σ' p) σ := by
  have hnone : ∀ {failure : HelperExit} {σ' : Tracked}, ∀ p,
      (Except.error failure : Except HelperExit DownPlan) = .ok p → PlanReady k σ' p := by
    intro failure σ' p h
    cases h
  unfold tunnelDownGate
  refine (safe_phaseStopStatus _).bind fun stop σ₁ hσ₁ => ?_
  split
  · exact hnone
  have hσ₁' := hσ.keeps (hσ₁.keeps k) (hσ₁.marker k)
  have hl₁ : (σ₁.2 k).Unbegun := by
    intro hup
    obtain ⟨hup', -, -, hcaptured, -⟩ := (hσ₁.keeps k).session hup
    rw [hcaptured, hσ₁.evidence hup]
    exact hl hup'
  refine (safe_sessionRuntimeState hσ₁'.tokenKnown).bind fun seen σ₂ hseen => ?_
  rcases seen with failure | ⟨_ | ⟨journal, hparsed⟩, interface⟩
  · exact hnone
  · dsimp only
    split
    · exact hnone
    · rintro p h
      cases h
      trivial
  obtain ⟨hmarker, hk, hevidence⟩ := hseen.present ⟨journal, hparsed⟩ interface rfl
  have hf : Faithful false journal (σ₂.2 k) :=
    (hσ₁'.faithful hmarker hl₁).steady hseen.steady
  dsimp only
  by_cases hcomplete : journal.state = .cleanupComplete
  · rw [if_pos hcomplete]
    cases interface with
    | true => exact hnone
    | false =>
      rintro p h
      cases h
      exact ⟨hk, hf, hσ₁'.endVerified hmarker hcomplete hl₁ (hseen.steady.keeps k)
        (hevidence rfl)⟩
  rw [if_neg hcomplete]
  by_cases hpending : journal.state = .firewallPending
  · rw [if_pos hpending]
    cases interface with
    | true => exact hnone
    | false =>
      rintro p h
      cases h
      exact ⟨hk, hf⟩
  rw [if_neg hpending]
  split
  · exact hnone
  split
  · let s : TunnelState := ⟨journal, blocked⟩
    have hf : Faithful false s.journal (σ₂.2 k) := hf
    have hf' : Faithful false (s.setState .cleanupUnconfirmed).journal (σ₂.2 k) :=
      hf.setCleanup (.inr rfl)
    exact (safe_writeJournal hk hf' (by simp [TunnelState.setState])).bind fun _ _ _ => hnone
  split
  · refine (safe_sessionRefreshOwnedInterface hk hf hcomplete).bind ?_
    rintro ⟨result, interface, journal'⟩ σ₃ ⟨hf₃, -⟩
    dsimp only
    split
    · exact hnone
    · split
      · exact hnone
      · exact safe_downDisconnectGate hk hf₃
  · exact safe_downDisconnectGate hk hf

/-! ## Past the gate -/

theorem downFailure_ne_success (teardown : InterfaceTeardown) :
    downFailure teardown ≠ .success := by
  unfold downFailure
  split
  · simp
  · split
    · simp
    · split
      · simp
      · split
        · assumption
        · simp

/-- The session was active when the disconnection began. -/
def BeganActive (beganActive : Bool) (journal : RuntimeMarker) : Prop :=
  beganActive = true → journal.wasActive = true ∧ journal.ifindex ≠ 0

theorem BeganActive.continues {beganActive : Bool} {journal journal' : RuntimeMarker}
    (h : BeganActive beganActive journal) (hc : Continues journal journal') :
    BeganActive beganActive journal' := by
  intro hbegan
  rw [hc.wasActive]
  exact (h hbegan).imp id hc.ifindex

theorem safe_downAbort (hk : nameIsValid k = true) {s : TunnelState} {dns : DnsConfig}
    {beganActive : Bool} {failure : HelperExit} {deadlines : Deadlines}
    (hf : Faithful false s.journal (σ.2 k)) (hactive : BeganActive beganActive s.journal)
    (hfailure : failure ≠ .success) :
    Safe tracked (Allowed k false) (downAbort k s dns beganActive failure deadlines)
      (fun result _ => result ≠ .success) σ := by
  refine (safe_setCleanupMode true).bind fun _ σ₁ hσ₁ => ?_
  refine (safe_abortBeforeInterfaceTeardown hk (hf.steady hσ₁.toSteady)
    (fun hbegan => ⟨rfl, hactive hbegan⟩) hfailure).bind fun r σ₂ hr => ?_
  exact (safe_setCleanupMode false).bind fun _ _ _ => hr

theorem safe_downTeardown (hk : nameIsValid k = true) {s : TunnelState} {dns : DnsConfig}
    {beganActive : Bool} {deadlines : Deadlines} (hf : Faithful false s.journal (σ.2 k))
    (hopen : s.journal.state.isOpen = true) (hactive : BeganActive beganActive s.journal) :
    Safe tracked (Allowed k false)
      (downTeardown k (configNameOf k) (runtimeConfigPathOf k) s dns beganActive deadlines)
      (fun _ _ => True) σ := by
  refine (safe_teardownOwnedInterface hk hf hopen).bind ?_
  rintro ⟨teardown, s₁⟩ σ₁ ⟨hf₁, hc₁⟩
  dsimp only
  split
  · exact safe_verifyRuntimeCleanup hk hf₁
  · split
    · exact (safe_downAbort hk hf₁ (hactive.continues hc₁)
        (downFailure_ne_success teardown)).mono fun _ _ _ => trivial
    · trivial

theorem safe_downDisconnect (hk : nameIsValid k = true) {s : TunnelState} {dns : DnsConfig}
    {deadlines : Deadlines} (hf : Faithful false s.journal (σ.2 k)) :
    Safe tracked (Allowed k false)
      (downDisconnect k (configNameOf k) (runtimeConfigPathOf k) s dns deadlines)
      (fun _ _ => True) σ := by
  have hactive : BeganActive (decide (s.journal.state = .active)) s.journal := by
    intro hbegan
    obtain ⟨hifindex, hwasActive, -⟩ := fields_of_active hf.valid (of_decide_eq_true hbegan)
    exact ⟨hwasActive, hifindex⟩
  refine (safe_includeCurrentFirewallScope hf).bind ?_
  rintro _ σ₁ ⟨hf₁, ⟨firewallScope, rfl⟩, -⟩
  let s₁ : TunnelState := { s with journal := { s.journal with firewallScope } }
  have hf₁ : Faithful false s₁.journal (σ₁.2 k) := hf₁
  have hf₂ : Faithful false (s₁.setState .cleanupRequired).journal (σ₁.2 k) :=
    hf₁.setCleanup (.inl rfl)
  have hactive₂ : BeganActive (decide (s.journal.state = .active))
      (s₁.setState .cleanupRequired).journal := hactive
  refine (safe_writeJournal hk hf₂ (by simp [TunnelState.setState])).bind ?_
  rintro written σ₂ ⟨hf₃, -⟩
  cases written with
  | false => trivial
  | true =>
    rw [if_pos rfl]
    refine (safe_revertDnsDurably hk hf₃ rfl).bind ?_
    rintro ⟨dnsResult, s₃⟩ σ₃ ⟨hf₄, hc₄, -⟩
    have hactive₄ := hactive₂.continues hc₄
    dsimp only
    split
    · trivial
    cases dnsResult with
    | ok => exact safe_downTeardown hk hf₄ hc₄.isOpen hactive₄
    | changeFailed =>
      refine (safe_phaseFailureOr _ HelperExit.noConfusion).bind ?_
      rintro failure σ₄ ⟨hfailure, hσ₄⟩
      exact (safe_downAbort hk (hf₄.steady hσ₄.toSteady) hactive₄ hfailure).mono
        fun _ _ _ => trivial
    | uncertain | journalFailed =>
      exact (safe_downAbort hk hf₄ hactive₄ HelperExit.noConfusion).mono fun _ _ _ => trivial

/-- `awg_helper_tunnel_down` of a session that nothing was begun with. -/
theorem safe_tunnelDown {blocked : Bool} {deadlines : Deadlines}
    (hσ : Accounted k σ.1 (σ.2 k)) (hl : (σ.2 k).Unbegun) :
    Safe tracked (Allowed k false)
      (tunnelDown blocked k (configNameOf k) (runtimeConfigPathOf k) deadlines)
      (fun _ _ => True) σ := by
  refine (safe_tunnelDownGate hσ hl).bind fun plan σ₁ hplan => ?_
  cases plan with
  | error failure => trivial
  | ok plan =>
    have hready := hplan plan rfl
    cases plan with
    | nothing => trivial
    | finalize s => exact safe_finalizeRuntimeEntries hready.1 hready.2.1 hready.2.2
    | verify s => exact safe_verifyRuntimeCleanup hready.1 hready.2
    | disconnect s dns => exact safe_downDisconnect hready.1 hready.2

end NmSidebar
