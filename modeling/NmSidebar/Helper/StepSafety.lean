import NmSidebar.Helper.Discipline

/-!
# Safety of single steps

The rules for the operations the tunnel's transactions are made of: steps that touch no session,
writes of a marker, looks at a link, and the removals that end a session.
-/

namespace NmSidebar

open Text Effects

/-! ## Steps that touch no session -/

/-- Between two worlds the runtime directory and the commit are the same, and every ledger was
kept. -/
structure Steady (σ σ' : Tracked) : Prop where
  runtime : σ'.1.files .runtime = σ.1.files .runtime
  committed : σ'.1.committed = σ.1.committed
  keeps : ∀ n, (σ.2 n).Keeps (σ'.2 n)

/-- Nothing was seen of any session either. -/
structure Still (σ σ' : Tracked) : Prop extends Steady σ σ' where
  session : ∀ n, σ.1.files .runtime n ≠ none ∨ (σ'.2 n).up = true → (σ'.2 n).toSessionLedger =
    { (σ.2 n).toSessionLedger with finalizing := (σ'.2 n).finalizing }

theorem Steady.refl (σ : Tracked) : Steady σ σ := ⟨rfl, rfl, fun _ => .refl _⟩

theorem Steady.trans {σ σ' σ'' : Tracked} (h : Steady σ σ') (h' : Steady σ' σ'') : Steady σ σ'' :=
  ⟨h'.runtime.trans h.runtime, h'.committed.trans h.committed,
    fun n => (h.keeps n).trans (h'.keeps n)⟩

theorem Still.refl (σ : Tracked) : Still σ σ := ⟨.refl σ, fun _ _ => rfl⟩

theorem Still.trans {σ σ' σ'' : Tracked} (h : Still σ σ') (h' : Still σ' σ'') : Still σ σ'' where
  toSteady := h.toSteady.trans h'.toSteady
  session := by
    intro n hpresent
    have hpresent' : σ'.1.files .runtime n ≠ none ∨ (σ''.2 n).up = true := by
      rw [h.runtime]
      exact hpresent
    have hpresent : σ.1.files .runtime n ≠ none ∨ (σ'.2 n).up = true :=
      hpresent.imp id fun hup => ((h'.keeps n).session hup).1
    rw [h'.session n hpresent', h.session n hpresent]

theorem Still.evidence {σ σ' : Tracked} (h : Still σ σ') {n : Name} (hup : (σ'.2 n).up = true) :
    (σ'.2 n).evidence = (σ.2 n).evidence := by
  have hevidence := congrArg SessionLedger.evidence (h.session n (.inr hup))
  exact hevidence

theorem Steady.marker {σ σ' : Tracked} (h : Steady σ σ') (n : Name) :
    σ'.1.marker n = σ.1.marker n := marker_of_files h.runtime

/-- A passive operation records nothing and leaves the runtime directory and the commit. -/
theorem HelperCall.of_isPassive {o : HelperCall} (h : o.isPassive = true) :
    o.isRecorded = false ∧ o.changesArea .runtime = false ∧ o ≠ .compareExchangeCommitted := by
  cases o with
  | removeAndSync area name =>
    cases area with
    | runtime | runtimeConfigs => cases h
    | config | staging => exact ⟨rfl, rfl, by simp⟩
  | subprocessRun command path deadline =>
    cases command with
    | up | down => cases h
    | strip => exact ⟨rfl, rfl, by simp⟩
  | writeRuntimeMarker | atomicWrite | resolvconfApply | resolvconfRevert | resolvedChange
  | firewallCaptureScope | firewallProbe | compareExchangeCommitted => cases h
  | _ => exact ⟨rfl, rfl, by simp⟩

theorem steady_of_isPassive {o : HelperCall} {σ σ' : Tracked} {r : o.Reply}
    (h : tracked o σ r σ') (ho : o.isPassive = true) : Steady σ σ' where
  runtime := files_of_behaves h.1 (HelperCall.of_isPassive ho).2.1
  committed := committed_of_behaves h.1 (HelperCall.of_isPassive ho).2.2
  keeps := keeps_of_not_isRecorded h (HelperCall.of_isPassive ho).1

/-- Passive operations that see nothing of a session. -/
def HelperCall.isIdle : HelperCall → Bool
  | linkObserve .. | subprocessRun .. => false
  | o => o.isPassive

theorem HelperCall.isPassive_of_isIdle {o : HelperCall} (h : o.isIdle = true) :
    o.isPassive = true := by
  cases o with
  | linkObserve | subprocessRun => cases h
  | _ => exact h

theorem still_of_isIdle {o : HelperCall} {σ σ' : Tracked} {r : o.Reply}
    (h : tracked o σ r σ') (ho : o.isIdle = true) : Still σ σ' where
  toSteady := steady_of_isPassive h (HelperCall.isPassive_of_isIdle ho)
  session := by
    intro n hpresent
    have hafter : σ'.2 n = (σ.2 n).after n ⟨o, σ.1, r, σ'.1⟩ := congrFun h.2 n
    have hpresent' : σ'.1.files .runtime n ≠ none := by
      rcases hpresent with hpresent | hup
      · rw [(steady_of_isPassive h (HelperCall.isPassive_of_isIdle ho)).runtime]
        exact hpresent
      · rw [hafter] at hup
        exact present_of_up hup
    have hl := @after_of_present n (σ.2 n) ⟨o, σ.1, r, σ'.1⟩ hpresent'
    rw [hafter, hl]
    cases o with
    | linkObserve | firewallProbe | subprocessRun | writeRuntimeMarker | firewallCaptureScope =>
      cases ho
    | _ => rfl

variable {k : Name} {quiet : Bool} {σ : Tracked}

/-- A program of passive operations is safe anywhere and touches no session. -/
theorem safe_passive {α : Type} {p : HelperM α} (hp : p.Uses fun o : HelperCall => o.isPassive = true) :
    Safe tracked (Allowed k quiet) p (fun _ σ' => Steady σ σ') σ :=
  Safe.of_uses hp (.refl σ) (fun _ _ ho _ => allowed_of_isPassive ho)
    fun _ _ _ _ ho hσ h => hσ.trans (steady_of_isPassive h ho)

/-- A program of idle operations sees nothing either. -/
theorem safe_idle {α : Type} {p : HelperM α} (hp : p.Uses fun o : HelperCall => o.isIdle = true) :
    Safe tracked (Allowed k quiet) p (fun _ σ' => Still σ σ') σ :=
  Safe.of_uses hp (.refl σ)
    (fun _ _ ho _ => allowed_of_isPassive (HelperCall.isPassive_of_isIdle ho))
    fun _ _ _ _ ho hσ h => hσ.trans (still_of_isIdle h ho)

theorem uses_phaseStopStatus (deadline : ℤ) :
    (phaseStopStatus deadline).Uses fun o : HelperCall => o.isIdle = true := by
  refine Prog.Uses.bind (Prog.uses_request _ |>.mpr rfl) fun stopped => ?_
  cases stopped with
  | true => trivial
  | false => exact Prog.Uses.bind (Prog.uses_request _ |>.mpr rfl) fun _ => trivial

theorem safe_phaseStopStatus (deadline : ℤ) :
    Safe tracked (Allowed k quiet) (phaseStopStatus deadline) (fun _ σ' => Still σ σ') σ :=
  safe_idle (uses_phaseStopStatus deadline)

/-- A failure to fall back on is never turned into a success. -/
theorem safe_phaseFailureOr (deadline : ℤ) {fallback : HelperExit} (hf : fallback ≠ .success) :
    Safe tracked (Allowed k quiet) (phaseFailureOr deadline fallback)
      (fun result σ' => result ≠ .success ∧ Still σ σ') σ := by
  refine (safe_phaseStopStatus deadline).bind fun stop σ' hσ => ?_
  refine ⟨?_, hσ⟩
  split
  · exact hf
  · assumption

theorem safe_setCleanupMode (enabled : Bool) :
    Safe tracked (Allowed k quiet) (ask (.setCleanupMode enabled)) (fun _ σ' => Still σ σ') σ :=
  safe_idle (Prog.uses_request _ |>.mpr rfl)

/-- The entry into the cleanup mode is noted. -/
theorem safe_enterCleanupMode :
    Safe tracked (Allowed k quiet) (ask (.setCleanupMode true))
      (fun _ σ' => Still σ σ' ∧ (σ'.2 k).cleanupModeSet = true) σ := by
  refine safe_request.mpr ⟨trivial, fun _ σ' h => ⟨still_of_isIdle h rfl, ?_⟩⟩
  rw [show σ'.2 k = (σ.2 k).after k ⟨.setCleanupMode true, σ.1, _, σ'.1⟩ from congrFun h.2 k]
  rfl

theorem Faithful.steady {journal : RuntimeMarker} {σ' : Tracked}
    (h : Faithful quiet journal (σ.2 k)) (hσ : Steady σ σ') : Faithful quiet journal (σ'.2 k) :=
  h.keeps (hσ.keeps k)

/-! ## Writes of the journal -/

/-- What a write of the journal of `k` leaves. -/
structure JournalWritten (k : Name) (journal : RuntimeMarker) (written : Bool) (σ σ' : Tracked) :
    Prop where
  marker : written = true → σ'.1.marker k = some journal
  committed : σ'.1.committed = σ.1.committed
  carried : (σ'.2 k).mayCarry = (σ.2 k).mayCarry
  session : (σ'.2 k).up = true → (σ.2 k).up = true ∧ (σ'.2 k).captured = (σ.2 k).captured ∧
    (σ'.2 k).evidence = (σ.2 k).evidence
  settled : written = true → journal.state = .cleanupComplete → (σ'.2 k).finalizing = 1 ∧
    ((σ'.2 k).up = true → (σ'.2 k).completed = (σ.2 k).certificate)
  failed : written = false → (σ.2 k).cleanupModeSet = true →
    (σ'.2 k).rollbackWriteFailed = true

/-- A journal that is not complete needs no certificate. -/
theorem certified_of_ne {journal : RuntimeMarker} {l : Ledger}
    (h : journal.state ≠ .cleanupComplete) : Certified journal l :=
  fun _ hcomplete => absurd hcomplete h

/-- A write of a faithful and certified journal is allowed, and the journal stays faithful,
whatever reached the disk. -/
theorem safe_writeMarker (hk : nameIsValid k = true) {journal : RuntimeMarker}
    (hf : Faithful quiet journal (σ.2 k)) (hc : Certified journal (σ.2 k)) :
    Safe tracked (Allowed k quiet) (ask (.writeRuntimeMarker k journal))
      (fun written σ' => Faithful quiet journal (σ'.2 k) ∧
        JournalWritten k journal written σ σ') σ := by
  refine safe_request.mpr ⟨⟨rfl, hf, hc⟩, fun written σ' h => ?_⟩
  obtain ⟨hmarker, -, -, hcommitted⟩ :=
    outcome_writeRuntimeMarker h.1 (not_isTempName_of_nameIsValid hk)
  have hafter : σ'.2 k = (σ.2 k).after k ⟨.writeRuntimeMarker k journal, σ.1, written, σ'.1⟩ :=
    congrFun h.2 k
  have hfailed : written = false → (σ.2 k).cleanupModeSet = true →
      (σ'.2 k).rollbackWriteFailed = true := by
    rintro rfl hset
    rw [hafter]
    simp [Ledger.after, isFailedWrite, hset]
  by_cases hlanded : σ'.1.marker k = some journal
  · have hsession : (σ'.2 k).up = true → (σ.2 k).up = true ∧
        (σ'.2 k).token = journal.linkToken ∧
        (σ'.2 k).recorded = (σ.2 k).recorded ||| journal.firewallScope ∧
        (σ'.2 k).captured = (σ.2 k).captured ∧ (σ'.2 k).evidence = (σ.2 k).evidence ∧
        (σ'.2 k).completed =
          if journal.state = .cleanupComplete then (σ.2 k).certificate else none := by
      intro hup
      rw [hafter] at hup ⊢
      have hl := session_of_up hup
      rw [SessionLedger.observe, if_pos ⟨rfl, hlanded⟩] at hl
      have hfields := SessionLedger.mk.inj hl
      exact ⟨hfields.1.symm.trans hup, hfields.2.1, hfields.2.2.1, hfields.2.2.2.1,
        hfields.2.2.2.2.1, hfields.2.2.2.2.2.1⟩
    have hpresent : σ'.1.files .runtime k ≠ none := by
      intro hnone
      rw [World.marker, hnone] at hlanded
      cases hlanded
    refine ⟨⟨hf.valid, hf.inactive, ?_, ?_, ?_, ?_⟩, hmarker, hcommitted, by rw [hafter]; rfl, ?_,
      fun hwritten hcomplete => ⟨?_, fun hup => ?_⟩, hfailed⟩
    · rw [hafter]
      exact hf.carried
    · exact fun hup => (hsession hup).2.1
    · intro hup
      rw [(hsession hup).2.2.1]
      exact or_scopeWithin (hf.recorded (hsession hup).1) (scopeWithin_refl _)
    · intro hup
      rw [(hsession hup).2.2.2.1]
      exact hf.captured (hsession hup).1
    · intro hup
      obtain ⟨hup', -, -, hcaptured, hevidence, -⟩ := hsession hup
      exact ⟨hup', hcaptured, hevidence⟩
    · subst hwritten
      rw [hafter]
      have hfinalizing := congrArg SessionLedger.finalizing
        (@after_of_present k (σ.2 k) ⟨.writeRuntimeMarker k journal, σ.1, true, σ'.1⟩ hpresent)
      exact hfinalizing.trans (if_pos ⟨rfl, hcomplete⟩)
    · obtain ⟨-, -, -, -, -, hcompleted⟩ := hsession hup
      rw [hcompleted, if_pos hcomplete]
  · have hkeeps : (σ.2 k).Keeps (σ'.2 k) := hafter ▸ keeps_of_not_landed hlanded
    refine ⟨hf.keeps hkeeps, hmarker, hcommitted, by rw [hafter]; rfl, fun hup => ?_,
      fun hwritten => absurd (hmarker hwritten) hlanded, hfailed⟩
    obtain ⟨hup', -, -, hcaptured, -⟩ := hkeeps.session hup
    refine ⟨hup', hcaptured, ?_⟩
    rw [hafter] at hup ⊢
    have hl := session_of_up hup
    rw [SessionLedger.observe, if_neg fun h => hlanded h.2] at hl
    have hevidence := congrArg SessionLedger.evidence hl
    exact hevidence

/-- The write of a journal that is not complete. -/
theorem safe_writeJournal (hk : nameIsValid k = true) {s : TunnelState}
    (hf : Faithful quiet s.journal (σ.2 k)) (hstate : s.journal.state ≠ .cleanupComplete) :
    Safe tracked (Allowed k quiet) (writeJournal k s)
      (fun written σ' => Faithful quiet s.journal (σ'.2 k) ∧
        JournalWritten k s.journal written σ σ') σ :=
  safe_writeMarker hk hf (certified_of_ne hstate)

/-! ## Looks at a link -/

/-- What a look at the link of a session tells: where the link is absent, the evidence goes on;
where it is there, it has an index. -/
structure LinkSeen (k : Name) (state : OwnedLinkState) (observation : LinkObservation)
    (σ σ' : Tracked) : Prop where
  steady : Steady σ σ'
  absent : state = .absent → (σ'.2 k).up = true →
    (σ'.2 k).evidence = (σ.2 k).evidence.confirmed
  present : state = .present → observation.tokenIfindex ≠ 0

/-- A link is absent where no link has the token and none has the name. -/
theorem ownedLinkStateOf_absent {marker : RuntimeMarker} {observation : Option LinkObservation}
    (h : ownedLinkStateOf marker observation = .absent) : observedAbsent observation = true := by
  cases observation with
  | none => cases h
  | some current =>
    simp only [ownedLinkStateOf] at h
    split at h
    · cases h
    · split at h
      · split at h
        · cases h
        · simp_all [observedAbsent]
      · split at h <;> cases h

/-- A link that is present carries the token, so it has an index. -/
theorem ownedLinkStateOf_present {marker : RuntimeMarker} {name : Name} {token : Option Bytes}
    {reply : Option (ObservedLink name token)}
    (h : ownedLinkStateOf marker (observationOf reply) = .present) :
    ((observationOf reply).getD .zero).tokenIfindex ≠ 0 := by
  cases reply with
  | none => cases h
  | some link =>
    obtain ⟨snapshot, hobserved⟩ := link.observed
    refine tokenIfindex_ne_zero hobserved ?_
    intro hzero
    have hzero : link.observation.tokenMatches = 0 := hzero
    simp only [observationOf, Option.map_some, ownedLinkStateOf] at h
    rw [if_neg (by omega), if_pos hzero] at h
    split at h <;> cases h

/-- A look at the link with the session's token. -/
theorem linkSeen_of_observe {token : Bytes} {reply : Option (ObservedLink k (some token))}
    {marker : RuntimeMarker} {σ' : Tracked}
    (h : tracked (.linkObserve k (some token)) σ reply σ')
    (htoken : (σ.2 k).up = true → (σ.2 k).token = token) :
    LinkSeen k (ownedLinkStateOf marker (observationOf reply))
      ((observationOf reply).getD .zero) σ σ' where
  steady := steady_of_isPassive h rfl
  absent := by
    intro habsent hup
    have hafter : σ'.2 k = (σ.2 k).after k ⟨.linkObserve k (some token), σ.1, reply, σ'.1⟩ :=
      congrFun h.2 k
    have hup' := (((steady_of_isPassive h rfl).keeps k).session hup).1
    rw [hafter] at hup ⊢
    have hl := session_of_up hup
    rw [SessionLedger.observe, if_pos ⟨rfl, by rw [htoken hup']⟩] at hl
    refine (congrArg SessionLedger.evidence hl).trans ?_
    exact if_pos (ownedLinkStateOf_absent habsent)
  present := ownedLinkStateOf_present

theorem safe_sessionOwnedLinkState {journal : RuntimeMarker}
    (hf : Faithful quiet journal (σ.2 k)) :
    Safe tracked (Allowed k quiet) (sessionOwnedLinkState k journal)
      (fun link σ' => LinkSeen k link.1 link.2 σ σ') σ :=
  safe_bind.mpr (safe_request.mpr ⟨trivial, fun _ _ h => linkSeen_of_observe h hf.token⟩)

/-! ## Probes, captures and tool runs -/

/-- An operation that records nothing leaves every session as it was. -/
theorem steady_of_not_isRecorded {o : HelperCall} {σ σ' : Tracked} {r : o.Reply}
    (h : tracked o σ r σ') (hrecorded : o.isRecorded = false)
    (hruntime : o.changesArea .runtime = false) (hcommit : o ≠ .compareExchangeCommitted) :
    Steady σ σ' :=
  ⟨files_of_behaves h.1 hruntime, committed_of_behaves h.1 hcommit,
    keeps_of_not_isRecorded h hrecorded⟩

/-- A probe that finds nothing takes the evidence on. -/
theorem safe_firewallProbe {scope : UInt32} {deadline : ℤ} :
    Safe tracked (Allowed k quiet) (ask (.firewallProbe k scope deadline))
      (fun state σ' => Steady σ σ' ∧ (state = .absent → (σ'.2 k).up = true →
        (σ.2 k).evidence ≠ .nothing → (σ'.2 k).evidence = .probed scope)) σ := by
  refine safe_request.mpr ⟨rfl, fun state σ' h =>
    ⟨steady_of_not_isRecorded h rfl rfl (by simp), ?_⟩⟩
  intro habsent hup hevidence
  have hafter : σ'.2 k = (σ.2 k).after k ⟨.firewallProbe k scope deadline, σ.1, state, σ'.1⟩ :=
    congrFun h.2 k
  rw [hafter] at hup ⊢
  have hl := session_of_up hup
  rw [SessionLedger.observe, if_pos rfl] at hl
  refine (congrArg SessionLedger.evidence hl).trans ?_
  exact if_pos ⟨habsent, hevidence⟩

/-- The captured scope goes into the journal. -/
theorem safe_includeCurrentFirewallScope {s : TunnelState} {deadline : ℤ}
    (hf : Faithful quiet s.journal (σ.2 k)) :
    Safe tracked (Allowed k quiet) (includeCurrentFirewallScope k s deadline)
      (fun s' σ' => Faithful quiet s'.journal (σ'.2 k) ∧
        (∃ firewallScope, s' = { s with journal := { s.journal with firewallScope } }) ∧
        σ'.1.files .runtime = σ.1.files .runtime ∧ σ'.1.committed = σ.1.committed) σ := by
  refine safe_bind.mpr (safe_request.mpr ⟨rfl, fun captured σ' h => ?_⟩)
  have hafter : σ'.2 k = (σ.2 k).after k ⟨.firewallCaptureScope k deadline, σ.1, captured, σ'.1⟩ :=
    congrFun h.2 k
  have hwithin := scopeWithin_or_left s.journal.firewallScope captured.scope.bits
  have hsession : (σ'.2 k).up = true → (σ.2 k).up = true ∧ (σ'.2 k).token = (σ.2 k).token ∧
      (σ'.2 k).recorded = (σ.2 k).recorded ∧
      (σ'.2 k).captured = (σ.2 k).captured ||| captured.scope.bits := by
    intro hup
    rw [hafter] at hup ⊢
    have hl := session_of_up hup
    rw [SessionLedger.observe, if_pos rfl] at hl
    have hfields := SessionLedger.mk.inj hl
    exact ⟨hfields.1.symm.trans hup, hfields.2.1, hfields.2.2.1, hfields.2.2.2.1⟩
  refine ⟨⟨?_, hf.inactive, ?_, ?_, ?_, ?_⟩, ⟨_, rfl⟩, files_of_behaves h.1 rfl,
    committed_of_behaves h.1 (by simp)⟩
  · exact valid_setScope hf.valid (or_and_eq_zero hf.valid.1 captured.scope.within)
  · rw [hafter]
    exact hf.carried
  · intro hup
    rw [(hsession hup).2.1]
    exact hf.token (hsession hup).1
  · intro hup
    rw [(hsession hup).2.2.1]
    exact (hf.recorded (hsession hup).1).trans hwithin
  · intro hup
    rw [(hsession hup).2.2.2]
    exact or_scopeWithin ((hf.captured (hsession hup).1).trans hwithin) (scopeWithin_or_right _ _)

/-- A run of `awg-quick down` on the session leaves its marker and its scopes. -/
theorem safe_quickRun_down {deadline : ℤ} :
    Safe tracked (Allowed k quiet) (quickRun .down (runtimeConfigPathOf k) deadline)
      (fun _ σ' => Steady σ σ') σ := by
  refine (safe_phaseStopStatus deadline).bind fun stop σ₁ hσ₁ => ?_
  by_cases hstop : stop ≠ .success
  · rw [if_pos hstop]
    exact hσ₁.toSteady
  rw [if_neg hstop]
  refine safe_bind.mpr (safe_request.mpr ⟨trivial, fun opened σ₂ h₂ => ?_⟩)
  have hσ₂ := hσ₁.toSteady.trans (steady_of_isPassive h₂ rfl)
  cases opened with
  | false => exact hσ₂
  | true =>
    refine safe_bind.mpr (safe_request.mpr ⟨rfl, fun child σ₃ h₃ => ?_⟩)
    exact hσ₂.trans (steady_of_not_isRecorded h₃ rfl rfl (by simp))

end NmSidebar
