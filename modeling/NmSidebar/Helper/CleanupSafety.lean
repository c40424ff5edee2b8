import NmSidebar.Helper.DnsSafety

/-!
# Safety of the end of a session

The teardown of a link, the verification that nothing of a session is left, the removal of its
entries, and the rollback of an activation.
-/

namespace NmSidebar

open Text Effects

variable {k : Name} {quiet : Bool} {σ : Tracked}

/-! ## The owned interface -/

/-- The journal with, where it had none, an index. -/
structure Refreshed (journal journal' : RuntimeMarker) : Prop where
  same : journal' = { journal with ifindex := journal'.ifindex }
  ifindex : journal.ifindex ≠ 0 → journal'.ifindex ≠ 0

theorem Refreshed.refl (journal : RuntimeMarker) : Refreshed journal journal := ⟨rfl, id⟩

theorem Refreshed.continues {journal journal' : RuntimeMarker} (h : Refreshed journal journal')
    (hopen : journal.state.isOpen = true) : Continues journal journal' := by
  refine ⟨?_, ?_, ?_, ?_, h.ifindex, ?_⟩ <;> rw [h.same]
  exact hopen

/-- A refresh keeps the journal faithful, and an interface that is found has an index. -/
theorem safe_sessionRefreshOwnedInterface (hk : nameIsValid k = true) {journal : RuntimeMarker}
    (hf : Faithful quiet journal (σ.2 k)) (hstate : journal.state ≠ .cleanupComplete) :
    Safe tracked (Allowed k quiet) (sessionRefreshOwnedInterface k journal)
      (fun r σ' => Faithful quiet r.2.2 (σ'.2 k) ∧ Refreshed journal r.2.2 ∧
        (r.2.1 = true → r.2.2.ifindex ≠ 0)) σ := by
  refine (safe_sessionOwnedLinkState hf).bind ?_
  rintro ⟨state, observation⟩ σ₁ hseen
  have hf₁ := hf.steady hseen.steady
  cases state with
  | unknown | conflict | absent => exact ⟨hf₁, .refl journal, fun h => Bool.noConfusion h⟩
  | present =>
    dsimp only
    by_cases hzero : journal.ifindex = 0
    · rw [if_pos hzero]
      have hne := hseen.present rfl
      have hf₂ : Faithful quiet { journal with ifindex := observation.tokenIfindex } (σ₁.2 k) :=
        hf₁.change (valid_setIfindex hf₁.valid hne) hf₁.inactive rfl (scopeWithin_refl _)
          fun token ht => (hf₁.carried token ht).2
      have hrefreshed : Refreshed journal { journal with ifindex := observation.tokenIfindex } :=
        ⟨rfl, fun _ => hne⟩
      refine (safe_writeMarker hk hf₂ (certified_of_ne hstate)).bind ?_
      rintro written σ₂ ⟨hf₃, -⟩
      cases written with
      | false | true => exact ⟨hf₃, hrefreshed, fun _ => hne⟩
    · rw [if_neg hzero]
      exact ⟨hf₁, .refl journal, fun _ => hzero⟩

/-- A teardown keeps the journal faithful and the session open. -/
theorem safe_teardownOwnedInterface (hk : nameIsValid k = true) {s : TunnelState} {deadline : ℤ}
    (hf : Faithful quiet s.journal (σ.2 k)) (hopen : s.journal.state.isOpen = true) :
    Safe tracked (Allowed k quiet)
      (teardownOwnedInterface k (runtimeConfigPathOf k) s .cleanupRequired deadline)
      (fun r σ' => Faithful quiet r.2.journal (σ'.2 k) ∧ Continues s.journal r.2.journal) σ := by
  refine (safe_sessionRefreshOwnedInterface hk hf (ne_of_isOpen hopen).2).bind ?_
  rintro ⟨identityResult, interfaceExists, journal⟩ σ₁ ⟨hf₁, hrefreshed, -⟩
  have hc₁ := hrefreshed.continues hopen
  dsimp only
  by_cases hconflict : identityResult = .interfaceConflict
  · rw [if_pos hconflict]
    exact ⟨hf₁, hc₁⟩
  rw [if_neg hconflict]
  by_cases hfailed : identityResult ≠ .success
  · rw [if_pos hfailed]
    exact ⟨hf₁, hc₁⟩
  rw [if_neg hfailed]
  have hset : ∀ {s' : TunnelState} {state : JournalState}, Continues s.journal s'.journal →
      state = .cleanupRequired ∨ state = .cleanupUnconfirmed →
      Continues s.journal (s'.setState state).journal := by
    rintro s' state hc hstate
    refine ⟨hc.token, hc.backend, hc.scope, hc.wasActive, hc.ifindex, ?_⟩
    rcases hstate with rfl | rfl <;> rfl
  -- the cleanup is unconfirmed until the link is seen to be gone
  let refreshed : TunnelState := ⟨journal, s.dnsRecoveryBlocked⟩
  have hf₁ : Faithful quiet refreshed.journal (σ₁.2 k) := hf₁
  have hf₂ : Faithful quiet (refreshed.setState .cleanupUnconfirmed).journal (σ₁.2 k) :=
    hf₁.setCleanup (.inr rfl)
  have hc₂ : Continues s.journal (refreshed.setState .cleanupUnconfirmed).journal :=
    hset hc₁ (.inr rfl)
  refine (safe_writeJournal hk hf₂ (by simp [TunnelState.setState])).bind ?_
  rintro written σ₂ ⟨hf₃, -⟩
  cases written with
  | false => exact ⟨hf₃, hc₂⟩
  | true =>
    by_cases hmissing : interfaceExists = false
    · rw [if_pos rfl, if_pos hmissing]
      exact ⟨hf₃, hc₂⟩
    rw [if_pos rfl, if_neg hmissing]
    refine safe_quickRun_down.bind fun quick σ₃ hσ₃ => ?_
    have hf₄ := hf₃.steady hσ₃
    refine (safe_sessionOwnedLinkState hf₄).bind ?_
    rintro ⟨link, observation⟩ σ₄ hseen
    have hf₅ := hf₄.steady hseen.steady
    dsimp only
    by_cases hgone : link = .absent ∧ quick.status = .success
    · rw [if_pos hgone]
      let cleared := (refreshed.setState .cleanupUnconfirmed).setState .cleanupRequired
      have hf₆ : Faithful quiet cleared.journal (σ₄.2 k) := hf₅.setCleanup (.inl rfl)
      refine (safe_writeJournal hk hf₆ (by simp [cleared, TunnelState.setState])).bind ?_
      rintro written σ₅ ⟨hf₇, -⟩
      cases written with
      | false | true => exact ⟨hf₇, hset hc₂ (.inl rfl)⟩
    · rw [if_neg hgone]
      exact ⟨hf₅, hc₂⟩

/-! ## The removal of a session's entries -/

/-- After `done` steps of `finalize_runtime_entries`: the complete marker is on disk, nothing of
the session is in the resolver, and its end was verified. -/
structure Finalizing (k : Name) (journal : RuntimeMarker) (done : ℕ) (σ : Tracked) : Prop where
  marker : σ.1.marker k = some journal
  notCarried : ∀ token, (σ.2 k).mayCarry token = false
  finalizing : (σ.2 k).finalizing = done
  verified : (σ.2 k).up = true → (σ.2 k).evidence ≠ .nothing ∧
    ∃ scope, (σ.2 k).completed = some scope ∧ scopeWithin (σ.2 k).recorded scope ∧
      scopeWithin (σ.2 k).captured scope

/-- The removal of the configuration and that of the DNS payload are the next two steps. -/
theorem safe_removeRuntimeConfig {journal : RuntimeMarker} {file : Name} {done : ℕ}
    (hfile : file = configNameOf k ∧ done = 1 ∨ file = dnsNameOf k ∧ done = 2)
    (h : Finalizing k journal done σ) :
    Safe tracked (Allowed k quiet) (ask (.removeAndSync .runtimeConfigs file))
      (fun removed σ' => removed = true → Finalizing k journal (done + 1) σ') σ := by
  refine safe_request.mpr ⟨hfile.imp And.left And.left, fun removed σ' hstep hremoved => ?_⟩
  have hkeeps := keeps_of_not_isRecorded hstep rfl k
  have hmarker : σ'.1.marker k = some journal :=
    (marker_of_files (files_of_behaves hstep.1 rfl)).trans h.marker
  have hafter : σ'.2 k =
      (σ.2 k).after k ⟨.removeAndSync .runtimeConfigs file, σ.1, removed, σ'.1⟩ :=
    congrFun hstep.2 k
  have hpresent : σ'.1.files .runtime k ≠ none := by
    intro hnone
    rw [World.marker, hnone] at hmarker
    cases hmarker
  subst hremoved
  have hl := @after_of_present k (σ.2 k)
    ⟨.removeAndSync .runtimeConfigs file, σ.1, true, σ'.1⟩ hpresent
  refine ⟨hmarker, fun token => ?_, ?_, fun hup => ?_⟩
  · rw [hafter]
    exact h.notCarried token
  · rw [hafter]
    refine (congrArg SessionLedger.finalizing hl).trans ?_
    rcases hfile with ⟨rfl, rfl⟩ | ⟨rfl, rfl⟩
    · exact if_pos ⟨rfl, h.finalizing⟩
    · refine (if_neg fun heq => configNameOf_ne_dnsNameOf k k heq.1.symm).trans ?_
      exact if_pos ⟨rfl, h.finalizing⟩
  · obtain ⟨hup, -, hrecorded, hcaptured, hcompleted⟩ := hkeeps.session hup
    rw [hrecorded, hcaptured, hcompleted, hafter]
    refine ⟨?_, (h.verified hup).2⟩
    have hevidence := congrArg SessionLedger.evidence hl
    rw [show ((σ.2 k).after k _).evidence = _ from hevidence]
    exact (h.verified hup).1

/-- What has to be known of a session before its entries are removed. -/
def EndVerified (journal : RuntimeMarker) (l : Ledger) : Prop :=
  l.up = true → l.evidence ≠ .nothing ∧
    ∃ scope, l.certificate = some scope ∧ scopeWithin journal.firewallScope scope

/-- `finalize_runtime_entries` removes the marker of a session only where its end was
verified. -/
theorem safe_finalizeRuntimeEntries (hk : nameIsValid k = true) {s : TunnelState}
    (hf : Faithful quiet s.journal (σ.2 k)) (hend : EndVerified s.journal (σ.2 k)) :
    Safe tracked (Allowed k quiet) (finalizeRuntimeEntries k (configNameOf k) s)
      (fun _ _ => True) σ := by
  unfold finalizeRuntimeEntries
  split
  · trivial
  rename_i hguard
  obtain ⟨-, hguard⟩ := not_or.mp hguard
  obtain ⟨hcomplete, hguard⟩ := not_or.mp hguard
  obtain ⟨hdns, hactive⟩ := not_or.mp hguard
  have hcomplete := not_not.mp hcomplete
  have hdns := not_not.mp hdns
  have hactive := Bool.eq_false_iff.mpr hactive
  refine (safe_writeMarker hk hf fun hup _ => (hend hup).2).bind ?_
  rintro written σ₁ ⟨hf₁, hw₁⟩
  cases written with
  | false => trivial
  | true =>
    obtain ⟨hfinalizing, hcompleted⟩ := hw₁.settled rfl hcomplete
    have hstep₁ : Finalizing k s.journal 1 σ₁ := by
      refine ⟨hw₁.marker rfl, hf₁.not_carried hdns, hfinalizing, fun hup => ?_⟩
      obtain ⟨hup', -, hevidence⟩ := hw₁.session hup
      obtain ⟨hne, scope, hscope, hwithin⟩ := hend hup'
      rw [hevidence, hcompleted hup]
      exact ⟨hne, scope, hscope, (hf₁.recorded hup).trans hwithin,
        (hf₁.captured hup).trans hwithin⟩
    rw [if_pos rfl, storageMakeDnsFilename_of_valid hk]
    refine (safe_removeRuntimeConfig (.inl ⟨rfl, rfl⟩) hstep₁).bind fun removed σ₂ hstep₂ => ?_
    cases removed with
    | false => trivial
    | true =>
      refine (safe_removeRuntimeConfig (.inr ⟨rfl, rfl⟩) (hstep₂ rfl)).bind
        fun removed σ₃ hstep₃ => ?_
      cases removed with
      | false => trivial
      | true =>
        have hstep₃ := hstep₃ rfl
        have hremovable : Removable k σ₃ :=
          ⟨hstep₃.notCarried, hstep₃.finalizing,
            ⟨s.journal, hstep₃.marker, hcomplete, hdns, hactive⟩, hstep₃.verified⟩
        refine safe_bind.mpr (safe_request.mpr ⟨⟨rfl, hremovable⟩, fun removed _ _ => ?_⟩)
        cases removed with
        | false | true => trivial

/-- `discard_unstarted_runtime` is used only where `awg-quick up` did not run. -/
theorem safe_discardUnstartedRuntime (hk : nameIsValid k = true) {s : TunnelState}
    {deadline : ℤ} (hf : Faithful quiet s.journal (σ.2 k)) (hdns : s.journal.dnsState = .absent)
    (hup : (σ.2 k).up = false) :
    Safe tracked (Allowed k quiet) (discardUnstartedRuntime k (configNameOf k) s deadline)
      (fun _ _ => True) σ := by
  have hnotUp : ∀ {σ' : Tracked}, Steady σ σ' → (σ'.2 k).up ≠ true := by
    intro σ' hσ hup'
    rw [((hσ.keeps k).session hup').1] at hup
    cases hup
  refine (safe_setCleanupMode true).bind fun _ σ₁ hσ₁ => ?_
  refine Safe.bind (R := fun _ _ => True) ?_ fun _ σ₂ _ =>
    (safe_setCleanupMode false).bind fun _ _ _ => trivial
  refine (safe_phaseStopStatus deadline).bind fun stop σ₂ hσ₂ => ?_
  have hσ := hσ₁.toSteady.trans hσ₂.toSteady
  have hf₂ := hf.steady hσ
  split
  · refine safe_finalizeRuntimeEntries hk ?_ fun hup' => absurd hup' (hnotUp hσ)
    refine ⟨?_, fun _ => by simp [TunnelState.discarded], fun token ht => ?_, ?_, ?_, ?_⟩
    · have hdiscarded := @valid_settled s.journal .cleanupComplete 0 hf.valid (by simp) (.inl rfl)
      exact hdiscarded
    · rw [hf₂.not_carried hdns token] at ht
      cases ht
    · exact fun hup' => absurd hup' (hnotUp hσ)
    · exact fun hup' => absurd hup' (hnotUp hσ)
    · exact fun hup' => absurd hup' (hnotUp hσ)
  · trivial

/-- `verify_runtime_cleanup` gathers the evidence that the removal of the entries needs. -/
theorem safe_verifyRuntimeCleanup (hk : nameIsValid k = true) {s : TunnelState} {deadline : ℤ}
    (hf : Faithful quiet s.journal (σ.2 k)) :
    Safe tracked (Allowed k quiet) (verifyRuntimeCleanup k (configNameOf k) s deadline)
      (fun _ _ => True) σ := by
  unfold verifyRuntimeCleanup
  split
  · trivial
  rename_i hguard
  obtain ⟨-, hguard⟩ := not_or.mp hguard
  have hdns := not_not.mp (not_or.mp hguard).1
  -- the link is absent before the probe
  refine (safe_sessionOwnedLinkState hf).bind ?_
  rintro ⟨link, observation⟩ σ₁ hseen₁
  dsimp only
  split
  · trivial
  rename_i habsent
  have hevidence₁ := hseen₁.absent (not_not.mp habsent)
  have hpending : Faithful quiet
      { s.journal with state := .firewallPending, wasActive := false } (σ₁.2 k) := by
    have hf₁ := hf.steady hseen₁.steady
    refine hf₁.change ?_ (by simp) rfl (scopeWithin_refl _) fun token ht => (hf₁.carried token ht).2
    have hvalid := @valid_settled s.journal .firewallPending _ hf.valid hf.valid.1 (.inr rfl)
    rw [← hdns] at hvalid
    exact hvalid
  refine (safe_writeMarker hk hpending (certified_of_ne (by simp))).bind ?_
  rintro written σ₂ ⟨hf₂, hw₂⟩
  cases written with
  | false => trivial
  | true =>
    rw [if_pos rfl]
    -- the probe finds nothing of the journal's scope
    refine safe_firewallProbe.bind ?_
    rintro firewall σ₃ ⟨hσ₃, hprobed⟩
    split
    · trivial
    rename_i hfirewall
    have hf₃ := hf₂.steady hσ₃
    -- the link is absent after the probe
    refine (safe_sessionOwnedLinkState hf₃).bind ?_
    rintro ⟨link, observation⟩ σ₄ hseen₄
    dsimp only
    split
    · trivial
    rename_i habsent₄
    refine (safe_phaseStopStatus deadline).bind fun stop σ₅ hσ₅ => ?_
    split
    · trivial
    have hf₅ := (hf₃.steady hseen₄.steady).steady hσ₅.toSteady
    refine safe_finalizeRuntimeEntries hk ?_ fun hup₅ => ?_
    · refine hf₅.change ?_ (by simp [TunnelState.setState]) rfl (scopeWithin_refl _)
        fun token ht => (hf₅.carried token ht).2
      have hvalid := @valid_settled s.journal .cleanupComplete _ hf.valid hf.valid.1 (.inl rfl)
      rw [← hdns] at hvalid
      exact hvalid
    · have hup₄ := ((hσ₅.keeps k).session hup₅).1
      have hup₃ := ((hseen₄.steady.keeps k).session hup₄).1
      have hup₂ := ((hσ₃.keeps k).session hup₃).1
      obtain ⟨hup₁, -, hsame₂⟩ := hw₂.session hup₂
      have hnothing₂ : (σ₂.2 k).evidence ≠ .nothing := by
        rw [hsame₂, hevidence₁ hup₁]
        exact Evidence.confirmed_ne_nothing _
      have hverified : (σ₅.2 k).evidence = .verified s.journal.firewallScope := by
        rw [hσ₅.evidence hup₅, hseen₄.absent (not_not.mp habsent₄) hup₄,
          hprobed (not_not.mp hfirewall) hup₃ hnothing₂]
        rfl
      refine ⟨?_, s.journal.firewallScope, ?_, scopeWithin_refl _⟩
      · rw [hverified]
        simp
      · rw [SessionLedger.certificate, hverified]

/-- An early failure that was handled is not reported as a success; where it was not handled,
the journal is as before. -/
theorem safe_tryFinalizeEarlyUpFailure (hk : nameIsValid k = true) {s : TunnelState}
    {quick : QuickResult} {deadline : ℤ} {result : HelperExit}
    (hf : Faithful quiet s.journal (σ.2 k)) (hresult : result ≠ .success) :
    Safe tracked (Allowed k quiet)
      (tryFinalizeEarlyUpFailure k (configNameOf k) s quick deadline result)
      (fun handled σ' => (∀ result', handled = some result' → result' ≠ .success) ∧
        (handled = none → Faithful quiet s.journal (σ'.2 k))) σ := by
  unfold tryFinalizeEarlyUpFailure
  split
  · exact ⟨by simp, fun _ => hf⟩
  refine (safe_sessionOwnedLinkState hf).bind ?_
  rintro ⟨link, observation⟩ σ₁ hseen
  have hf₁ := hf.steady hseen.steady
  dsimp only
  split
  · exact ⟨by simp, fun _ => hf₁⟩
  refine (safe_setCleanupMode true).bind fun _ σ₂ hσ₂ => ?_
  have hf₂ : Faithful quiet (s.setState .cleanupRequired).journal (σ₂.2 k) :=
    (hf₁.steady hσ₂.toSteady).setCleanup (.inl rfl)
  refine (safe_verifyRuntimeCleanup hk hf₂).bind fun cleanup σ₃ _ => ?_
  refine (safe_setCleanupMode false).bind fun _ σ₄ _ => ⟨?_, by simp⟩
  rintro result' heq
  obtain rfl := Option.some.inj heq
  split
  · assumption
  · exact hresult

/-! ## Teardowns that were not begun -/

/-- `abort_before_interface_teardown` makes the session active again only where it was. -/
theorem safe_abortBeforeInterfaceTeardown (hk : nameIsValid k = true) {s : TunnelState}
    {dns : Option DnsConfig} {beganActive : Bool} {failure : HelperExit} {deadline : ℤ}
    (hf : Faithful quiet s.journal (σ.2 k))
    (hactive : beganActive = true →
      quiet = false ∧ s.journal.wasActive = true ∧ s.journal.ifindex ≠ 0)
    (hfailure : failure ≠ .success) :
    Safe tracked (Allowed k quiet)
      (abortBeforeInterfaceTeardown k s dns beganActive failure deadline)
      (fun r _ => r.1 ≠ .success) σ := by
  have hcleanup : (if beganActive = true then HelperExit.dnsRollbackFailed else .rollbackFailed) ≠
      .success := by
    split <;> simp
  unfold abortBeforeInterfaceTeardown
  dsimp only
  split
  · exact hfailure
  refine (safe_sessionOwnedLinkState hf).bind ?_
  rintro ⟨link, observation⟩ σ₁ hseen
  have hf₁ := hf.steady hseen.steady
  cases link with
  | unknown => exact HelperExit.noConfusion
  | absent => exact hfailure
  | conflict =>
    have hf₂ : Faithful quiet (s.setState .cleanupUnconfirmed).journal (σ₁.2 k) :=
      hf₁.setCleanup (.inr rfl)
    exact (safe_writeJournal hk hf₂ (by simp [TunnelState.setState])).bind
      fun _ _ _ => HelperExit.noConfusion
  | present =>
    refine (safe_phaseStopStatus deadline).bind fun stop σ₂ hσ₂ => ?_
    split
    · exact hcleanup
    have hf₃ : Faithful quiet (s.setState .cleanupRequired).journal (σ₂.2 k) :=
      (hf₁.steady hσ₂.toSteady).setCleanup (.inl rfl)
    refine (safe_writeJournal hk hf₃ (by simp [TunnelState.setState])).bind ?_
    rintro written σ₃ ⟨hf₄, -⟩
    cases written with
    | false => exact hcleanup
    | true =>
      rw [if_pos rfl]
      by_cases hbegan : beganActive = false
      · rw [if_pos hbegan]
        exact hfailure
      rw [if_neg hbegan]
      obtain ⟨hloud, hwasActive, hifindex⟩ := hactive (Bool.eq_true_of_not_eq_false hbegan)
      refine (safe_applyDnsDurably hk hf₄ rfl).bind ?_
      rintro ⟨applied, s'⟩ σ₄ ⟨hf₅, hcontinues, hok⟩
      dsimp only
      by_cases happlied : applied ≠ .ok
      · rw [if_pos happlied]
        exact HelperExit.noConfusion
      rw [if_neg happlied]
      have hf₆ : Faithful quiet (s'.setState .active).journal (σ₄.2 k) := by
        refine hf₅.change ?_ (fun hq => by rw [hloud] at hq; cases hq) rfl (scopeWithin_refl _)
          fun token ht => (hf₅.carried token ht).2
        have hvalid := valid_active hf₅.valid (hcontinues.ifindex hifindex)
          (hok (not_not.mp happlied)).2
        rw [← hwasActive, show s.journal.wasActive = s'.journal.wasActive from
          hcontinues.wasActive.symm] at hvalid
        exact hvalid
      refine (safe_writeJournal hk hf₆ (by simp [TunnelState.setState])).bind ?_
      rintro written σ₅ -
      cases written with
      | false => exact HelperExit.noConfusion
      | true => exact hfailure

/-! ## Rollback -/

theorem rollbackCleanupFailure_ne_success (teardown : InterfaceTeardown)
    (dnsResult : DnsTransaction) : rollbackCleanupFailure teardown dnsResult ≠ .success := by
  unfold rollbackCleanupFailure
  split
  · simp
  · split
    · simp
    · split
      · assumption
      · split <;> simp

/-- A rollback that has written its journal is no success. -/
theorem safe_rollbackStarted (hk : nameIsValid k = true) {s : TunnelState}
    {failure : HelperExit} {deadline : ℤ} (hf : Faithful quiet s.journal (σ.2 k))
    (hopen : s.journal.state.isOpen = true) (hfailure : failure ≠ .success) :
    Safe tracked (Allowed k quiet)
      (rollbackStarted k (configNameOf k) (runtimeConfigPathOf k) s failure deadline)
      (fun r _ => r.1 ≠ .success) σ := by
  refine (safe_sessionRefreshOwnedInterface hk hf (ne_of_isOpen hopen).2).bind ?_
  rintro ⟨identityResult, interface, journal⟩ σ₁ ⟨hf₁, hrefreshed, -⟩
  let refreshed : TunnelState := ⟨journal, s.dnsRecoveryBlocked⟩
  have hf₁ : Faithful quiet refreshed.journal (σ₁.2 k) := hf₁
  dsimp only
  by_cases hidentity : identityResult ≠ .success
  · rw [if_pos hidentity]
    have hf₂ : Faithful quiet (refreshed.setState .cleanupUnconfirmed).journal (σ₁.2 k) :=
      hf₁.setCleanup (.inr rfl)
    exact (safe_writeJournal hk hf₂ (by simp [TunnelState.setState])).bind fun _ _ _ => hidentity
  rw [if_neg hidentity]
  have hopen₁ : refreshed.journal.state.isOpen = true := (hrefreshed.continues hopen).isOpen
  refine (safe_revertDnsDurably hk hf₁ hopen₁).bind ?_
  rintro ⟨dnsResult, s₂⟩ σ₂ ⟨hf₂, hcontinues₂, -⟩
  dsimp only
  split
  · exact HelperExit.noConfusion
  refine (safe_teardownOwnedInterface hk hf₂ hcontinues₂.isOpen).bind ?_
  rintro ⟨teardown, s₃⟩ σ₃ ⟨hf₃, -⟩
  dsimp only
  split
  · split
    · exact HelperExit.noConfusion
    · refine (safe_verifyRuntimeCleanup hk hf₃).bind fun removed _ _ => ?_
      show (if removed = .success then failure else removed) ≠ .success
      split
      · exact hfailure
      · assumption
  · split
    · exact HelperExit.noConfusion
    · split
      · exact safe_abortBeforeInterfaceTeardown hk hf₃ (by simp)
          (rollbackCleanupFailure_ne_success teardown dnsResult)
      · exact rollbackCleanupFailure_ne_success teardown dnsResult

end NmSidebar
