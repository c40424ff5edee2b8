import NmSidebar.Helper.StepSafety

/-!
# Safety of the resolver transactions

A transaction writes down that the resolver may have the session's configuration before it
changes the resolver, and what is in the resolver after it.
-/

namespace NmSidebar

open Text Effects

variable {k : Name} {quiet : Bool} {σ : Tracked}

/-! ## Journals of one session -/

/-- A later journal of the same session that is still open. -/
structure Continues (journal journal' : RuntimeMarker) : Prop where
  token : journal'.linkToken = journal.linkToken
  backend : journal'.dnsBackend = journal.dnsBackend
  scope : journal'.firewallScope = journal.firewallScope
  wasActive : journal'.wasActive = journal.wasActive
  ifindex : journal.ifindex ≠ 0 → journal'.ifindex ≠ 0
  isOpen : journal'.state.isOpen = true

theorem Continues.refl {journal : RuntimeMarker} (h : journal.state.isOpen = true) :
    Continues journal journal := ⟨rfl, rfl, rfl, rfl, id, h⟩

theorem Continues.trans {j₁ j₂ j₃ : RuntimeMarker} (h : Continues j₁ j₂) (h' : Continues j₂ j₃) :
    Continues j₁ j₃ :=
  ⟨h'.token.trans h.token, h'.backend.trans h.backend, h'.scope.trans h.scope,
    h'.wasActive.trans h.wasActive, fun hne => h'.ifindex (h.ifindex hne), h'.isOpen⟩

theorem continues_setDns {s : TunnelState} (dnsState : JournalDnsState)
    (h : s.journal.state.isOpen = true) : Continues s.journal (s.setDns dnsState).journal :=
  ⟨rfl, rfl, rfl, rfl, id, h⟩

/-- An open journal is neither active nor complete. -/
theorem ne_of_isOpen {state : JournalState} (h : state.isOpen = true) :
    state ≠ .active ∧ state ≠ .cleanupComplete := by
  constructor <;> rintro rfl <;> cases h

/-- The journal of an open session with another DNS state. -/
theorem Faithful.setDns {s : TunnelState} {dnsState : JournalDnsState}
    (h : Faithful quiet s.journal (σ.2 k)) (hopen : s.journal.state.isOpen = true)
    (hbackend : s.journal.dnsBackend ≠ .none)
    (hdns : ∀ token, (σ.2 k).mayCarry token = true → dnsState ≠ .absent) :
    Faithful quiet (s.setDns dnsState).journal (σ.2 k) :=
  h.change (valid_setDns h.valid hopen hbackend) (fun _ => (ne_of_isOpen hopen).1) rfl
    (scopeWithin_refl _) hdns

/-- The journal of a session that is to be cleaned up. -/
theorem Faithful.setCleanup {quiet' : Bool} {s : TunnelState} {state : JournalState}
    (h : Faithful quiet s.journal (σ.2 k))
    (hstate : state = .cleanupRequired ∨ state = .cleanupUnconfirmed) :
    Faithful quiet' (s.setState state).journal (σ.2 k) := by
  refine h.change (valid_setCleanup h.valid hstate) (fun _ => ?_) rfl (scopeWithin_refl _)
    fun token ht => (h.carried token ht).2
  rcases hstate with rfl | rfl <;> simp [TunnelState.setState]

/-! ## Changes of the resolver -/

/-- What a change that put a configuration into the resolver leaves. -/
theorem carried_of_applied {n : Name} {l : Ledger} (identity : LinkIdentity)
    {journal : RuntimeMarker} {e : HelperEvent} (hf : Faithful quiet journal l)
    (hpresent : journal.dnsState ≠ .absent) (htoken : identity.linkToken = journal.linkToken)
    (he : ∀ token, carryAfter n l.mayCarry e token = true →
      l.mayCarry token = true ∨ identity.linkToken = token)
    (hobserve : l.toSessionLedger.observe n e = l.toSessionLedger) :
    Faithful quiet journal (l.after n e) where
  valid := hf.valid
  inactive := hf.inactive
  carried := by
    intro token ht
    rcases he token ht with ht | rfl
    · exact hf.carried token ht
    · exact ⟨htoken, hpresent⟩
  token := by
    intro hup
    obtain ⟨hup, htoken', -⟩ := session_of_unobserved hobserve hup
    rw [htoken']
    exact hf.token hup
  recorded := by
    intro hup
    obtain ⟨hup, -, hrecorded, -⟩ := session_of_unobserved hobserve hup
    rw [hrecorded]
    exact hf.recorded hup
  captured := by
    intro hup
    obtain ⟨hup, -, -, hcaptured, -⟩ := session_of_unobserved hobserve hup
    rw [hcaptured]
    exact hf.captured hup

/-- An apply is issued where the marker on disk announces it. What changed nothing leaves
nothing new in the resolver. -/
theorem safe_dnsApplySelected {s : TunnelState} {dns : Option DnsConfig} {deadline : ℤ}
    {backend : DnsBackend} (hf : Faithful quiet s.journal (σ.2 k))
    (hpresent : s.journal.dnsState ≠ .absent) (hmarker : σ.1.marker k = some s.journal) :
    Safe tracked (Allowed k quiet) (dnsApplySelected (s.identity k) dns backend deadline)
      (fun outcome σ' => Faithful quiet s.journal (σ'.2 k) ∧ (outcome.mayHaveChanged = false →
        ∀ token, (σ'.2 k).mayCarry token = true → (σ.2 k).mayCarry token = true)) σ := by
  have hannounced : Announced (s.identity k) σ := ⟨s.journal, hmarker, rfl, hpresent⟩
  unfold dnsApplySelected
  by_cases hbackend : backend = .none
  · rw [if_pos hbackend]
    exact ⟨hf, fun _ _ ht => ht⟩
  rw [if_neg hbackend]
  cases dns with
  | none => exact ⟨hf, fun _ _ ht => ht⟩
  | some dns =>
    dsimp only
    by_cases hname : nameIsValid (s.identity k).name = false
    · rw [if_pos hname]
      exact ⟨hf, fun _ _ ht => ht⟩
    rw [if_neg hname]
    by_cases hresolvconf : backend = .resolvconf
    · rw [if_pos hresolvconf]
      refine safe_bind.mpr (safe_request.mpr ⟨⟨rfl, hannounced⟩, fun result σ' h => ?_⟩)
      have hafter : σ'.2 k = (σ.2 k).after k
          ⟨.resolvconfApply (s.identity k) dns deadline, σ.1, result, σ'.1⟩ := congrFun h.2 k
      refine ⟨?_, fun hchanged => Bool.noConfusion hchanged⟩
      rw [hafter]
      refine carried_of_applied (s.identity k) hf hpresent rfl (fun token ht => ?_) rfl
      refine (Bool.or_eq_true_iff.mp ht).imp id fun ht => ?_
      exact beq_iff_eq.mp (Bool.and_eq_true_iff.mp ht).2
    · rw [if_neg hresolvconf]
      refine safe_request.mpr ⟨⟨rfl, hannounced⟩, fun outcome σ' h => ?_⟩
      have hafter : σ'.2 k = (σ.2 k).after k
          ⟨.resolvedChange (s.identity k) (some dns) deadline, σ.1, outcome, σ'.1⟩ :=
        congrFun h.2 k
      have hcarry : ∀ token, (σ'.2 k).mayCarry token = true → (σ.2 k).mayCarry token = true ∨
          ((s.identity k).linkToken = token ∧ outcome.mayHaveChanged = true) := by
        intro token ht
        rw [hafter] at ht
        refine (Bool.or_eq_true_iff.mp ht).imp id fun ht => ?_
        rw [Bool.and_eq_true, Bool.and_eq_true, beq_iff_eq, beq_iff_eq] at ht
        exact ⟨ht.1.2, ht.2⟩
      refine ⟨?_, fun hchanged token ht => ?_⟩
      · rw [hafter] at hcarry ⊢
        exact carried_of_applied (s.identity k) hf hpresent rfl
          (fun token ht => (hcarry token ht).imp id And.left) rfl
      · refine (hcarry token ht).resolve_right fun h => ?_
        rw [hchanged] at h
        exact Bool.false_ne_true h.2

/-- A revert keeps the ledgers, and one that succeeds leaves nothing in the resolver. -/
theorem safe_dnsRevertSelected (hk : nameIsValid k = true) {s : TunnelState}
    {deadline : ℤ} {backend : DnsBackend} (hf : Faithful quiet s.journal (σ.2 k))
    (hbackend : backend ≠ .none) :
    Safe tracked (Allowed k quiet) (dnsRevertSelected (s.identity k) backend deadline)
      (fun outcome σ' => (σ.2 k).Keeps (σ'.2 k) ∧ (outcome.result = .ok →
        ∀ token, (σ'.2 k).mayCarry token = false)) σ := by
  have hgone : ∀ token, (σ.2 k).mayCarry token = true →
      ((s.identity k).name == k && (s.identity k).linkToken == token) = true := by
    intro token ht
    rw [(hf.carried token ht).1, Bool.and_eq_true, beq_iff_eq, beq_iff_eq]
    exact ⟨rfl, rfl⟩
  have hcarry : ∀ (token : Bytes) (reverted : Bool), reverted = true →
      ((σ.2 k).mayCarry token && !((s.identity k).name == k &&
        (s.identity k).linkToken == token && reverted)) = false := by
    rintro token reverted rfl
    cases ht : (σ.2 k).mayCarry token with
    | false => rfl
    | true => rw [hgone token ht]; rfl
  unfold dnsRevertSelected
  rw [if_neg hbackend, if_neg (show ¬nameIsValid (s.identity k).name = false from by
    rw [show (s.identity k).name = k from rfl, hk]
    simp)]
  by_cases hresolvconf : backend = .resolvconf
  · rw [if_pos hresolvconf]
    refine safe_bind.mpr (safe_request.mpr ⟨rfl, fun reverted σ' h => ?_⟩)
    have hkeeps := keeps_of_not_isRecorded h rfl k
    have hafter : σ'.2 k = (σ.2 k).after k
        ⟨.resolvconfRevert (s.identity k) deadline, σ.1, reverted, σ'.1⟩ := congrFun h.2 k
    cases reverted with
    | false => exact ⟨hkeeps, fun hok => by cases hok⟩
    | true =>
      refine ⟨hkeeps, fun _ token => ?_⟩
      rw [hafter]
      exact hcarry token true rfl
  · rw [if_neg hresolvconf]
    refine safe_request.mpr ⟨rfl, fun outcome σ' h => ?_⟩
    refine ⟨keeps_of_not_isRecorded h rfl k, fun hok token => ?_⟩
    have hafter : σ'.2 k = (σ.2 k).after k
        ⟨.resolvedChange (s.identity k) none deadline, σ.1, outcome, σ'.1⟩ := congrFun h.2 k
    rw [hafter]
    exact hcarry token _ (beq_iff_eq.mpr hok)

/-! ## The transactions -/

/-- The journal `complete_dns_change` writes is open where the one before was. -/
theorem continues_completeDns {s : TunnelState} (previousState confirmedState : JournalDnsState)
    (outcome : DnsChangeOutcome) (hopen : s.journal.state.isOpen = true) :
    Continues s.journal (s.completeDns previousState confirmedState outcome).journal := by
  by_cases huncertain : outcome.result = .uncertain
  · refine ⟨?_, ?_, ?_, ?_, ?_, ?_⟩ <;>
      simp [TunnelState.completeDns, TunnelState.setDns, TunnelState.setState, huncertain,
        JournalState.isOpen]
  · refine ⟨?_, ?_, ?_, ?_, ?_, ?_⟩ <;>
      simp [TunnelState.completeDns, TunnelState.setDns, huncertain, hopen]

/-- What `complete_dns_change` writes is faithful where the DNS state it takes over is. -/
theorem Faithful.completeDns {s : TunnelState} (previousState confirmedState : JournalDnsState)
    (outcome : DnsChangeOutcome) (h : Faithful quiet s.journal (σ.2 k))
    (hopen : s.journal.state.isOpen = true) (hbackend : s.journal.dnsBackend ≠ .none)
    (hok : outcome.result = .ok → ∀ token, (σ.2 k).mayCarry token = true →
      confirmedState ≠ .absent)
    (hprevious : outcome.result ≠ .ok → outcome.mayHaveChanged = false →
      ∀ token, (σ.2 k).mayCarry token = true → previousState ≠ .absent) :
    Faithful quiet (s.completeDns previousState confirmedState outcome).journal (σ.2 k) := by
  have hdns : ∀ token, (σ.2 k).mayCarry token = true →
      (if outcome.result = .ok then confirmedState
        else if outcome.mayHaveChanged = false then previousState
        else .unknown) ≠ JournalDnsState.absent := by
    intro token ht
    split
    · exact hok ‹_› token ht
    · split
      · exact hprevious ‹_› ‹_› token ht
      · simp
  have hset := h.setDns hopen hbackend hdns
  rw [TunnelState.completeDns]
  dsimp only
  split
  · exact hset.setCleanup (.inr rfl)
  · exact hset

/-- `complete_dns_change` writes the completed journal. -/
theorem safe_completeDnsChange (hk : nameIsValid k = true) {s : TunnelState}
    {previousState confirmedState : JournalDnsState} {outcome : DnsChangeOutcome}
    (hf : Faithful quiet (s.completeDns previousState confirmedState outcome).journal (σ.2 k))
    (hopen : s.journal.state.isOpen = true) :
    Safe tracked (Allowed k quiet)
      (completeDnsChange k s previousState confirmedState outcome)
      (fun r σ' => r.2 = s.completeDns previousState confirmedState outcome ∧
        Faithful quiet r.2.journal (σ'.2 k) ∧ (r.1 = .ok → outcome.result = .ok)) σ := by
  have hcontinues := continues_completeDns previousState confirmedState outcome hopen
  refine (safe_writeJournal hk hf (ne_of_isOpen hcontinues.isOpen).2).bind ?_
  rintro written σ' ⟨hf', -⟩
  cases written with
  | false => exact ⟨rfl, hf', fun h => by cases h⟩
  | true =>
    refine ⟨rfl, hf', fun h => ?_⟩
    dsimp only at h
    split at h
    · cases h
    · split at h
      · assumption
      · cases h

/-- What a confirmed change makes of the journal. -/
theorem completeDns_of_ok {s : TunnelState} {previousState confirmedState : JournalDnsState}
    {outcome : DnsChangeOutcome} (h : outcome.result = .ok) :
    s.completeDns previousState confirmedState outcome = s.setDns confirmedState := by
  simp [TunnelState.completeDns, h]

/-- `apply_dns_durably` keeps the journal of an open session faithful. When it succeeds, the
configuration is in place or there is none. -/
theorem safe_applyDnsDurably (hk : nameIsValid k = true) {s : TunnelState}
    {dns : Option DnsConfig} {deadline : ℤ} (hf : Faithful quiet s.journal (σ.2 k))
    (hopen : s.journal.state.isOpen = true) :
    Safe tracked (Allowed k quiet) (applyDnsDurably k s dns deadline)
      (fun r σ' => Faithful quiet r.2.journal (σ'.2 k) ∧ Continues s.journal r.2.journal ∧
        (r.1 = .ok → r.2.dnsRecoveryBlocked = false ∧
          (r.2.journal.dnsBackend = .none ∨ r.2.journal.dnsState = .applied))) σ := by
  have hsame : Continues s.journal s.journal := .refl hopen
  unfold applyDnsDurably
  by_cases hblocked : s.dnsRecoveryBlocked = true
  · rw [if_pos hblocked]
    exact ⟨hf, hsame, fun h => by cases h⟩
  rw [if_neg hblocked]
  have hunblocked := Bool.eq_false_iff.mpr hblocked
  by_cases hbackend : s.journal.dnsBackend = .none
  · rw [if_pos hbackend]
    exact ⟨hf, hsame, fun _ => ⟨hunblocked, .inl hbackend⟩⟩
  rw [if_neg hbackend]
  by_cases happlied : s.journal.dnsState = .applied
  · rw [if_pos happlied]
    exact ⟨hf, hsame, fun _ => ⟨hunblocked, .inr happlied⟩⟩
  rw [if_neg happlied]
  dsimp only
  -- the journal announces the change before the resolver is asked
  have hstarted : Faithful quiet (s.setDns .unknown).journal (σ.2 k) :=
    hf.setDns hopen hbackend fun _ _ => by simp
  refine (safe_writeJournal hk hstarted (ne_of_isOpen hopen).2).bind ?_
  rintro written σ₁ ⟨hf₁, hw₁⟩
  cases written with
  | false =>
    refine ⟨?_, hsame, fun h => by cases h⟩
    refine hf₁.change hf.valid hf.inactive rfl (scopeWithin_refl _) fun token ht => ?_
    rw [hw₁.carried] at ht
    exact (hf.carried token ht).2
  | true =>
    have hmarker := hw₁.marker rfl
    refine (safe_dnsApplySelected hf₁ (by simp [TunnelState.setDns]) hmarker).bind ?_
    rintro outcome σ₂ ⟨hf₂, hunchanged⟩
    have hcompleted := hf₂.completeDns s.journal.dnsState .applied outcome hopen hbackend
      (fun _ _ _ => by simp) fun _ hchanged token ht => by
        have ht := hunchanged hchanged token ht
        rw [hw₁.carried] at ht
        exact (hf.carried token ht).2
    refine (safe_completeDnsChange hk hcompleted hopen).mono ?_
    rintro ⟨result, s'⟩ σ₃ ⟨rfl, hf₃, hok⟩
    refine ⟨hf₃, ?_, fun h => ?_⟩
    · exact (continues_setDns .unknown hopen).trans (continues_completeDns _ _ outcome hopen)
    · rw [completeDns_of_ok (hok h)]
      exact ⟨hunblocked, .inr rfl⟩

/-- `revert_dns_durably` keeps the journal of an open session faithful. When it succeeds,
nothing of the session is in the resolver. -/
theorem safe_revertDnsDurably (hk : nameIsValid k = true) {s : TunnelState} {deadline : ℤ}
    (hf : Faithful quiet s.journal (σ.2 k)) (hopen : s.journal.state.isOpen = true) :
    Safe tracked (Allowed k quiet) (revertDnsDurably k s deadline)
      (fun r σ' => Faithful quiet r.2.journal (σ'.2 k) ∧ Continues s.journal r.2.journal ∧
        (r.1 = .ok → r.2.journal.dnsState = .absent)) σ := by
  have hsame : Continues s.journal s.journal := .refl hopen
  unfold revertDnsDurably
  by_cases hblocked : s.dnsRecoveryBlocked = true
  · rw [if_pos hblocked]
    exact ⟨hf, hsame, fun h => by cases h⟩
  rw [if_neg hblocked]
  by_cases habsent : s.journal.dnsState = .absent
  · rw [if_pos habsent]
    exact ⟨hf, hsame, fun _ => habsent⟩
  rw [if_neg habsent]
  have hbackend : s.journal.dnsBackend ≠ .none :=
    fun hnone => habsent (dnsState_of_backend_none hf.valid hnone)
  have hproceed : Safe tracked (Allowed k quiet) (revertMayProceed k s)
      (fun _ σ' => Steady σ σ') σ := by
    unfold revertMayProceed
    split
    · exact (safe_sessionOwnedLinkState hf).bind fun _ _ hseen => hseen.steady
    · exact .refl σ
  refine hproceed.bind fun proceed σ₁ hσ₁ => ?_
  have hf₁ := hf.steady hσ₁
  by_cases hunknown : proceed = false
  · rw [if_pos hunknown]
    have hcompleted := hf₁.completeDns s.journal.dnsState s.journal.dnsState
      ⟨.uncertain, false⟩ hopen hbackend (fun _ _ _ => habsent) fun _ _ _ _ => habsent
    refine (safe_completeDnsChange hk hcompleted hopen).mono ?_
    rintro ⟨result, s'⟩ σ₂ ⟨rfl, hf₂, hok⟩
    exact ⟨hf₂, continues_completeDns _ _ _ hopen, fun h => by cases hok h⟩
  rw [if_neg hunknown]
  have hstarted : Faithful quiet (s.setDns .unknown).journal (σ₁.2 k) :=
    hf₁.setDns hopen hbackend fun _ _ => by simp
  refine (safe_writeJournal hk hstarted (ne_of_isOpen hopen).2).bind ?_
  rintro written σ₂ ⟨hf₂, hw₂⟩
  cases written with
  | false =>
    refine ⟨?_, hsame, fun h => by cases h⟩
    exact hf₂.change hf.valid hf.inactive rfl (scopeWithin_refl _) fun _ _ => habsent
  | true =>
    refine (safe_dnsRevertSelected hk hf₂ hbackend).bind ?_
    rintro outcome σ₃ ⟨hkeeps, hreverted⟩
    have hcompleted := (hf₂.keeps hkeeps).completeDns s.journal.dnsState .absent outcome hopen hbackend
      (fun hok token ht => by rw [hreverted hok token] at ht; cases ht) fun _ _ _ _ => habsent
    refine (safe_completeDnsChange hk hcompleted hopen).mono ?_
    rintro ⟨result, s'⟩ σ₄ ⟨rfl, hf₄, hok⟩
    refine ⟨hf₄, ?_, fun h => ?_⟩
    · exact (continues_setDns .unknown hopen).trans (continues_completeDns _ _ outcome hopen)
    rw [completeDns_of_ok (hok h)]
    rfl

end NmSidebar
