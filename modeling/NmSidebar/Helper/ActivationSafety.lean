import NmSidebar.Helper.DownSafety

/-!
# Safety of activation

An activation either succeeds, with an active marker on disk and the process committed, or it
leaves the session demoted and the process uncommitted.
-/

namespace NmSidebar

open Text Effects

variable {k : Name} {σ : Tracked}

/-! ## Demoted sessions -/

/-- The marker of `k` is gone, or it says that the session is not active. -/
def Inactive (k : Name) (w : World) : Prop :=
  w.files .runtime k = none ∨ ∃ marker, w.marker k = some marker ∧ marker.state ≠ .active

/-- The process is not committed, and where `demoted` holds the session is not active or the
first write of its rollback has failed. -/
structure Guarded (k : Name) (demoted : Bool) (σ : Tracked) : Prop where
  uncommitted : σ.1.committed = false
  inactive : demoted = true → (σ.2 k).rollbackWriteFailed = true ∨ Inactive k σ.1

theorem Guarded.mono {demoted demoted' : Bool} (h : Guarded k demoted σ)
    (hd : demoted' = true → demoted = true) : Guarded k demoted' σ :=
  ⟨h.uncommitted, fun h' => h.inactive (hd h')⟩

theorem Guarded.of_demoted {demoted : Bool} (h : Guarded k true σ) : Guarded k demoted σ :=
  h.mono fun _ => rfl

/-- A quiet operation makes no session active. -/
theorem inactive_step (hk : nameIsValid k = true) {o : HelperCall} {σ' : Tracked} {r : o.Reply}
    (ho : Allowed k true o σ) (hσ : Inactive k σ.1) (h : tracked o σ r σ') : Inactive k σ'.1 := by
  rcases changesRuntime_of_allowed ho with hruntime | ⟨journal, rfl⟩ | rfl
  · rw [Inactive, World.marker, files_of_behaves h.1 hruntime]
    exact hσ
  · obtain ⟨-, hold, -⟩ := outcome_writeRuntimeMarker h.1 (not_isTempName_of_nameIsValid hk)
    rcases hold with hnew | hold
    · exact .inr ⟨journal, hnew, ho.2.1.inactive rfl⟩
    · rw [Inactive, World.marker, hold]
      exact hσ
  · rcases marker_of_removal h.1 with hgone | hmarker
    · exact .inl hgone
    · rcases hσ with hnone | hσ
      · have hb : Removal σ.1 .runtime k r σ'.1 := h.1
        generalize σ'.1 = w' at hb
        cases hb with
        | removed | unsynced => exact .inl (files_setFile_self _ _ _ _)
        | kept => exact .inl hnone
      · exact .inr (hmarker ▸ hσ)

/-- Quiet operations keep the guard. -/
theorem guarded_step {demoted : Bool} (hk : nameIsValid k = true) {o : HelperCall} {σ' : Tracked}
    {r : o.Reply} (ho : Allowed k true o σ) (hσ : Guarded k demoted σ) (h : tracked o σ r σ') :
    Guarded k demoted σ' where
  uncommitted := by
    rw [committed_of_behaves h.1, hσ.uncommitted]
    rintro rfl
    cases ho
  inactive := by
    intro hdemoted
    rcases hσ.inactive hdemoted with hfailed | hinactive
    · left
      rw [show σ'.2 k = (σ.2 k).after k ⟨o, σ.1, r, σ'.1⟩ from congrFun h.2 k]
      exact Bool.or_eq_true_iff.mpr (.inl hfailed)
    · exact .inr (inactive_step hk ho hinactive h)

/-- A quiet program as a part of a program that is not quiet. -/
theorem quietly {α : Type} {demoted : Bool} (hk : nameIsValid k = true) {p : HelperM α}
    {Q : α → Tracked → Prop} (h : Safe tracked (Allowed k true) p Q σ)
    (hσ : Guarded k demoted σ) :
    Safe tracked (Allowed k false) p (fun a σ' => Q a σ' ∧ Guarded k demoted σ') σ :=
  (h.keep hσ fun _ _ _ _ ho hσ h => guarded_step hk ho hσ h).weaken fun _ _ ho => ho.1.loud

/-! ## Rollback -/

/-- A rollback demotes the session, whatever the activation has reached. -/
theorem safe_rollback {quiet : Bool} {a : Activation} {s : TunnelState} {failure : HelperExit}
    {deadlines : Deadlines} (hf : Faithful quiet s.journal (σ.2 a.name))
    (hσ : Guarded a.name s.dnsRecoveryBlocked σ) (hfailure : failure ≠ .success) :
    Safe tracked (Allowed a.name false) (a.rollback s failure deadlines)
      (fun r σ' => r.1 ≠ .success ∧ Guarded a.name true σ') σ := by
  have hk := a.nameValid
  have hleave : ∀ {r : HelperExit × TunnelState} {σ' : Tracked}, r.1 ≠ .success →
      Guarded a.name true σ' → Safe tracked (Allowed a.name false)
        (ask (.setCleanupMode false) >>= fun _ => pure r)
        (fun r σ' => r.1 ≠ .success ∧ Guarded a.name true σ') σ' :=
    fun hr hσ' => (quietly hk (safe_setCleanupMode false) hσ').bind fun _ _ h => ⟨hr, h.2⟩
  refine (quietly hk safe_enterCleanupMode hσ).bind ?_
  rintro _ σ₁ ⟨⟨hstill, hset⟩, hσ₁⟩
  refine safe_bind.mpr ?_
  unfold rollbackActivationImpl
  split
  · rename_i hblocked
    rw [hblocked] at hσ₁
    exact hleave hfailure hσ₁
  have hf₁ : Faithful true (s.setState .cleanupRequired).journal (σ₁.2 a.name) :=
    (hf.steady hstill.toSteady).setCleanup (.inl rfl)
  refine (quietly hk (safe_writeJournal hk hf₁ (by simp [TunnelState.setState])) hσ₁).bind ?_
  rintro written σ₂ ⟨⟨hf₂, hw₂⟩, hσ₂⟩
  cases written with
  | false =>
    exact hleave HelperExit.noConfusion ⟨hσ₂.uncommitted, fun _ => .inl (hw₂.failed rfl hset)⟩
  | true =>
    have hdemoted : Guarded a.name true σ₂ :=
      ⟨hσ₂.uncommitted, fun _ => .inr (.inr ⟨_, hw₂.marker rfl, by simp [TunnelState.setState]⟩)⟩
    exact (quietly hk (safe_rollbackStarted hk hf₂ rfl hfailure) hdemoted).mono
      fun _ _ h => hleave h.1 h.2

/-! ## From the start of the tunnel to its confirmation -/

/-- What an activation has come to before its process group is settled: it was demoted, or its
marker is active on disk and it can still be rolled back. -/
structure Reached (k : Name) (result : HelperExit) (s : TunnelState) (σ : Tracked) : Prop where
  uncommitted : σ.1.committed = false
  active : result = .success → Faithful false s.journal (σ.2 k) ∧ s.dnsRecoveryBlocked = false ∧
    σ.1.marker k = some s.journal ∧ s.journal.state = .active
  demoted : result ≠ .success → Guarded k true σ

theorem Reached.of_demoted {result : HelperExit} {s : TunnelState} (hresult : result ≠ .success)
    (hσ : Guarded k true σ) : Reached k result s σ :=
  ⟨hσ.uncommitted, fun h => absurd h hresult, fun _ => hσ⟩

theorem safe_rollback_reached {quiet : Bool} {a : Activation} {s : TunnelState}
    {failure : HelperExit} {deadlines : Deadlines} (hf : Faithful quiet s.journal (σ.2 a.name))
    (hσ : Guarded a.name s.dnsRecoveryBlocked σ) (hfailure : failure ≠ .success) :
    Safe tracked (Allowed a.name false) (a.rollback s failure deadlines)
      (fun r σ' => Reached a.name r.1 r.2 σ') σ :=
  (safe_rollback hf hσ hfailure).mono fun _ _ h => .of_demoted h.1 h.2

/-- A step behind its check of the deadline. -/
theorem safe_unlessStopped {quiet demoted : Bool} {a : Activation} {s : TunnelState}
    {deadlines : Deadlines} {next : HelperM (HelperExit × TunnelState)}
    (hf : Faithful quiet s.journal (σ.2 a.name)) (hσ : Guarded a.name demoted σ)
    (hblocked : s.dnsRecoveryBlocked = true → demoted = true)
    (hnext : ∀ σ', Steady σ σ' → Guarded a.name demoted σ' →
      Safe tracked (Allowed a.name false) next (fun r σ' => Reached a.name r.1 r.2 σ') σ') :
    Safe tracked (Allowed a.name false) (a.unlessStopped s deadlines next)
      (fun r σ' => Reached a.name r.1 r.2 σ') σ := by
  refine (quietly a.nameValid (safe_phaseStopStatus _) hσ).bind ?_
  rintro stop σ₁ ⟨hstill, hσ₁⟩
  split
  · exact safe_rollback_reached (hf.steady hstill.toSteady) (hσ₁.mono hblocked) ‹_›
  · exact hnext σ₁ hstill.toSteady hσ₁

/-- The confirmation: the journal becomes active on disk, or the activation is rolled back. -/
theorem safe_confirm {a : Activation} {s : TunnelState} {deadlines : Deadlines}
    (hf : Faithful true s.journal (σ.2 a.name)) (hblocked : s.dnsRecoveryBlocked = false)
    (hifindex : s.journal.ifindex ≠ 0)
    (hdns : s.journal.dnsBackend = .none ∨ s.journal.dnsState = .applied)
    (huncommitted : σ.1.committed = false) :
    Safe tracked (Allowed a.name false) (a.confirm s deadlines)
      (fun r σ' => Reached a.name r.1 r.2 σ') σ := by
  have hk := a.nameValid
  have hactive : Faithful false s.activated.journal (σ.2 a.name) :=
    hf.change (valid_active hf.valid hifindex hdns) (fun h => Bool.noConfusion h) rfl
      (scopeWithin_refl _) fun token ht => (hf.carried token ht).2
  have hguard : ∀ {σ' : Tracked}, σ'.1.committed = false →
      Guarded a.name s.activated.dnsRecoveryBlocked σ' := by
    intro σ' h
    refine ⟨h, fun hb => ?_⟩
    rw [show s.activated.dnsRecoveryBlocked = s.dnsRecoveryBlocked from rfl, hblocked] at hb
    cases hb
  refine (safe_writeJournal hk hactive (by simp [TunnelState.activated])).bind ?_
  rintro written σ₁ ⟨hf₁, hw₁⟩
  have hσ₁ := hw₁.committed.trans huncommitted
  cases written with
  | false =>
    have hdeactivated : Faithful false s.deactivated.journal (σ₁.2 a.name) := by
      refine hf₁.change ?_ (fun h => Bool.noConfusion h) rfl (scopeWithin_refl _)
        fun token ht => (hf₁.carried token ht).2
      exact valid_of_isOpen hf.valid.1 hf.valid.2.1
        (@dnsState_of_backend_none s.journal hf.valid) (fun _ => rfl) rfl
    exact safe_rollback_reached hdeactivated (hguard hσ₁) HelperExit.noConfusion
  | true =>
    have hmarker₁ := hw₁.marker rfl
    refine safe_unlessStopped hf₁ (hguard hσ₁) id fun σ₂ hσ₂ hg₂ => ?_
    have hf₂ := hf₁.steady hσ₂
    have hmarker₂ := (hσ₂.marker a.name).trans hmarker₁
    have htoken : TokenKnown a.name σ₂ := by
      intro marker hmarker hup
      rw [hmarker₂] at hmarker
      obtain rfl := Option.some.inj hmarker
      exact hf₂.token hup
    refine (safe_sessionRuntimeState htoken).bind fun seen σ₃ hseen => ?_
    have hf₃ := hf₂.steady hseen.steady
    have hg₃ := hguard (hseen.steady.committed.trans hg₂.uncommitted)
    cases seen with
    | error failure => exact safe_rollback_reached hf₃ hg₃ (hseen.failure failure rfl)
    | ok state =>
      dsimp only
      split
      · exact safe_rollback_reached hf₃ hg₃ HelperExit.noConfusion
      · refine ⟨hg₃.uncommitted, fun _ => ⟨hf₃, hblocked, ?_, rfl⟩, fun h => absurd rfl h⟩
        exact (hseen.steady.marker a.name).trans hmarker₂

/-- The resolver step. -/
theorem safe_configureDns {a : Activation} {s : TunnelState} {deadlines : Deadlines}
    (hf : Faithful true s.journal (σ.2 a.name)) (hopen : s.journal.state.isOpen = true)
    (hifindex : s.journal.ifindex ≠ 0) (hσ : Guarded a.name true σ) :
    Safe tracked (Allowed a.name false) (a.configureDns s deadlines)
      (fun r σ' => Reached a.name r.1 r.2 σ') σ := by
  have hk := a.nameValid
  refine (quietly hk (safe_applyDnsDurably hk hf hopen) hσ).bind ?_
  rintro ⟨dnsResult, s₁⟩ σ₁ ⟨⟨hf₁, hc₁, hok⟩, hσ₁⟩
  cases dnsResult with
  | ok =>
    obtain ⟨hblocked, hdns⟩ := hok rfl
    refine safe_unlessStopped hf₁ hσ₁ (fun _ => rfl) fun σ₂ hσ₂ hg₂ => ?_
    exact safe_confirm (hf₁.steady hσ₂) hblocked (hc₁.ifindex hifindex) hdns hg₂.uncommitted
  | changeFailed =>
    refine (quietly hk (safe_phaseFailureOr _ HelperExit.noConfusion) hσ₁).bind ?_
    rintro failure σ₂ ⟨⟨hfailure, hσ₂⟩, hg₂⟩
    exact safe_rollback_reached (hf₁.steady hσ₂.toSteady) hg₂.of_demoted hfailure
  | uncertain | journalFailed =>
    exact safe_rollback_reached hf₁ hσ₁.of_demoted HelperExit.noConfusion

/-- The activation from the point where the tunnel has started: nothing is active before the
confirmation. -/
theorem safe_started {a : Activation} {s : TunnelState} {deadlines : Deadlines}
    (hf : Faithful true s.journal (σ.2 a.name)) (hopen : s.journal.state.isOpen = true)
    (hσ : Guarded a.name true σ) :
    Safe tracked (Allowed a.name false) (a.started s deadlines)
      (fun r σ' => Reached a.name r.1 r.2 σ') σ := by
  have hk := a.nameValid
  refine safe_unlessStopped hf hσ (fun _ => rfl) fun σ₁ hσ₁ hg₁ => ?_
  have hf₁ := hf.steady hσ₁
  refine (quietly hk (safe_sessionRefreshOwnedInterface hk hf₁ (ne_of_isOpen hopen).2) hg₁).bind ?_
  rintro ⟨result, interface, journal⟩ σ₂ ⟨⟨hf₂, hrefreshed, hindex⟩, hg₂⟩
  let refreshed : TunnelState := ⟨journal, s.dnsRecoveryBlocked⟩
  have hf₂ : Faithful true refreshed.journal (σ₂.2 a.name) := hf₂
  have hopen₂ : refreshed.journal.state.isOpen = true := (hrefreshed.continues hopen).isOpen
  dsimp only
  by_cases hfailed : result ≠ .success ∨ interface = false
  · rw [if_pos hfailed]
    refine safe_rollback_reached hf₂ hg₂.of_demoted ?_
    split
    · exact HelperExit.noConfusion
    · assumption
  rw [if_neg hfailed]
  have hifindex := hindex (Bool.eq_true_of_not_eq_false (not_or.mp hfailed).2)
  refine safe_unlessStopped hf₂ hg₂ (fun _ => rfl) fun σ₃ hσ₃ hg₃ => ?_
  refine safe_unlessStopped (hf₂.steady hσ₃) hg₃ (fun _ => rfl) fun σ₄ hσ₄ hg₄ => ?_
  exact safe_configureDns ((hf₂.steady hσ₃).steady hσ₄) hopen₂ hifindex hg₄

/-! ## From the first artifact to the start of the tunnel -/

/-- `awg_helper_tunnel_activate` after `awg-quick up`. -/
theorem safe_afterUp {a : Activation} {s : TunnelState} {quick : QuickResult}
    {deadlines : Deadlines} (hf : Faithful true s.journal (σ.2 a.name))
    (hopen : s.journal.state.isOpen = true) (hσ : Guarded a.name true σ) :
    Safe tracked (Allowed a.name false) (a.afterUp s quick deadlines)
      (fun run σ' => Reached a.name run.result run.tunnel σ') σ := by
  have hk := a.nameValid
  refine (quietly hk (safe_includeCurrentFirewallScope hf) hσ).bind ?_
  rintro _ σ₁ ⟨⟨hf₁, ⟨firewallScope, rfl⟩, -⟩, hσ₁⟩
  let s₁ : TunnelState := { s with journal := { s.journal with firewallScope } }
  have hf₁ : Faithful true s₁.journal (σ₁.2 a.name) := hf₁
  refine (quietly hk (safe_writeJournal hk hf₁ (ne_of_isOpen hopen).2) hσ₁).bind ?_
  rintro written σ₂ ⟨⟨hf₂, -⟩, hσ₂⟩
  dsimp only
  by_cases hfailed : (if written = true then quick.status else .runtimeFailed) ≠ .success
  · rw [if_pos hfailed]
    refine (quietly hk (safe_tryFinalizeEarlyUpFailure hk hf₂ hfailed) hσ₂).bind ?_
    rintro handled σ₃ ⟨⟨hresult, hnone⟩, hσ₃⟩
    cases handled with
    | some result => exact .of_demoted (hresult result rfl) hσ₃
    | none =>
      exact (safe_rollback_reached (hnone rfl) hσ₃.of_demoted hfailed).bind fun _ _ h => h
  · rw [if_neg hfailed]
    exact (safe_started hf₂ hopen hσ₂).bind fun _ _ h => h

/-- The journal of a session that has not begun is on disk, and the ledger knows it. -/
structure Begun (k : Name) (journal : RuntimeMarker) (σ : Tracked) : Prop where
  marker : σ.1.marker k = some journal
  notCarried : ∀ token, (σ.2 k).mayCarry token = false
  up : (σ.2 k).up = false
  token : (σ.2 k).token = journal.linkToken
  recorded : (σ.2 k).recorded = journal.firewallScope
  captured : (σ.2 k).captured = 0

theorem Begun.still {journal : RuntimeMarker} {σ' : Tracked} (h : Begun k journal σ)
    (hσ : Still σ σ') : Begun k journal σ' := by
  have hpresent : σ.1.files .runtime k ≠ none := by
    intro hnone
    have hmarker := h.marker
    rw [World.marker, hnone] at hmarker
    cases hmarker
  have hfields := hσ.session k (.inl hpresent)
  refine ⟨(hσ.marker k).trans h.marker, fun token => ?_, ?_, ?_, ?_, ?_⟩
  · rw [Bool.eq_false_iff]
    intro ht
    have hcarried := (hσ.keeps k).carried token ht
    rw [h.notCarried token] at hcarried
    cases hcarried
  · exact (congrArg SessionLedger.up hfields).trans h.up
  · exact (congrArg SessionLedger.token hfields).trans h.token
  · exact (congrArg SessionLedger.recorded hfields).trans h.recorded
  · exact (congrArg SessionLedger.captured hfields).trans h.captured

/-- A journal that the ledger knows, of a session that is not in the resolver, is faithful. -/
theorem faithful_of_fields {journal : RuntimeMarker} {l : Ledger}
    (hvalid : runtimeMarkerFieldsAreValid journal) (hstate : journal.state ≠ .active)
    (hcarried : ∀ token, l.mayCarry token = false) (htoken : l.token = journal.linkToken)
    (hrecorded : l.recorded = journal.firewallScope) (hcaptured : l.captured = 0) :
    Faithful true journal l where
  valid := hvalid
  inactive := fun _ => hstate
  carried := by
    intro token ht
    rw [hcarried token] at ht
    cases ht
  token := fun _ => htoken
  recorded := fun _ => by rw [hrecorded]; exact scopeWithin_refl _
  captured := fun _ => by rw [hcaptured]; exact scopeWithin_zero _

/-- The run of `awg-quick up` for a session that is about to begin. -/
theorem safe_quickRun_up {journal : RuntimeMarker} {deadline : ℤ}
    (hvalid : runtimeMarkerFieldsAreValid journal) (hstate : journal.state = .activating)
    (hσ : Begun k journal σ) :
    Safe tracked (Allowed k true) (quickRun .up (runtimeConfigPathOf k) deadline)
      (fun quick σ' => Faithful true journal (σ'.2 k) ∧
        (quick.mayHaveRun = false → (σ'.2 k).up = false)) σ := by
  have hactive : journal.state ≠ .active := by simp [hstate]
  have hnotRun : ∀ {σ' : Tracked} {quick : QuickResult}, Begun k journal σ' →
      Faithful true journal (σ'.2 k) ∧ (quick.mayHaveRun = false → (σ'.2 k).up = false) :=
    fun h => ⟨faithful_of_fields hvalid hactive h.notCarried h.token h.recorded h.captured,
      fun _ => h.up⟩
  refine (safe_phaseStopStatus deadline).bind fun stop σ₁ hσ₁ => ?_
  split
  · exact hnotRun (hσ.still hσ₁)
  refine safe_bind.mpr (safe_request.mpr ⟨trivial, fun opened σ₂ h₂ => ?_⟩)
  have hσ₂ := (hσ.still hσ₁).still (still_of_isIdle h₂ rfl)
  cases opened with
  | false => exact hnotRun hσ₂
  | true =>
    have hstart : Startable k σ₂ :=
      ⟨journal, hσ₂.marker, hσ₂.token.symm, hσ₂.recorded.symm, by simp [hstate]⟩
    refine safe_bind.mpr (safe_request.mpr ⟨⟨rfl, hstart⟩, fun child σ₃ h₃ => ?_⟩)
    have hafter : σ₃.2 k = (σ₂.2 k).after k
        ⟨.subprocessRun .up (runtimeConfigPathOf k) deadline, σ₂.1, child, σ₃.1⟩ :=
      congrFun h₃.2 k
    have hmarker : σ₃.1.marker k = some journal :=
      (marker_of_files (files_of_behaves h₃.1 rfl)).trans hσ₂.marker
    have hpresent : σ₃.1.files .runtime k ≠ none := by
      intro hnone
      rw [World.marker, hnone] at hmarker
      cases hmarker
    have hl := @after_of_present k (σ₂.2 k)
      ⟨.subprocessRun .up (runtimeConfigPathOf k) deadline, σ₂.1, child, σ₃.1⟩ hpresent
    rw [SessionLedger.observe, if_pos rfl, ← hafter] at hl
    have hfaithful : Faithful true journal (σ₃.2 k) :=
      faithful_of_fields hvalid hactive (hafter ▸ hσ₂.notCarried)
        ((congrArg SessionLedger.token hl).trans hσ₂.token)
        ((congrArg SessionLedger.recorded hl).trans hσ₂.recorded)
        ((congrArg SessionLedger.captured hl).trans hσ₂.captured)
    refine ⟨hfaithful, fun hrun => (congrArg SessionLedger.up hl).trans ?_⟩
    rw [hσ₂.up, show child.mayHaveRun = false from hrun]
    rfl

/-- There is no session of `k`: no marker, nothing in its ledger, nothing in the resolver. -/
structure Clear (k : Name) (σ : Tracked) : Prop where
  missing : σ.1.files .runtime k = none
  session : (σ.2 k).toSessionLedger = .empty
  notCarried : ∀ token, (σ.2 k).mayCarry token = false

theorem Clear.faithful {journal : RuntimeMarker} (h : Clear k σ) (hfresh : FreshJournal journal) :
    Faithful true journal (σ.2 k) := by
  have hup : (σ.2 k).up ≠ true := by
    rw [show (σ.2 k).up = false from congrArg SessionLedger.up h.session]
    exact Bool.false_ne_true
  refine ⟨hfresh.valid, fun _ => by simp [hfresh.state], fun token ht => ?_, ?_, ?_, ?_⟩
  · rw [h.notCarried token] at ht
    cases ht
  · exact fun h => absurd h hup
  · exact fun h => absurd h hup
  · exact fun h => absurd h hup

theorem Clear.inactive (h : Clear k σ) (hσ : σ.1.committed = false) : Guarded k true σ :=
  ⟨hσ, fun _ => .inr (.inl h.missing)⟩

/-- An artifact of the session that is about to begin. -/
theorem safe_atomicWrite {file : Name} {contents : Bytes} {mode : ℕ} {quiet : Bool}
    (hfile : file = configNameOf k ∨ file = dnsNameOf k) (hσ : Clear k σ) :
    Safe tracked (Allowed k quiet) (ask (.atomicWrite .runtimeConfigs file contents mode))
      (fun _ σ' => Clear k σ') σ := by
  refine safe_request.mpr ⟨⟨rfl, hfile⟩, fun written σ' h => ?_⟩
  have hmissing : σ'.1.files .runtime k = none := by
    rw [files_of_behaves h.1 rfl]
    exact hσ.missing
  have hafter : σ'.2 k = (σ.2 k).after k
      ⟨.atomicWrite .runtimeConfigs file contents mode, σ.1, written, σ'.1⟩ := congrFun h.2 k
  refine ⟨hmissing, ?_, fun token => ?_⟩
  · rw [hafter]
    exact after_of_missing hmissing
  · rw [hafter]
    exact hσ.notCarried token

/-- The first marker of a session: the session begins with it. -/
theorem begun_of_written (hk : nameIsValid k = true) {journal : RuntimeMarker} {σ' : Tracked}
    (hσ : Clear k σ) (h : tracked (.writeRuntimeMarker k journal) σ true σ') :
    Begun k journal σ' := by
  have hmarker : σ'.1.marker k = some journal :=
    (outcome_writeRuntimeMarker h.1 (not_isTempName_of_nameIsValid hk)).1 rfl
  have hpresent : σ'.1.files .runtime k ≠ none := by
    intro hnone
    rw [World.marker, hnone] at hmarker
    cases hmarker
  have hafter : σ'.2 k = (σ.2 k).after k ⟨.writeRuntimeMarker k journal, σ.1, true, σ'.1⟩ :=
    congrFun h.2 k
  have hl := @after_of_present k (σ.2 k) ⟨.writeRuntimeMarker k journal, σ.1, true, σ'.1⟩ hpresent
  rw [SessionLedger.observe, if_pos ⟨rfl, hmarker⟩, hσ.session, ← hafter] at hl
  refine ⟨hmarker, fun token => ?_, (congrArg SessionLedger.up hl).trans rfl,
    (congrArg SessionLedger.token hl).trans rfl,
    (congrArg SessionLedger.recorded hl).trans UInt32.zero_or,
    (congrArg SessionLedger.captured hl).trans rfl⟩
  rw [hafter]
  exact hσ.notCarried token

/-- The three writes that come before `awg-quick up`. -/
theorem safe_writeArtifacts {a : Activation} {blocked : Bool} (hσ : Clear a.name σ) :
    Safe tracked (Allowed a.name true)
      (a.writeArtifacts ⟨a.journal, blocked⟩ (dnsNameOf a.name))
      (fun written σ' => (written = true → Begun a.name a.journal σ') ∧
        Faithful true a.journal (σ'.2 a.name) ∧ (σ'.2 a.name).up = false) σ := by
  have hnotWritten : ∀ {σ' : Tracked}, Clear a.name σ' →
      (false = true → Begun a.name a.journal σ') ∧
        Faithful true a.journal (σ'.2 a.name) ∧ (σ'.2 a.name).up = false :=
    fun h => ⟨fun h => Bool.noConfusion h, h.faithful a.fresh,
      congrArg SessionLedger.up h.session⟩
  refine (safe_atomicWrite (.inl rfl) hσ).bind fun written σ₁ hσ₁ => ?_
  cases written with
  | false => exact hnotWritten hσ₁
  | true =>
    refine (safe_atomicWrite (.inr rfl) hσ₁).bind fun written σ₂ hσ₂ => ?_
    cases written with
    | false => exact hnotWritten hσ₂
    | true =>
      have hwrite : Safe tracked (Allowed a.name true) (writeJournal a.name ⟨a.journal, blocked⟩)
          _ σ₂ := safe_writeJournal a.nameValid (hσ₂.faithful a.fresh) (by simp [a.fresh.state])
      obtain ⟨hallowed, hpost⟩ := safe_request.mp hwrite
      refine safe_request.mpr ⟨hallowed, fun written σ₃ h₃ => ?_⟩
      obtain ⟨hf₃, hw₃⟩ := hpost written σ₃ h₃
      refine ⟨?_, hf₃, ?_⟩
      · rintro rfl
        exact begun_of_written a.nameValid hσ₂ h₃
      · rw [Bool.eq_false_iff]
        intro hup
        have hup₂ := (hw₃.session hup).1
        rw [show (σ₂.2 a.name).up = false from congrArg SessionLedger.up hσ₂.session] at hup₂
        cases hup₂

/-- `awg_helper_tunnel_activate` from its first write to its label `out`. -/
theorem safe_run {a : Activation} {blocked : Bool} {deadlines : Deadlines}
    (hσ : Clear a.name σ) (huncommitted : σ.1.committed = false) :
    Safe tracked (Allowed a.name false)
      (a.run ⟨a.journal, blocked⟩ (dnsNameOf a.name) deadlines)
      (fun run σ' => Reached a.name run.result run.tunnel σ') σ := by
  have hk := a.nameValid
  have hdiscard : ∀ {σ' : Tracked} {result : HelperExit → HelperExit},
      Faithful true a.journal (σ'.2 a.name) → (σ'.2 a.name).up = false →
      Guarded a.name true σ' → (∀ cleanup, result cleanup ≠ .success) →
      Safe tracked (Allowed a.name false)
        (discardUnstartedRuntime a.name a.configName ⟨a.journal, blocked⟩ deadlines.cleanupAt >>=
          fun cleanup =>
            pure (⟨result cleanup, false, ⟨a.journal, blocked⟩⟩ : ActivationRun))
        (fun run σ' => Reached a.name run.result run.tunnel σ') σ' := by
    intro σ' result hf hup hg hresult
    refine (quietly hk (safe_discardUnstartedRuntime (s := ⟨a.journal, blocked⟩) hk hf
      a.fresh.dnsState hup) hg).bind ?_
    rintro cleanup σ'' ⟨-, hg'⟩
    exact .of_demoted (hresult cleanup) hg'
  refine (quietly hk (safe_writeArtifacts hσ) (hσ.inactive huncommitted)).bind ?_
  rintro written σ₁ ⟨⟨hbegun, hf₁, hup₁⟩, hg₁⟩
  cases written with
  | false =>
    refine hdiscard hf₁ hup₁ hg₁ fun cleanup => ?_
    split <;> exact HelperExit.noConfusion
  | true =>
    refine (quietly hk (safe_quickRun_up a.fresh.valid a.fresh.state (hbegun rfl)) hg₁).bind ?_
    rintro quick σ₂ ⟨⟨hf₂, hnotRun⟩, hg₂⟩
    by_cases hunstarted : quick.status ≠ .success ∧ quick.mayHaveRun = false
    · rw [if_pos hunstarted]
      refine hdiscard hf₂ (hnotRun hunstarted.2) hg₂ fun cleanup => ?_
      split
      · assumption
      · exact hunstarted.1
    · rw [if_neg hunstarted]
      exact safe_afterUp (s := ⟨a.journal, blocked⟩) hf₂ (by simp [a.fresh.state, JournalState.isOpen]) hg₂

/-! ## The end of an activation -/

/-- The process is committed as it says, and no session was touched. -/
structure Released (released : Bool) (σ σ' : Tracked) : Prop where
  runtime : σ'.1.files .runtime = σ.1.files .runtime
  keeps : ∀ n, (σ.2 n).Keeps (σ'.2 n)
  committed : σ'.1.committed = released

theorem Released.after {released : Bool} {σ₁ σ₂ : Tracked} (h : Steady σ σ₁)
    (h' : Released released σ₁ σ₂) : Released released σ σ₂ :=
  ⟨h'.runtime.trans h.runtime, fun n => (h.keeps n).trans (h'.keeps n), h'.committed⟩

theorem Released.before {released : Bool} {σ₁ σ₂ : Tracked} (h : Released released σ σ₁)
    (h' : Steady σ₁ σ₂) : Released released σ σ₂ :=
  ⟨h'.runtime.trans h.runtime, fun n => (h.keeps n).trans (h'.keeps n),
    h'.committed.trans h.committed⟩

/-- An idle operation before what is left of a program. -/
theorem safe_idle_call {α : Type} {o : HelperCall} {f : o.Reply → HelperM α}
    {Q : α → Tracked → Prop} (ho : o.isIdle = true)
    (hf : ∀ r σ', Steady σ σ' → Safe tracked (Committing k) (f r) Q σ') :
    Safe tracked (Committing k) (ask o >>= f) Q σ :=
  safe_bind.mpr (safe_request.mpr ⟨.inl (allowed_of_isPassive (HelperCall.isPassive_of_isIdle ho)),
    fun r σ' h => hf r σ' (still_of_isIdle h ho).toSteady⟩)

theorem safe_commitOperation {deadline : ℤ} (hσ : σ.1.committed = false) :
    Safe tracked (Committing k) (commitOperation deadline)
      (fun committed σ' => Released committed σ σ') σ := by
  have hnot : ∀ {σ' : Tracked}, Steady σ σ' → Released false σ σ' := fun h =>
    ⟨h.runtime, h.keeps, h.committed.trans hσ⟩
  refine safe_idle_call rfl fun now σ₁ hσ₁ => ?_
  split
  · exact hnot hσ₁
  refine safe_idle_call rfl fun active σ₂ hσ₂ => ?_
  have hσ₂ := hσ₁.trans hσ₂
  split
  · exact hnot hσ₂
  refine safe_idle_call rfl fun pending σ₃ hσ₃ => ?_
  have hσ₃ := hσ₂.trans hσ₃
  split
  · exact hnot hσ₃
  refine safe_request.mpr ⟨.inr rfl, fun committed σ₄ h₄ => .after hσ₃ ?_⟩
  refine ⟨files_of_behaves h₄.1 rfl, keeps_of_not_isRecorded h₄ rfl, ?_⟩
  rcases h₄.1 with ⟨rfl, -, hw⟩ | ⟨rfl, hw⟩
  · rw [hw]
  · rw [hw, hσ₃.committed, hσ]

/-- `release_retained_group` returns true only with the process committed. -/
theorem safe_processReleaseRetainedGroup {deadline cleanupDeadline : ℤ}
    (hσ : σ.1.committed = false) :
    Safe tracked (Committing k) (processReleaseRetainedGroup deadline cleanupDeadline)
      (fun released σ' => Released released σ σ') σ := by
  have hnot : ∀ {σ' : Tracked}, Steady σ σ' → Released false σ σ' := fun h =>
    ⟨h.runtime, h.keeps, h.committed.trans hσ⟩
  have hcommit : ∀ {child : Option ℕ} {σ' : Tracked}, Steady σ σ' →
      Safe tracked (Committing k) (commitOperation deadline >>= settleRelease child cleanupDeadline)
        (fun released σ' => Released released σ σ') σ' := by
    intro child σ' hσ'
    refine (safe_commitOperation (hσ'.committed.trans hσ)).bind fun committed σ₁ hσ₁ => ?_
    have hσ₁ := hσ₁.after hσ'
    rcases committed with _ | _ <;> rcases child with _ | child
    · exact safe_idle_call rfl fun _ σ₂ hσ₂ => hσ₁.before hσ₂
    · refine safe_idle_call rfl fun _ σ₂ hσ₂ => ?_
      exact safe_idle_call rfl fun _ σ₃ hσ₃ => (hσ₁.before hσ₂).before hσ₃
    · exact safe_idle_call rfl fun _ σ₂ hσ₂ => hσ₁.before hσ₂
    · exact safe_idle_call rfl fun _ σ₂ hσ₂ => hσ₁.before hσ₂
  refine safe_idle_call rfl fun child σ₁ hσ₁ => ?_
  refine safe_idle_call rfl fun blocked σ₂ hσ₂ => ?_
  have hσ₂ := hσ₁.trans hσ₂
  cases blocked with
  | false => exact hnot hσ₂
  | true =>
    refine safe_idle_call rfl fun now σ₃ hσ₃ => ?_
    refine safe_idle_call rfl fun pending σ₄ hσ₄ => ?_
    have hσ₄ := (hσ₂.trans hσ₃).trans hσ₄
    split
    · exact safe_idle_call rfl fun _ σ₅ hσ₅ => hnot (hσ₄.trans hσ₅)
    cases child with
    | none => exact hcommit hσ₄
    | some child =>
      refine safe_idle_call rfl fun released σ₅ hσ₅ => ?_
      have hσ₅ := hσ₄.trans hσ₅
      cases released with
      | true => exact hcommit hσ₅
      | false => exact safe_idle_call rfl fun _ σ₆ hσ₆ => hnot (hσ₅.trans hσ₆)

theorem uses_processTerminateRetainedGroup (deadline : ℤ) :
    (processTerminateRetainedGroup deadline).Uses fun o : HelperCall => o.isIdle = true := by
  refine Prog.Uses.bind (Prog.uses_request _ |>.mpr rfl) fun child => ?_
  cases child with
  | none => trivial
  | some child =>
    refine Prog.Uses.bind (Prog.uses_request _ |>.mpr rfl) fun acknowledged => ?_
    refine Prog.Uses.bind (Prog.uses_request _ |>.mpr rfl) fun reaped => ?_
    cases reaped with
    | false => trivial
    | true =>
      refine Prog.Uses.bind (Prog.uses_request _ |>.mpr rfl) fun unregistered => ?_
      cases unregistered <;> trivial

/-- What an activation that got past its admission checks has come to. -/
structure Concluded (k : Name) (result : HelperExit) (σ : Tracked) : Prop where
  success : result = .success → σ.1.committed = true ∧
    ∃ marker, σ.1.marker k = some marker ∧ marker.state = .active
  failure : result ≠ .success → Guarded k true σ

/-- A failed activation ends the process group it retained. -/
theorem safe_terminate {a : Activation} {result : HelperExit} {deadline : ℤ}
    (hresult : result ≠ .success) (hσ : Guarded a.name true σ) :
    Safe tracked (Allowed a.name false)
      (processTerminateRetainedGroup deadline >>= fun terminated =>
        if terminated = true then pure result else pure .rollbackFailed)
      (fun result σ' => Concluded a.name result σ') σ := by
  refine (quietly a.nameValid (safe_idle (uses_processTerminateRetainedGroup deadline)) hσ).bind ?_
  rintro terminated σ₁ ⟨-, hσ₁⟩
  cases terminated with
  | false => exact ⟨fun h => HelperExit.noConfusion h, fun _ => hσ₁⟩
  | true => exact ⟨fun h => absurd h hresult, fun _ => hσ₁⟩

/-- The activation is committed with its marker active on disk, or it is demoted. -/
theorem safe_settle {a : Activation} {s : TunnelState} {result : HelperExit}
    {deadlines : Deadlines} (hσ : Reached a.name result s σ) :
    Safe tracked (Committing a.name) (a.settle s result deadlines)
      (fun result σ' => Concluded a.name result σ') σ := by
  unfold Activation.settle
  by_cases hresult : result = .success
  · rw [if_pos hresult]
    obtain ⟨hf, hblocked, hmarker, hstate⟩ := hσ.active hresult
    refine (safe_processReleaseRetainedGroup hσ.uncommitted).bind fun released σ₁ hσ₁ => ?_
    cases released with
    | true =>
      refine ⟨fun _ => ⟨hσ₁.committed, s.journal, ?_, hstate⟩, fun h => absurd rfl h⟩
      exact (marker_of_files hσ₁.runtime).trans hmarker
    | false =>
      refine (committing_of_allowed (safe_phaseStopStatus _)).bind fun stop σ₂ hσ₂ => ?_
      have hf₂ := (hf.keeps (hσ₁.keeps a.name)).steady hσ₂.toSteady
      have hg₂ : Guarded a.name s.dnsRecoveryBlocked σ₂ := by
        refine ⟨hσ₂.committed.trans hσ₁.committed, fun hb => ?_⟩
        rw [hblocked] at hb
        cases hb
      have hfailure : (if stop = .success then HelperExit.childSignaled else stop) ≠ .success := by
        split
        · exact HelperExit.noConfusion
        · assumption
      refine (committing_of_allowed (safe_rollback hf₂ hg₂ hfailure)).bind ?_
      rintro r σ₃ ⟨hr, hσ₃⟩
      exact committing_of_allowed (safe_terminate hr hσ₃)
  · rw [if_neg hresult]
    exact committing_of_allowed (safe_terminate hresult (hσ.demoted hresult))

/-- `awg_helper_tunnel_activate` from its label `out`. -/
theorem safe_finish {a : Activation} {run : ActivationRun} {deadlines : Deadlines}
    (hσ : Reached a.name run.result run.tunnel σ) :
    Safe tracked (Committing a.name) (a.finish run deadlines)
      (fun result σ' => Concluded a.name result σ') σ := by
  unfold Activation.finish
  by_cases hstarted : run.tunnelStarted = true ∧ run.result = .success
  · rw [if_pos hstarted]
    obtain ⟨hf, hblocked, hmarker, hstate⟩ := hσ.active hstarted.2
    refine (committing_of_allowed (safe_phaseStopStatus _)).bind fun stop σ₁ hσ₁ => ?_
    have hf₁ := hf.steady hσ₁.toSteady
    have huncommitted := hσ₁.committed.trans hσ.uncommitted
    split
    · rename_i hstop
      have hg₁ : Guarded a.name run.tunnel.dnsRecoveryBlocked σ₁ := by
        refine ⟨huncommitted, fun hb => ?_⟩
        rw [hblocked] at hb
        cases hb
      refine (committing_of_allowed (safe_rollback hf₁ hg₁ hstop)).bind ?_
      rintro ⟨result, s⟩ σ₂ ⟨hr, hσ₂⟩
      exact safe_settle (.of_demoted hr hσ₂)
    · refine safe_settle ⟨huncommitted, fun _ => ⟨hf₁, hblocked, ?_, hstate⟩, fun h => absurd rfl h⟩
      exact (hσ₁.marker a.name).trans hmarker
  · rw [if_neg hstarted]
    exact safe_settle hσ

/-- `awg_helper_tunnel_activate` past its admission checks. -/
theorem safe_admitted {a : Activation} {blocked : Bool} {deadlines : Deadlines}
    (hσ : Clear a.name σ) (huncommitted : σ.1.committed = false) :
    Safe tracked (Committing a.name) (a.admitted blocked (dnsNameOf a.name) deadlines)
      (fun result σ' => Concluded a.name result σ') σ :=
  (committing_of_allowed (safe_run hσ huncommitted)).bind fun _ _ hrun => safe_finish hrun

/-- The admission checks find no session of the name. -/
theorem safe_admission {a : Activation} {deadlines : Deadlines} {quiet : Bool}
    (hσ : Accounted a.name σ.1 (σ.2 a.name)) :
    Safe tracked (Allowed a.name quiet) (a.admission deadlines)
      (fun admitted σ' => σ'.1.committed = σ.1.committed ∧ ∀ dnsName, admitted = .ok dnsName →
        dnsName = dnsNameOf a.name ∧ Clear a.name σ') σ := by
  have hrefused : ∀ {failure : HelperExit} {σ' : Tracked}, σ'.1.committed = σ.1.committed →
      σ'.1.committed = σ.1.committed ∧ ∀ dnsName,
        (Except.error failure : Except HelperExit Name) = .ok dnsName →
          dnsName = dnsNameOf a.name ∧ Clear a.name σ' :=
    fun h => ⟨h, fun _ heq => by cases heq⟩
  refine (safe_phaseStopStatus _).bind fun stop σ₁ hσ₁ => ?_
  split
  · exact hrefused hσ₁.committed
  have hσ₁' := hσ.keeps (hσ₁.keeps a.name) (hσ₁.marker a.name)
  refine (safe_sessionRuntimeState hσ₁'.tokenKnown).bind fun seen σ₂ hseen => ?_
  have hcommitted := hseen.steady.committed.trans hσ₁.committed
  rcases seen with failure | ⟨_ | parsed, interface⟩
  · exact hrefused hcommitted
  · cases interface with
    | true => exact hrefused hcommitted
    | false =>
      dsimp only [Option.isSome]
      rw [if_neg Bool.false_ne_true, if_neg Bool.false_ne_true,
        storageMakeDnsFilename_of_valid a.nameValid]
      refine ⟨hcommitted, fun dnsName heq => ?_⟩
      cases heq
      obtain ⟨hmissing, hsession⟩ := hseen.missing false rfl
      refine ⟨rfl, ?_, hsession, fun token => ?_⟩
      · rw [hseen.steady.runtime]
        exact hmissing
      · rw [Bool.eq_false_iff]
        intro ht
        obtain ⟨marker, hmarker, -⟩ := hσ₁'.carried token ((hseen.steady.keeps a.name).carried _ ht)
        rw [World.marker, hmissing] at hmarker
        cases hmarker
  · exact hrefused hcommitted

/-- `awg_helper_tunnel_activate`. -/
theorem safe_tunnelActivate {a : Activation} {blocked : Bool} {deadlines : Deadlines}
    (hσ : Accounted a.name σ.1 (σ.2 a.name)) (huncommitted : σ.1.committed = false) :
    Safe tracked (Committing a.name) (tunnelActivate blocked (some a) deadlines)
      (fun _ _ => True) σ := by
  unfold tunnelActivate
  dsimp only
  split
  · trivial
  refine (committing_of_allowed (safe_admission hσ)).bind fun admitted σ₁ hadmitted => ?_
  cases admitted with
  | error failure => trivial
  | ok dnsName =>
    obtain ⟨rfl, hclear⟩ := hadmitted.2 dnsName rfl
    have hcommitted := hadmitted.1
    exact (safe_admitted hclear (hcommitted.trans huncommitted)).mono fun _ _ _ => trivial

end NmSidebar
