import NmSidebar.Helper.Calm

/-!
# What every history of the helper guarantees

What holds of the session journal over any sequence of commands, each of them stopped
anywhere, with any outcome of every step.
-/

namespace NmSidebar

open Text Effects

variable {w w' : World} {runs : List (List HelperEvent)}

/-- What is known where an event of a history was issued. -/
theorem HelperHistory.issued (hh : HelperHistory w runs w') {tr : List HelperEvent}
    {e : HelperEvent} (htr : tr ∈ runs) (he : e ∈ tr) :
    ∃ L, Issue none e.op (e.before, L) ∧ behaves e.op e.before e.reply e.after := by
  obtain ⟨before, after, hruns⟩ := List.append_of_mem htr
  obtain ⟨pre, post, hevents⟩ := List.append_of_mem he
  have hissue := (@helperHistory_issue none w w' runs hh fun _ h => nomatch h).2
  obtain ⟨⟨hop, -⟩, hb⟩ := hissue before tr after pre e post hruns hevents
  exact ⟨_, hop, hb⟩

/-! ## Markers -/

/-- Every marker that any command tries to write, from whatever is on disk and after any
outcomes, has valid fields, so that it can be serialised. -/
theorem writtenMarkers_valid (hh : HelperHistory w runs w') {tr : List HelperEvent}
    {e : HelperEvent} (htr : tr ∈ runs) (he : e ∈ tr) {name : Name} {marker : RuntimeMarker}
    (hop : e.op = .writeRuntimeMarker name marker) :
    runtimeMarkerFieldsAreValid marker ∧ ∃ contents, runtimeMarkerSerialize marker = some contents := by
  obtain ⟨L, hissue, -⟩ := hh.issued htr he
  have hvalid : runtimeMarkerFieldsAreValid marker := by
    rw [hop] at hissue
    cases hissue with
    | session _ _ ho => exact (ho.resolve_right (by simp)).2.1.valid
    | profile ho _ => cases ho
    | refusal hhold _ _ => exact nomatch hhold
  exact ⟨hvalid, _, serialize_eq_some.mpr ⟨hvalid, rfl⟩⟩

/-- The marker of a sample activation, once it is written. -/
theorem writtenMarkers_valid_sample :
    runtimeMarkerFieldsAreValid sampleJournal ∧
      ∃ contents, runtimeMarkerSerialize sampleJournal = some contents :=
  @writtenMarkers_valid _ _ _ history_stoppedUp _ _ List.mem_cons_self
    (List.get_mem stoppedUp.1 ⟨6, by decide +kernel⟩) (ascii "a") _ rfl

/-! ## The resolver -/

/-- The DNS journal is written ahead: wherever a history is stopped, what the resolver may carry
of a session is announced by that session's marker on disk. -/
theorem dns_writeAhead (hh : HelperHistory w runs w') {name token : Name}
    (hcarry : (ledgersAfter runs name).mayCarry token = true) :
    ∃ marker, w'.marker name = some marker ∧ marker.linkToken = token ∧
      marker.dnsState ≠ .absent :=
  ((@helperHistory_issue none w w' runs hh fun _ h => nomatch h).1.1 name).carried token hcarry

/-- The configuration of a sample activation has just gone into the resolver. -/
theorem dns_writeAhead_sample :
    ∃ marker, upToDns.2.2.marker (ascii "a") = some marker ∧ marker.linkToken = sampleToken ∧
      marker.dnsState ≠ .absent :=
  dns_writeAhead history_upToDns (by decide +kernel)

/-! ## The end of a session -/

/-- Only the removal of a name's marker makes its file vanish. -/
theorem removal_of_vanished {e : HelperEvent} {L : Ledgers} {n : Name}
    (ho : Issue none e.op (e.before, L)) (hb : behaves e.op e.before e.reply e.after)
    (hpresent : e.before.files .runtime n ≠ none) (hgone : e.after.files .runtime n = none) :
    e.op = .removeAndSync .runtime n ∧ Removable n (e.before, L) := by
  obtain ⟨op, w, r, w'⟩ := e
  dsimp only at ho hb hpresent hgone ⊢
  have hchanged : w'.files .runtime n ≠ w.files .runtime n :=
    fun heq => hpresent (heq.symm.trans hgone)
  cases ho with
  | profile ho _ => exact absurd (by rw [files_of_behaves hb (of_touches ho).2.1]) hchanged
  | refusal hhold _ _ => exact nomatch hhold
  | @session k _ _ hk _ ho =>
    by_cases hne : n ≠ k
    · have hkept : (w', L).1.files .runtime n = w.files .runtime n :=
        runtime_of_committing_ne ho hb hne hpresent
      exact absurd hkept hchanged
    obtain rfl := not_not.mp hne
    rcases ho with ho | rfl
    · rcases changesRuntime_of_allowed ho with hruntime | ⟨journal, rfl⟩ | rfl
      · exact absurd (by rw [files_of_behaves hb hruntime]) hchanged
      · obtain ⟨-, hwritten, -⟩ := outcome_writeRuntimeMarker hb (not_isTempName_of_nameIsValid hk)
        rw [World.marker, hgone] at hwritten
        exact absurd (hwritten.resolve_left (by simp)) (Ne.symm (hgone ▸ hpresent))
      · exact ⟨rfl, ho.2⟩
    · exact absurd (by rw [files_of_behaves hb rfl]) hchanged

/-- The journal of a session for which `awg-quick up` may have run is dropped in one place only:
at the end of `finalize_runtime_entries`, with the marker on disk complete, its configuration out
of the resolver and the session inactive, and with its link seen absent in this command. Its
marker was written as complete only after the link was seen absent, a probe found nothing of a
firewall scope, and the link was seen absent again; that scope contains every scope of a marker
that reached the disk, and every scope that the command of the removal has captured. -/
theorem removal_evidence (hh : HelperHistory w runs w') {before after : List (List HelperEvent)}
    {tr pre post : List HelperEvent} {e : HelperEvent} {n : Name}
    (hruns : runs = before ++ tr :: after) (hevents : tr = pre ++ e :: post)
    (hpresent : e.before.files .runtime n ≠ none) (hgone : e.after.files .runtime n = none)
    (hup : (pre.foldl Ledgers.after (ledgersAfter before).atBoot n).up = true) :
    let l := pre.foldl Ledgers.after (ledgersAfter before).atBoot n
    e.op = .removeAndSync .runtime n ∧ l.finalizing = 3 ∧
      (∃ marker, e.before.marker n = some marker ∧ marker.state = .cleanupComplete ∧
        marker.dnsState = .absent ∧ marker.wasActive = false) ∧
      l.evidence ≠ .nothing ∧
      ∃ scope, l.completed = some scope ∧ scopeWithin l.recorded scope ∧
        scopeWithin l.captured scope := by
  have hissue := (@helperHistory_issue none w w' runs hh fun _ h => nomatch h).2
  obtain ⟨⟨hop, -⟩, hb⟩ := hissue before tr after pre e post hruns hevents
  obtain ⟨heq, hremovable⟩ := removal_of_vanished hop hb hpresent hgone
  obtain ⟨hevidence, hscope⟩ := hremovable.verified hup
  exact ⟨heq, hremovable.finalizing, hremovable.complete, hevidence, hscope⟩

/-- The sample session ends with a disconnection, which is its second command. -/
theorem removal_evidence_sample :
    (laterDown.1.get ⟨27, length_laterDown⟩).op = .removeAndSync .runtime (ascii "a") :=
  (@removal_evidence _ _ _ history_laterDown [stoppedUp.1] [] _ _ _ _ (ascii "a") rfl
    (split_at _ length_laterDown) (by decide +kernel) (by decide +kernel) (by decide +kernel)).1

/-- The firewall scopes that were captured for a session since its marker came into being,
whatever command captured them. -/
def capturedAfter (n : Name) (captured : UInt32) (e : HelperEvent) : UInt32 :=
  if e.after.files .runtime n = none then 0
  else
    match e with
    | ⟨.firewallCaptureScope name _, _, scope, _⟩ =>
      if name = n then captured ||| scope.scope.bits else captured
    | _ => captured

/-- The verified scope need not contain every scope that was captured: a scope that was captured
before the command was stopped, and that no marker on disk has, is lost. -/
theorem removal_evidence_not_all_captured :
    ¬∀ (w w' : World) (runs before after : List (List HelperEvent))
      (tr pre post : List HelperEvent) (e : HelperEvent) (n : Name),
      HelperHistory w runs w' → runs = before ++ tr :: after → tr = pre ++ e :: post →
      e.before.files .runtime n ≠ none → e.after.files .runtime n = none →
      (pre.foldl Ledgers.after (ledgersAfter before).atBoot n).up = true →
      ∃ scope, (pre.foldl Ledgers.after (ledgersAfter before).atBoot n).completed = some scope ∧
        scopeWithin ((before.flatten ++ pre).foldl (capturedAfter n) 0) scope := by
  intro hclaim
  have hruns : [stoppedUp.1, laterDown.1] = [stoppedUp.1] ++ laterDown.1 :: [] := rfl
  obtain ⟨scope, hscope, hwithin⟩ := hclaim _ _ _ _ _ _ _ _ _ (ascii "a") history_laterDown
    hruns (split_at _ length_laterDown) (by decide +kernel) (by decide +kernel)
    (by decide +kernel)
  have hone : ((laterDown.1.take 27).foldl Ledgers.after (ledgersAfter [stoppedUp.1]).atBoot
      (ascii "a")).completed = some 1 := by decide +kernel
  obtain rfl : scope = 1 := Option.some.inj (hscope.symm.trans hone)
  exact absurd hwithin (by decide +kernel)

/-! ## Manual intervention -/

/-- The operation runs `awg-quick` on a session's configuration, changes its DNS, or removes or
rewrites one of its runtime files. -/
def HelperCall.ActsOn (n : Name) : HelperCall → Prop
  | .subprocessRun .up path _ | .subprocessRun .down path _ => path = runtimeConfigPathOf n
  | .resolvconfApply identity _ _ | .resolvconfRevert identity _ | .resolvedChange identity _ _ =>
    identity.name = n
  | .removeAndSync .runtime name => name = n
  | .removeAndSync .runtimeConfigs file | .atomicWrite .runtimeConfigs file _ _ =>
    file = configNameOf n ∨ file = dnsNameOf n
  | _ => False

/-- A transaction of another session does nothing of the kind. -/
theorem not_actsOn_of_committing {k n : Name} {o : HelperCall} {σ : Tracked}
    (h : Committing k o σ) (hne : n ≠ k) : ¬o.ActsOn n := by
  have hfile : ∀ {file}, file = configNameOf k ∨ file = dnsNameOf k →
      ¬(file = configNameOf n ∨ file = dnsNameOf n) := by
    rintro _ (rfl | rfl) (heq | heq)
    · exact hne (configNameOf_inj heq).symm
    · exact configNameOf_ne_dnsNameOf _ _ heq
    · exact configNameOf_ne_dnsNameOf _ _ heq.symm
    · exact hne (dnsNameOf_inj heq).symm
  rcases h with h | rfl
  · cases o with
    | subprocessRun command path deadline =>
      cases command with
      | strip => exact id
      | up => exact fun heq => hne (runtimeConfigPathOf_inj (heq.symm.trans h.1))
      | down => exact fun heq => hne (runtimeConfigPathOf_inj (heq.symm.trans h))
    | resolvconfApply identity dns deadline => exact fun heq => hne (heq.symm.trans h.1)
    | resolvconfRevert identity deadline => exact fun heq => hne (heq.symm.trans h)
    | resolvedChange identity dns deadline =>
      cases dns with
      | none => exact fun heq => hne (heq.symm.trans h)
      | some dns => exact fun heq => hne (heq.symm.trans h.1)
    | removeAndSync area file =>
      cases area with
      | runtime => exact fun heq => hne (heq.symm.trans h.1)
      | runtimeConfigs => exact hfile h
      | config | staging => exact id
    | atomicWrite area file contents mode =>
      obtain ⟨rfl, h⟩ := h
      exact hfile h
    | _ => exact id
  · exact id

/-- Manual intervention is absorbing: once the marker of a name cannot be parsed, says that the
cleanup is unconfirmed, or says that systemd-resolved may have any configuration, no command of
any later history acts on the session, its marker stays like that, and a saved profile that was
there stays as it was. -/
theorem manualIntervention_absorbing {n : Name} (hn : nameIsValid n = true)
    (hneeds : NeedsIntervention n w) (hh : HelperHistory w runs w') :
    NeedsIntervention n w' ∧ (∀ tr ∈ runs, ∀ e ∈ tr, ¬e.op.ActsOn n) ∧
      ∀ contents, w.files .config (configNameOf n) = some contents →
        w'.files .config (configNameOf n) = some contents := by
  let hold : Hold := ⟨n, hn, w.files .config (configNameOf n)⟩
  have hkept : ∀ hold' ∈ some hold, hold'.Kept w := by
    intro hold' hmem
    obtain rfl := Option.some.inj hmem
    exact ⟨hneeds, fun contents hsaved => hsaved⟩
  obtain ⟨⟨-, hkept'⟩, hissue⟩ := helperHistory_issue hh hkept
  refine ⟨(hkept' hold rfl).needs, fun tr htr e he => ?_, (hkept' hold rfl).profile⟩
  obtain ⟨before, after, hruns⟩ := List.append_of_mem htr
  obtain ⟨pre, post, hevents⟩ := List.append_of_mem he
  obtain ⟨⟨hop, -⟩, -⟩ := hissue before tr after pre e post hruns hevents
  generalize e.op = o at hop
  cases hop with
  | session _ hfree ho => exact not_actsOn_of_committing ho (hfree hold rfl)
  | refusal => exact id
  | profile ho _ =>
    cases o with
    | removeAndSync area name =>
      cases area with
      | config => exact id
      | staging | runtime | runtimeConfigs => cases ho
    | renameStagingNoreplace | exchangeStagingConfig => exact id
    | _ => cases ho

/-- A machine with a file of the sample session's name that is no marker. -/
def spoiledWorld : World := emptyWorld.setFile .runtime (ascii "a") (some [])

/-- The disconnection of such a session. -/
theorem manualIntervention_absorbing_sample :
    NeedsIntervention (ascii "a")
      (Environment.runAll [(100, noLink wideScope)] sampleDown spoiledWorld).2.2 :=
  (manualIntervention_absorbing (by decide) (.inl ⟨by decide +kernel, by decide +kernel⟩)
    (history_of_runAll (.start spoiledWorld) rfl helperCommand_sampleDown)).1

end NmSidebar
