import NmSidebar.Helper.ProfileUses

/-!
# Sessions that need manual intervention

A session whose marker cannot be parsed, whose cleanup is unconfirmed, or whose configuration may
be anywhere in systemd-resolved is left to the administrator: every entry point of the helper
refuses it.
-/

namespace NmSidebar

open Text Effects

/-- The marker leaves the session to the administrator. -/
def RuntimeMarker.NeedsIntervention (marker : RuntimeMarker) : Prop :=
  marker.state = .cleanupUnconfirmed ∨ (marker.dnsBackend = .resolved ∧ marker.dnsState = .unknown)

/-- There is a marker of `n` on disk that cannot be parsed, or that leaves the session to the
administrator. -/
def NeedsIntervention (n : Name) (w : World) : Prop :=
  (w.files .runtime n ≠ none ∧ w.marker n = none) ∨
    ∃ marker, w.marker n = some marker ∧ marker.NeedsIntervention

variable {n : Name} {w : World}

theorem NeedsIntervention.present (h : NeedsIntervention n w) : w.files .runtime n ≠ none := by
  rcases h with h | ⟨marker, hmarker, -⟩
  · exact h.1
  · intro hnone
    rw [World.marker, hnone] at hmarker
    cases hmarker

theorem NeedsIntervention.of_files {w' : World} (h : NeedsIntervention n w)
    (hw : w'.files .runtime n = w.files .runtime n) : NeedsIntervention n w' := by
  rw [NeedsIntervention, World.marker, hw]
  exact h

/-- A marker that leaves the session to the administrator is neither complete nor pending. -/
theorem RuntimeMarker.NeedsIntervention.not_settled {marker : RuntimeMarker}
    (h : marker.NeedsIntervention) (hvalid : runtimeMarkerFieldsAreValid marker) :
    marker.state ≠ .cleanupComplete ∧ marker.state ≠ .firewallPending := by
  have habsent : ∀ {state}, marker.state = state →
      state = .cleanupComplete ∨ state = .firewallPending → False := by
    rintro _ rfl hsettled
    rcases h with h | ⟨-, h⟩
    · rw [h] at hsettled
      simp at hsettled
    · rw [(fields_of_settled hvalid hsettled).2] at h
      cases h
  exact ⟨fun heq => habsent heq (.inl rfl), fun heq => habsent heq (.inr rfl)⟩

/-! ## Looks at such a session -/

/-- Passive programs leave the markers alone. -/
theorem safe_passively {α : Type} {p : HelperM α}
    (hp : p.Uses fun o : HelperCall => o.isPassive = true) (hw : NeedsIntervention n w) :
    Safe behaves (fun o _ => o.isPassive = true) p (fun _ w' => NeedsIntervention n w') w := by
  refine Safe.of_uses hp hw (fun _ _ ho _ => ho) fun o w r w' ho hw h => hw.of_files ?_
  rw [files_of_behaves h (HelperCall.of_isPassive ho).2.1]

/-- A program that works on no session is passive. -/
theorem uses_passive {α : Type} {p : HelperM α} (hp : p.Uses (HelperCall.WorksOn none)) :
    p.Uses fun o : HelperCall => o.isPassive = true := by
  refine hp.mono fun o ho => ho.elim id ?_
  rintro ⟨configName, hnone, -⟩
  cases hnone

theorem safe_worksOnNone {α : Type} {p : HelperM α} (hp : p.Uses (HelperCall.WorksOn none))
    (hw : NeedsIntervention n w) :
    Safe behaves (fun o _ => o.isPassive = true) p (fun _ w' => NeedsIntervention n w') w :=
  safe_passively (uses_passive hp) hw

/-- A look at such a session fails or finds its marker. -/
structure Refused (n : Name) (seen : Except HelperExit SessionState) (w : World) : Prop where
  needs : NeedsIntervention n w
  failure : ∀ failure, seen = .error failure →
    failure = .runtimeFailed ∨ failure = .interfaceConflict
  marker : ∀ state, seen = .ok state →
    ∃ parsed, state.marker = some parsed ∧ parsed.marker.NeedsIntervention

/-- What is read of such a marker. -/
theorem read_of_needsIntervention {read : MarkerRead} {w' : World} (hw : NeedsIntervention n w)
    (h : behaves (.readRuntimeMarker n) w read w') :
    w' = w ∧ (read = .invalid ∨ ∃ parsed, read = .valid parsed ∧
      parsed.marker.NeedsIntervention) := by
  obtain ⟨hworld, hread⟩ := h
  refine ⟨hworld, ?_⟩
  cases read with
  | missing => exact absurd hread hw.present
  | invalid => exact .inl rfl
  | valid parsed =>
    refine .inr ⟨parsed, rfl, ?_⟩
    rcases hw with ⟨-, hnone⟩ | ⟨marker, hmarker, hneeds⟩
    · rw [show w.marker n = some parsed.marker from hread] at hnone
      cases hnone
    · rw [show w.marker n = some parsed.marker from hread] at hmarker
      obtain rfl := Option.some.inj hmarker
      exact hneeds

theorem safe_refusedLook (hw : NeedsIntervention n w) :
    Safe behaves (fun o _ => o.isPassive = true) (sessionRuntimeState n)
      (fun seen w' => Refused n seen w') w := by
  refine safe_bind.mpr (safe_request.mpr ⟨rfl, fun read w₁ h₁ => ?_⟩)
  obtain ⟨rfl, rfl | ⟨parsed, rfl, hneeds⟩⟩ := read_of_needsIntervention hw h₁
  · refine ⟨hw, ?_, ?_⟩
    · rintro failure heq
      cases heq
      exact .inl rfl
    · rintro state heq
      cases heq
  · refine safe_bind.mpr (safe_request.mpr ⟨rfl, fun reply w₂ h₂ => ?_⟩)
    have hw₂ : NeedsIntervention n w₂ := hw.of_files (by rw [files_of_behaves h₂ rfl])
    refine ⟨hw₂, fun failure heq => runtimeStateOf_failure heq, ?_⟩
    rintro ⟨marker, interface⟩ heq
    cases marker with
    | none =>
      dsimp only [runtimeStateOf] at heq
      split at heq <;> cases heq
    | some parsed' =>
      obtain ⟨rfl, -⟩ := runtimeStateOf_valid heq
      exact ⟨parsed', rfl, hneeds⟩

/-! ## Refusals -/

/-- What the refusal of a session may issue: it looks, and it may write down that the cleanup is
unconfirmed. -/
def Refusing (n : Name) (o : HelperCall) (_ : World) : Prop :=
  o.isPassive = true ∨
    ∃ marker, o = .writeRuntimeMarker n marker ∧ marker.state = .cleanupUnconfirmed

theorem refusing_of_passive {α : Type} {p : HelperM α} {Q : α → World → Prop}
    (h : Safe behaves (fun o _ => o.isPassive = true) p Q w) :
    Safe behaves (Refusing n) p Q w :=
  h.weaken fun _ _ => .inl

/-- The gate of `awg_helper_tunnel_down` refuses the session. -/
theorem safe_refusedDownGate {blocked : Bool} {configName : Name} {deadlines : Deadlines}
    (hw : NeedsIntervention n w) :
    Safe behaves (Refusing n) (tunnelDownGate blocked n configName deadlines)
      (fun plan _ => ∃ failure, plan = .error failure ∧ failure ≠ .success) w := by
  unfold tunnelDownGate
  refine (refusing_of_passive (safe_worksOnNone (worksOn_phaseStopStatus _) hw)).bind
    fun stop w₁ hw₁ => ?_
  split
  · exact ⟨stop, rfl, ‹_›⟩
  refine (refusing_of_passive (safe_refusedLook hw₁)).bind fun seen w₂ hseen => ?_
  rcases seen with failure | ⟨marker, interface⟩
  · refine ⟨failure, rfl, ?_⟩
    rcases hseen.failure failure rfl with rfl | rfl <;> exact HelperExit.noConfusion
  obtain ⟨⟨journal, hparsed⟩, hmarker, hneeds⟩ := hseen.marker _ rfl
  obtain rfl : marker = some ⟨journal, hparsed⟩ := hmarker
  obtain ⟨hcomplete, hpending⟩ := hneeds.not_settled (by
    obtain ⟨data, hdata⟩ := hparsed
    exact fieldsAreValid_of_parse hdata)
  have hneeds : journal.NeedsIntervention := hneeds
  dsimp only
  rw [if_neg hcomplete, if_neg hpending]
  split
  · exact ⟨.runtimeFailed, rfl, HelperExit.noConfusion⟩
  · rw [if_pos (hneeds.resolve_left ‹_›)]
    refine safe_bind.mpr (safe_request.mpr ⟨.inr ⟨_, rfl, rfl⟩, fun _ _ _ => ?_⟩)
    exact ⟨.runtimeFailed, rfl, HelperExit.noConfusion⟩

/-- `awg_helper_tunnel_down` refuses the session. -/
theorem safe_refusedDown {blocked : Bool} {configName : Name} {snapshotPath : Bytes}
    {deadlines : Deadlines} (hw : NeedsIntervention n w) :
    Safe behaves (Refusing n) (tunnelDown blocked n configName snapshotPath deadlines)
      (fun result _ => result ≠ .success) w := by
  refine (safe_refusedDownGate hw).bind ?_
  rintro plan w₁ ⟨failure, rfl, hfailure⟩
  exact hfailure

/-- `awg_helper_tunnel_activate` refuses the session. -/
theorem safe_refusedActivate {blocked : Bool} {a : Activation} {deadlines : Deadlines}
    (hw : NeedsIntervention a.name w) :
    Safe behaves (fun o _ => o.isPassive = true) (tunnelActivate blocked (some a) deadlines)
      (fun _ _ => True) w := by
  have hadmission : Safe behaves (fun o _ => o.isPassive = true) (a.admission deadlines)
      (fun admitted _ => ∃ failure, admitted = .error failure) w := by
    refine (safe_worksOnNone (worksOn_phaseStopStatus _) hw).bind fun stop w₁ hw₁ => ?_
    split
    · exact ⟨stop, rfl⟩
    refine (safe_refusedLook hw₁).bind fun seen w₂ hseen => ?_
    rcases seen with failure | ⟨marker, interface⟩
    · exact ⟨failure, rfl⟩
    · obtain ⟨parsed, hmarker, -⟩ := hseen.marker _ rfl
      obtain rfl : marker = some parsed := hmarker
      exact ⟨.active, rfl⟩
  unfold tunnelActivate
  dsimp only
  split
  · trivial
  refine hadmission.bind ?_
  rintro admitted w₁ ⟨failure, rfl⟩
  trivial

/-- `awg_helper_tunnel_prepare_up` refuses the session. -/
theorem safe_refusedPrepareUp {deadline : ℤ} (hw : NeedsIntervention n w) :
    Safe behaves (fun o _ => o.isPassive = true) (tunnelPrepareUp n deadline)
      (fun _ _ => True) w := by
  unfold tunnelPrepareUp
  split
  · trivial
  refine (safe_worksOnNone (worksOn_phaseStopStatus _) hw).bind fun stop w₁ hw₁ => ?_
  split
  · trivial
  split
  · trivial
  · trivial
  refine (safe_worksOnNone (worksOn_ask (.inl rfl)) hw₁).bind fun configState w₂ hw₂ => ?_
  cases configState with
  | missing | invalid => trivial
  | valid =>
    refine (safe_refusedLook hw₂).bind fun seen w₃ hseen => ?_
    rcases seen with failure | ⟨marker, interface⟩
    · trivial
    · obtain ⟨parsed, hmarker, -⟩ := hseen.marker _ rfl
      obtain rfl : marker = some parsed := hmarker
      trivial

/-- `replacement_target_status` does not take the session's profile for one that may be replaced,
nor, where there is one, for a missing one. -/
theorem safe_refusedTarget {configName : Name} (hw : NeedsIntervention n w) :
    Safe behaves (fun o _ => o.isPassive = true) (replacementTargetStatus n configName)
      (fun result w' => NeedsIntervention n w' ∧ result ≠ .success ∧
        (w.files .config configName ≠ none → result ≠ .notFound)) w := by
  refine safe_bind.mpr (safe_request.mpr ⟨rfl, fun state w₁ h₁ => ?_⟩)
  have hw₁ : NeedsIntervention n w₁ := hw.of_files (by rw [files_of_behaves h₁ rfl])
  obtain ⟨hmissing, -, -⟩ := h₁
  cases state with
  | missing =>
    exact ⟨hw₁, HelperExit.noConfusion, fun hsaved => absurd (hmissing rfl) hsaved⟩
  | invalid => exact ⟨hw₁, HelperExit.noConfusion, fun _ => HelperExit.noConfusion⟩
  | valid =>
    refine (safe_refusedLook hw₁).bind fun seen w₂ hseen => ?_
    rcases seen with failure | ⟨marker, interface⟩
    · refine ⟨hseen.needs, ?_, fun _ => ?_⟩ <;>
        rcases hseen.failure failure rfl with rfl | rfl <;> exact HelperExit.noConfusion
    · obtain ⟨parsed, hmarker, -⟩ := hseen.marker _ rfl
      obtain rfl : marker = some parsed := hmarker
      exact ⟨hseen.needs, HelperExit.noConfusion, fun _ => HelperExit.noConfusion⟩

/-- A saved profile of the session is not imported over. -/
theorem safe_refusedImport {configName : Name} {input : Bytes} {deadline : ℤ}
    (hw : NeedsIntervention n w) (hsaved : w.files .config configName ≠ none) :
    Safe behaves (fun o _ => o.isPassive = true) (profilesImport n configName input deadline)
      (fun _ _ => True) w := by
  refine (safe_refusedTarget hw).bind ?_
  rintro result w₁ ⟨-, hsuccess, hnotFound⟩
  rw [if_neg hsuccess, if_pos (hnotFound hsaved)]
  trivial

/-- No profile of the session is replaced. -/
theorem safe_refusedReplace {configName : Name} {input : Bytes} {deadline : ℤ}
    (hw : NeedsIntervention n w) :
    Safe behaves (fun o _ => o.isPassive = true) (profilesReplace n configName input deadline)
      (fun _ _ => True) w := by
  refine (safe_refusedTarget hw).bind ?_
  rintro result w₁ ⟨-, hsuccess, -⟩
  rw [if_pos hsuccess]
  trivial

end NmSidebar
