import NmSidebar.AmneziaWG.Admission
import NmSidebar.Helper.DownSafety

/-!
# The panel's classification and the helper's gate

The panel classifies a session from its marker and an observation of the links; the helper looks
at the same two before it disconnects. The two decisions agree.
-/

namespace NmSidebar

open Text Effects

/-- The helper's journal-and-link gate: what `awg_helper_tunnel_check_down` decides before it
looks at the session's files. -/
def gateAdmits (read : MarkerRead) (observation : Option LinkObservation) : Prop :=
  ∃ state plan, runtimeStateOf read observation = .ok state ∧ checkDownGate state = .ok plan

/-- What the gate makes of a marker and the state of its link. -/
theorem gateAdmits_valid {parsed : ParsedMarker} {observation : Option LinkObservation} :
    gateAdmits (.valid parsed) observation ↔
      (ownedLinkStateOf parsed.marker observation = .present ∧
        ∃ plan, checkDownGate ⟨some parsed, true⟩ = .ok plan) ∨
      (ownedLinkStateOf parsed.marker observation = .absent ∧
        ∃ plan, checkDownGate ⟨some parsed, false⟩ = .ok plan) := by
  unfold gateAdmits runtimeStateOf
  dsimp only
  cases ownedLinkStateOf parsed.marker observation <;> simp

/-- With the link present the gate admits the phases that have still to be torn down. -/
theorem checkDownGate_present {parsed : ParsedMarker} :
    (∃ plan, checkDownGate ⟨some parsed, true⟩ = .ok plan) ↔
      (parsed.marker.state = .active ∨ parsed.marker.state = .activating ∨
        parsed.marker.state = .cleanupRequired) ∧
      ¬(parsed.marker.dnsBackend = .resolved ∧ parsed.marker.dnsState = .unknown) := by
  obtain ⟨journal, hparsed⟩ := parsed
  unfold checkDownGate
  cases hstate : journal.state <;>
    by_cases hdns : journal.dnsBackend = .resolved ∧ journal.dnsState = .unknown <;>
    simp [hstate, hdns]

/-- With the link absent it admits the phases that are settled. -/
theorem checkDownGate_absent {parsed : ParsedMarker} :
    (∃ plan, checkDownGate ⟨some parsed, false⟩ = .ok plan) ↔
      parsed.marker.state = .cleanupComplete ∨ parsed.marker.state = .firewallPending := by
  obtain ⟨journal, hparsed⟩ := parsed
  unfold checkDownGate
  cases hstate : journal.state <;> simp [hstate]

theorem ParsedMarker.fieldsAreValid (parsed : ParsedMarker) :
    runtimeMarkerFieldsAreValid parsed.marker := by
  obtain ⟨data, hdata⟩ := parsed.parsed
  exact fieldsAreValid_of_parse hdata

/-- A marker is classified as one that can be disconnected where its link is present and there is
something to tear down, or where its link is absent and the session is settled. -/
theorem canDisconnect_classifyMarker {marker : RuntimeMarker} {observation : LinkObservation}
    (hvalid : runtimeMarkerFieldsAreValid marker) :
    runtimeCanDisconnect (classifyMarker marker observation) = true ↔
      (ownedLinkStateOf marker (some observation) = .present ∧
        (marker.state = .active ∨ marker.state = .activating ∨ marker.state = .cleanupRequired) ∧
        ¬(marker.dnsBackend = .resolved ∧ marker.dnsState = .unknown)) ∨
      (ownedLinkStateOf marker (some observation) = .absent ∧
        (marker.state = .cleanupComplete ∨ marker.state = .firewallPending)) := by
  have hsettled := fun h => fields_of_settled hvalid h
  by_cases hneeds : marker.state = .cleanupUnconfirmed ∨
      (marker.dnsBackend = .resolved ∧ marker.dnsState = .unknown)
  · -- neither side lets such a session through
    rw [classifyMarker, if_pos hneeds]
    refine iff_of_false (by decide) ?_
    rintro (⟨-, hopen, hdns⟩ | ⟨-, hstate⟩)
    · rw [hneeds.resolve_right hdns] at hopen
      simp at hopen
    · rcases hneeds with hneeds | ⟨-, hneeds⟩
      · rw [hneeds] at hstate
        simp at hstate
      · rw [(hsettled hstate).2] at hneeds
        cases hneeds
  rw [classifyMarker, if_neg hneeds]
  obtain ⟨hunconfirmed, hdns⟩ := not_or.mp hneeds
  simp only [ownedLinkStateOf]
  by_cases hmany : observation.tokenMatches > 1
  · simp [hmany, runtimeCanDisconnect, runtimeStateIsRecoverable]
  rw [if_neg hmany, if_neg hmany]
  by_cases hzero : observation.tokenMatches = 0
  · -- no link has the token: only a settled session is let through
    rw [if_pos hzero, if_pos hzero]
    cases hnamed : observation.namedExists with
    | true => simp [runtimeCanDisconnect, runtimeStateIsRecoverable]
    | false =>
      cases hstate : marker.state <;>
        simp_all [runtimeCanDisconnect, runtimeStateIsRecoverable]
  rw [if_neg hzero, if_neg hzero]
  -- one link has the token: it must be the session's, and the session must not be settled
  by_cases hforeign : (observation.namedExists = true ∧
        observation.namedIfindex ≠ observation.tokenIfindex) ∨
      (marker.ifindex ≠ 0 ∧ marker.ifindex ≠ observation.tokenIfindex)
  · rw [if_pos hforeign, if_pos (.inr hforeign)]
    simp [runtimeCanDisconnect, runtimeStateIsRecoverable]
  rw [if_neg hforeign]
  cases hexpected : observation.tokenHasExpectedName with
  | false => simp [runtimeCanDisconnect, runtimeStateIsRecoverable]
  | true =>
    have howned : ¬(¬true = true ∨ (observation.namedExists = true ∧
        observation.namedIfindex ≠ observation.tokenIfindex) ∨
        (marker.ifindex ≠ 0 ∧ marker.ifindex ≠ observation.tokenIfindex)) :=
      fun h => h.elim (fun h => h rfl) hforeign
    rw [if_neg howned]
    cases hstate : marker.state <;> by_cases hifindex : marker.ifindex = 0 <;>
      simp_all [runtimeCanDisconnect, runtimeStateIsRecoverable]

/-- The panel offers to disconnect exactly the sessions that the helper's gate admits, for every
marker that can be parsed and every observation. Without a marker the panel shows nothing exactly
where the helper sees neither a marker nor an interface. -/
theorem classifier_agreement :
    (∀ (parsed : ParsedMarker) (observation : LinkObservation),
      runtimeCanDisconnect
          (runtimeStateClassify true true (some parsed.marker) (some observation)) = true ↔
        gateAdmits (.valid parsed) (some observation)) ∧
    ∀ observation : LinkObservation,
      runtimeStateClassify false false none (some observation) = .inactive ↔
        runtimeStateOf .missing (some observation) = .ok ⟨none, false⟩ := by
  refine ⟨fun parsed observation => ?_, fun observation => ?_⟩
  · rw [gateAdmits_valid, checkDownGate_present, checkDownGate_absent]
    exact canDisconnect_classifyMarker parsed.fieldsAreValid
  · cases hnamed : observation.namedExists <;>
      simp [runtimeStateClassify, runtimeStateOf, hnamed]

end NmSidebar
