import NmSidebar.Helper.ResolvedEvidence
import NmSidebar.Helper.Tunnel

/-!
# What the journal says of systemd-resolved's settings

The transactions of `amneziawg_helper_tunnel.c` over the runs of `resolved_change`: the journal says
no more than the outcome of a change, and the outcome no more than the run shows.
-/

namespace NmSidebar

open Text Effects

variable {α : Type} {isUniqueName : Bytes → Bool} {order : ByteOrder} {identity : LinkIdentity}
  {dns : Option DnsConfig}

/-! ## Changes of a transaction -/

/-- A change that was made: what was asked of it, its run and its outcome. -/
structure ChangeRun where
  identity : LinkIdentity
  dns : Option DnsConfig
  events : List ResolvedEvent
  outcome : DnsChangeOutcome

/-- The helper's calls where systemd-resolved's settings are changed as above. The world holds the
changes made so far; what else is answered does not matter. -/
def changesBehaviour (isUniqueName : Bytes → Bool) (order : ByteOrder) :
    Behaviour helperSig (List ChangeRun) := fun o changes reply changes' =>
  match o with
  | .resolvedChange identity dns deadline => ∃ u u' tr,
      Steps resolvedBehaviour (resolvedChange isUniqueName order identity dns deadline) u tr
        (.pure reply) u' ∧ changes' = changes ++ [⟨identity, dns, tr, reply⟩]
  | _ => changes' = changes

/-- What a DNS transaction records of the changes `made` in it. -/
structure Recorded (order : ByteOrder) (name : Name) (dns : Option DnsConfig)
    (confirmed : JournalDnsState) (before after : TunnelState) (made : List ChangeRun)
    (tr : List (Event helperSig (List ChangeRun))) : Prop where
  asked : ∀ change ∈ made, change.identity = before.identity name ∧ change.dns = dns ∧
    OutcomeShown order change.identity change.dns change.events change.outcome
  confirmed : before.journal.dnsState ≠ confirmed → after.journal.dnsState = confirmed →
    ∃ change ∈ made, change.outcome.result = .ok ∧
      CarriedOut order change.identity change.dns change.events
  unknown : ∀ change ∈ made, attempts change.events ≠ [] → change.outcome.result ≠ .ok →
    after.journal.dnsState = .unknown
  blocked : ∀ change ∈ made, ¬EffectsKnown order change.identity change.events →
    after.dnsRecoveryBlocked = true
  written : made ≠ [] → ∃ e ∈ tr, e.op = .writeRuntimeMarker name after.journal

/-- A transaction that makes no change and does not record one. -/
theorem Recorded.none {name : Name} {confirmed : JournalDnsState} {before after : TunnelState}
    {events : List (Event helperSig (List ChangeRun))}
    (h : before.journal.dnsState ≠ confirmed → after.journal.dnsState ≠ confirmed) :
    Recorded order name dns confirmed before after [] events :=
  ⟨by simp, fun hbefore hafter => absurd hafter (h hbefore), by simp, by simp, by simp⟩

variable {changes changes' : List ChangeRun} {events : List (Event helperSig (List ChangeRun))}
  {name : Name} {before : TunnelState} {previous confirmed : JournalDnsState}

/-- Nothing else changes the settings. -/
theorem steps_unchanged {p q : HelperM α}
    (hp : p.Uses fun o => ∀ identity dns deadline, o ≠ HelperCall.resolvedChange identity dns deadline)
    (hs : Steps (changesBehaviour isUniqueName order) p changes events q changes') :
    changes' = changes := by
  induction hs with
  | here => rfl
  | @step o k w w₁ w' r tr q hb hs ih =>
    have hfirst : w₁ = w := by
      cases o with
      | resolvedChange identity dns deadline => exact absurd rfl (hp.1 identity dns deadline)
      | _ => exact hb
    rw [ih (hp.2 r), hfirst]

/-- How a backend function was answered: it made no change, and reports none, or one. -/
def AskedOnce (order : ByteOrder) (identity : LinkIdentity) (dns : Option DnsConfig)
    (outcome : DnsChangeOutcome) (made : List ChangeRun) : Prop :=
  made = [] ∧ outcome.result ≠ .ok ∧ outcome.mayHaveChanged = false ∨
    ∃ tr, made = [⟨identity, dns, tr, outcome⟩] ∧ OutcomeShown order identity dns tr outcome

theorem steps_askResolved {deadline : ℤ} {outcome : DnsChangeOutcome}
    (hs : Steps (changesBehaviour isUniqueName order)
      (ask (.resolvedChange identity dns deadline)) changes events (.pure outcome) changes') :
    ∃ made, changes' = changes ++ made ∧ AskedOnce order identity dns outcome made := by
  obtain ⟨-, u, u', tr, hchange, rfl⟩ := hs.of_request
  exact ⟨_, rfl, .inr ⟨tr, rfl, steps_resolvedChange hchange⟩⟩

theorem steps_dnsApplySelected {deadline : ℤ} {outcome : DnsChangeOutcome}
    (hs : Steps (changesBehaviour isUniqueName order)
      (dnsApplySelected identity dns .resolved deadline) changes events (.pure outcome) changes') :
    ∃ made, changes' = changes ++ made ∧ AskedOnce order identity dns outcome made := by
  unfold dnsApplySelected at hs
  rw [if_neg (by decide)] at hs
  cases dns with
  | none =>
    obtain ⟨-, rfl, rfl⟩ := hs.of_return
    exact ⟨[], (List.append_nil _).symm, .inl ⟨rfl, by decide, rfl⟩⟩
  | some dns =>
    dsimp only at hs
    split at hs
    · obtain ⟨-, rfl, rfl⟩ := hs.of_return
      exact ⟨[], (List.append_nil _).symm, .inl ⟨rfl, by decide, rfl⟩⟩
    rw [if_neg (by decide)] at hs
    exact steps_askResolved hs

theorem steps_dnsRevertSelected {deadline : ℤ} {outcome : DnsChangeOutcome}
    (hs : Steps (changesBehaviour isUniqueName order)
      (dnsRevertSelected identity .resolved deadline) changes events (.pure outcome) changes') :
    ∃ made, changes' = changes ++ made ∧ AskedOnce order identity none outcome made := by
  unfold dnsRevertSelected at hs
  rw [if_neg (by decide)] at hs
  split at hs
  · obtain ⟨-, rfl, rfl⟩ := hs.of_return
    exact ⟨[], (List.append_nil _).symm, .inl ⟨rfl, by decide, rfl⟩⟩
  rw [if_neg (by decide)] at hs
  exact steps_askResolved hs

/-- The journal is confirmed for an outcome that is `ok` only, tells of no change only where none
was attempted, and no more changes are made after an uncertain one. -/
theorem completeDns_state (s : TunnelState) (outcome : DnsChangeOutcome) :
    (s.completeDns previous confirmed outcome).journal.dnsState =
        (if outcome.result = .ok then confirmed
          else if outcome.mayHaveChanged = false then previous else .unknown) ∧
      (outcome.result = .uncertain →
        (s.completeDns previous confirmed outcome).dnsRecoveryBlocked = true) := by
  unfold TunnelState.completeDns
  dsimp only
  split
  · exact ⟨rfl, fun _ => rfl⟩
  · exact ⟨rfl, fun h => absurd h ‹_›⟩

theorem steps_completeDnsChange {s : TunnelState} {outcome : DnsChangeOutcome}
    {done : DnsTransaction × TunnelState}
    (hs : Steps (changesBehaviour isUniqueName order)
      (completeDnsChange name s previous confirmed outcome) changes events (.pure done) changes') :
    changes' = changes ∧ done.2 = s.completeDns previous confirmed outcome ∧
      ∃ e ∈ events, e.op = .writeRuntimeMarker name done.2.journal := by
  unfold completeDnsChange at hs
  obtain ⟨written, changes₁, tr, rfl, hsame, hs⟩ := hs.request_inv
  have hsame : changes₁ = changes := hsame
  split at hs <;> obtain ⟨rfl, rfl, rfl⟩ := hs.of_return <;>
    exact ⟨hsame, rfl, _, List.mem_cons_self, rfl⟩

/-- The record of one change. -/
theorem AskedOnce.recorded {outcome : DnsChangeOutcome} {made : List ChangeRun} {s : TunnelState}
    (h : AskedOnce order (before.identity name) dns outcome made)
    (hprevious : previous = before.journal.dnsState) (hconfirmed : confirmed ≠ .unknown)
    (hwritten : ∃ e ∈ events, e.op =
      .writeRuntimeMarker name (s.completeDns previous confirmed outcome).journal) :
    Recorded order name dns confirmed before (s.completeDns previous confirmed outcome) made
      events := by
  obtain ⟨hstate, hblocked⟩ := @completeDns_state previous confirmed s outcome
  rcases h with ⟨rfl, hresult, hmay⟩ | ⟨tr, rfl, hshown⟩
  · apply Recorded.none
    intro hbefore
    rwa [hstate, if_neg hresult, if_pos hmay, hprevious]
  · refine ⟨?_, fun hbefore hafter => ⟨_, List.mem_singleton_self _, ?_⟩, ?_, ?_, fun _ => hwritten⟩
    · rintro change hchange
      rw [List.mem_singleton.mp hchange]
      exact ⟨rfl, rfl, hshown⟩
    · have hok : outcome.result = .ok := by
        by_contra hresult
        rw [hstate, if_neg hresult] at hafter
        split at hafter
        · exact hbefore (hprevious ▸ hafter)
        · exact hconfirmed hafter.symm
      exact ⟨hok, hshown.ok hok⟩
    · intro change hchange hattempted hresult
      obtain rfl := List.mem_singleton.mp hchange
      have hchanged : outcome.mayHaveChanged = true := hshown.mayHaveChanged.mpr hattempted
      rw [hstate, if_neg hresult, if_neg (by rw [hchanged]; decide)]
    · intro change hchange hunknown
      obtain rfl := List.mem_singleton.mp hchange
      apply hblocked
      cases hresult : outcome.result with
      | uncertain => rfl
      | ok =>
        obtain ⟨-, hseen⟩ := hshown.ok hresult
        exact absurd (hseen.mono fun _ a _ hP => ⟨.inl hP.1, hP.2⟩) hunknown
      | failed => exact absurd (hshown.failed hresult) hunknown
      | unavailable => exact absurd (eachAttempt_nil (hshown.unavailable hresult)) hunknown

/-! ## Transactions -/

theorem uses_writeJournal (s : TunnelState) :
    (writeJournal name s).Uses fun o =>
      ∀ identity dns deadline, o ≠ HelperCall.resolvedChange identity dns deadline :=
  (Prog.uses_request (S := helperSig) _).mpr fun _ _ _ h => by cases h

theorem steps_applyDnsDurably {deadline : ℤ} {done : DnsTransaction × TunnelState}
    (hbackend : before.journal.dnsBackend = .resolved)
    (hs : Steps (changesBehaviour isUniqueName order) (applyDnsDurably name before dns deadline)
      changes events (.pure done) changes') :
    ∃ made, changes' = changes ++ made ∧
      Recorded order name dns .applied before done.2 made events := by
  unfold applyDnsDurably at hs
  split at hs
  · obtain ⟨-, rfl, rfl⟩ := hs.of_return
    exact ⟨[], (List.append_nil _).symm, .none id⟩
  rw [if_neg (by rw [hbackend]; decide)] at hs
  split at hs
  · obtain ⟨-, rfl, rfl⟩ := hs.of_return
    exact ⟨[], (List.append_nil _).symm, .none id⟩
  obtain ⟨written, changes₁, tr₁, tr₂, rfl, hwritten, hs⟩ := hs.bind_inv
  have hsame : changes₁ = changes := steps_unchanged (uses_writeJournal _) hwritten
  rw [hsame] at hs
  split at hs
  swap
  · obtain ⟨-, rfl, rfl⟩ := hs.of_return
    exact ⟨[], (List.append_nil _).symm, .none id⟩
  obtain ⟨outcome, changes₂, tr₂, tr₃, rfl, happly, hs⟩ := hs.bind_inv
  rw [hbackend] at happly
  obtain ⟨made, hmade, hasked⟩ := steps_dnsApplySelected happly
  obtain ⟨hkept, hdone, e, he, hop⟩ := steps_completeDnsChange hs
  rw [hdone] at hop ⊢
  refine ⟨made, hkept.trans hmade, hasked.recorded rfl (by decide) ⟨e, ?_, hop⟩⟩
  exact List.mem_append_right _ (List.mem_append_right _ he)

theorem steps_revertDnsDurably {deadline : ℤ} {done : DnsTransaction × TunnelState}
    (hbackend : before.journal.dnsBackend = .resolved)
    (hs : Steps (changesBehaviour isUniqueName order) (revertDnsDurably name before deadline)
      changes events (.pure done) changes') :
    ∃ made, changes' = changes ++ made ∧
      Recorded order name none .absent before done.2 made events := by
  unfold revertDnsDurably revertMayProceed at hs
  split at hs
  · obtain ⟨-, rfl, rfl⟩ := hs.of_return
    exact ⟨[], (List.append_nil _).symm, .none id⟩
  split at hs
  · obtain ⟨-, rfl, rfl⟩ := hs.of_return
    exact ⟨[], (List.append_nil _).symm, .none id⟩
  rw [if_neg (by rw [hbackend]; decide)] at hs
  dsimp only [Prog.pure_eq, Prog.pure_bind] at hs
  rw [if_neg (by decide)] at hs
  obtain ⟨written, changes₁, tr₁, tr₂, rfl, hwritten, hs⟩ := hs.bind_inv
  have hsame : changes₁ = changes := steps_unchanged (uses_writeJournal _) hwritten
  rw [hsame] at hs
  split at hs
  swap
  · obtain ⟨-, rfl, rfl⟩ := hs.of_return
    exact ⟨[], (List.append_nil _).symm, .none id⟩
  obtain ⟨outcome, changes₂, tr₂, tr₃, rfl, hrevert, hs⟩ := hs.bind_inv
  rw [hbackend] at hrevert
  obtain ⟨made, hmade, hasked⟩ := steps_dnsRevertSelected hrevert
  obtain ⟨hkept, hdone, e, he, hop⟩ := steps_completeDnsChange hs
  rw [hdone] at hop ⊢
  refine ⟨made, hkept.trans hmade, hasked.recorded rfl (by decide) ⟨e, ?_, hop⟩⟩
  exact List.mem_append_right _ (List.mem_append_right _ he)

/-- Outcomes of changes are sound evidence, whatever the link, the bus, the clock and the
cancellable do, and the journal says no more than they do: a transaction records the state after
the change only for one that was carried out, records that the state is not known where a method was
called without success over all, and blocks recovery where an effect or a target is not known. -/
theorem dnsChange_evidence (isUniqueName : Bytes → Bool) (order : ByteOrder) :
    (∀ identity dns deadline u tr outcome u',
      Steps resolvedBehaviour (resolvedChange isUniqueName order identity dns deadline) u tr
        (.pure outcome) u' → OutcomeShown order identity dns tr outcome) ∧
    (∀ name before dns deadline changes events done changes',
      before.journal.dnsBackend = .resolved →
      Steps (changesBehaviour isUniqueName order) (applyDnsDurably name before dns deadline)
        changes events (.pure done) changes' →
      ∃ made, changes' = changes ++ made ∧
        Recorded order name dns .applied before done.2 made events) ∧
    (∀ name before deadline changes events done changes',
      before.journal.dnsBackend = .resolved →
      Steps (changesBehaviour isUniqueName order) (revertDnsDurably name before deadline)
        changes events (.pure done) changes' →
      ∃ made, changes' = changes ++ made ∧
        Recorded order name none .absent before done.2 made events) :=
  ⟨fun _ _ _ _ _ _ _ hs => steps_resolvedChange hs,
    fun _ _ _ _ _ _ _ _ hbackend hs => steps_applyDnsDurably hbackend hs,
    fun _ _ _ _ _ _ _ hbackend hs => steps_revertDnsDurably hbackend hs⟩

/-! ## A change that is carried out -/

/-- A bus that names one owner and acknowledges everything, while a link is up. -/
def calmBus (owner : Bytes) (snapshot : LinkSnapshot) : Environment resolvedBehaviour where
  answer o u :=
    match o with
    | .monotonicMsec => (0, u)
    | .isCancelled | .terminationRequested => (false, u)
    | .startWatcher _ | .connectBus => (true, u)
    | .stopWatcher | .dispatchTermination => ((), u)
    | .lstatBusSocket => (some ⟨true, 0, 0⟩, u)
    | .getNameOwner _ => (.reply owner, u)
    | .callMethod .. => (.reply (), u)
    | .guard o => (tellingKernel [] snapshot).answer o u
  allowed o u := by
    cases o with
    | guard o => exact (tellingKernel [] snapshot).allowed o u
    | _ => exact LinkStream.Later.refl u

/-- A name is unique where it begins with a colon. -/
def beginsWithColon (name : Bytes) : Bool := name.head? == some 0x3a

/-- The settings of the link `a` are reverted. -/
def sampleRevert : List ResolvedEvent × ResolvedM DnsChangeOutcome × LinkStream :=
  (calmBus (ascii ":1.7") sampleDump).run 200
    (resolvedChange beginsWithColon .little guardedIdentity none 10000) ⟨[], 0, false, false⟩

/-- The session of this link, with its settings applied. -/
def appliedSession : TunnelState :=
  ⟨⟨List.replicate 32 0x30, 7, .resolved, .active, .applied, true, 1⟩, false⟩

theorem sampleRevert_steps : Steps resolvedBehaviour
    (resolvedChange beginsWithColon .little guardedIdentity none 10000) ⟨[], 0, false, false⟩
    sampleRevert.1 (.pure ⟨.ok, true⟩) sampleRevert.2.2 := by
  have hmade : sampleRevert.2.1.result = some ⟨.ok, true⟩ := rfl
  exact ((calmBus (ascii ":1.7") sampleDump).steps 200 _ _).returned hmade

/-- This change. -/
def sampleChange : ChangeRun := ⟨guardedIdentity, none, sampleRevert.1, ⟨.ok, true⟩⟩

/-- The calls of the transaction that makes it. -/
def sampleTransaction : List (Event helperSig (List ChangeRun)) :=
  [⟨HelperCall.writeRuntimeMarker (ascii "a") (appliedSession.setDns .unknown).journal, [], true, []⟩,
    ⟨HelperCall.resolvedChange guardedIdentity none 10000, [], ⟨.ok, true⟩, [sampleChange]⟩,
    ⟨HelperCall.writeRuntimeMarker (ascii "a") (appliedSession.setDns .absent).journal,
      [sampleChange], true, [sampleChange]⟩]

/-- The change was carried out, and the journal of the session says so. -/
theorem dnsChange_evidence_sample :
    CarriedOut .little guardedIdentity none sampleRevert.1 ∧
      Recorded .little (ascii "a") none .absent appliedSession (appliedSession.setDns .absent)
        [sampleChange] sampleTransaction := by
  obtain ⟨hchange, -, hrevert⟩ := dnsChange_evidence beginsWithColon .little
  have hshown := hchange _ _ _ _ _ _ _ sampleRevert_steps
  refine ⟨hshown.ok rfl, ?_⟩
  have hsteps : Steps (changesBehaviour beginsWithColon .little)
      (revertDnsDurably (ascii "a") appliedSession 10000) [] sampleTransaction
      (.pure (.ok, appliedSession.setDns .absent)) [sampleChange] :=
    .step rfl (.step ⟨_, _, _, sampleRevert_steps, rfl⟩ (.step rfl (.here _ _)))
  obtain ⟨made, hmade, hrecorded⟩ := hrevert _ _ _ _ _ _ _ rfl hsteps
  obtain rfl : [sampleChange] = made := hmade
  exact hrecorded

end NmSidebar
