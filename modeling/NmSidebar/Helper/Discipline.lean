import NmSidebar.Helper.Ledger

/-!
# The discipline of the helper

Where the helper's programs may issue their operations, in terms of the disk and the ledger, and
the invariant that operations issued there keep: the disk accounts for what the ledger says.
-/

namespace NmSidebar

open Text Effects

/-! ## The journal in memory -/

/-- The journal can be written without the disk forgetting anything the ledger knows. A `quiet`
program never makes a session active. -/
structure Faithful (quiet : Bool) (journal : RuntimeMarker) (l : Ledger) : Prop where
  valid : runtimeMarkerFieldsAreValid journal
  inactive : quiet = true → journal.state ≠ .active
  carried : ∀ token, l.mayCarry token = true →
    token = journal.linkToken ∧ journal.dnsState ≠ .absent
  token : l.up = true → l.token = journal.linkToken
  recorded : l.up = true → scopeWithin l.recorded journal.firewallScope
  captured : l.up = true → scopeWithin l.captured journal.firewallScope

theorem Faithful.keeps {quiet : Bool} {journal : RuntimeMarker} {l l' : Ledger}
    (h : Faithful quiet journal l) (hl : l.Keeps l') : Faithful quiet journal l' where
  valid := h.valid
  inactive := h.inactive
  carried := fun token ht => h.carried token (hl.carried token ht)
  token := by
    intro hup
    obtain ⟨hup, htoken, -⟩ := hl.session hup
    rw [htoken, h.token hup]
  recorded := by
    intro hup
    obtain ⟨hup, -, hrecorded, -⟩ := hl.session hup
    rw [hrecorded]
    exact h.recorded hup
  captured := by
    intro hup
    obtain ⟨hup, -, -, hcaptured, -⟩ := hl.session hup
    rw [hcaptured]
    exact h.captured hup

/-- A program that need not be quiet may do what a quiet one may. -/
theorem Faithful.loud {quiet : Bool} {journal : RuntimeMarker} {l : Ledger}
    (h : Faithful quiet journal l) : Faithful false journal l :=
  ⟨h.valid, by simp, h.carried, h.token, h.recorded, h.captured⟩

/-- Where the journal says that no resolver has the session's configuration, none has. -/
theorem Faithful.not_carried {quiet : Bool} {journal : RuntimeMarker} {l : Ledger}
    (h : Faithful quiet journal l) (habsent : journal.dnsState = .absent) (token : Bytes) :
    l.mayCarry token = false := by
  rw [Bool.eq_false_iff]
  intro ht
  exact (h.carried token ht).2 habsent

/-- Another journal of the same session, with no smaller scope. -/
theorem Faithful.change {quiet quiet' : Bool} {journal journal' : RuntimeMarker} {l : Ledger}
    (h : Faithful quiet journal l) (hvalid : runtimeMarkerFieldsAreValid journal')
    (hquiet : quiet' = true → journal'.state ≠ .active)
    (htoken : journal'.linkToken = journal.linkToken)
    (hscope : scopeWithin journal.firewallScope journal'.firewallScope)
    (hdns : ∀ token, l.mayCarry token = true → journal'.dnsState ≠ .absent) :
    Faithful quiet' journal' l where
  valid := hvalid
  inactive := hquiet
  carried := fun token ht => ⟨(h.carried token ht).1.trans htoken.symm, hdns token ht⟩
  token := fun hup => (h.token hup).trans htoken.symm
  recorded := fun hup => (h.recorded hup).trans hscope
  captured := fun hup => (h.captured hup).trans hscope

/-- A journal that is written as complete rests on a verified scope. -/
def Certified (journal : RuntimeMarker) (l : Ledger) : Prop :=
  l.up = true → journal.state = .cleanupComplete →
    ∃ scope, l.certificate = some scope ∧ scopeWithin journal.firewallScope scope

/-! ## Where operations may be issued -/

/-- The session's marker is on disk as the ledger knows it, and it is not complete. -/
def Startable (name : Name) (σ : Tracked) : Prop :=
  ∃ marker, σ.1.marker name = some marker ∧ marker.linkToken = (σ.2 name).token ∧
    marker.firewallScope = (σ.2 name).recorded ∧ marker.state ≠ .cleanupComplete

/-- The marker on disk says that the resolver may have the configuration of a link's session. -/
def Announced (identity : LinkIdentity) (σ : Tracked) : Prop :=
  ∃ marker, σ.1.marker identity.name = some marker ∧ marker.linkToken = identity.linkToken ∧
    marker.dnsState ≠ .absent

/-- The session has come to its end: nothing of it is in the resolver, its marker is complete,
and where `awg-quick up` may have run the end was verified for every scope that was recorded or
captured. -/
structure Removable (name : Name) (σ : Tracked) : Prop where
  notCarried : ∀ token, (σ.2 name).mayCarry token = false
  finalizing : (σ.2 name).finalizing = 3
  complete : ∃ marker, σ.1.marker name = some marker ∧ marker.state = .cleanupComplete ∧
    marker.dnsState = .absent ∧ marker.wasActive = false
  verified : (σ.2 name).up = true → (σ.2 name).evidence ≠ .nothing ∧
    ∃ scope, (σ.2 name).completed = some scope ∧ scopeWithin (σ.2 name).recorded scope ∧
      scopeWithin (σ.2 name).captured scope

/-- Where a program that works on the session `k` may issue an operation. A `quiet` program
does not make the session active. -/
def Allowed (k : Name) (quiet : Bool) : HelperCall → Tracked → Prop
  | .writeRuntimeMarker name journal, σ =>
    name = k ∧ Faithful quiet journal (σ.2 k) ∧ Certified journal (σ.2 k)
  | .removeAndSync .runtime name, σ => name = k ∧ Removable k σ
  | .removeAndSync .runtimeConfigs file, _ => file = configNameOf k ∨ file = dnsNameOf k
  | .removeAndSync .config _, _ | .renameStagingNoreplace .., _ | .exchangeStagingConfig .., _ =>
    False
  | .atomicWrite area file _ _, _ =>
    area = .runtimeConfigs ∧ (file = configNameOf k ∨ file = dnsNameOf k)
  | .resolvconfApply identity _ _, σ | .resolvedChange identity (some _) _, σ =>
    identity.name = k ∧ Announced identity σ
  | .resolvconfRevert identity _, _ | .resolvedChange identity none _, _ => identity.name = k
  | .subprocessRun .up path _, σ => path = runtimeConfigPathOf k ∧ Startable k σ
  | .subprocessRun .down path _, _ => path = runtimeConfigPathOf k
  | .firewallCaptureScope name _, _ | .firewallProbe name _ _, _ => name = k
  | .compareExchangeCommitted, _ => False
  | _, _ => True

/-- A quiet program may do less. -/
theorem Allowed.loud {k : Name} {quiet : Bool} {o : HelperCall} {σ : Tracked}
    (h : Allowed k quiet o σ) : Allowed k false o σ := by
  cases o with
  | writeRuntimeMarker name journal => exact ⟨h.1, h.2.1.loud, h.2.2⟩
  | removeAndSync area name => cases area <;> exact h
  | resolvedChange identity dns deadline => cases dns <;> exact h
  | subprocessRun command path deadline => cases command <;> exact h
  | _ => exact h

/-- Where an activation of `k` may issue an operation: it also commits. -/
def Committing (k : Name) (o : HelperCall) (σ : Tracked) : Prop :=
  Allowed k false o σ ∨ o = .compareExchangeCommitted

/-- What does not commit may be a part of what does. -/
theorem committing_of_allowed {k : Name} {α : Type} {p : HelperM α} {Q : α → Tracked → Prop}
    {σ : Tracked} (h : Safe tracked (Allowed k false) p Q σ) : Safe tracked (Committing k) p Q σ :=
  h.weaken fun _ _ => .inl

/-- Operations that touch no session and no saved profile: any program may issue them
anywhere. -/
def HelperCall.isPassive : HelperCall → Bool
  | writeRuntimeMarker .. | removeAndSync .runtime _ | removeAndSync .runtimeConfigs _
  | removeAndSync .config _ | renameStagingNoreplace .. | exchangeStagingConfig ..
  | atomicWrite .. | resolvconfApply .. | resolvconfRevert .. | resolvedChange ..
  | subprocessRun .up _ _ | subprocessRun .down _ _ | firewallCaptureScope .. | firewallProbe ..
  | compareExchangeCommitted => false
  | _ => true

theorem allowed_of_isPassive {k : Name} {quiet : Bool} {o : HelperCall} {σ : Tracked}
    (h : o.isPassive = true) : Allowed k quiet o σ := by
  cases o with
  | writeRuntimeMarker | atomicWrite | resolvconfApply | resolvconfRevert | resolvedChange
  | firewallCaptureScope | firewallProbe | compareExchangeCommitted | renameStagingNoreplace
  | exchangeStagingConfig => cases h
  | removeAndSync area name => cases area <;> trivial
  | subprocessRun command path deadline => cases command <;> trivial
  | _ => trivial

/-! ## What an operation leaves of the ledgers -/

/-- Operations that may put something into a ledger. -/
def HelperCall.isRecorded : HelperCall → Bool
  | writeRuntimeMarker .. | resolvconfApply .. | resolvedChange _ (some _) _
  | subprocessRun .up _ _ | firewallCaptureScope .. => true
  | _ => false

/-- Every other operation keeps every ledger. -/
theorem keeps_of_not_isRecorded {o : HelperCall} {σ σ' : Tracked} {r : o.Reply}
    (h : tracked o σ r σ') (ho : o.isRecorded = false) (n : Name) :
    (σ.2 n).Keeps (σ'.2 n) := by
  rw [show σ'.2 = σ.2.after ⟨o, σ.1, r, σ'.1⟩ from h.2]
  have hsome : ∀ {b c : Bool}, (b && c) = true → b = true := fun h => (Bool.and_eq_true_iff.mp h).1
  cases o with
  | writeRuntimeMarker | resolvconfApply | firewallCaptureScope => cases ho
  | resolvedChange identity dns deadline =>
    cases dns with
    | some dns => cases ho
    | none => exact keeps_after (fun _ => hsome) rfl
  | resolvconfRevert identity deadline => exact keeps_after (fun _ => hsome) rfl
  | subprocessRun command path deadline =>
    refine keeps_after (fun _ => id) ?_
    cases command with
    | up => cases ho
    | strip | down =>
      simp only [SessionLedger.observe]
      split
      · simp
      · rfl
  | linkObserve name token =>
    refine keeps_after (fun _ => id) ?_
    simp only [SessionLedger.observe]
    split <;> rfl
  | firewallProbe name scope deadline =>
    refine keeps_after (fun _ => id) ?_
    simp only [SessionLedger.observe]
    split <;> rfl
  | _ => exact keeps_after (fun _ => id) rfl

/-- A program about one session keeps the ledgers of all the others. -/
theorem keeps_of_ne {k n : Name} {quiet : Bool} {o : HelperCall} {σ σ' : Tracked} {r : o.Reply}
    (h : tracked o σ r σ') (ho : Allowed k quiet o σ) (hne : n ≠ k) :
    (σ.2 n).Keeps (σ'.2 n) := by
  by_cases hrecorded : o.isRecorded = false
  · exact keeps_of_not_isRecorded h hrecorded n
  rw [show σ'.2 = σ.2.after ⟨o, σ.1, r, σ'.1⟩ from h.2]
  cases o with
  | writeRuntimeMarker name journal =>
    refine keeps_after (fun _ => id) ?_
    rw [SessionLedger.observe, if_neg fun hn => hne (hn.1.symm.trans ho.1)]
  | resolvconfApply identity dns deadline =>
    refine keeps_after (fun token ht => ?_) rfl
    rcases Bool.or_eq_true_iff.mp ht with ht | ht
    · exact ht
    · rw [Bool.and_eq_true, beq_iff_eq] at ht
      exact absurd (ht.1.symm.trans ho.1) hne
  | resolvedChange identity dns deadline =>
    cases dns with
    | none => exact absurd rfl hrecorded
    | some dns =>
      refine keeps_after (fun token ht => ?_) rfl
      rcases Bool.or_eq_true_iff.mp ht with ht | ht
      · exact ht
      · rw [Bool.and_eq_true, Bool.and_eq_true, beq_iff_eq] at ht
        exact absurd (ht.1.1.symm.trans ho.1) hne
  | subprocessRun command path deadline =>
    cases command with
    | strip | down => exact absurd rfl hrecorded
    | up =>
      refine keeps_after (fun _ => id) ?_
      rw [SessionLedger.observe, if_neg]
      rw [ho.1]
      exact fun heq => hne (runtimeConfigPathOf_inj heq).symm
  | firewallCaptureScope name deadline =>
    refine keeps_after (fun _ => id) ?_
    rw [SessionLedger.observe, if_neg fun hn => hne (hn.symm.trans ho)]
  | _ => exact absurd rfl hrecorded

/-! ## Sessions no transaction has begun with -/

/-- In this command no transaction has captured a scope for the session or probed its
firewall. -/
def Ledger.Unbegun (l : Ledger) : Prop :=
  l.up = true → l.captured = 0 ∧ (l.evidence = .nothing ∨ l.evidence = .linkAbsent)

theorem unbegun_atBoot (l : Ledger) : l.atBoot.Unbegun := fun _ => ⟨rfl, .inl rfl⟩

/-- An event that begins nothing with a session. -/
theorem Ledger.Unbegun.after {n : Name} {l : Ledger} {e : HelperEvent} (h : l.Unbegun)
    (hkeeps : l.Keeps (l.after n e))
    (hevidence : (l.toSessionLedger.observe n e).evidence = l.evidence ∨
      (l.toSessionLedger.observe n e).evidence = .nothing ∨
      (l.toSessionLedger.observe n e).evidence = l.evidence.confirmed) :
    (l.after n e).Unbegun := by
  intro hup
  obtain ⟨hup', -, -, hcaptured, -⟩ := hkeeps.session hup
  obtain ⟨hzero, hl⟩ := h hup'
  have hafter := congrArg SessionLedger.evidence (session_of_up hup)
  have hsame : (l.after n e).evidence = (l.toSessionLedger.observe n e).evidence := hafter
  rw [hcaptured, hsame]
  refine ⟨hzero, ?_⟩
  rcases hevidence with heq | heq | heq
  · rw [heq]
    exact hl
  · exact .inl heq
  · rw [heq]
    rcases hl with hl | hl <;> rw [hl] <;> exact .inr rfl

/-- The evidence after a look at a link is nothing, or the link was absent. -/
theorem afterLink_cases (evidence : Evidence) (observation : Option LinkObservation) :
    evidence.afterLink observation = .nothing ∨
      evidence.afterLink observation = evidence.confirmed := by
  rw [Evidence.afterLink]
  split
  · exact .inr rfl
  · exact .inl rfl

/-- Passive operations, and those of a program about another session, begin nothing with a
session. -/
theorem unbegun_step {k n : Name} {quiet : Bool} {o : HelperCall} {σ σ' : Tracked} {r : o.Reply}
    (h : tracked o σ r σ') (ho : o.isPassive = true ∨ (Allowed k quiet o σ ∧ n ≠ k))
    (hn : (σ.2 n).Unbegun) : (σ'.2 n).Unbegun := by
  have hafter : σ'.2 n = (σ.2 n).after n ⟨o, σ.1, r, σ'.1⟩ := congrFun h.2 n
  have hkeeps : (σ.2 n).Keeps (σ'.2 n) := by
    rcases ho with ho | ⟨ho, hne⟩
    · refine keeps_of_not_isRecorded h ?_ n
      cases o with
      | subprocessRun command path deadline => cases command <;> first | rfl | cases ho
      | writeRuntimeMarker | resolvconfApply | resolvedChange | firewallCaptureScope => cases ho
      | _ => rfl
    · exact keeps_of_ne h ho hne
  rw [hafter] at hkeeps ⊢
  refine hn.after hkeeps ?_
  cases o with
  | subprocessRun command path deadline =>
    rw [SessionLedger.observe]
    split
    · exact .inr (.inl rfl)
    · exact .inl rfl
  | writeRuntimeMarker name journal =>
    rw [SessionLedger.observe]
    split <;> exact .inl rfl
  | firewallCaptureScope name deadline =>
    rw [SessionLedger.observe]
    split <;> exact .inl rfl
  | linkObserve name token =>
    rw [SessionLedger.observe]
    split
    · exact .inr (afterLink_cases _ _)
    · exact .inl rfl
  | firewallProbe name scope deadline =>
    rcases ho with ho | ⟨ho, hne⟩
    · cases ho
    · rw [SessionLedger.observe, if_neg fun heq => hne (heq.symm.trans ho)]
      exact .inl rfl
  | _ => exact .inl rfl

/-! ## The invariant -/

/-- The disk accounts for what the ledger of `n` says. -/
structure Accounted (n : Name) (w : World) (l : Ledger) : Prop where
  carried : ∀ token, l.mayCarry token = true →
    ∃ marker, w.marker n = some marker ∧ marker.linkToken = token ∧ marker.dnsState ≠ .absent
  session : l.up = true → ∃ marker, w.marker n = some marker ∧ marker.linkToken = l.token ∧
    marker.firewallScope = l.recorded ∧ (marker.state = .cleanupComplete →
      ∃ scope, l.completed = some scope ∧ scopeWithin l.recorded scope)

/-- The disk accounts for all ledgers. -/
def AllAccounted (σ : Tracked) : Prop := ∀ n, Accounted n σ.1 (σ.2 n)

theorem allAccounted_empty (w : World) : AllAccounted (w, Ledgers.empty) := by
  intro n
  exact ⟨fun _ ht => (Bool.false_ne_true ht).elim, fun hup => (Bool.false_ne_true hup).elim⟩

theorem Accounted.keeps {n : Name} {w w' : World} {l l' : Ledger} (h : Accounted n w l)
    (hl : l.Keeps l') (hw : w'.marker n = w.marker n) : Accounted n w' l' where
  carried := by
    intro token ht
    rw [hw]
    exact h.carried token (hl.carried token ht)
  session := by
    intro hup
    obtain ⟨hup, htoken, hrecorded, -, hcompleted⟩ := hl.session hup
    rw [hw, htoken, hrecorded, hcompleted]
    exact h.session hup

/-- Where there is no marker, nothing was promised and nothing has to be accounted for. -/
theorem Accounted.of_missing {n : Name} {w w' : World} {l l' : Ledger} (h : Accounted n w l)
    (hl : l.Keeps l') (hw : w.marker n = none) : Accounted n w' l' where
  carried := by
    intro token ht
    obtain ⟨marker, hmarker, -⟩ := h.carried token (hl.carried token ht)
    rw [hw] at hmarker
    cases hmarker
  session := by
    intro hup
    obtain ⟨marker, hmarker, -⟩ := h.session (hl.session hup).1
    rw [hw] at hmarker
    cases hmarker

/-- A marker that reached the disk, faithful and certified, accounts for the ledger. -/
theorem accounted_of_landed {n : Name} {quiet : Bool} {l : Ledger} {journal : RuntimeMarker}
    {w w' : World} {r : Bool} (hf : Faithful quiet journal l) (hc : Certified journal l)
    (hlanded : w'.marker n = some journal) :
    Accounted n w' (l.after n ⟨.writeRuntimeMarker n journal, w, r, w'⟩) where
  carried := by
    intro token ht
    obtain ⟨rfl, hpresent⟩ := hf.carried token ht
    exact ⟨journal, hlanded, rfl, hpresent⟩
  session := by
    intro hup
    have hafter := session_of_up hup
    rw [SessionLedger.observe, if_pos ⟨rfl, hlanded⟩] at hafter
    have hfields := SessionLedger.mk.inj hafter
    have hup' : l.up = true := hfields.1.symm.trans hup
    have hrecorded : l.recorded ||| journal.firewallScope = journal.firewallScope :=
      hf.recorded hup'
    refine ⟨journal, hlanded, hfields.2.1.symm, ?_, fun hcomplete => ?_⟩
    · exact (hfields.2.2.1.trans hrecorded).symm
    · obtain ⟨scope, hscope, hwithin⟩ := hc hup' hcomplete
      refine ⟨scope, ?_, ?_⟩
      · exact hfields.2.2.2.2.2.1.trans ((if_pos hcomplete).trans hscope)
      · rw [show (l.after n ⟨.writeRuntimeMarker n journal, w, r, w'⟩).recorded = _ from
          hfields.2.2.1, hrecorded]
        exact hwithin

/-- A write of a marker that did not reach the disk keeps the ledger. -/
theorem keeps_of_not_landed {n : Name} {l : Ledger} {journal : RuntimeMarker} {w w' : World}
    {r : Bool} (hlanded : w'.marker n ≠ some journal) :
    l.Keeps (l.after n ⟨.writeRuntimeMarker n journal, w, r, w'⟩) := by
  refine keeps_after (fun _ => id) ?_
  rw [SessionLedger.observe, if_neg fun h => hlanded h.2]

/-- Where the file of a name did not change, its marker did not. -/
theorem marker_of_files {n : Name} {w w' : World} (h : w'.files .runtime = w.files .runtime) :
    w'.marker n = w.marker n := by
  rw [World.marker, World.marker, h]

/-- A write of a marker leaves the marker of any other name, or there was none. -/
theorem marker_of_write_ne {k n : Name} {journal : RuntimeMarker} {w w' : World} {r : Bool}
    (h : behaves (.writeRuntimeMarker k journal) w r w') (hne : n ≠ k) :
    w'.marker n = w.marker n ∨ w.marker n = none := by
  simp only [behaves, HelperCall.Outcome] at h
  split at h
  · exact .inl (by rw [h.2])
  · cases h with
    | written | unconfirmed => exact .inl (marker_setFile_ne (.inr hne))
    | abandoned => exact .inl rfl
    | leftOver tempName written htemp hfresh =>
      by_cases hn : n = tempName
      · right
        rw [World.marker, hn, hfresh]
        rfl
      · exact .inl (marker_setFile_ne (.inr hn))

/-- Allowed operations leave the runtime directory alone, or they are one of the two that a
session's marker is changed by. -/
theorem changesRuntime_of_allowed {k : Name} {quiet : Bool} {o : HelperCall} {σ : Tracked}
    (h : Allowed k quiet o σ) : o.changesArea .runtime = false ∨
      (∃ journal, o = .writeRuntimeMarker k journal) ∨ o = .removeAndSync .runtime k := by
  cases o with
  | writeRuntimeMarker name journal => exact .inr (.inl ⟨journal, by rw [h.1]⟩)
  | removeAndSync area name =>
    cases area with
    | runtime => exact .inr (.inr (by rw [h.1]))
    | config | staging | runtimeConfigs => exact .inl rfl
  | atomicWrite area file contents mode =>
    left
    rw [h.1]
    rfl
  | _ => exact .inl rfl

/-- A removal leaves the marker or its name is free. -/
theorem marker_of_removal {n : Name} {w w' : World} {r : Bool}
    (h : Removal w .runtime n r w') : w'.files .runtime n = none ∨ w'.marker n = w.marker n := by
  cases h with
  | removed | unsynced => exact .inl (files_setFile_self w .runtime n none)
  | kept => exact .inr rfl

/-- A configuration that goes into the resolver is announced by the marker on disk. -/
theorem Accounted.applied {n : Name} {w w' : World} {l l' : Ledger} {token : Bytes}
    (h : Accounted n w l) (hw : w'.marker n = w.marker n)
    (hcarry : ∀ t, l'.mayCarry t = true → l.mayCarry t = true ∨ token = t)
    (hannounced : ∃ marker, w.marker n = some marker ∧ marker.linkToken = token ∧
      marker.dnsState ≠ .absent)
    (hsession : l'.up = true → l.up = true ∧ l'.token = l.token ∧ l'.recorded = l.recorded ∧
      l'.captured = l.captured ∧ l'.completed = l.completed) : Accounted n w' l' where
  carried := by
    intro t ht
    rw [hw]
    rcases hcarry t ht with ht | rfl
    · exact h.carried t ht
    · exact hannounced
  session := by
    intro hup
    obtain ⟨hup, htoken, hrecorded, -, hcompleted⟩ := hsession hup
    rw [hw, htoken, hrecorded, hcompleted]
    exact h.session hup

/-- An event that the session's ledger does not observe leaves it as it was. -/
theorem session_of_unobserved {n : Name} {l : Ledger} {e : HelperEvent}
    (hobserve : l.toSessionLedger.observe n e = l.toSessionLedger)
    (hup : (l.after n e).up = true) :
    l.up = true ∧ (l.after n e).token = l.token ∧ (l.after n e).recorded = l.recorded ∧
      (l.after n e).captured = l.captured ∧ (l.after n e).completed = l.completed := by
  have hafter := session_of_up hup
  rw [hobserve] at hafter
  have hfields := SessionLedger.mk.inj hafter
  exact ⟨hfields.1.symm.trans hup, hfields.2.1, hfields.2.2.1, hfields.2.2.2.1,
    hfields.2.2.2.2.2.1⟩

/-- A run of `awg-quick up` that is allowed is accounted for by the marker it found. -/
theorem accounted_of_up {n : Name} {σ : Tracked} {w' : World} {path : Bytes} {deadline : ℤ}
    {child : SubprocessResult} (h : Accounted n σ.1 (σ.2 n)) (hstart : Startable n σ)
    (hw : w'.marker n = σ.1.marker n) :
    Accounted n w' ((σ.2 n).after n ⟨.subprocessRun .up path deadline, σ.1, child, w'⟩) where
  carried := by
    rw [hw]
    exact h.carried
  session := by
    intro hup
    have hafter := session_of_up hup
    obtain ⟨marker, hmarker, htoken, hscope, hstate⟩ := hstart
    refine ⟨marker, hw.trans hmarker, ?_, ?_, fun hcomplete => absurd hcomplete hstate⟩
    · rw [htoken, show ((σ.2 n).after n _).token = _ from congrArg SessionLedger.token hafter,
        SessionLedger.observe]
      split <;> rfl
    · rw [hscope, show ((σ.2 n).after n _).recorded = _ from
        congrArg SessionLedger.recorded hafter, SessionLedger.observe]
      split <;> rfl

/-- Operations issued where they are allowed keep the invariant. -/
theorem allAccounted_step {k : Name} {quiet : Bool} (hk : nameIsValid k = true) {o : HelperCall}
    {σ σ' : Tracked} {r : o.Reply} (ho : Allowed k quiet o σ) (hσ : AllAccounted σ)
    (h : tracked o σ r σ') : AllAccounted σ' := by
  intro n
  have hn := hσ n
  by_cases hne : n ≠ k
  · -- another session: its ledger is kept, and so is its marker
    have hkeeps := keeps_of_ne h ho hne
    rcases changesRuntime_of_allowed ho with hruntime | ⟨journal, rfl⟩ | rfl
    · exact hn.keeps hkeeps (marker_of_files (files_of_behaves h.1 hruntime))
    · rcases marker_of_write_ne h.1 hne with hmarker | hmarker
      · exact hn.keeps hkeeps hmarker
      · exact hn.of_missing hkeeps hmarker
    · refine hn.keeps hkeeps ?_
      have hb : Removal σ.1 .runtime k r σ'.1 := h.1
      generalize σ'.1 = w' at hb
      cases hb with
      | removed | unsynced => exact marker_setFile_ne (.inr hne)
      | kept => rfl
  obtain rfl := not_not.mp hne
  have hafter : σ'.2 n = (σ.2 n).after n ⟨o, σ.1, r, σ'.1⟩ := congrFun h.2 n
  rcases changesRuntime_of_allowed ho with hruntime | ⟨journal, rfl⟩ | rfl
  · have hmarker := marker_of_files (n := n) (files_of_behaves h.1 hruntime)
    by_cases hrecorded : o.isRecorded = false
    · exact hn.keeps (keeps_of_not_isRecorded h hrecorded n) hmarker
    rw [hafter]
    cases o with
    | resolvconfApply identity dns deadline =>
      obtain ⟨rfl, hannounced⟩ := ho
      refine hn.applied hmarker (fun t ht => ?_) hannounced (session_of_unobserved rfl)
      refine (Bool.or_eq_true_iff.mp ht).imp id fun ht => ?_
      exact beq_iff_eq.mp (Bool.and_eq_true_iff.mp ht).2
    | resolvedChange identity dns deadline =>
      cases dns with
      | none => exact absurd rfl hrecorded
      | some dns =>
        obtain ⟨rfl, hannounced⟩ := ho
        refine hn.applied hmarker (fun t ht => ?_) hannounced (session_of_unobserved rfl)
        refine (Bool.or_eq_true_iff.mp ht).imp id fun ht => ?_
        exact beq_iff_eq.mp (Bool.and_eq_true_iff.mp (Bool.and_eq_true_iff.mp ht).1).2
    | subprocessRun command path deadline =>
      cases command with
      | up => exact accounted_of_up hn ho.2 hmarker
      | strip | down => exact absurd rfl hrecorded
    | firewallCaptureScope name deadline =>
      obtain rfl : name = n := ho
      refine ⟨hmarker ▸ hn.carried, fun hup => ?_⟩
      have hafter := session_of_up hup
      rw [SessionLedger.observe, if_pos rfl] at hafter
      have hfields := SessionLedger.mk.inj hafter
      rw [hmarker, show ((σ.2 name).after name _).token = _ from hfields.2.1,
        show ((σ.2 name).after name _).recorded = _ from hfields.2.2.1,
        show ((σ.2 name).after name _).completed = _ from hfields.2.2.2.2.2.1]
      exact hn.session (hfields.1.symm.trans hup)
    | writeRuntimeMarker => cases hruntime
    | _ => exact absurd rfl hrecorded
  · obtain ⟨-, hf, hc⟩ := ho
    rw [hafter]
    by_cases hlanded : σ'.1.marker n = some journal
    · exact accounted_of_landed hf hc hlanded
    · obtain ⟨-, hold, -⟩ := outcome_writeRuntimeMarker h.1 (not_isTempName_of_nameIsValid hk)
      refine hn.keeps (keeps_of_not_landed hlanded) ?_
      rw [World.marker, World.marker, hold.resolve_left hlanded]
  · have hkeeps := keeps_of_not_isRecorded h rfl n
    rcases marker_of_removal h.1 with hgone | hmarker
    · -- the marker is gone, and with it the session; nothing of it was in the resolver
      refine ⟨fun token ht => ?_, fun hup => ?_⟩
      · have hcarried := hkeeps.carried token ht
        rw [ho.2.notCarried token] at hcarried
        cases hcarried
      · rw [hafter] at hup
        exact absurd hgone (present_of_up hup)
    · exact hn.keeps hkeeps hmarker

end NmSidebar
