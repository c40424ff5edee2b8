import NmSidebar.Helper.Calm

/-!
# Admission of a switch

The phases of `awg_helper_switch_up` over any behaviour of the functions it calls, and the
agreement of the check before a switch with the gate of the disconnection.
-/

namespace NmSidebar

open Text Effects

/-! ## The phases -/

/-- What a switch has come to, computed from the calls it has made. -/
structure SwitchLedger where
  /-- The previous sessions, once they are listed. -/
  previous : Option RuntimeNames
  /-- The target is prepared. -/
  prepared : Bool
  /-- The sessions whose check succeeded. -/
  checked : List Name
  /-- The sessions that were disconnected, or tried to be. -/
  entered : List Name
  /-- The sessions whose disconnection succeeded. -/
  left : List Name
  /-- The last listing since the last disconnection found nothing. -/
  emptied : Bool
  /-- The failure of a previous session. -/
  failure : Option HelperExit

/-- Nothing was called. -/
def SwitchLedger.empty : SwitchLedger := ⟨none, false, [], [], [], false, none⟩

/-- The ledger after a call. -/
def SwitchLedger.after {W : Type} (l : SwitchLedger) : Event switchSig W → SwitchLedger
  | ⟨.listRuntimeNames _, _, .ok names, _⟩ =>
    match l.previous with
    | none => { l with previous := some names }
    | some _ =>
      if names.names = [] then { l with emptied := true }
      else { l with failure := some .runtimeFailed }
  | ⟨.listRuntimeNames _, _, .error failure, _⟩ => { l with failure := some failure }
  | ⟨.prepareUp _ _, _, .ok _, _⟩ => { l with prepared := true }
  | ⟨.checkDown name _, _, result, _⟩ =>
    if result = .success then { l with checked := l.checked ++ [name] }
    else { l with failure := some result }
  | ⟨.down name _ _ _, _, result, _⟩ =>
    let l := { l with entered := l.entered ++ [name], emptied := false }
    if result = .success then { l with left := l.left ++ [name] }
    else { l with failure := some result }
  | ⟨.runtimeState _, _, .error failure, _⟩ =>
    if failure = .success then l else { l with failure := some failure }
  | ⟨.runtimeState _, _, .ok state, _⟩ =>
    if state.marker.isSome ∨ state.interface then { l with failure := some .runtimeFailed } else l
  | _ => l

/-- The sessions that the ledger has entered are the first ones of its list. -/
def SwitchLedger.Prefix (l : SwitchLedger) : Prop :=
  match l.previous with
  | none => l.entered = []
  | some previous => l.entered <+: previous.names

/-- Where a switch may call its functions: a disconnection is the next one of the listed sessions,
all of them checked and the target prepared; the activation comes when all of them are
disconnected and a fresh listing found nothing. -/
def SwitchCall.InOrder (o : SwitchCall) (l : SwitchLedger) : Prop :=
  match o with
  | .down name .. => ∃ previous, l.previous = some previous ∧ l.prepared = true ∧
      l.checked = previous.names ∧ l.left = l.entered ∧ l.entered ++ [name] <+: previous.names
  | .activate .. => ∃ previous, l.previous = some previous ∧ l.left = previous.names ∧
      l.emptied = true
  | _ => True

/-- The failure of a previous session as it is reported. -/
def Reported (result : HelperExit) (l : SwitchLedger) : Prop :=
  ∀ failure, l.failure = some failure → result = previousSessionFailure failure

section Phases

variable {W : Type} {B : Behaviour switchSig W}

/-- The calls of a switch with its ledger. -/
abbrev followed (B : Behaviour switchSig W) : Behaviour switchSig (W × SwitchLedger) :=
  B.monitor SwitchLedger.after

/-- A program of the switch that keeps the order. -/
abbrev Ordered {α : Type} (B : Behaviour switchSig W) (p : SwitchM α)
    (Q : α → SwitchLedger → Prop) (s : W × SwitchLedger) : Prop :=
  Safe (followed B) (fun o s => o.InOrder s.2) p (fun a s => Q a s.2) s

/-- A call, and what follows it. -/
theorem ordered_call {α : Type} {o : SwitchCall} {f : o.Reply → SwitchM α}
    {Q : α → SwitchLedger → Prop} {s : W × SwitchLedger} (ho : o.InOrder s.2)
    (hf : ∀ (r : o.Reply) (w w' : W), Ordered B (f r) Q (w', s.2.after ⟨o, w, r, w'⟩)) :
    Ordered B (invoke o >>= f) Q s := by
  refine safe_bind.mpr (safe_request.mpr ⟨ho, fun r s' h => ?_⟩)
  have hs : s' = (s'.1, s.2.after ⟨o, s.1, r, s'.1⟩) := Prod.ext rfl h.2
  rw [hs]
  exact hf r s.1 s'.1

variable {previous : RuntimeNames} {deadlines : Deadlines} {w : W} {l : SwitchLedger}

/-- The checks go through the listed sessions in their order. -/
theorem ordered_checkAll (names : List Name) (hl : l.failure = none) :
    Ordered B (checkAll deadlines names)
      (fun result l' => (result = .success → l' = { l with checked := l.checked ++ names }) ∧
        (result ≠ .success → l'.failure = some result)) (w, l) := by
  induction names generalizing w l with
  | nil => exact ⟨fun _ => by simp, fun h => absurd rfl h⟩
  | cons name rest ih =>
    refine ordered_call trivial fun result w₁ w₂ => ?_
    dsimp only [SwitchLedger.after]
    by_cases hresult : result = .success
    · rw [if_pos hresult, if_neg (by simp [hresult])]
      refine (ih (l := { l with checked := l.checked ++ [name] }) hl).mono fun result' s h => ?_
      refine ⟨fun hs => ?_, h.2⟩
      rw [h.1 hs]
      simp
    · rw [if_neg hresult, if_pos hresult]
      exact ⟨fun h => absurd h hresult, fun _ => rfl⟩

/-- The next session in order is disconnected. -/
theorem ordered_disconnectPrevious {name : Name} (hl : l.failure = none)
    (hprevious : l.previous = some previous) (hprepared : l.prepared = true)
    (hchecked : l.checked = previous.names) (hleft : l.left = l.entered)
    (hnext : l.entered ++ [name] <+: previous.names) :
    Ordered B (disconnectPrevious name deadlines)
      (fun result l' => (result = .success →
          l' = { l with entered := l.entered ++ [name], left := l.left ++ [name],
                        emptied := false }) ∧
        (result ≠ .success → ∀ failure, l'.failure = some failure → result = failure)) (w, l) := by
  have hnone : ∀ {result : HelperExit} {l' : SwitchLedger}, l'.failure = none →
      ∀ failure, l'.failure = some failure → result = failure := by
    intro result l' hnone failure hsome
    rw [hnone] at hsome
    cases hsome
  have hsome : ∀ {result failure : HelperExit}, some result = some failure → result = failure :=
    Option.some.inj
  refine ordered_call trivial fun stop w₁ w₂ => ?_
  dsimp only [SwitchLedger.after]
  split
  · exact ⟨fun h => absurd h ‹_›, fun _ => hnone hl⟩
  split
  · exact ⟨fun h => HelperExit.noConfusion h, fun _ => hnone hl⟩
  · exact ⟨fun h => HelperExit.noConfusion h, fun _ => hnone hl⟩
  refine ordered_call ⟨previous, hprevious, hprepared, hchecked, hleft, hnext⟩
    fun result w₃ w₄ => ?_
  dsimp only [SwitchLedger.after]
  by_cases hresult : result = .success
  · rw [if_pos hresult, if_neg (by simp [hresult])]
    refine ordered_call trivial fun stop w₅ w₆ => ?_
    dsimp only [SwitchLedger.after]
    split
    · exact ⟨fun h => absurd h ‹_›, fun _ => hnone hl⟩
    refine ordered_call trivial fun seen w₇ w₈ => ?_
    cases seen with
    | error failure =>
      dsimp only [SwitchLedger.after]
      by_cases hfailure : failure = .success
      · rw [if_pos hfailure]
        exact ⟨fun _ => rfl, fun h => absurd hfailure h⟩
      · rw [if_neg hfailure]
        exact ⟨fun h => absurd h hfailure, fun _ _ => hsome⟩
    | ok state =>
      dsimp only [SwitchLedger.after]
      split
      · exact ⟨fun h => HelperExit.noConfusion h, fun _ _ => hsome⟩
      · exact ⟨fun _ => rfl, fun h => absurd rfl h⟩
  · rw [if_neg hresult, if_pos hresult]
    exact ⟨fun h => absurd h hresult, fun _ _ => hsome⟩

/-- The disconnections go through the listed sessions in their order. -/
theorem ordered_disconnectAll (names : List Name) (hl : l.failure = none)
    (hprevious : l.previous = some previous) (hprepared : l.prepared = true)
    (hchecked : l.checked = previous.names) (hleft : l.left = l.entered)
    (hnames : l.entered ++ names = previous.names) :
    Ordered B (disconnectAll deadlines names)
      (fun result l' => (result = .success → l'.previous = some previous ∧
          l'.left = previous.names ∧ l'.failure = none) ∧
        (result ≠ .success → ∀ failure, l'.failure = some failure → result = failure)) (w, l) := by
  induction names generalizing w l with
  | nil =>
    refine ⟨fun _ => ⟨hprevious, ?_, hl⟩, fun h => absurd rfl h⟩
    rw [hleft, ← hnames, List.append_nil]
  | cons name rest ih =>
    have hnext : l.entered ++ [name] <+: previous.names :=
      ⟨rest, by rw [← hnames, List.append_assoc, List.singleton_append]⟩
    refine (ordered_disconnectPrevious hl hprevious hprepared hchecked hleft hnext).bind ?_
    rintro result ⟨w', l'⟩ ⟨hdone, hfailed⟩
    by_cases hresult : result = .success
    · rw [if_neg (by simp [hresult])]
      obtain rfl := hdone hresult
      refine ih hl hprevious hprepared hchecked ?_ ?_
      · rw [hleft]
      · rw [← hnames, List.append_assoc, List.singleton_append]
    · rw [if_pos hresult]
      exact ⟨fun h => absurd h hresult, hfailed⟩

/-- A failure of a previous session that is recorded is the one reported. -/
theorem reported_of_eq {result : HelperExit}
    (h : ∀ failure, l.failure = some failure → result = failure) :
    Reported (previousSessionFailure result) l := by
  intro failure hfailure
  rw [h failure hfailure]

theorem reported_of_none {result : HelperExit} (h : l.failure = none) : Reported result l := by
  intro failure hfailure
  rw [h] at hfailure
  cases hfailure

/-- The target is activated after the last look at the runtime directory. -/
theorem ordered_switchTarget (activation : Activation) (hl : l.failure = none)
    (hprevious : l.previous = some previous) (hleft : l.left = previous.names) :
    Ordered B (switchTarget activation deadlines) (fun result l' => Reported result l') (w, l) := by
  refine ordered_call trivial fun remaining w₁ w₂ => ?_
  cases remaining with
  | error failure => exact reported_of_eq fun _ => Option.some.inj
  | ok remaining =>
    dsimp only [SwitchLedger.after]
    rw [hprevious]
    dsimp only
    by_cases hremaining : remaining.names = []
    · rw [if_pos hremaining, if_neg (by simp [hremaining])]
      refine ordered_call trivial fun stop w₃ w₄ => ?_
      dsimp only [SwitchLedger.after]
      split
      · exact reported_of_none hl
      · refine safe_request.mpr ⟨⟨previous, rfl, hleft, rfl⟩, fun result s' h => ?_⟩
        rw [h.2]
        exact reported_of_none hl
    · rw [if_neg hremaining, if_pos hremaining]
      exact reported_of_eq fun _ => Option.some.inj

/-- A switch with its list and its prepared target. -/
theorem ordered_switchPrevious (activation : Activation) (hl : l.failure = none)
    (hprevious : l.previous = some previous) (hprepared : l.prepared = true)
    (hchecked : l.checked = []) (hentered : l.entered = []) (hleft : l.left = []) :
    Ordered B (switchPrevious previous.names activation deadlines)
      (fun result l' => Reported result l') (w, l) := by
  refine (ordered_checkAll previous.names hl).bind ?_
  rintro admitted ⟨w', l'⟩ ⟨hdone, hfailed⟩
  by_cases hadmitted : admitted = .success
  · rw [if_neg (by simp [hadmitted])]
    obtain rfl := hdone hadmitted
    have hchecked' : l.checked ++ previous.names = previous.names := by
      rw [hchecked, List.nil_append]
    refine Safe.bind (ordered_disconnectAll (l := { l with checked := l.checked ++ previous.names })
      previous.names hl hprevious hprepared hchecked' ?_ ?_) ?_
    · exact hleft.trans hentered.symm
    · show l.entered ++ previous.names = previous.names
      rw [hentered, List.nil_append]
    · rintro disconnected ⟨w₂, l₂⟩ ⟨hleft₂, hfailed₂⟩
      by_cases hdisconnected : disconnected = .success
      · rw [if_neg (by simp [hdisconnected])]
        obtain ⟨hprevious₂, hall, hl₂⟩ := hleft₂ hdisconnected
        exact ordered_switchTarget activation hl₂ hprevious₂ hall
      · rw [if_pos hdisconnected]
        exact reported_of_eq (hfailed₂ hdisconnected)
  · rw [if_pos hadmitted]
    refine reported_of_eq fun failure hfailure => ?_
    rw [hfailed hadmitted] at hfailure
    exact Option.some.inj hfailure

/-- The whole switch. -/
theorem ordered_switchProgram (name : Name) :
    Ordered B (switchProgram name deadlines) (fun result l' => Reported result l')
      (w, SwitchLedger.empty) := by
  unfold switchProgram
  split
  · exact reported_of_none rfl
  refine ordered_call trivial fun listed w₁ w₂ => ?_
  cases listed with
  | error failure => exact reported_of_eq fun _ => Option.some.inj
  | ok previous =>
    refine ordered_call trivial fun prepared w₃ w₄ => ?_
    cases prepared with
    | error failure => exact reported_of_none rfl
    | ok activation =>
      exact ordered_switchPrevious activation rfl rfl rfl rfl rfl rfl

/-- One call keeps the disconnected sessions a prefix of the list. -/
theorem prefix_after {o : SwitchCall} {s s' : W × SwitchLedger} {r : o.Reply}
    (ho : o.InOrder s.2) (hl : s.2.Prefix) (hb : followed B o s r s') : s'.2.Prefix := by
  rw [hb.2]
  cases o with
  | down name configName snapshotPath deadlines =>
    obtain ⟨previous, hprevious, -, -, -, hnext⟩ := ho
    simp only [SwitchLedger.after]
    split <;> simpa only [SwitchLedger.Prefix, hprevious] using hnext
  | listRuntimeNames deadline =>
    cases r with
    | error failure => exact hl
    | ok names =>
      simp only [SwitchLedger.after]
      split
      · -- the first listing: nothing is disconnected yet
        rename_i hnone
        have hentered : s.2.entered = [] := by simpa only [SwitchLedger.Prefix, hnone] using hl
        simp only [SwitchLedger.Prefix, hentered, List.nil_prefix]
      · split <;> exact hl
  | prepareUp name deadline => cases r <;> exact hl
  | checkDown name deadline =>
    simp only [SwitchLedger.after]
    split <;> exact hl
  | phaseStop deadline => exact hl
  | runtimeState name =>
    cases r <;> simp only [SwitchLedger.after] <;> split <;> exact hl
  | activate activation deadlines => exact hl

end Phases

/-! ## What the check and the gate see

The check before a switch and the gate of the disconnection read the same things. -/

/-- What they read, while it does not change: the marker, the session's links for a token, and the
helper's files. -/
structure Sight where
  marker : Name → MarkerRead
  link : Name → Option Bytes → Option LinkObservation
  contents : StorageArea → Name → ℕ → Option Bytes
  state : StorageArea → Name → EntryState

/-- The reply is the one of this sight, before the deadline and with no termination requested. -/
def Sight.agrees (sight : Sight) (deadline : ℤ) : (o : HelperCall) → o.Reply → Bool
  | .terminationRequested, stopped => !stopped
  | .monotonicMsec, now => decide (0 ≤ now ∧ now < deadline)
  | .readRuntimeMarker name, read => decide (read = sight.marker name)
  | .linkObserve name token, reply => decide (observationOf reply = sight.link name token)
  | .readSecureFile area name _ size, contents => decide (contents = sight.contents area name size)
  | .secureFileState area name _, state => decide (state = sight.state area name)
  | _, _ => true

/-- The write of a marker failed. -/
def failedWrite : (o : HelperCall) → o.Reply → Bool
  | .writeRuntimeMarker _ _, written => !written
  | _, _ => false

/-- What `awg_helper_session_runtime_state` makes of a sight. -/
def Sight.sessionState (sight : Sight) (name : Name) : Except HelperExit SessionState :=
  match sight.marker name with
  | .missing => runtimeStateOf .missing (sight.link name none)
  | .invalid => runtimeStateOf .invalid none
  | .valid parsed => runtimeStateOf (.valid parsed) (sight.link name (some parsed.marker.linkToken))

/-- What `load_runtime_dns` makes of a sight. -/
def Sight.runtimeDns (sight : Sight) (name : Name) : Option DnsConfig :=
  (storageMakeDnsFilename name).bind fun dnsName =>
    (sight.contents .runtimeConfigs dnsName maxDnsPayload).bind dnsConfigParse

/-- What the check of the runtime files makes of a sight. -/
def Sight.runtimeFiles (sight : Sight) (name configName : Name) (dnsBackend : DnsBackend) :
    Option DnsConfig :=
  (sight.runtimeDns name).filter fun dns =>
    decide (sight.state .runtimeConfigs configName = .valid) &&
      !(decide (dnsBackend = .none) != !dnsConfigPresent dns)

section Gate

variable {W : Type} {B : Behaviour helperSig W} {sight : Sight} {name configName : Name}
  {deadline : ℤ} {w : W}

/-- Nothing is asked of where an operation is issued. -/
abbrev Seen {α : Type} (B : Behaviour helperSig W) (p : HelperM α) (Q : α → Prop) (w : W) : Prop :=
  Safe B (fun _ _ => True) p (fun a _ => Q a) w

variable (hB : ∀ o w r w', B o w r w' → sight.agrees deadline o r = true)

include hB

theorem seen_phaseStopStatus : Seen B (phaseStopStatus deadline) (fun r => r = .success) w := by
  refine safe_bind.mpr (safe_request.mpr ⟨trivial, fun stopped w₁ h₁ => ?_⟩)
  have hstopped : stopped = false := by simpa [Sight.agrees] using hB _ _ _ _ h₁
  rw [hstopped]
  refine safe_bind.mpr (safe_request.mpr ⟨trivial, fun now w₂ h₂ => ?_⟩)
  have hnow : 0 ≤ now ∧ now < deadline := of_decide_eq_true (hB _ _ _ _ h₂)
  exact if_neg (not_or.mpr ⟨not_lt.mpr hnow.1, not_le.mpr hnow.2⟩)

theorem seen_sessionRuntimeState :
    Seen B (sessionRuntimeState name) (fun r => r = sight.sessionState name) w := by
  refine safe_bind.mpr (safe_request.mpr ⟨trivial, fun read w₁ h₁ => ?_⟩)
  have hread : read = sight.marker name := of_decide_eq_true (hB _ _ _ _ h₁)
  unfold Sight.sessionState
  rw [← hread]
  cases read with
  | invalid => rfl
  | missing =>
    refine safe_bind.mpr (safe_request.mpr ⟨trivial, fun reply w₂ h₂ => ?_⟩)
    have hreply : observationOf reply = sight.link name none := of_decide_eq_true (hB _ _ _ _ h₂)
    exact congrArg (runtimeStateOf .missing) hreply
  | valid parsed =>
    refine safe_bind.mpr (safe_request.mpr ⟨trivial, fun reply w₂ h₂ => ?_⟩)
    have hreply : observationOf reply = sight.link name (some parsed.marker.linkToken) :=
      of_decide_eq_true (hB _ _ _ _ h₂)
    exact congrArg (runtimeStateOf (.valid parsed)) hreply

theorem seen_loadRuntimeDns :
    Seen B (loadRuntimeDns name) (fun dns => dns = sight.runtimeDns name) w := by
  unfold loadRuntimeDns Sight.runtimeDns
  cases storageMakeDnsFilename name with
  | none => rfl
  | some dnsName =>
    refine safe_bind.mpr (safe_request.mpr ⟨trivial, fun contents w₁ h₁ => ?_⟩)
    have hcontents : contents = sight.contents .runtimeConfigs dnsName maxDnsPayload :=
      of_decide_eq_true (hB _ _ _ _ h₁)
    rw [Option.bind_some, ← hcontents]
    cases contents <;> rfl

theorem seen_checkRuntimeFiles (journal : RuntimeMarker) :
    Seen B (checkRuntimeFiles name configName journal)
      (fun dns => dns = sight.runtimeFiles name configName journal.dnsBackend) w := by
  refine (seen_loadRuntimeDns hB).bind fun loaded w₁ hloaded => ?_
  unfold Sight.runtimeFiles
  rw [← hloaded]
  cases loaded with
  | none => rfl
  | some dns =>
    refine safe_bind.mpr (safe_request.mpr ⟨trivial, fun state w₂ h₂ => ?_⟩)
    have hstate : state = sight.state .runtimeConfigs configName :=
      of_decide_eq_true (hB _ _ _ _ h₂)
    rw [← hstate]
    split
    · rename_i hrefused
      show none = Option.filter _ (some dns)
      rw [Option.filter_some, if_neg]
      rcases hrefused with h | h <;> simp [h]
    · rename_i haccepted
      show some dns = Option.filter _ (some dns)
      rw [Option.filter_some, if_pos]
      simpa using haccepted

omit hB in
/-- The check's own refusals are not successes. -/
theorem checkDownGate_failure {state : SessionState} {failure : HelperExit}
    (h : checkDownGate state = .error failure) : failure ≠ .success := by
  unfold checkDownGate at h
  split at h
  · split at h <;> cases h
    simp
  · split at h
    · split at h <;> cases h
      simp
    · split at h <;> cases h
      simp

/-- What a check that succeeds has found. -/
theorem seen_tunnelCheckDown (hconfig : storageMakeConfigFilename name = some configName) :
    Seen B (tunnelCheckDown name deadline)
      (fun result => result = .success → ∃ state, sight.sessionState name = .ok state ∧
        (checkDownGate state = .ok none ∨ ∃ journal dns, checkDownGate state = .ok (some journal) ∧
          sight.runtimeFiles name configName journal.dnsBackend = some dns)) w := by
  refine (seen_phaseStopStatus hB).bind fun stop w₁ hstop => ?_
  rw [hstop, if_neg (by simp)]
  split
  · exact fun h => HelperExit.noConfusion h
  rw [hconfig]
  refine (seen_sessionRuntimeState hB).bind fun seen w₂ hseen => ?_
  rw [← hseen]
  cases seen with
  | error failure =>
    -- a failure of the session's state is not success
    have hfailure : failure = .runtimeFailed ∨ failure = .interfaceConflict := by
      unfold Sight.sessionState at hseen
      split at hseen <;> exact runtimeStateOf_failure hseen.symm
    rcases hfailure with rfl | rfl <;> exact fun h => HelperExit.noConfusion h
  | ok state =>
    dsimp only
    split
    · rename_i failure hgate
      refine fun h => absurd h ?_
      exact checkDownGate_failure hgate
    · rename_i hgate
      exact fun _ => ⟨state, rfl, .inl hgate⟩
    · rename_i journal hgate
      refine (seen_checkRuntimeFiles hB journal).bind fun dns w₃ hdns => ?_
      refine (seen_phaseStopStatus hB).bind fun stop w₄ hstop => ?_
      rw [hstop, if_pos rfl]
      intro hsuccess
      cases dns with
      | none => exact HelperExit.noConfusion hsuccess
      | some dns => exact ⟨state, rfl, .inr ⟨journal, dns, hgate, hdns.symm⟩⟩

omit hB in
/-- A session's state with a marker is the one that was read, with the link as it was seen. -/
theorem sessionState_of_valid {parsed : ParsedMarker} {observation : Option LinkObservation}
    {state : SessionState} (h : runtimeStateOf (.valid parsed) observation = .ok state) :
    state.marker = some parsed ∧
      (state.interface = true → ownedLinkStateOf parsed.marker observation = .present) := by
  unfold runtimeStateOf at h
  dsimp only at h
  split at h <;> cases h
  · exact ⟨rfl, fun _ => ‹_›⟩
  · exact ⟨rfl, fun h => Bool.noConfusion h⟩

/-- The runtime files that the check has found are there for the gate. -/
theorem seen_downDisconnectGate {s : TunnelState} {dns : DnsConfig}
    (hfiles : sight.runtimeFiles name configName s.journal.dnsBackend = some dns) :
    Seen B (downDisconnectGate name configName s) (fun r => ∃ plan, r = .ok plan) w := by
  refine (seen_checkRuntimeFiles hB s.journal).bind fun loaded w₁ hloaded => ?_
  rw [hloaded, hfiles]
  exact ⟨_, rfl⟩

variable (hwrites : ∀ o w r w', B o w r w' → failedWrite o r = false)

include hwrites

/-- The refresh of a link that is present succeeds, and changes no more than the index. -/
theorem seen_sessionRefreshOwnedInterface {marker : RuntimeMarker}
    (hpresent : ownedLinkStateOf marker (sight.link name (some marker.linkToken)) = .present) :
    Seen B (sessionRefreshOwnedInterface name marker)
      (fun r => r.1 = .success ∧ r.2.1 = true ∧ r.2.2.dnsBackend = marker.dnsBackend) w := by
  refine safe_bind.mpr (safe_bind.mpr (safe_request.mpr ⟨trivial, fun reply w₁ h₁ => ?_⟩))
  have hreply : observationOf reply = sight.link name (some marker.linkToken) :=
    of_decide_eq_true (hB _ _ _ _ h₁)
  rw [← hreply] at hpresent
  rw [hpresent]
  dsimp only
  split
  · refine safe_bind.mpr (safe_request.mpr ⟨trivial, fun written w₂ h₂ => ?_⟩)
    have hwritten : written = true := by simpa [failedWrite] using hwrites _ _ _ _ h₂
    rw [hwritten]
    exact ⟨rfl, rfl, rfl⟩
  · exact ⟨rfl, rfl, rfl⟩

/-- The gate lets a session with a marker through that the check has admitted. -/
theorem seen_tunnelDownGate {blocked : Bool} {deadlines : Deadlines}
    (hdeadline : deadline = deadlines.forwardAt) {parsed : ParsedMarker}
    (hmarker : sight.marker name = .valid parsed) {state : SessionState}
    (hstate : sight.sessionState name = .ok state)
    (hadmitted : checkDownGate state = .ok none ∨
      ∃ journal dns, checkDownGate state = .ok (some journal) ∧
        sight.runtimeFiles name configName journal.dnsBackend = some dns) :
    Seen B (tunnelDownGate blocked name configName deadlines) (fun r => ∃ plan, r = .ok plan) w := by
  subst hdeadline
  have hread : runtimeStateOf (.valid parsed) (sight.link name (some parsed.marker.linkToken)) =
      .ok state := by
    rw [← hstate, Sight.sessionState, hmarker]
  obtain ⟨hsome, hpresent⟩ := sessionState_of_valid hread
  refine (seen_phaseStopStatus hB).bind fun stop w₁ hstop => ?_
  rw [hstop, if_neg (by simp)]
  refine (seen_sessionRuntimeState hB).bind fun seen w₂ hseen => ?_
  rw [hseen, hstate]
  obtain ⟨marker, interface⟩ := state
  obtain rfl : marker = some parsed := hsome
  obtain ⟨journal, hparsed⟩ := parsed
  dsimp only at hpresent ⊢
  unfold checkDownGate at hadmitted
  dsimp only at hadmitted
  by_cases hdone : journal.state = .cleanupComplete ∨ journal.state = .firewallPending
  · -- nothing is left but the end of the session: its link must be gone
    rw [if_pos hdone] at hadmitted
    have hinterface : interface = false := by
      cases interface with
      | false => rfl
      | true => simp at hadmitted
    rw [hinterface]
    rcases hdone with hcomplete | hpending
    · rw [if_pos hcomplete]
      exact ⟨_, rfl⟩
    · rw [if_neg (by simp [hpending]), if_pos hpending]
      exact ⟨_, rfl⟩
  · rw [if_neg hdone] at hadmitted
    obtain ⟨hcomplete, hpending⟩ := not_or.mp hdone
    rw [if_neg hcomplete, if_neg hpending]
    by_cases hrefused : interface = false ∨
        (journal.state ≠ .active ∧ journal.state ≠ .activating ∧
          journal.state ≠ .cleanupRequired) ∨
        (journal.dnsBackend = .resolved ∧ journal.dnsState = .unknown)
    · rw [if_pos hrefused] at hadmitted
      simp at hadmitted
    · rw [if_neg hrefused] at hadmitted
      obtain ⟨hinterface, hstates, hdns⟩ := by simpa only [not_or] using hrefused
      have hinterface : interface = true := by simpa using hinterface
      have hconfirmed : journal.state ≠ .cleanupUnconfirmed := by
        intro h
        rw [h] at hstates
        simp at hstates
      obtain ⟨found, dns, hgate, hfiles⟩ := hadmitted.resolve_left (by simp)
      obtain rfl : journal = found := by simpa using hgate
      rw [if_neg hconfirmed, if_neg hdns]
      by_cases hfresh : interface = true ∧ journal.ifindex = 0
      · rw [if_pos hfresh]
        refine (seen_sessionRefreshOwnedInterface hB hwrites (hpresent hinterface)).bind ?_
        rintro ⟨result, present, journal'⟩ w₃ ⟨hresult, hlink, hbackend⟩
        dsimp only at hresult hlink hbackend ⊢
        rw [if_neg (by simp [hresult]), if_neg (by simp [hlink])]
        rw [← hbackend] at hfiles
        exact @seen_downDisconnectGate W B sight name configName _ w₃ hB ⟨journal', blocked⟩ dns hfiles
      · rw [if_neg hfresh]
        exact seen_downDisconnectGate hB hfiles

end Gate

/-! ## The admission -/

/-- A gate run that sees what the check saw lets the session through. -/
def GateAgrees (name configName : Name) (deadlines : Deadlines) : Prop :=
  ∀ (sight : Sight) (parsed : ParsedMarker) (blocked : Bool) (w₁ w₁' w₂ w₂' : World)
    (checked gated : List HelperEvent) (result : Except HelperExit DownPlan),
    sight.marker name = .valid parsed →
    Steps behaves (tunnelCheckDown name deadlines.forwardAt) w₁ checked (.pure .success) w₁' →
    Steps behaves (tunnelDownGate blocked name configName deadlines) w₂ gated (.pure result) w₂' →
    (∀ e ∈ checked ++ gated, sight.agrees deadlines.forwardAt e.op e.reply = true) →
    (∀ e ∈ gated, failedWrite e.op e.reply = false) → ∃ plan, result = .ok plan

theorem gateAgrees {name configName : Name} (deadlines : Deadlines)
    (hconfig : storageMakeConfigFilename name = some configName) :
    GateAgrees name configName deadlines := by
  intro sight parsed blocked w₁ w₁' w₂ w₂' checked gated result hmarker hcheck hgate hsees hwrites
  have hchecked := hcheck.restrict (R := fun o r => sight.agrees deadlines.forwardAt o r = true)
    fun e he => hsees e (List.mem_append_left _ he)
  have hgated := hgate.restrict (R := fun o r => sight.agrees deadlines.forwardAt o r = true ∧
    failedWrite o r = false) fun e he => ⟨hsees e (List.mem_append_right _ he), hwrites e he⟩
  obtain ⟨state, hstate, hadmitted⟩ :=
    (seen_tunnelCheckDown (fun _ _ _ _ h => h.2) hconfig).returned hchecked rfl
  exact (seen_tunnelDownGate (fun _ _ _ _ h => h.2.1) (fun _ _ _ _ h => h.2.2) rfl hmarker hstate
    hadmitted).returned hgated

/-- A machine on which one session `b` runs until it is disconnected. -/
def oneSession : Environment (S := switchSig) (W := Bool) fun _ _ _ _ => True where
  answer
    | .listRuntimeNames _, left =>
      (.ok (if left then FoundNames.empty.sort
        else (FoundNames.empty.add (ascii "b") (by decide) (by decide)).sort), left)
    | .prepareUp _ _, left => (.ok sampleActivation, left)
    | .checkDown _ _, left | .phaseStop _, left | .activate _ _, left => (.success, left)
    | .down .., _ => (.success, true)
    | .runtimeState _, left => (.ok ⟨none, !left⟩, left)
  allowed := fun _ _ => trivial

/-- The switch to `a`. -/
def sampleSwitch : List (Event switchSig Bool) × SwitchM HelperExit × Bool :=
  oneSession.run 10 (switchProgram (ascii "a") farDeadlines) false

/-- What a calm machine shows of a world. -/
def Calm.sight (c : Calm) (w : World) : Sight where
  marker name := readMarker (w.files .runtime name)
  link name token := linkSnapshotObserve c.links name token
  contents area name size :=
    (w.files area name).filter fun contents => decide (contents.length ≤ size)
  state area name := if (w.files area name).isSome then .valid else .missing

/-- The stopped activation with its link. -/
def stoppedSight : Sight := (⟨[sampleLink], narrowScope, true⟩ : Calm).sight stoppedUp.2.2

/-- The check of the stopped activation. -/
def sampleCheck : List HelperEvent × HelperM HelperExit × World :=
  (linkUp narrowScope).run 20 (tunnelCheckDown (ascii "a") farDeadlines.forwardAt) stoppedUp.2.2

/-- The gate of its disconnection, with markers written or not. -/
def sampleGate (writes : Bool) :
    List HelperEvent × HelperM (Except HelperExit DownPlan) × World :=
  (⟨[sampleLink], narrowScope, writes⟩ : Calm).environment.run 20
    (tunnelDownGate false (ascii "a") (configNameOf (ascii "a")) farDeadlines) stoppedUp.2.2

theorem length_sampleSwitch : 9 < sampleSwitch.1.length := by decide +kernel

/-- The check of the stopped activation succeeds on what the sight shows. -/
theorem steps_sampleCheck :
    Steps behaves (tunnelCheckDown (ascii "a") farDeadlines.forwardAt) stoppedUp.2.2 sampleCheck.1
      (.pure .success) sampleCheck.2.2 := by
  have hresult : sampleCheck.2.1.result = some .success := by decide +kernel
  exact ((linkUp narrowScope).steps 20 _ _).returned hresult

/-- The stopped activation has left a marker. -/
theorem marker_stoppedSight : ∃ parsed, stoppedSight.marker (ascii "a") = .valid parsed := by
  have hread : stoppedSight.marker (ascii "a") ≠ .missing ∧
      stoppedSight.marker (ascii "a") ≠ .invalid := by decide +kernel
  cases h : stoppedSight.marker (ascii "a") with
  | missing => exact absurd h hread.1
  | invalid => exact absurd h hread.2
  | valid parsed => exact ⟨parsed, rfl⟩

/-- Everything that the check and the gate read is what the sight shows. -/
theorem agrees_sample (writes : Bool) :
    ∀ e ∈ sampleCheck.1 ++ (sampleGate writes).1,
      stoppedSight.agrees farDeadlines.forwardAt e.op e.reply = true := by
  have hall : ∀ writes : Bool, ((sampleCheck.1 ++ (sampleGate writes).1).all fun e =>
      stoppedSight.agrees farDeadlines.forwardAt e.op e.reply) = true := by decide +kernel
  exact List.all_eq_true.mp (hall writes)

end NmSidebar
