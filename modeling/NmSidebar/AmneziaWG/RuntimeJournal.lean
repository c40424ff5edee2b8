import NmSidebar.AmneziaWG.LinkIdentity

/-!
# The runtime journal

The marker the helper keeps on disk for every session (`runtime_journal.c`): its fields, the
fields that go together, its text form, and the classification of a session that the panel
shows from a marker and an observation of the links.
-/

namespace NmSidebar

open Text

/-! ## The marker -/

/-- `NetworkSidebarAmneziaWGJournalState`: the phase of a session. -/
inductive JournalState where
  | activating
  | active
  | cleanupRequired
  | cleanupUnconfirmed
  | cleanupComplete
  | firewallPending
  deriving DecidableEq

/-- `NetworkSidebarAmneziaWGDnsBackend`. -/
inductive DnsBackend where
  | none
  | resolved
  | resolvconf
  deriving DecidableEq

/-- `NetworkSidebarAmneziaWGJournalDnsState`. -/
inductive JournalDnsState where
  | absent
  | applied
  | unknown
  deriving DecidableEq

/-- `NETWORK_SIDEBAR_AMNEZIAWG_FIREWALL_ALL`; the scope is a set of five namespaces. -/
def firewallAll : UInt32 := 31

/-- `NETWORK_SIDEBAR_AMNEZIAWG_MAX_RUNTIME_MARKER_SIZE`. -/
def maxRuntimeMarkerSize : ℕ := 256

/-- `NetworkSidebarAmneziaWGRuntimeMarker`. -/
structure RuntimeMarker where
  linkToken : Bytes
  ifindex : UInt32
  dnsBackend : DnsBackend
  state : JournalState
  dnsState : JournalDnsState
  wasActive : Bool
  firewallScope : UInt32
  deriving DecidableEq

/-- `network_sidebar_amneziawg_dns_backend_name`. -/
def dnsBackendName : DnsBackend → Bytes
  | .none => ascii "none"
  | .resolved => ascii "resolved"
  | .resolvconf => ascii "resolvconf"

/-- `network_sidebar_amneziawg_journal_state_name`. -/
def journalStateName : JournalState → Bytes
  | .activating => ascii "activating"
  | .active => ascii "active"
  | .cleanupRequired => ascii "cleanup-required"
  | .cleanupUnconfirmed => ascii "cleanup-unconfirmed"
  | .cleanupComplete => ascii "cleanup-complete"
  | .firewallPending => ascii "firewall-verification-pending"

/-- `journal_dns_state_name`. -/
def journalDnsStateName : JournalDnsState → Bytes
  | .absent => ascii "absent"
  | .applied => ascii "applied"
  | .unknown => ascii "unknown"

/-- `runtime_marker_fields_are_valid`. -/
def runtimeMarkerFieldsAreValid (marker : RuntimeMarker) : Prop :=
  marker.firewallScope &&& ~~~firewallAll = 0 ∧
  linkTokenIsValid marker.linkToken = true ∧
  ¬(marker.dnsBackend = .none ∧ marker.dnsState ≠ .absent) ∧
  ¬(marker.state = .activating ∧ marker.wasActive = true) ∧
  ¬(marker.state = .active ∧ (marker.ifindex = 0 ∨ marker.wasActive = false ∨
    (marker.dnsBackend ≠ .none ∧ marker.dnsState ≠ .applied))) ∧
  ¬((marker.state = .cleanupComplete ∨ marker.state = .firewallPending) ∧
    (marker.wasActive = true ∨ marker.dnsState ≠ .absent))

instance (marker : RuntimeMarker) : Decidable (runtimeMarkerFieldsAreValid marker) :=
  inferInstanceAs (Decidable (_ ∧ _))

/-! ## Changes of a valid marker -/

/-- The phases in which the session is neither active nor settled: any DNS state may go with
them. -/
def JournalState.isOpen : JournalState → Bool
  | activating | cleanupRequired | cleanupUnconfirmed => true
  | active | cleanupComplete | firewallPending => false

variable {marker : RuntimeMarker}

theorem valid_of_isOpen (hscope : marker.firewallScope &&& ~~~firewallAll = 0)
    (htoken : linkTokenIsValid marker.linkToken = true)
    (hbackend : marker.dnsBackend = .none → marker.dnsState = .absent)
    (hactive : marker.state = .activating → marker.wasActive = false)
    (hopen : marker.state.isOpen = true) : runtimeMarkerFieldsAreValid marker := by
  refine ⟨hscope, htoken, fun h => h.2 (hbackend h.1), fun h => ?_, fun h => ?_, fun h => ?_⟩
  · rw [hactive h.1] at h
    exact Bool.false_ne_true h.2
  · rw [h.1] at hopen
    cases hopen
  · rcases h.1 with h | h <;> rw [h] at hopen <;> cases hopen

theorem dnsState_of_backend_none (h : runtimeMarkerFieldsAreValid marker)
    (hbackend : marker.dnsBackend = .none) : marker.dnsState = .absent :=
  not_not.mp fun hdns => h.2.2.1 ⟨hbackend, hdns⟩

theorem wasActive_of_activating (h : runtimeMarkerFieldsAreValid marker)
    (hstate : marker.state = .activating) : marker.wasActive = false :=
  Bool.eq_false_iff.mpr fun hactive => h.2.2.2.1 ⟨hstate, hactive⟩

/-- What a valid active marker says. -/
theorem fields_of_active (h : runtimeMarkerFieldsAreValid marker) (hstate : marker.state = .active) :
    marker.ifindex ≠ 0 ∧ marker.wasActive = true ∧
      (marker.dnsBackend = .none ∨ marker.dnsState = .applied) := by
  obtain ⟨-, -, -, -, hactive, -⟩ := h
  refine ⟨fun hzero => hactive ⟨hstate, .inl hzero⟩, ?_, ?_⟩
  · rw [← Bool.not_eq_false]
    exact fun hfalse => hactive ⟨hstate, .inr (.inl hfalse)⟩
  · by_contra hdns
    exact hactive ⟨hstate, .inr (.inr (not_or.mp hdns))⟩

/-- What a valid marker of a settled session says. -/
theorem fields_of_settled (h : runtimeMarkerFieldsAreValid marker)
    (hstate : marker.state = .cleanupComplete ∨ marker.state = .firewallPending) :
    marker.wasActive = false ∧ marker.dnsState = .absent := by
  obtain ⟨-, -, -, -, -, hsettled⟩ := h
  refine ⟨Bool.eq_false_iff.mpr fun hactive => hsettled ⟨hstate, .inl hactive⟩, ?_⟩
  exact not_not.mp fun hdns => hsettled ⟨hstate, .inr hdns⟩

theorem valid_setCleanup {state : JournalState} (h : runtimeMarkerFieldsAreValid marker)
    (hstate : state = .cleanupRequired ∨ state = .cleanupUnconfirmed) :
    runtimeMarkerFieldsAreValid { marker with state } := by
  refine valid_of_isOpen h.1 h.2.1 (@dnsState_of_backend_none marker h) (fun heq => ?_) ?_
  · rcases hstate with rfl | rfl <;> cases heq
  · rcases hstate with rfl | rfl <;> rfl

theorem valid_setDns {dnsState : JournalDnsState} (h : runtimeMarkerFieldsAreValid marker)
    (hopen : marker.state.isOpen = true) (hbackend : marker.dnsBackend ≠ .none) :
    runtimeMarkerFieldsAreValid { marker with dnsState } :=
  valid_of_isOpen h.1 h.2.1 (fun hnone => absurd hnone hbackend)
    (@wasActive_of_activating marker h) hopen

theorem valid_setIfindex {ifindex : UInt32} (h : runtimeMarkerFieldsAreValid marker)
    (hne : ifindex ≠ 0) : runtimeMarkerFieldsAreValid { marker with ifindex } := by
  obtain ⟨hscope, htoken, hbackend, hactivating, hactive, hsettled⟩ := h
  refine ⟨hscope, htoken, hbackend, hactivating, ?_, hsettled⟩
  rintro ⟨hstate, hzero | hrest⟩
  · exact hne hzero
  · exact hactive ⟨hstate, .inr hrest⟩

theorem valid_setScope {firewallScope : UInt32} (h : runtimeMarkerFieldsAreValid marker)
    (hscope : firewallScope &&& ~~~firewallAll = 0) :
    runtimeMarkerFieldsAreValid { marker with firewallScope } :=
  ⟨hscope, h.2⟩

/-- A session whose DNS is out of the resolver may be settled. -/
theorem valid_settled {state : JournalState} {firewallScope : UInt32}
    (h : runtimeMarkerFieldsAreValid marker)
    (hscope : firewallScope &&& ~~~firewallAll = 0)
    (hstate : state = .cleanupComplete ∨ state = .firewallPending) :
    runtimeMarkerFieldsAreValid
      { marker with state, wasActive := false, dnsState := .absent, firewallScope } := by
  refine ⟨hscope, h.2.1, ?_, ?_, ?_, ?_⟩
  · simp
  · simp
  · rcases hstate with rfl | rfl <;> simp
  · simp

/-- A session with a link and its DNS in place may be active. -/
theorem valid_active (h : runtimeMarkerFieldsAreValid marker) (hifindex : marker.ifindex ≠ 0)
    (hdns : marker.dnsBackend = .none ∨ marker.dnsState = .applied) :
    runtimeMarkerFieldsAreValid { marker with state := .active, wasActive := true } := by
  refine ⟨h.1, h.2.1, h.2.2.1, by simp, ?_, by simp⟩
  rintro ⟨-, hzero | hfalse | hrest⟩
  · exact hifindex hzero
  · cases hfalse
  · exact hdns.elim hrest.1 hrest.2

/-! ## The text form -/

/-- One line of the text form. -/
def journalLine (key : String) (value : Bytes) : Bytes := ascii key ++ value ++ [0x0a]

/-- The text of `network_sidebar_amneziawg_runtime_marker_serialize`, before the size check. -/
def runtimeMarkerText (marker : RuntimeMarker) : Bytes :=
  journalLine "state=" (journalStateName marker.state) ++
  journalLine "token=" marker.linkToken ++
  journalLine "ifindex=" (decimal marker.ifindex.toNat) ++
  journalLine "dns=" (dnsBackendName marker.dnsBackend) ++
  journalLine "was-active=" (decimal (if marker.wasActive then 1 else 0)) ++
  journalLine "dns-state=" (journalDnsStateName marker.dnsState) ++
  journalLine "firewall-scope=" (decimal marker.firewallScope.toNat)

/-- `network_sidebar_amneziawg_runtime_marker_serialize`. The buffer also holds the byte that
ends the string, so the text stays below its size. -/
def runtimeMarkerSerialize (marker : RuntimeMarker) : Option Bytes :=
  if ¬runtimeMarkerFieldsAreValid marker then none
  else if (runtimeMarkerText marker).length ≥ maxRuntimeMarkerSize then none
  else some (runtimeMarkerText marker)

/-- The digits of `network_sidebar_amneziawg_ifindex_parse`, with its overflow check. -/
def ifindexDigits : ℕ → Bytes → Option ℕ
  | value, [] => some value
  | value, b :: rest =>
    if isDigit b = false then none
    else if value > (4294967295 - digitValue b) / 10 then none
    else ifindexDigits (value * 10 + digitValue b) rest

/-- `network_sidebar_amneziawg_ifindex_parse`. -/
def ifindexParse (data : Bytes) : Option UInt32 :=
  if trim data = [] then none
  else
    match ifindexDigits 0 (trim data) with
    | none => none
    | some value => if value = 0 then none else some (UInt32.ofNat value)

/-- The phase a state line names. -/
def journalStateOfName (text : Bytes) : Option JournalState :=
  if text = ascii "activating" then some .activating
  else if text = ascii "active" then some .active
  else if text = ascii "cleanup-required" then some .cleanupRequired
  else if text = ascii "cleanup-unconfirmed" then some .cleanupUnconfirmed
  else if text = ascii "cleanup-complete" then some .cleanupComplete
  else if text = ascii "firewall-verification-pending" then some .firewallPending
  else none

/-- The backend a `dns` line names. -/
def dnsBackendOfName (text : Bytes) : Option DnsBackend :=
  if text = ascii "none" then some .none
  else if text = ascii "resolved" then some .resolved
  else if text = ascii "resolvconf" then some .resolvconf
  else none

/-- The state a `dns-state` line names. -/
def journalDnsStateOfName (text : Bytes) : Option JournalDnsState :=
  if text = ascii "absent" then some .absent
  else if text = ascii "applied" then some .applied
  else if text = ascii "unknown" then some .unknown
  else none

/-- One line of the parser: at least `minimum` bytes are left, they start with the key, and the
value runs to the next newline. The second part is what follows the line. -/
def journalField (minimum : ℕ) (key : String) (rest : Bytes) : Option (Bytes × Bytes) :=
  if rest.length < minimum then none
  else (stripPrefix (ascii key) rest).bind (splitFirst 0x0a)

/-- The value of the `ifindex` line: zero, or a number without a leading zero. -/
def journalIfindex (text : Bytes) : Option UInt32 :=
  if text = [] then none
  else if text = [0x30] then some 0
  else if text.head? = some 0x30 then none
  else if text.all isDigit = false then none
  else ifindexParse text

/-- The value of the `was-active` line. -/
def journalWasActive (text : Bytes) : Option Bool :=
  if text = [0x30] then some false
  else if text = [0x31] then some true
  else none

/-- The `firewall-scope` line, which runs to the end of the data: at most two digits and no
leading zero. -/
def journalFirewallScope (rest : Bytes) : Option UInt32 :=
  if rest.length < 17 then none
  else
    match stripPrefix (ascii "firewall-scope=") rest with
    | none => none
    | some value =>
      let text := value.dropLast
      if text.length > 2 ∨ (text.length > 1 ∧ text.head? = some 0x30) then none
      else if text.all isDigit = false then none
      else some (UInt32.ofNat (readFrom 0 text))

/-- `network_sidebar_amneziawg_runtime_marker_parse`. A line that is read is paired with what
follows it. -/
def runtimeMarkerParse (data : Bytes) : Option RuntimeMarker :=
  if data.length ≤ 6 ∨ data.getLast? ≠ some 0x0a then none
  else
    (journalField 0 "state=" data).bind fun stateLine =>
    (journalStateOfName stateLine.1).bind fun state =>
    (journalField 39 "token=" stateLine.2).bind fun tokenLine =>
    if linkTokenIsValid tokenLine.1 = false then none
    else
      (journalField 9 "ifindex=" tokenLine.2).bind fun ifindexLine =>
      (journalIfindex ifindexLine.1).bind fun ifindex =>
      (journalField 5 "dns=" ifindexLine.2).bind fun dnsLine =>
      (dnsBackendOfName dnsLine.1).bind fun dnsBackend =>
      (journalField 13 "was-active=" dnsLine.2).bind fun wasActiveLine =>
      (journalWasActive wasActiveLine.1).bind fun wasActive =>
      (journalField 12 "dns-state=" wasActiveLine.2).bind fun dnsStateLine =>
      (journalDnsStateOfName dnsStateLine.1).bind fun dnsState =>
      (journalFirewallScope dnsStateLine.2).bind fun firewallScope =>
      let parsed : RuntimeMarker :=
        { linkToken := tokenLine.1, ifindex, dnsBackend, state, dnsState, wasActive,
          firewallScope }
      if ¬runtimeMarkerFieldsAreValid parsed then none else some parsed

/-- What a successful parse has read, line by line. -/
theorem runtimeMarkerParse_eq_some {data : Bytes} {marker : RuntimeMarker}
    (h : runtimeMarkerParse data = some marker) :
    ∃ stateText rest₁ rest₂ ifindexText rest₃ dnsText rest₄ wasActiveText rest₅ dnsStateText rest₆,
      data.getLast? = some 0x0a ∧
      journalField 0 "state=" data = some (stateText, rest₁) ∧
      journalStateOfName stateText = some marker.state ∧
      journalField 39 "token=" rest₁ = some (marker.linkToken, rest₂) ∧
      journalField 9 "ifindex=" rest₂ = some (ifindexText, rest₃) ∧
      journalIfindex ifindexText = some marker.ifindex ∧
      journalField 5 "dns=" rest₃ = some (dnsText, rest₄) ∧
      dnsBackendOfName dnsText = some marker.dnsBackend ∧
      journalField 13 "was-active=" rest₄ = some (wasActiveText, rest₅) ∧
      journalWasActive wasActiveText = some marker.wasActive ∧
      journalField 12 "dns-state=" rest₅ = some (dnsStateText, rest₆) ∧
      journalDnsStateOfName dnsStateText = some marker.dnsState ∧
      journalFirewallScope rest₆ = some marker.firewallScope ∧
      runtimeMarkerFieldsAreValid marker := by
  unfold runtimeMarkerParse at h
  by_cases hdata : data.length ≤ 6 ∨ data.getLast? ≠ some 0x0a
  · rw [if_pos hdata] at h
    cases h
  rw [if_neg hdata] at h
  obtain ⟨⟨stateText, rest₁⟩, hstate, h⟩ := Option.bind_eq_some_iff.mp h
  obtain ⟨state, hstate', h⟩ := Option.bind_eq_some_iff.mp h
  obtain ⟨⟨linkToken, rest₂⟩, htoken, h⟩ := Option.bind_eq_some_iff.mp h
  by_cases htoken' : linkTokenIsValid linkToken = false
  · rw [if_pos htoken'] at h
    cases h
  rw [if_neg htoken'] at h
  obtain ⟨⟨ifindexText, rest₃⟩, hifindex, h⟩ := Option.bind_eq_some_iff.mp h
  obtain ⟨ifindex, hifindex', h⟩ := Option.bind_eq_some_iff.mp h
  obtain ⟨⟨dnsText, rest₄⟩, hdns, h⟩ := Option.bind_eq_some_iff.mp h
  obtain ⟨dnsBackend, hdns', h⟩ := Option.bind_eq_some_iff.mp h
  obtain ⟨⟨wasActiveText, rest₅⟩, hactive, h⟩ := Option.bind_eq_some_iff.mp h
  obtain ⟨wasActive, hactive', h⟩ := Option.bind_eq_some_iff.mp h
  obtain ⟨⟨dnsStateText, rest₆⟩, hdnsState, h⟩ := Option.bind_eq_some_iff.mp h
  obtain ⟨dnsState, hdnsState', h⟩ := Option.bind_eq_some_iff.mp h
  obtain ⟨firewallScope, hscope, h⟩ := Option.bind_eq_some_iff.mp h
  dsimp only at h
  split at h
  · cases h
  rename_i hvalid
  obtain rfl := Option.some.inj h
  exact ⟨stateText, rest₁, rest₂, ifindexText, rest₃, dnsText, rest₄, wasActiveText, rest₅,
    dnsStateText, rest₆, not_not.mp (not_or.mp hdata).2, hstate, hstate', htoken, hifindex,
    hifindex', hdns, hdns', hactive, hactive', hdnsState, hdnsState', hscope, not_not.mp hvalid⟩

/-- A parsed marker has valid fields. -/
theorem fieldsAreValid_of_parse {data : Bytes} {marker : RuntimeMarker}
    (h : runtimeMarkerParse data = some marker) : runtimeMarkerFieldsAreValid marker := by
  obtain ⟨_, _, _, _, _, _, _, _, _, _, _, _, _, _, _, _, _, _, _, _, _, _, _, _, h⟩ :=
    runtimeMarkerParse_eq_some h
  exact h

/-! ## Classification -/

/-- `NetworkSidebarAmneziaWGRuntimeState`: what the panel shows of a session. -/
inductive RuntimeState where
  | inactive
  | active
  | recoveryRequired
  | manualIntervention
  | conflict
  | unknown
  | firewallPending
  deriving DecidableEq

/-- `network_sidebar_amneziawg_runtime_state_classify` once there is a valid marker and an
observation. -/
def classifyMarker (marker : RuntimeMarker) (observation : LinkObservation) : RuntimeState :=
  if marker.state = .cleanupUnconfirmed ∨
      (marker.dnsBackend = .resolved ∧ marker.dnsState = .unknown) then
    .manualIntervention
  else if observation.tokenMatches > 1 then .manualIntervention
  else if observation.tokenMatches = 0 then
    if observation.namedExists then .conflict
    else if marker.state = .firewallPending then
      if marker.dnsState = .absent ∧ marker.wasActive = false then .firewallPending
      else .manualIntervention
    else if marker.state = .cleanupComplete then .recoveryRequired
    else .manualIntervention
  else if (observation.namedExists ∧ observation.namedIfindex ≠ observation.tokenIfindex) ∨
      (marker.ifindex ≠ 0 ∧ marker.ifindex ≠ observation.tokenIfindex) then
    .conflict
  else if observation.tokenHasExpectedName = false then .manualIntervention
  else if marker.state = .cleanupComplete ∨ marker.state = .firewallPending then .conflict
  else if marker.state ≠ .active ∨ marker.ifindex = 0 then .recoveryRequired
  else .active

/-- `network_sidebar_amneziawg_runtime_state_classify`: whether there is a marker, whether it is
valid, and the marker and the observation where there are such. -/
def runtimeStateClassify :
    Bool → Bool → Option RuntimeMarker → Option LinkObservation → RuntimeState
  | false, _, _, some observation => if observation.namedExists then .conflict else .inactive
  | false, _, _, none => .inactive
  | true, true, some marker, some observation => classifyMarker marker observation
  | true, _, _, _ => .manualIntervention

/-- `network_sidebar_amneziawg_runtime_state_is_recoverable`. -/
def runtimeStateIsRecoverable (state : RuntimeState) : Bool :=
  state == .recoveryRequired || state == .firewallPending

end NmSidebar
