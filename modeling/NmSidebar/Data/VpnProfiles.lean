import Mathlib.Data.List.Duplicate
import Mathlib.Data.List.Sort
import NmSidebar.Data.Labels

/-!
# The list of VPN profiles

`vpn_profiles.c` with the states of `connection_state.c`. The VPN and WireGuard profiles of
NetworkManager are sorted and described one by one. A profile is marked where its name does not tell
it from the others. The mark counts the identifiers that are the displayed name, so that it misses
the profiles of which the displayed name is made.
-/

namespace NmSidebar

open Text

/-! ## The state of a connection -/

/-- `NMActiveConnectionState`. -/
inductive ActiveConnectionState where
  | unknown | activating | activated | deactivating | deactivated
  deriving DecidableEq

/-- `NMVpnConnectionState`. -/
inductive VpnConnectionState where
  | unknown | prepare | needAuth | connect | ipConfigGet | activated | failed | disconnected
  deriving DecidableEq

/-- What is read of an `NMActiveConnection`. -/
structure ActiveConnection where
  uuid : Option Bytes
  connectionType : Option Bytes
  /-- `nm_active_connection_get_vpn`. -/
  vpn : Bool
  state : ActiveConnectionState
  /-- The state of an `NMVpnConnection`, where it is one. -/
  vpnState : Option VpnConnectionState
  deriving DecidableEq

/-- `NetworkSidebarRowState`. -/
inductive RowState where
  | none | active | connecting | failed | disconnected
  deriving DecidableEq

/-- `network_sidebar_connection_row_state`. -/
def connectionRowState : Option ActiveConnection → RowState
  | .none => .none
  | some active =>
    if active.state = .activated then .active
    else if active.state = .activating then .connecting
    else .none

/-- `network_sidebar_vpn_row_state`. -/
def vpnRowState (active : Option ActiveConnection) : RowState :=
  let genericState := connectionRowState active
  match active with
  | .none => .none
  | some connection =>
    match connection.vpnState with
    | .none => genericState
    | some .activated => .active
    | some .prepare | some .needAuth | some .connect | some .ipConfigGet => .connecting
    | some .failed => .failed
    | some .disconnected => .disconnected
    | some .unknown => if genericState = .active then .none else genericState

/-- `network_sidebar_active_state_label`. -/
def activeStateLabel : ActiveConnectionState → List Char
  | .unknown => "Unknown".toList
  | .activating => "Activating".toList
  | .activated => "Activated".toList
  | .deactivating => "Deactivating".toList
  | .deactivated => "Deactivated".toList

/-! ## The client -/

/-- What is read of an `NMRemoteConnection`. -/
structure RemoteConnection where
  /-- `nm_connection_get_connection_type`. -/
  connectionType : Option Bytes
  id : Option Bytes
  uuid : Option Bytes
  /-- The service of the VPN setting, where there is one. -/
  serviceType : Option Bytes
  deriving DecidableEq

/-- What is read of the `NMClient` and of the plugins that are installed. -/
structure VpnClient where
  connections : List RemoteConnection
  activeConnections : List ActiveConnection
  networkingEnabled : Bool
  /-- `nm_vpn_plugin_info_get_service` of every plugin. -/
  pluginServices : List (Option Bytes)
  /-- `nm_vpn_plugin_info_list_get_service_types`. -/
  pluginServiceTypes : List Bytes

/-- `NM_SETTING_VPN_SETTING_NAME`. -/
def settingVpnName : Bytes := ascii "vpn"

/-- `NM_SETTING_WIREGUARD_SETTING_NAME`. -/
def settingWireguardName : Bytes := ascii "wireguard"

/-- `profile_is_wireguard`. -/
def profileIsWireguard (connection : RemoteConnection) : Bool :=
  connection.connectionType = some settingWireguardName

/-- `profile_kind_label`. -/
def profileKindLabel (connection : RemoteConnection) : List Char :=
  if profileIsWireguard connection then "WireGuard".toList else "VPN".toList

/-- `nm_connection_get_id`, a string of C. -/
def connectionId (connection : RemoteConnection) : Option Bytes := connection.id.map cString

/-- `network_sidebar_connection_name`. -/
def connectionName (data : CharacterData) (connection : RemoteConnection)
    (fallback : Option (List Char)) : List Char :=
  displayText data (connectionId connection) fallback

/-- `active_by_uuid`. -/
def activeByUuid (client : VpnClient) (uuid : Option Bytes) : Option ActiveConnection :=
  if uuid = none then none else client.activeConnections.find? fun active => active.uuid = uuid

/-- `vpn_has_base_connection`. -/
def vpnHasBaseConnection (client : VpnClient) : Bool :=
  client.activeConnections.any fun active =>
    !active.vpn && active.connectionType ≠ some settingVpnName && active.state = .activated

/-! ## Plugins -/

/-- `VpnPluginState`. -/
structure VpnPluginState where
  serviceTypes : List Bytes
  discoveryFailed : Bool

/-- `vpn_plugin_state_load`. -/
def vpnPluginStateLoad (client : VpnClient) : VpnPluginState where
  serviceTypes :=
    if client.pluginServices = [] then []
    else client.pluginServiceTypes ++ (client.pluginServices.filterMap id).filter (· ≠ [])
  discoveryFailed := false

/-- `NetworkSidebarVpnPluginStatus`. -/
inductive VpnPluginStatus where
  | available | missing | unknown
  deriving DecidableEq

/-- `vpn_profile_plugin_status`. -/
def vpnProfilePluginStatus (connection : RemoteConnection) (state : VpnPluginState) :
    VpnPluginStatus :=
  if connection.serviceType.any fun service =>
      service ≠ [] && state.serviceTypes.contains service then .available
  else if state.discoveryFailed then .unknown
  else .missing

/-! ## Profiles -/

/-- `NetworkSidebarVpnProfileKind`. -/
inductive VpnProfileKind where
  | plugin | wireguard
  deriving DecidableEq

/-- `NetworkSidebarVpnActivationReason`. -/
inductive VpnActivationReason where
  | allowed | networkingDisabled | noBaseConnection | pluginMissing
  deriving DecidableEq

/-- `NetworkSidebarVpnProfile`. -/
structure VpnProfile where
  connection : RemoteConnection
  active : Option ActiveConnection
  kind : VpnProfileKind
  name : List Char
  uuid : Option Bytes
  duplicateName : Bool
  status : Option (List Char)
  rowState : RowState
  pluginStatus : VpnPluginStatus
  activationReason : VpnActivationReason
  canActivate : Bool
  canEdit : Bool

/-- `NetworkSidebarVpnProfiles`. -/
structure VpnProfiles where
  profiles : List VpnProfile
  pluginStatus : VpnPluginStatus
  canCreateVpn : Bool

/-- `g_strcmp0`: no string comes before every string. -/
def strcmp0 : Option Bytes → Option Bytes → Ordering
  | none, none => .eq
  | none, some _ => .lt
  | some _, none => .gt
  | some left, some right => List.compareLex compare left right

/-- `vpn_connection_compare`, with `g_utf8_casefold`. -/
def vpnConnectionCompare (casefold : Bytes → Bytes) (left right : RemoteConnection) : Ordering :=
  (strcmp0 (some (casefold ((connectionId left).getD [])))
      (some (casefold ((connectionId right).getD [])))).then
    (strcmp0 left.uuid right.uuid)

/-- The identifier of a profile, or its kind where it has none. -/
def storedName (connection : RemoteConnection) : Bytes :=
  match connectionId connection with
  | none => utf8Encode (profileKindLabel connection)
  | some candidate =>
    if candidate = [] then utf8Encode (profileKindLabel connection) else candidate

/-- `vpn_profile_name_count`. -/
def vpnProfileNameCount (profiles : List RemoteConnection) (name : List Char) : ℕ :=
  profiles.countP fun connection => storedName connection = utf8Encode name

/-- `vpn_connection_status`. -/
def vpnConnectionStatus : Option ActiveConnection → Option (List Char)
  | none => none
  | some active =>
    match active.vpnState with
    | none => if active.state ≠ .activated then some (activeStateLabel active.state) else none
    | some .failed => some "VPN failed".toList
    | some .disconnected => some "VPN disconnected".toList
    | some _ => none

/-- `vpn_profile_activation_reason`. -/
def vpnProfileActivationReason (active : Option ActiveConnection) (kind : VpnProfileKind)
    (pluginStatus : VpnPluginStatus) (networkingEnabled hasBaseConnection : Bool) :
    VpnActivationReason :=
  if active.isSome then .allowed
  else if !networkingEnabled then .networkingDisabled
  else if kind = .plugin && !hasBaseConnection then .noBaseConnection
  else if pluginStatus = .missing then .pluginMissing
  else .allowed

/-- The profiles that are listed, in the order NetworkManager has them in. -/
def listedConnections (client : VpnClient) : List RemoteConnection :=
  client.connections.filter fun connection =>
    connection.connectionType = some settingVpnName || profileIsWireguard connection

/-- The profiles in the order they are shown in. -/
def sortedConnections (casefold : Bytes → Bytes) (client : VpnClient) : List RemoteConnection :=
  (listedConnections client).insertionSort fun left right =>
    (vpnConnectionCompare casefold left right).isLE = true

/-- The record of one profile among those that are listed. -/
def loadVpnProfile (data : CharacterData) (client : VpnClient) (listed : List RemoteConnection)
    (connection : RemoteConnection) : VpnProfile :=
  let kind := if profileIsWireguard connection then VpnProfileKind.wireguard else .plugin
  let name := connectionName data connection (some (profileKindLabel connection))
  let active := activeByUuid client connection.uuid
  let pluginStatus :=
    if kind = .wireguard then VpnPluginStatus.available
    else vpnProfilePluginStatus connection (vpnPluginStateLoad client)
  let activationReason := vpnProfileActivationReason active kind pluginStatus
    client.networkingEnabled (vpnHasBaseConnection client)
  { connection
    active
    kind
    name
    uuid := connection.uuid
    duplicateName := vpnProfileNameCount listed name > 1
    status := vpnConnectionStatus active
    rowState := vpnRowState active
    pluginStatus
    activationReason
    canActivate := activationReason = .allowed
    canEdit := pluginStatus ≠ .missing }

/-- `network_sidebar_vpn_profiles_load`. -/
def vpnProfilesLoad (data : CharacterData) (casefold : Bytes → Bytes) (client : VpnClient) :
    VpnProfiles :=
  let pluginState := vpnPluginStateLoad client
  let pluginStatus :=
    if pluginState.discoveryFailed then VpnPluginStatus.unknown
    else if pluginState.serviceTypes = [] then .missing
    else .available
  let listed := sortedConnections casefold client
  { profiles := listed.map (loadVpnProfile data client listed)
    pluginStatus
    canCreateVpn := pluginStatus ≠ .missing }

/-! ## Names that tell the profiles apart -/

/-- The name that a profile is listed under. -/
def displayedName (data : CharacterData) (connection : RemoteConnection) : List Char :=
  connectionName data connection (some (profileKindLabel connection))

/-- The profile has no identifier, or one that is displayed as it is. -/
def StoredAsDisplayed (data : CharacterData) (connection : RemoteConnection) : Prop :=
  ∀ candidate ∈ connectionId connection,
    candidate = [] ∨ ∃ text ∈ utf8Decode candidate, PlainText data text

instance (data : CharacterData) (connection : RemoteConnection) :
    Decidable (StoredAsDisplayed data connection) :=
  inferInstanceAs (Decidable (∀ _ ∈ _, _))

theorem plainText_profileKindLabel (data : CharacterData) (connection : RemoteConnection) :
    PlainText data (profileKindLabel connection) := by
  have hword (word : List Char) (hne : word ≠ []) (hall : ∀ c ∈ word, Graphic c) :
      PlainText data word :=
    ⟨hne, fun c hc => (hall c (List.mem_of_mem_head? hc)).isSpace,
      fun c hc => (hall c (List.mem_of_mem_getLast? hc)).isSpace, fun c hc => (hall c hc).kept⟩
  unfold profileKindLabel
  split
  · exact hword _ (by decide +kernel) (forall_char (by decide +kernel))
  · exact hword _ (by decide +kernel) (forall_char (by decide +kernel))

@[simp] theorem cString_cString (value : Bytes) : cString (cString value) = cString value :=
  List.takeWhile_idem ..

/-- The displayed name of a profile without an identifier is its kind. -/
theorem displayedName_of_empty {data : CharacterData} {connection : RemoteConnection}
    (h : ∀ candidate, connectionId connection = some candidate → candidate = []) :
    displayedName data connection = profileKindLabel connection := by
  unfold displayedName connectionName
  cases hid : connectionId connection with
  | none => rfl
  | some candidate =>
    rw [h candidate hid]
    rfl

/-- The displayed name of a profile that has an identifier. -/
theorem displayedName_of_some {data : CharacterData} {connection : RemoteConnection}
    {candidate : Bytes} (h : connectionId connection = some candidate) :
    displayedName data connection =
      displayTextBytes data candidate (some (profileKindLabel connection)) := by
  obtain ⟨id, -, rfl⟩ := Option.map_eq_some_iff.mp h
  rw [displayedName, connectionName, h, displayText, cString_cString]

/-- A name that is displayed would be displayed as it is. -/
theorem plainText_displayedName (data : CharacterData) (connection : RemoteConnection) :
    PlainText data (displayedName data connection) := by
  cases hid : connectionId connection with
  | none =>
    rw [displayedName_of_empty (by rw [hid]; intro _ h; cases h)]
    exact plainText_profileKindLabel data connection
  | some candidate =>
    rw [displayedName_of_some hid]
    obtain hfallback | hplain :=
      displayTextBytes_plain data candidate (some (profileKindLabel connection))
    · rw [hfallback]
      exact plainText_profileKindLabel data connection
    · exact hplain

/-- A profile stores a displayed name where it is displayed under it and has no other identifier. -/
theorem storedName_eq_iff {data : CharacterData} {connection : RemoteConnection} {name : List Char}
    (hname : PlainText data name) :
    storedName connection = utf8Encode name ↔
      displayedName data connection = name ∧ StoredAsDisplayed data connection := by
  have hkind (hempty : ∀ candidate, connectionId connection = some candidate → candidate = []) :
      utf8Encode (profileKindLabel connection) = utf8Encode name ↔
        displayedName data connection = name ∧ StoredAsDisplayed data connection := by
    rw [displayedName_of_empty hempty]
    constructor
    · intro h
      exact ⟨utf8Encode_inj h, fun candidate hid => .inl (hempty candidate hid)⟩
    · rintro ⟨rfl, -⟩
      rfl
  unfold storedName
  split
  · rename_i hid
    exact hkind (by rw [hid]; intro _ h; cases h)
  · rename_i candidate hid
    split
    · rename_i hnil
      exact hkind (by rw [hid]; rintro _ ⟨⟩; exact hnil)
    · rename_i hne
      rw [displayedName_of_some hid]
      constructor
      · rintro rfl
        refine ⟨hname.displayTextBytes _, ?_⟩
        intro other hother
        obtain rfl := Option.some.inj (hid.symm.trans hother)
        exact .inr ⟨name, utf8Decode_utf8Encode name, hname⟩
      · rintro ⟨hshown, hstored⟩
        obtain ⟨text, htext, hplain⟩ := (hstored candidate hid).resolve_left hne
        obtain rfl := utf8Encode_of_utf8Decode htext
        rw [hplain.displayTextBytes] at hshown
        rw [hshown]

/-- A name stands at another place of a list too where its count is above one. -/
theorem one_lt_count_iff {α : Type} [DecidableEq α] {names : List α} {i : ℕ}
    (hi : i < names.length) :
    1 < names.countP (fun name => name = names[i]) ↔
      ∃ j, ∃ hj : j < names.length, j ≠ i ∧ names[j] = names[i] := by
  have hcount : names.countP (fun name => name = names[i]) = names.count names[i] := by
    rw [List.count_eq_countP]
    apply List.countP_congr
    intro name _
    rw [decide_eq_true_iff, beq_iff_eq]
  rw [hcount, ← Nat.succ_le_iff, ← List.duplicate_iff_two_le_count, List.duplicate_iff_exists_distinct_get]
  constructor
  · rintro ⟨n, m, hlt, hn, hm⟩
    have hne : n.val ≠ m.val := Nat.ne_of_lt hlt
    by_cases hsame : n.val = i
    · exact ⟨m, m.isLt, by omega, hm.symm⟩
    · exact ⟨n, n.isLt, hsame, hn.symm⟩
  · rintro ⟨j, hj, hne, hsame⟩
    obtain hlt | hlt := Nat.lt_or_gt_of_ne hne
    · exact ⟨⟨j, hj⟩, ⟨i, hi⟩, hlt, hsame.symm, rfl⟩
    · exact ⟨⟨i, hi⟩, ⟨j, hj⟩, hlt, rfl, hsame.symm⟩

theorem sortedConnections_perm (casefold : Bytes → Bytes) (client : VpnClient) :
    (sortedConnections casefold client).Perm (listedConnections client) :=
  List.perm_insertionSort _ _

/-- Where two profiles are displayed under a name, two of those that are have it stored as it is. -/
def SharedNamesStored (data : CharacterData) (listed : List RemoteConnection) : Prop :=
  ∀ name, 1 < listed.countP (fun connection => displayedName data connection = name) →
    1 < listed.countP (fun connection =>
      displayedName data connection = name ∧ StoredAsDisplayed data connection)

/-- A listed profile is marked by the count of those that store its displayed name. -/
theorem duplicateName_loadVpnProfile (data : CharacterData) (client : VpnClient)
    (listed : List RemoteConnection) (connection : RemoteConnection) :
    (loadVpnProfile data client listed connection).duplicateName = true ↔
      1 < listed.countP (fun other =>
        displayedName data other = displayedName data connection ∧
          StoredAsDisplayed data other) := by
  have hcount : vpnProfileNameCount listed (displayedName data connection) =
      listed.countP (fun other => displayedName data other = displayedName data connection ∧
        StoredAsDisplayed data other) := by
    apply List.countP_congr
    intro other _
    rw [decide_eq_true_iff, decide_eq_true_iff]
    exact storedName_eq_iff (plainText_displayedName data connection)
  rw [← hcount]
  exact decide_eq_true_iff

/-- Another listed profile shares the name of one where its count is above one. -/
theorem exists_sameName_iff (data : CharacterData) {listed : List RemoteConnection} {i : ℕ}
    (hi : i < listed.length) :
    (∃ j, ∃ hj : j < listed.length, j ≠ i ∧
      displayedName data listed[j] = displayedName data listed[i]) ↔
      1 < listed.countP (fun connection =>
        displayedName data connection = displayedName data listed[i]) := by
  have hnames := @one_lt_count_iff _ _ (listed.map (displayedName data)) i
    (by rw [List.length_map]; exact hi)
  simp only [List.length_map, List.getElem_map] at hnames
  rw [← hnames, List.countP_map]
  rfl

/-- The marks of a list are exact where every shared name is stored by two profiles of it. -/
theorem duplicateName_exact_listed (data : CharacterData) (client : VpnClient)
    (listed : List RemoteConnection) :
    (∀ i, ∀ hi : i < listed.length,
      (loadVpnProfile data client listed listed[i]).duplicateName = true ↔
        ∃ j, ∃ hj : j < listed.length, j ≠ i ∧
          displayedName data listed[j] = displayedName data listed[i]) ↔
      SharedNamesStored data listed := by
  constructor
  · intro h name hname
    obtain ⟨connection, hmem, hshown⟩ :=
      List.countP_pos_iff.mp (Nat.lt_of_lt_of_le Nat.zero_lt_one hname.le)
    obtain ⟨i, hi, rfl⟩ := List.getElem_of_mem hmem
    obtain rfl := of_decide_eq_true hshown
    exact (duplicateName_loadVpnProfile data client listed _).mp
      ((h i hi).mpr ((exists_sameName_iff data hi).mpr hname))
  · intro h i hi
    rw [duplicateName_loadVpnProfile]
    constructor
    · intro hmarked
      refine (exists_sameName_iff data hi).mpr
        (Nat.lt_of_lt_of_le hmarked (List.countP_mono_left ?_))
      intro connection _ hboth
      rw [decide_eq_true_iff] at hboth ⊢
      exact hboth.1
    · intro hother
      exact h _ ((exists_sameName_iff data hi).mp hother)

theorem SharedNamesStored.perm {data : CharacterData} {listed listed' : List RemoteConnection}
    (h : listed.Perm listed') : SharedNamesStored data listed ↔ SharedNamesStored data listed' := by
  unfold SharedNamesStored
  simp only [h.countP_eq]

/-- The marks are exact where every shared name is stored by two of the profiles that share it. -/
theorem duplicateName_exact (data : CharacterData) (casefold : Bytes → Bytes)
    (client : VpnClient) :
    (∀ i, ∀ hi : i < (vpnProfilesLoad data casefold client).profiles.length,
      (vpnProfilesLoad data casefold client).profiles[i].duplicateName = true ↔
        ∃ j, ∃ hj : j < (vpnProfilesLoad data casefold client).profiles.length, j ≠ i ∧
          (vpnProfilesLoad data casefold client).profiles[j].name =
            (vpnProfilesLoad data casefold client).profiles[i].name) ↔
      SharedNamesStored data (listedConnections client) := by
  have hload : (vpnProfilesLoad data casefold client).profiles =
      (sortedConnections casefold client).map
        (loadVpnProfile data client (sortedConnections casefold client)) := rfl
  rw [← SharedNamesStored.perm (sortedConnections_perm casefold client),
    ← duplicateName_exact_listed data client]
  simp only [hload, List.length_map, List.getElem_map]
  exact Iff.rfl

/-- A VPN profile with the identifier. -/
def vpnConnection (id uuid : String) : RemoteConnection where
  connectionType := some settingVpnName
  id := some (ascii id)
  uuid := some (ascii uuid)
  serviceType := some (ascii "openvpn")

/-- A client with two profiles of which the identifiers have a tab in them. -/
def tabClient : VpnClient where
  connections := [vpnConnection "a\tb" "1", vpnConnection "a\tb" "2"]
  activeConnections := []
  networkingEnabled := true
  pluginServices := []
  pluginServiceTypes := []

/-- Two profiles listed as `a\tb` are not marked as duplicates. -/
theorem duplicateName_tab :
    ¬ ∀ i, ∀ hi : i < (vpnProfilesLoad latinData id tabClient).profiles.length,
      (vpnProfilesLoad latinData id tabClient).profiles[i].duplicateName = true ↔
        ∃ j, ∃ hj : j < (vpnProfilesLoad latinData id tabClient).profiles.length, j ≠ i ∧
          (vpnProfilesLoad latinData id tabClient).profiles[j].name =
            (vpnProfilesLoad latinData id tabClient).profiles[i].name := by
  intro h
  have hboth : ∃ j, ∃ hj : j < (vpnProfilesLoad latinData id tabClient).profiles.length, j ≠ 0 ∧
      (vpnProfilesLoad latinData id tabClient).profiles[j].name =
        (vpnProfilesLoad latinData id tabClient).profiles[0].name :=
    ⟨1, by decide +kernel, by decide, by decide +kernel⟩
  exact absurd ((h 0 (by decide +kernel)).mpr hboth) (by decide +kernel)

end NmSidebar
