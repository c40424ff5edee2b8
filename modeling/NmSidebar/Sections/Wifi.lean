import NmSidebar.Collections.Clusters
import NmSidebar.Data.AccessPoint
import NmSidebar.Data.VpnProfiles

/-!
# The Wi-Fi section

`sections/wifi.c`: access points are grouped into networks, saved profiles are assigned to the
networks that they suit, and rows go to the lists of connected, available and saved networks. What
is shown on a row beside the objects it acts on is left out.
-/

namespace NmSidebar

open Text Collections

/-! ## The client -/

/-- What is read of an `NMActiveConnection` of a Wi-Fi device. -/
structure WifiActive extends ActiveConnection where
  specificObjectPath : Option Bytes

/-- What is read of an `NMRemoteConnection`. -/
structure RemoteWifi where
  connectionType : Option Bytes
  id : Option Bytes
  uuid : Option Bytes
  path : Option Bytes

/-- An `NMDeviceWifi`. The active access point is known by its path. -/
structure WifiDevice where
  path : Option Bytes
  iface : Option Bytes
  activated : Bool
  activeConnection : Option ℕ
  activeAccessPoint : Option (Option Bytes)
  accessPoints : List AccessPoint
  deriving DecidableEq

/-- A device. -/
inductive NmDevice where
  | wifi (device : WifiDevice)
  | other

/-- What is read of the `NMClient`. Connections are objects, and each has its own UUID and path. -/
structure WifiClient where
  devices : List NmDevice
  connections : List ℕ
  connection : ℕ → RemoteWifi
  activeConnections : List ℕ
  activeConnection : ℕ → WifiActive
  networkingEnabled : Bool
  wirelessHardwareEnabled : Bool
  wirelessEnabled : Bool
  /-- `nm_device_connection_valid`. -/
  deviceConnectionValid : WifiDevice → ℕ → Bool
  /-- `nm_access_point_connection_valid`. -/
  accessPointConnectionValid : AccessPoint → ℕ → Bool
  uuid_unique : ∀ p ∈ connections, ∀ q ∈ connections, (connection p).uuid ≠ none →
    (connection p).uuid = (connection q).uuid → p = q
  path_unique : ∀ p ∈ connections, ∀ q ∈ connections, (connection p).path ≠ none →
    (connection p).path = (connection q).path → p = q

/-- `NM_SETTING_WIRELESS_SETTING_NAME`, as a connection type. -/
def wirelessType : Bytes := ascii "802-11-wireless"

/-! ## Networks -/

/-- `WifiMember`. -/
structure WifiMember where
  device : WifiDevice
  ap : AccessPoint
  active : Option ℕ
  rowState : RowState
  deriving DecidableEq

/-- `WifiEntry`. -/
structure WifiEntry where
  cluster : Cluster WifiMember
  savedConnections : List ℕ

/-- The members of an entry. -/
def WifiEntry.members (entry : WifiEntry) : List WifiMember := entry.cluster.members

/-- `ssid_bytes_equal`. -/
def ssidBytesEqual (left right : Option Bytes) : Bool := left.getD [] = right.getD []

/-- `ap_security_flags`. -/
def apSecurityFlags (ap : AccessPoint) : UInt32 := ap.flags &&& apFlagsPrivacy

/-- A string of C that there is and that has characters. -/
def nonemptyText (text : Option Bytes) : Option Bytes := text.filter (· ≠ [])

/-- `ap_bssid_or_path`. -/
def apBssidOrPath (ap : AccessPoint) : Bytes :=
  match nonemptyText ap.bssid with
  | some bssid => bssid.map toLower
  | none => ap.path.getD []

/-- `device_identity`. -/
def deviceIdentity (device : WifiDevice) : Bytes :=
  match nonemptyText device.path with
  | some path => path
  | none => device.iface.getD (ascii "unknown")

/-- `same_hidden_ap_identity`. -/
def sameHiddenApIdentity (member candidate : WifiMember) : Bool :=
  deviceIdentity member.device = deviceIdentity candidate.device &&
    apBssidOrPath member.ap = apBssidOrPath candidate.ap &&
    member.ap.frequency = candidate.ap.frequency &&
    member.ap.mode = candidate.ap.mode &&
    member.ap.flags = candidate.ap.flags &&
    member.ap.wpaFlags = candidate.ap.wpaFlags &&
    member.ap.rsnFlags = candidate.ap.rsnFlags

/-- `same_network_identity`, of the first member of an entry and a candidate. -/
def sameNetworkIdentity (first candidate : WifiMember) : Bool :=
  if !first.ap.hasSsid || !candidate.ap.hasSsid then
    !first.ap.hasSsid && !candidate.ap.hasSsid && sameHiddenApIdentity first candidate
  else
    ssidBytesEqual first.ap.ssid candidate.ap.ssid &&
      first.ap.mode = candidate.ap.mode &&
      apSecurityFlags first.ap = apSecurityFlags candidate.ap &&
      first.ap.wpaFlags = candidate.ap.wpaFlags &&
      first.ap.rsnFlags = candidate.ap.rsnFlags

/-- `row_state_preferred`. -/
def rowStatePreferred (state : RowState) : Bool := state = .active || state = .connecting

/-- `row_state_rank`. -/
def rowStateRank (state : RowState) : ℕ :=
  if state = .active then 0 else if state = .connecting then 1 else 2

namespace WifiClient

variable (client : WifiClient)

/-- The row state of an active connection that there may be. -/
def activeRowState (active : Option ℕ) : RowState :=
  connectionRowState (active.map fun a => (client.activeConnection a).toActiveConnection)

/-- `ap_matches_active`. -/
def apMatchesActive (device : WifiDevice) (ap : AccessPoint) (active : Option ℕ) : Bool :=
  let specificPath := active.bind fun a => (client.activeConnection a).specificObjectPath
  device.activeAccessPoint = some ap.path ||
    (specificPath.isSome && specificPath ≠ some (ascii "/") && specificPath = ap.path)

/-- An access point of a device with the active connection that it carries. -/
def wifiMember (device : WifiDevice) (ap : AccessPoint) : WifiMember :=
  let currentActive :=
    if client.apMatchesActive device ap device.activeConnection then device.activeConnection
    else none
  ⟨device, ap, currentActive, client.activeRowState currentActive⟩

/-- The access points of all Wi-Fi devices, in the order they are looked at. -/
def wifiMembers : List WifiMember :=
  client.devices.flatMap fun device =>
    match device with
    | .wifi wifi => wifi.accessPoints.map (client.wifiMember wifi)
    | .other => []

/-- `build_wifi_entries`. -/
def buildWifiEntries : List (Cluster WifiMember) := 
  clusters sameNetworkIdentity client.wifiMembers

/-! ## Profiles -/

/-- `wifi_member_matches_profile`. -/
def wifiMemberMatchesProfile (member : WifiMember) (profile : ℕ) : Bool :=
  client.deviceConnectionValid member.device profile &&
    client.accessPointConnectionValid member.ap profile

/-- `wifi_member_active_for_profile`. -/
def wifiMemberActiveForProfile (member : WifiMember) (profile : ℕ) : Bool :=
  let uuid := (client.connection profile).uuid
  let activeUuid := member.active.bind fun a => (client.activeConnection a).uuid
  uuid.isSome && activeUuid.isSome && uuid = activeUuid

/-- The rank of a member in `wifi_member_preferred`. -/
def memberRank (profile : Option ℕ) (member : WifiMember) : ℕ :=
  match profile with
  | some profile =>
    if client.wifiMemberActiveForProfile member profile then rowStateRank member.rowState else 2
  | none => rowStateRank member.rowState

/-- `wifi_member_preferred`. -/
def wifiMemberPreferred (profile : Option ℕ) (candidate current : WifiMember) : Bool :=
  if client.memberRank profile candidate ≠ client.memberRank profile current then
    client.memberRank profile candidate < client.memberRank profile current
  else current.ap.strength < candidate.ap.strength

/-- The profile is active on the member, or may be. -/
def wifiMemberSuits (member : WifiMember) (profile : ℕ) : Bool :=
  client.wifiMemberActiveForProfile member profile || client.wifiMemberMatchesProfile member profile

/-- `wifi_entry_best_member_for_profile`. -/
def wifiEntryBestMemberForProfile (members : List WifiMember) (profile : ℕ) : Option WifiMember :=
  best (client.wifiMemberPreferred (some profile))
    (members.filter fun member => client.wifiMemberSuits member profile)

/-- `wifi_entry_best_member`. -/
def wifiEntryBestMember (members : List WifiMember) : Option WifiMember :=
  best (client.wifiMemberPreferred none) members

/-- `saved_connection_compare`, with `g_utf8_casefold`. -/
def savedConnectionCompare (casefold : Bytes → Bytes) (left right : ℕ) : Ordering :=
  (strcmp0 (some (casefold ((client.connection left).id.getD [])))
      (some (casefold ((client.connection right).id.getD [])))).then
    (strcmp0 (client.connection left).uuid (client.connection right).uuid)

/-- `g_ptr_array_sort` with `saved_connection_compare`. -/
def sortSaved (casefold : Bytes → Bytes) (profiles : List ℕ) : List ℕ :=
  profiles.insertionSort fun left right =>
    (client.savedConnectionCompare casefold left right).isLE = true

/-- `saved_wifi_profiles`. -/
def savedWifiProfiles (casefold : Bytes → Bytes) : List ℕ :=
  client.sortSaved casefold
    (client.connections.filter fun p => (client.connection p).connectionType = some wirelessType)

/-- `assign_saved_wifi_connections`, with the sorting that follows it. -/
def assignSavedWifiConnections (casefold : Bytes → Bytes) (built : List (Cluster WifiMember)) :
    List WifiEntry :=
  built.map fun cluster => ⟨cluster, client.sortSaved casefold
    ((client.savedWifiProfiles casefold).filter fun profile =>
      (client.wifiEntryBestMemberForProfile cluster.members profile).isSome)⟩

/-- The part of `wifi_entry_compare` that a member decides: its rank, and the strength the other way
round. -/
def entryOrder (entry : WifiEntry) : ℕ × ℕ :=
  match client.wifiEntryBestMember entry.members with
  | some member => (rowStateRank member.rowState, 255 - member.ap.strength.toNat)
  | none => (2, 255)

/-- `g_ptr_array_sort` with `wifi_entry_compare`. -/
def sortEntries (entries : List WifiEntry) : List WifiEntry :=
  entries.insertionSort fun left right =>
    (client.entryOrder left).1 < (client.entryOrder right).1 ∨
      (client.entryOrder left).1 = (client.entryOrder right).1 ∧
        (client.entryOrder left).2 ≤ (client.entryOrder right).2

/-- The entries in the order they are shown in. -/
def wifiEntries (casefold : Bytes → Bytes) : List WifiEntry :=
  client.sortEntries (client.assignSavedWifiConnections casefold client.buildWifiEntries)

/-- What `saved_profile_key` writes. -/
inductive SavedProfileKey where
  | uuid (uuid : Bytes)
  | path (path : Bytes)
  | object (object : ℕ)
  deriving DecidableEq

/-- `saved_profile_key`. -/
def savedProfileKey (profile : ℕ) : SavedProfileKey :=
  match nonemptyText (client.connection profile).uuid with
  | some uuid => .uuid uuid
  | none =>
    match nonemptyText (client.connection profile).path with
    | some path => .path path
    | none => .object profile

/-- `active_connection_by_uuid`. -/
def activeConnectionByUuid (uuid : Option Bytes) : Option ℕ :=
  if uuid = none then none
  else client.activeConnections.find? fun a => (client.activeConnection a).uuid = uuid

/-- `compatible_wifi_device_for_profile`. -/
def compatibleWifiDeviceForProfile (profile : ℕ) : Bool :=
  client.devices.any fun device =>
    match device with
    | .wifi wifi => client.deviceConnectionValid wifi profile
    | .other => false

/-- `saved_profile_is_connected`. -/
def savedProfileIsConnected (profile : ℕ) : Bool :=
  rowStatePreferred
    (client.activeRowState (client.activeConnectionByUuid (client.connection profile).uuid))

end WifiClient

/-! ## Rows -/

/-- A row of one of the lists, with the objects it acts on. -/
inductive WifiRow where
  | network (entry : WifiEntry) (member : WifiMember) (saved active : Option ℕ)
      (rowState : RowState) (canActivate : Bool)
  | profile (saved : ℕ) (active : Option ℕ) (rowState : RowState) (activationNote : Option Bytes)
      (canActivate : Bool)
  | notice (title : Bytes)
  | traffic

/-- The profile of a row. -/
def WifiRow.saved : WifiRow → Option ℕ
  | network _ _ saved _ _ _ => saved
  | profile saved .. => some saved
  | notice _ | traffic => none

/-- The row is one of the entry. -/
def WifiRow.IsOf (entry : WifiEntry) : WifiRow → Prop
  | network entry' .. => entry' = entry
  | _ => False

/-- What `network_sidebar_add_wifi_group` shows. -/
structure WifiGroup where
  notices : List Bytes
  connected : List WifiRow
  available : List WifiRow
  saved : List WifiRow

namespace WifiClient

variable (client : WifiClient)

/-- `saved_profile_activation_note`. -/
def savedProfileActivationNote (profile : ℕ) : Option Bytes :=
  if !client.networkingEnabled then some (ascii "Enable networking to connect")
  else if !client.wirelessHardwareEnabled then some (ascii "Wi-Fi hardware is disabled")
  else if !client.wirelessEnabled then some (ascii "Enable Wi-Fi to connect")
  else if !client.compatibleWifiDeviceForProfile profile then
    some (ascii "No compatible Wi-Fi device")
  else none

/-- `add_saved_profile_row`. -/
def addSavedProfileRow (profile : ℕ) : WifiRow :=
  let active := client.activeConnectionByUuid (client.connection profile).uuid
  let note := if active = none then client.savedProfileActivationNote profile else none
  .profile profile active (client.activeRowState active) note (active.isSome || note.isNone)

/-- The profiles whose key is not visible. -/
def unmatchedProfiles (profiles : List ℕ) (visible : List SavedProfileKey) : List ℕ :=
  profiles.filter fun profile => client.savedProfileKey profile ∉ visible

/-- `add_unmatched_connected_saved_profile_rows`. -/
def addUnmatchedConnectedSavedProfileRows (profiles : List ℕ) (visible : List SavedProfileKey) :
    List WifiRow :=
  ((client.unmatchedProfiles profiles visible).filter client.savedProfileIsConnected).map
    client.addSavedProfileRow

/-- `add_unmatched_saved_profile_rows`. -/
def addUnmatchedSavedProfileRows (profiles : List ℕ) (visible : List SavedProfileKey) :
    List WifiRow :=
  ((client.unmatchedProfiles profiles visible).filter
    fun profile => !client.savedProfileIsConnected profile).map client.addSavedProfileRow

/-- `add_network_row`. -/
def addNetworkRow (entry : WifiEntry) (member : WifiMember) (saved active : Option ℕ)
    (rowState : RowState) : WifiRow :=
  .network entry member saved active rowState
    (active.isSome || (client.networkingEnabled && client.wirelessEnabled))

/-- The loop of `add_active_network_rows`, with the active connections that were seen. -/
def activeNetworkRows (entry : WifiEntry) : List ℕ → List WifiMember → List WifiRow
  | _, [] => []
  | seen, member :: members =>
    match member.active with
    | none => activeNetworkRows entry seen members
    | some active =>
      if rowStatePreferred member.rowState && active ∉ seen then
        client.addNetworkRow entry member
          (entry.savedConnections.find? (client.wifiMemberActiveForProfile member)) (some active)
          member.rowState :: activeNetworkRows entry (active :: seen) members
      else activeNetworkRows entry seen members

/-- `add_active_network_rows`. -/
def addActiveNetworkRows (entry : WifiEntry) : List WifiRow :=
  client.activeNetworkRows entry [] entry.members

/-- The row of a saved profile in the available list, where it has one. -/
def availableProfileRow (entry : WifiEntry) (saved : ℕ) : Option WifiRow :=
  (client.wifiEntryBestMemberForProfile entry.members saved).bind fun member =>
    if client.wifiMemberActiveForProfile member saved && rowStatePreferred member.rowState then none
    else some (client.addNetworkRow entry member (some saved) none .none)

/-- What `add_network_rows` adds to the available list. -/
def addAvailableNetworkRows (entry : WifiEntry) : List WifiRow :=
  if entry.savedConnections ≠ [] then
    entry.savedConnections.filterMap (client.availableProfileRow entry)
  else if client.addActiveNetworkRows entry ≠ [] then []
  else
    ((client.wifiEntryBestMember entry.members).map fun member =>
      client.addNetworkRow entry member none none .none).toList

/-- A list, or a notice where it would be empty. -/
def orNotice (rows : List WifiRow) (title : String) : List WifiRow :=
  if rows = [] then [.notice (ascii title)] else rows

/-- `add_saved_profiles_only_group`, below a notice. -/
def addSavedProfilesOnlyGroup (casefold : Bytes → Bytes) (title : String) : WifiGroup :=
  ⟨[ascii title], [], [],
    client.addUnmatchedSavedProfileRows (client.savedWifiProfiles casefold) []⟩

/-- There is a Wi-Fi device. -/
def hasWifiDevice : Bool :=
  client.devices.any fun device =>
    match device with
    | .wifi _ => true
    | .other => false

/-- `wifi_device_activated`. -/
def wifiDeviceActivated : Bool :=
  client.devices.any fun device =>
    match device with
    | .wifi wifi => wifi.activated
    | .other => false

/-- The notice where nothing is listed. -/
def emptyNotice (scanInProgress : Bool) (scanError : Option Bytes) : List Bytes :=
  if scanInProgress then [ascii "Scanning for networks..."]
  else if scanError = none then [ascii "No networks found"]
  else []

/-- The notice of a scan that has failed. -/
def scanNotice (scanError : Option Bytes) : List Bytes :=
  if scanError ≠ none then [ascii "Wi-Fi scan failed"] else []

/-- The keys of the profiles that some entry has. -/
def visibleSavedKeys (entries : List WifiEntry) : List SavedProfileKey :=
  (entries.flatMap WifiEntry.savedConnections).map client.savedProfileKey

/-- `network_sidebar_add_wifi_group`. -/
def addWifiGroup (casefold : Bytes → Bytes) (scanInProgress : Bool) (scanError : Option Bytes) :
    WifiGroup :=
  if !client.hasWifiDevice then client.addSavedProfilesOnlyGroup casefold "No Wi-Fi devices"
  else if !client.wirelessHardwareEnabled then
    client.addSavedProfilesOnlyGroup casefold "Wi-Fi hardware is disabled"
  else if !client.wirelessEnabled then client.addSavedProfilesOnlyGroup casefold "Wi-Fi is off"
  else
    let profiles := client.savedWifiProfiles casefold
    let entries := client.wifiEntries casefold
    if entries = [] ∧ profiles = [] then
      ⟨emptyNotice scanInProgress scanError ++ scanNotice scanError, [], [], []⟩
    else
      let visible := client.visibleSavedKeys entries
      let connected := entries.flatMap client.addActiveNetworkRows ++
        client.addUnmatchedConnectedSavedProfileRows profiles visible
      let traffic := if connected ≠ [] ∧ client.wifiDeviceActivated = true then [WifiRow.traffic]
        else []
      { notices := scanNotice scanError
        connected := orNotice connected "Not connected" ++ traffic
        available :=
          orNotice (entries.flatMap client.addAvailableNetworkRows) "No other networks in range"
        saved := orNotice (client.addUnmatchedSavedProfileRows profiles visible)
          "No saved networks out of range" }

end WifiClient

end NmSidebar
