import NmSidebar.Actions.PasswordUpdate
import NmSidebar.Data.VpnProfiles

/-!
# Connection attempts and their watches

The part of `network_actions.c` that starts connections. A call of NetworkManager is pending, then
the active connection that it has returned is watched once a second, and a profile that was made for
one attempt is removed where the attempt has failed. What the user and NetworkManager do is an
event; `record` notes what was found of an attempt and what was begun.
-/

namespace NmSidebar

open Text

/-! ## NetworkManager -/

/-- `NMActiveConnectionStateReason`. -/
inductive ActiveReason where
  | unknown | none | userDisconnected | deviceDisconnected | serviceStopped | ipConfigInvalid
  | connectTimeout | serviceStartTimeout | serviceStartFailed | noSecrets | loginFailed
  | connectionRemoved | dependencyFailed | deviceRealizeFailed | deviceRemoved
  deriving DecidableEq

/-- What is read of an active connection that is watched. -/
structure WatchedActive where
  path : Option Bytes
  state : ActiveConnectionState
  reason : ActiveReason
  connectionType : Option Bytes

/-- What can be read at a moment: of active connections and access points, the type of a profile by
its UUID, and whether there is a window for a dialog. -/
structure WifiView where
  actives : ℕ → WatchedActive
  accessPoints : ℕ → AccessPoint
  connectionByUuid : Bytes → Option (Option Bytes)
  parent : Bool

/-- Labels that are shown. -/
structure WifiTexts where
  /-- `network_sidebar_ap_ssid_text`. -/
  ssidText : Option Bytes → Bytes
  /-- `network_sidebar_connection_type_label`. -/
  typeLabel : Option Bytes → Bytes
  /-- `network_sidebar_enum_label` of a reason. -/
  reasonLabel : ActiveReason → Bytes

/-- `NM_SETTING_WIRELESS_SETTING_NAME`. -/
def settingWirelessName : Bytes := ascii "802-11-wireless"

/-! ## What is kept -/

/-- A saved Wi-Fi profile. -/
structure SavedWifi where
  uuid : Option Bytes
  name : Bytes

/-- `AsyncAction`. An attempt with a profile of its own is on a Wi-Fi device. -/
structure AsyncAction where
  name : Bytes
  isWifi : Bool
  retryWifiAuth : Bool
  wifiDevice : Option ℕ
  wifiAp : Option ℕ
  savedWifi : Option SavedWifi
  tempUuid : Option Bytes
  temporary : tempUuid ≠ none → isWifi = true ∧ wifiDevice ≠ none

/-- `ActivationWatch`. -/
structure ActivationWatch extends AsyncAction where
  active : ℕ
  checksRemaining : ℕ
  key : Bytes

/-- The functions that finish a call. -/
inductive ActivateCall where
  | activate | addAndActivate

/-- `PasswordDialogData`. -/
structure PasswordDialogData where
  device : ℕ
  ap : ℕ
  savedWifi : Option SavedWifi

/-- `TemporaryWifiCleanup`. -/
structure TemporaryWifiCleanup where
  uuid : Bytes
  ssid : Bytes
  retries : ℕ

/-- What `create_wifi_connection` makes. -/
structure WifiConnection where
  id : Bytes
  uuid : Bytes
  ssid : Option Bytes
  mode : Option Bytes
  keyMgmt : Option Bytes
  psk : Option (List Char)

/-- What is asked of the interface and of NetworkManager. -/
inductive WifiEffect where
  | toast (message : Bytes)
  | scheduleRefresh (delay : ℕ)
  | editConnection (uuid : Option Bytes)
  | createProfile
  | editProfile (ssid : Bytes)
  | addAndActivate (connection : WifiConnection) (device : ℕ)
  | activate
  | deactivate (active : ℕ)
  | commitChanges (savedWifi : SavedWifi) (password : List Char)
  | delete (uuid : Bytes)

/-- What was found of an attempt with a profile of its own, and the cleanup that was begun. -/
inductive AttemptNote where
  | callFailed (uuid : Bytes)
  | polled (uuid : Bytes) (state : ActiveConnectionState)
  | cleanup (uuid : Bytes)
  deriving DecidableEq

/-- What the functions below a callback change. -/
structure WifiOutput where
  effects : List WifiEffect
  record : List AttemptNote
  dialogs : List PasswordDialogData
  cleanups : List TemporaryWifiCleanup

namespace WifiOutput

/-- One more effect. -/
def perform (out : WifiOutput) (effect : WifiEffect) : WifiOutput :=
  { out with effects := out.effects ++ [effect] }

/-- `toast`. -/
def toast (out : WifiOutput) (message : Bytes) : WifiOutput := out.perform (.toast message)

/-- `schedule_refresh`. -/
def scheduleRefresh (out : WifiOutput) (delay : ℕ) : WifiOutput :=
  out.perform (.scheduleRefresh delay)

/-- A note of the attempt, where it has a profile of its own. -/
def note (out : WifiOutput) (tempUuid : Option Bytes) (entry : Bytes → AttemptNote) : WifiOutput :=
  { out with record := out.record ++ (tempUuid.map entry).toList }

/-- `temporary_wifi_cleanup_attempt`. -/
def temporaryWifiCleanupAttempt (view : WifiView) (out : WifiOutput)
    (cleanup : TemporaryWifiCleanup) : WifiOutput :=
  match view.connectionByUuid cleanup.uuid with
  | none =>
    if 0 < cleanup.retries then
      { out with cleanups := { cleanup with retries := cleanup.retries - 1 } :: out.cleanups }
    else out
  | some type => if type ≠ some settingWirelessName then out else out.perform (.delete cleanup.uuid)

/-- `cleanup_temporary_wifi_profile`. -/
def cleanupTemporaryWifiProfile (view : WifiView) (out : WifiOutput) (uuid : Option Bytes)
    (ssid : Bytes) : WifiOutput :=
  match uuid with
  | none => out
  | some temporary =>
    (out.note uuid .cleanup).temporaryWifiCleanupAttempt view ⟨temporary, ssid, 8⟩

/-- `prompt_wifi_password`. -/
def promptWifiPassword (view : WifiView) (out : WifiOutput) (device ap : ℕ)
    (savedWifi : Option SavedWifi) : WifiOutput :=
  if view.parent = false then out.toast (ascii "Wi-Fi password is required")
  else { out with dialogs := ⟨device, ap, savedWifi⟩ :: out.dialogs }

end WifiOutput

/-! ## Failures -/

/-- `reason_looks_like_auth_failure`. -/
def reasonLooksLikeAuthFailure (reason : ActiveReason) : Bool :=
  reason = .loginFailed || reason = .noSecrets

/-- The words of `error_looks_like_auth_failure`. -/
def authWords : List Bytes :=
  [ascii "secret", ascii "password", ascii "psk", ascii "802.1x", ascii "supplicant", ascii "login"]

/-- `error_looks_like_auth_failure`, with the message of the error. -/
def errorLooksLikeAuthFailure (message : Bytes) : Bool :=
  authWords.any fun word => (message.map toLower).tails.any fun rest => word.isPrefixOf rest

/-- `activation_reason_is_user_disconnected`. The reason is a constant of an enumeration and no
macro, so that the `#ifdef` leaves the comparison out. -/
def activationReasonIsUserDisconnected (_reason : ActiveReason) : Bool := false

/-- `activation_failed_message`. -/
def activationFailedMessage (texts : WifiTexts) (kind name : Bytes) (reason : ActiveReason) :
    Bytes :=
  let message := kind ++ ascii " failed to connect: " ++ name
  if reason = .none ∨ reason = .unknown then message
  else message ++ ascii " (" ++ texts.reasonLabel reason ++ ascii ")"

/-- `handle_wifi_auth_failure`. -/
def handleWifiAuthFailure (view : WifiView) (out : WifiOutput) (name : Bytes) (device ap : Option ℕ)
    (savedWifi : Option SavedWifi) (tempUuid : Option Bytes) : WifiOutput × Bool :=
  match device with
  | none => (out, false)
  | some device =>
    let out := out.cleanupTemporaryWifiProfile view tempUuid name
    let uuid := savedWifi.bind SavedWifi.uuid
    match ap with
    | none =>
      ((out.toast (ascii "Wi-Fi password needed for " ++ name ++ ascii "; opening editor")).perform
        (.editConnection uuid), true)
    | some ap =>
      if (view.accessPoints ap).needsPassword then
        ((out.toast (ascii "Wi-Fi password needed for " ++ name)).promptWifiPassword view device ap
          savedWifi, true)
      else
        let out := out.toast (ascii "Opening advanced Wi-Fi editor for " ++ name)
        match uuid with
        | some _ => (out.perform (.editConnection uuid), true)
        | none => (out.perform .createProfile, true)

/-! ## Watches -/

/-- What `activation_watch_poll` does where the active connection is deactivated. -/
def activationWatchFailed (texts : WifiTexts) (view : WifiView) (out : WifiOutput)
    (watch : ActivationWatch) : WifiOutput :=
  let active := view.actives watch.active
  let auth := watch.retryWifiAuth && reasonLooksLikeAuthFailure active.reason
  let out :=
    if watch.isWifi && watch.tempUuid.isSome && !auth then
      out.cleanupTemporaryWifiProfile view watch.tempUuid watch.name
    else out
  let (out, handled) :=
    if watch.isWifi && auth then
      handleWifiAuthFailure view out watch.name watch.wifiDevice watch.wifiAp watch.savedWifi
        watch.tempUuid
    else (out, false)
  let out :=
    if !handled && !activationReasonIsUserDisconnected active.reason then
      out.toast (activationFailedMessage texts (texts.typeLabel active.connectionType) watch.name
        active.reason)
    else out
  out.scheduleRefresh 500

/-- `activation_watch_poll`: the watch as it goes on, where it does. -/
def activationWatchPoll (texts : WifiTexts) (view : WifiView) (out : WifiOutput)
    (watch : ActivationWatch) : WifiOutput × Option ActivationWatch :=
  let state := (view.actives watch.active).state
  let out := out.note watch.tempUuid fun uuid => .polled uuid state
  if state = .activated then (out.scheduleRefresh 500, none)
  else if state = .deactivated then (activationWatchFailed texts view out watch, none)
  else if watch.checksRemaining = 0 then (out.scheduleRefresh 500, none)
  else (out, some { watch with checksRemaining := watch.checksRemaining - 1 })

/-- `activation_watch_key`. -/
def activationWatchKey (view : WifiView) (active : ℕ) (fallback : Bytes) : Bytes :=
  match (view.actives active).path with
  | some path => if path ≠ [] then path else if fallback ≠ [] then fallback else ascii "connection"
  | none => if fallback ≠ [] then fallback else ascii "connection"

/-! ## The state and the events -/

/-- `NetworkSidebarActions`, as far as connections are concerned, with the calls of NetworkManager
that are pending. `generated` has the UUIDs of the profiles that were made. -/
structure WifiActions where
  view : WifiView
  out : WifiOutput
  generated : List Bytes
  pending : List (ActivateCall × AsyncAction)
  /-- `activation_watches`, a hash table. -/
  watches : List ActivationWatch
  commits : List PasswordDialogData

namespace WifiActions

/-- `g_hash_table_remove` of `activation_watches`. -/
def removeWatch (s : WifiActions) (key : Bytes) : WifiActions :=
  { s with watches := s.watches.filter (·.key ≠ key) }

/-- A watch is polled, and inserted where it goes on. -/
def pollWatch (texts : WifiTexts) (s : WifiActions) (watch : ActivationWatch) : WifiActions :=
  let (out, next) := activationWatchPoll texts s.view s.out watch
  { s with out, watches := next.toList ++ s.watches }

/-- `start_activation_watch`. -/
def startActivationWatch (texts : WifiTexts) (s : WifiActions) (async : AsyncAction)
    (active : Option ℕ) : WifiActions :=
  match active with
  | none => s
  | some active =>
    let key := activationWatchKey s.view active async.name
    (s.removeWatch key).pollWatch texts { async with active, checksRemaining := 70, key }

/-- `activation_watch_cb`. -/
def activationWatchCb (texts : WifiTexts) (s : WifiActions) (watch : ActivationWatch) :
    WifiActions :=
  (s.removeWatch watch.key).pollWatch texts watch

/-- What `activate_finish_cb` and `add_and_activate_wifi_finish_cb` do with an error. -/
def activateFailed (s : WifiActions) (async : AsyncAction) (retries : Bool)
    (savedWifi : Option SavedWifi) (could : Bytes) (delay : ℕ) (message : Bytes) : WifiActions :=
  let out := s.out.note async.tempUuid .callFailed
  let (out, handled) :=
    if retries && errorLooksLikeAuthFailure message then
      handleWifiAuthFailure s.view out async.name async.wifiDevice async.wifiAp savedWifi
        async.tempUuid
    else (out, false)
  if handled then { s with out := out.scheduleRefresh 1000 }
  else
    let out := out.toast (could ++ async.name ++ ascii ": " ++ message)
    let out := out.cleanupTemporaryWifiProfile s.view async.tempUuid async.name
    { s with out := out.scheduleRefresh delay }

/-- What they do with what was activated. -/
def activateStarted (texts : WifiTexts) (s : WifiActions) (async : AsyncAction) (delay : ℕ)
    (active : Option ℕ) : WifiActions :=
  let s := s.startActivationWatch texts async active
  { s with out := s.out.scheduleRefresh delay }

/-- `activate_finish_cb`. -/
def activateFinishCb (texts : WifiTexts) (s : WifiActions) (async : AsyncAction) :
    Except Bytes (Option ℕ) → WifiActions
  | .error message =>
    s.activateFailed async (async.isWifi && async.retryWifiAuth) async.savedWifi
      (ascii "Could not connect ") 1000 message
  | .ok active => s.activateStarted texts async 1000 active

/-- `add_and_activate_wifi_finish_cb`. -/
def addAndActivateWifiFinishCb (texts : WifiTexts) (s : WifiActions) (async : AsyncAction) :
    Except Bytes (Option ℕ) → WifiActions
  | .error message =>
    s.activateFailed async async.retryWifiAuth none (ascii "Could not connect to ") 1200 message
  | .ok active => s.activateStarted texts async 1200 active

/-- The callback of a call. -/
def activateFinish (texts : WifiTexts) (s : WifiActions) :
    ActivateCall → AsyncAction → Except Bytes (Option ℕ) → WifiActions
  | .activate => s.activateFinishCb texts
  | .addAndActivate => s.addAndActivateWifiFinishCb texts

/-- `wifi_connection_mode`. -/
def wifiConnectionMode : WifiMode → Option Bytes
  | .adhoc => some (ascii "adhoc")
  | .infra => some (ascii "infrastructure")
  | .mesh => some (ascii "mesh")
  | _ => none

/-- `create_wifi_connection`, with the UUID that was generated. -/
def createWifiConnection (texts : WifiTexts) (ap : AccessPoint) (password : Option (List Char))
    (uuid : Bytes) : WifiConnection where
  id := texts.ssidText ap.ssid
  uuid
  ssid := ap.ssid
  mode := wifiConnectionMode ap.mode
  keyMgmt :=
    match password with
    | some _ => some (passwordKeyMgmt ap none)
    | none => if ap.supportsOwe then some (ascii "owe") else none
  psk := password

/-- `add_and_activate_wifi`, with the UUID that was generated. -/
def addAndActivateWifi (texts : WifiTexts) (s : WifiActions) (device ap : ℕ)
    (password : Option (List Char)) (uuid : Bytes) : WifiActions :=
  let accessPoint := s.view.accessPoints ap
  let ssid := texts.ssidText accessPoint.ssid
  let async : AsyncAction :=
    { name := ssid, isWifi := true, retryWifiAuth := password.isSome, wifiDevice := some device
      wifiAp := some ap, savedWifi := none, tempUuid := some uuid
      temporary := fun _ => ⟨rfl, nofun⟩ }
  let out := s.out.toast (ascii "Connecting to " ++ ssid ++ ascii "...")
  { s with
    out := out.perform
      (.addAndActivate (createWifiConnection texts accessPoint password uuid) device)
    generated := uuid :: s.generated
    pending := s.pending ++ [(.addAndActivate, async)] }

/-- The calls of `nm_client_activate_connection_async`, for connections that there are already. -/
def activateConnection (s : WifiActions) (async : AsyncAction) : WifiActions :=
  { s with out := s.out.perform .activate, pending := s.pending ++ [(.activate, async)] }

/-- `access_point_context`. -/
def accessPointContext (ap : AccessPoint) : Option Bytes :=
  let bssid := (ap.bssid.filter (· ≠ [])).map fun bssid => ascii "BSSID " ++ bssid
  let frequency := if ap.frequency ≠ 0 then
    some (decimal ap.frequency.toNat ++ ascii " MHz") else none
  match bssid, frequency with
  | some bssid, some frequency => some (bssid ++ ascii " - " ++ frequency)
  | bssid, frequency => bssid.or frequency

/-- `network_sidebar_actions_connect_wifi`, with a UUID for the profile. -/
def connectWifi (texts : WifiTexts) (s : WifiActions) (device ap : ℕ) (uuid : Bytes) :
    WifiActions :=
  let accessPoint := s.view.accessPoints ap
  if !accessPoint.hasSsid then
    let message := match accessPointContext accessPoint with
      | some context => ascii "Opening advanced Wi-Fi editor for hidden network (" ++ context ++
          ascii "); enter the SSID"
      | none => ascii "Opening advanced Wi-Fi editor for hidden network; enter the SSID"
    { s with out := (s.out.toast message).perform .createProfile }
  else if !accessPoint.isSecure || accessPoint.supportsOwe then
    s.addAndActivateWifi texts device ap none uuid
  else if !accessPoint.needsPassword then
    let ssid := texts.ssidText accessPoint.ssid
    let out := s.out.toast (ascii "Opening advanced Wi-Fi editor for " ++ ssid)
    { s with out := out.perform (.editProfile ssid) }
  else { s with out := s.out.promptWifiPassword s.view device ap none }

/-- `wifi_password_error`. -/
def wifiPasswordError (password : List Char) : Option Bytes :=
  if password = [] then some (ascii "Password is required")
  else if password.length < 8 then some (ascii "Wi-Fi password must be at least 8 characters")
  else none

/-- `password_dialog_chosen_cb`, of a dialog that is gone, with a UUID for the profile. -/
def passwordDialogChosen (texts : WifiTexts) (s : WifiActions) (data : PasswordDialogData)
    (connect : Bool) (password : List Char) (uuid : Bytes) : WifiActions :=
  if connect = false then s
  else
    match wifiPasswordError password with
    | some message => { s with out := s.out.toast message }
    | none =>
      match data.savedWifi with
      | some savedWifi =>
        let out :=
          s.out.toast (ascii "Updating Wi-Fi password for " ++ savedWifi.name ++ ascii "...")
        { s with
          out := out.perform (.commitChanges savedWifi password)
          commits := s.commits ++ [data] }
      | none => s.addAndActivateWifi texts data.device data.ap (some password) uuid

/-- The action of `network_sidebar_actions_activate_saved_wifi_profile_on_device`. -/
def savedWifiAction (data : PasswordDialogData) : AsyncAction where
  name := (data.savedWifi.map SavedWifi.name).getD []
  isWifi := true
  retryWifiAuth := true
  wifiDevice := some data.device
  wifiAp := some data.ap
  savedWifi := data.savedWifi
  tempUuid := none
  temporary := nofun

/-- `commit_password_finish_cb`, with the message of an error. -/
def commitPasswordFinish (s : WifiActions) (data : PasswordDialogData) (error : Option Bytes) :
    WifiActions :=
  match error with
  | some message =>
    let name := (data.savedWifi.map SavedWifi.name).getD []
    let out := s.out.toast (ascii "Could not update Wi-Fi password for " ++ name ++ ascii ": " ++
      message)
    { s with out := out.scheduleRefresh 1000 }
  | none =>
    let s := s.activateConnection (savedWifiAction data)
    { s with out := s.out.scheduleRefresh 500 }

/-- `network_sidebar_actions_deactivate`. -/
def deactivate (s : WifiActions) (active : ℕ) (name : Bytes) : WifiActions :=
  let s := s.removeWatch (activationWatchKey s.view active name)
  let out := s.out.toast (ascii "Disconnecting " ++ name ++ ascii "...")
  { s with out := out.perform (.deactivate active) }

end WifiActions

end NmSidebar
