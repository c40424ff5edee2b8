import Mathlib.Logic.Relation
import NmSidebar.Program.Safety
import NmSidebar.Text.Bytes

/-!
# Saving a profile

`actions/profile-save.c`: the secrets that the user has not entered again are read from
NetworkManager, the profile is compared with what it was at the start, and the draft is written with
the version that libnm has last heard of. Below the program is what NetworkManager, libnm's cache
and other clients may do meanwhile.
-/

namespace NmSidebar

open Text Effects

/-! ## Connections -/

/-- A dictionary of properties. The first entry under a name counts. -/
abbrev Properties := List (Bytes × Bytes)

/-- Secrets by setting and property, as they go over the bus. -/
abbrev Secrets := List (Bytes × Properties)

/-- The value of one secret. -/
def Secrets.value (secrets : Secrets) (setting property : Bytes) : Option Bytes :=
  (secrets.lookup setting).bind (·.lookup property)

/-- A setting without its secrets. -/
structure Setting where
  name : Bytes
  properties : Properties
  deriving DecidableEq

/-- `NMConnection`: its settings in libnm's order, and the secrets it holds. -/
structure Connection where
  settings : List Setting
  secrets : Secrets

/-- `nm_connection_get_setting_by_name`. -/
def settingByName (settings : List Setting) (name : Bytes) : Option Setting :=
  settings.find? (·.name = name)

/-- The secrets with the entries of one setting put over those it has. -/
def Secrets.override (secrets : Secrets) (setting : Bytes) (entries : Properties) : Secrets :=
  (setting, entries ++ (secrets.lookup setting).getD []) :: secrets

/-- `nm_connection_update_secrets` with the name of a setting. The error is the name. -/
def updateSecrets (connection : Connection) (setting : Bytes) (secrets : Secrets) :
    Except Bytes Connection :=
  match secrets with
  | [] => .ok connection
  | _ :: _ =>
    match settingByName connection.settings setting with
    | none => .error setting
    | some _ =>
      match secrets.lookup setting with
      | none => .ok connection
      | some entries =>
        .ok { connection with secrets := connection.secrets.override setting entries }

theorem Secrets.value_override (secrets : Secrets) (setting : Bytes) (entries : Properties)
    (s p : Bytes) :
    (secrets.override setting entries).value s p =
      if s = setting then (entries.lookup p).or (secrets.value s p) else secrets.value s p := by
  unfold Secrets.override Secrets.value
  by_cases hs : s = setting
  · subst hs
    rw [List.lookup_cons_self, Option.bind_some, List.lookup_append, if_pos rfl]
    cases secrets.lookup s with
    | none => rfl
    | some old => rfl
  · have hbeq : (s == setting) = false := beq_false_of_ne hs
    rw [List.lookup_cons, hbeq, if_neg hs]

/-- What an update leaves of every secret. -/
theorem updateSecrets_value {connection updated : Connection} {setting : Bytes}
    {secrets : Secrets} (h : updateSecrets connection setting secrets = .ok updated) :
    updated.settings = connection.settings ∧ ∀ s p, updated.secrets.value s p =
      if s = setting then (secrets.value s p).or (connection.secrets.value s p)
      else connection.secrets.value s p := by
  cases secrets with
  | nil =>
    obtain rfl : connection = updated := Except.ok.inj h
    exact ⟨rfl, fun s p => (ite_self _).symm⟩
  | cons entry rest =>
    simp only [updateSecrets] at h
    cases hsetting : settingByName connection.settings setting with
    | none => rw [hsetting] at h; cases h
    | some found =>
      rw [hsetting] at h
      cases hentries : List.lookup setting (entry :: rest) with
      | none =>
        rw [hentries] at h
        obtain rfl : connection = updated := Except.ok.inj h
        refine ⟨rfl, fun s p => ?_⟩
        have hnone : Secrets.value (entry :: rest) setting p = none := by
          rw [Secrets.value, hentries]
          rfl
        by_cases hs : s = setting
        · rw [if_pos hs, hs, hnone, Option.none_or]
        · rw [if_neg hs]
      | some entries =>
        rw [hentries] at h
        obtain rfl := Except.ok.inj h
        refine ⟨rfl, fun s p => ?_⟩
        rw [Secrets.value_override]
        by_cases hs : s = setting
        · rw [if_pos hs, if_pos hs, hs]
          simp only [Secrets.value, hentries, Option.bind_some]
        · rw [if_neg hs, if_neg hs]

/-! ## Calls -/

/-- What libnm knows of the profile: its settings and its version. -/
structure CachedProfile where
  settings : List Setting
  version : ℕ
  deriving DecidableEq

/-- What saving a profile calls for. In `turn` the main loop runs while a request or its reply is
under way; `cache` reads what libnm knows of the profile. -/
inductive SaveCall where
  | turn
  | cache
  | getSecrets (setting : Bytes)
  | update2 (settings : Connection) (versionId : ℕ)
  | addConnection (settings : Connection)
  | notify (message : Bytes)
  | scheduleRefresh (delay : ℕ)

/-- The reply to each call. A failed request is answered with its message. -/
@[reducible] def SaveCall.Reply : SaveCall → Type
  | cache => CachedProfile
  | getSecrets _ => Except Bytes Secrets
  | update2 .. | addConnection _ => Except Bytes Unit
  | _ => Unit

/-- The signature of saving a profile. -/
@[reducible] def saveSig : Signature := ⟨SaveCall, SaveCall.Reply⟩

/-- Programs that save a profile. -/
abbrev SaveM := Prog saveSig

/-- Makes a call that returns at once. -/
abbrev callNow (o : SaveCall) : SaveM o.Reply := Prog.request (S := saveSig) o

/-- Sends a request; the main loop runs before it is handled and again before its reply is
dispatched. -/
def callAsync (o : SaveCall) : SaveM o.Reply := do
  callNow .turn
  let reply ← callNow o
  callNow .turn
  return reply

/-! ## The program -/

/-- `NM_SETTING_WIRELESS_SECURITY_SETTING_NAME`. -/
def wirelessSecurityName : Bytes := ascii "802-11-wireless-security"

/-- `NM_SETTING_802_1X_SETTING_NAME`. -/
def ieee8021xName : Bytes := ascii "802-1x"

/-- `secret_settings`. -/
def secretSettings : List Bytes := [wirelessSecurityName, ieee8021xName]

/-- `nm_setting_wireless_security_get_key_mgmt`, of the setting of that name. -/
def keyManagement (settings : List Setting) : Option Bytes :=
  (settingByName settings wirelessSecurityName).bind (·.properties.lookup (ascii "key-mgmt"))

/-- The key managements without a secret of their own: enterprise and OWE. -/
def keylessManagements : List Bytes :=
  [ascii "wpa-eap", ascii "wpa-eap-suite-b-192", ascii "owe"]

/-- How saving fails: `G_IO_ERROR_BUSY`, or with the error of the request that failed. -/
inductive SaveError where
  | busy (message : Bytes)
  | request (message : Bytes)
  deriving DecidableEq

/-- `SaveProfile`. What is left of `secret_settings` stands for `secret_index`. -/
structure SaveProfile where
  draft : Connection
  baseline : List Setting
  newSecrets : Secrets

/-- `secrets_done` before it goes on: the draft with the saved secrets, and over them those that
have been entered. -/
def secretsDone (save : SaveProfile) (setting : Bytes) (reply : Except Bytes Secrets) :
    Except SaveError SaveProfile :=
  match reply with
  | .error message => .error (.request (ascii "Could not preserve saved credentials: " ++ message))
  | .ok secrets =>
    match updateSecrets save.draft setting secrets with
    | .error message =>
      .error (.request (ascii "Could not preserve saved credentials: " ++ message))
    | .ok draft =>
      match save.newSecrets.lookup setting with
      | none => .ok { save with draft }
      | some _ =>
        match updateSecrets draft setting save.newSecrets with
        | .error message => .error (.request message)
        | .ok draft => .ok { save with draft }

/-- The end of `save_next`, and `update_done`. -/
def saveUpdate (save : SaveProfile) (remote : CachedProfile) : SaveM (Except SaveError Unit) := do
  if remote.settings ≠ save.baseline then
    return .error (.busy (ascii
      "This profile changed while saving. Reopen the editor and try again."))
  else
    match ← callAsync (.update2 save.draft remote.version) with
    | .error message => return .error (.request message)
    | .ok () =>
      callNow (.notify (ascii "Settings saved. Reconnect to apply them."))
      return .ok ()

/-- Whether `save_next` leaves the secrets of a setting unread. -/
def leavesUnread (remote : CachedProfile) (setting : Bytes) : Bool :=
  (setting = wirelessSecurityName &&
    keylessManagements.any fun key => keyManagement remote.settings = some key) ||
  (settingByName remote.settings setting).isNone

/-- `save_next`, with what is left of `secret_settings`. Each time it is entered it finds one state
of libnm's cache. -/
def saveNext (save : SaveProfile) (remote : CachedProfile) :
    List Bytes → SaveM (Except SaveError Unit)
  | [] => saveUpdate save remote
  | setting :: rest => do
    if leavesUnread remote setting then saveNext save remote rest
    else
      let reply ← callAsync (.getSecrets setting)
      match secretsDone save setting reply with
      | .error error => return .error error
      | .ok save =>
        let remote ← callNow .cache
        saveNext save remote rest

/-- `nm_client_add_connection_async` and `add_done`. -/
def saveAdd (draft : Connection) : SaveM (Except SaveError Unit) := do
  match ← callAsync (.addConnection draft) with
  | .error message => return .error (.request message)
  | .ok () =>
    callNow (.notify (ascii "Wi-Fi profile saved. Select it to connect."))
    callNow (.scheduleRefresh 1)
    return .ok ()

/-- `network_sidebar_actions_save_profile`. Without a remote connection the draft is a new
profile. -/
def saveProfile (hasRemote : Bool) (draft : Connection) (version : ℕ) :
    SaveM (Except SaveError Unit) := do
  if hasRemote then
    let remote ← callNow .cache
    if version ≠ remote.version then
      return .error (.busy (ascii
        "This profile changed while you were editing. Reopen the editor and try again."))
    else saveNext ⟨draft, remote.settings, draft.secrets⟩ remote secretSettings
  else saveAdd draft

/-! ## NetworkManager, libnm and other clients -/

/-- What NetworkManager stores of the profile. -/
structure StoredProfile where
  settings : List Setting
  secrets : Secrets
  version : ℕ

/-- The profile as it is stored, as it was stored before, the latest first, and libnm's cache. -/
structure ProfileWorld where
  stored : StoredProfile
  earlier : List StoredProfile
  cache : CachedProfile

namespace ProfileWorld

/-- All that has been stored of the profile. -/
def history (w : ProfileWorld) : List StoredProfile := w.stored :: w.earlier

/-- The profile is changed. -/
def store (w : ProfileWorld) (profile : StoredProfile) : ProfileWorld :=
  { w with stored := profile, earlier := w.stored :: w.earlier }

/-- A change by another client, or something that reaches libnm's cache late. The version and the
settings come with different messages. -/
inductive Foreign (w : ProfileWorld) : ProfileWorld → Prop
  | change (profile : StoredProfile) (h : w.stored.version < profile.version) :
      Foreign w (w.store profile)
  | version (profile : StoredProfile) (h : profile ∈ w.history) :
      Foreign w { w with cache := { w.cache with version := profile.version } }
  | settings (profile : StoredProfile) (h : profile ∈ w.history) :
      Foreign w { w with cache := { w.cache with settings := profile.settings } }

/-- The profile as it was made, with libnm's first sight of it. -/
def created (profile : StoredProfile) : ProfileWorld :=
  ⟨profile, [], ⟨profile.settings, profile.version⟩⟩

/-- What other clients and libnm come to. -/
def Reached (w : ProfileWorld) : Prop :=
  ∃ profile, Relation.ReflTransGen Foreign (created profile) w

end ProfileWorld

/-- Some secret has a value. -/
def Secrets.HasValue (secrets : Secrets) : Prop := ∃ s p, secrets.value s p ≠ none

/-- What `Update2` makes of a profile. NetworkManager keeps the stored secrets where the request
has none at all. -/
structure Updates (request : Connection) (before after : StoredProfile) : Prop where
  settings : after.settings = request.settings
  version : before.version < after.version
  supplied : request.secrets.HasValue → after.secrets = request.secrets
  kept : ¬request.secrets.HasValue → after.secrets = before.secrets

/-- What each call may reply and change. A request may fail whatever it has done. -/
def saves : Behaviour saveSig ProfileWorld
  | .turn, w, _, w' => Relation.ReflTransGen ProfileWorld.Foreign w w'
  | .cache, w, cache, w' => cache = w.cache ∧ w' = w
  | .getSecrets _, w, reply, w' =>
    w' = w ∧ ∀ secrets, reply = .ok secrets → secrets = w.stored.secrets
  | .update2 settings versionId, w, reply, w' =>
    (reply ≠ .ok () ∧ w' = w) ∨ versionId = w.stored.version ∧
      ∃ after, Updates settings w.stored after ∧ w' = w.store after
  | .addConnection _, w, _, w' => w' = w
  | .notify _, w, _, w' => w' = w
  | .scheduleRefresh _, w, _, w' => w' = w

end NmSidebar
