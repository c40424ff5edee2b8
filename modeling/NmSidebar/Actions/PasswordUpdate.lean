import NmSidebar.Actions.SaveConflicts
import NmSidebar.Data.AccessPoint

/-!
# The password of a saved profile

`update_saved_wifi_password` of `network_actions.c` writes the password that was entered into
libnm's profile before it is committed. A commit that fails leaves it there, and the editor that is
opened next takes it for one that the user has entered.
-/

namespace NmSidebar

open Text Effects

/-! ## The update -/

/-- `NM_SETTING_WIRELESS_SECURITY_PSK`. -/
def pskName : Bytes := ascii "psk"

/-- `NM_SETTING_WIRELESS_SECURITY_KEY_MGMT`. -/
def keyMgmtName : Bytes := ascii "key-mgmt"

/-- The password of a connection. -/
def Connection.psk (connection : Connection) : Option Bytes :=
  connection.secrets.value wirelessSecurityName pskName

/-- `password_key_mgmt`. -/
def passwordKeyMgmt (ap : AccessPoint) (existing : Option Connection) : Bytes :=
  let keyMgmt := existing.bind fun connection => keyManagement connection.settings
  if keyMgmt = some (ascii "sae") ∧ ap.hasSecurity apSecKeyMgmtSae then ascii "sae"
  else if keyMgmt = some (ascii "wpa-psk") ∧ ap.hasSecurity apSecKeyMgmtPsk then ascii "wpa-psk"
  else if ap.hasSecurity apSecKeyMgmtSae then ascii "sae"
  else ascii "wpa-psk"

/-- `g_object_set` of a property of a setting. -/
def setProperty (settings : List Setting) (name property value : Bytes) : List Setting :=
  settings.map fun setting =>
    if setting.name = name then
      { setting with properties := (property, value) :: setting.properties }
    else setting

/-- `update_saved_wifi_password` up to the commit: what libnm's profile has become. -/
def updateSavedWifiPassword (savedWifi : Connection) (ap : AccessPoint) (password : Bytes) :
    Connection :=
  let settings :=
    match settingByName savedWifi.settings wirelessSecurityName with
    | some _ => savedWifi.settings
    | none => savedWifi.settings ++ [⟨wirelessSecurityName, []⟩]
  { settings := setProperty settings wirelessSecurityName keyMgmtName
      (passwordKeyMgmt ap (some savedWifi))
    secrets := savedWifi.secrets.override wirelessSecurityName [(pskName, password)] }

/-- What follows a commit. -/
inductive PasswordEffect where
  | toast (message : Bytes)
  | activateSavedWifiProfileOnDevice
  | scheduleRefresh (delay : ℕ)
  deriving DecidableEq

/-- `commit_password_finish_cb`, with the message of an error. What libnm has of the profile is left
as it is. -/
def commitPasswordFinishCb (savedWifi : Connection) (name : Bytes) (error : Option Bytes) :
    Connection × List PasswordEffect :=
  match error with
  | some message =>
    (savedWifi, [.toast (ascii "Could not update Wi-Fi password for " ++ name ++ ascii ": " ++
      message), .scheduleRefresh 1000])
  | none => (savedWifi, [.activateSavedWifiProfileOnDevice, .scheduleRefresh 500])

/-- What libnm has of the profile once the commit of a password has failed. -/
def failedPasswordUpdate (savedWifi : Connection) (ap : AccessPoint)
    (password name message : Bytes) : Connection :=
  (commitPasswordFinishCb (updateSavedWifiPassword savedWifi ap password) name (some message)).1

/-! ## What it leaves -/

theorem settingByName_setProperty (settings : List Setting) (name property value : Bytes) :
    settingByName (setProperty settings name property value) name =
      (settingByName settings name).map fun setting =>
        { setting with properties := (property, value) :: setting.properties } := by
  unfold settingByName setProperty
  induction settings with
  | nil => rfl
  | cons setting settings ih =>
    by_cases hname : setting.name = name
    · simp [hname]
    · simp only [List.map_cons, List.find?_cons, hname, if_false, decide_false]
      exact ih

/-- The key management that was set is what is read. -/
theorem keyManagement_setProperty (settings : List Setting) (value : Bytes) :
    keyManagement (setProperty settings wirelessSecurityName keyMgmtName value) =
      (settingByName settings wirelessSecurityName).map fun _ => value := by
  unfold keyManagement
  rw [settingByName_setProperty]
  cases settingByName settings wirelessSecurityName with
  | none => rfl
  | some setting =>
    show ((keyMgmtName, value) :: setting.properties).lookup keyMgmtName = some value
    exact List.lookup_cons_self

/-- The key management that was chosen. -/
theorem keyManagement_update (savedWifi : Connection) (ap : AccessPoint) (password : Bytes) :
    keyManagement (updateSavedWifiPassword savedWifi ap password).settings =
      some (passwordKeyMgmt ap (some savedWifi)) := by
  unfold updateSavedWifiPassword
  dsimp only
  rw [keyManagement_setProperty]
  cases hsetting : settingByName savedWifi.settings wirelessSecurityName with
  | some setting =>
    dsimp only
    rw [hsetting]
    rfl
  | none =>
    have hadded : settingByName (savedWifi.settings ++ [⟨wirelessSecurityName, []⟩])
        wirelessSecurityName = some ⟨wirelessSecurityName, []⟩ := by
      unfold settingByName at hsetting ⊢
      rw [List.find?_append, hsetting]
      simp
    dsimp only
    rw [hadded]
    rfl

/-- Only the password has changed among the secrets. -/
theorem secrets_update (savedWifi : Connection) (ap : AccessPoint) (password s p : Bytes) :
    (updateSavedWifiPassword savedWifi ap password).secrets.value s p =
      if s = wirelessSecurityName ∧ p = pskName then some password
      else savedWifi.secrets.value s p := by
  unfold updateSavedWifiPassword
  rw [Secrets.value_override]
  by_cases hs : s = wirelessSecurityName
  · by_cases hp : p = pskName
    · rw [if_pos hs, if_pos ⟨hs, hp⟩, hp]
      rfl
    · have hbeq : (p == pskName) = false := beq_false_of_ne hp
      rw [if_pos hs, if_neg fun h => hp h.2, List.lookup_cons, hbeq]
      rfl
  · rw [if_neg hs, if_neg fun h => hs h.1]

theorem passwordKeyMgmt_cases (ap : AccessPoint) (existing : Option Connection) :
    passwordKeyMgmt ap existing = ascii "sae" ∨ passwordKeyMgmt ap existing = ascii "wpa-psk" := by
  unfold passwordKeyMgmt
  dsimp only
  split
  · exact .inl rfl
  split
  · exact .inr rfl
  split
  · exact .inl rfl
  · exact .inr rfl

/-! ## The save that follows -/

/-- The key management and the secrets of a profile are as they were. -/
structure Traceless (before after : Connection) : Prop where
  keyManagement : keyManagement after.settings = keyManagement before.settings
  secrets : ∀ s p, after.secrets.value s p = before.secrets.value s p

/-- In every save of a draft that the editor has cloned from libnm's profile, where no password was
typed, whatever `Update2` is sent carries the saved password. -/
def KeepsSaved (cached : Connection) (saved : Option Bytes) : Prop :=
  ∀ (draft : Connection) (version : ℕ) (w w' : ProfileWorld)
    (tr : List (Event saveSig ProfileWorld)) (q : SaveM (Except SaveError Unit)),
    draft.secrets = cached.secrets →
    w.cache.settings = cached.settings → Steps saves (saveProfile true draft version) w tr q w' →
    ∀ pre request versionId before reply after post,
      tr = pre ++ ⟨.update2 request versionId, before, reply, after⟩ :: post →
      (saveLedger pre).value wirelessSecurityName pskName = saved → request.psk = saved

/-- An `Update2` carries the password of the draft, or else the one that was read. -/
theorem update_psk {draft : Connection} {version : ℕ} {w w' : ProfileWorld}
    {tr : List (Event saveSig ProfileWorld)} {q : SaveM (Except SaveError Unit)}
    (hs : Steps saves (saveProfile true draft version) w tr q w')
    {pre post : List (Event saveSig ProfileWorld)} {request : Connection} {versionId : ℕ}
    {before after : ProfileWorld} {reply : Except Bytes Unit}
    (htr : tr = pre ++ ⟨.update2 request versionId, before, reply, after⟩ :: post) :
    request.psk = draft.psk.or ((saveLedger pre).value wirelessSecurityName pskName) := by
  have hsafe := @safe_saveProfile w draft version true
  obtain ⟨hissued, -⟩ := hsafe.monitored hs
  exact (hissued pre _ post htr).secrets wirelessSecurityName pskName

/-- The main loop stands still while a request is under way. -/
theorem steps_callAsync {o : SaveCall} {f : SaveCall.Reply o → SaveM (Except SaveError Unit)}
    {w w₁ w' : ProfileWorld} {reply : SaveCall.Reply o} (hreply : saves o w reply w₁)
    {tr : List (Event saveSig ProfileWorld)} {q : SaveM (Except SaveError Unit)}
    (hs : Steps saves (f reply) w₁ tr q w') :
    Steps saves (callAsync o >>= f) w (⟨.turn, w, (), w⟩ :: ⟨o, w, reply, w₁⟩ ::
      ⟨.turn, w₁, (), w₁⟩ :: tr) q w' :=
  .step (show saves .turn w () w from .refl) (.step hreply
    (.step (show saves .turn w₁ () w₁ from .refl) hs))

/-- What was read of a setting that the profile has is taken over. -/
theorem secretsDone_ok (save : SaveProfile) {setting : Bytes} (secrets : Secrets)
    (hsetting : (settingByName save.draft.settings setting).isSome) :
    ∃ save', secretsDone save setting (.ok secrets) = .ok save' ∧
      save'.draft.settings = save.draft.settings ∧ save'.baseline = save.baseline := by
  have hupdates (connection : Connection) (entries : Secrets)
      (hsettings : connection.settings = save.draft.settings) : ∃ updated,
      updateSecrets connection setting entries = .ok updated ∧
        updated.settings = connection.settings := by
    obtain ⟨found, hfound⟩ := Option.isSome_iff_exists.mp hsetting
    unfold updateSecrets
    rw [hsettings, hfound]
    cases entries with
    | nil => exact ⟨_, rfl, hsettings⟩
    | cons entry entries =>
      dsimp only
      cases List.lookup setting (entry :: entries) with
      | none => exact ⟨_, rfl, hsettings⟩
      | some entries => exact ⟨_, rfl, rfl⟩
  obtain ⟨read, hread, hsame⟩ := hupdates save.draft secrets rfl
  obtain ⟨entered, hentered, hsame'⟩ := hupdates read save.newSecrets hsame
  unfold secretsDone
  simp only [hread, hentered]
  cases save.newSecrets.lookup setting with
  | none => exact ⟨_, rfl, hsame, rfl⟩
  | some entries => exact ⟨_, rfl, hsame'.trans hsame, rfl⟩

/-- The reads of the settings that are left. -/
def readsLeft (w : ProfileWorld) (rest : List Bytes) : List (Bytes × Secrets) :=
  (rest.filter fun setting => !leavesUnread w.cache setting).map (·, w.stored.secrets)

/-- Where nobody else does anything, a save of settings that libnm knows comes to an `Update2`. -/
theorem reaches_update (w : ProfileWorld) (rest : List Bytes) (save : SaveProfile)
    (hbaseline : save.baseline = w.cache.settings)
    (hdraft : save.draft.settings = w.cache.settings) :
    ∃ pre request versionId q, Steps saves (saveNext save w.cache rest) w
      (pre ++ [⟨.update2 request versionId, w, .error [], w⟩]) q w ∧
      ∀ ledger, (pre.foldl SaveLedger.record ledger).reads = ledger.reads ++ readsLeft w rest := by
  induction rest generalizing save with
  | nil =>
    refine ⟨[⟨.turn, w, (), w⟩], save.draft, w.cache.version, ?_⟩
    unfold saveNext saveUpdate
    rw [if_neg (not_not.mpr hbaseline.symm)]
    exact ⟨_, .step (show saves .turn w () w from .refl) (.step (.inl ⟨by simp, rfl⟩) (.here _ _)),
      fun ledger => (List.append_nil _).symm⟩
  | cons setting rest ih =>
    unfold saveNext
    by_cases hunread : leavesUnread w.cache setting = true
    · rw [if_pos hunread]
      obtain ⟨pre, request, versionId, q, hs, hreads⟩ := ih save hbaseline hdraft
      refine ⟨pre, request, versionId, q, hs, fun ledger => ?_⟩
      rw [hreads, readsLeft, readsLeft, List.filter_cons_of_neg (by simp [hunread])]
    · rw [if_neg hunread]
      have hsetting : (settingByName save.draft.settings setting).isSome := by
        rw [hdraft]
        by_contra hnone
        refine hunread (Bool.or_eq_true_iff.mpr (.inr ?_))
        simpa using hnone
      obtain ⟨save', hsave', hdraft', hbaseline'⟩ := secretsDone_ok save w.stored.secrets hsetting
      obtain ⟨pre, request, versionId, q, hs, hreads⟩ :=
        ih save' (hbaseline'.trans hbaseline) (hdraft'.trans hdraft)
      have hread : saves (.getSecrets setting) w (.ok w.stored.secrets) w :=
        ⟨rfl, fun secrets h => (Except.ok.inj h).symm⟩
      refine ⟨_ :: _ :: _ :: ⟨.cache, w, w.cache, w⟩ :: pre, request, versionId, q,
        steps_callAsync hread ?_, fun ledger => ?_⟩
      · rw [hsave']
        exact .step (show saves .cache w w.cache w from ⟨rfl, rfl⟩) hs
      · rw [readsLeft, List.filter_cons_of_pos (by simp [hunread])]
        refine (hreads _).trans ?_
        exact List.append_assoc ledger.reads [(setting, w.stored.secrets)] _

/-- NetworkManager has stored a profile with one password, while libnm has other settings of it. -/
def refusedWorld (stored cached : List Setting) (saved : Option Bytes) : ProfileWorld where
  stored :=
    ⟨stored, [(wirelessSecurityName, (saved.map fun password => (pskName, password)).toList)], 1⟩
  earlier := []
  cache := ⟨cached, 1⟩

/-- The secrets of wireless security are read for a key management with a password. -/
theorem leavesUnread_passwordKeyMgmt {settings : List Setting} {ap : AccessPoint}
    {existing : Option Connection} (version : ℕ)
    (h : keyManagement settings = some (passwordKeyMgmt ap existing)) :
    leavesUnread ⟨settings, version⟩ wirelessSecurityName = false := by
  have hsome : (settingByName settings wirelessSecurityName).isNone = false := by
    unfold keyManagement at h
    cases hsetting : settingByName settings wirelessSecurityName with
    | none => rw [hsetting] at h; exact absurd h nofun
    | some setting => rfl
  have hkeyed : (keylessManagements.any fun key => keyManagement settings = some key) = false := by
    rw [h]
    rcases passwordKeyMgmt_cases ap existing with hmgmt | hmgmt <;> rw [hmgmt] <;> decide +kernel
  unfold leavesUnread
  simp only [hsome, hkeyed, Bool.and_false, Bool.or_false]

/-- Some save of the editor's sends an `Update2` after the saved password was read. -/
theorem reaches_update_saved (cached : Connection) (stored : List Setting) {ap : AccessPoint}
    {existing : Option Connection} (saved : Option Bytes)
    (hmgmt : keyManagement cached.settings = some (passwordKeyMgmt ap existing)) :
    ∃ pre request versionId q, Steps saves (saveProfile true cached 1)
      (refusedWorld stored cached.settings saved)
      (pre ++ [⟨.update2 request versionId, refusedWorld stored cached.settings saved, .error [],
        refusedWorld stored cached.settings saved⟩]) q
      (refusedWorld stored cached.settings saved) ∧
      (saveLedger pre).value wirelessSecurityName pskName = saved := by
  obtain ⟨pre, request, versionId, q, hs, hreads⟩ :=
    reaches_update (refusedWorld stored cached.settings saved) secretSettings
      ⟨cached, cached.settings, cached.secrets⟩ rfl rfl
  refine ⟨⟨.cache, _, ⟨cached.settings, 1⟩, _⟩ :: pre, request, versionId, q,
    .step (show saves .cache _ ⟨cached.settings, 1⟩ _ from ⟨rfl, rfl⟩) hs, ?_⟩
  have hfirst : readsLeft (refusedWorld stored cached.settings saved) secretSettings =
      (wirelessSecurityName, (refusedWorld stored cached.settings saved).stored.secrets) ::
        readsLeft (refusedWorld stored cached.settings saved) [ieee8021xName] := by
    unfold readsLeft secretSettings
    rw [List.filter_cons_of_pos, List.map_cons]
    rw [refusedWorld, leavesUnread_passwordKeyMgmt 1 hmgmt]
    rfl
  unfold SaveLedger.value saveLedger
  rw [List.foldl_cons, hreads, hfirst]
  show (List.lookup wirelessSecurityName ((wirelessSecurityName, _) :: _)).bind _ = saved
  rw [List.lookup_cons_self, Option.bind_some]
  show (List.lookup wirelessSecurityName [(wirelessSecurityName, _)]).bind _ = saved
  rw [List.lookup_cons_self, Option.bind_some]
  cases saved with
  | none => rfl
  | some password =>
    show List.lookup pskName [(pskName, password)] = some password
    rw [List.lookup_cons_self]

/-! ## When a failed update leaves no trace -/

/-- A commit of a password that fails leaves the profile as it was, and what the editor saves next
as it was stored, exactly where nothing was to be changed: libnm has the password that was entered,
with the key management that was chosen, and it is the saved one. -/
theorem failedPasswordUpdate_traceless_iff (savedWifi : Connection) (ap : AccessPoint)
    (password name message : Bytes) (saved : Option Bytes) :
    (Traceless savedWifi (failedPasswordUpdate savedWifi ap password name message) ∧
        KeepsSaved (failedPasswordUpdate savedWifi ap password name message) saved) ↔
      keyManagement savedWifi.settings = some (passwordKeyMgmt ap (some savedWifi)) ∧
        savedWifi.psk = some password ∧ saved = some password := by
  have hafter : failedPasswordUpdate savedWifi ap password name message =
      updateSavedWifiPassword savedWifi ap password := rfl
  have hmgmt := keyManagement_update savedWifi ap password
  have hpsk : (updateSavedWifiPassword savedWifi ap password).psk = some password := by
    rw [Connection.psk, secrets_update, if_pos ⟨rfl, rfl⟩]
  rw [hafter]
  constructor
  · rintro ⟨htraceless, hkeeps⟩
    refine ⟨htraceless.keyManagement.symm.trans hmgmt, ?_, ?_⟩
    · exact (htraceless.secrets wirelessSecurityName pskName).symm.trans hpsk
    · obtain ⟨pre, request, versionId, q, hs, hledger⟩ := reaches_update_saved
        (updateSavedWifiPassword savedWifi ap password) savedWifi.settings saved hmgmt
      have hsent := update_psk hs rfl
      rw [hpsk, Option.some_or] at hsent
      exact (hkeeps _ 1 _ _ _ _ rfl rfl hs pre request versionId _ _ _ [] rfl hledger).symm.trans
        hsent
  · rintro ⟨hsame, hcached, hsaved⟩
    refine ⟨⟨hmgmt.trans hsame.symm, fun s p => ?_⟩, ?_⟩
    · rw [secrets_update]
      by_cases hsp : s = wirelessSecurityName ∧ p = pskName
      · obtain ⟨rfl, rfl⟩ := hsp
        rw [if_pos ⟨rfl, rfl⟩]
        exact hcached.symm
      · rw [if_neg hsp]
    · intro draft version w w' tr q hdraft hcache hs pre request versionId before reply after post
        htr hledger
      rw [update_psk hs htr, Connection.psk, hdraft, hledger, hsaved]
      exact (congrArg (Option.or · (some password)) hpsk).trans rfl

/-- A network with WPA2 and a password. -/
def sampleAccessPoint : AccessPoint where
  path := some (ascii "/org/freedesktop/NetworkManager/AccessPoint/1")
  ssid := some (ascii "home")
  bssid := none
  frequency := 2412
  mode := .infra
  flags := apFlagsPrivacy
  wpaFlags := 0
  rsnFlags := apSecKeyMgmtPsk
  strength := 70

/-- A saved profile as libnm has it: without its password. -/
def sampleSavedWifi : Connection where
  settings := [⟨wirelessSecurityName, [(keyMgmtName, ascii "wpa-psk")]⟩]
  secrets := []

/-- After a wrong password the editor overwrites the saved one. -/
theorem failedPasswordUpdate_traces :
    ¬(Traceless sampleSavedWifi (failedPasswordUpdate sampleSavedWifi sampleAccessPoint
        (ascii "wrong password") (ascii "home") (ascii "timeout")) ∧
      KeepsSaved (failedPasswordUpdate sampleSavedWifi sampleAccessPoint
        (ascii "wrong password") (ascii "home") (ascii "timeout"))
        (some (ascii "right password"))) := by
  rintro ⟨htraceless, -⟩
  have hcached : sampleSavedWifi.secrets.value wirelessSecurityName pskName ≠
      (failedPasswordUpdate sampleSavedWifi sampleAccessPoint (ascii "wrong password")
        (ascii "home") (ascii "timeout")).secrets.value wirelessSecurityName pskName := by
    decide +kernel
  exact hcached (htraceless.secrets wirelessSecurityName pskName).symm

end NmSidebar
