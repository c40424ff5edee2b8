import NmSidebar.Actions.ProfileModel
import NmSidebar.Data.Labels

/-!
# The form of a saved network

The editor of `connection-settings.c` shows a profile in the fields of a form, and `save_clicked`
reads all of them back into a draft. What a field shows is no inverse of what is stored: a name
that is no text is shown in digits, a policy that is inherited as the one that is in force. So the
function tests what was edited, or relies on the text being a way back.
-/

namespace NmSidebar

open Text

/-! ## Profiles -/

/-- `NMMetered`, with the values that libnm lets a profile have. -/
inductive Metered where
  | unknown | yes | no
  deriving DecidableEq

/-- `NMSettingWirelessSecurity`: what the form names, and all its other properties. -/
structure WirelessSecurity (X : Type) where
  keyMgmt : Option Bytes
  psk : Option Bytes
  pskFlags : ℕ
  others : X

/-- `NMSetting8021x`, likewise. -/
structure Setting8021x (X : Type) where
  identity : Option Bytes
  anonymousIdentity : Option Bytes
  domainSuffixMatch : Option Bytes
  password : Option Bytes
  passwordFlags : ℕ
  eapMethods : List Bytes
  phase2Auth : Option Bytes
  systemCaCerts : Bool
  others : X

/-- The settings of a Wi-Fi profile that are not about addresses, and all else of the profile. -/
structure WifiSettings (X O : Type) where
  id : Bytes
  autoconnect : Bool
  metered : Metered
  ssid : Option Bytes
  hidden : Bool
  clonedMac : Option Bytes
  security : Option (WirelessSecurity X)
  eap : Option (Setting8021x X)
  others : O

/-- The `NMConnection` of a Wi-Fi network. -/
abbrev WifiProfile (A R X O : Type) := IpDraft A R X (WifiSettings X O)

variable {A R X O : Type}

/-- What GLib and libnm do with a profile. -/
structure FormLibrary (A R X O : Type) where
  addresses : AddressLibrary A X
  characters : CharacterData
  /-- `nm_utils_ssid_to_utf8`. -/
  ssidToUtf8 : Bytes → Option (List Char)
  /-- `nm_utils_wpa_psk_valid`. -/
  pskValid : Bytes → Bool
  /-- The other properties of a security setting that is new. -/
  freshSecurity : X
  /-- The other properties of an 802.1X setting that is new. -/
  freshEap : X
  /-- `nm_setting_802_1x_set_ca_cert`, by the path of the certificate. -/
  setCaCert : Setting8021x X → Bytes → Except Bytes (Setting8021x X)
  /-- `nm_connection_normalize`. -/
  normalize : WifiProfile A R X O → Except Bytes (WifiProfile A R X O)

/-- `network_sidebar_ssid_text_from_bytes`, as bytes. -/
def FormLibrary.ssidText (lib : FormLibrary A R X O) (ssid : Option Bytes) : Bytes :=
  utf8Encode (ssidTextFromBytes lib.characters lib.ssidToUtf8 ssid)

/-! ## Policies for the hardware address -/

/-- The options of the build. -/
structure BuildOptions where
  usesIwd : Bool
  /-- `DEFAULT_WIFI_MAC_ADDRESS`. -/
  defaultMac : Bytes

/-- `mac_values`. -/
def BuildOptions.macValues (options : BuildOptions) : List Bytes :=
  if options.usesIwd then [ascii "stable-ssid", ascii "permanent", ascii "random"]
  else [ascii "stable-ssid", ascii "permanent", ascii "random", ascii "preserve", ascii "stable"]

/-- `effective_mac_policy`. -/
def effectiveMacPolicy (options : BuildOptions) (mac : Option Bytes) : Bytes :=
  if options.usesIwd = true ∧ (mac = some (ascii "permanent") ∨ mac = some (ascii "preserve") ∨
      mac = some (ascii "stable")) then options.defaultMac
  else if mac = some [] then options.defaultMac
  else mac.getD options.defaultMac

/-- `NMDevice`. -/
structure NetworkDevice (A R X O : Type) where
  isWifi : Bool
  /-- `nm_device_connection_compatible`. -/
  compatible : WifiProfile A R X O → Bool
  permanentAddress : Option Bytes

/-- The loop of `profile_device_mac`, with the address found so far. -/
def deviceMacFrom (profile : WifiProfile A R X O) :
    List (NetworkDevice A R X O) → Option Bytes → Option Bytes
  | [], address => address
  | device :: devices, address =>
    if device.isWifi = false ∨ device.compatible profile = false then
      deviceMacFrom profile devices address
    else if address.isSome then none
    else deviceMacFrom profile devices device.permanentAddress

/-- `profile_device_mac`. -/
def profileDeviceMac (devices : List (NetworkDevice A R X O)) (profile : WifiProfile A R X O) :
    Option Bytes :=
  deviceMacFrom profile devices none

/-- The choice that stands for a policy. The one behind the last is the custom address. -/
def macIndex (options : BuildOptions) (deviceMac : Option Bytes) (mac : Bytes) : ℕ :=
  if options.usesIwd = true ∧ ∃ address ∈ deviceMac, mac.map toLower = address.map toLower then 1
  else options.macValues.idxOf mac

/-! ## Forms -/

/-- `methods4` and `methods6`. -/
def ipMethods : AddressFamily → List Bytes
  | .inet =>
    [ascii "auto", ascii "manual", ascii "link-local", ascii "shared", ascii "disabled"]
  | .inet6 =>
    [ascii "auto", ascii "manual", ascii "dhcp", ascii "link-local", ascii "shared",
      ascii "disabled", ascii "ignore"]

/-- The values of the widgets of one family. -/
structure IpForm where
  method : ℕ
  addresses : Bytes
  gateway : Bytes
  dns : Bytes
  automaticDns : Bool

/-- What the widgets say, as `apply_ip` reads them. -/
def IpForm.fields (form : IpForm) (family : AddressFamily) : IpFields where
  method := (ipMethods family).getD form.method []
  addresses := form.addresses
  gateway := form.gateway
  dns := form.dns
  automaticDns := form.automaticDns

/-- `ip_fields_new`: the values that are shown for a setting. -/
def ipFieldsNew (family : AddressFamily) (setting : Option (IpSetting A R X)) : IpForm where
  method :=
    match setting.elim (some (ascii "auto")) IpSetting.method with
    | none => 0
    | some method => if method ∈ ipMethods family then (ipMethods family).idxOf method else 0
  addresses := profileAddresses setting
  gateway := (setting.bind IpSetting.gateway).getD []
  dns := profileDns setting
  automaticDns := !setting.elim false IpSetting.ignoreAutoDns

/-- The values of the widgets of the editor. The security, the EAP method and the certificate have
widgets only for a network that is new. -/
structure WifiForm where
  name : Bytes
  ssid : Bytes
  autoconnect : Bool
  metered : ℕ
  hidden : Bool
  mac : ℕ
  password : Bytes
  identity : Bytes
  anonymous : Bytes
  domain : Bytes
  ip4 : IpForm
  ip6 : IpForm
  security : ℕ
  eapMethod : ℕ
  ca : Bytes

/-- The widgets of a family. -/
def WifiForm.ip (form : WifiForm) : AddressFamily → IpForm
  | .inet => form.ip4
  | .inet6 => form.ip6

/-- `Editor`: the profile as it was opened, which of the optional entries there are, and the values
the widgets had at first, which are the originals of the fields. -/
structure WifiEditor (A R X O : Type) where
  options : BuildOptions
  baseline : WifiProfile A R X O
  isNew : Bool
  hasPassword : Bool
  hasIdentity : Bool
  customMac : Option Bytes
  deviceMac : Option Bytes
  shown : WifiForm

/-- The choice that stands for `NMMetered`. -/
def meteredIndex : Metered → ℕ
  | .yes => 1
  | .no => 2
  | .unknown => 0

/-- `NMMetered` of a choice. -/
def meteredChoice (index : ℕ) : Metered :=
  if index = 0 then .unknown else if index = 1 then .yes else .no

/-- The security of the profile is by a password of its own. -/
def WirelessSecurity.isPersonal (security : WirelessSecurity X) : Bool :=
  security.keyMgmt == some (ascii "wpa-psk") || security.keyMgmt == some (ascii "sae")

/-- `network_sidebar_edit_profile` of a profile that is stored. -/
def editProfile (options : BuildOptions) (lib : FormLibrary A R X O)
    (devices : List (NetworkDevice A R X O)) (profile : WifiProfile A R X O) :
    WifiEditor A R X O :=
  let settings := profile.others
  let mac := effectiveMacPolicy options settings.clonedMac
  let deviceMac := profileDeviceMac devices profile
  let index := macIndex options deviceMac mac
  { options
    baseline := profile
    isNew := false
    hasPassword := settings.security.any WirelessSecurity.isPersonal || settings.eap.isSome
    hasIdentity := settings.eap.isSome
    customMac := if index < options.macValues.length then none else some mac
    deviceMac
    shown :=
      { name := settings.id
        ssid := lib.ssidText settings.ssid
        autoconnect := settings.autoconnect
        metered := meteredIndex settings.metered
        hidden := settings.hidden
        mac := index
        password := []
        identity := (settings.eap.bind Setting8021x.identity).getD []
        anonymous := (settings.eap.bind Setting8021x.anonymousIdentity).getD []
        domain := (settings.eap.bind Setting8021x.domainSuffixMatch).getD []
        ip4 := ipFieldsNew .inet profile.ip4
        ip6 := ipFieldsNew .inet6 profile.ip6
        security := 0
        eapMethod := 0
        ca := [] } }

/-! ## Saving -/

/-- What `save_clicked` shows: a message of its own, of `sidebar_profile_set_ip` or of libnm. -/
inductive FormError where
  | form (message : String)
  | ip (error : SetIpError)
  | library (message : Bytes)

/-- The password that is read. -/
def WifiEditor.password (editor : WifiEditor A R X O) (form : WifiForm) : Bytes :=
  if editor.hasPassword then form.password else []

/-- The first check of the form. -/
def checkNames (form : WifiForm) : Except FormError Unit :=
  if form.name = [] ∨ form.ssid = [] ∨ form.ssid.length > 32 then
    .error (.form "Enter a profile name and a Wi-Fi name of 1–32 bytes.")
  else .ok ()

/-- The properties of the connection, and the wireless ones before the policy. -/
def setGeneral (lib : FormLibrary A R X O) (form : WifiForm) (settings : WifiSettings X O) :
    WifiSettings X O :=
  { settings with
    id := form.name
    autoconnect := form.autoconnect
    metered := meteredChoice form.metered
    ssid := if form.ssid ≠ lib.ssidText settings.ssid then some form.ssid else settings.ssid
    hidden := form.hidden }

/-- The policy that is selected. With iwd the address of the device stands for one of the choices. -/
def selectMac (editor : WifiEditor A R X O) (devices : List (NetworkDevice A R X O))
    (form : WifiForm) (draft : WifiProfile A R X O) : Except FormError (Option Bytes) :=
  if editor.options.usesIwd = true ∧ form.mac = 1 then
    match editor.deviceMac.or (profileDeviceMac devices draft) with
    | none =>
      .error (.form "Could not identify a single Wi-Fi adapter for its device address.")
    | some address => .ok (some address)
  else .ok (editor.options.macValues[form.mac]?.or editor.customMac)

/-- A policy other than the one in force is stored. -/
def setMac (options : BuildOptions) (mac : Option Bytes) (settings : WifiSettings X O) :
    WifiSettings X O :=
  if mac ≠ some (effectiveMacPolicy options settings.clonedMac) then
    { settings with clonedMac := mac }
  else settings

/-- The 802.1X setting of a network that is new. -/
def newEap (lib : FormLibrary A R X O) (form : WifiForm) :
    Except FormError (Setting8021x X) :=
  if form.domain = [] then
    .error (.form ("Enter the authentication server domain supplied " ++
      "by your network administrator."))
  else
    let eap : Setting8021x X :=
      { identity := none
        anonymousIdentity := none
        domainSuffixMatch := none
        password := none
        passwordFlags := 0
        eapMethods := [if form.eapMethod = 1 then ascii "ttls" else ascii "peap"]
        phase2Auth := some (if form.eapMethod = 1 then ascii "pap" else ascii "mschapv2")
        systemCaCerts := form.ca == []
        others := lib.freshEap }
    if form.ca = [] then .ok eap else (lib.setCaCert eap form.ca).mapError .library

/-- The security of a network that is new. -/
def setSecurity (lib : FormLibrary A R X O) (editor : WifiEditor A R X O) (form : WifiForm)
    (settings : WifiSettings X O) : Except FormError (WifiSettings X O) :=
  if editor.isNew = false ∨ form.security = 0 then .ok settings
  else
    let security : WirelessSecurity X :=
      { keyMgmt := some (if form.security = 3 then ascii "wpa-eap"
          else if form.security = 2 then ascii "sae" else ascii "wpa-psk")
        psk := none
        pskFlags := 0
        others := lib.freshSecurity }
    match if form.security = 3 then (newEap lib form).map some else .ok settings.eap with
    | .error error => .error error
    | .ok eap =>
      if editor.password form = [] then .error (.form "Enter the Wi-Fi password.")
      else .ok { settings with security := some security, eap }

/-- The password, where the network has one of its own. -/
def setPsk (lib : FormLibrary A R X O) (editor : WifiEditor A R X O) (form : WifiForm)
    (settings : WifiSettings X O) : Except FormError (WifiSettings X O) :=
  let password := editor.password form
  match settings.security with
  | none => .ok settings
  | some security =>
    if (editor.isNew = true ∧ form.security = 0) ∨ password = [] ∨
        security.isPersonal = false then .ok settings
    else if (security.keyMgmt = some (ascii "wpa-psk") ∧ lib.pskValid password = false) ∨
        (security.keyMgmt = some (ascii "sae") ∧ password.length > 63) then
      .error (.form ("Use a valid Wi-Fi password (WPA2: 8–63 characters " ++
        "or 64 hexadecimal digits)."))
    else .ok { settings with security := some { security with psk := some password, pskFlags := 0 } }

/-- A text of an entry, or nothing where it is empty. -/
def entryText (text : Bytes) : Option Bytes := if text = [] then none else some text

/-- The 802.1X properties. -/
def setEap (editor : WifiEditor A R X O) (form : WifiForm) (settings : WifiSettings X O) :
    WifiSettings X O :=
  let password := editor.password form
  match settings.eap with
  | none => settings
  | some eap =>
    if editor.hasIdentity = false then settings
    else
      let eap :=
        { eap with
          identity := entryText form.identity
          anonymousIdentity := entryText form.anonymous
          domainSuffixMatch := entryText form.domain }
      { settings with
        eap :=
          if password = [] then some eap
          else some { eap with password := some password, passwordFlags := 0 } }

/-- `apply_ip`. -/
def applyIp (lib : FormLibrary A R X O) (family : AddressFamily) (form : WifiForm)
    (draft : WifiProfile A R X O) : Except FormError (WifiProfile A R X O) :=
  match profileSetIp lib.addresses family ((form.ip family).fields family) draft with
  | (.error error, _) => .error (.ip error)
  | (.ok (), draft) => .ok draft

/-- The draft of the settings before the policy is chosen. -/
def generalDraft (lib : FormLibrary A R X O) (editor : WifiEditor A R X O) (form : WifiForm) :
    WifiProfile A R X O :=
  { editor.baseline with others := setGeneral lib form editor.baseline.others }

/-- The draft that `save_clicked` makes of the form, before libnm normalises it. -/
def formDraft (lib : FormLibrary A R X O) (editor : WifiEditor A R X O)
    (devices : List (NetworkDevice A R X O)) (form : WifiForm) :
    Except FormError (WifiProfile A R X O) := do
  checkNames form
  let draft := generalDraft lib editor form
  let mac ← selectMac editor devices form draft
  let settings ← setSecurity lib editor form (setMac editor.options mac draft.others)
  let settings ← setPsk lib editor form settings
  let draft ← applyIp lib .inet form { draft with others := setEap editor form settings }
  applyIp lib .inet6 form draft

/-- `save_clicked`: the draft that is submitted, or the error that is shown. -/
def saveClicked (lib : FormLibrary A R X O) (editor : WifiEditor A R X O)
    (devices : List (NetworkDevice A R X O)) (form : WifiForm) :
    Except FormError (WifiProfile A R X O) := do
  let draft ← formDraft lib editor devices form
  (lib.normalize draft).mapError .library

/-! ## Stored profiles and valid edits -/

/-- The IP setting of a profile that libnm accepts, in the form it normalises to. -/
structure StoredIp (lib : AddressLibrary A X) (family : AddressFamily)
    (setting : IpSetting A R X) : Prop where
  method : ∃ method ∈ ipMethods family, setting.method = some method
  manual : setting.method = some (ascii "manual") → setting.addresses ≠ []
  gateway : ∀ gateway ∈ setting.gateway,
    gateway ≠ [] ∧ lib.familyOf gateway = some family ∧ lib.canonical family gateway = gateway

/-- The profile of a Wi-Fi network that libnm accepts. -/
structure StoredWifi (lib : FormLibrary A R X O) (profile : WifiProfile A R X O) : Prop where
  id : profile.others.id ≠ []
  ssid : ∃ bytes, profile.others.ssid = some bytes ∧ bytes ≠ [] ∧ bytes.length ≤ 32
  ip : ∀ family, ∀ setting ∈ profile.setting family, StoredIp lib.addresses family setting

/-- What was edited of a family has valid values. A method that asks for addresses is valid only
beside some. -/
structure ValidIpEdits (lib : AddressLibrary A X) (family : AddressFamily)
    (shown form : IpForm) : Prop where
  addresses : form.addresses ≠ shown.addresses → ∀ part ∈ splitParts form.addresses,
    part ≠ [] → ∃ address, parseProfileAddress lib family part = .ok address
  manual : form.method ≠ shown.method ∨ form.addresses ≠ shown.addresses →
    (form.fields family).method = ascii "manual" → ∃ part ∈ splitParts form.addresses, part ≠ []
  gateway : form.gateway ≠ shown.gateway → form.gateway ≠ [] →
    lib.familyOf form.gateway = some family
  dns : form.dns ≠ shown.dns → ∀ part ∈ splitParts form.dns,
    part ≠ [] → lib.familyOf part = some family

/-- What was edited of the form has valid values. Nothing is asked of the entries of a family that
the method turns off: they are greyed out. -/
structure ValidEdits (lib : FormLibrary A R X O) (editor : WifiEditor A R X O)
    (devices : List (NetworkDevice A R X O)) (form : WifiForm) : Prop where
  name : form.name ≠ editor.shown.name → form.name ≠ []
  ssid : form.ssid ≠ editor.shown.ssid → form.ssid ≠ [] ∧ form.ssid.length ≤ 32
  mac : form.mac ≠ editor.shown.mac → editor.options.usesIwd = true → form.mac = 1 →
    (editor.deviceMac.or
      (profileDeviceMac devices (generalDraft lib editor form))).isSome = true
  password : ∀ security ∈ editor.baseline.others.security, editor.password form ≠ [] →
    (security.keyMgmt = some (ascii "wpa-psk") → lib.pskValid (editor.password form) = true) ∧
      (security.keyMgmt = some (ascii "sae") → (editor.password form).length ≤ 63)
  ip : ∀ family, ((form.ip family).fields family).isDisabled = false →
    ValidIpEdits lib.addresses family (editor.shown.ip family) (form.ip family)

/-! ## What is kept -/

/-- What a draft keeps of the setting of a family, which is all that was not edited, but for the
overrides of a family that is turned off. -/
structure KeepsFamily (family : AddressFamily) (shown form : IpForm)
    (old new : Option (IpSetting A R X)) : Prop where
  method : form.method = shown.method → ∀ setting ∈ old,
    new.bind IpSetting.method = setting.method
  addresses : (form.fields family).isDisabled = false → form.addresses = shown.addresses →
    new.elim [] IpSetting.addresses = old.elim [] IpSetting.addresses
  gateway : (form.fields family).isDisabled = false → form.gateway = shown.gateway →
    new.bind IpSetting.gateway = old.bind IpSetting.gateway
  dns : (form.fields family).isDisabled = false → form.dns = shown.dns →
    new.elim [] IpSetting.dns = old.elim [] IpSetting.dns
  automaticDns : form.automaticDns = shown.automaticDns →
    new.elim false IpSetting.ignoreAutoDns = old.elim false IpSetting.ignoreAutoDns
  others : ∀ setting ∈ old, ∃ setting' ∈ new,
    setting'.routeMetric = setting.routeMetric ∧ setting'.others = setting.others ∧
      ((form.fields family).isDisabled = false →
        setting'.routes = setting.routes ∧ setting'.dnsSearches = setting.dnsSearches)
  disabled : (form.fields family).isDisabled = true → ∃ setting' ∈ new,
    setting'.addresses = [] ∧ setting'.gateway = none ∧ setting'.dns = []

/-- A text as an entry gives it back: what is empty is not there. -/
def readBack (text : Option Bytes) : Option Bytes := entryText (text.getD [])

/-- The draft has of the profile everything that the form was not edited in. -/
structure KeepsWifi (shown form : WifiForm) (profile draft : WifiProfile A R X O) : Prop where
  name : form.name = shown.name → draft.others.id = profile.others.id
  ssid : form.ssid = shown.ssid → draft.others.ssid = profile.others.ssid
  autoconnect : form.autoconnect = shown.autoconnect →
    draft.others.autoconnect = profile.others.autoconnect
  metered : form.metered = shown.metered → draft.others.metered = profile.others.metered
  hidden : form.hidden = shown.hidden → draft.others.hidden = profile.others.hidden
  mac : form.mac = shown.mac → draft.others.clonedMac = profile.others.clonedMac
  identity : form.identity = shown.identity → draft.others.eap.map Setting8021x.identity =
    profile.others.eap.map fun eap => readBack eap.identity
  anonymous : form.anonymous = shown.anonymous →
    draft.others.eap.map Setting8021x.anonymousIdentity =
      profile.others.eap.map fun eap => readBack eap.anonymousIdentity
  domain : form.domain = shown.domain → draft.others.eap.map Setting8021x.domainSuffixMatch =
    profile.others.eap.map fun eap => readBack eap.domainSuffixMatch
  password : form.password = shown.password →
    draft.others.security = profile.others.security ∧
      draft.others.eap.map (fun eap => (eap.password, eap.passwordFlags)) =
        profile.others.eap.map fun eap => (eap.password, eap.passwordFlags)
  methods : draft.others.eap.map
      (fun eap => (eap.eapMethods, eap.phase2Auth, eap.systemCaCerts, eap.others)) =
    profile.others.eap.map
      fun eap => (eap.eapMethods, eap.phase2Auth, eap.systemCaCerts, eap.others)
  others : draft.others.others = profile.others.others
  ip : ∀ family, KeepsFamily family (shown.ip family) (form.ip family)
    (profile.setting family) (draft.setting family)

/-! ## Accepting a family -/

section Family

variable {lib : AddressLibrary A X} {family : AddressFamily} {fields : IpFields}
  {old : Option (IpSetting A R X)}

/-- Parts that all parse are added, and some addresses are there if there was a part or some were
there. -/
theorem addAddresses_accepts {parts : List Bytes} {setting : IpSetting A R X}
    (h : ∀ part ∈ parts, part ≠ [] → ∃ address, parseProfileAddress lib family part = .ok address) :
    ∃ result, addAddresses lib family parts setting = .ok result ∧
      ((∃ part ∈ parts, part ≠ []) ∨ setting.addresses ≠ [] → result.addresses ≠ []) := by
  induction parts generalizing setting with
  | nil =>
    refine ⟨setting, rfl, ?_⟩
    rintro (⟨part, hpart, -⟩ | hsome)
    · exact absurd hpart List.not_mem_nil
    · exact hsome
  | cons part parts ih =>
    have hrest : ∀ part ∈ parts, part ≠ [] →
        ∃ address, parseProfileAddress lib family part = .ok address :=
      fun part' hpart' => h part' (List.mem_cons_of_mem _ hpart')
    unfold addAddresses
    by_cases hnil : part = []
    · rw [if_pos hnil]
      obtain ⟨result, hresult, hsome⟩ := @ih setting hrest
      refine ⟨result, hresult, fun hany => hsome ?_⟩
      rcases hany with ⟨part', hmem, hne⟩ | hany
      · rcases List.mem_cons.mp hmem with rfl | hmem
        · exact absurd hnil hne
        · exact .inl ⟨part', hmem, hne⟩
      · exact .inr hany
    · rw [if_neg hnil]
      obtain ⟨address, haddress⟩ := h part List.mem_cons_self hnil
      rw [haddress]
      obtain ⟨result, hresult, hsome⟩ := @ih (setting.addAddress address) hrest
      refine ⟨result, hresult, fun _ => hsome (.inr ?_)⟩
      unfold IpSetting.addAddress
      split
      · rename_i hknown
        intro hempty
        rw [hempty, List.any_nil] at hknown
        exact Bool.false_ne_true hknown
      · exact List.append_ne_nil_of_right_ne_nil _ (List.cons_ne_nil _ _)

/-- Servers that all have the family are added. -/
theorem addDnsServers_accepts {parts : List Bytes} {setting : IpSetting A R X}
    (h : ∀ part ∈ parts, part ≠ [] → lib.familyOf part = some family) :
    ∃ result, addDnsServers lib family parts setting = .ok result := by
  induction parts generalizing setting with
  | nil => exact ⟨setting, rfl⟩
  | cons part parts ih =>
    have hrest : ∀ part ∈ parts, part ≠ [] → lib.familyOf part = some family :=
      fun part' hpart' => h part' (List.mem_cons_of_mem _ hpart')
    unfold addDnsServers
    by_cases hnil : part = []
    · rw [if_pos hnil]
      exact ih hrest
    · rw [if_neg hnil, if_neg (not_not_intro (h part List.mem_cons_self hnil))]
      exact ih hrest

/-- The fields are such that the function has nothing to refuse. -/
structure Acceptable (lib : AddressLibrary A X) (family : AddressFamily) (fields : IpFields)
    (old : Option (IpSetting A R X)) : Prop where
  addresses : profileAddresses old ≠ fields.addresses → ∀ part ∈ splitParts fields.addresses,
    part ≠ [] → ∃ address, parseProfileAddress lib family part = .ok address
  manual : fields.method = ascii "manual" →
    (profileAddresses old = fields.addresses ∧ old.elim [] IpSetting.addresses ≠ []) ∨
      (profileAddresses old ≠ fields.addresses ∧ ∃ part ∈ splitParts fields.addresses, part ≠ [])
  gateway : fields.gateway ≠ [] → lib.familyOf fields.gateway = some family
  dns : profileDns old ≠ fields.dns → ∀ part ∈ splitParts fields.dns,
    part ≠ [] → lib.familyOf part = some family

/-- The addresses of acceptable fields are read, and there are some where the method asks for
them. -/
theorem editAddresses_accepts {setting : IpSetting A R X}
    (h : fields.isDisabled = false → Acceptable lib family fields old)
    (hsetting : setting.addresses = old.elim [] IpSetting.addresses) :
    ∃ result, editAddresses lib family fields old setting = .ok result ∧
      (fields.isDisabled = false → fields.method = ascii "manual" → result.addresses ≠ []) := by
  unfold editAddresses
  cases hdisabled : fields.isDisabled with
  | true =>
    rw [if_pos (.inr rfl), if_pos rfl]
    exact ⟨_, rfl, fun hon => absurd hon (Bool.false_ne_true ∘ Eq.symm)⟩
  | false =>
    have haccept := h hdisabled
    by_cases hsame : profileAddresses old = fields.addresses
    · rw [if_neg (by simp [hsame])]
      refine ⟨setting, rfl, fun _ hmanual => ?_⟩
      rcases haccept.manual hmanual with ⟨-, hsome⟩ | ⟨hdiffer, -⟩
      · rwa [hsetting]
      · exact absurd hsame hdiffer
    · rw [if_pos (.inl hsame), if_neg Bool.false_ne_true]
      obtain ⟨result, hresult, hsome⟩ := @addAddresses_accepts _ _ _ lib family _
        { setting with addresses := [] } (haccept.addresses hsame)
      refine ⟨result, hresult, fun _ hmanual => ?_⟩
      rcases haccept.manual hmanual with ⟨heq, -⟩ | ⟨-, hpart⟩
      · exact absurd heq hsame
      · exact hsome (.inl hpart)

/-- A setting is made of acceptable fields. What it has for a gateway and for automatic DNS is
what the fields say. -/
theorem profileSetIp_accepts {O : Type} {draft : IpDraft A R X O}
    (h : fields.isDisabled = false → Acceptable lib family fields (draft.setting family)) :
    ∃ setting, profileSetIp lib family fields draft = (.ok (), draft.addSetting family setting) ∧
      setting.gateway = (if fields.isDisabled = false ∧ fields.gateway ≠ [] then
        some (lib.canonical family fields.gateway) else none) ∧
      setting.ignoreAutoDns = !fields.automaticDns := by
  unfold profileSetIp
  dsimp only
  generalize hold : draft.setting family = old at h ⊢
  obtain ⟨edited, hedited, hsome⟩ := @editAddresses_accepts _ _ _ lib family fields old
    { old.getD (lib.newSetting family) with method := some fields.method } h
      (by cases old <;> rfl)
  rw [hedited]
  dsimp only
  have hcheck : checkGateway lib family fields edited = .ok () := by
    unfold checkGateway
    cases hdisabled : fields.isDisabled with
    | true =>
      have hother : fields.method ≠ ascii "manual" := by
        intro hmanual
        rw [IpFields.isDisabled, hmanual] at hdisabled
        exact absurd hdisabled (by decide +kernel)
      rw [if_neg fun hmanual => hother hmanual.1]
      rfl
    | false =>
      have haccept := h hdisabled
      rw [if_neg fun hmanual => hsome hdisabled hmanual.1 hmanual.2,
        if_neg fun hgateway => hgateway.2.2 (haccept.gateway hgateway.2.1)]
  rw [hcheck]
  dsimp only
  have hdns : ∃ result, editDns lib family fields old (setGateway lib family fields edited) =
      .ok result := by
    unfold editDns
    cases hdisabled : fields.isDisabled with
    | true => exact ⟨_, by rw [if_pos (.inr rfl), if_pos rfl]; rfl⟩
    | false =>
      by_cases hsame : profileDns old = fields.dns
      · exact ⟨_, if_neg (by simp [hsame])⟩
      · rw [if_pos (.inl hsame), if_neg Bool.false_ne_true]
        exact addDnsServers_accepts ((h hdisabled).dns hsame)
  obtain ⟨last, hlast⟩ := hdns
  rw [hlast]
  obtain ⟨dns, rfl, -⟩ := editDns_eq_ok hlast
  refine ⟨_, rfl, ?_, ?_⟩
  · split <;> rfl
  · split <;> rfl

end Family

/-! ## A family that was read back -/

section ReadBack

variable {lib : AddressLibrary A X} {family : AddressFamily} {old : Option (IpSetting A R X)}
  {form : IpForm}

/-- The choice that is shown for the method of a stored setting stands for that method. -/
theorem fields_ipFieldsNew_method {setting : IpSetting A R X} (h : StoredIp lib family setting) :
    setting.method = some ((ipFieldsNew family (some setting)).fields family).method := by
  obtain ⟨method, hmem, hmethod⟩ := h.method
  have hindex : (ipFieldsNew family (some setting)).method = (ipMethods family).idxOf method := by
    unfold ipFieldsNew
    dsimp only [Option.elim]
    rw [hmethod]
    exact if_pos hmem
  have hlt := List.idxOf_lt_length_of_mem hmem
  have hget : (ipMethods family).getD ((ipMethods family).idxOf method) [] = method := by
    rw [List.getD_eq_getElem?_getD, List.getElem?_eq_getElem hlt, List.getElem_idxOf hlt]
    rfl
  rw [IpForm.fields, hindex, hget, hmethod]

/-- Without a setting the method that is shown is the automatic one. -/
theorem fields_ipFieldsNew_none (family : AddressFamily) :
    ((ipFieldsNew family (none : Option (IpSetting A R X))).fields family).method =
      ascii "auto" := by
  have hindex : (ipMethods family).idxOf (ascii "auto") = 0 := by
    cases family <;> exact List.idxOf_cons_self
  have hmem : ascii "auto" ∈ ipMethods family := by
    cases family <;> exact List.mem_cons_self
  have hzero : (ipFieldsNew family (none : Option (IpSetting A R X))).method = 0 :=
    (if_pos hmem).trans hindex
  rw [IpForm.fields, hzero]
  cases family <;> rfl

/-- A text with a part in it is of some addresses. -/
theorem elim_addresses_ne_nil {part : Bytes} (h : part ∈ splitParts (profileAddresses old)) :
    old.elim [] IpSetting.addresses ≠ [] := by
  intro hnone
  have htext : profileAddresses old = [] := by
    cases old with
    | none => rfl
    | some setting =>
      rw [profileAddresses, show setting.addresses = [] from hnone]
      rfl
  rw [htext] at h
  exact absurd h List.not_mem_nil

/-- A stored setting with valid edits is accepted. -/
theorem acceptable_of_valid (hstored : ∀ setting ∈ old, StoredIp lib family setting)
    (hvalid : ValidIpEdits lib family (ipFieldsNew family old) form) :
    Acceptable lib family (form.fields family) old := by
  have hmethod (hsame : form.method = (ipFieldsNew family old).method) :
      (form.fields family).method = ((ipFieldsNew family old).fields family).method := by
    rw [IpForm.fields, hsame]
    rfl
  refine ⟨fun hedited => hvalid.addresses (Ne.symm hedited), fun hmanual => ?_, fun hne => ?_,
    fun hedited => hvalid.dns (Ne.symm hedited)⟩
  · by_cases hsame : profileAddresses old = form.addresses
    · refine .inl ⟨hsame, ?_⟩
      by_cases hkept : form.method = (ipFieldsNew family old).method
      · rw [hmethod hkept] at hmanual
        cases old with
        | none =>
          rw [fields_ipFieldsNew_none] at hmanual
          exact absurd hmanual (by decide +kernel)
        | some setting =>
          have hset := hstored setting rfl
          exact hset.manual ((fields_ipFieldsNew_method hset).trans (congrArg some hmanual))
      · obtain ⟨part, hpart, -⟩ := hvalid.manual (.inl hkept) hmanual
        rw [← hsame] at hpart
        exact elim_addresses_ne_nil hpart
    · exact .inr ⟨hsame, hvalid.manual (.inr (Ne.symm hsame)) hmanual⟩
  · by_cases hsame : form.gateway = (ipFieldsNew family old).gateway
    · obtain ⟨setting, rfl⟩ : ∃ setting, old = some setting := by
        cases old with
        | none => exact absurd hsame hne
        | some setting => exact ⟨setting, rfl⟩
      have hgateway : form.gateway = setting.gateway.getD [] := hsame
      have hne : form.gateway ≠ [] := hne
      cases hstoredGateway : setting.gateway with
      | none =>
        rw [hstoredGateway] at hgateway
        exact absurd hgateway hne
      | some gateway =>
        rw [hstoredGateway] at hgateway
        obtain rfl : form.gateway = gateway := hgateway
        exact ((hstored setting rfl).gateway _ hstoredGateway).2.1
    · exact hvalid.gateway hsame hne

/-- A gateway that was not edited is read back as it is stored. -/
theorem gateway_readBack (hstored : ∀ setting ∈ old, StoredIp lib family setting)
    (hsame : form.gateway = (ipFieldsNew family old).gateway) :
    (if form.gateway ≠ [] then some (lib.canonical family form.gateway) else none) =
      old.bind IpSetting.gateway := by
  rw [hsame]
  cases old with
  | none => rfl
  | some setting =>
    change (if setting.gateway.getD [] ≠ [] then _ else none) = setting.gateway
    cases hgateway : setting.gateway with
    | none => rfl
    | some gateway =>
      obtain ⟨hne, -, hcanonical⟩ := (hstored setting rfl).gateway gateway hgateway
      rw [if_pos (show (some gateway).getD [] ≠ [] from hne)]
      exact congrArg some (by rw [ipFieldsNew, Option.bind_some, hgateway]; exact hcanonical)

end ReadBack

/-- Valid edits of a family are accepted, and what was not edited is kept. -/
theorem applyIp_keeps (lib : FormLibrary A R X O) (family : AddressFamily) (form : WifiForm)
    (draft : WifiProfile A R X O)
    (hstored : ∀ setting ∈ draft.setting family, StoredIp lib.addresses family setting)
    (hvalid : ((form.ip family).fields family).isDisabled = false →
      ValidIpEdits lib.addresses family (ipFieldsNew family (draft.setting family))
        (form.ip family)) :
    ∃ draft', applyIp lib family form draft = .ok draft' ∧ draft'.others = draft.others ∧
      (∀ other, other ≠ family → draft'.setting other = draft.setting other) ∧
      KeepsFamily family (ipFieldsNew family (draft.setting family)) (form.ip family)
        (draft.setting family) (draft'.setting family) := by
  obtain ⟨setting, hset, hgateway, hauto⟩ := profileSetIp_accepts
    fun hon => acceptable_of_valid hstored (hvalid hon)
  obtain ⟨hothers, hframe, setting', hsetting', hkeeps⟩ :=
    (profileSetIp_atomic lib.addresses family ((form.ip family).fields family) draft).2 _ hset
  have hnew := (addSetting_frame draft family setting).1
  obtain rfl : setting = setting' := Option.some.inj (hnew.symm.trans hsetting')
  refine ⟨draft.addSetting family setting, by rw [applyIp, hset], hothers, hframe, ?_⟩
  rw [hnew]
  generalize hold : draft.setting family = old at hstored hkeeps ⊢
  constructor
  · rintro hsame kept rfl
    rw [Option.bind_some, hkeeps.method, fields_ipFieldsNew_method (hstored kept rfl)]
    unfold IpForm.fields
    rw [hsame]
  · intro hon hsame
    rw [Option.elim_some, hkeeps.addresses hon hsame.symm]
    cases old <;> rfl
  · intro hon hsame
    rw [Option.bind_some, hgateway, ← gateway_readBack hstored hsame]
    simp only [hon, true_and]
    rfl
  · intro hon hsame
    rw [Option.elim_some, hkeeps.dns hon hsame.symm]
    cases old <;> rfl
  · intro hsame
    rw [Option.elim_some, hauto]
    change (!(form.ip family).automaticDns) = _
    rw [hsame, ipFieldsNew, Bool.not_not]
  · rintro kept rfl
    exact ⟨setting, rfl, hkeeps.routeMetric, hkeeps.others, hkeeps.routes⟩
  · intro hoff
    obtain ⟨haddresses, hgateway', hdns, -⟩ := hkeeps.disabled hoff
    exact ⟨setting, rfl, haddresses, hgateway', hdns⟩

/-! ## The steps of a save -/

section Steps

variable (options : BuildOptions) (lib : FormLibrary A R X O) (editor : WifiEditor A R X O)
  (devices : List (NetworkDevice A R X O)) (form : WifiForm) (settings : WifiSettings X O)

/-- The name of a network is never shown as nothing. -/
theorem ssidText_ne_nil (ssid : Option Bytes) : lib.ssidText ssid ≠ [] := by
  have hencode {text : List Char} (hne : text ≠ []) : utf8Encode text ≠ [] :=
    fun hnil => hne (@utf8Encode_inj text [] hnil)
  apply hencode
  cases ssid with
  | none => exact (by decide +kernel : "Hidden network".toList ≠ [])
  | some bytes =>
    unfold ssidTextFromBytes
    dsimp only
    by_cases hempty : bytes = []
    · rw [if_pos hempty]
      decide +kernel
    rw [if_neg hempty]
    cases hdecode : utf8Decode bytes with
    | none =>
      rw [Option.isNone_none, if_pos rfl]
      split <;> exact List.append_ne_nil_of_right_ne_nil _ (List.cons_ne_nil _ _)
    | some text =>
      rw [Option.isNone_some, if_neg Bool.false_ne_true]
      exact (visibleText_valid lib.characters hdecode hempty).ne_nil

/-- Storing a policy changes nothing else, and the policy in force is not stored. -/
theorem setMac_frame (mac : Option Bytes) :
    ∃ clonedMac, setMac options mac settings = { settings with clonedMac } ∧
      (mac = some (effectiveMacPolicy options settings.clonedMac) →
        clonedMac = settings.clonedMac) := by
  unfold setMac
  split
  · rename_i hother
    exact ⟨mac, rfl, fun hsame => absurd hsame hother⟩
  · exact ⟨settings.clonedMac, rfl, fun _ => rfl⟩

/-- A valid password is stored, and without one nothing is. -/
theorem setPsk_valid
    (hvalid : ∀ security ∈ settings.security, editor.password form ≠ [] →
      (security.keyMgmt = some (ascii "wpa-psk") → lib.pskValid (editor.password form) = true) ∧
        (security.keyMgmt = some (ascii "sae") → (editor.password form).length ≤ 63)) :
    ∃ security, setPsk lib editor form settings = .ok { settings with security } ∧
      (editor.password form = [] → security = settings.security) := by
  unfold setPsk
  dsimp only
  cases hsecurity : settings.security with
  | none =>
    dsimp only
    exact ⟨none, by rw [← hsecurity], fun _ => rfl⟩
  | some security =>
    dsimp only
    split
    · exact ⟨some security, by rw [← hsecurity], fun _ => rfl⟩
    · rename_i hused
      have hne : editor.password form ≠ [] := fun hnil => hused (.inr (.inl hnil))
      obtain ⟨hpsk, hsae⟩ := hvalid security hsecurity hne
      rw [if_neg]
      · exact ⟨_, rfl, fun hnil => absurd hnil hne⟩
      · rintro (⟨hkey, hinvalid⟩ | ⟨hkey, hlong⟩)
        · exact Bool.false_ne_true (hinvalid.symm.trans (hpsk hkey))
        · exact absurd (hsae hkey) (by omega)

/-- The 802.1X setting gets the texts of the entries, and a password only where there is one. -/
theorem setEap_frame (hentries : editor.hasIdentity = settings.eap.isSome) :
    ∃ eap, setEap editor form settings = { settings with eap } ∧
      eap.map Setting8021x.identity = settings.eap.map (fun _ => entryText form.identity) ∧
      eap.map Setting8021x.anonymousIdentity =
        settings.eap.map (fun _ => entryText form.anonymous) ∧
      eap.map Setting8021x.domainSuffixMatch =
        settings.eap.map (fun _ => entryText form.domain) ∧
      eap.map (fun eap => (eap.eapMethods, eap.phase2Auth, eap.systemCaCerts, eap.others)) =
        settings.eap.map
          (fun eap => (eap.eapMethods, eap.phase2Auth, eap.systemCaCerts, eap.others)) ∧
      (editor.password form = [] → eap.map (fun eap => (eap.password, eap.passwordFlags)) =
        settings.eap.map fun eap => (eap.password, eap.passwordFlags)) := by
  unfold setEap
  dsimp only
  cases heap : settings.eap with
  | none =>
    dsimp only
    exact ⟨none, by rw [← heap], rfl, rfl, rfl, rfl, fun _ => rfl⟩
  | some eap =>
    rw [heap, Option.isSome_some] at hentries
    rw [hentries]
    dsimp only
    rw [if_neg (Bool.false_ne_true ∘ Eq.symm)]
    split
    · exact ⟨_, rfl, rfl, rfl, rfl, rfl, fun _ => rfl⟩
    · rename_i hne
      exact ⟨_, rfl, rfl, rfl, rfl, rfl, fun hnil => absurd hnil hne⟩

end Steps

/-! ## Saving what was edited -/

section Saving

variable {options : BuildOptions} {lib : FormLibrary A R X O}
  {devices devices' : List (NetworkDevice A R X O)} {profile : WifiProfile A R X O}
  {form : WifiForm}

/-- The first check lets a form pass whose names are stored or valid. -/
theorem checkNames_valid (hstored : StoredWifi lib profile)
    (hvalid : ValidEdits lib (editProfile options lib devices profile) devices' form)
    (hssid : form.ssid = lib.ssidText profile.others.ssid → form.ssid.length ≤ 32) :
    checkNames form = .ok () := by
  have hname : form.name ≠ [] := by
    by_cases hsame : form.name = profile.others.id
    · exact hsame ▸ hstored.id
    · exact hvalid.name hsame
  have hwifi : form.ssid ≠ [] ∧ form.ssid.length ≤ 32 := by
    by_cases hsame : form.ssid = lib.ssidText profile.others.ssid
    · exact ⟨hsame ▸ ssidText_ne_nil lib profile.others.ssid, hssid hsame⟩
    · exact hvalid.ssid hsame
  unfold checkNames
  rw [if_neg]
  rintro (hnil | hnil | hlong)
  · exact hname hnil
  · exact hwifi.1 hnil
  · exact absurd hwifi.2 (by omega)

/-- A policy is selected. The one that is shown is the one in force, but for the address of the
device. -/
theorem selectMac_valid
    (hvalid : ValidEdits lib (editProfile options lib devices profile) devices' form)
    (hmac : options.usesIwd = true → form.mac = 1 →
      form.mac = (editProfile options lib devices profile).shown.mac →
        profileDeviceMac devices profile =
          some (effectiveMacPolicy options profile.others.clonedMac)) :
    ∃ mac, selectMac (editProfile options lib devices profile) devices' form
        (generalDraft lib (editProfile options lib devices profile) form) = .ok mac ∧
      (form.mac = (editProfile options lib devices profile).shown.mac →
        mac = some (effectiveMacPolicy options profile.others.clonedMac)) := by
  generalize hdraft : generalDraft lib (editProfile options lib devices profile) form = draft
  have hedited := hvalid.mac
  rw [hdraft] at hedited
  unfold selectMac
  by_cases hdevice : options.usesIwd = true ∧ form.mac = 1
  · rw [if_pos (show (editProfile options lib devices profile).options.usesIwd = true ∧
      form.mac = 1 from hdevice)]
    by_cases hsame : form.mac = (editProfile options lib devices profile).shown.mac
    · have haddress : (editProfile options lib devices profile).deviceMac =
          some (effectiveMacPolicy options profile.others.clonedMac) :=
        hmac hdevice.1 hdevice.2 hsame
      rw [haddress]
      exact ⟨_, rfl, fun _ => rfl⟩
    · obtain ⟨address, haddress⟩ :=
        Option.isSome_iff_exists.mp (hedited hsame hdevice.1 hdevice.2)
      rw [haddress]
      exact ⟨_, rfl, fun hshown => absurd hshown hsame⟩
  · rw [if_neg (show ¬ ((editProfile options lib devices profile).options.usesIwd = true ∧
      form.mac = 1) from hdevice)]
    refine ⟨_, rfl, fun hsame => ?_⟩
    -- The choice is not that of the device, so it is the place of the policy among the values.
    generalize hpolicy : effectiveMacPolicy options profile.others.clonedMac = policy
    have hindex : form.mac = options.macValues.idxOf policy := by
      rw [hsame]
      change macIndex options _ (effectiveMacPolicy options profile.others.clonedMac) = _
      rw [hpolicy]
      have hshown : form.mac = macIndex options (profileDeviceMac devices profile) policy := by
        rw [hsame, ← hpolicy]
        rfl
      unfold macIndex at hshown ⊢
      split at hshown
      · rename_i hown
        exact absurd ⟨hown.1, hshown⟩ hdevice
      · rename_i hown
        rw [if_neg hown]
    change (options.macValues[form.mac]?).or (if macIndex options
      (profileDeviceMac devices profile) (effectiveMacPolicy options profile.others.clonedMac) <
        options.macValues.length then none
      else some (effectiveMacPolicy options profile.others.clonedMac)) = some policy
    have hshown : macIndex options (profileDeviceMac devices profile)
        (effectiveMacPolicy options profile.others.clonedMac) = form.mac := hsame.symm
    rw [hshown, hpolicy]
    by_cases hlt : form.mac < options.macValues.length
    · rw [List.getElem?_eq_getElem hlt, Option.some_or]
      congr 1
      simp only [hindex]
      exact List.getElem_idxOf (hindex ▸ hlt)
    · rw [List.getElem?_eq_none (not_lt.mp hlt), Option.none_or, if_neg hlt]

/-- A name that is shown in more bytes than a name may have is refused, edited or not. -/
theorem saveClicked_longSsid (editor : WifiEditor A R X O) (h : form.ssid.length > 32) :
    saveClicked lib editor devices form =
      .error (.form "Enter a profile name and a Wi-Fi name of 1–32 bytes.") := by
  rw [saveClicked, formDraft, checkNames, if_pos (.inr (.inr h))]
  rfl

/-- Nine control characters are shown in 36 bytes. -/
example : (utf8Encode (ssidTextFromBytes latinData latinSsid
    (some (List.replicate 9 0x01)))).length = 36 := by
  decide +kernel

/-- The choice that is shown for a value stands for it. -/
theorem meteredChoice_meteredIndex (metered : Metered) :
    meteredChoice (meteredIndex metered) = metered := by
  cases metered <;> rfl

/-- What an entry shows of a setting is read back as the text of the setting. -/
theorem entryText_shown {eap : Option (Setting8021x X)} {text : Setting8021x X → Option Bytes}
    {entry : Bytes} (hsame : entry = (eap.bind text).getD []) :
    eap.map (fun _ => entryText entry) = eap.map fun eap => readBack (text eap) := by
  rw [hsame]
  cases eap <;> rfl

/-- Both families are read back, one after the other. -/
theorem applyIp_both (draft : WifiProfile A R X O)
    (hstored : ∀ family, ∀ setting ∈ draft.setting family, StoredIp lib.addresses family setting)
    (hvalid : ∀ family, ((form.ip family).fields family).isDisabled = false →
      ValidIpEdits lib.addresses family (ipFieldsNew family (draft.setting family))
        (form.ip family)) :
    ∃ draft', (applyIp lib .inet form draft >>= applyIp lib .inet6 form) = .ok draft' ∧
      draft'.others = draft.others ∧
      ∀ family, KeepsFamily family (ipFieldsNew family (draft.setting family)) (form.ip family)
        (draft.setting family) (draft'.setting family) := by
  obtain ⟨first, hfirst, hothers, hframe, hkeeps⟩ :=
    applyIp_keeps lib .inet form draft (hstored .inet) (hvalid .inet)
  have hsecond : first.setting .inet6 = draft.setting .inet6 := hframe .inet6 (by decide)
  obtain ⟨last, hlast, hothers', hframe', hkeeps'⟩ :=
    applyIp_keeps lib .inet6 form first (hsecond ▸ hstored .inet6) (hsecond ▸ hvalid .inet6)
  rw [hsecond] at hkeeps'
  refine ⟨last, ?_, hothers'.trans hothers, fun family => ?_⟩
  · rw [hfirst]
    exact hlast
  · cases family with
    | inet =>
      rw [hframe' .inet (by decide)]
      exact hkeeps
    | inet6 => exact hkeeps'

/-- Saving changes only what was edited. The form of a stored profile with valid edits is accepted,
and the draft that goes to libnm keeps all that was not edited. Set aside are a name that is shown
in more bytes than a name may have, and, with iwd, a policy that is shown as the address of the
device and is not that address. -/
theorem saveClicked_keeps (hstored : StoredWifi lib profile)
    (hvalid : ValidEdits lib (editProfile options lib devices profile) devices' form)
    (hssid : form.ssid = lib.ssidText profile.others.ssid → form.ssid.length ≤ 32)
    (hmac : options.usesIwd = true → form.mac = 1 →
      form.mac = (editProfile options lib devices profile).shown.mac →
        profileDeviceMac devices profile =
          some (effectiveMacPolicy options profile.others.clonedMac)) :
    ∃ draft,
      saveClicked lib (editProfile options lib devices profile) devices' form =
        (lib.normalize draft).mapError .library ∧
      KeepsWifi (editProfile options lib devices profile).shown form profile draft := by
  generalize heditor : editProfile options lib devices profile = editor at hvalid hmac ⊢
  obtain ⟨mac, hselect, hsameMac⟩ := selectMac_valid (heditor ▸ hvalid) (heditor ▸ hmac)
  rw [heditor] at hselect hsameMac
  have hbaseline : editor.baseline = profile := by rw [← heditor]; rfl
  have hnames := checkNames_valid hstored (heditor ▸ hvalid) hssid
  -- The settings, one step after the other.
  obtain ⟨clonedMac, hsetMac, hkeptMac⟩ :=
    setMac_frame editor.options (setGeneral lib form profile.others) mac
  obtain ⟨security, hsetPsk, hkeptPsk⟩ := setPsk_valid lib editor form
    { setGeneral lib form profile.others with clonedMac } (hbaseline ▸ hvalid.password)
  obtain ⟨eap, hsetEap, hidentity, hanonymous, hdomain, hmethods, hkeptEap⟩ :=
    setEap_frame editor form { setGeneral lib form profile.others with clonedMac, security }
      (by rw [← heditor]; rfl)
  have hsecurity : setSecurity lib editor form
      (setMac editor.options mac (generalDraft lib editor form).others) =
        .ok { setGeneral lib form profile.others with clonedMac } := by
    rw [setSecurity, if_pos (.inl (by rw [← heditor]; rfl)), generalDraft, hbaseline, hsetMac]
  obtain ⟨draft, hdraft, hothers, hip⟩ := applyIp_both
    { profile with
      others := { setGeneral lib form profile.others with clonedMac, security, eap } }
    hstored.ip (fun family hon => by
      have hfamily := hvalid.ip family hon
      rw [← heditor] at hfamily
      cases family <;> exact hfamily)
  have hformDraft : formDraft lib editor devices' form = .ok draft := by
    unfold formDraft
    rw [hnames]
    dsimp only [bind, Except.bind]
    rw [hselect]
    dsimp only
    rw [hsecurity]
    dsimp only
    rw [hsetPsk]
    dsimp only
    rw [hsetEap, generalDraft, hbaseline]
    exact hdraft
  refine ⟨draft, by rw [saveClicked, hformDraft]; rfl, ?_⟩
  have hpassword (hsame : form.password = editor.shown.password) : editor.password form = [] := by
    have hnil : form.password = [] := hsame.trans (by rw [← heditor]; rfl)
    rw [WifiEditor.password, hnil, ite_self]
  subst heditor
  constructor
  · intro hsame
    rw [hothers]
    exact hsame
  · intro hsame
    rw [hothers]
    exact if_neg (not_not_intro hsame)
  · intro hsame
    rw [hothers]
    exact hsame
  · intro hsame
    rw [hothers]
    exact (congrArg meteredChoice hsame).trans (meteredChoice_meteredIndex _)
  · intro hsame
    rw [hothers]
    exact hsame
  · intro hsame
    rw [hothers]
    exact hkeptMac (hsameMac hsame)
  · intro hsame
    rw [hothers]
    exact hidentity.trans (entryText_shown hsame)
  · intro hsame
    rw [hothers]
    exact hanonymous.trans (entryText_shown hsame)
  · intro hsame
    rw [hothers]
    exact hdomain.trans (entryText_shown hsame)
  · intro hsame
    rw [hothers]
    exact ⟨hkeptPsk (hpassword hsame), hkeptEap (hpassword hsame)⟩
  · rw [hothers]
    exact hmethods
  · rw [hothers]
    rfl
  · intro family
    have hfamily := hip family
    cases family <;> exact hfamily

end Saving

/-! ## Examples -/

/-- Addresses as they are written without abbreviation: the ones with a colon are of IPv6. -/
def plainAddresses : AddressLibrary Unit Unit where
  familyOf text := if text = [] then none else some (if 0x3a ∈ text then .inet6 else .inet)
  newAddress _ address prefixLength := .ok ⟨address, prefixLength, ()⟩
  canonical _ address := address
  fresh _ := ()

/-- A library for profiles that are in normal form. -/
def plainLibrary : FormLibrary Unit Unit Unit Unit where
  addresses := plainAddresses
  characters := latinData
  ssidToUtf8 := latinSsid
  pskValid password := decide (8 ≤ password.length ∧ password.length ≤ 63)
  freshSecurity := ()
  freshEap := ()
  setCaCert eap _ := .ok eap
  normalize := .ok

/-- A network with a name in ISO-8859-1 and an address of its own. -/
def cafeProfile : WifiProfile Unit Unit Unit Unit where
  ip4 := some ⟨some (ascii "manual"), [⟨ascii "192.0.2.20", 24, ()⟩], some (ascii "192.0.2.1"), [],
    [], [], -1, false, ()⟩
  ip6 := none
  others := ⟨ascii "Cafe", false, .unknown, some [0x63, 0x61, 0x66, 0xe9], false, none, none, none,
    ()⟩

/-- The editor of the network, with no device. -/
def cafeEditor : WifiEditor Unit Unit Unit Unit :=
  editProfile ⟨true, ascii "stable-ssid"⟩ plainLibrary [] cafeProfile

theorem cafeProfile_stored : StoredWifi plainLibrary cafeProfile := by
  refine ⟨by decide +kernel, ⟨_, rfl, by decide, by decide⟩, fun family setting hsetting => ?_⟩
  cases family with
  | inet =>
    obtain rfl := Option.some.inj hsetting
    refine ⟨⟨ascii "manual", by decide +kernel, rfl⟩, fun _ => List.cons_ne_nil _ _, ?_⟩
    intro gateway hgateway
    obtain rfl := Option.some.inj hgateway
    decide +kernel
  | inet6 => exact absurd hsetting (Option.not_mem_none setting)

/-- A form that differs from what is shown in a method or a switch only is valid, unless the method
asks for addresses. -/
theorem cafeEditor_valid {form : WifiForm} (hname : form.name = cafeEditor.shown.name)
    (hssid : form.ssid = cafeEditor.shown.ssid) (hmac : form.mac = cafeEditor.shown.mac)
    (hip : ∀ family, ((form.ip family).fields family).isDisabled = false →
      form.ip family = cafeEditor.shown.ip family) :
    ValidEdits plainLibrary cafeEditor [] form := by
  refine ⟨fun h => absurd hname h, fun h => absurd hssid h, fun h => absurd hmac h,
    fun security hsecurity => absurd hsecurity (Option.not_mem_none security),
    fun family hon => ?_⟩
  rw [hip family hon]
  refine ⟨fun h => absurd rfl h, fun h => ?_, fun h => absurd rfl h, fun h => absurd rfl h⟩
  rcases h with h | h <;> exact absurd rfl h

/-- Switching on the automatic connection leaves the name of the network, which is no text. -/
theorem saveClicked_keeps_cafe :
    ∃ draft, saveClicked plainLibrary cafeEditor []
        { cafeEditor.shown with autoconnect := true } = .ok draft ∧
      draft.others.ssid = some [0x63, 0x61, 0x66, 0xe9] := by
  obtain ⟨draft, hsave, hkeeps⟩ := @saveClicked_keeps Unit Unit Unit Unit
    ⟨true, ascii "stable-ssid"⟩ plainLibrary [] [] cafeProfile
    { cafeEditor.shown with autoconnect := true } cafeProfile_stored
    (cafeEditor_valid rfl rfl rfl fun family _ => by cases family <;> rfl)
    (fun _ => by decide +kernel)
    (fun _ hmac => absurd hmac (by decide +kernel))
  exact ⟨draft, hsave, hkeeps.ssid rfl⟩

/-- A network of 802.1X whose anonymous identity is stored as an empty text. -/
def campusProfile : WifiProfile Unit Unit Unit Unit :=
  { cafeProfile with
    others :=
      { cafeProfile.others with
        eap := some ⟨some (ascii "user"), some [], none, none, 0, [ascii "peap"],
          some (ascii "mschapv2"), true, ()⟩ } }

private theorem ok_of_toOption {ε α β : Type} {result : Except ε α} {f : α → β} {value : β}
    (h : result.toOption.map f = some value) : ∃ a, result = .ok a ∧ f a = value := by
  obtain ⟨a, ha, hvalue⟩ := Option.map_eq_some_iff.mp h
  cases result with
  | error error => cases ha
  | ok saved => exact ⟨a, congrArg Except.ok (Option.some.inj ha), hvalue⟩

/-- Turning IPv4 off clears the addresses, whose field was not edited, and switching on the
automatic connection unsets an anonymous identity that is stored as an empty text. -/
theorem saveClicked_clears :
    (StoredWifi plainLibrary cafeProfile ∧
      ValidEdits plainLibrary cafeEditor []
        { cafeEditor.shown with ip4 := { cafeEditor.shown.ip4 with method := 4 } } ∧
      ∃ draft, saveClicked plainLibrary cafeEditor []
          { cafeEditor.shown with ip4 := { cafeEditor.shown.ip4 with method := 4 } } = .ok draft ∧
        draft.ip4.elim [] IpSetting.addresses ≠ cafeProfile.ip4.elim [] IpSetting.addresses) ∧
      ∃ draft, saveClicked plainLibrary
          (editProfile ⟨true, ascii "stable-ssid"⟩ plainLibrary [] campusProfile) []
          { (editProfile ⟨true, ascii "stable-ssid"⟩ plainLibrary [] campusProfile).shown with
            autoconnect := true } = .ok draft ∧
        draft.others.eap.bind Setting8021x.anonymousIdentity ≠
          campusProfile.others.eap.bind Setting8021x.anonymousIdentity := by
  refine ⟨⟨cafeProfile_stored, cafeEditor_valid rfl rfl rfl fun family hon => ?_, ?_⟩, ?_⟩
  · cases family with
    | inet => exact absurd hon (by decide +kernel)
    | inet6 => rfl
  · have hcleared : (saveClicked plainLibrary cafeEditor []
        { cafeEditor.shown with ip4 := { cafeEditor.shown.ip4 with method := 4 } }).toOption.map
          (fun draft => (draft.ip4.elim [] IpSetting.addresses).length) = some 0 := by
      decide +kernel
    obtain ⟨draft, hdraft, hnone⟩ := ok_of_toOption hcleared
    refine ⟨draft, hdraft, ?_⟩
    rw [List.length_eq_zero_iff.mp hnone]
    exact (List.cons_ne_nil _ _).symm
  · have hunset : (saveClicked plainLibrary
          (editProfile ⟨true, ascii "stable-ssid"⟩ plainLibrary [] campusProfile) []
          { (editProfile ⟨true, ascii "stable-ssid"⟩ plainLibrary [] campusProfile).shown with
            autoconnect := true }).toOption.map
        (fun draft => draft.others.eap.bind Setting8021x.anonymousIdentity) = some none := by
      decide +kernel
    obtain ⟨draft, hdraft, hnone⟩ := ok_of_toOption hunset
    refine ⟨draft, hdraft, ?_⟩
    rw [hnone]
    exact (Option.some_ne_none []).symm

end NmSidebar
