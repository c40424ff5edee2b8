import NmSidebar.AmneziaWG.DnsConfig

/-!
# Editing the addresses of a profile

`sidebar_profile_set_ip` of `actions/profile-model.c` puts a method and the texts of three fields
into the IP setting of a draft. It works on a duplicate of the setting, so a text that is not
accepted leaves the draft as it was, and it takes over what it has no field for. What libnm and GLib
know of addresses is a parameter.
-/

namespace NmSidebar

open Text

/-! ## Settings -/

/-- `NMIPAddress`: the attributes hold labels and the like. -/
structure ProfileAddress (A : Type) where
  address : Bytes
  prefixLength : ℕ
  attributes : A

/-- `NMSettingIPConfig`: what the function names, and all its other properties. -/
structure IpSetting (A R X : Type) where
  method : Option Bytes
  addresses : List (ProfileAddress A)
  gateway : Option Bytes
  dns : List Bytes
  dnsSearches : List Bytes
  routes : List R
  routeMetric : ℤ
  ignoreAutoDns : Bool
  others : X

/-- The `NMConnection` of a draft: its two IP settings, and all its other settings. -/
structure IpDraft (A R X O : Type) where
  ip4 : Option (IpSetting A R X)
  ip6 : Option (IpSetting A R X)
  others : O

variable {A R X O : Type}

/-- `nm_connection_get_setting_ip4_config` and its sibling for the other family. -/
def IpDraft.setting (draft : IpDraft A R X O) : AddressFamily → Option (IpSetting A R X)
  | .inet => draft.ip4
  | .inet6 => draft.ip6

/-- `nm_connection_add_setting`: the setting takes the place of the one of its kind. -/
def IpDraft.addSetting (draft : IpDraft A R X O) (family : AddressFamily)
    (setting : IpSetting A R X) : IpDraft A R X O :=
  match family with
  | .inet => { draft with ip4 := some setting }
  | .inet6 => { draft with ip6 := some setting }

/-- What GLib and libnm know of addresses. -/
structure AddressLibrary (A X : Type) where
  /-- `g_inet_address_new_from_string`, with the family of the address. -/
  familyOf : Bytes → Option AddressFamily
  /-- `nm_ip_address_new`, with the message of its error. -/
  newAddress : AddressFamily → Bytes → ℕ → Except Bytes (ProfileAddress A)
  /-- The form in which libnm keeps an address. -/
  canonical : AddressFamily → Bytes → Bytes
  /-- The other properties of a setting that is new. -/
  fresh : AddressFamily → X

/-- `nm_setting_ip4_config_new` and its sibling for the other family. -/
def AddressLibrary.newSetting (lib : AddressLibrary A X) (family : AddressFamily) :
    IpSetting A R X :=
  ⟨none, [], none, [], [], [], -1, false, lib.fresh family⟩

/-- `nm_setting_ip_config_add_address`: an address that is known is not added. -/
def IpSetting.addAddress (setting : IpSetting A R X) (address : ProfileAddress A) :
    IpSetting A R X :=
  if setting.addresses.any fun known =>
      known.address == address.address && known.prefixLength == address.prefixLength then setting
  else { setting with addresses := setting.addresses ++ [address] }

/-- `nm_setting_ip_config_add_dns`: a server that is known is not added. -/
def IpSetting.addDns (setting : IpSetting A R X) (server : Bytes) : IpSetting A R X :=
  if setting.dns.contains server then setting
  else { setting with dns := setting.dns ++ [server] }

/-! ## Texts -/

/-- The texts one after the other, with a comma and a space between them. -/
def joinComma : List Bytes → Bytes
  | [] => []
  | [text] => text
  | text :: texts => text ++ ascii ", " ++ joinComma texts

/-- `sidebar_profile_addresses`. -/
def profileAddresses (setting : Option (IpSetting A R X)) : Bytes :=
  match setting with
  | none => []
  | some setting => joinComma (setting.addresses.map fun address =>
      address.address ++ ascii "/" ++ decimal address.prefixLength)

/-- `sidebar_profile_dns`. -/
def profileDns (setting : Option (IpSetting A R X)) : Bytes :=
  match setting with
  | none => []
  | some setting => joinComma setting.dns

/-- `g_strsplit_set` with a comma, a space, a tab and a newline. -/
def splitParts (text : Bytes) : List Bytes :=
  if text = [] then []
  else text.splitOnP fun b => b == 0x2c || b == 0x20 || b == 0x09 || b == 0x0a

/-- What `g_ascii_strtoull` makes of a text: the value, the text from the first byte it did not
read, and whether it set `errno`. -/
structure ReadNumber where
  value : ℕ
  unread : Bytes
  failed : Bool

/-- `g_ascii_strtoull` in base ten. -/
def asciiStrtoull (text : Bytes) : ReadNumber :=
  let body := text.dropWhile fun b => isSpace b || b == 0x0b
  let digits := if body.head? = some 0x2d ∨ body.head? = some 0x2b then body.drop 1 else body
  let numeral := digits.takeWhile isDigit
  let unread := digits.dropWhile isDigit
  if numeral = [] then ⟨0, text, false⟩
  else if readFrom 0 numeral ≥ 2 ^ 64 then ⟨2 ^ 64 - 1, unread, true⟩
  else if body.head? = some 0x2d then ⟨(2 ^ 64 - readFrom 0 numeral) % 2 ^ 64, unread, false⟩
  else ⟨readFrom 0 numeral, unread, false⟩

/-! ## The function -/

/-- The error of `sidebar_profile_set_ip`: `G_IO_ERROR_INVALID_ARGUMENT` with a message, or what
libnm says. -/
inductive SetIpError where
  | invalid (message : String)
  | library (message : Bytes)

/-- The longest prefix of a family. -/
def maxPrefixLength : AddressFamily → ℕ
  | .inet => 32
  | .inet6 => 128

/-- One part of the text of addresses. -/
def parseProfileAddress (lib : AddressLibrary A X) (family : AddressFamily) (part : Bytes) :
    Except SetIpError (ProfileAddress A) :=
  match splitFirst 0x2f part with
  | none => .error (.invalid ("Use addresses with a prefix, such as " ++
      "192.168.1.20/24 or 2001:db8::20/64."))
  | some (address, rest) =>
    if 0x2f ∈ rest then .error (.invalid ("Use addresses with a prefix, such as " ++
      "192.168.1.20/24 or 2001:db8::20/64."))
    else
      let number := asciiStrtoull rest
      if lib.familyOf address ≠ some family ∨ number.failed = true ∨ rest = [] ∨
          number.unread ≠ [] ∨ number.value = 0 ∨ number.value > maxPrefixLength family then
        .error (.invalid "An IP address or prefix is invalid for this address family.")
      else
        match lib.newAddress family address number.value with
        | .error message => .error (.library message)
        | .ok address => .ok address

/-- The loop over the parts of the text of addresses. -/
def addAddresses (lib : AddressLibrary A X) (family : AddressFamily) :
    List Bytes → IpSetting A R X → Except SetIpError (IpSetting A R X)
  | [], setting => .ok setting
  | part :: parts, setting =>
    if part = [] then addAddresses lib family parts setting
    else
      match parseProfileAddress lib family part with
      | .error error => .error error
      | .ok address => addAddresses lib family parts (setting.addAddress address)

/-- The loop over the parts of the text of DNS servers. -/
def addDnsServers (lib : AddressLibrary A X) (family : AddressFamily) :
    List Bytes → IpSetting A R X → Except SetIpError (IpSetting A R X)
  | [], setting => .ok setting
  | part :: parts, setting =>
    if part = [] then addDnsServers lib family parts setting
    else if lib.familyOf part ≠ some family then
      .error (.invalid ("Enter DNS server IP addresses separated by " ++
        "commas, using the matching address family."))
    else addDnsServers lib family parts (setting.addDns (lib.canonical family part))

/-- What the fields of the editor say. -/
structure IpFields where
  method : Bytes
  addresses : Bytes
  gateway : Bytes
  dns : Bytes
  automaticDns : Bool

/-- The method turns the family off. -/
def IpFields.isDisabled (fields : IpFields) : Bool :=
  fields.method == ascii "disabled" || fields.method == ascii "ignore"

/-- The addresses of the duplicate. -/
def editAddresses (lib : AddressLibrary A X) (family : AddressFamily) (fields : IpFields)
    (old : Option (IpSetting A R X)) (setting : IpSetting A R X) :
    Except SetIpError (IpSetting A R X) :=
  if profileAddresses old ≠ fields.addresses ∨ fields.isDisabled then
    addAddresses lib family (if fields.isDisabled then [] else splitParts fields.addresses)
      { setting with addresses := [] }
  else .ok setting

/-- The checks of the duplicate before its gateway is set. -/
def checkGateway (lib : AddressLibrary A X) (family : AddressFamily) (fields : IpFields)
    (setting : IpSetting A R X) : Except SetIpError Unit :=
  if fields.method = ascii "manual" ∧ setting.addresses = [] then
    .error (.invalid "Manual configuration needs at least one IP address and prefix.")
  else if fields.isDisabled = false ∧ fields.gateway ≠ [] ∧
      lib.familyOf fields.gateway ≠ some family then
    .error (.invalid "The gateway is invalid for this address family.")
  else .ok ()

/-- The DNS servers of the duplicate. -/
def editDns (lib : AddressLibrary A X) (family : AddressFamily) (fields : IpFields)
    (old : Option (IpSetting A R X)) (setting : IpSetting A R X) :
    Except SetIpError (IpSetting A R X) :=
  if profileDns old ≠ fields.dns ∨ fields.isDisabled then
    addDnsServers lib family (if fields.isDisabled then [] else splitParts fields.dns)
      { setting with dns := [] }
  else .ok setting

/-- The gateway of the duplicate, and whether DNS servers of the network are ignored. -/
def setGateway (lib : AddressLibrary A X) (family : AddressFamily) (fields : IpFields)
    (setting : IpSetting A R X) : IpSetting A R X :=
  { setting with
    gateway :=
      if fields.isDisabled = false ∧ fields.gateway ≠ [] then
        some (lib.canonical family fields.gateway)
      else none
    ignoreAutoDns := !fields.automaticDns }

/-- `sidebar_profile_set_ip`: what it returns, and the draft it leaves. -/
def profileSetIp (lib : AddressLibrary A X) (family : AddressFamily) (fields : IpFields)
    (draft : IpDraft A R X O) : Except SetIpError Unit × IpDraft A R X O :=
  let old := draft.setting family
  let copy := { old.getD (lib.newSetting family) with method := some fields.method }
  match editAddresses lib family fields old copy with
  | .error error => (.error error, draft)
  | .ok setting =>
    match checkGateway lib family fields setting with
    | .error error => (.error error, draft)
    | .ok () =>
      match editDns lib family fields old (setGateway lib family fields setting) with
      | .error error => (.error error, draft)
      | .ok setting =>
        let setting :=
          if fields.isDisabled then { setting with routes := [], dnsSearches := [] } else setting
        (.ok (), draft.addSetting family setting)

/-! ## What an edit does -/

section Edits

variable {lib : AddressLibrary A X} {family : AddressFamily} {fields : IpFields}
  {old : Option (IpSetting A R X)} {setting result : IpSetting A R X}

/-- The loop over the addresses changes only the addresses. -/
theorem addAddresses_eq_ok {parts : List Bytes}
    (h : addAddresses lib family parts setting = .ok result) :
    ∃ addresses, result = { setting with addresses } ∧
      (parts = [] → addresses = setting.addresses) := by
  induction parts generalizing setting with
  | nil =>
    obtain rfl := Except.ok.inj h
    exact ⟨_, rfl, fun _ => rfl⟩
  | cons part parts ih =>
    unfold addAddresses at h
    split at h
    · obtain ⟨addresses, hresult, -⟩ := ih h
      exact ⟨addresses, hresult, fun hnil => absurd hnil (List.cons_ne_nil _ _)⟩
    · split at h
      · cases h
      · obtain ⟨addresses, hresult, -⟩ := ih h
        refine ⟨addresses, ?_, fun hnil => absurd hnil (List.cons_ne_nil _ _)⟩
        rw [hresult]
        unfold IpSetting.addAddress
        split <;> rfl

/-- The loop over the DNS servers changes only the servers. -/
theorem addDnsServers_eq_ok {parts : List Bytes}
    (h : addDnsServers lib family parts setting = .ok result) :
    ∃ dns, result = { setting with dns } ∧ (parts = [] → dns = setting.dns) := by
  induction parts generalizing setting with
  | nil =>
    obtain rfl := Except.ok.inj h
    exact ⟨_, rfl, fun _ => rfl⟩
  | cons part parts ih =>
    unfold addDnsServers at h
    split at h
    · obtain ⟨dns, hresult, -⟩ := ih h
      exact ⟨dns, hresult, fun hnil => absurd hnil (List.cons_ne_nil _ _)⟩
    · split at h
      · cases h
      · obtain ⟨dns, hresult, -⟩ := ih h
        refine ⟨dns, ?_, fun hnil => absurd hnil (List.cons_ne_nil _ _)⟩
        rw [hresult]
        unfold IpSetting.addDns
        split <;> rfl

/-- Addresses that are edited: none where the family is off, and the old ones where their text
was not touched. -/
theorem editAddresses_eq_ok (h : editAddresses lib family fields old setting = .ok result) :
    ∃ addresses, result = { setting with addresses } ∧
      (fields.isDisabled = true → addresses = []) ∧
      (fields.isDisabled = false → profileAddresses old = fields.addresses →
        addresses = setting.addresses) := by
  unfold editAddresses at h
  split at h
  · rename_i hedited
    obtain ⟨addresses, hresult, hnone⟩ := addAddresses_eq_ok h
    refine ⟨addresses, hresult, fun hoff => hnone (if_pos hoff), fun hon hsame => ?_⟩
    rcases hedited with hchanged | hoff
    · exact absurd hsame hchanged
    · exact absurd (hon.symm.trans hoff) Bool.false_ne_true
  · rename_i hkept
    obtain rfl := Except.ok.inj h
    exact ⟨_, rfl, fun hoff => absurd (.inr hoff) hkept, fun _ _ => rfl⟩

/-- DNS servers that are edited, likewise. -/
theorem editDns_eq_ok (h : editDns lib family fields old setting = .ok result) :
    ∃ dns, result = { setting with dns } ∧ (fields.isDisabled = true → dns = []) ∧
      (fields.isDisabled = false → profileDns old = fields.dns → dns = setting.dns) := by
  unfold editDns at h
  split at h
  · rename_i hedited
    obtain ⟨dns, hresult, hnone⟩ := addDnsServers_eq_ok h
    refine ⟨dns, hresult, fun hoff => hnone (if_pos hoff), fun hon hsame => ?_⟩
    rcases hedited with hchanged | hoff
    · exact absurd hsame hchanged
    · exact absurd (hon.symm.trans hoff) Bool.false_ne_true
  · rename_i hkept
    obtain rfl := Except.ok.inj h
    exact ⟨_, rfl, fun hoff => absurd (.inr hoff) hkept, fun _ _ => rfl⟩

/-- What an edit leaves of the setting that was there: what the fields do not name is kept, texts
that were not touched stand for what they showed, and a family that is off has nothing left. -/
structure KeepsUnedited (fields : IpFields) (shown : Option (IpSetting A R X))
    (old new : IpSetting A R X) : Prop where
  method : new.method = some fields.method
  routeMetric : new.routeMetric = old.routeMetric
  others : new.others = old.others
  routes : fields.isDisabled = false →
    new.routes = old.routes ∧ new.dnsSearches = old.dnsSearches
  addresses : fields.isDisabled = false → profileAddresses shown = fields.addresses →
    new.addresses = old.addresses
  dns : fields.isDisabled = false → profileDns shown = fields.dns → new.dns = old.dns
  disabled : fields.isDisabled = true →
    new.addresses = [] ∧ new.gateway = none ∧ new.dns = [] ∧ new.routes = []

end Edits

/-- A setting that is added is the draft's setting of its family, and nothing else changes. -/
theorem addSetting_frame (draft : IpDraft A R X O) (family : AddressFamily)
    (setting : IpSetting A R X) :
    (draft.addSetting family setting).setting family = some setting ∧
      (∀ other, other ≠ family →
        (draft.addSetting family setting).setting other = draft.setting other) ∧
      (draft.addSetting family setting).others = draft.others := by
  refine ⟨?_, fun other hother => ?_, ?_⟩
  · cases family <;> rfl
  · cases family <;> cases other <;> first | rfl | exact absurd rfl hother
  · cases family <;> rfl

/-- Editing an IP setting is atomic and keeps what was not edited: where the function fails the
draft is as it was; where it succeeds only the setting of this family differs, and that setting
keeps what no field says anything new about. -/
theorem profileSetIp_atomic (lib : AddressLibrary A X) (family : AddressFamily)
    (fields : IpFields) (draft : IpDraft A R X O) :
    (∀ error draft', profileSetIp lib family fields draft = (.error error, draft') →
      draft' = draft) ∧
    ∀ draft', profileSetIp lib family fields draft = (.ok (), draft') →
      draft'.others = draft.others ∧
      (∀ other, other ≠ family → draft'.setting other = draft.setting other) ∧
      ∃ setting, draft'.setting family = some setting ∧
        KeepsUnedited fields (draft.setting family)
          ((draft.setting family).getD (lib.newSetting family)) setting := by
  unfold profileSetIp
  dsimp only
  generalize hcopy : (draft.setting family).getD (lib.newSetting family) = copy
  split
  · refine ⟨fun _ _ h => (Prod.mk.inj h).2.symm, fun _ h => ?_⟩
    cases (Prod.mk.inj h).1
  rename_i edited hedited
  split
  · refine ⟨fun _ _ h => (Prod.mk.inj h).2.symm, fun _ h => ?_⟩
    cases (Prod.mk.inj h).1
  split
  · refine ⟨fun _ _ h => (Prod.mk.inj h).2.symm, fun _ h => ?_⟩
    cases (Prod.mk.inj h).1
  rename_i last hlast
  refine ⟨fun _ _ h => ?_, fun draft' h => ?_⟩
  · cases (Prod.mk.inj h).1
  obtain rfl := (Prod.mk.inj h).2
  obtain ⟨hset, hframe, hothers⟩ := addSetting_frame draft family
    (if fields.isDisabled then { last with routes := [], dnsSearches := [] } else last)
  refine ⟨hothers, hframe, _, hset, ?_⟩
  obtain ⟨addresses, rfl, hnoAddresses, hsameAddresses⟩ := editAddresses_eq_ok hedited
  obtain ⟨dns, rfl, hnoDns, hsameDns⟩ := editDns_eq_ok hlast
  cases hdisabled : fields.isDisabled with
  | true =>
    have hon : true = false → False := Bool.false_ne_true ∘ Eq.symm
    refine ⟨rfl, rfl, rfl, fun h => ?_, fun h => ?_, fun h => ?_, fun _ => ?_⟩
    · exact absurd (hdisabled.symm.trans h) hon
    · exact absurd (hdisabled.symm.trans h) hon
    · exact absurd (hdisabled.symm.trans h) hon
    · refine ⟨hnoAddresses hdisabled, ?_, hnoDns hdisabled, rfl⟩
      exact if_neg fun h => hon (hdisabled.symm.trans h.1)
  | false =>
    refine ⟨rfl, rfl, rfl, fun _ => ⟨rfl, rfl⟩, hsameAddresses, hsameDns, fun h => ?_⟩
    exact absurd (hdisabled.symm.trans h) Bool.false_ne_true

/-- A library that takes every text for an address of the first family. -/
def anyAddress : AddressLibrary Unit Unit where
  familyOf _ := some .inet
  newAddress _ address prefixLength := .ok ⟨address, prefixLength, ()⟩
  canonical _ address := address
  fresh _ := ()

/-- A new gateway for a setting with a route: the address and the route are kept. -/
example : (profileSetIp anyAddress .inet
    ⟨ascii "manual", ascii "10.0.0.2/24", ascii "10.0.0.1", [], true⟩
    (⟨some ⟨some (ascii "manual"), [⟨ascii "10.0.0.2", 24, ()⟩], none, [], [], [7], 99, false, ()⟩,
      none, ()⟩ : IpDraft Unit ℕ Unit Unit)).2.ip4.map (fun setting =>
        (setting.routes, setting.gateway, setting.addresses.length)) =
    some ([7], some (ascii "10.0.0.1"), 1) := by
  decide +kernel

end NmSidebar
