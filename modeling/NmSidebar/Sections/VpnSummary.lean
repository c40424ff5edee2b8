import NmSidebar.Data.VpnProfiles

/-!
# The header of the VPN section

`vpn_section_update_summary` of `vpn.c`. The header shows the first profile that has an active
connection, whatever its state, unless one is active. So it agrees with the rows where one is, or
where every active connection is connecting.
-/

namespace NmSidebar

open Text

/-! ## The section -/

/-- `VpnSection`, with what its header shows. No expansion of the user is one that is negative in
the source. -/
structure VpnSection where
  userExpanded : Option Bool
  wasActive : Bool
  subtitle : List Char
  rowState : RowState
  expanded : Bool

/-- The loop of `vpn_section_update_summary` over one profile. -/
def showProfile (shown : Option VpnProfile) (profile : VpnProfile) : Option VpnProfile :=
  if profile.active.isSome && (shown.isNone || profile.rowState = .active) then some profile
  else shown

/-- The profile that the header shows. -/
def shownProfile (profiles : List VpnProfile) : Option VpnProfile := profiles.foldl showProfile none

/-- The text of the header. -/
def vpnSummary (snapshot : VpnProfiles) (shown : Option VpnProfile) : List Char :=
  match shown with
  | some profile =>
    (if profile.rowState = .active then "Connected".toList else "Connecting".toList) ++
      ": ".toList ++ profile.name
  | none =>
    let count := snapshot.profiles.length
    if count = 0 ∧ snapshot.pluginStatus = .missing then "No VPN plugins installed".toList
    else Nat.toDigits 10 count ++ " profile".toList ++ (if count = 1 then [] else "s".toList)

/-- `vpn_section_update_summary`. -/
def vpnSectionUpdateSummary (data : VpnSection) (snapshot : VpnProfiles) : VpnSection :=
  let shown := shownProfile snapshot.profiles
  let shownState := (shown.map (·.rowState)).getD .none
  let anyActive := shownState = .active || shownState = .connecting
  let userExpanded := if anyActive ≠ data.wasActive then none else data.userExpanded
  { userExpanded
    wasActive := anyActive
    subtitle := vpnSummary snapshot shown
    rowState := shownState
    expanded := userExpanded.getD anyActive }

/-! ## What is shown -/

/-- The state of a row is that of its connection, as `network_sidebar_vpn_profiles_load` has set
it. -/
def Loaded (profiles : List VpnProfile) : Prop :=
  ∀ profile ∈ profiles, profile.rowState = vpnRowState profile.active

theorem vpnProfilesLoad_loaded (data : CharacterData) (casefold : Bytes → Bytes)
    (client : VpnClient) : Loaded (vpnProfilesLoad data casefold client).profiles := by
  intro profile hprofile
  obtain ⟨connection, -, rfl⟩ := List.mem_map.mp hprofile
  rfl

/-- A row that has a state has an active connection. -/
theorem isSome_of_rowState {profiles : List VpnProfile} (hloaded : Loaded profiles)
    {profile : VpnProfile} (hprofile : profile ∈ profiles) (hstate : profile.rowState ≠ .none) :
    profile.active.isSome = true := by
  cases hactive : profile.active with
  | some active => rfl
  | none =>
    refine absurd ?_ hstate
    rw [hloaded profile hprofile, hactive]
    rfl

/-- An active profile is shown for good. -/
theorem foldl_showProfile_active (profiles : List VpnProfile) (shown : Option VpnProfile)
    (hactive : (∃ profile ∈ profiles, profile.active.isSome = true ∧ profile.rowState = .active) ∨
      ∃ profile, shown = some profile ∧ profile.rowState = .active) :
    ∃ profile, profiles.foldl showProfile shown = some profile ∧ profile.rowState = .active ∧
      (profile ∈ profiles ∨ shown = some profile) := by
  induction profiles generalizing shown with
  | nil =>
    obtain ⟨_, hmem, -⟩ | ⟨profile, hshown, hstate⟩ := hactive
    · exact absurd hmem List.not_mem_nil
    · exact ⟨profile, hshown, hstate, .inr hshown⟩
  | cons first profiles ih =>
    have hkept : (∃ profile ∈ profiles, profile.active.isSome = true ∧ profile.rowState = .active) ∨
        ∃ profile, showProfile shown first = some profile ∧ profile.rowState = .active := by
      unfold showProfile
      obtain ⟨profile, hmem, hsome, hstate⟩ | ⟨profile, hshown, hstate⟩ := hactive
      · rcases List.mem_cons.mp hmem with rfl | hmem
        · exact .inr ⟨profile, by simp [hsome, hstate], hstate⟩
        · exact .inl ⟨profile, hmem, hsome, hstate⟩
      · refine .inr ?_
        split
        · rename_i hnow
          rw [hshown] at hnow
          exact ⟨first, rfl, by simpa using (Bool.and_eq_true_iff.mp hnow).2⟩
        · exact ⟨profile, hshown, hstate⟩
    obtain ⟨profile, hresult, hstate, hwhere⟩ := ih (showProfile shown first) hkept
    refine ⟨profile, hresult, hstate, ?_⟩
    rcases hwhere with hmem | hshown
    · exact .inl (List.mem_cons_of_mem first hmem)
    · unfold showProfile at hshown
      split at hshown
      · obtain rfl := Option.some.inj hshown
        exact .inl List.mem_cons_self
      · exact .inr hshown

/-- Where no profile is active, the first one with an active connection is shown. -/
theorem foldl_showProfile_first (profiles : List VpnProfile) (shown : Option VpnProfile)
    (hnone : ∀ profile ∈ profiles, profile.rowState ≠ .active) :
    profiles.foldl showProfile shown = shown.or (profiles.find? (·.active.isSome)) := by
  induction profiles generalizing shown with
  | nil => exact Option.or_none.symm
  | cons first profiles ih =>
    have hfirst : showProfile shown first =
        shown.or (if first.active.isSome then some first else none) := by
      unfold showProfile
      have hstate := hnone first List.mem_cons_self
      cases shown with
      | none => simp
      | some profile => simp [hstate]
    rw [List.foldl_cons, ih _ fun profile hmem => hnone profile (List.mem_cons_of_mem first hmem),
      hfirst, List.find?_cons]
    cases first.active.isSome with
    | true => cases shown <;> rfl
    | false => cases shown <;> rfl

/-! ## Agreement -/

/-- The header agrees with the rows. -/
structure HeaderAgrees (snapshot : VpnProfiles) (header : VpnSection) : Prop where
  active : (∃ profile ∈ snapshot.profiles, profile.rowState = .active) → header.rowState = .active
  connecting : (¬∃ profile ∈ snapshot.profiles, profile.rowState = .active) →
    (∃ profile ∈ snapshot.profiles, profile.rowState = .connecting) → header.rowState = .connecting
  neither : (∀ profile ∈ snapshot.profiles, profile.rowState ≠ .active ∧
    profile.rowState ≠ .connecting) → header.rowState ≠ .active ∧ header.rowState ≠ .connecting
  connected : ∀ name, header.subtitle = "Connected: ".toList ++ name →
    ∃ profile ∈ snapshot.profiles, profile.rowState = .active ∧ profile.name = name
  connectingName : ∀ name, header.subtitle = "Connecting: ".toList ++ name →
    (¬∃ profile ∈ snapshot.profiles, profile.rowState = .active) ∧
      ∃ profile ∈ snapshot.profiles, profile.rowState = .connecting ∧ profile.name = name

/-- The state of the header does not depend on the order of the profiles. -/
def OrderFree (data : VpnSection) (snapshot : VpnProfiles) : Prop :=
  ∀ profiles, profiles.Perm snapshot.profiles →
    (vpnSectionUpdateSummary data { snapshot with profiles }).rowState =
      (vpnSectionUpdateSummary data snapshot).rowState

variable (data : VpnSection) {snapshot : VpnProfiles} {profile : VpnProfile}

/-- A profile that is active is shown as connected. -/
theorem header_of_active (hloaded : Loaded snapshot.profiles)
    (hactive : ∃ profile ∈ snapshot.profiles, profile.rowState = .active) :
    (vpnSectionUpdateSummary data snapshot).rowState = .active ∧
      ∃ profile ∈ snapshot.profiles, profile.rowState = .active ∧
        (vpnSectionUpdateSummary data snapshot).subtitle =
          "Connected: ".toList ++ profile.name := by
  obtain ⟨profile, hmem, hstate⟩ := hactive
  have hsome := isSome_of_rowState hloaded hmem (by rw [hstate]; exact RowState.noConfusion)
  obtain ⟨shown, hshown, hshownState, hwhere⟩ :=
    foldl_showProfile_active snapshot.profiles none (.inl ⟨profile, hmem, hsome, hstate⟩)
  have hshown : shownProfile snapshot.profiles = some shown := hshown
  have hmem : shown ∈ snapshot.profiles :=
    hwhere.resolve_right fun hno => absurd hno (Option.some_ne_none _).symm
  unfold vpnSectionUpdateSummary
  dsimp only
  rw [hshown]
  refine ⟨hshownState, shown, hmem, hshownState, ?_⟩
  unfold vpnSummary
  dsimp only
  rw [if_pos hshownState]
  rfl

/-- Where no profile is active, the first one that has an active connection is shown as
connecting. -/
theorem header_of_first (hnone : ¬∃ profile ∈ snapshot.profiles, profile.rowState = .active)
    (hfirst : snapshot.profiles.find? (·.active.isSome) = some profile) :
    (vpnSectionUpdateSummary data snapshot).rowState = profile.rowState ∧
      (vpnSectionUpdateSummary data snapshot).subtitle = "Connecting: ".toList ++ profile.name := by
  have hshown : shownProfile snapshot.profiles = some profile := by
    unfold shownProfile
    rw [foldl_showProfile_first snapshot.profiles none fun profile hmem hstate =>
      hnone ⟨profile, hmem, hstate⟩, hfirst]
    rfl
  have hstate : profile.rowState ≠ .active := fun hstate =>
    hnone ⟨profile, List.mem_of_find?_eq_some hfirst, hstate⟩
  unfold vpnSectionUpdateSummary
  dsimp only
  rw [hshown]
  refine ⟨rfl, ?_⟩
  unfold vpnSummary
  dsimp only
  rw [if_neg hstate]
  rfl

/-- Where no profile has an active connection, the header counts them. -/
theorem header_of_none (hnone : ¬∃ profile ∈ snapshot.profiles, profile.rowState = .active)
    (hfirst : snapshot.profiles.find? (·.active.isSome) = none) :
    (vpnSectionUpdateSummary data snapshot).rowState = .none ∧
      (vpnSectionUpdateSummary data snapshot).subtitle.head? ≠ some 'C' := by
  have hshown : shownProfile snapshot.profiles = none := by
    unfold shownProfile
    rw [foldl_showProfile_first snapshot.profiles none fun profile hmem hstate =>
      hnone ⟨profile, hmem, hstate⟩, hfirst]
    rfl
  unfold vpnSectionUpdateSummary
  dsimp only
  rw [hshown]
  refine ⟨rfl, ?_⟩
  unfold vpnSummary
  dsimp only
  split
  · decide +kernel
  · intro hhead
    cases hdigits : Nat.toDigits 10 snapshot.profiles.length with
    | nil => exact Nat.toDigits_ne_nil hdigits
    | cons digit digits =>
      rw [hdigits] at hhead
      obtain rfl : digit = 'C' := Option.some.inj hhead
      have hdigit := Nat.isDigit_of_mem_toDigits (b := 10) (n := snapshot.profiles.length)
        (by decide) (by decide) (hdigits ▸ List.mem_cons_self)
      exact absurd hdigit (by decide)

theorem connecting_ne_connected (name name' : List Char) :
    "Connecting: ".toList ++ name ≠ "Connected: ".toList ++ name' := by
  intro h
  have hchar := congrArg (fun text => text[7]?) h
  simp at hchar

theorem active_of_find {profiles : List VpnProfile}
    (h : profiles.find? (·.active.isSome) = some profile) : profile.active.isSome = true :=
  List.find?_some (p := fun profile : VpnProfile => profile.active.isSome) h

/-- The text of a header that counts the profiles says neither. -/
theorem ne_append_of_head {text : List Char} (hhead : text.head? ≠ some 'C') (name : List Char) :
    text ≠ "Connected: ".toList ++ name ∧ text ≠ "Connecting: ".toList ++ name := by
  constructor
  · rintro rfl
    exact hhead (by simp)
  · rintro rfl
    exact hhead (by simp)

/-- A header of a list with an active profile agrees with it. -/
theorem headerAgrees_of_active (hloaded : Loaded snapshot.profiles)
    (hactive : ∃ profile ∈ snapshot.profiles, profile.rowState = .active) :
    HeaderAgrees snapshot (vpnSectionUpdateSummary data snapshot) := by
  obtain ⟨hstate, shown, hmem, hshown, htext⟩ := header_of_active data hloaded hactive
  refine ⟨fun _ => hstate, fun hno => absurd hactive hno, fun hno => ?_, fun name hname => ?_,
    fun name hname => ?_⟩
  · obtain ⟨profile, hmem, hprofile⟩ := hactive
    exact absurd hprofile (hno profile hmem).1
  · refine ⟨shown, hmem, hshown, ?_⟩
    exact List.append_cancel_left (htext.symm.trans hname)
  · exact absurd (hname.symm.trans htext) (connecting_ne_connected _ _)

/-- A header of a list whose active connections are all connecting agrees with it. -/
theorem headerAgrees_of_connecting (hloaded : Loaded snapshot.profiles)
    (hnone : ¬∃ profile ∈ snapshot.profiles, profile.rowState = .active)
    (hconnecting : ∀ profile ∈ snapshot.profiles, profile.active.isSome = true →
      profile.rowState = .connecting) :
    HeaderAgrees snapshot (vpnSectionUpdateSummary data snapshot) := by
  cases hfirst : snapshot.profiles.find? (·.active.isSome) with
  | none =>
    obtain ⟨hstate, hhead⟩ := header_of_none data hnone hfirst
    refine ⟨fun hactive => absurd hactive hnone, fun _ hsome => ?_, fun _ => ?_, fun name hname =>
      absurd hname (ne_append_of_head hhead name).1, fun name hname =>
        absurd hname (ne_append_of_head hhead name).2⟩
    · obtain ⟨profile, hmem, hprofile⟩ := hsome
      have hactive := isSome_of_rowState hloaded hmem (by rw [hprofile]; exact RowState.noConfusion)
      exact absurd hactive (List.find?_eq_none.mp hfirst profile hmem)
    · rw [hstate]
      exact ⟨RowState.noConfusion, RowState.noConfusion⟩
  | some shown =>
    obtain ⟨hstate, htext⟩ := header_of_first data hnone hfirst
    have hmem := List.mem_of_find?_eq_some hfirst
    have hshown := hconnecting shown hmem (active_of_find hfirst)
    refine ⟨fun hactive => absurd hactive hnone, fun _ _ => hstate.trans hshown, fun hno =>
      absurd hshown (hno shown hmem).2, fun name hname => ?_, fun name hname =>
        ⟨hnone, shown, hmem, hshown, ?_⟩⟩
    · exact absurd (htext.symm.trans hname) (connecting_ne_connected _ _)
    · exact List.append_cancel_left (htext.symm.trans hname)

/-- The state of such a list is the same in every order. -/
theorem rowState_of_connecting
    (hnone : ¬∃ profile ∈ snapshot.profiles, profile.rowState = .active)
    (hconnecting : ∀ profile ∈ snapshot.profiles, profile.active.isSome = true →
      profile.rowState = .connecting) :
    (vpnSectionUpdateSummary data snapshot).rowState =
      if ∃ profile ∈ snapshot.profiles, profile.active.isSome = true then .connecting
      else .none := by
  cases hfirst : snapshot.profiles.find? (·.active.isSome) with
  | none =>
    rw [(header_of_none data hnone hfirst).1, if_neg]
    rintro ⟨profile, hmem, hsome⟩
    exact List.find?_eq_none.mp hfirst profile hmem hsome
  | some shown =>
    have hmem := List.mem_of_find?_eq_some hfirst
    have hsome := active_of_find hfirst
    rw [(header_of_first data hnone hfirst).1, if_pos ⟨shown, hmem, hsome⟩]
    exact hconnecting shown hmem hsome

/-- The header agrees with its rows, in whatever order they are, exactly where one of them is
active, or every active connection is connecting. -/
theorem vpnSummary_agrees_iff (hloaded : Loaded snapshot.profiles) :
    (HeaderAgrees snapshot (vpnSectionUpdateSummary data snapshot) ∧ OrderFree data snapshot) ↔
      (∃ profile ∈ snapshot.profiles, profile.rowState = .active) ∨
        ∀ profile ∈ snapshot.profiles, profile.active.isSome = true →
          profile.rowState = .connecting := by
  constructor
  · rintro ⟨hagrees, hfree⟩
    by_contra hcondition
    rw [not_or] at hcondition
    obtain ⟨hnone, hother⟩ := hcondition
    obtain ⟨profile, hother⟩ := not_forall.mp hother
    obtain ⟨hmem, hother⟩ := Classical.not_imp.mp hother
    obtain ⟨hsome, hstate⟩ := Classical.not_imp.mp hother
    -- the first profile with an active connection says that it is connecting, so it is
    have hfound : (snapshot.profiles.find? (·.active.isSome)).isSome = true :=
      List.find?_isSome.mpr ⟨profile, hmem, hsome⟩
    obtain ⟨shown, hfirst⟩ := Option.isSome_iff_exists.mp hfound
    obtain ⟨hshown, htext⟩ := header_of_first data hnone hfirst
    obtain ⟨-, hconnecting⟩ := hagrees.connectingName shown.name htext
    have hheader := hagrees.connecting hnone
      (hconnecting.imp fun _ hprofile => ⟨hprofile.1, hprofile.2.1⟩)
    -- and in another order the other one would be the first
    obtain ⟨before, after, hsplit⟩ := List.append_of_mem hmem
    have hperm : (profile :: (before ++ after)).Perm snapshot.profiles := by
      rw [hsplit]
      exact List.perm_middle.symm
    have hnone' : ¬∃ other ∈ profile :: (before ++ after), other.rowState = .active :=
      fun ⟨other, hother, hactive⟩ => hnone ⟨other, hperm.subset hother, hactive⟩
    have hfirst' : (profile :: (before ++ after)).find? (·.active.isSome) = some profile := by
      rw [List.find?_cons, hsome]
    have hreordered := (@header_of_first data { snapshot with
      profiles := profile :: (before ++ after) } profile hnone' hfirst').1
    exact hstate (hreordered.symm.trans ((hfree _ hperm).trans hheader))
  · intro hcondition
    by_cases hactive : ∃ profile ∈ snapshot.profiles, profile.rowState = .active
    · refine ⟨headerAgrees_of_active data hloaded hactive, fun profiles hperm => ?_⟩
      have hloaded' : Loaded profiles := fun profile hmem => hloaded profile (hperm.subset hmem)
      have hactive' : ∃ profile ∈ profiles, profile.rowState = .active := by
        obtain ⟨profile, hmem, hstate⟩ := hactive
        exact ⟨profile, hperm.symm.subset hmem, hstate⟩
      rw [(header_of_active data hloaded hactive).1]
      exact (@header_of_active data { snapshot with profiles } hloaded' hactive').1
    · have hconnecting := hcondition.resolve_left hactive
      refine ⟨headerAgrees_of_connecting data hloaded hactive hconnecting, fun profiles hperm => ?_⟩
      have hiff : (∃ profile ∈ profiles, profile.active.isSome = true) ↔
          ∃ profile ∈ snapshot.profiles, profile.active.isSome = true :=
        ⟨fun ⟨profile, hmem, hsome⟩ => ⟨profile, hperm.subset hmem, hsome⟩,
          fun ⟨profile, hmem, hsome⟩ => ⟨profile, hperm.symm.subset hmem, hsome⟩⟩
      rw [rowState_of_connecting data hactive hconnecting]
      refine (@rowState_of_connecting data { snapshot with profiles }
        (fun ⟨profile, hmem, hstate⟩ => hactive ⟨profile, hperm.subset hmem, hstate⟩)
        fun profile hmem => hconnecting profile (hperm.subset hmem)).trans ?_
      simp only [hiff]

/-- A client with one WireGuard profile, whose connection is in a state. -/
def singleClient (state : ActiveConnectionState) : VpnClient where
  connections := [{
    connectionType := some settingWireguardName
    id := some (ascii "home")
    uuid := some (ascii "1")
    serviceType := none }]
  activeConnections := [{
    uuid := some (ascii "1")
    connectionType := some settingWireguardName
    vpn := false
    state
    vpnState := none }]
  networkingEnabled := true
  pluginServices := []
  pluginServiceTypes := []

/-- A header before its first update. -/
def sampleHeader : VpnSection where
  userExpanded := none
  wasActive := false
  subtitle := []
  rowState := .none
  expanded := false

theorem vpnSummary_agrees_sample :
    (HeaderAgrees (vpnProfilesLoad latinData id (singleClient .activating))
      (vpnSectionUpdateSummary sampleHeader
        (vpnProfilesLoad latinData id (singleClient .activating))) ∧
      OrderFree sampleHeader (vpnProfilesLoad latinData id (singleClient .activating))) ↔
      (∃ profile ∈ (vpnProfilesLoad latinData id (singleClient .activating)).profiles,
          profile.rowState = .active) ∨
        ∀ profile ∈ (vpnProfilesLoad latinData id (singleClient .activating)).profiles,
          profile.active.isSome = true → profile.rowState = .connecting :=
  vpnSummary_agrees_iff sampleHeader (vpnProfilesLoad_loaded latinData id _)

/-- A profile that is being disconnected is shown as connecting. -/
theorem vpnSummary_deactivating :
    ¬HeaderAgrees (vpnProfilesLoad latinData id (singleClient .deactivating))
      (vpnSectionUpdateSummary sampleHeader
        (vpnProfilesLoad latinData id (singleClient .deactivating))) := by
  intro hagrees
  obtain ⟨-, profile, hmem, hstate, -⟩ := hagrees.connectingName "home".toList (by decide +kernel)
  have hall : ∀ profile ∈ (vpnProfilesLoad latinData id (singleClient .deactivating)).profiles,
      profile.rowState ≠ .connecting := by
    decide +kernel
  exact hall profile hmem hstate

end NmSidebar
