import Mathlib.Data.List.Perm.Basic
import NmSidebar.Sections.Wifi

/-!
# Where networks and profiles are listed

The entries are the classes of the access points, every entry and every saved profile has a row, and
a saved profile that is connected is in its place where each network that it suits carries it. A
network that the profile suits without carrying it offers the profile a second time.
-/

namespace NmSidebar

open Text Collections

/-! ## The identity of a network -/

/-- What `same_network_identity` compares: the one for networks with a name, the other for those
without. -/
def networkKey (member : WifiMember) :
    (Bytes × WifiMode × UInt32 × UInt32 × UInt32) ⊕
      (Bytes × Bytes × UInt32 × WifiMode × UInt32 × UInt32 × UInt32) :=
  if member.ap.hasSsid then
    .inl (member.ap.ssid.getD [], member.ap.mode, apSecurityFlags member.ap, member.ap.wpaFlags,
      member.ap.rsnFlags)
  else
    .inr (deviceIdentity member.device, apBssidOrPath member.ap, member.ap.frequency,
      member.ap.mode, member.ap.flags, member.ap.wpaFlags, member.ap.rsnFlags)

theorem sameNetworkIdentity_iff (first candidate : WifiMember) :
    sameNetworkIdentity first candidate = true ↔ networkKey first = networkKey candidate := by
  unfold sameNetworkIdentity networkKey sameHiddenApIdentity ssidBytesEqual
  cases first.ap.hasSsid <;> cases candidate.ap.hasSsid <;>
    simp only [Bool.not_true, Bool.not_false, Bool.or_self, Bool.or_true, Bool.or_false,
      Bool.true_and, Bool.and_false, Bool.and_true, Bool.false_and, Bool.and_self, Bool.and_eq_true,
      decide_eq_true_eq, Bool.false_eq_true, if_true, if_false, Sum.inl.injEq, Sum.inr.injEq,
      Prod.mk.injEq, reduceCtorEq, and_assoc]

theorem sameNetworkIdentity_equivalence :
    Equivalence fun x y => sameNetworkIdentity x y = true where
  refl x := (sameNetworkIdentity_iff x x).mpr rfl
  symm h := (sameNetworkIdentity_iff _ _).mpr ((sameNetworkIdentity_iff _ _).mp h).symm
  trans h h' := (sameNetworkIdentity_iff _ _).mpr
    (((sameNetworkIdentity_iff _ _).mp h).trans ((sameNetworkIdentity_iff _ _).mp h'))

/-- No access point of the one list is of a network of the other. -/
def Apart (xs ys : List WifiMember) : Prop :=
  ∀ x ∈ xs, ∀ y ∈ ys, sameNetworkIdentity x y = false

theorem Apart.symm {xs ys : List WifiMember} (h : Apart xs ys) : Apart ys xs := by
  intro y hy x hx
  refine Bool.eq_false_iff.mpr fun hyx => ?_
  exact Bool.eq_false_iff.mp (h x hx y hy) (sameNetworkIdentity_equivalence.symm hyx)

namespace WifiClient

variable {client : WifiClient} {casefold : Bytes → Bytes} {entry : WifiEntry} {profile : ℕ}

/-! ## The entries -/

theorem mem_wifiEntries : entry ∈ client.wifiEntries casefold ↔
    entry ∈ client.assignSavedWifiConnections casefold client.buildWifiEntries :=
  (List.perm_insertionSort _ _).mem_iff

theorem wifiEntries_cluster :
    ((client.wifiEntries casefold).map WifiEntry.cluster).Perm client.buildWifiEntries := by
  refine ((List.perm_insertionSort _ _).map _).trans (.of_eq ?_)
  unfold assignSavedWifiConnections
  rw [List.map_map]
  exact List.map_id _

/-- Every access point is in one entry. -/
theorem members_wifiEntries :
    ((client.wifiEntries casefold).flatMap WifiEntry.members).Perm client.wifiMembers := by
  have hmembers : (client.wifiEntries casefold).flatMap WifiEntry.members =
      elements ((client.wifiEntries casefold).map WifiEntry.cluster) := by
    unfold elements
    rw [List.flatMap_map]
    rfl
  rw [hmembers]
  exact (wifiEntries_cluster.flatMap_right _).trans (elements_clusters _)

theorem same_of_mem_entry (hentry : entry ∈ client.wifiEntries casefold) {x y : WifiMember}
    (hx : x ∈ entry.members) (hy : y ∈ entry.members) : sameNetworkIdentity x y = true := by
  have hcluster : entry.cluster ∈ client.buildWifiEntries :=
    wifiEntries_cluster.subset (List.mem_map_of_mem hentry)
  exact (classes_clusters sameNetworkIdentity_equivalence _).within _ hcluster x hx y hy

theorem wifiEntries_apart :
    (client.wifiEntries casefold).Pairwise fun e e' => Apart e.members e'.members := by
  have hclasses := (classes_clusters sameNetworkIdentity_equivalence client.wifiMembers).apart
  have hapart : ((client.wifiEntries casefold).map WifiEntry.cluster).Pairwise fun g g' =>
      Apart g.members g'.members :=
    (wifiEntries_cluster.pairwise_iff Apart.symm).mpr hclasses
  rw [List.pairwise_map] at hapart
  exact hapart

/-- Two access points of one network are in one entry. -/
theorem mem_entry_of_same (hentry : entry ∈ client.wifiEntries casefold) {x y : WifiMember}
    (hx : x ∈ entry.members) (hy : y ∈ client.wifiMembers)
    (hsame : sameNetworkIdentity x y = true) : y ∈ entry.members := by
  obtain ⟨entry', hentry', hy⟩ := List.mem_flatMap.mp (members_wifiEntries.mem_iff.mpr hy)
  by_cases heq : entry' = entry
  · exact heq ▸ hy
  have hsymm : Std.Symm fun e e' : WifiEntry => Apart e.members e'.members :=
    ⟨fun _ _ => Apart.symm⟩
  have hapart := wifiEntries_apart.forall hentry hentry' (Ne.symm heq)
  exact absurd hsame (Bool.eq_false_iff.mp (hapart x hx y hy))

/-! ## Profiles of an entry -/

theorem mem_sortSaved {profiles : List ℕ} :
    profile ∈ client.sortSaved casefold profiles ↔ profile ∈ profiles :=
  (List.perm_insertionSort _ _).mem_iff

theorem mem_savedWifiProfiles (h : profile ∈ client.savedWifiProfiles casefold) :
    profile ∈ client.connections :=
  (List.mem_filter.mp (mem_sortSaved.mp h)).1

/-- An entry has a best member for the profiles that suit one of its access points. -/
theorem isSome_wifiEntryBestMemberForProfile (members : List WifiMember) :
    (client.wifiEntryBestMemberForProfile members profile).isSome = true ↔
      ∃ member ∈ members, client.wifiMemberSuits member profile = true := by
  unfold wifiEntryBestMemberForProfile
  constructor
  · intro h
    obtain ⟨member, hmember⟩ := Option.isSome_iff_exists.mp h
    exact ⟨member, List.mem_filter.mp (best_mem hmember)⟩
  · rintro ⟨member, hmember, hsuits⟩
    have hne : members.filter (client.wifiMemberSuits · profile) ≠ [] :=
      List.ne_nil_of_mem (List.mem_filter.mpr ⟨hmember, hsuits⟩)
    obtain ⟨b, hb⟩ := exists_best_of_ne_nil hne
    rw [hb]
    rfl

/-- The profiles that are assigned to an entry. -/
theorem mem_savedConnections (hentry : entry ∈ client.wifiEntries casefold) :
    profile ∈ entry.savedConnections ↔ profile ∈ client.savedWifiProfiles casefold ∧
      ∃ member ∈ entry.members, client.wifiMemberSuits member profile = true := by
  obtain ⟨cluster, -, rfl⟩ := List.mem_map.mp (mem_wifiEntries.mp hentry)
  dsimp only
  rw [mem_sortSaved, List.mem_filter, isSome_wifiEntryBestMemberForProfile]
  rfl

/-! ## Members that carry a profile -/

/-- The profile is connected, or about to be, through the access point. -/
def Carries (client : WifiClient) (member : WifiMember) (profile : ℕ) : Prop :=
  client.wifiMemberActiveForProfile member profile = true ∧
    rowStatePreferred member.rowState = true

theorem rowStateRank_lt (state : RowState) :
    rowStateRank state < 2 ↔ rowStatePreferred state = true := by
  unfold rowStateRank rowStatePreferred
  cases state <;> decide

/-- A member carries a profile where its rank for it is not the last one. -/
theorem memberRank_lt {member : WifiMember} :
    client.memberRank (some profile) member < 2 ↔ client.Carries member profile := by
  unfold memberRank Carries
  dsimp only
  split
  · rename_i hactive
    rw [rowStateRank_lt]
    exact ⟨fun h => ⟨hactive, h⟩, fun h => h.2⟩
  · rename_i hactive
    exact ⟨fun h => absurd h (lt_irrefl 2), fun h => absurd h.1 hactive⟩

theorem memberRank_le (member : WifiMember) : client.memberRank (some profile) member ≤ 2 := by
  unfold memberRank rowStateRank
  dsimp only
  split
  · split
    · exact Nat.zero_le 2
    · split <;> decide
  · exact le_refl 2

theorem Carries.suits {member : WifiMember} (h : client.Carries member profile) :
    client.wifiMemberSuits member profile = true :=
  Bool.or_eq_true_iff.mpr (.inl h.1)

/-- The best member carries the profile where any does. -/
theorem best_carries {members : List WifiMember}
    (h : ∃ member ∈ members, client.Carries member profile) : ∃ member,
      client.wifiEntryBestMemberForProfile members profile = some member ∧
        client.Carries member profile := by
  obtain ⟨member, hmember, hcarries⟩ := h
  refine exists_best (fun x y hx hy => ?_) (fun x y hy hxy => ?_)
    ⟨member, List.mem_filter.mpr ⟨hmember, hcarries.suits⟩, hcarries⟩
  · have hx := memberRank_lt.mpr hx
    have hy := (memberRank_le y).antisymm (not_lt.mp (memberRank_lt.not.mpr hy))
    unfold wifiMemberPreferred
    rw [hy, if_pos (Nat.ne_of_lt hx)]
    exact decide_eq_true hx
  · have hy := memberRank_lt.mpr hy
    unfold wifiMemberPreferred at hxy
    refine memberRank_lt.mp ?_
    split at hxy
    · exact (of_decide_eq_true hxy).trans hy
    · rename_i heq
      rw [not_not.mp heq]
      exact hy

/-! ## The rows of an entry -/

theorem mem_wifiMembers (hentry : entry ∈ client.wifiEntries casefold) {member : WifiMember}
    (hmember : member ∈ entry.members) : member ∈ client.wifiMembers :=
  members_wifiEntries.subset (List.mem_flatMap.mpr ⟨entry, hentry, hmember⟩)

/-- Every active connection of the entry that was not seen gets a row. -/
theorem exists_activeNetworkRow {seen : List ℕ} {members : List WifiMember} {member : WifiMember}
    {active : ℕ} (hmember : member ∈ members) (hactive : member.active = some active)
    (hpreferred : rowStatePreferred member.rowState = true) (hseen : active ∉ seen) :
    ∃ first ∈ members, first.active = some active ∧
      client.addNetworkRow entry first
        (entry.savedConnections.find? (client.wifiMemberActiveForProfile first)) (some active)
        first.rowState ∈ client.activeNetworkRows entry seen members := by
  induction members generalizing seen with
  | nil => exact absurd hmember List.not_mem_nil
  | cons m members ih =>
    by_cases hm : m.active = some active ∧ rowStatePreferred m.rowState = true
    · refine ⟨m, List.mem_cons_self, hm.1, ?_⟩
      rw [activeNetworkRows, hm.1]
      dsimp only
      rw [if_pos (by simp [hm.2, hseen])]
      exact List.mem_cons_self
    · have hmember : member ∈ members := by
        rcases List.mem_cons.mp hmember with rfl | hmember
        · exact absurd ⟨hactive, hpreferred⟩ hm
        · exact hmember
      rw [activeNetworkRows]
      cases hother : m.active with
      | none =>
        obtain ⟨first, hfirst, hsame, hrow⟩ := ih hmember hseen
        exact ⟨first, List.mem_cons_of_mem _ hfirst, hsame, hrow⟩
      | some other =>
        dsimp only
        split
        · rename_i hshown
          have hne : active ≠ other := by
            rintro rfl
            exact hm ⟨hother, (Bool.and_eq_true_iff.mp hshown).1⟩
          have hseen : active ∉ other :: seen := List.not_mem_cons_of_ne_of_not_mem hne hseen
          obtain ⟨first, hfirst, hsame, hrow⟩ := ih hmember hseen
          exact ⟨first, List.mem_cons_of_mem _ hfirst, hsame, List.mem_cons_of_mem _ hrow⟩
        · obtain ⟨first, hfirst, hsame, hrow⟩ := ih hmember hseen
          exact ⟨first, List.mem_cons_of_mem _ hfirst, hsame, hrow⟩

/-- A profile that is active on a member has its UUID. -/
theorem activeForProfile_iff {member : WifiMember} {active : ℕ}
    (hactive : member.active = some active) :
    client.wifiMemberActiveForProfile member profile = true ↔
      (client.connection profile).uuid ≠ none ∧
        (client.connection profile).uuid = (client.activeConnection active).uuid := by
  unfold wifiMemberActiveForProfile
  rw [hactive, Option.bind_some]
  cases (client.connection profile).uuid with
  | none => simp
  | some uuid => cases (client.activeConnection active).uuid <;> simp

/-- A profile that an access point of the entry carries is shown as connected. -/
theorem exists_connectedRow (hentry : entry ∈ client.wifiEntries casefold)
    (hprofile : profile ∈ client.savedWifiProfiles casefold)
    (hcarries : ∃ member ∈ entry.members, client.Carries member profile) :
    ∃ row ∈ client.addActiveNetworkRows entry, row.saved = some profile := by
  obtain ⟨member, hmember, hcarries⟩ := hcarries
  obtain ⟨active, hactive⟩ : ∃ active, member.active = some active := by
    refine Option.isSome_iff_exists.mp ?_
    have hsome := hcarries.1
    unfold wifiMemberActiveForProfile at hsome
    cases hnone : member.active with
    | none => simp [hnone] at hsome
    | some active => rfl
  obtain ⟨first, hfirst, hsame, hrow⟩ := @exists_activeNetworkRow client entry _ _ _ _
    hmember hactive hcarries.2 (List.not_mem_nil (a := active))
  refine ⟨_, hrow, ?_⟩
  show entry.savedConnections.find? (client.wifiMemberActiveForProfile first) = some profile
  have huuid := (activeForProfile_iff hactive).mp hcarries.1
  have hsuits : client.wifiMemberActiveForProfile first profile = true :=
    (activeForProfile_iff hsame).mpr huuid
  have hassigned : profile ∈ entry.savedConnections :=
    (mem_savedConnections hentry).mpr ⟨hprofile, member, hmember, hcarries.suits⟩
  cases hfound : entry.savedConnections.find? (client.wifiMemberActiveForProfile first) with
  | none => exact absurd hsuits (List.find?_eq_none.mp hfound profile hassigned)
  | some found =>
    -- no other profile has its UUID
    obtain ⟨hsome, hfounduuid⟩ := (activeForProfile_iff hsame).mp (List.find?_some hfound)
    have hfoundsaved := ((mem_savedConnections hentry).mp (List.mem_of_find?_eq_some hfound)).1
    rw [client.uuid_unique found (mem_savedWifiProfiles hfoundsaved) profile
      (mem_savedWifiProfiles hprofile) hsome (hfounduuid.trans huuid.2.symm)]

/-- A profile of the entry is offered where no access point of the entry carries it. -/
theorem mem_availableRows (hentry : entry ∈ client.wifiEntries casefold) :
    (∃ row ∈ client.addAvailableNetworkRows entry, row.saved = some profile) ↔
      profile ∈ entry.savedConnections ∧
        ¬∃ member ∈ entry.members, client.Carries member profile := by
  unfold addAvailableNetworkRows
  split
  · constructor
    · rintro ⟨row, hrow, hsaved⟩
      obtain ⟨saved, hmem, hrow⟩ := List.mem_filterMap.mp hrow
      unfold availableProfileRow at hrow
      obtain ⟨member, hbest, hrow⟩ := Option.bind_eq_some_iff.mp hrow
      split at hrow
      · exact absurd hrow nofun
      rename_i hnot
      obtain rfl : saved = profile := by
        rw [← Option.some.inj hrow] at hsaved
        exact Option.some.inj hsaved
      refine ⟨hmem, fun hcarries => hnot ?_⟩
      obtain ⟨best, hbest', hcarries⟩ := best_carries hcarries
      obtain rfl := Option.some.inj (hbest.symm.trans hbest')
      exact Bool.and_eq_true_iff.mpr hcarries
    · rintro ⟨hmem, hnone⟩
      have hsuits := ((mem_savedConnections hentry).mp hmem).2
      obtain ⟨member, hbest⟩ := Option.isSome_iff_exists.mp
        ((isSome_wifiEntryBestMemberForProfile entry.members).mpr hsuits)
      have hmember : member ∈ entry.members := (List.mem_filter.mp (best_mem hbest)).1
      refine ⟨client.addNetworkRow entry member (some profile) none .none,
        List.mem_filterMap.mpr ⟨profile, hmem, ?_⟩, rfl⟩
      unfold availableProfileRow
      rw [hbest, Option.bind_some, if_neg]
      exact fun h => hnone ⟨member, hmember, Bool.and_eq_true_iff.mp h⟩
  · rename_i hempty
    constructor
    · rintro ⟨row, hrow, hsaved⟩
      exfalso
      split at hrow
      · exact List.not_mem_nil hrow
      · obtain ⟨member, hmember⟩ := Option.mem_toList.mp hrow |> Option.map_eq_some_iff.mp
        rw [← hmember.2] at hsaved
        exact absurd hsaved nofun
    · rintro ⟨hmem, -⟩
      rw [not_not.mp hempty] at hmem
      exact absurd hmem List.not_mem_nil

/-- Every entry has a row. -/
theorem exists_entryRow (hentry : entry ∈ client.wifiEntries casefold) :
    ∃ row ∈ client.addActiveNetworkRows entry ++ client.addAvailableNetworkRows entry,
      row.IsOf entry := by
  have hactiveRow {seen : List ℕ} {members : List WifiMember} {row : WifiRow}
      (hrow : row ∈ client.activeNetworkRows entry seen members) : row.IsOf entry := by
    induction members generalizing seen with
    | nil => exact absurd hrow List.not_mem_nil
    | cons member members ih =>
      rw [activeNetworkRows] at hrow
      split at hrow
      · exact ih hrow
      split at hrow
      · rcases List.mem_cons.mp hrow with rfl | hrow
        · exact rfl
        · exact ih hrow
      · exact ih hrow
  by_cases hactive : client.addActiveNetworkRows entry = []
  · by_cases hsaved : entry.savedConnections = []
    · obtain ⟨member, hbest⟩ := @exists_best_of_ne_nil _
        (client.wifiMemberPreferred none) _ entry.cluster.nonempty
      refine ⟨client.addNetworkRow entry member none none .none, List.mem_append_right _ ?_, rfl⟩
      unfold addAvailableNetworkRows wifiEntryBestMember
      rw [if_neg (not_not.mpr hsaved), if_neg (not_not.mpr hactive)]
      show _ ∈ Option.toList (Option.map _ (best _ entry.cluster.members))
      rw [hbest]
      exact List.mem_singleton_self _
    · -- a profile that nothing carries is offered, and one that is carried has a row already
      obtain ⟨profile, hprofile⟩ := List.exists_mem_of_ne_nil _ hsaved
      have hcarried : ¬∃ member ∈ entry.members, client.Carries member profile := by
        intro hcarries
        obtain ⟨row, hrow, -⟩ := exists_connectedRow hentry
          ((mem_savedConnections hentry).mp hprofile).1 hcarries
        rw [hactive] at hrow
        exact List.not_mem_nil hrow
      obtain ⟨row, hrow, -⟩ := (mem_availableRows hentry).mpr ⟨hprofile, hcarried⟩
      refine ⟨row, List.mem_append_right _ hrow, ?_⟩
      unfold addAvailableNetworkRows at hrow
      rw [if_pos hsaved] at hrow
      obtain ⟨saved, -, hrow⟩ := List.mem_filterMap.mp hrow
      obtain ⟨member, -, hrow⟩ := Option.bind_eq_some_iff.mp hrow
      split at hrow
      · exact absurd hrow nofun
      · rw [← Option.some.inj hrow]
        exact rfl
  · obtain ⟨row, hrow⟩ := List.exists_mem_of_ne_nil _ hactive
    exact ⟨row, List.mem_append_left _ hrow, hactiveRow hrow⟩

/-! ## Profiles of no entry -/

/-- The profile suits an access point. -/
def InRange (client : WifiClient) (profile : ℕ) : Prop :=
  ∃ member ∈ client.wifiMembers, client.wifiMemberSuits member profile = true

theorem inRange_iff (hprofile : profile ∈ client.savedWifiProfiles casefold) :
    client.InRange profile ↔
      ∃ entry ∈ client.wifiEntries casefold, profile ∈ entry.savedConnections := by
  constructor
  · rintro ⟨member, hmember, hsuits⟩
    obtain ⟨entry, hentry, hmember⟩ :=
      List.mem_flatMap.mp ((@members_wifiEntries client casefold).mem_iff.mpr hmember)
    exact ⟨entry, hentry, (mem_savedConnections hentry).mpr ⟨hprofile, member, hmember, hsuits⟩⟩
  · rintro ⟨entry, hentry, hassigned⟩
    obtain ⟨-, member, hmember, hsuits⟩ := (mem_savedConnections hentry).mp hassigned
    exact ⟨member, mem_wifiMembers hentry hmember, hsuits⟩

/-- A key is that of one profile. -/
theorem savedProfileKey_injective {p q : ℕ} (hp : p ∈ client.connections)
    (hq : q ∈ client.connections) (h : client.savedProfileKey p = client.savedProfileKey q) :
    p = q := by
  have hstored {text : Option Bytes} {value : Bytes} (htext : nonemptyText text = some value) :
      text = some value :=
    (Option.filter_eq_some_iff.mp htext).1
  unfold savedProfileKey at h
  cases hpu : nonemptyText (client.connection p).uuid with
  | some uuid =>
    cases hqu : nonemptyText (client.connection q).uuid with
    | some uuid' =>
      simp only [hpu, hqu, SavedProfileKey.uuid.injEq] at h
      subst h
      have hpu := hstored hpu
      exact client.uuid_unique p hp q hq (by rw [hpu]; exact nofun) (hpu.trans (hstored hqu).symm)
    | none =>
      simp only [hpu, hqu] at h
      split at h <;> exact absurd h nofun
  | none =>
    cases hqu : nonemptyText (client.connection q).uuid with
    | some uuid =>
      simp only [hpu, hqu] at h
      split at h <;> exact absurd h nofun
    | none =>
      simp only [hpu, hqu] at h
      cases hpp : nonemptyText (client.connection p).path with
      | some path =>
        cases hqp : nonemptyText (client.connection q).path with
        | some path' =>
          simp only [hpp, hqp, SavedProfileKey.path.injEq] at h
          subst h
          have hpp := hstored hpp
          exact client.path_unique p hp q hq (by rw [hpp]; exact nofun)
            (hpp.trans (hstored hqp).symm)
        | none =>
          simp only [hpp, hqp] at h
          exact absurd h nofun
      | none =>
        cases hqp : nonemptyText (client.connection q).path with
        | some path =>
          simp only [hpp, hqp] at h
          exact absurd h nofun
        | none =>
          simp only [hpp, hqp, SavedProfileKey.object.injEq] at h
          exact h

/-- The profiles that no entry has are those out of range. -/
theorem mem_unmatchedProfiles : profile ∈ client.unmatchedProfiles
    (client.savedWifiProfiles casefold)
      (client.visibleSavedKeys (client.wifiEntries casefold)) ↔
      profile ∈ client.savedWifiProfiles casefold ∧ ¬client.InRange profile := by
  unfold unmatchedProfiles
  rw [List.mem_filter, decide_eq_true_eq]
  refine and_congr_right fun hprofile => not_congr ?_
  rw [inRange_iff hprofile]
  unfold visibleSavedKeys
  constructor
  · intro hvisible
    obtain ⟨saved, hsaved, hkey⟩ := List.mem_map.mp hvisible
    obtain ⟨entry, hentry, hassigned⟩ := List.mem_flatMap.mp hsaved
    have hlisted := ((mem_savedConnections hentry).mp hassigned).1
    have heq := savedProfileKey_injective (mem_savedWifiProfiles hlisted)
      (mem_savedWifiProfiles hprofile) hkey
    exact ⟨entry, hentry, heq ▸ hassigned⟩
  · rintro ⟨entry, hentry, hassigned⟩
    exact List.mem_map_of_mem (List.mem_flatMap.mpr ⟨entry, hentry, hassigned⟩)

/-! ## The lists -/

/-- There is a Wi-Fi device, and Wi-Fi is on. -/
structure WifiUsable (client : WifiClient) : Prop where
  device : client.hasWifiDevice = true
  hardware : client.wirelessHardwareEnabled = true
  enabled : client.wirelessEnabled = true

/-- What a list is said to be where it is empty is no row of a network or profile. -/
theorem exists_orNotice {Q : WifiRow → Prop} (hnotice : ∀ title, ¬Q (.notice title))
    (rows : List WifiRow) (title : String) :
    (∃ row ∈ orNotice rows title, Q row) ↔ ∃ row ∈ rows, Q row := by
  unfold orNotice
  split
  · rename_i hempty
    subst hempty
    simp [hnotice]
  · exact Iff.rfl

/-- The rows of the lists, but for notices and traffic. -/
theorem exists_row (h : client.WifiUsable) {Q : WifiRow → Prop}
    (hnotice : ∀ title, ¬Q (.notice title)) (htraffic : ¬Q .traffic) (scanInProgress : Bool)
    (scanError : Option Bytes) :
    ((∃ row ∈ (client.addWifiGroup casefold scanInProgress scanError).connected, Q row) ↔
      (∃ entry ∈ client.wifiEntries casefold, ∃ row ∈ client.addActiveNetworkRows entry, Q row) ∨
        ∃ row ∈ client.addUnmatchedConnectedSavedProfileRows (client.savedWifiProfiles casefold)
          (client.visibleSavedKeys (client.wifiEntries casefold)), Q row) ∧
    ((∃ row ∈ (client.addWifiGroup casefold scanInProgress scanError).available, Q row) ↔
      ∃ entry ∈ client.wifiEntries casefold, ∃ row ∈ client.addAvailableNetworkRows entry, Q row) ∧
    ((∃ row ∈ (client.addWifiGroup casefold scanInProgress scanError).saved, Q row) ↔
      ∃ row ∈ client.addUnmatchedSavedProfileRows (client.savedWifiProfiles casefold)
        (client.visibleSavedKeys (client.wifiEntries casefold)), Q row) := by
  obtain ⟨hdevice, hhardware, henabled⟩ := h
  have hflat {f : WifiEntry → List WifiRow} {entries : List WifiEntry} :
      (∃ row ∈ entries.flatMap f, Q row) ↔ ∃ entry ∈ entries, ∃ row ∈ f entry, Q row := by
    simp only [List.mem_flatMap]
    exact ⟨fun ⟨row, ⟨entry, hentry, hrow⟩, hQ⟩ => ⟨entry, hentry, row, hrow, hQ⟩,
      fun ⟨entry, hentry, row, hrow, hQ⟩ => ⟨row, ⟨entry, hentry, hrow⟩, hQ⟩⟩
  have happend (rows rows' : List WifiRow) :
      (∃ row ∈ rows ++ rows', Q row) ↔ (∃ row ∈ rows, Q row) ∨ ∃ row ∈ rows', Q row := by
    simp only [List.mem_append, or_and_right, exists_or]
  unfold addWifiGroup
  rw [hdevice, hhardware, henabled]
  simp only [Bool.not_true, Bool.false_eq_true, if_false]
  split
  · rename_i hempty
    rw [hempty.1, hempty.2]
    simp [addUnmatchedConnectedSavedProfileRows, addUnmatchedSavedProfileRows, unmatchedProfiles]
  · dsimp only
    refine ⟨?_, ?_, ?_⟩
    · rw [happend, exists_orNotice hnotice, happend, hflat]
      refine or_iff_left ?_
      rintro ⟨row, hrow, hQ⟩
      split at hrow
      · rw [List.mem_singleton.mp hrow] at hQ
        exact htraffic hQ
      · exact List.not_mem_nil hrow
    · rw [exists_orNotice hnotice, hflat]
    · rw [exists_orNotice hnotice]

/-- The profiles out of range that are listed as connected. -/
theorem exists_unmatchedConnected :
    (∃ row ∈ client.addUnmatchedConnectedSavedProfileRows (client.savedWifiProfiles casefold)
      (client.visibleSavedKeys (client.wifiEntries casefold)), row.saved = some profile) ↔
      profile ∈ client.savedWifiProfiles casefold ∧ ¬client.InRange profile ∧
        client.savedProfileIsConnected profile = true := by
  rw [← and_assoc, ← mem_unmatchedProfiles]
  unfold addUnmatchedConnectedSavedProfileRows
  constructor
  · rintro ⟨row, hrow, hsaved⟩
    obtain ⟨saved, hmem, rfl⟩ := List.mem_map.mp hrow
    obtain rfl : saved = profile := Option.some.inj hsaved
    exact List.mem_filter.mp hmem
  · intro h
    exact ⟨_, List.mem_map_of_mem (List.mem_filter.mpr h), rfl⟩

/-- The profiles out of range that are listed as saved. -/
theorem exists_unmatchedSaved :
    (∃ row ∈ client.addUnmatchedSavedProfileRows (client.savedWifiProfiles casefold)
      (client.visibleSavedKeys (client.wifiEntries casefold)), row.saved = some profile) ↔
      profile ∈ client.savedWifiProfiles casefold ∧ ¬client.InRange profile ∧
        client.savedProfileIsConnected profile = false := by
  rw [← and_assoc, ← mem_unmatchedProfiles]
  unfold addUnmatchedSavedProfileRows
  constructor
  · rintro ⟨row, hrow, hsaved⟩
    obtain ⟨saved, hmem, rfl⟩ := List.mem_map.mp hrow
    obtain rfl : saved = profile := Option.some.inj hsaved
    obtain ⟨hmem, hconnected⟩ := List.mem_filter.mp hmem
    exact ⟨hmem, by simpa using hconnected⟩
  · rintro ⟨hmem, hconnected⟩
    exact ⟨_, List.mem_map_of_mem (List.mem_filter.mpr ⟨hmem, by simp [hconnected]⟩), rfl⟩

/-! ## Where everything belongs -/

/-- The profile has an active connection that is activated or activating. -/
def Connected (client : WifiClient) (profile : ℕ) : Prop :=
  ∃ active ∈ client.activeConnections, (client.connection profile).uuid ≠ none ∧
    (client.activeConnection active).uuid = (client.connection profile).uuid ∧
      rowStatePreferred (client.activeRowState (some active)) = true

/-- The entries are the networks in sight, every entry and every saved profile has a row, and the
profiles that are connected are listed as connected and nowhere else. -/
structure Listed (client : WifiClient) (casefold : Bytes → Bytes) (shown : WifiGroup) : Prop where
  members : ((client.wifiEntries casefold).flatMap WifiEntry.members).Perm client.wifiMembers
  same : ∀ entry ∈ client.wifiEntries casefold, ∀ x ∈ entry.members, ∀ y ∈ entry.members,
    sameNetworkIdentity x y = true
  apart : (client.wifiEntries casefold).Pairwise fun e e' => Apart e.members e'.members
  entryRow : ∀ entry ∈ client.wifiEntries casefold,
    ∃ row ∈ shown.connected ++ shown.available, row.IsOf entry
  profileRow : ∀ profile ∈ client.savedWifiProfiles casefold,
    ∃ row ∈ shown.connected ++ shown.available ++ shown.saved, row.saved = some profile
  placed : ∀ profile ∈ client.savedWifiProfiles casefold, client.Connected profile →
    (∃ row ∈ shown.connected, row.saved = some profile) ∧
      ∀ row ∈ shown.available ++ shown.saved, row.saved ≠ some profile

/-- Every network that the profile suits carries it on one of its access points. A profile that
suits none is found connected by the first active connection with its UUID. -/
structure Associated (client : WifiClient) (profile : ℕ) : Prop where
  carried : ∀ member ∈ client.wifiMembers, client.wifiMemberSuits member profile = true →
    ∃ other ∈ client.wifiMembers, sameNetworkIdentity member other = true ∧
      client.Carries other profile
  found : ¬client.InRange profile → client.savedProfileIsConnected profile = true

/-- An entry that has an associated profile carries it. -/
theorem Associated.carries (h : client.Associated profile)
    (hentry : entry ∈ client.wifiEntries casefold) (hassigned : profile ∈ entry.savedConnections) :
    ∃ member ∈ entry.members, client.Carries member profile := by
  obtain ⟨-, member, hmember, hsuits⟩ := (mem_savedConnections hentry).mp hassigned
  obtain ⟨other, hother, hsame, hcarries⟩ :=
    h.carried member (mem_wifiMembers hentry hmember) hsuits
  exact ⟨other, mem_entry_of_same hentry hmember hother hsame, hcarries⟩

section Shown

variable {scanInProgress : Bool} {scanError : Option Bytes}

/-- A profile that is carried in each of its networks, or is out of range and found, is listed as
connected. -/
theorem exists_connected (h : client.WifiUsable)
    (hprofile : profile ∈ client.savedWifiProfiles casefold)
    (hplace : (∃ entry ∈ client.wifiEntries casefold, ∃ member ∈ entry.members,
        client.Carries member profile) ∨
      ¬client.InRange profile ∧ client.savedProfileIsConnected profile = true) :
    ∃ row ∈ (client.addWifiGroup casefold scanInProgress scanError).connected,
      row.saved = some profile := by
  refine (exists_row (Q := fun row => row.saved = some profile) h (fun _ => nofun) nofun
    scanInProgress scanError).1.mpr ?_
  rcases hplace with ⟨entry, hentry, hcarries⟩ | hfound
  · exact .inl ⟨entry, hentry, exists_connectedRow hentry hprofile hcarries⟩
  · exact .inr (exists_unmatchedConnected.mpr ⟨hprofile, hfound⟩)

/-- The profiles that are offered. -/
theorem exists_available (h : client.WifiUsable) :
    (∃ row ∈ (client.addWifiGroup casefold scanInProgress scanError).available,
      row.saved = some profile) ↔ ∃ entry ∈ client.wifiEntries casefold,
        profile ∈ entry.savedConnections ∧
          ¬∃ member ∈ entry.members, client.Carries member profile := by
  refine (exists_row (Q := fun row => row.saved = some profile) h (fun _ => nofun) nofun
    scanInProgress scanError).2.1.trans ?_
  exact exists_congr fun entry => and_congr_right fun hentry => mem_availableRows hentry

/-- The profiles that are listed as saved. -/
theorem exists_saved (h : client.WifiUsable) :
    (∃ row ∈ (client.addWifiGroup casefold scanInProgress scanError).saved,
      row.saved = some profile) ↔ profile ∈ client.savedWifiProfiles casefold ∧
        ¬client.InRange profile ∧ client.savedProfileIsConnected profile = false :=
  (exists_row (Q := fun row => row.saved = some profile) h (fun _ => nofun) nofun
    scanInProgress scanError).2.2.trans exists_unmatchedSaved

/-- A profile that is listed as connected and nowhere else is associated. -/
theorem associated_of_placed (h : client.WifiUsable)
    (hprofile : profile ∈ client.savedWifiProfiles casefold)
    (havailable : ¬∃ row ∈ (client.addWifiGroup casefold scanInProgress scanError).available,
      row.saved = some profile)
    (hsaved : ¬∃ row ∈ (client.addWifiGroup casefold scanInProgress scanError).saved,
      row.saved = some profile) : client.Associated profile := by
  rw [exists_available h] at havailable
  rw [exists_saved h] at hsaved
  refine ⟨fun member hmember hsuits => ?_, fun hrange => ?_⟩
  · obtain ⟨entry, hentry, hin⟩ :=
      List.mem_flatMap.mp ((@members_wifiEntries client casefold).mem_iff.mpr hmember)
    have hassigned := (mem_savedConnections hentry).mpr ⟨hprofile, member, hin, hsuits⟩
    obtain ⟨other, hother, hcarries⟩ : ∃ other ∈ entry.members, client.Carries other profile := by
      by_contra hnone
      exact havailable ⟨entry, hentry, hassigned, hnone⟩
    exact ⟨other, mem_wifiMembers hentry hother, same_of_mem_entry hentry hin hother, hcarries⟩
  · by_contra hnot
    exact hsaved ⟨hprofile, hrange, Bool.eq_false_iff.mpr hnot⟩

/-- A profile that is associated is listed as connected and nowhere else. -/
theorem Associated.placed (h : client.Associated profile) (husable : client.WifiUsable)
    (hprofile : profile ∈ client.savedWifiProfiles casefold) :
    (∃ row ∈ (client.addWifiGroup casefold scanInProgress scanError).connected,
      row.saved = some profile) ∧
      ∀ row ∈ (client.addWifiGroup casefold scanInProgress scanError).available ++
        (client.addWifiGroup casefold scanInProgress scanError).saved,
        row.saved ≠ some profile := by
  refine ⟨exists_connected husable hprofile ?_, fun row hrow hrowsaved => ?_⟩
  · by_cases hrange : client.InRange profile
    · obtain ⟨entry, hentry, hassigned⟩ := (inRange_iff hprofile).mp hrange
      exact .inl ⟨entry, hentry, h.carries hentry hassigned⟩
    · exact .inr ⟨hrange, h.found hrange⟩
  · rcases List.mem_append.mp hrow with hrow | hrow
    · obtain ⟨entry, hentry, hassigned, hnone⟩ :=
        (exists_available husable).mp ⟨row, hrow, hrowsaved⟩
      exact hnone (h.carries hentry hassigned)
    · obtain ⟨-, hrange, hnot⟩ := (exists_saved husable).mp ⟨row, hrow, hrowsaved⟩
      exact Bool.false_ne_true (hnot.symm.trans (h.found hrange))

/-- Every entry is shown. -/
theorem exists_shownEntry (h : client.WifiUsable) (hentry : entry ∈ client.wifiEntries casefold) :
    ∃ row ∈ (client.addWifiGroup casefold scanInProgress scanError).connected ++
      (client.addWifiGroup casefold scanInProgress scanError).available, row.IsOf entry := by
  obtain ⟨hconnected, havailable, -⟩ := @exists_row client casefold h
    (WifiRow.IsOf entry) (fun _ => id) id scanInProgress scanError
  obtain ⟨row, hrow, hof⟩ := exists_entryRow hentry
  rcases List.mem_append.mp hrow with hrow | hrow
  · obtain ⟨row, hrow, hof⟩ := hconnected.mpr (.inl ⟨entry, hentry, row, hrow, hof⟩)
    exact ⟨row, List.mem_append_left _ hrow, hof⟩
  · obtain ⟨row, hrow, hof⟩ := havailable.mpr ⟨entry, hentry, row, hrow, hof⟩
    exact ⟨row, List.mem_append_right _ hrow, hof⟩

/-- Every saved profile is shown. -/
theorem exists_shownProfile (h : client.WifiUsable)
    (hprofile : profile ∈ client.savedWifiProfiles casefold) :
    ∃ row ∈ (client.addWifiGroup casefold scanInProgress scanError).connected ++
      (client.addWifiGroup casefold scanInProgress scanError).available ++
        (client.addWifiGroup casefold scanInProgress scanError).saved,
      row.saved = some profile := by
  by_cases hplaced : (∃ row ∈ (client.addWifiGroup casefold scanInProgress scanError).available,
      row.saved = some profile) ∨
    ∃ row ∈ (client.addWifiGroup casefold scanInProgress scanError).saved, row.saved = some profile
  · rcases hplaced with ⟨row, hrow, hof⟩ | ⟨row, hrow, hof⟩
    · exact ⟨row, List.mem_append_left _ (List.mem_append_right _ hrow), hof⟩
    · exact ⟨row, List.mem_append_right _ hrow, hof⟩
  · have hassociated := associated_of_placed h hprofile (not_or.mp hplaced).1 (not_or.mp hplaced).2
    obtain ⟨⟨row, hrow, hof⟩, -⟩ :=
      @Associated.placed _ _ _ scanInProgress scanError hassociated h hprofile
    exact ⟨row, List.mem_append_left _ (List.mem_append_left _ hrow), hof⟩

end Shown

/-- Networks and profiles are listed where they belong exactly where every profile that is connected
is associated with all the networks that it suits. -/
theorem wifiGroup_listed_iff (h : client.WifiUsable) (casefold : Bytes → Bytes)
    (scanInProgress : Bool) (scanError : Option Bytes) :
    client.Listed casefold (client.addWifiGroup casefold scanInProgress scanError) ↔
      ∀ profile ∈ client.savedWifiProfiles casefold, client.Connected profile →
        client.Associated profile := by
  constructor
  · intro hlisted profile hprofile hconnected
    obtain ⟨-, helsewhere⟩ := hlisted.placed profile hprofile hconnected
    exact associated_of_placed h hprofile
      (fun ⟨row, hrow, hof⟩ => helsewhere row (List.mem_append_left _ hrow) hof)
      (fun ⟨row, hrow, hof⟩ => helsewhere row (List.mem_append_right _ hrow) hof)
  · intro hassociated
    exact
      { members := members_wifiEntries
        same := fun entry hentry x hx y hy => same_of_mem_entry hentry hx hy
        apart := wifiEntries_apart
        entryRow := fun entry hentry => exists_shownEntry h hentry
        profileRow := fun profile hprofile => exists_shownProfile h hprofile
        placed := fun profile hprofile hconnected =>
          (hassociated profile hprofile hconnected).placed h hprofile }

/-! ## A profile that suits two networks -/

/-- An access point of the network at home. -/
def homeAccessPoint (path : Bytes) (rsnFlags : UInt32) : AccessPoint where
  path := some path
  ssid := some (ascii "home")
  bssid := none
  frequency := 2412
  mode := .infra
  flags := apFlagsPrivacy
  wpaFlags := 0
  rsnFlags
  strength := 70

/-- One profile, that is connected through the first access point and suits the others. -/
def homeClient (accessPoints : List AccessPoint) : WifiClient where
  devices := [.wifi ⟨some (ascii "/device"), none, true, some 0, some (some (ascii "/first")),
    accessPoints⟩]
  connections := [0]
  connection _ := ⟨some wirelessType, some (ascii "home"), some (ascii "uuid"), none⟩
  activeConnections := [0]
  activeConnection _ := ⟨⟨some (ascii "uuid"), some wirelessType, false, .activated, none⟩, none⟩
  networkingEnabled := true
  wirelessHardwareEnabled := true
  wirelessEnabled := true
  deviceConnectionValid _ _ := true
  accessPointConnectionValid _ _ := true
  uuid_unique _ hp _ hq _ _ := (List.mem_singleton.mp hp).trans (List.mem_singleton.mp hq).symm
  path_unique _ hp _ hq _ _ := (List.mem_singleton.mp hp).trans (List.mem_singleton.mp hq).symm

/-- The network at home, and one of the same name with WPA3 beside WPA2. -/
def transitionClient : WifiClient :=
  homeClient [homeAccessPoint (ascii "/first") apSecKeyMgmtPsk,
    homeAccessPoint (ascii "/second") (apSecKeyMgmtPsk ||| apSecKeyMgmtSae)]

theorem transitionClient_usable : transitionClient.WifiUsable := ⟨rfl, rfl, rfl⟩

/-- The profile at home is listed where it belongs if it is associated, and only then. -/
theorem wifiGroup_listed_iff_sample :
    transitionClient.Listed id (transitionClient.addWifiGroup id false none) ↔
      ∀ profile ∈ transitionClient.savedWifiProfiles id, transitionClient.Connected profile →
        transitionClient.Associated profile :=
  wifiGroup_listed_iff transitionClient_usable id false none

/-- The profile that is connected is offered a second time. -/
theorem wifiGroup_offersConnected :
    ¬transitionClient.Listed id (transitionClient.addWifiGroup id false none) := by
  intro hlisted
  have hprofile : 0 ∈ transitionClient.savedWifiProfiles id := by decide +kernel
  have hconnected : transitionClient.Connected 0 :=
    ⟨0, List.mem_singleton_self 0, nofun, rfl, rfl⟩
  have hoffered : some 0 ∈ ((transitionClient.addWifiGroup id false none).available.map
      WifiRow.saved) := by decide +kernel
  obtain ⟨row, hrow, hsaved⟩ := List.mem_map.mp hoffered
  exact (hlisted.placed 0 hprofile hconnected).2 row (List.mem_append_left _ hrow) hsaved

end WifiClient

end NmSidebar
