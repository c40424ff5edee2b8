import NmSidebar.AmneziaWG.Admission
import NmSidebar.Client.ProfileInventory

/-!
# The entries of the model

`model.c`: the saved profiles and the entries the panel shows. The entries are rebuilt from the
profiles, the records of the runtime directory, the activity under way and the sessions that a
switch disconnects. Hash tables are lists without duplicates.
-/

namespace NmSidebar

open Text

/-! ## State -/

/-- `NetworkSidebarAwgActivity`. -/
inductive AwgActivity where
  | idle
  | importSelect
  | importLoad
  | import
  | replaceConfirm
  | replace
  | up
  | down
  | deleteConfirm
  | delete
  deriving DecidableEq

/-- `StoredEntry`. -/
structure StoredEntry where
  name : Name
  hasProfile : Bool
  profileStatus : ProfileStatus
  runtimeState : RuntimeState
  displayRuntimeState : RuntimeState
  interfaceExists : Bool

/-- `NetworkSidebarAwgModel` with its entries. -/
structure EntriesModel extends ProfileModel where
  entries : List StoredEntry
  switchDisconnectNames : List Name

/-- `g_ascii_strcasecmp` and then `strcmp` of two names is at most zero. -/
def foldedNameLe (left right : Name) : Bool :=
  if left.map toLower = right.map toLower then nameLe left right
  else nameLe (left.map toLower) (right.map toLower)

/-- `stored_entry_compare`. -/
def storedEntryLe (left right : StoredEntry) : Bool := foldedNameLe left.name right.name

/-- `model_activity_has_named_entry`, with the name where it has one. -/
def activityNamedEntry (activity : AwgActivity) (activityName : Option Name) : Option Name :=
  if activity = .idle ∨ activity = .importSelect then none else activityName

/-- `find_profile`. -/
def findProfile (profiles : List SavedProfile) (name : Name) : Option ProfileStatus :=
  (profiles.find? (·.1 = name)).map (·.2)

/-- `find_runtime_record`. -/
def findRuntimeRecord (records : List RuntimeRecord) (name : Name) : Option RuntimeRecord :=
  records.find? (·.name = name)

/-- The status of the profile of a name is set, where there is one. -/
def setProfileStatus (name : Name) (status : ProfileStatus) : List SavedProfile → List SavedProfile
  | [] => []
  | profile :: profiles =>
    if profile.1 = name then (name, status) :: profiles
    else profile :: setProfileStatus name status profiles

namespace EntriesModel

/-- `network_sidebar_awg_model_new`. -/
def new : EntriesModel where
  profiles := []
  profilesWarning := ⟨.none, 0, false⟩
  inventoryValid := false
  entries := []
  switchDisconnectNames := []

/-! ## The saved profiles -/

/-- `network_sidebar_awg_model_replace_profiles`, of records that may be missing. There is no
result where it rejects them. -/
def replaceProfiles (model : EntriesModel) (profiles : Option (List (Option ProfileRecord))) :
    Option EntriesModel := do
  let records ← (← profiles).mapM id
  let replaced ← model.toAwgModel.replaceProfiles records
  return { model with profiles := replaced.profiles }

/-- `network_sidebar_awg_model_record_import`. -/
def recordImport (model : EntriesModel) (name : Name) : EntriesModel :=
  if nameIsValid name = false then model
  else
    let profiles :=
      if (findProfile model.profiles name).isSome then model.profiles
      else (model.profiles ++ [(name, ProfileStatus.available)]).mergeSort savedProfileLe
    { model with profiles := setProfileStatus name .available profiles }

/-- `network_sidebar_awg_model_record_delete`. -/
def recordDelete (model : EntriesModel) (name : Name) : EntriesModel :=
  if nameIsValid name = false then model
  else { model with profiles := model.profiles.eraseP (·.1 = name) }

/-- `network_sidebar_awg_model_reset_profiles`. -/
def resetProfiles (model : EntriesModel) : EntriesModel :=
  { model with toProfileModel := model.toProfileModel.resetProfiles }

/-! ## The entries -/

/-- `network_sidebar_awg_model_begin_switch`. -/
def beginSwitch (model : EntriesModel) : EntriesModel :=
  { model with
    switchDisconnectNames :=
      ((model.entries.filter (runtimeCanDisconnect ·.displayRuntimeState)).map (·.name)).foldl
        addName [] }

/-- The names of `network_sidebar_awg_model_rebuild_entries`. -/
def entryNames (model : EntriesModel) (records : List RuntimeRecord) (named : Option Name) :
    List Name :=
  (model.profiles.map (·.1) ++ (records.map (·.name)).filter nameIsValid ++ named.toList ++
    model.switchDisconnectNames).foldl addName []

/-- The entry of a name in `network_sidebar_awg_model_rebuild_entries`. -/
def entryOf (model : EntriesModel) (records : List RuntimeRecord) (runtimePending : Bool)
    (name : Name) : StoredEntry :=
  let profile := findProfile model.profiles name
  let runtime := findRuntimeRecord records name
  let runtimeState := (runtime.map (·.state)).getD .unknown
  { name
    hasProfile := profile.isSome
    profileStatus := profile.getD .changedOrUnreadable
    runtimeState
    displayRuntimeState :=
      match model.entries.find? (·.name = name) with
      | some previous =>
        if runtimePending ∧ runtimeState = .unknown then previous.displayRuntimeState
        else runtimeState
      | none => runtimeState
    interfaceExists := runtime.any (·.interfaceExists) }

/-- Whether a name gets no entry in `network_sidebar_awg_model_rebuild_entries`. -/
def omits (model : EntriesModel) (records : List RuntimeRecord) (named : Option Name)
    (name : Name) : Bool :=
  (findProfile model.profiles name).isNone &&
    (findRuntimeRecord records name).any (·.state == .inactive) &&
    !(named == some name || model.switchDisconnectNames.contains name)

/-- `network_sidebar_awg_model_rebuild_entries`. Of the records some may be missing, or all. -/
def rebuildEntries (model : EntriesModel) (authorized : Bool)
    (records : Option (List (Option RuntimeRecord))) (runtimePending : Bool)
    (activity : AwgActivity) (activityName : Option Name) : EntriesModel :=
  let model :=
    if authorized = false ∨ activity ≠ .up then { model with switchDisconnectNames := [] }
    else model
  if authorized = false then { model with entries := [] }
  else
    let records := (records.getD []).filterMap id
    let named := activityNamedEntry activity activityName
    let names := (model.entryNames records named).filter (!model.omits records named ·)
    { model with
      entries := (names.map (model.entryOf records runtimePending)).mergeSort storedEntryLe }

end EntriesModel

/-! ## The orders -/

theorem nameLe_antisymm {a b : Name} (hab : nameLe a b = true) (hba : nameLe b a = true) :
    a = b := by
  induction a generalizing b with
  | nil =>
    cases b with
    | nil => rfl
    | cons => exact absurd hba Bool.false_ne_true
  | cons x xs ih =>
    cases b with
    | nil => exact absurd hab Bool.false_ne_true
    | cons y ys =>
      simp only [nameLe, Bool.or_eq_true, decide_eq_true_eq, Bool.and_eq_true,
        beq_iff_eq] at hab hba
      rcases hab with hxy | ⟨rfl, hxs⟩
      · rcases hba with hyx | ⟨rfl, -⟩
        · exact absurd (UInt8.lt_trans hxy hyx) (UInt8.lt_irrefl x)
        · exact absurd hxy (UInt8.lt_irrefl _)
      · rcases hba with hxx | ⟨-, hys⟩
        · exact absurd hxx (UInt8.lt_irrefl x)
        · rw [ih hxs hys]

theorem foldedNameLe_antisymm {a b : Name} (hab : foldedNameLe a b = true)
    (hba : foldedNameLe b a = true) : a = b := by
  unfold foldedNameLe at hab hba
  by_cases hfold : a.map toLower = b.map toLower
  · rw [if_pos hfold] at hab
    rw [if_pos hfold.symm] at hba
    exact nameLe_antisymm hab hba
  · rw [if_neg hfold] at hab
    rw [if_neg fun h => hfold h.symm] at hba
    exact absurd (nameLe_antisymm hab hba) hfold

theorem foldedNameLe_total (a b : Name) : (foldedNameLe a b || foldedNameLe b a) = true := by
  unfold foldedNameLe
  by_cases hfold : a.map toLower = b.map toLower
  · rw [if_pos hfold, if_pos hfold.symm]
    exact nameLe_total a b
  · rw [if_neg hfold, if_neg fun h => hfold h.symm]
    exact nameLe_total _ _

theorem foldedNameLe_trans {a b c : Name} (hab : foldedNameLe a b = true)
    (hbc : foldedNameLe b c = true) : foldedNameLe a c = true := by
  unfold foldedNameLe at hab hbc ⊢
  by_cases hfold : a.map toLower = b.map toLower
  · rw [if_pos hfold] at hab
    rw [hfold]
    split at hbc
    · rename_i hfold'
      rw [if_pos hfold']
      exact nameLe_trans hab hbc
    · rename_i hfold'
      rwa [if_neg hfold']
  · rw [if_neg hfold] at hab
    by_cases hfold' : b.map toLower = c.map toLower
    · rw [← hfold', if_neg hfold]
      exact hab
    · rw [if_neg hfold'] at hbc
      -- were the outer names equal when folded, the middle one would be as well
      have hne : ¬a.map toLower = c.map toLower := fun h =>
        hfold (nameLe_antisymm hab (h ▸ hbc))
      rw [if_neg hne]
      exact nameLe_trans hab hbc

/-- Items in an order of their distinct keys are in the strict order. -/
theorem pairwise_strict {α β : Type} {le : α → α → Bool} {key : α → β} {items : List α}
    (hantisymm : ∀ a b, le a b = true → le b a = true → key a = key b)
    (hordered : items.Pairwise fun a b => le a b = true) (hdistinct : (items.map key).Nodup) :
    items.Pairwise fun a b => le b a = false := by
  have hkeys : items.Pairwise fun a b => key a ≠ key b := List.pairwise_map.mp hdistinct
  refine (hordered.and hkeys).imp ?_
  intro a b h
  rw [← Bool.not_eq_true]
  intro hba
  exact h.2 (hantisymm a b h.1 hba)

/-! ## The saved profiles -/

/-- The profiles are in the strict order of their names, which are valid. -/
structure ProfilesOrdered (profiles : List SavedProfile) : Prop where
  increasing : profiles.Pairwise fun left right => savedProfileLe right left = false
  valid : ∀ profile ∈ profiles, nameIsValid profile.1 = true

/-- Profiles with distinct and valid names are brought into order. -/
theorem profilesOrdered_mergeSort {profiles : List SavedProfile}
    (hdistinct : (profiles.map (·.1)).Nodup)
    (hvalid : ∀ profile ∈ profiles, nameIsValid profile.1 = true) :
    ProfilesOrdered (profiles.mergeSort savedProfileLe) where
  increasing := by
    have hantisymm (left right : SavedProfile) (hle : savedProfileLe left right = true)
        (hge : savedProfileLe right left = true) : left.1 = right.1 := nameLe_antisymm hle hge
    have hordered := @List.pairwise_mergeSort _ savedProfileLe (fun _ _ _ => nameLe_trans)
      (fun _ _ => nameLe_total _ _) profiles
    apply pairwise_strict hantisymm hordered
    exact ((List.mergeSort_perm profiles savedProfileLe).map _).nodup_iff.mpr hdistinct
  valid profile hmem := hvalid profile (List.mem_mergeSort.mp hmem)

theorem ProfilesOrdered.distinct {profiles : List SavedProfile} (h : ProfilesOrdered profiles) :
    (profiles.map (·.1)).Nodup := by
  refine List.pairwise_map.mpr (h.increasing.imp ?_)
  intro left right hlt hsame
  have hle : nameLe right.1 left.1 = true := by
    have htotal := nameLe_total right.1 left.1
    rw [hsame, Bool.or_self] at htotal
    rwa [hsame]
  exact absurd (hlt.symm.trans hle) Bool.false_ne_true

/-- The records that a replacement takes over are distinct and valid. -/
theorem foldlM_replaceProfilesStep_taken {records : List ProfileRecord}
    {replacement taken : List SavedProfile}
    (htaken : records.foldlM replaceProfilesStep replacement = some taken)
    (hdistinct : (replacement.map (·.1)).Nodup)
    (hvalid : ∀ profile ∈ replacement, nameIsValid profile.1 = true) :
    (taken.map (·.1)).Nodup ∧ ∀ profile ∈ taken, nameIsValid profile.1 = true := by
  induction records generalizing replacement with
  | nil =>
    obtain rfl := Option.some.inj htaken
    exact ⟨hdistinct, hvalid⟩
  | cons record records ih =>
    rw [List.foldlM_cons] at htaken
    obtain ⟨next, hstep, hrest⟩ := Option.bind_eq_some_iff.mp htaken
    unfold replaceProfilesStep at hstep
    split at hstep
    · exact absurd hstep.symm (Option.some_ne_none next)
    rename_i hnew
    obtain ⟨hname, hfresh⟩ := not_or.mp hnew
    obtain ⟨status, -, rfl⟩ := Option.map_eq_some_iff.mp hstep
    apply ih hrest
    · rw [List.map_append]
      apply List.Nodup.append hdistinct (List.nodup_singleton _)
      intro name hold hadded
      obtain rfl := List.mem_singleton.mp hadded
      exact hfresh hold
    · intro profile hmem
      rcases List.mem_append.mp hmem with hold | hadded
      · exact hvalid profile hold
      · obtain rfl := List.mem_singleton.mp hadded
        exact Bool.not_eq_false _ ▸ hname

theorem names_setProfileStatus (name : Name) (status : ProfileStatus)
    (profiles : List SavedProfile) :
    (setProfileStatus name status profiles).map (·.1) = profiles.map (·.1) := by
  induction profiles with
  | nil => rfl
  | cons profile profiles ih =>
    unfold setProfileStatus
    split
    · rename_i hname
      rw [List.map_cons, List.map_cons, hname]
    · rw [List.map_cons, List.map_cons, ih]

/-- The order of profiles is that of their names. -/
theorem profilesOrdered_congr {profiles profiles' : List SavedProfile}
    (hnames : profiles'.map (·.1) = profiles.map (·.1)) (h : ProfilesOrdered profiles) :
    ProfilesOrdered profiles' where
  increasing := by
    have hincreasing : (profiles.map (·.1)).Pairwise fun left right => nameLe right left = false :=
      List.pairwise_map.mpr h.increasing
    rw [← hnames] at hincreasing
    exact List.pairwise_map.mp hincreasing
  valid profile hmem := by
    have hname : profile.1 ∈ profiles.map (·.1) := hnames ▸ List.mem_map_of_mem hmem
    obtain ⟨saved, hsaved, hsame⟩ := List.mem_map.mp hname
    exact hsame ▸ h.valid saved hsaved

theorem isSome_findProfile {profiles : List SavedProfile} {name : Name} :
    (findProfile profiles name).isSome = true ↔ name ∈ profiles.map (·.1) := by
  simp [findProfile]

namespace EntriesModel

variable {model model' : EntriesModel}

theorem profilesOrdered_replaceProfiles {profiles : Option (List (Option ProfileRecord))}
    (h : model.replaceProfiles profiles = some model') : ProfilesOrdered model'.profiles := by
  obtain ⟨given, -, h⟩ := Option.bind_eq_some_iff.mp h
  obtain ⟨records, -, h⟩ := Option.bind_eq_some_iff.mp h
  obtain ⟨replaced, hreplaced, h⟩ := Option.bind_eq_some_iff.mp h
  obtain rfl := Option.some.inj h
  unfold AwgModel.replaceProfiles at hreplaced
  split at hreplaced
  · exact absurd hreplaced.symm (Option.some_ne_none replaced)
  obtain ⟨taken, htaken, rfl⟩ := Option.map_eq_some_iff.mp hreplaced
  obtain ⟨hdistinct, hvalid⟩ := foldlM_replaceProfilesStep_taken htaken List.nodup_nil
    fun _ hmem => absurd hmem List.not_mem_nil
  exact profilesOrdered_mergeSort hdistinct hvalid

theorem profilesOrdered_recordImport (h : ProfilesOrdered model.profiles) (name : Name) :
    ProfilesOrdered (model.recordImport name).profiles := by
  unfold recordImport
  split
  · exact h
  rename_i hname
  apply profilesOrdered_congr (names_setProfileStatus name .available _)
  split
  · exact h
  rename_i hnew
  have habsent : name ∉ model.profiles.map (·.1) := fun hmem => hnew (isSome_findProfile.mpr hmem)
  apply profilesOrdered_mergeSort
  · rw [List.map_append]
    apply List.Nodup.append h.distinct (List.nodup_singleton _)
    intro other hold hadded
    obtain rfl := List.mem_singleton.mp hadded
    exact habsent hold
  · intro profile hmem
    rcases List.mem_append.mp hmem with hold | hadded
    · exact h.valid profile hold
    · obtain rfl := List.mem_singleton.mp hadded
      exact Bool.not_eq_false _ ▸ hname

theorem profilesOrdered_recordDelete (h : ProfilesOrdered model.profiles) (name : Name) :
    ProfilesOrdered (model.recordDelete name).profiles := by
  unfold recordDelete
  split
  · exact h
  have hsublist : (model.profiles.eraseP (·.1 = name)).Sublist model.profiles :=
    List.eraseP_sublist
  exact ⟨h.increasing.sublist hsublist, fun profile hmem => h.valid profile (hsublist.mem hmem)⟩

@[simp] theorem profiles_rebuildEntries (model : EntriesModel) (authorized : Bool)
    (records : Option (List (Option RuntimeRecord))) (runtimePending : Bool)
    (activity : AwgActivity) (activityName : Option Name) :
    (model.rebuildEntries authorized records runtimePending activity activityName).profiles =
      model.profiles := by
  unfold rebuildEntries
  split <;> split <;> rfl

/-! ## The rebuilt entries -/

/-- An authorized rebuild keeps the names of a switch while the session is brought up. -/
theorem switchDisconnectNames_rebuildEntries (model : EntriesModel) (authorized : Bool)
    (records : Option (List (Option RuntimeRecord))) (runtimePending : Bool)
    (activity : AwgActivity) (activityName : Option Name) :
    (model.rebuildEntries authorized records runtimePending activity
      activityName).switchDisconnectNames =
      if authorized = true ∧ activity = .up then model.switchDisconnectNames else [] := by
  unfold rebuildEntries
  by_cases hkept : authorized = true ∧ activity = .up
  · have hnot : ¬(authorized = false ∨ activity ≠ .up) := by simp [hkept.1, hkept.2]
    rw [if_pos hkept, if_neg hnot]
    dsimp only
    split <;> rfl
  · have hlost : authorized = false ∨ activity ≠ .up := by
      by_cases hauthorized : authorized = true
      · exact .inr fun hup => hkept ⟨hauthorized, hup⟩
      · exact .inl (Bool.eq_false_iff.mpr hauthorized)
    rw [if_neg hkept, if_pos hlost]
    dsimp only
    split <;> rfl

/-- The records of a rebuild: those that are not missing. -/
def presentRecords (records : Option (List (Option RuntimeRecord))) : List RuntimeRecord :=
  (records.getD []).filterMap id

/-- The names of a rebuild have no duplicates. -/
theorem nodup_entryNames (model : EntriesModel) (records : List RuntimeRecord)
    (named : Option Name) : (model.entryNames records named).Nodup :=
  nodup_foldl_addName List.nodup_nil _

theorem mem_entryNames {records : List RuntimeRecord} {named : Option Name} {name : Name} :
    name ∈ model.entryNames records named ↔ name ∈ model.profiles.map (·.1) ∨
      (name ∈ records.map (·.name) ∧ nameIsValid name = true) ∨ named = some name ∨
      name ∈ model.switchDisconnectNames := by
  unfold entryNames
  rw [mem_foldl_addName]
  simp only [List.not_mem_nil, false_or, List.mem_append, List.mem_filter, Option.mem_toList,
    or_assoc]

/-- The records of a name are found where there are any. -/
theorem findRuntimeRecord_isSome {records : List RuntimeRecord} {name : Name} :
    (∃ record, findRuntimeRecord records name = some record) ↔ name ∈ records.map (·.name) := by
  rw [← Option.isSome_iff_exists]
  simp [findRuntimeRecord]

/-- The names without an entry. -/
theorem omits_iff {records : List RuntimeRecord} {named : Option Name} {name : Name} :
    model.omits records named name = true ↔ name ∉ model.profiles.map (·.1) ∧
      (∃ record, findRuntimeRecord records name = some record ∧ record.state = .inactive) ∧
      named ≠ some name ∧ name ∉ model.switchDisconnectNames := by
  have hprofile : (findProfile model.profiles name).isNone = true ↔
      name ∉ model.profiles.map (·.1) := by
    rw [← isSome_findProfile, Option.isNone_iff_eq_none, Option.not_isSome_iff_eq_none]
  unfold omits
  rw [Bool.and_eq_true, Bool.and_eq_true, hprofile, Option.any_eq_true]
  simp only [beq_iff_eq, Bool.not_eq_true', Bool.or_eq_false_iff, beq_eq_false_iff_ne,
    List.contains_eq_mem, decide_eq_false_iff_not, ne_eq, and_assoc]

/-- The names that get an entry. -/
theorem mem_entryNames_kept {records : List RuntimeRecord} {named : Option Name} {name : Name} :
    name ∈ (model.entryNames records named).filter (!model.omits records named ·) ↔
      name ∈ model.profiles.map (·.1) ∨
      (nameIsValid name = true ∧ ∃ record, findRuntimeRecord records name = some record ∧
        record.state ≠ .inactive) ∨
      named = some name ∨ name ∈ model.switchDisconnectNames := by
  rw [List.mem_filter, mem_entryNames, Bool.not_eq_true', ← Bool.not_eq_true, omits_iff]
  constructor
  · rintro ⟨hsource | ⟨hrecord, hname⟩ | hsource | hsource, hkept⟩
    · exact .inl hsource
    · obtain ⟨record, hfound⟩ := findRuntimeRecord_isSome.mpr hrecord
      by_cases hstate : record.state = .inactive
      · -- an inactive session has an entry for another reason
        by_contra hnone
        obtain ⟨hprofile, hnone⟩ := not_or.mp hnone
        obtain ⟨-, hnone⟩ := not_or.mp hnone
        obtain ⟨hnamed, hheld⟩ := not_or.mp hnone
        exact hkept ⟨hprofile, ⟨record, hfound, hstate⟩, hnamed, hheld⟩
      · exact .inr (.inl ⟨hname, record, hfound, hstate⟩)
    · exact .inr (.inr (.inl hsource))
    · exact .inr (.inr (.inr hsource))
  · rintro (hsource | ⟨hname, record, hfound, hstate⟩ | hsource | hsource)
    · exact ⟨.inl hsource, fun h => h.1 hsource⟩
    · refine ⟨.inr (.inl ⟨findRuntimeRecord_isSome.mp ⟨record, hfound⟩, hname⟩), fun h => ?_⟩
      obtain ⟨-, ⟨record', hfound', hinactive⟩, -⟩ := h
      obtain rfl := Option.some.inj (hfound.symm.trans hfound')
      exact hstate hinactive
    · exact ⟨.inr (.inr (.inl hsource)), fun h => h.2.2.1 hsource⟩
    · exact ⟨.inr (.inr (.inr hsource)), fun h => h.2.2.2 hsource⟩

/-- The entries of an authorized rebuild, before they are brought into order. -/
def unorderedEntries (model : EntriesModel) (records : List RuntimeRecord) (runtimePending : Bool)
    (named : Option Name) : List StoredEntry :=
  ((model.entryNames records named).filter (!model.omits records named ·)).map
    (model.entryOf records runtimePending)

/-- What is left of the names of a switch when the entries are rebuilt. -/
def heldFor (model : EntriesModel) (activity : AwgActivity) : EntriesModel :=
  if activity = .up then model else { model with switchDisconnectNames := [] }

theorem rebuildEntries_authorized (model : EntriesModel)
    (records : Option (List (Option RuntimeRecord))) (runtimePending : Bool)
    (activity : AwgActivity) (activityName : Option Name) :
    (model.rebuildEntries true records runtimePending activity activityName).entries =
      ((model.heldFor activity).unorderedEntries (presentRecords records) runtimePending
        (activityNamedEntry activity activityName)).mergeSort storedEntryLe := by
  have hauthorized : ¬true = false := Bool.true_eq_false_eq_False
  unfold rebuildEntries heldFor
  rw [if_neg hauthorized]
  by_cases hup : activity = .up
  · have hkept : ¬(true = false ∨ activity ≠ .up) := by simp [hup]
    rw [if_neg hkept, if_pos hup]
    rfl
  · have hlost : true = false ∨ activity ≠ .up := .inr hup
    rw [if_pos hlost, if_neg hup]
    rfl

/-- The names of the entries before they are brought into order. -/
theorem names_unorderedEntries (model : EntriesModel) (records : List RuntimeRecord)
    (runtimePending : Bool) (named : Option Name) :
    (model.unorderedEntries records runtimePending named).map (·.name) =
      (model.entryNames records named).filter (!model.omits records named ·) := by
  unfold unorderedEntries
  rw [List.map_map]
  exact List.map_id _

/-- The entries of an authorized rebuild are in the strict order of their names. -/
theorem increasing_rebuildEntries (model : EntriesModel)
    (records : Option (List (Option RuntimeRecord))) (runtimePending : Bool)
    (activity : AwgActivity) (activityName : Option Name) :
    (model.rebuildEntries true records runtimePending activity activityName).entries.Pairwise
      fun left right => storedEntryLe right left = false := by
  rw [rebuildEntries_authorized]
  have hantisymm (left right : StoredEntry) (hle : storedEntryLe left right = true)
      (hge : storedEntryLe right left = true) : left.name = right.name :=
    foldedNameLe_antisymm hle hge
  apply pairwise_strict hantisymm
  · exact @List.pairwise_mergeSort _ storedEntryLe (fun _ _ _ => foldedNameLe_trans)
      (fun _ _ => foldedNameLe_total _ _) _
  · have hperm := (List.mergeSort_perm ((model.heldFor activity).unorderedEntries
      (presentRecords records) runtimePending (activityNamedEntry activity activityName))
      storedEntryLe).map (·.name)
    rw [hperm.nodup_iff, names_unorderedEntries]
    exact (nodup_entryNames _ _ _).filter _

/-- The names of the entries of an authorized rebuild. -/
theorem mem_rebuildEntries (model : EntriesModel)
    (records : Option (List (Option RuntimeRecord))) (runtimePending : Bool)
    (activity : AwgActivity) (activityName : Option Name) (name : Name) :
    (∃ entry ∈ (model.rebuildEntries true records runtimePending activity activityName).entries,
      entry.name = name) ↔
      name ∈ model.profiles.map (·.1) ∨
      (nameIsValid name = true ∧ ∃ record,
        findRuntimeRecord (presentRecords records) name = some record ∧
          record.state ≠ .inactive) ∨
      activityNamedEntry activity activityName = some name ∨
      (activity = .up ∧ name ∈ model.switchDisconnectNames) := by
  have hheld : name ∈ (model.heldFor activity).switchDisconnectNames ↔
      activity = .up ∧ name ∈ model.switchDisconnectNames := by
    unfold heldFor
    split
    · rename_i hup
      simp [hup]
    · rename_i hup
      simp [hup]
  have hprofiles : (model.heldFor activity).profiles = model.profiles := by
    unfold heldFor
    split <;> rfl
  have hnames := @mem_entryNames_kept (model.heldFor activity) (presentRecords records)
    (activityNamedEntry activity activityName) name
  rw [hheld, hprofiles, ← names_unorderedEntries _ _ runtimePending, List.mem_map] at hnames
  rw [← hnames, rebuildEntries_authorized]
  simp only [List.mem_mergeSort]

end EntriesModel

/-! ## Every sequence of operations -/

/-- The operations of the model. -/
inductive ModelOp where
  | replaceProfiles (profiles : Option (List (Option ProfileRecord)))
  | recordImport (name : Name)
  | recordDelete (name : Name)
  | resetProfiles
  | beginSwitch
  | rebuildEntries (authorized : Bool) (records : Option (List (Option RuntimeRecord)))
    (runtimePending : Bool) (activity : AwgActivity) (activityName : Option Name)

namespace ModelOp

/-- What an operation does. A replacement that is rejected does nothing. -/
def apply (model : EntriesModel) : ModelOp → EntriesModel
  | replaceProfiles profiles => (model.replaceProfiles profiles).getD model
  | recordImport name => model.recordImport name
  | recordDelete name => model.recordDelete name
  | resetProfiles => model.resetProfiles
  | beginSwitch => model.beginSwitch
  | rebuildEntries authorized records runtimePending activity activityName =>
    model.rebuildEntries authorized records runtimePending activity activityName

/-- The operation leaves the names of a switch as they are: it is neither another switch nor a
rebuild without authorization or for another activity. -/
def Holds : ModelOp → Prop
  | beginSwitch => False
  | rebuildEntries authorized _ _ activity _ => authorized = true ∧ activity = .up
  | _ => True

end ModelOp

/-- The model after a sequence of operations. -/
def modelAfter (ops : List ModelOp) : EntriesModel := ops.foldl ModelOp.apply .new

/-- A switch that begins after these operations captures the name. -/
def CapturedAfter (ops : List ModelOp) (name : Name) : Prop :=
  ∃ entry ∈ (modelAfter ops).entries, entry.name = name ∧
    (entry.displayRuntimeState = .active ∨
      runtimeStateIsRecoverable entry.displayRuntimeState = true)

/-- The name was captured by the last switch, and is still held. -/
def HeldAfter (ops : List ModelOp) (name : Name) : Prop :=
  ∃ before later, ops = before ++ .beginSwitch :: later ∧ CapturedAfter before name ∧
    ∀ op ∈ later, op.Holds

theorem modelAfter_concat (ops : List ModelOp) (op : ModelOp) :
    modelAfter (ops ++ [op]) = op.apply (modelAfter ops) := by
  unfold modelAfter
  rw [List.foldl_append]
  rfl

/-- Whether a name is held after one more operation. -/
theorem heldAfter_concat {ops : List ModelOp} {op : ModelOp} {name : Name} :
    HeldAfter (ops ++ [op]) name ↔
      (op = .beginSwitch ∧ CapturedAfter ops name) ∨ (op.Holds ∧ HeldAfter ops name) := by
  constructor
  · rintro ⟨before, later, hops, hcaptured, hlater⟩
    rcases List.eq_nil_or_concat later with rfl | ⟨later, last, rfl⟩
    · obtain ⟨rfl, hlast⟩ := List.append_inj' hops rfl
      exact .inl ⟨List.singleton_inj.mp hlast, hcaptured⟩
    · rw [List.concat_eq_append, ← List.cons_append, ← List.append_assoc] at hops
      obtain ⟨rfl, hlast⟩ := List.append_inj' hops rfl
      obtain rfl := List.singleton_inj.mp hlast
      rw [List.concat_eq_append] at hlater
      exact .inr ⟨hlater op (List.mem_append_right _ List.mem_cons_self), before, later, rfl,
        hcaptured, fun other hother => hlater other (List.mem_append_left _ hother)⟩
  · rintro (⟨rfl, hcaptured⟩ | ⟨hholds, before, later, rfl, hcaptured, hlater⟩)
    · exact ⟨ops, [], rfl, hcaptured, fun _ h => absurd h List.not_mem_nil⟩
    · refine ⟨before, later ++ [op], by simp, hcaptured, fun other hother => ?_⟩
      rcases List.mem_append.mp hother with hold | hadded
      · exact hlater other hold
      · exact List.mem_singleton.mp hadded ▸ hholds

theorem mem_beginSwitch {model : EntriesModel} {name : Name} :
    name ∈ model.beginSwitch.switchDisconnectNames ↔ ∃ entry ∈ model.entries, entry.name = name ∧
      (entry.displayRuntimeState = .active ∨
        runtimeStateIsRecoverable entry.displayRuntimeState = true) := by
  unfold EntriesModel.beginSwitch
  dsimp only
  rw [mem_foldl_addName]
  simp only [List.not_mem_nil, false_or, List.mem_map, List.mem_filter, runtimeCanDisconnect,
    Bool.or_eq_true, beq_iff_eq]
  constructor
  · rintro ⟨entry, ⟨hmem, hstate⟩, hname⟩
    exact ⟨entry, hmem, hname, hstate⟩
  · rintro ⟨entry, hmem, hname, hstate⟩
    exact ⟨entry, ⟨hmem, hstate⟩, hname⟩

/-- The names of a switch are those that are held. -/
theorem mem_switchDisconnectNames (ops : List ModelOp) (name : Name) :
    name ∈ (modelAfter ops).switchDisconnectNames ↔ HeldAfter ops name := by
  induction ops using List.reverseRecOn with
  | nil =>
    refine ⟨fun h => absurd h List.not_mem_nil, ?_⟩
    rintro ⟨before, later, hops, -⟩
    exact absurd hops.symm (List.append_ne_nil_of_right_ne_nil _ (List.cons_ne_nil _ _))
  | append_singleton ops op ih =>
    have hkept (hholds : op.Holds) (hother : op ≠ .beginSwitch)
        (hnames : (op.apply (modelAfter ops)).switchDisconnectNames =
          (modelAfter ops).switchDisconnectNames) :
        name ∈ (op.apply (modelAfter ops)).switchDisconnectNames ↔
          (op = .beginSwitch ∧ CapturedAfter ops name) ∨ (op.Holds ∧ HeldAfter ops name) := by
      rw [hnames, ih]
      simp [hholds, hother]
    rw [modelAfter_concat, heldAfter_concat]
    cases op with
    | replaceProfiles profiles =>
      apply hkept trivial ModelOp.noConfusion
      show ((modelAfter ops).replaceProfiles profiles |>.getD _).switchDisconnectNames = _
      cases hreplaced : (modelAfter ops).replaceProfiles profiles with
      | none => rfl
      | some replaced =>
        obtain ⟨given, -, h⟩ := Option.bind_eq_some_iff.mp hreplaced
        obtain ⟨records, -, h⟩ := Option.bind_eq_some_iff.mp h
        obtain ⟨saved, -, h⟩ := Option.bind_eq_some_iff.mp h
        obtain rfl := Option.some.inj h
        rfl
    | recordImport imported =>
      apply hkept trivial ModelOp.noConfusion
      show ((modelAfter ops).recordImport imported).switchDisconnectNames = _
      unfold EntriesModel.recordImport
      split <;> rfl
    | recordDelete deleted =>
      apply hkept trivial ModelOp.noConfusion
      show ((modelAfter ops).recordDelete deleted).switchDisconnectNames = _
      unfold EntriesModel.recordDelete
      split <;> rfl
    | resetProfiles => exact hkept trivial ModelOp.noConfusion rfl
    | beginSwitch =>
      refine mem_beginSwitch.trans ⟨fun h => .inl ⟨rfl, h⟩, ?_⟩
      rintro (⟨-, h⟩ | ⟨h, -⟩)
      · exact h
      · exact h.elim
    | rebuildEntries authorized records runtimePending activity activityName =>
      show name ∈ ((modelAfter ops).rebuildEntries authorized records runtimePending activity
        activityName).switchDisconnectNames ↔ _
      rw [EntriesModel.switchDisconnectNames_rebuildEntries]
      simp only [ModelOp.Holds, reduceCtorEq, false_and, false_or]
      split
      · rename_i hholds
        rw [ih]
        exact ⟨fun h => ⟨hholds, h⟩, And.right⟩
      · rename_i hlost
        exact ⟨fun h => absurd h List.not_mem_nil, fun h => absurd h.1 hlost⟩

/-- One operation keeps the saved profiles in order. -/
theorem ProfilesOrdered.apply {model : EntriesModel} (h : ProfilesOrdered model.profiles)
    (op : ModelOp) : ProfilesOrdered (op.apply model).profiles := by
  cases op with
  | replaceProfiles profiles =>
    show ProfilesOrdered ((model.replaceProfiles profiles).getD model).profiles
    cases hreplaced : model.replaceProfiles profiles with
    | none => exact h
    | some replaced => exact EntriesModel.profilesOrdered_replaceProfiles hreplaced
  | recordImport name => exact EntriesModel.profilesOrdered_recordImport h name
  | recordDelete name => exact EntriesModel.profilesOrdered_recordDelete h name
  | resetProfiles => exact ⟨.nil, fun _ h => absurd h List.not_mem_nil⟩
  | beginSwitch => exact h
  | rebuildEntries authorized records runtimePending activity activityName =>
    show ProfilesOrdered (model.rebuildEntries authorized records runtimePending activity
      activityName).profiles
    rw [EntriesModel.profiles_rebuildEntries]
    exact h

/-- The saved profiles are in order after every sequence of operations. -/
theorem profilesOrdered_modelAfter (ops : List ModelOp) :
    ProfilesOrdered (modelAfter ops).profiles := by
  induction ops using List.reverseRecOn with
  | nil => exact ⟨.nil, fun _ h => absurd h List.not_mem_nil⟩
  | append_singleton ops op ih => exact modelAfter_concat ops op ▸ ih.apply op

/-- After every sequence of operations the saved profiles are strictly increasing by name, with
valid names and statuses, and a replacement that is rejected leaves them as they were. The entries
of an authorized rebuild are strictly increasing in the folded order, and their names are those of
the saved profiles, the valid names of the runtime records whose first record is not inactive, the
name of the activity, and the names that are still held of the last switch. -/
theorem modelEntries_invariant (ops : List ModelOp) :
    ((modelAfter ops).profiles.Pairwise fun left right => nameLe right.1 left.1 = false) ∧
    (∀ profile ∈ (modelAfter ops).profiles, nameIsValid profile.1 = true ∧
      ProfileStatus.ofNumber profile.2.number = some profile.2) ∧
    (∀ profiles, (modelAfter ops).replaceProfiles profiles = none →
      (modelAfter (ops ++ [.replaceProfiles profiles])).profiles = (modelAfter ops).profiles) ∧
    ∀ records runtimePending activity activityName,
      let rebuilt := ops ++ [.rebuildEntries true records runtimePending activity activityName]
      ((modelAfter rebuilt).entries.Pairwise fun left right =>
        foldedNameLe right.name left.name = false) ∧
      ∀ name, (∃ entry ∈ (modelAfter rebuilt).entries, entry.name = name) ↔
        (∃ profile ∈ (modelAfter ops).profiles, profile.1 = name) ∨
        (nameIsValid name = true ∧ ∃ record,
          ((records.getD []).filterMap id).find? (·.name = name) = some record ∧
            record.state ≠ .inactive) ∨
        (activityName = some name ∧ activity ≠ .idle ∧ activity ≠ .importSelect) ∨
        HeldAfter rebuilt name := by
  have hprofiles := profilesOrdered_modelAfter ops
  refine ⟨hprofiles.increasing, fun profile hmem => ⟨hprofiles.valid profile hmem,
    ofNumber_number profile.2⟩, fun profiles hrejected => ?_, ?_⟩
  · rw [modelAfter_concat]
    show (((modelAfter ops).replaceProfiles profiles).getD _).profiles = _
    rw [hrejected]
    rfl
  intro records runtimePending activity activityName rebuilt
  have hrebuilt : modelAfter rebuilt = (modelAfter ops).rebuildEntries true records
      runtimePending activity activityName := modelAfter_concat ops _
  refine ⟨hrebuilt ▸ EntriesModel.increasing_rebuildEntries _ _ _ _ _, fun name => ?_⟩
  have hheld : HeldAfter rebuilt name ↔
      activity = .up ∧ name ∈ (modelAfter ops).switchDisconnectNames := by
    rw [← mem_switchDisconnectNames, hrebuilt,
      EntriesModel.switchDisconnectNames_rebuildEntries]
    split
    · rename_i hup
      simp [hup.2]
    · rename_i hother
      simp only [true_and] at hother
      simp [hother]
  have hnamed : activityNamedEntry activity activityName = some name ↔
      activityName = some name ∧ activity ≠ .idle ∧ activity ≠ .importSelect := by
    unfold activityNamedEntry
    split
    · rename_i hunnamed
      refine ⟨fun h => absurd h.symm (Option.some_ne_none name), fun h => ?_⟩
      exact absurd hunnamed (not_or.mpr h.2)
    · rename_i hnamed
      exact ⟨fun h => ⟨h, not_or.mp hnamed⟩, And.left⟩
  rw [hheld, hrebuilt, EntriesModel.mem_rebuildEntries, hnamed, List.mem_map]
  rfl

end NmSidebar
