import NmSidebar.Helper.Operations
import NmSidebar.AmneziaWG.JournalCodec

/-!
# What the operations do

A world is what outlives a single call: the files of the helper's four directories, the entries
a directory scan has still to give, and whether the process has committed. `behaves` says which
replies an operation may get in a world and which world it leaves. Where the source cannot know
what a failed call has done, every possibility is allowed: a write that fails leaves the old file,
the new one, or the old one and a temporary file. A process that is stopped inside a call leaves
one of the worlds that a failure of that call leaves.
-/

namespace NmSidebar

open Text Effects

/-- The machine as the helper finds it. Directories and the lock file are not in `files`. -/
structure World where
  files : StorageArea → Name → Option Bytes
  scan : List Name
  committed : Bool

/-- The world with one file replaced or, with `none`, removed. -/
def World.setFile (w : World) (area : StorageArea) (name : Name) (contents : Option Bytes) :
    World :=
  { w with files := fun a n => if a = area ∧ n = name then contents else w.files a n }

@[simp] theorem files_setFile_self (w : World) (area : StorageArea) (name : Name)
    (contents : Option Bytes) : (w.setFile area name contents).files area name = contents := by
  simp [World.setFile]

theorem files_setFile_ne {w : World} {area area' : StorageArea} {name name' : Name}
    {contents : Option Bytes} (h : area' ≠ area ∨ name' ≠ name) :
    (w.setFile area name contents).files area' name' = w.files area' name' := by
  simp only [World.setFile]
  rw [if_neg]
  rintro ⟨rfl, rfl⟩
  exact h.elim (fun h => h rfl) fun h => h rfl

@[simp] theorem committed_setFile (w : World) (area : StorageArea) (name : Name)
    (contents : Option Bytes) : (w.setFile area name contents).committed = w.committed := rfl

/-- The marker on disk, where there is one that can be parsed. -/
def World.marker (w : World) (name : Name) : Option RuntimeMarker :=
  (w.files .runtime name).bind runtimeMarkerParse

theorem marker_setFile_ne {w : World} {area : StorageArea} {name name' : Name}
    {contents : Option Bytes} (h : area ≠ .runtime ∨ name' ≠ name) :
    (w.setFile area name contents).marker name' = w.marker name' := by
  rw [World.marker, World.marker, files_setFile_ne (h.imp (fun h => h.symm) id)]

theorem marker_setFile_serialize {w : World} {name : Name} {marker : RuntimeMarker}
    {contents : Bytes} (h : runtimeMarkerSerialize marker = some contents) :
    (w.setFile .runtime name (some contents)).marker name = some marker := by
  obtain ⟨hvalid, rfl⟩ := serialize_eq_some.mp h
  rw [World.marker, files_setFile_self, Option.bind_some]
  exact parse_runtimeMarkerText hvalid

/-! ## Temporary names -/

/-- `temp_config_alphabet`. -/
def tempConfigAlphabet : Bytes :=
  ascii "ABCDEFGHIJKLMNOPQRSTUVWXYZabcdefghijklmnopqrstuvwxyz0123456789_-"

/-- The names `create_temp_config_at` draws: as long as no interface name can be. -/
def isTempName (name : Name) : Bool :=
  name.length == maxInterfaceLength + 5 && name.head? == some 0x6e &&
    name.drop maxInterfaceLength == ascii ".conf" &&
    ((name.take maxInterfaceLength).drop 1).all fun b => tempConfigAlphabet.contains b

/-- A temporary name is no interface name. -/
theorem not_isTempName_of_nameIsValid {name : Name} (h : nameIsValid name = true) :
    isTempName name = false := by
  have hlen := length_le_of_nameIsValid h
  rw [isTempName, Bool.and_assoc, Bool.and_assoc, Bool.and_eq_false_iff]
  left
  simp only [beq_eq_false_iff_ne, maxInterfaceLength]
  omega

/-! ## Changes of files -/

/-- `atomic_write_at`: a temporary file is written, synced and renamed over the target. -/
inductive AtomicWrite (w : World) (area : StorageArea) (target : Name) (contents : Bytes) :
    Bool → World → Prop
  | written : AtomicWrite w area target contents true (w.setFile area target (some contents))
  /-- The rename happened, and a later sync or check failed. -/
  | unconfirmed : AtomicWrite w area target contents false (w.setFile area target (some contents))
  | abandoned : AtomicWrite w area target contents false w
  /-- The temporary file could not be removed again. -/
  | leftOver (tempName : Name) (written : Bytes) (hname : isTempName tempName = true)
      (hfresh : w.files area tempName = none) :
      AtomicWrite w area target contents false (w.setFile area tempName (some written))

/-- `remove_entry_and_sync_at`. -/
inductive Removal (w : World) (area : StorageArea) (name : Name) : Bool → World → Prop
  | removed : Removal w area name true (w.setFile area name none)
  | unsynced : Removal w area name false (w.setFile area name none)
  | kept : Removal w area name false w

/-- `awg_helper_storage_write_staging_candidate`. -/
inductive StagingWrite (w : World) (contents : Bytes) : StagingCandidate → World → Prop
  | notCreated : StagingWrite w contents .notCreated w
  | incomplete (tempName : Name) (written : Bytes) (hname : isTempName tempName = true)
      (hfresh : w.files .staging tempName = none) :
      StagingWrite w contents (.incomplete tempName) (w.setFile .staging tempName (some written))
  | complete (tempName : Name) (hname : isTempName tempName = true)
      (hfresh : w.files .staging tempName = none) :
      StagingWrite w contents (.complete tempName) (w.setFile .staging tempName (some contents))

/-- `awg_helper_storage_rename_staging_noreplace`. -/
inductive RenameNoreplace (w : World) (tempName configName : Name) : RenameOutcome → World → Prop
  | renamed (contents : Bytes) (hsource : w.files .staging tempName = some contents)
      (htarget : w.files .config configName = none) :
      RenameNoreplace w tempName configName .renamed
        ((w.setFile .staging tempName none).setFile .config configName (some contents))
  | targetExists (htarget : (w.files .config configName).isSome) :
      RenameNoreplace w tempName configName .targetExists w
  | failed : RenameNoreplace w tempName configName .failed w

/-- `awg_helper_storage_exchange_staging_config`. -/
inductive RenameExchange (w : World) (tempName configName : Name) : Bool → World → Prop
  | exchanged (staged saved : Bytes) (hstaged : w.files .staging tempName = some staged)
      (hsaved : w.files .config configName = some saved) :
      RenameExchange w tempName configName true
        ((w.setFile .staging tempName (some saved)).setFile .config configName (some staged))
  | failed : RenameExchange w tempName configName false w

/-! ## The behaviour -/

/-- What an operation may reply in a world, and the world it leaves. -/
def HelperCall.Outcome : (o : HelperCall) → World → o.Reply → World → Prop
  | isCommitted, w, r, w' => r = w.committed ∧ w' = w
  | compareExchangeCommitted, w, r, w' =>
    (r = true ∧ w.committed = false ∧ w' = { w with committed := true }) ∨ (r = false ∧ w' = w)
  | readStandardInput _, w, r, w' =>
    (∀ failure, r = .error failure → failure ≠ .success) ∧
    (∀ contents, r = .ok contents → contents.length ≤ maxConfigSize) ∧ w' = w
  | secureFileState area name _, w, r, w' =>
    (r = .missing → w.files area name = none) ∧ (r = .valid → (w.files area name).isSome) ∧ w' = w
  | configSecurityState name, w, r, w' =>
    (r = .missing → w.files .config name = none) ∧ (r = .valid → (w.files .config name).isSome) ∧
      w' = w
  | readSecureFile area name _ maximumSize, w, r, w' =>
    (∀ contents, r = some contents →
      w.files area name = some contents ∧ contents.length ≤ maximumSize) ∧ w' = w
  | readConfig name, w, r, w' =>
    (∀ failure, r = .error failure →
      failure ≠ .success ∧ (failure = .notFound → w.files .config name = none)) ∧
    (∀ contents identity, r = .ok (contents, identity) →
      w.files .config name = some contents ∧ contents.length ≤ maxConfigSize) ∧ w' = w
  | writeStagingCandidate contents, w, r, w' => StagingWrite w contents r w'
  | atomicWrite area target contents _, w, r, w' => AtomicWrite w area target contents r w'
  | removeAndSync area name, w, r, w' => Removal w area name r w'
  | unlinkStaging name, w, r, w' =>
    (r = true ∧ w' = w.setFile .staging name none) ∨ (r = false ∧ w' = w)
  | renameStagingNoreplace tempName configName, w, r, w' =>
    RenameNoreplace w tempName configName r w'
  | exchangeStagingConfig tempName configName, w, r, w' =>
    RenameExchange w tempName configName r w'
  | iteratorNew area, w, r, w' =>
    (r = true → ∀ name, (w.files area name).isSome → name ∈ w'.scan) ∧
      w' = { w with scan := w'.scan }
  | iteratorNext, w, r, w' =>
    match r with
    | .entry name => w.scan = name :: w'.scan ∧ w' = { w with scan := w'.scan }
    | .done => w.scan = [] ∧ w' = w
    | .failed => w' = w
  | readRuntimeMarker name, w, r, w' =>
    w' = w ∧
      match r with
      | .missing => w.files .runtime name = none
      | .invalid => True
      | .valid read => w.marker name = some read.marker
  | writeRuntimeMarker name marker, w, r, w' =>
    match runtimeMarkerSerialize marker with
    | none => r = false ∧ w' = w
    | some contents => AtomicWrite w .runtime name contents r w'
  | _, w, _, w' => w' = w

/-- The behaviour of the helper's operations. -/
def behaves : Behaviour helperSig World := HelperCall.Outcome

/-! ## What operations leave alone -/

/-- The directories an operation may change. -/
def HelperCall.changesArea : HelperCall → StorageArea → Bool
  | writeStagingCandidate _, a | unlinkStaging _, a => a == .staging
  | atomicWrite area .., a | removeAndSync area _, a => a == area
  | renameStagingNoreplace .., a | exchangeStagingConfig .., a => a == .staging || a == .config
  | writeRuntimeMarker .., a => a == .runtime
  | _, _ => false

private theorem files_setFile_area {w : World} {area a : StorageArea} {name : Name}
    {contents : Option Bytes} (h : (a == area) = false) :
    (w.setFile area name contents).files a = w.files a := by
  funext other
  exact files_setFile_ne (.inl (beq_eq_false_iff_ne.mp h))

private theorem files_of_atomicWrite {w w' : World} {area a : StorageArea} {target : Name}
    {contents : Bytes} {r : Bool} (h : AtomicWrite w area target contents r w')
    (ha : (a == area) = false) : w'.files a = w.files a := by
  cases h with
  | abandoned => rfl
  | written | unconfirmed | leftOver => exact files_setFile_area ha

private theorem files_of_rename {w : World} {a : StorageArea} {tempName configName : Name}
    {staged saved : Option Bytes} (ha : (a == .staging || a == .config) = false) :
    ((w.setFile .staging tempName staged).setFile .config configName saved).files a =
      w.files a := by
  rw [Bool.or_eq_false_iff] at ha
  rw [files_setFile_area ha.2, files_setFile_area ha.1]

/-- A directory that an operation does not change has the files it had. -/
theorem files_of_behaves {o : HelperCall} {w w' : World} {r : o.Reply} {a : StorageArea}
    (h : behaves o w r w') (ha : o.changesArea a = false) : w'.files a = w.files a := by
  cases o with
  | writeStagingCandidate contents =>
    cases h with
    | notCreated => rfl
    | incomplete | complete => exact files_setFile_area ha
  | unlinkStaging name =>
    rcases h with ⟨-, rfl⟩ | ⟨-, rfl⟩
    · exact files_setFile_area ha
    · rfl
  | atomicWrite area target contents mode => exact files_of_atomicWrite h ha
  | removeAndSync area name =>
    cases h with
    | kept => rfl
    | removed | unsynced => exact files_setFile_area ha
  | renameStagingNoreplace tempName configName =>
    cases h with
    | renamed => exact files_of_rename ha
    | targetExists | failed => rfl
  | exchangeStagingConfig tempName configName =>
    cases h with
    | exchanged => exact files_of_rename ha
    | failed => rfl
  | writeRuntimeMarker name marker =>
    simp only [behaves, HelperCall.Outcome] at h
    split at h
    · rw [h.2]
    · exact files_of_atomicWrite h ha
  | compareExchangeCommitted =>
    rcases h with ⟨-, -, rfl⟩ | ⟨-, rfl⟩ <;> rfl
  | iteratorNext =>
    simp only [behaves, HelperCall.Outcome] at h
    split at h
    · rw [h.2]
    · rw [h.2]
    · rw [h]
  | iteratorNew area => rw [h.2]
  | isCommitted => rw [h.2]
  | readStandardInput deadline => rw [h.2.2]
  | secureFileState area name mode => rw [h.2.2]
  | configSecurityState name => rw [h.2.2]
  | readSecureFile area name mode maximumSize => rw [h.2]
  | readConfig name => rw [h.2.2]
  | readRuntimeMarker name => rw [h.1]
  | _ => rw [show w' = w from h]

/-- Only the commit commits. -/
theorem committed_of_behaves {o : HelperCall} {w w' : World} {r : o.Reply} (h : behaves o w r w')
    (ho : o ≠ .compareExchangeCommitted) : w'.committed = w.committed := by
  have hatomic : ∀ {area target contents} {r : Bool},
      AtomicWrite w area target contents r w' → w'.committed = w.committed := by
    intro area target contents r h
    cases h <;> rfl
  cases o with
  | compareExchangeCommitted => exact absurd rfl ho
  | writeStagingCandidate | removeAndSync | renameStagingNoreplace | exchangeStagingConfig =>
    cases h <;> rfl
  | unlinkStaging name => rcases h with ⟨-, rfl⟩ | ⟨-, rfl⟩ <;> rfl
  | atomicWrite area target contents mode => exact hatomic h
  | writeRuntimeMarker name marker =>
    simp only [behaves, HelperCall.Outcome] at h
    split at h
    · rw [h.2]
    · exact hatomic h
  | iteratorNext =>
    simp only [behaves, HelperCall.Outcome] at h
    split at h
    · rw [h.2]
    · rw [h.2]
    · rw [h]
  | iteratorNew area => rw [h.2]
  | isCommitted => rw [h.2]
  | readStandardInput deadline => rw [h.2.2]
  | secureFileState area name mode => rw [h.2.2]
  | configSecurityState name => rw [h.2.2]
  | readSecureFile area name mode maximumSize => rw [h.2]
  | readConfig name => rw [h.2.2]
  | readRuntimeMarker name => rw [h.1]
  | _ => rw [show w' = w from h]

/-! ## What a write of a marker leaves -/

/-- A marker that was written is on disk; after a failure the marker is the old one or the
new one. No other file of an interface's name is touched. -/
theorem outcome_writeRuntimeMarker {name : Name} {marker : RuntimeMarker} {w w' : World}
    {r : Bool} (h : behaves (.writeRuntimeMarker name marker) w r w')
    (hname : isTempName name = false) :
    (r = true → w'.marker name = some marker) ∧
      (w'.marker name = some marker ∨ w'.files .runtime name = w.files .runtime name) ∧
      (∀ area other, area ≠ .runtime ∨ other ≠ name ∧ isTempName other = false →
        w'.files area other = w.files area other) ∧
      w'.committed = w.committed := by
  simp only [behaves, HelperCall.Outcome] at h
  split at h
  · obtain ⟨rfl, rfl⟩ := h
    simp
  · rename_i contents hcontents
    have hmarker := @marker_setFile_serialize w name _ _ hcontents
    have hother : ∀ area other, area ≠ .runtime ∨ other ≠ name ∧ isTempName other = false →
        (w.setFile .runtime name (some contents)).files area other = w.files area other :=
      fun area other h => files_setFile_ne (h.imp id And.left)
    cases h with
    | written => exact ⟨fun _ => hmarker, .inl hmarker, hother, rfl⟩
    | unconfirmed => exact ⟨by simp, .inl hmarker, hother, rfl⟩
    | abandoned => simp
    | leftOver tempName written htemp hfresh =>
      have hne : ∀ other, isTempName other = false → other ≠ tempName := by
        rintro other hother rfl
        rw [htemp] at hother
        cases hother
      refine ⟨by simp, .inr (files_setFile_ne (.inr (hne name hname))), fun area other h => ?_,
        rfl⟩
      exact files_setFile_ne (h.imp id fun h => hne other h.2)

end NmSidebar
