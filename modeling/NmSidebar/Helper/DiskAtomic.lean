import NmSidebar.Helper.DiskWrites

/-!
# Atomic writes

`atomic_write_at` and `remove_entry_and_sync_at`: wherever they are stopped, the world is one that
their failure leaves, and the other directories and the files that were there are as they were.
-/

namespace NmSidebar

open Text Effects

/-! ## Worlds that differ in one file -/

theorem setFile_of_files {w : World} {area : StorageArea} {name : Name} {contents : Option Bytes}
    (h : w.files area name = contents) : w.setFile area name contents = w := by
  unfold World.setFile
  congr 1
  funext a n
  split
  · rename_i heq
    rw [heq.1, heq.2, h]
  · rfl

theorem setFile_setFile_self (w : World) (area : StorageArea) (name : Name)
    (contents contents' : Option Bytes) :
    (w.setFile area name contents).setFile area name contents' = w.setFile area name contents' := by
  unfold World.setFile
  congr 1
  funext a n
  split
  · rfl
  · rename_i hne
    exact if_neg hne

theorem setFile_comm (w : World) {area area' : StorageArea} {name name' : Name}
    (contents contents' : Option Bytes) (h : area' ≠ area ∨ name' ≠ name) :
    (w.setFile area name contents).setFile area' name' contents' =
      (w.setFile area' name' contents').setFile area name contents := by
  unfold World.setFile
  congr 1
  funext a n
  dsimp only
  split
  · rename_i heq'
    rw [if_neg]
    rintro ⟨rfl, rfl⟩
    exact h.elim (fun h => h heq'.1.symm) fun h => h heq'.2.symm
  · rfl

/-! ## Changes of one directory -/

namespace Store

variable {s s' : Store} {area : StorageArea} {name target temp : Name} {data contents : Bytes}
  {synced : Bool}

/-- Only one directory has been changed, and no file that was there. -/
structure Elsewhere (s : Store) (area : StorageArea) (s' : Store) : Prop where
  data : ∀ ino < s.next, s'.data ino = s.data ino
  synced : ∀ ino < s.next, s'.synced ino = s.synced ino
  entry : ∀ a ≠ area, s'.entry a = s.entry a
  earlier : ∀ a ≠ area, s'.earlier a = s.earlier a
  sound : s'.Sound

theorem elsewhere_refl (h : s.Sound) : s.Elsewhere area s where
  data _ _ := rfl
  synced _ _ := rfl
  entry _ _ := rfl
  earlier _ _ := rfl
  sound := h

theorem Elsewhere.setEntry {entry : Option ℕ} (h : s.Elsewhere area s')
    (hentry : ∀ ino ∈ entry, ino < s'.next) : s.Elsewhere area (s'.setEntry area name entry) where
  data := h.data
  synced := h.synced
  entry a ha := by
    rw [← h.entry a ha]
    funext n
    exact if_neg fun heq => ha heq.1
  earlier a ha := by
    rw [← h.earlier a ha]
    funext n
    exact if_neg fun heq => ha heq.1
  sound := sound_setEntry h.sound hentry

theorem Elsewhere.syncDirectory (h : s.Elsewhere area s') :
    s.Elsewhere area (s'.syncDirectory area) where
  data := h.data
  synced := h.synced
  entry := h.entry
  earlier a ha := by
    rw [← h.earlier a ha]
    funext n
    exact if_neg ha
  sound := sound_syncDirectory h.sound

theorem elsewhere_draft (h : s.Sound) : s.Elsewhere area (s.draft area name data synced) where
  data ino hino := Function.update_of_ne hino.ne _ _
  synced ino hino := Function.update_of_ne hino.ne _ _
  entry a ha := by
    funext n
    exact if_neg fun heq => ha heq.1
  earlier a ha := by
    funext n
    exact if_neg fun heq => ha heq.1
  sound := sound_draft h

/-! ## Removal -/

/-- What `remove_entry_and_sync_at` leaves with each reply. -/
inductive Removed (s : Store) (area : StorageArea) (name : Name) : Bool → Store → Prop
  | kept : Removed s area name false s
  | missing (hentry : s.entry area name = none) :
      Removed s area name true (s.syncDirectory area)
  | unsynced (hentry : (s.entry area name).isSome) :
      Removed s area name false (s.setEntry area name none)
  | removed (hentry : (s.entry area name).isSome) :
      Removed s area name true ((s.setEntry area name none).syncDirectory area)

theorem files_of_missing (h : s.entry area name = none) : s.world.files area name = none := by
  show Option.map _ (s.entry area name) = none
  rw [h]
  rfl

theorem Removed.removal {r : Bool} (h : Removed s area name r s') :
    Removal s.world area name r s'.world := by
  cases h with
  | kept => exact .kept
  | missing hentry =>
    have hworld : s.world.setFile area name none = s.world :=
      setFile_of_files (files_of_missing hentry)
    have hremoved : Removal s.world area name true (s.world.setFile area name none) := .removed
    rwa [hworld] at hremoved
  | unsynced =>
    rw [world_setEntry]
    exact .unsynced
  | removed =>
    rw [world_syncDirectory, world_setEntry]
    exact .removed

/-! ## A write that fails -/

/-- What a failed `atomic_write_at` may leave, and what it leaves wherever it is stopped. -/
structure WriteFailed (s : Store) (area : StorageArea) (target : Name) (contents : Bytes)
    (s' : Store) : Prop where
  elsewhere : s.Elsewhere area s'
  world : AtomicWrite s.world area target contents false s'.world

theorem writeFailed_self (h : s.Sound) : s.WriteFailed area target contents s :=
  ⟨elsewhere_refl h, .abandoned⟩

theorem WriteFailed.syncDirectory (h : s.WriteFailed area target contents s') :
    s.WriteFailed area target contents (s'.syncDirectory area) :=
  ⟨h.elsewhere.syncDirectory, h.world⟩

theorem writeFailed_draft (h : s.Sound) (hfresh : s.entry area temp = none)
    (htemp : isTempName temp = true) :
    s.WriteFailed area target contents (s.draft area temp data synced) := by
  refine ⟨elsewhere_draft h, ?_⟩
  rw [world_draft h]
  exact .leftOver temp data htemp (files_of_missing hfresh)

/-- The temporary file was removed again. -/
theorem writeFailed_cleared (h : s.Sound) (hfresh : s.entry area temp = none) :
    s.WriteFailed area target contents
      ((s.draft area temp data synced).setEntry area temp none) := by
  refine ⟨(elsewhere_draft h).setEntry (by simp), ?_⟩
  have hworld : ((s.draft area temp data synced).setEntry area temp none).world = s.world := by
    rw [world_setEntry, world_draft h, setFile_setFile_self]
    exact setFile_of_files (files_of_missing hfresh)
  rw [hworld]
  exact .abandoned

/-! ## A write that is published -/

/-- The store where the new file has got its name. -/
def published (s : Store) (area : StorageArea) (temp target : Name) (contents : Bytes) : Store :=
  (s.draft area temp contents true).renamed area temp target

/-- A name that is both the temporary and the final one is not changed by the rename; otherwise the
temporary name is gone. -/
theorem published_cases (h : s.Sound) (area : StorageArea) (temp target : Name)
    (contents : Bytes) :
    (temp = target ∧ s.published area temp target contents = s.draft area temp contents true) ∨
      (temp ≠ target ∧ s.published area temp target contents =
        ((s.draft area temp contents true).setEntry area target (some s.next)).setEntry area temp
          none) := by
  unfold published renamed
  by_cases htarget : temp = target
  · subst htarget
    exact .inl ⟨rfl, if_pos rfl⟩
  · refine .inr ⟨htarget, ?_⟩
    rw [entry_draft_self, if_neg]
    intro hentry
    have hother : (s.draft area temp contents true).entry area target = s.entry area target :=
      if_neg fun heq => htarget heq.2.symm
    rw [hother] at hentry
    exact entry_ne_next h area target hentry.symm

theorem elsewhere_published (h : s.Sound) :
    s.Elsewhere area (s.published area temp target contents) := by
  rcases published_cases h area temp target contents with ⟨-, heq⟩ | ⟨-, heq⟩
  · rw [heq]
    exact elsewhere_draft h
  · rw [heq]
    refine ((elsewhere_draft h).setEntry ?_).setEntry (by simp)
    rintro ino ⟨⟩
    exact Nat.lt_succ_self s.next

theorem world_published (h : s.Sound) (hfresh : s.entry area temp = none) :
    (s.published area temp target contents).world =
      s.world.setFile area target (some contents) := by
  rcases published_cases h area temp target contents with ⟨rfl, heq⟩ | ⟨hne, heq⟩
  · rw [heq, world_draft h]
  · have hcontents : ((s.draft area temp contents true).contentsOf (some s.next)) =
        some contents := congrArg some data_draft_next
    rw [heq, world_setEntry, world_setEntry, world_draft h, hcontents,
      setFile_comm _ _ _ (.inr hne.symm), setFile_setFile_self]
    have hnone : (s.world.setFile area target (some contents)).setFile area temp
        none = s.world.setFile area target (some contents) := by
      refine setFile_of_files ?_
      rw [files_setFile_ne (.inr hne)]
      exact files_of_missing hfresh
    exact hnone

theorem writeFailed_published (h : s.Sound) (hfresh : s.entry area temp = none) :
    s.WriteFailed area target contents (s.published area temp target contents) := by
  refine ⟨elsewhere_published h, ?_⟩
  rw [world_published h hfresh]
  exact .unconfirmed

/-- What the removal of the temporary name leaves is again a failed write. -/
theorem WriteFailed.removed {r : Bool} (h : s.WriteFailed area target contents s')
    (hcleared : (s'.entry area temp).isSome →
      s.WriteFailed area target contents (s'.setEntry area temp none)) {s'' : Store}
    (hremoved : Removed s' area temp r s'') : s.WriteFailed area target contents s'' := by
  cases hremoved with
  | kept => exact h
  | missing => exact h.syncDirectory
  | unsynced hentry => exact hcleared hentry
  | removed hentry => exact (hcleared hentry).syncDirectory

/-- The temporary name of a published file can only be removed where it is the target. -/
theorem writeFailed_published_cleared (h : s.Sound) (hfresh : s.entry area temp = none)
    (hentry : ((s.published area temp target contents).entry area temp).isSome) :
    s.WriteFailed area target contents
      ((s.published area temp target contents).setEntry area temp none) := by
  rcases published_cases h area temp target contents with ⟨-, heq⟩ | ⟨-, heq⟩
  · rw [heq]
    exact writeFailed_cleared h hfresh
  · rw [heq] at hentry
    simp [setEntry] at hentry

end Store

/-! ## The functions -/

variable {d d' : Disk} {s : Store} {area : StorageArea} {name target temp : Name} {mode : ℕ}
  {contents : Bytes}

theorem safe_fsyncDirectory {P : Store → Prop} (hP : P d.store) :
    Safe diskBehaves (during P) (diskCall (.fsyncDirectory area))
      (fun r d' => d'.store = if r then d.store.syncDirectory area else d.store) d := by
  refine safe_diskCall rfl hP fun r d' h => ?_
  rw [show d' = if r then d.syncDirectory area else d from h, apply_ite Disk.store]
  rfl

theorem safe_unlinkat {P : Store → Prop} (hP : P d.store) :
    Safe diskBehaves (during P) (diskCall (.unlinkat area name))
      (fun r d' => (∀ u, r = .ok u → (d.store.entry area name).isSome ∧
          d'.store = d.store.setEntry area name none) ∧
        (∀ failure, r = .error failure → d'.store = d.store ∧
          (failure = .noEntry → d.store.entry area name = none))) d := by
  refine safe_diskCall rfl hP fun r d' h => ?_
  cases r with
  | ok u => exact ⟨fun _ _ => ⟨h.1, h.2.store⟩, by simp⟩
  | error failure =>
    refine ⟨by simp, ?_⟩
    rintro _ ⟨⟩
    cases failure with
    | noEntry => exact ⟨by rw [h.2], fun _ => h.1⟩
    | failed =>
      obtain rfl : d' = d := h
      exact ⟨rfl, by simp⟩

/-- `remove_entry_and_sync_at`, from a store on which it is stopped before or after the removal. -/
theorem safe_removeEntryAndSyncAt {P : Store → Prop} (hs : d.store = s) (hP : P s)
    (hremoved : (s.entry area name).isSome → P (s.setEntry area name none)) :
    Safe diskBehaves (during P) (removeEntryAndSyncAt area name)
      (fun r d' => s.Removed area name r d'.store) d := by
  subst hs
  unfold removeEntryAndSyncAt
  refine (safe_unlinkat hP).bind ?_
  rintro r d₁ ⟨hok, herror⟩
  match r, hok, herror with
  | .error .failed, _, herror =>
    show d.store.Removed area name false d₁.store
    rw [(herror _ rfl).1]
    exact .kept
  | .error .noEntry, _, herror =>
    obtain ⟨hstore, hentry⟩ := herror _ rfl
    refine (safe_fsyncDirectory (by rwa [hstore])).mono fun r d₂ h₂ => ?_
    rw [h₂, hstore]
    cases r with
    | false => exact .kept
    | true => exact .missing (hentry rfl)
  | .ok u, hok, _ =>
    obtain ⟨hentry, hstore⟩ := hok u rfl
    refine (safe_fsyncDirectory (by rw [hstore]; exact hremoved hentry)).mono fun r d₂ h₂ => ?_
    rw [h₂, hstore]
    cases r with
    | false => exact .unsynced hentry
    | true => exact .removed hentry

/-- The end of `atomic_write_at` publishes the file, or leaves it where it was. -/
theorem safe_publishTemp {P : Store → Prop} {fd : ℕ}
    (hs : d.store = s.draft area temp contents true)
    (hP : P (s.draft area temp contents true))
    (hpublished : P (s.published area temp target contents)) :
    Safe diskBehaves (during P) (publishTemp area fd temp target)
      (fun r d' =>
        (r = true → d'.store = (s.published area temp target contents).syncDirectory area) ∧
        (r = false → d'.store = s.draft area temp contents true ∨
          d'.store = s.published area temp target contents)) d := by
  have hP₀ : P d.store := by rwa [hs]
  unfold publishTemp
  refine (safe_close hP₀).bind fun closed d₁ h₁ => ?_
  rw [hs] at h₁
  split
  · refine Safe.bind (safe_diskCall (Q := fun r d' =>
      d'.store = if r then s.published area temp target contents
        else s.draft area temp contents true) rfl (by rwa [h₁]) fun r d' h => ?_)
      fun renamed d₂ h₂ => ?_
    · have h : if r then (d₁.entry area temp).isSome ∧ (d₁.renamed area temp target).Relinks d'
          else d' = d₁ := h
      split at h
      · rename_i hr
        rw [if_pos hr, h.2.store, store_renamed, h₁]
        rfl
      · rename_i hr
        rw [if_neg hr, h, h₁]
    · cases renamed with
      | false => exact ⟨by simp, fun _ => .inl h₂⟩
      | true =>
        have hP₂ : P d₂.store := by rwa [h₂]
        refine (safe_fsyncDirectory hP₂).mono fun r d₃ h₃ => ?_
        rw [h₂] at h₃
        cases r with
        | false => exact ⟨by simp, fun _ => .inr h₃⟩
        | true => exact ⟨fun _ => h₃, by simp⟩
  · exact ⟨by simp, fun _ => .inl h₁⟩

/-- `atomic_write_at`: wherever it is stopped it has failed, and in the end it may have
succeeded. -/
theorem ends_atomicWriteAt (hsound : d.store.Sound) (rounds : ℕ) :
    Ends diskBehaves (during (d.store.WriteFailed area target contents))
      (atomicWriteAt rounds area target contents mode)
      (fun r d' => d.store.Elsewhere area d'.store ∧
        AtomicWrite d.store.world area target contents r d'.store.world) d := by
  have hself : d.store.WriteFailed area target contents d.store := Store.writeFailed_self hsound
  have hfails : ∀ {d' : Disk}, d.store.WriteFailed area target contents d'.store →
      Ends diskBehaves (during (d.store.WriteFailed area target contents))
        (return false : DiskLoopM Bool)
        (fun r d' => d.store.Elsewhere area d'.store ∧
          AtomicWrite d.store.world area target contents r d'.store.world) d' :=
    fun h => ends_return.mpr ⟨h.elsewhere, h.world⟩
  unfold atomicWriteAt
  refine (ends_createTempFile hself rounds tempNameSize).bind fun created d₁ h₁ => ?_
  cases created with
  | none => exact hfails (by rwa [h₁.1 rfl])
  | some file =>
    obtain ⟨fd, temp⟩ := file
    have hcreated := h₁.2 fd temp rfl
    have hfresh := hcreated.fresh
    have hdraft : ∀ data synced, d.store.WriteFailed area target contents
        (d.store.draft area temp data synced) :=
      fun data synced => Store.writeFailed_draft hsound hfresh hcreated.temp
    have hpublished : d.store.WriteFailed area target contents
        (d.store.published area temp target contents) :=
      Store.writeFailed_published hsound hfresh
    have hcleared : ∀ data synced, d.store.WriteFailed area target contents
        ((d.store.draft area temp data synced).setEntry area temp none) :=
      fun data synced => Store.writeFailed_cleared hsound hfresh
    refine (ends_prepareTemp hdraft rounds hcreated.toDrafting contents).bind ?_
    rintro ok d₂ ⟨⟨data, synced, hstore⟩, hok⟩
    split
    · rename_i hcomplete
      refine (safe_publishTemp (hok hcomplete) (hdraft contents true) hpublished).bindEnds ?_
      rintro done d₃ ⟨hdone, hundone⟩
      split
      · rename_i hr
        have hfailed : d.store.WriteFailed area target contents d₃.store := by
          rw [hdone hr]
          exact hpublished.syncDirectory
        -- the last check decides what is reported, and the file is in place either way
        refine (safe_secureFileStateAt hfailed).bindEnds fun state d₄ h₄ => ?_
        refine ends_return.mpr ⟨by rw [h₄.1]; exact hfailed.elsewhere, ?_⟩
        rw [h₄.1, hdone hr, Store.world_syncDirectory, Store.world_published hsound hfresh]
        cases state == .valid with
        | true => exact .written
        | false => exact .unconfirmed
      · -- the temporary name is removed, whatever there is under it
        rename_i hr
        rcases hundone (Bool.eq_false_of_not_eq_true hr) with h₃ | h₃
        · refine (safe_removeEntryAndSyncAt h₃ (hdraft contents true)
            fun _ => hcleared contents true).bindEnds fun _ d₄ h₄ => ?_
          exact hfails ((hdraft contents true).removed (fun _ => hcleared contents true) h₄)
        · have hgone : ((d.store.published area temp target contents).entry area temp).isSome →
              d.store.WriteFailed area target contents
                ((d.store.published area temp target contents).setEntry area temp none) :=
            Store.writeFailed_published_cleared hsound hfresh
          refine (safe_removeEntryAndSyncAt h₃ hpublished hgone).bindEnds fun _ d₄ h₄ => ?_
          exact hfails (hpublished.removed hgone h₄)
    · have hP₂ : d.store.WriteFailed area target contents d₂.store := by
        rw [hstore]
        exact hdraft data synced
      refine (safe_close hP₂).bindEnds fun _ d₃ h₃ => ?_
      refine (safe_removeEntryAndSyncAt (h₃.trans hstore) (hdraft data synced)
        fun _ => hcleared data synced).bindEnds fun _ d₄ h₄ => ?_
      exact hfails ((hdraft data synced).removed (fun _ => hcleared data synced) h₄)

end NmSidebar
