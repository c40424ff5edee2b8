import NmSidebar.Helper.DiskReads

/-!
# Writes to the disk

A new file is written under a temporary name, synced, and only then given its place. Wherever this
is stopped, the world is one that a failed operation leaves, and no file that was there before has
been touched.
-/

namespace NmSidebar

open Text Effects

/-! ## New files -/

variable {d d' : Disk} {s : Store} {area : StorageArea} {name target temp : Name} {mode : ℕ}

/-- A new file, all of it under a temporary name that was free. -/
structure Drafting (s : Store) (area : StorageArea) (fd : ℕ) (temp : Name) (data : Bytes)
    (synced : Bool) (d : Disk) : Prop where
  store : d.store = s.draft area temp data synced
  opened : d.OpenAt fd s.next data.length

theorem Drafting.data {fd : ℕ} {data : Bytes} {synced : Bool}
    (h : Drafting s area fd temp data synced d) : (d.file s.next).data = data := by
  rw [show (d.file s.next).data = d.store.data s.next from rfl, h.store, Store.data_draft_next]

theorem safe_getrandom {P : Store → Prop} (hP : P d.store) {size : ℕ} :
    Safe diskBehaves (during P) (diskCall (.getrandom size))
      (fun r d' => d' = d ∧ ∀ bytes, r = .data bytes → bytes.length ≤ size) d := by
  refine safe_diskCall rfl hP fun r d' h => ?_
  cases r with
  | data bytes =>
    refine ⟨h.2.2, ?_⟩
    rintro _ ⟨⟩
    exact h.2.1
  | ended | interrupted | failed => exact ⟨h, by simp⟩

/-- What fills the buffer fills it exactly. -/
theorem ends_randomBytes {P : Store → Prop} (hP : P d.store) (rounds : ℕ) :
    Ends diskBehaves (during P) (randomBytes rounds)
      (fun r d' => d' = d ∧ ∀ drawn ∈ r, drawn.length = randomSize) d := by
  refine Ends.loop (I := fun drawn d' => d' = d ∧ drawn.length ≤ randomSize) ?_ rounds
    ⟨rfl, Nat.zero_le _⟩
  rintro drawn _ ⟨rfl, hlength⟩
  split
  · refine (safe_getrandom hP).bindEnds ?_
    rintro r d ⟨rfl, hbytes⟩
    cases r with
    | data bytes =>
      refine ends_return.mpr ⟨?_, by simp⟩
      rintro _ ⟨⟩
      have := hbytes bytes rfl
      rw [List.length_append]
      exact ⟨rfl, by omega⟩
    | interrupted =>
      refine ends_return.mpr ⟨?_, by simp⟩
      rintro _ ⟨⟩
      exact ⟨rfl, hlength⟩
    | ended | failed =>
      refine ends_return.mpr ⟨by simp, ?_⟩
      rintro _ ⟨⟩
      exact ⟨rfl, by simp⟩
  · refine ends_return.mpr ⟨by simp, ?_⟩
    rintro _ ⟨⟩
    refine ⟨rfl, ?_⟩
    rintro _ ⟨⟩
    omega

/-- What `create_temp_config_at` creates. -/
structure Created (s : Store) (area : StorageArea) (fd : ℕ) (temp : Name) (d : Disk) : Prop
    extends Drafting s area fd temp [] false d where
  fresh : s.entry area temp = none
  temp : isTempName temp = true

theorem safe_createat {P : Store → Prop} (hP : P d.store) (hname : isTempName name = true) :
    Safe diskBehaves (during P) (diskCall (.createat area name))
      (fun r d' => (r = .taken ∨ r = .failed → d' = d) ∧
        ∀ fd, r = .created fd → Created d.store area fd name d') d := by
  refine safe_diskCall rfl hP fun r d' h => ?_
  cases r with
  | created fd =>
    obtain ⟨hfresh, -, file, hfile, rfl⟩ := h
    refine ⟨by simp, ?_⟩
    rintro _ ⟨⟩
    refine ⟨⟨?_, ⟨?_⟩⟩, hfresh, hname⟩
    · rw [store_setDescriptor, store_create, hfile.data, hfile.synced]
    · simp [Disk.setDescriptor, Disk.store]
  | taken | failed => exact ⟨fun _ => h, by simp⟩

/-- `create_temp_config_at` has created a file or nothing. -/
theorem ends_createTempFile {P : Store → Prop} (hP : P d.store) (rounds nameSize : ℕ) :
    Ends diskBehaves (during P) (createTempFile rounds area nameSize)
      (fun r d' => (r = none → d'.store = d.store) ∧
        ∀ fd temp, r = some (fd, temp) → Created d.store area fd temp d') d := by
  have hnone : Ends diskBehaves (during P) (return none : DiskLoopM (Option (ℕ × Name)))
      (fun r d' => (r = none → d'.store = d.store) ∧
        ∀ fd temp, r = some (fd, temp) → Created d.store area fd temp d') d :=
    ends_return.mpr ⟨fun _ => rfl, by simp⟩
  unfold createTempFile
  split
  · exact hnone
  · -- a name that is taken costs one attempt and changes nothing
    generalize 128 = attempts
    induction attempts with
    | zero => exact hnone
    | succ attempts ih =>
      unfold createTempUpTo
      refine (ends_randomBytes hP rounds).bind ?_
      rintro drawn d ⟨rfl, hdrawn⟩
      cases drawn with
      | none => exact hnone
      | some drawn =>
        have hname := isTempName_tempNameOf (hdrawn drawn rfl)
        refine (safe_createat hP hname).bindEnds ?_
        rintro r d₁ ⟨hsame, hcreated⟩
        cases r with
        | created fd =>
          refine ends_return.mpr ⟨by simp, ?_⟩
          rintro _ _ ⟨⟩
          exact hcreated fd rfl
        | taken =>
          obtain rfl := hsame (by simp)
          exact ih
        | failed =>
          obtain rfl := hsame (by simp)
          exact hnone

/-- A call that changes an open file but neither its contents nor whether it is synced. -/
theorem Disk.Changes.store {fd : ℕ} {change : DiskFile → DiskFile} (h : d.Changes fd change d')
    (hdata : ∀ file, (change file).data = file.data)
    (hsynced : ∀ file, (change file).synced = file.synced) :
    d'.store = d.store ∧ d'.descriptor = d.descriptor := by
  obtain ⟨handle, ctime, -, rfl⟩ := h
  refine ⟨?_, rfl⟩
  rw [store_setFile]
  simp only [hdata, hsynced]
  exact Store.setData_self d.store handle.ino

/-- More was written to a new file. -/
theorem Drafting.wrote {fd : ℕ} {data bytes : Bytes} {synced : Bool}
    (h : Drafting s area fd temp data synced d) (hwrote : d.Wrote fd bytes d') :
    Drafting s area fd temp (data ++ bytes) false d' := by
  obtain ⟨handle, mtime, ctime, hhandle, rfl⟩ := hwrote
  obtain rfl : handle = ⟨s.next, data.length⟩ :=
    Option.some.inj (hhandle.symm.trans h.opened.handle)
  have hoverwrite : Disk.overwrite (d.file s.next).data data.length bytes = data ++ bytes := by
    rw [h.data, Disk.overwrite, List.take_length, List.drop_eq_nil_of_le (by omega),
      List.append_nil]
  refine ⟨?_, ⟨?_⟩⟩
  · rw [store_setDescriptor, store_setFile, h.store]
    dsimp only
    rw [hoverwrite, Store.setData_draft]
  · simp [Disk.setDescriptor]

theorem safe_terminationRequested {P : Store → Prop} (hP : P d.store) :
    Safe diskBehaves (during P) (diskCall .terminationRequested) (fun _ d' => d' = d) d :=
  safe_diskCall rfl hP fun _ _ h => h

theorem safe_write {P : Store → Prop} {fd : ℕ} {data bytes : Bytes} {synced : Bool}
    (h : Drafting s area fd temp data synced d) (hP : P d.store) :
    Safe diskBehaves (during P) (diskCall (.write fd bytes))
      (fun r d' => (∀ count, r = .wrote count → count ≤ bytes.length ∧
          Drafting s area fd temp (data ++ bytes.take count) false d') ∧
        (r = .interrupted → d' = d) ∧
        ∃ data synced, d'.store = s.draft area temp data synced) d := by
  refine safe_diskCall rfl hP fun r d' hdoes => ?_
  cases r with
  | wrote count =>
    have hdraft := h.wrote hdoes.2
    refine ⟨?_, by simp, _, _, hdraft.store⟩
    rintro _ ⟨⟩
    exact ⟨hdoes.1, hdraft⟩
  | interrupted =>
    obtain rfl : d' = d := hdoes
    exact ⟨by simp, fun _ => rfl, _, _, h.store⟩
  | failed =>
    refine ⟨by simp, by simp, ?_⟩
    rcases hdoes with rfl | ⟨count, hwrote⟩
    · exact ⟨_, _, h.store⟩
    · exact ⟨_, _, (h.wrote hwrote).store⟩

/-- What `awg_helper_write_all` writes to a new file. -/
theorem ends_helperWriteAll {P : Store → Prop}
    (hP : ∀ data synced, P (s.draft area temp data synced)) (rounds : ℕ) {fd : ℕ}
    (h : Drafting s area fd temp [] false d) (contents : Bytes) :
    Ends diskBehaves (during P) (helperWriteAll rounds fd contents)
      (fun r d' => (∃ data synced, d'.store = s.draft area temp data synced) ∧
        (r = true → ∃ synced, Drafting s area fd temp contents synced d')) d := by
  -- the file holds what lies before the offset
  refine Ends.loop (I := fun offset d' => offset ≤ contents.length ∧
    ∃ synced, Drafting s area fd temp (contents.take offset) synced d') ?_ rounds
    ⟨Nat.zero_le _, false, h⟩
  rintro offset d ⟨hoffset, synced, hdraft⟩
  have hP' : ∀ {d : Disk} {data synced}, Drafting s area fd temp data synced d → P d.store := by
    intro d data synced h
    rw [h.store]
    exact hP data synced
  split
  · refine (safe_terminationRequested (hP' hdraft)).bindEnds ?_
    rintro stopped d rfl
    split
    · refine ends_return.mpr ⟨by simp, ?_⟩
      rintro _ ⟨⟩
      exact ⟨⟨_, _, hdraft.store⟩, by simp⟩
    · refine (safe_write hdraft (hP' hdraft)).bindEnds ?_
      rintro r d₁ ⟨hwrote, hinterrupted, hstore⟩
      cases r with
      | wrote count =>
        obtain ⟨hcount, hdraft'⟩ := hwrote count rfl
        rw [List.length_drop] at hcount
        rw [← List.take_add] at hdraft'
        dsimp only
        split
        · refine ends_return.mpr ⟨by simp, ?_⟩
          rintro _ ⟨⟩
          exact ⟨hstore, by simp⟩
        · refine ends_return.mpr ⟨?_, by simp⟩
          rintro _ ⟨⟩
          exact ⟨by omega, _, hdraft'⟩
      | interrupted =>
        obtain rfl := hinterrupted rfl
        refine ends_return.mpr ⟨?_, by simp⟩
        rintro _ ⟨⟩
        exact ⟨hoffset, _, hdraft⟩
      | failed =>
        refine ends_return.mpr ⟨by simp, ?_⟩
        rintro _ ⟨⟩
        exact ⟨hstore, by simp⟩
  · rename_i hall
    rw [List.take_of_length_le (not_lt.mp hall)] at hdraft
    refine ends_return.mpr ⟨by simp, ?_⟩
    rintro _ ⟨⟩
    exact ⟨⟨_, _, hdraft.store⟩, fun _ => ⟨_, hdraft⟩⟩

/-- A new file is complete and synced, or it has to go. -/
theorem ends_prepareTemp {P : Store → Prop}
    (hP : ∀ data synced, P (s.draft area temp data synced)) (rounds : ℕ) {fd : ℕ}
    (h : Drafting s area fd temp [] false d) (contents : Bytes) :
    Ends diskBehaves (during P) (prepareTemp rounds fd contents mode)
      (fun r d' => (∃ data synced, d'.store = s.draft area temp data synced) ∧
        (r = true → d'.store = s.draft area temp contents true)) d := by
  have hfails : ∀ {d' : Disk}, (∃ data synced, d'.store = s.draft area temp data synced) →
      Ends diskBehaves (during P) (return false : DiskLoopM Bool)
        (fun r d' => (∃ data synced, d'.store = s.draft area temp data synced) ∧
          (r = true → d'.store = s.draft area temp contents true)) d' :=
    fun h => ends_return.mpr ⟨h, by simp⟩
  have hP' : ∀ {d : Disk} {data synced}, Drafting s area fd temp data synced d → P d.store := by
    intro d data synced h
    rw [h.store]
    exact hP data synced
  -- neither the owner nor the mode is part of what is stored
  have hchanges : ∀ {d d' : Disk} {change : DiskFile → DiskFile} {ok : Bool},
      Drafting s area fd temp [] false d →
      (if ok then d.Changes fd change d' else d' = d) →
      (∀ file, (change file).data = file.data) → (∀ file, (change file).synced = file.synced) →
      Drafting s area fd temp [] false d' := by
    intro d d' change ok h hdoes hdata hsynced
    split at hdoes
    · obtain ⟨hstore, hdescriptor⟩ := hdoes.store hdata hsynced
      exact ⟨hstore.trans h.store, ⟨by rw [hdescriptor]; exact h.opened.handle⟩⟩
    · rwa [hdoes]
  unfold prepareTemp
  refine (safe_diskCall (Q := fun _ d' => Drafting s area fd temp [] false d') rfl (hP' h)
    fun r d' hdoes => ?_).bindEnds fun owned d₁ h₁ => ?_
  · exact hchanges h hdoes (fun _ => rfl) fun _ => rfl
  · split
    · refine (safe_diskCall (Q := fun _ d' => Drafting s area fd temp [] false d') rfl (hP' h₁)
        fun r d' hdoes => ?_).bindEnds fun moded d₂ h₂ => ?_
      · exact hchanges h₁ hdoes (fun _ => rfl) fun _ => rfl
      · split
        · refine (ends_helperWriteAll hP rounds h₂ contents).bind ?_
          rintro written d₃ ⟨hdraft, hwritten⟩
          split
          · rename_i hall
            obtain ⟨synced, h₃⟩ := hwritten hall
            refine ends_diskCall rfl (hP' h₃) fun r d₄ hdoes => ?_
            have hdoes : if r then d₃.Changes fd (fun file => { file with synced := true }) d₄
              else d₄ = d₃ := hdoes
            split at hdoes
            · obtain ⟨handle, ctime, hhandle, rfl⟩ := hdoes
              obtain rfl : handle = ⟨s.next, contents.length⟩ :=
                Option.some.inj (hhandle.symm.trans h₃.opened.handle)
              have hstore : (d₃.setFile s.next
                  { d₃.file s.next with synced := true, ctime }).store =
                  s.draft area temp contents true := by
                rw [store_setFile, h₃.store]
                dsimp only
                rw [h₃.data, Store.setData_draft]
              exact ⟨⟨_, _, hstore⟩, fun _ => hstore⟩
            · rename_i hfailed
              obtain rfl := hdoes
              exact ⟨hdraft, fun hdone => absurd hdone hfailed⟩
          · exact hfails hdraft
        · exact hfails ⟨_, _, h₂.store⟩
    · exact hfails ⟨_, _, h₁.store⟩

/-- What `awg_helper_storage_write_staging_candidate` writes. -/
theorem ends_storageWriteStagingCandidate {P : Store → Prop} (hP : P d.store)
    (hdraft : ∀ temp data synced, d.store.entry .staging temp = none → isTempName temp = true →
      P (d.store.draft .staging temp data synced)) (rounds : ℕ) (contents : Bytes) :
    Ends diskBehaves (during P) (storageWriteStagingCandidate rounds contents)
      (fun r d' => (r = .notCreated → d'.store = d.store) ∧
        (∀ temp, r = .incomplete temp → d.store.entry .staging temp = none ∧
          isTempName temp = true ∧
            ∃ data synced, d'.store = d.store.draft .staging temp data synced) ∧
        ∀ temp, r = .complete temp → d.store.entry .staging temp = none ∧
          isTempName temp = true ∧ d'.store = d.store.draft .staging temp contents true) d := by
  unfold storageWriteStagingCandidate
  refine (ends_createTempFile hP rounds tempNameSize).bind fun created d₁ h₁ => ?_
  cases created with
  | none => exact ends_return.mpr ⟨fun _ => h₁.1 rfl, by simp, by simp⟩
  | some file =>
    obtain ⟨fd, temp⟩ := file
    have hcreated := h₁.2 fd temp rfl
    have hP' := fun data synced => hdraft temp data synced hcreated.fresh hcreated.temp
    refine (ends_prepareTemp hP' rounds hcreated.toDrafting contents).bind ?_
    rintro ok d₂ ⟨⟨data, synced, hstore⟩, hok⟩
    have hP₂ : P d₂.store := by
      rw [hstore]
      exact hP' data synced
    refine (safe_close hP₂).bindEnds fun _ d₃ h₃ => ?_
    cases ok with
    | true =>
      refine ends_return.mpr ⟨by simp, by simp, ?_⟩
      rintro _ ⟨⟩
      exact ⟨hcreated.fresh, hcreated.temp, h₃.trans (hok rfl)⟩
    | false =>
      refine ends_return.mpr ⟨by simp, ?_, by simp⟩
      rintro _ ⟨⟩
      exact ⟨hcreated.fresh, hcreated.temp, data, synced, h₃.trans hstore⟩

end NmSidebar
