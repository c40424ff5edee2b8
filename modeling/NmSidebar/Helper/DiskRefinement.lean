import NmSidebar.Helper.Durability
import NmSidebar.Program.Refinement

/-!
# The helper on the disk

A program of the helper whose storage operations are replaced by the storage functions behaves, at
every system call, as the program over the operations does. What has been shown of the helper's
operations therefore holds when the helper is stopped between any two system calls.
-/

namespace NmSidebar

open Text Effects

/-! ## The two levels -/

/-- The call that passes an operation on is the operation. -/
inductive SameCall : Event diskSig Disk → Event helperSig World → Prop
  | mk (o : HelperCall) (d : Disk) (r : o.Reply) (d' : Disk) :
      SameCall ⟨.other o, d, r, d'⟩ ⟨o, d.world, r, d'.world⟩

/-- An event without the ledger. -/
def withoutLedger (e : Event helperSig (World × Durability)) : HelperEvent :=
  ⟨e.op, e.before.1, e.reply, e.after.1⟩

/-- The system calls below the operations of the helper, with the ledger of what survives a loss of
power. -/
def storageLevels : Levels diskSig helperSig Disk (World × Durability) where
  low := diskBehaves
  high := behaves.monitor Durability.after
  related d s := d.store.Sound ∧ s.1 = d.world ∧ Durable d.store s.2
  shown := DiskCall.isOther
  direct o := !o.isStorage
  same e e' := SameCall e (withoutLedger e')

variable {d d' : Disk} {area : StorageArea} {name tempName configName : Name} {o : HelperCall}
  {l : Durability}

/-- What takes the place of an operation simulates it. -/
def StandsFor (rounds : ℕ) (d : Disk) (o : HelperCall) : Prop :=
  ∀ l, Durable d.store l →
    storageLevels.Simulates (storageProgram rounds o) (ask o) d (d.world, l)

/-- A storage function stands for its operation if, wherever it is stopped, the world is the one
before or one that the operation may leave. -/
theorem simulates_of_during {P : Store → Prop} {p : DiskLoopM o.Reply} (ho : o.isStorage = true)
    (hP : ∀ s, P s → s.Sound ∧ ((s.world = d.world ∧ Durable s l) ∨
      ∃ r, behaves o d.world r s.world ∧ Durable s (l.after ⟨o, d.world, r, s.world⟩)))
    (h : Ends diskBehaves (during P) p (fun r d' => d'.store.Sound ∧
      behaves o d.world r d'.world ∧ Durable d'.store (l.after ⟨o, d.world, r, d'.world⟩)) d) :
    storageLevels.Simulates p (ask o) d (d.world, l) := by
  refine Levels.simulates_of_ends (by simp [storageLevels, ho]) ?_
  refine Safe.weaken (h.mono fun r d' hr => ⟨(d'.world, _), ⟨hr.2.1, rfl⟩, hr.1, rfl, hr.2.2⟩)
    fun o' d' hduring => ?_
  obtain ⟨hsound, hworld⟩ := hP _ hduring.2
  refine ⟨hduring.1, ?_⟩
  rcases hworld with ⟨hworld, hl⟩ | ⟨r, hr, hl⟩
  · exact .inl ⟨hsound, hworld.symm, hl⟩
  · exact .inr ⟨r, (d'.world, _), ⟨hr, rfl⟩, hsound, rfl, hl⟩

/-- A storage function that leaves the store alone until it returns stands for its operation. -/
theorem simulates_of_unchanged {p : DiskLoopM o.Reply} (ho : o.isStorage = true)
    (hsound : d.store.Sound) (hl : Durable d.store l)
    (h : Ends diskBehaves (during (· = d.store)) p (fun r d' => d'.store.Sound ∧
      behaves o d.world r d'.world ∧ Durable d'.store (l.after ⟨o, d.world, r, d'.world⟩)) d) :
    storageLevels.Simulates p (ask o) d (d.world, l) := by
  refine simulates_of_during ho (fun s hs => ?_) h
  rw [hs]
  exact ⟨hsound, .inl ⟨rfl, hl⟩⟩

/-- The other operations are passed on. -/
theorem storageProgram_other (rounds : ℕ) (ho : o.isStorage = false) :
    storageProgram rounds o = liftM (diskCall (.other o)) := by
  cases o <;> first | rfl | cases ho

/-- The ledger does not speak of the other operations. -/
theorem after_other (ho : o.isStorage = false) (w : World) (r : o.Reply) (w' : World) :
    l.after ⟨o, w, r, w'⟩ = l := by
  cases o <;> first | rfl | cases ho

/-- Scans and the commit are no part of what the ledger speaks of. -/
theorem durable_congr {s s' : Store} (h : Durable s l) (hdata : s'.data = s.data)
    (hsynced : s'.synced = s.synced) (hentry : s'.entry = s.entry)
    (hearlier : s'.earlier = s.earlier) : Durable s' l := by
  obtain ⟨data, synced, next, entry, earlier, scan, committed⟩ := s
  obtain ⟨data', synced', next', entry', earlier', scan', committed'⟩ := s'
  obtain rfl : data' = data := hdata
  obtain rfl : synced' = synced := hsynced
  obtain rfl : entry' = entry := hentry
  obtain rfl : earlier' = earlier := hearlier
  exact ⟨h.past, h.complete⟩

theorem simulates_other (ho : o.isStorage = false) (hsound : d.store.Sound)
    (hl : Durable d.store l) :
    storageLevels.Simulates (liftM (diskCall (.other o)) : DiskLoopM o.Reply) (ask o) d
      (d.world, l) := by
  intro tr q d' hs _
  have hs : Steps diskBehaves (Prog.call (.other o) fun r => Prog.pure (some r)) d tr q d' := hs
  cases hs with
  | here =>
    exact ⟨[], _, (d.world, l), .here _ _, ⟨hsound, rfl, hl⟩, .nil, fun a ha => by cases ha⟩
  | @step _ _ _ _ _ r _ _ hb hs =>
    obtain ⟨rfl, rfl, rfl⟩ := Steps.of_pure hs
    have hsound' : d'.store.Sound := by
      rw [hb.2]
      exact hsound
    have hl' : Durable d'.store l := by
      rw [hb.2]
      exact durable_congr hl rfl rfl rfl rfl
    have hstep : storageLevels.high o (d.world, l) r (d'.world, l) :=
      ⟨hb.1, (after_other ho _ _ _).symm⟩
    refine ⟨_, _, (d'.world, l), .step hstep (.here _ _), ⟨hsound', rfl, hl'⟩, ?_, fun a ha => ?_⟩
    · simp only [Levels.Mirrored, storageLevels, DiskCall.isOther, ho, List.filter_cons,
        List.filter_nil]
      exact .cons (.mk o d r d') .nil
    · cases ha
      rfl

/-! ## Functions that look -/

theorem isSome_files : (d.world.files area name).isSome = (d.entry area name).isSome :=
  Option.isSome_map

theorem files_of_none (h : d.entry area name = none) : d.world.files area name = none :=
  Store.files_of_missing (s := d.store) h

theorem world_of_store (h : d'.store = d.store) : d'.world = d.world := by
  rw [← world_store, ← world_store, h]

theorem durable_of_store (hl : Durable d.store l) (h : d'.store = d.store) :
    Durable d'.store l := by
  rwa [h]

/-- The operations that only look at one file. -/
theorem simulates_looks (rounds : ℕ) (hsound : d.store.Sound) :
    (∀ area name mode, StandsFor rounds d (.secureFileState area name mode)) ∧
    (∀ name, StandsFor rounds d (.configSecurityState name)) ∧
    (∀ area name mode size, StandsFor rounds d (.readSecureFile area name mode size)) ∧
    (∀ name, StandsFor rounds d (.readConfig name)) ∧
    ∀ name, StandsFor rounds d (.readRuntimeMarker name) := by
  refine ⟨fun area name mode l hl => ?_, fun name l hl => ?_, fun area name mode size l hl => ?_,
    fun name l hl => ?_, fun name l hl => ?_⟩
  · refine simulates_of_unchanged rfl hsound hl (ends_lift.mpr
      ((safe_secureFileStateAt (P := (· = d.store)) rfl).mono fun r d' h => ?_))
    refine ⟨by rwa [h.1], ⟨fun hr => files_of_none (h.2.1 hr), fun hr => ?_, world_of_store h.1⟩,
      durable_of_store hl h.1⟩
    rw [isSome_files]
    exact h.2.2 hr
  · refine simulates_of_unchanged rfl hsound hl (ends_lift.mpr
      ((safe_storageConfigSecurityState (P := (· = d.store)) rfl).mono fun r d' h => ?_))
    refine ⟨by rwa [h.1], ⟨fun hr => files_of_none (h.2.1 hr), fun hr => ?_, world_of_store h.1⟩,
      durable_of_store hl h.1⟩
    rw [isSome_files]
    exact h.2.2 hr
  · refine simulates_of_unchanged rfl hsound hl
      ((ends_readSecureFileAt (P := (· = d.store)) rfl rounds size).mono fun r d' h => ?_)
    exact ⟨by rwa [h.1], ⟨h.2, world_of_store h.1⟩, durable_of_store hl h.1⟩
  · refine simulates_of_unchanged rfl hsound hl
      ((ends_storageReadConfig (P := (· = d.store)) rfl rounds).mono fun r d' h => ?_)
    refine ⟨by rwa [h.1], ⟨fun failure hr => ?_, h.2.2, world_of_store h.1⟩,
      durable_of_store hl h.1⟩
    obtain ⟨hsuccess, hmissing⟩ := h.2.1 failure hr
    exact ⟨hsuccess, fun hr => files_of_none (hmissing hr)⟩
  · refine simulates_of_unchanged rfl hsound hl
      ((ends_storageReadRuntimeMarker (P := (· = d.store)) rfl rounds).mono fun r d' h => ?_)
    refine ⟨by rwa [h.1], ⟨world_of_store h.1, ?_⟩, durable_of_store hl h.1⟩
    cases r with
    | missing => exact files_of_none (h.2.1 rfl)
    | invalid => trivial
    | valid read => exact h.2.2 read rfl

/-- The operations that compare an identity. -/
theorem simulates_identities (rounds : ℕ) (hsound : d.store.Sound) :
    (∀ name, StandsFor rounds d (.getConfigIdentity name)) ∧
    (∀ name identity, StandsFor rounds d (.configMatchesIdentity name identity)) ∧
    ∀ name identity, StandsFor rounds d (.displacedMatchesIdentity name identity) := by
  have hsame : ∀ {α : Type} {l : Durability} (_ : Durable d.store l) {p : DiskM α},
      Safe diskBehaves (during (· = d.store)) p (fun _ d' => d' = d) d →
      Ends diskBehaves (during (· = d.store)) (liftM p : DiskLoopM α)
        (fun _ d' => d'.store.Sound ∧ d'.world = d.world ∧ Durable d'.store l) d := by
    intro α l hl p h
    refine ends_lift.mpr (h.mono ?_)
    rintro _ _ rfl
    exact ⟨hsound, rfl, hl⟩
  refine ⟨fun name l hl => ?_, fun name identity l hl => ?_, fun name identity l hl => ?_⟩
  · exact simulates_of_unchanged rfl hsound hl
      (hsame hl (safe_identities (P := (· = d.store)) rfl ⟨0, 0, 0, 0, 0, 0, 0, 0, 0⟩).1)
  · exact simulates_of_unchanged rfl hsound hl
      (hsame hl (safe_identities (P := (· = d.store)) rfl identity).2.1)
  · exact simulates_of_unchanged rfl hsound hl
      (hsame hl (safe_identities (P := (· = d.store)) rfl identity).2.2)

/-! ## Scans -/

/-- The operations of a scan. -/
theorem simulates_scan (rounds : ℕ) (hsound : d.store.Sound) :
    (∀ area, StandsFor rounds d (.iteratorNew area)) ∧
    StandsFor rounds d .iteratorNext ∧
    StandsFor rounds d .iteratorFree := by
  refine ⟨fun area l hl => ?_, fun l hl => ?_, fun l hl => ?_⟩
  · refine simulates_of_unchanged rfl hsound hl (ends_lift.mpr ?_)
    unfold storageIteratorNew
    refine Safe.bind (safe_diskCall (Q := fun _ d' => d' = d) rfl rfl fun _ _ h => h) ?_
    rintro scanned d rfl
    split
    · refine Safe.bind (safe_diskCall (Q := fun r d' => d'.store.Sound ∧
        (r = true → ∀ name, (d.world.files area name).isSome → name ∈ d'.world.scan) ∧
        d'.world = { d.world with scan := d'.world.scan } ∧ Durable d'.store l ∧
        (r = false → d' = d)) rfl rfl
        fun r d' h => ?_) fun opened d₁ h₁ => ?_
      · cases r with
        | false =>
          obtain rfl : d' = d := h
          exact ⟨hsound, by simp, rfl, hl, fun _ => rfl⟩
        | true =>
          have h : (∀ name, (d.entry area name).isSome → name ∈ d'.scan) ∧
            d' = { d with scan := d'.scan } := h
          refine ⟨by rw [h.2]; exact hsound, fun _ name hname => ?_, by rw [h.2]; rfl,
            by rw [h.2]; exact durable_congr hl rfl rfl rfl rfl, by simp⟩
          rw [isSome_files] at hname
          exact h.1 name hname
      · obtain ⟨hsound₁, hscan, hworld, hl₁, hsame⟩ := h₁
        cases opened with
        | true => exact ⟨hsound₁, ⟨hscan, hworld⟩, hl₁⟩
        | false =>
          obtain rfl := hsame rfl
          refine Safe.bind (safe_diskCall (Q := fun _ d' => d' = d₁) rfl rfl fun _ _ h => h) ?_
          rintro _ d rfl
          exact ⟨hsound, ⟨by simp, rfl⟩, hl⟩
    · exact ⟨hsound, ⟨by simp, rfl⟩, hl⟩
  · refine simulates_of_unchanged rfl hsound hl (ends_diskCall rfl rfl fun r d' h => ?_)
    cases r with
    | entry name =>
      obtain ⟨hscan, h⟩ := h
      exact ⟨by rw [h]; exact hsound, ⟨hscan, by rw [h]; rfl⟩,
        by rw [h]; exact durable_congr hl rfl rfl rfl rfl⟩
    | done =>
      obtain ⟨hscan, rfl⟩ := h
      exact ⟨hsound, ⟨hscan, rfl⟩, hl⟩
    | failed =>
      obtain rfl : d' = d := h
      exact ⟨hsound, rfl, hl⟩
  · refine simulates_of_unchanged rfl hsound hl (ends_diskCall rfl rfl fun r d' h => ?_)
    obtain rfl : d' = d := h
    exact ⟨hsound, rfl, hl⟩

/-! ## Changes of directories -/

theorem Store.Removed.sound {s s' : Store} {r : Bool} (h : s.Removed area name r s')
    (hsound : s.Sound) : s'.Sound := by
  have hremoved : (s.setEntry area name none).Sound := sound_setEntry hsound (by simp)
  cases h with
  | kept => exact hsound
  | missing => exact sound_syncDirectory hsound
  | unsynced => exact hremoved
  | removed => exact sound_syncDirectory hremoved

/-- What the ledger says after a removal. -/
theorem Store.Removed.durable {s s' : Store} {r : Bool} (h : s.Removed area name r s')
    (hl : Durable s l) : Durable s' (l.after ⟨.removeAndSync area name, s.world, r, s'.world⟩) := by
  cases area with
  | config =>
    have hset : Durable (s.setEntry .config name none) (l.push name (s.world.files .config name)) :=
      hl.setEntry name (by simp)
    cases h with
    | kept => exact hl.weaken name _
    | missing => exact hl.synced
    | unsynced => exact hset
    | removed =>
      have hsynced := hset.synced
      rwa [Durability.synced_push] at hsynced
  | staging =>
    cases h with
    | kept => exact hl
    | missing => exact hl.syncDirectory _
    | unsynced => exact hl.unlinkStaging name
    | removed => exact (hl.unlinkStaging name).syncDirectory _
  | runtime | runtimeConfigs =>
    cases h with
    | kept => exact hl
    | missing => exact hl.syncDirectory _
    | unsynced => exact hl.setElsewhere (by simp) (by simp)
    | removed => exact (hl.setElsewhere (by simp) (by simp)).syncDirectory _

/-- The operations that remove a file. -/
theorem simulates_removals (rounds : ℕ) (hsound : d.store.Sound) :
    (∀ area name, StandsFor rounds d (.removeAndSync area name)) ∧
    ∀ name, StandsFor rounds d (.unlinkStaging name) := by
  refine ⟨fun area name l hl => ?_, fun name l hl => ?_⟩
  · have hP : ∀ s, d.store.Removed area name false s → s.Sound ∧
        ((s.world = d.world ∧ Durable s l) ∨
          ∃ r, behaves (.removeAndSync area name) d.world r s.world ∧
            Durable s (l.after ⟨.removeAndSync area name, d.world, r, s.world⟩)) :=
      -- stopped before its end, the removal is one that failed
      fun s hs => ⟨hs.sound hsound, .inr ⟨false, hs.removal, hs.durable hl⟩⟩
    refine simulates_of_during rfl hP (ends_lift.mpr
      ((safe_removeEntryAndSyncAt rfl .kept fun h => .unsynced h).mono fun r d' h => ?_))
    exact ⟨h.sound hsound, h.removal, h.durable hl⟩
  · refine simulates_of_unchanged rfl hsound hl (ends_lift.mpr ?_)
    unfold storageUnlinkStaging
    refine (safe_unlinkat (P := (· = d.store)) rfl).bind ?_
    rintro r d₁ ⟨hok, herror⟩
    cases r with
    | ok u =>
      obtain ⟨-, hstore⟩ := hok u rfl
      refine ⟨by rw [hstore]; exact Store.sound_setEntry hsound (by simp), .inl ⟨rfl, ?_⟩,
        by rw [hstore]; exact hl.unlinkStaging name⟩
      rw [← world_store d₁, hstore, Store.world_setEntry]
      rfl
    | error failure =>
      obtain ⟨hstore, -⟩ := herror failure rfl
      exact ⟨by rwa [hstore], .inr ⟨rfl, world_of_store hstore⟩, durable_of_store hl hstore⟩

/-- The operations that move a staged file. -/
theorem simulates_renames (rounds : ℕ) (hsound : d.store.Sound) :
    (∀ tempName configName, StandsFor rounds d (.renameStagingNoreplace tempName configName)) ∧
    ∀ tempName configName, StandsFor rounds d (.exchangeStagingConfig tempName configName) := by
  have hbound : ∀ {area name ino}, d.entry area name = some ino → ino < d.store.next :=
    fun h => hsound _ _ _ (.inl h)
  refine ⟨fun tempName configName l hl => ?_, fun tempName configName l hl => ?_⟩
  · refine simulates_of_unchanged rfl hsound hl (ends_diskCall rfl rfl fun r d' h => ?_)
    cases r with
    | renamed =>
      obtain ⟨hstaged, hfree, hrelinks⟩ := h
      obtain ⟨ino, hino⟩ := Option.isSome_iff_exists.mp hstaged
      have hfile := files_of_entry hino
      have hstore := hrelinks.store
      rw [store_setEntry, store_setEntry, hino] at hstore
      refine ⟨?_, ?_, ?_⟩
      · rw [hstore]
        refine Store.sound_setEntry (Store.sound_setEntry hsound ?_) (by simp)
        rintro ino' ⟨⟩
        exact hbound hino
      · rw [← world_store d', hstore, Store.world_setEntry, Store.world_setEntry,
          setFile_comm _ _ _ (.inl (by simp))]
        exact .renamed _ hfile (files_of_none hfree)
      · rw [hstore]
        exact (hl.move configName hino).unlinkStaging tempName
    | targetExists =>
      obtain ⟨htarget, rfl⟩ := h
      refine ⟨hsound, .targetExists ?_, hl⟩
      rwa [isSome_files]
    | failed =>
      obtain rfl : d' = d := h
      exact ⟨hsound, .failed, hl⟩
  · refine simulates_of_unchanged rfl hsound hl (ends_diskCall rfl rfl fun r d' h => ?_)
    cases r with
    | true =>
      obtain ⟨hstaged, hsaved, hrelinks⟩ := h
      obtain ⟨ino, hino⟩ := Option.isSome_iff_exists.mp hstaged
      obtain ⟨saved, hino'⟩ := Option.isSome_iff_exists.mp hsaved
      have hfile := files_of_entry hino
      have hfile' := files_of_entry hino'
      have hstore := hrelinks.store
      rw [store_setEntry, store_setEntry, hino, hino'] at hstore
      refine ⟨?_, ?_, ?_⟩
      · rw [hstore]
        refine Store.sound_setEntry (Store.sound_setEntry hsound ?_) ?_
        · rintro ino' ⟨⟩
          exact hbound hino
        · rintro ino' ⟨⟩
          exact hbound hino'
      · rw [← world_store d', hstore, Store.world_setEntry, Store.world_setEntry,
          setFile_comm _ _ _ (.inl (by simp))]
        exact .exchanged _ _ hfile hfile'
      · rw [hstore]
        refine (hl.move configName hino).setStaging ?_
        rintro ino' ⟨⟩ hknown
        obtain ⟨list, hlist⟩ := Option.isSome_iff_exists.mp hknown
        exact (hl.past configName list hlist _ (.inl hino'.symm)).2 _ rfl
    | false =>
      obtain rfl : d' = d := h
      exact ⟨hsound, .failed, hl⟩

/-- The operations that sync a directory. -/
theorem simulates_syncs (rounds : ℕ) (hsound : d.store.Sound) :
    StandsFor rounds d .syncConfigAndStaging ∧ StandsFor rounds d .syncStaging := by
  refine ⟨fun l hl => ?_, fun l hl => ?_⟩
  · have hP : ∀ s, (s = d.store ∨ s = d.store.syncDirectory .config) →
        s.Sound ∧ ((s.world = d.world ∧ Durable s l) ∨
          ∃ r, behaves .syncConfigAndStaging d.world r s.world ∧
            Durable s (l.after ⟨.syncConfigAndStaging, d.world, r, s.world⟩)) := by
      rintro s (rfl | rfl)
      · exact ⟨hsound, .inl ⟨rfl, hl⟩⟩
      · exact ⟨Store.sound_syncDirectory hsound, .inl ⟨rfl, hl.syncDirectory _⟩⟩
    refine simulates_of_during rfl hP (ends_lift.mpr ?_)
    unfold storageSyncConfigAndStaging
    refine (safe_fsyncDirectory (P := fun s => s = d.store ∨ s = d.store.syncDirectory .config)
      (.inl rfl)).bind fun first d₁ h₁ => ?_
    -- only the first directory has the profiles
    cases first with
    | false =>
      have h₁ : d₁.store = d.store := h₁
      exact ⟨by rwa [h₁], world_of_store h₁, durable_of_store hl h₁⟩
    | true =>
      have h₁ : d₁.store = d.store.syncDirectory .config := h₁
      refine (safe_fsyncDirectory (P := fun s => s = d.store ∨ s = d.store.syncDirectory .config)
        (.inr h₁)).mono fun second d₂ h₂ => ?_
      rw [h₁] at h₂
      have hsynced : (d.store.syncDirectory .config).Sound := Store.sound_syncDirectory hsound
      cases second with
      | false =>
        have h₂ : d₂.store = d.store.syncDirectory .config := h₂
        refine ⟨by rwa [h₂], ?_, by rw [h₂]; exact hl.syncDirectory _⟩
        show d₂.world = d.world
        rw [← world_store, h₂]
        rfl
      | true =>
        have h₂ : d₂.store = (d.store.syncDirectory .config).syncDirectory .staging := h₂
        refine ⟨by rw [h₂]; exact Store.sound_syncDirectory hsynced, ?_,
          by rw [h₂]; exact hl.synced.syncDirectory _⟩
        show d₂.world = d.world
        rw [← world_store, h₂]
        rfl
  · refine simulates_of_unchanged rfl hsound hl (ends_lift.mpr
      ((safe_fsyncDirectory (P := (· = d.store)) rfl).mono fun r d' h => ?_))
    cases r with
    | false =>
      have h : d'.store = d.store := h
      exact ⟨by rwa [h], world_of_store h, durable_of_store hl h⟩
    | true =>
      have h : d'.store = d.store.syncDirectory .staging := h
      refine ⟨by rw [h]; exact Store.sound_syncDirectory hsound, ?_,
        by rw [h]; exact hl.syncDirectory _⟩
      show d'.world = d.world
      rw [← world_store, h]
      rfl

/-! ## Writes -/

/-- The operation that writes a candidate. -/
theorem simulates_writeStagingCandidate (rounds : ℕ) (hsound : d.store.Sound) (contents : Bytes) :
    StandsFor rounds d (.writeStagingCandidate contents) := by
  intro l hl
  have hdraft : ∀ temp data synced, d.store.entry .staging temp = none →
      (d.store.draft .staging temp data synced).world =
        d.world.setFile .staging temp (some data) :=
    fun temp data synced _ => Store.world_draft hsound
  have hP : ∀ s, (s = d.store ∨ ∃ temp data synced, d.store.entry .staging temp = none ∧
        isTempName temp = true ∧ s = d.store.draft .staging temp data synced) →
      s.Sound ∧ ((s.world = d.world ∧ Durable s l) ∨
        ∃ r, behaves (.writeStagingCandidate contents) d.world r s.world ∧
          Durable s (l.after ⟨.writeStagingCandidate contents, d.world, r, s.world⟩)) := by
    rintro s (rfl | ⟨temp, data, synced, hfresh, htemp, rfl⟩)
    · exact ⟨hsound, .inl ⟨rfl, hl⟩⟩
    -- a candidate that is under way is an incomplete one
    · refine ⟨Store.sound_draft hsound, .inr ⟨.incomplete temp, ?_, hl.draft hsound data (by simp)⟩⟩
      rw [hdraft temp data synced hfresh]
      exact .incomplete temp data htemp (files_of_none hfresh)
  refine simulates_of_during rfl hP ((ends_storageWriteStagingCandidate (.inl rfl)
    (fun temp data synced hfresh htemp => .inr ⟨temp, data, synced, hfresh, htemp, rfl⟩) rounds
    contents).mono fun r d' h => ?_)
  obtain ⟨hnone, hincomplete, hcomplete⟩ := h
  cases r with
  | notCreated =>
    have hstore := hnone rfl
    refine ⟨by rwa [hstore], ?_, durable_of_store hl hstore⟩
    rw [world_of_store hstore]
    exact .notCreated
  | incomplete temp =>
    obtain ⟨hfresh, htemp, data, synced, hstore⟩ := hincomplete temp rfl
    refine ⟨by rw [hstore]; exact Store.sound_draft hsound, ?_,
      by rw [hstore]; exact hl.draft hsound data (by simp)⟩
    rw [← world_store d', hstore, hdraft temp data synced hfresh]
    exact .incomplete temp data htemp (files_of_none hfresh)
  | complete temp =>
    obtain ⟨hfresh, htemp, hstore⟩ := hcomplete temp rfl
    refine ⟨by rw [hstore]; exact Store.sound_draft hsound, ?_,
      by rw [hstore]; exact hl.draft hsound contents (by simp)⟩
    rw [← world_store d', hstore, hdraft temp contents true hfresh]
    exact .complete temp htemp (files_of_none hfresh)

/-- The operations that write a file in place of another. -/
theorem simulates_atomicWrites (rounds : ℕ) (hsound : d.store.Sound) :
    (∀ area target contents mode, StandsFor rounds d (.atomicWrite area target contents mode)) ∧
    ∀ name marker, StandsFor rounds d (.writeRuntimeMarker name marker) := by
  refine ⟨fun area target contents mode l hl => ?_, fun name marker l hl => ?_⟩
  · have hP : ∀ s, d.store.WriteFailed area target contents s →
        s.Sound ∧ ((s.world = d.world ∧ Durable s l) ∨
          ∃ r, behaves (.atomicWrite area target contents mode) d.world r s.world ∧
            Durable s (l.after ⟨.atomicWrite area target contents mode, d.world, r, s.world⟩)) :=
      fun s hs => ⟨hs.elsewhere.sound, .inr ⟨false, hs.world, hl.of_elsewhere hsound hs.elsewhere⟩⟩
    refine simulates_of_during rfl hP ((ends_atomicWriteAt hsound rounds).mono fun r d' h => ?_)
    exact ⟨h.1.sound, h.2, hl.of_elsewhere hsound h.1⟩
  · show storageLevels.Simulates (storageWriteRuntimeMarker rounds name marker)
      (ask (.writeRuntimeMarker name marker)) d (d.world, l)
    unfold storageWriteRuntimeMarker
    cases hcontents : runtimeMarkerSerialize marker with
    | none =>
      refine simulates_of_unchanged (o := .writeRuntimeMarker name marker) rfl hsound hl
        (ends_return.mpr ⟨hsound, ?_, hl⟩)
      simp [behaves, HelperCall.Outcome, hcontents]
    | some contents =>
      have hwrite : ∀ {r : Bool} {w' : World}, AtomicWrite d.world .runtime name contents r w' →
          behaves (.writeRuntimeMarker name marker) d.world r w' := by
        intro r w' h
        simp only [behaves, HelperCall.Outcome, hcontents]
        exact h
      -- the ledger does not speak of the runtime directory
      have hsame : l.apart .runtime = l := rfl
      have hkept : ∀ {s : Store}, d.store.Elsewhere .runtime s → Durable s l := by
        intro s hs
        have hdurable := hl.of_elsewhere hsound hs
        rwa [hsame] at hdurable
      have hP : ∀ s, d.store.WriteFailed .runtime name contents s →
          s.Sound ∧ ((s.world = d.world ∧ Durable s l) ∨
            ∃ r, behaves (.writeRuntimeMarker name marker) d.world r s.world ∧
              Durable s (l.after ⟨.writeRuntimeMarker name marker, d.world, r, s.world⟩)) :=
        fun s hs => ⟨hs.elsewhere.sound, .inr ⟨false, hwrite hs.world, hkept hs.elsewhere⟩⟩
      refine simulates_of_during rfl hP ((ends_atomicWriteAt hsound rounds).mono fun r d' h => ?_)
      exact ⟨h.1.sound, hwrite h.2, hkept h.1⟩

/-! ## The refinement -/

/-- Every operation is simulated by what takes its place. -/
theorem simulates_storageProgram (rounds : ℕ) (o : HelperCall) (hsound : d.store.Sound) :
    StandsFor rounds d o := by
  cases ho : o.isStorage with
  | false =>
    intro l hl
    rw [storageProgram_other rounds ho]
    exact simulates_other ho hsound hl
  | true =>
    have hlooks := simulates_looks rounds hsound
    have hidentities := simulates_identities rounds hsound
    have hscan := simulates_scan rounds hsound
    cases o with
    | secureFileState area name mode => exact hlooks.1 area name mode
    | configSecurityState name => exact hlooks.2.1 name
    | readSecureFile area name mode size => exact hlooks.2.2.1 area name mode size
    | readConfig name => exact hlooks.2.2.2.1 name
    | readRuntimeMarker name => exact hlooks.2.2.2.2 name
    | getConfigIdentity name => exact hidentities.1 name
    | configMatchesIdentity name identity => exact hidentities.2.1 name identity
    | displacedMatchesIdentity name identity => exact hidentities.2.2 name identity
    | iteratorNew area => exact hscan.1 area
    | iteratorNext => exact hscan.2.1
    | iteratorFree => exact hscan.2.2
    | removeAndSync area name => exact (simulates_removals rounds hsound).1 area name
    | unlinkStaging name => exact (simulates_removals rounds hsound).2 name
    | renameStagingNoreplace temp name => exact (simulates_renames rounds hsound).1 temp name
    | exchangeStagingConfig temp name => exact (simulates_renames rounds hsound).2 temp name
    | syncConfigAndStaging => exact (simulates_syncs rounds hsound).1
    | syncStaging => exact (simulates_syncs rounds hsound).2
    | writeStagingCandidate contents =>
      exact simulates_writeStagingCandidate rounds hsound contents
    | atomicWrite area target contents mode =>
      exact (simulates_atomicWrites rounds hsound).1 area target contents mode
    | writeRuntimeMarker name marker => exact (simulates_atomicWrites rounds hsound).2 name marker
    | _ => cases ho

/-- Every run over the system calls is one over the operations, and the ledger of that run is right
about what is stored. -/
theorem storage_simulates {α : Type} (rounds : ℕ) (p : HelperM α)
    {tr : List (Event diskSig Disk)} {q : DiskM (Option α)} (hsound : d.store.Sound)
    (hl : Durable d.store l)
    (hs : Steps diskBehaves (p.implement (storageProgram rounds)).run d tr q d')
    (hq : q ≠ .pure none) :
    ∃ (tr' : List HelperEvent) (q' : HelperM α),
      Steps behaves p d.world tr' q' d'.world ∧ d'.store.Sound ∧
      Durable d'.store (tr'.foldl Durability.after l) ∧
      List.Forall₂ SameCall (tr.filter (·.op.isOther)) (tr'.filter (!·.op.isStorage)) ∧
      ∀ a, q = .pure (some a) → q' = .pure a := by
  have hsimulates : storageLevels.Simulates (p.implement (storageProgram rounds)) p d
      (d.world, l) := by
    refine Levels.simulates_implement (fun o v s h => ?_) ⟨hsound, rfl, hl⟩
    obtain ⟨w, l⟩ := s
    obtain ⟨hsound, rfl, hl⟩ := h
    exact simulates_storageProgram rounds o hsound l hl
  obtain ⟨tr', q', ⟨w', l'⟩, hs', ⟨hsound', rfl, hl'⟩, hmirrored, hreturn⟩ :=
    hsimulates tr q d' hs hq
  obtain ⟨tr'', hs'', rfl, htr⟩ := hs'.unmonitor
  refine ⟨tr'', q', hs'', hsound', hl', ?_, hreturn⟩
  have htr : tr'' = tr'.map withoutLedger := htr
  rw [htr, List.filter_map, List.forall₂_map_right_iff]
  exact hmirrored

/-- Every run of a program of the helper over the system calls, wherever it is stopped, is a run of
the program over the operations: the world is the same, the operations that are not of the storage
are the same and found and left the same worlds, and so is the result. A run that has used up its
rounds has not been stopped; it goes on. -/
theorem storage_refines {α : Type} (rounds : ℕ) (p : HelperM α)
    {tr : List (Event diskSig Disk)} {q : DiskM (Option α)} (hsound : d.store.Sound)
    (hs : Steps diskBehaves (p.implement (storageProgram rounds)).run d tr q d')
    (hq : q ≠ .pure none) :
    ∃ (tr' : List HelperEvent) (q' : HelperM α),
      Steps behaves p d.world tr' q' d'.world ∧ d'.store.Sound ∧
      List.Forall₂ SameCall (tr.filter (·.op.isOther)) (tr'.filter (!·.op.isStorage)) ∧
      ∀ a, q = .pure (some a) → q' = .pure a := by
  obtain ⟨tr', q', hs', hsound', -, hsame, hreturn⟩ :=
    storage_simulates rounds p hsound (.unknown d.store) hs hq
  exact ⟨tr', q', hs', hsound', hsame, hreturn⟩

/-- A disk with one staged file. -/
def stagedDisk : Disk where
  file _ := ⟨0, 0o100600, 0, 0, 1, 0, 0, ascii "k", true⟩
  next := 1
  entry area name := if area = .staging ∧ name = ascii "n" then some 0 else none
  earlier _ _ := []
  descriptor _ := none
  scan := []
  committed := false

/-- The disk where the staged file has just been removed. -/
def unlinkedDisk : Disk := stagedDisk.setEntry .staging (ascii "n") none

theorem sound_stagedDisk : stagedDisk.store.Sound := by
  intro area name ino h
  simp only [stagedDisk, Disk.store, List.not_mem_nil, or_false] at h
  split at h
  · cases h
    exact Nat.one_pos
  · cases h

/-- The removal is stopped before the directory is synced. -/
theorem storage_refines_sample :
    ∃ (tr' : List HelperEvent) (q' : HelperM Bool),
      Steps behaves (ask (.removeAndSync .staging (ascii "n"))) stagedDisk.world tr' q'
        unlinkedDisk.world ∧ unlinkedDisk.store.Sound := by
  have hunlink : diskBehaves (.unlinkat .staging (ascii "n")) stagedDisk (.ok ()) unlinkedDisk :=
    ⟨by decide, ⟨rfl, fun _ => rfl⟩⟩
  obtain ⟨tr', q', hs, hsound, -⟩ := storage_refines 0
    (ask (.removeAndSync .staging (ascii "n"))) sound_stagedDisk (.step hunlink (.here _ _))
    (fun h => by cases h)
  exact ⟨tr', q', hs, hsound⟩

end NmSidebar
