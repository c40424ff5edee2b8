import NmSidebar.Helper.DiskStorage

/-!
# What a disk stores

The part of a disk that outlives the helper: contents, entries, and what is synced of them. The
specifications of the storage functions speak of this part; owners, modes, times and descriptors
only matter between two system calls.
-/

namespace NmSidebar

open Text Effects

/-- A disk without its descriptors and what `stat` says of its files. -/
@[ext] structure Store where
  data : ℕ → Bytes
  synced : ℕ → Bool
  next : ℕ
  entry : StorageArea → Name → Option ℕ
  earlier : StorageArea → Name → List (Option ℕ)
  scan : List Name
  committed : Bool

/-- The stored part of a disk. -/
def Disk.store (d : Disk) : Store :=
  ⟨fun ino => (d.file ino).data, fun ino => (d.file ino).synced, d.next, d.entry, d.earlier, d.scan,
    d.committed⟩

namespace Store

/-- What an entry stands for. -/
def contentsOf (s : Store) (entry : Option ℕ) : Option Bytes := entry.map s.data

/-- The world that is stored. -/
def world (s : Store) : World :=
  ⟨fun area name => s.contentsOf (s.entry area name), s.scan, s.committed⟩

/-- The store with other contents of one file. -/
def setData (s : Store) (ino : ℕ) (data : Bytes) (synced : Bool) : Store :=
  { s with data := Function.update s.data ino data, synced := Function.update s.synced ino synced }

/-- The store with one entry replaced, which may come back until the directory is synced. -/
def setEntry (s : Store) (area : StorageArea) (name : Name) (entry : Option ℕ) : Store :=
  { s with
    entry := fun a n => if a = area ∧ n = name then entry else s.entry a n
    earlier := fun a n =>
      if a = area ∧ n = name then s.entry a n :: s.earlier a n else s.earlier a n }

/-- The store after a directory was synced. -/
def syncDirectory (s : Store) (area : StorageArea) : Store :=
  { s with earlier := fun a n => if a = area then [] else s.earlier a n }

/-- The store with a new file. -/
def draft (s : Store) (area : StorageArea) (name : Name) (data : Bytes) (synced : Bool) : Store :=
  { (s.setData s.next data synced).setEntry area name (some s.next) with next := s.next + 1 }

/-- The store after a rename within a directory. -/
def renamed (s : Store) (area : StorageArea) (oldName newName : Name) : Store :=
  if s.entry area oldName = s.entry area newName then s
  else (s.setEntry area newName (s.entry area oldName)).setEntry area oldName none

/-- Every inode that an entry names, or may name again, is in use. -/
def Sound (s : Store) : Prop :=
  ∀ area name ino, s.entry area name = some ino ∨ some ino ∈ s.earlier area name → ino < s.next

variable {s : Store} {area : StorageArea} {name : Name} {data : Bytes} {synced : Bool}

@[simp] theorem setData_self (s : Store) (ino : ℕ) :
    s.setData ino (s.data ino) (s.synced ino) = s := by
  simp [setData]

@[simp] theorem setData_draft (data' : Bytes) (synced' : Bool) :
    (s.draft area name data synced).setData s.next data' synced' =
      s.draft area name data' synced' := by
  simp [draft, setData, setEntry]

@[simp] theorem data_draft_next : (s.draft area name data synced).data s.next = data := by
  simp [draft, setData, setEntry]

@[simp] theorem synced_draft_next : (s.draft area name data synced).synced s.next = synced := by
  simp [draft, setData, setEntry]

@[simp] theorem entry_draft_self :
    (s.draft area name data synced).entry area name = some s.next := by
  simp [draft, setEntry]

/-! ## Worlds -/

theorem world_setEntry (entry : Option ℕ) :
    (s.setEntry area name entry).world = s.world.setFile area name (s.contentsOf entry) := by
  simp only [world, World.setFile, World.mk.injEq]
  refine ⟨?_, rfl, rfl⟩
  funext a n
  simp only [setEntry]
  split
  · rfl
  · rfl

@[simp] theorem world_syncDirectory : (s.syncDirectory area).world = s.world := rfl

/-- Contents that no name stands for are not seen. -/
theorem world_setData {ino : ℕ} (h : ∀ area name, s.entry area name ≠ some ino) :
    (s.setData ino data synced).world = s.world := by
  simp only [world, World.mk.injEq]
  refine ⟨?_, rfl, rfl⟩
  funext a n
  show Option.map (Function.update s.data ino data) (s.entry a n) = Option.map s.data (s.entry a n)
  cases hentry : s.entry a n with
  | none => rfl
  | some other =>
    rw [Option.map_some, Option.map_some, Function.update_of_ne]
    rintro rfl
    exact h a n hentry

theorem entry_ne_next (h : s.Sound) (a : StorageArea) (n : Name) : s.entry a n ≠ some s.next :=
  fun hentry => (h a n s.next (.inl hentry)).ne rfl

/-- A new file is seen under its name only. -/
theorem world_draft (h : s.Sound) :
    (s.draft area name data synced).world = s.world.setFile area name (some data) := by
  rw [show (s.draft area name data synced).world =
    ((s.setData s.next data synced).setEntry area name (some s.next)).world from rfl,
    world_setEntry, world_setData (entry_ne_next h)]
  simp [contentsOf, setData]

/-! ## Soundness -/

theorem sound_syncDirectory (h : s.Sound) : (s.syncDirectory area).Sound := by
  intro a n ino hino
  refine h a n ino (hino.imp id fun hmem => ?_)
  simp only [syncDirectory] at hmem
  split at hmem
  · cases hmem
  · exact hmem

theorem sound_setEntry {entry : Option ℕ} (h : s.Sound) (hentry : ∀ ino ∈ entry, ino < s.next) :
    (s.setEntry area name entry).Sound := by
  intro a n ino hino
  simp only [setEntry] at hino
  split at hino
  · rcases hino with rfl | hino
    · exact hentry ino rfl
    · rcases List.mem_cons.mp hino with hino | hino
      · exact h a n ino (.inl hino.symm)
      · exact h a n ino (.inr hino)
  · exact h a n ino hino

theorem sound_draft (h : s.Sound) : (s.draft area name data synced).Sound := by
  have hlater : ({ s.setData s.next data synced with next := s.next + 1 } : Store).Sound :=
    fun a n ino hino => (h a n ino hino).trans (Nat.lt_succ_self _)
  refine sound_setEntry (s := { s.setData s.next data synced with next := s.next + 1 }) hlater ?_
  rintro ino ⟨⟩
  exact Nat.lt_succ_self _

end Store

/-! ## What the changes of a disk store -/

variable {d d' : Disk}

theorem world_store (d : Disk) : d.store.world = d.world := rfl

@[simp] theorem store_setDescriptor (fd : ℕ) (handle : Option DiskDescriptor) :
    (d.setDescriptor fd handle).store = d.store := rfl

@[simp] theorem store_setEntry (area : StorageArea) (name : Name) (entry : Option ℕ) :
    (d.setEntry area name entry).store = d.store.setEntry area name entry := rfl

@[simp] theorem store_syncDirectory (area : StorageArea) :
    (d.syncDirectory area).store = d.store.syncDirectory area := rfl

@[simp] theorem store_setFile (ino : ℕ) (file : DiskFile) :
    (d.setFile ino file).store = d.store.setData ino file.data file.synced := by
  have happly : ∀ {α : Type} (f : DiskFile → α), (fun i => f (Function.update d.file ino file i)) =
      Function.update (fun i => f (d.file i)) ino (f file) := by
    intro α f
    funext i
    rw [Function.apply_update (fun _ => f)]
  simp only [Disk.store, Disk.setFile, Store.setData]
  rw [happly DiskFile.data, happly DiskFile.synced]

@[simp] theorem store_create (area : StorageArea) (name : Name) (file : DiskFile) :
    (d.create area name file).store = d.store.draft area name file.data file.synced := by
  show { (d.setFile d.next file).store.setEntry area name (some d.next) with
    next := d.next + 1 } = _
  rw [store_setFile]
  rfl

@[simp] theorem store_renamed (area : StorageArea) (oldName newName : Name) :
    (d.renamed area oldName newName).store = d.store.renamed area oldName newName := by
  unfold Disk.renamed Store.renamed
  rw [apply_ite Disk.store]
  rfl

theorem Disk.Relinks.store (h : d.Relinks d') : d'.store = d.store := by
  rw [h.disk]
  simp only [Disk.store, Store.mk.injEq, and_true]
  constructor
  · funext ino
    rw [h.file ino]
  · funext ino
    rw [h.file ino]

/-! ## Issue conditions -/

/-- Whether a call is the one that passes an operation on. -/
def DiskCall.isOther : DiskCall → Bool
  | other _ => true
  | _ => false

/-- System calls are made, and only while the store satisfies a condition. -/
def during (P : Store → Prop) : DiskCall → Disk → Prop := fun o d => o.isOther = false ∧ P d.store

theorem safe_diskCall {o : DiskCall} {P : Store → Prop} {Q : o.Reply → Disk → Prop}
    (ho : o.isOther = false) (hP : P d.store) (h : ∀ r d', d.Does o r d' → Q r d') :
    Safe diskBehaves (during P) (diskCall o) Q d :=
  safe_request.mpr ⟨⟨ho, hP⟩, h⟩

theorem ends_diskCall {o : DiskCall} {P : Store → Prop} {Q : o.Reply → Disk → Prop}
    (ho : o.isOther = false) (hP : P d.store) (h : ∀ r d', d.Does o r d' → Q r d') :
    Ends diskBehaves (during P) (liftM (diskCall o) : DiskLoopM o.Reply) Q d :=
  ends_lift.mpr (safe_diskCall ho hP h)

end NmSidebar
