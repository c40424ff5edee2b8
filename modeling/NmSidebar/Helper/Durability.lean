import NmSidebar.Helper.DiskAtomic

/-!
# What survives a loss of power

A directory that is not synced may come back with earlier entries, and a file that is not synced
with any contents. A ledger over the helper's operations keeps, for every saved profile, the
contents that may come back in place of those it has.
-/

namespace NmSidebar

open Text Effects

/-! ## Losses of power -/

/-- What a loss of power makes of what is stored: every name has the entry it had, or one that it
had since its directory was synced, and only synced files have their contents. -/
structure Store.LosesPower (s s' : Store) : Prop where
  entry : ∀ area name, s'.entry area name = s.entry area name ∨
    s'.entry area name ∈ s.earlier area name
  data : ∀ ino, s.synced ino = true → s'.data ino = s.data ino

/-! ## The ledger -/

/-- What is known of the profiles: the staging files that are synced, and the contents that may
come back for a profile. Nothing is known of what may come back where there is no list. -/
structure Durability where
  complete : Name → Bool
  past : Name → Option (List (Option Bytes))

namespace Durability

/-- Nothing is known. -/
def unknown : Durability := ⟨fun _ => false, fun _ => none⟩

/-- Nothing else can come back. -/
def settled : Durability := ⟨fun _ => false, fun _ => some []⟩

/-- A staging file is known to be synced or not. -/
def setComplete (l : Durability) (name : Name) (complete : Bool) : Durability :=
  { l with complete := Function.update l.complete name complete }

/-- A profile's contents have been replaced; the old ones may come back. -/
def push (l : Durability) (name : Name) (contents : Option Bytes) : Durability :=
  { l with past := Function.update l.past name ((l.past name).map (contents :: ·)) }

/-- Nothing is known of a profile any more. -/
def forget (l : Durability) (name : Name) : Durability :=
  { l with past := Function.update l.past name none }

/-- A profile's contents have been replaced by those of a staging file. -/
def move (l : Durability) (tempName name : Name) (contents : Option Bytes) : Durability :=
  if l.complete tempName then l.push name contents else l.forget name

/-- The directory of the profiles was synced. -/
def synced (l : Durability) : Durability :=
  { l with past := fun name => (l.past name).map fun _ => [] }

theorem past_synced {l : Durability} {name : Name} {list : List (Option Bytes)}
    (h : l.past name = some list) : l.synced.past name = some [] := by
  simp [synced, h]

@[simp] theorem synced_push (l : Durability) (name : Name) (contents : Option Bytes) :
    (l.push name contents).synced = l.synced := by
  simp only [synced, push, Durability.mk.injEq, true_and]
  funext name'
  by_cases h : name' = name
  · subst h
    rw [Function.update_self, Option.map_map]
    rfl
  · rw [Function.update_of_ne h]

/-- Nothing is known of one directory any more. -/
def apart (l : Durability) (area : StorageArea) : Durability where
  complete name := area != .staging && l.complete name
  past name := if area = .config then none else l.past name

/-- The ledger after an operation. -/
def after (l : Durability) : HelperEvent → Durability
  | ⟨.writeStagingCandidate _, _, .complete tempName, _⟩ => l.setComplete tempName true
  | ⟨.writeStagingCandidate _, _, .incomplete tempName, _⟩ => l.setComplete tempName false
  | ⟨.atomicWrite area .., _, _, _⟩ => l.apart area
  | ⟨.removeAndSync .config _, _, true, _⟩ => l.synced
  | ⟨.removeAndSync .config name, w, false, _⟩ => l.push name (w.files .config name)
  | ⟨.renameStagingNoreplace tempName name, w, .renamed, _⟩ =>
    l.move tempName name (w.files .config name)
  | ⟨.exchangeStagingConfig tempName name, w, true, _⟩ =>
    (l.move tempName name (w.files .config name)).setComplete tempName
      (l.past name).isSome
  | ⟨.syncConfigAndStaging, _, true, _⟩ => l.synced
  | _ => l

end Durability

/-! ## What is stored and what is known -/

namespace Store

variable {s : Store} {area a : StorageArea} {name n : Name} {entry : Option ℕ}

@[simp] theorem entry_setEntry_self : (s.setEntry area name entry).entry area name = entry :=
  if_pos ⟨rfl, rfl⟩

@[simp] theorem earlier_setEntry_self :
    (s.setEntry area name entry).earlier area name = s.entry area name :: s.earlier area name :=
  if_pos ⟨rfl, rfl⟩

theorem entry_setEntry_ne (h : a ≠ area ∨ n ≠ name) :
    (s.setEntry area name entry).entry a n = s.entry a n :=
  if_neg fun heq => h.elim (fun h => h heq.1) fun h => h heq.2

theorem earlier_setEntry_ne (h : a ≠ area ∨ n ≠ name) :
    (s.setEntry area name entry).earlier a n = s.earlier a n :=
  if_neg fun heq => h.elim (fun h => h heq.1) fun h => h heq.2

/-- Whatever a profile's entry may be after a loss of power, it is of a synced file, and its
contents are those that the profile has or of the list. -/
def Recalls (s : Store) (name : Name) (list : List (Option Bytes)) : Prop :=
  ∀ entry, entry = s.entry .config name ∨ entry ∈ s.earlier .config name →
    s.contentsOf entry ∈ s.world.files .config name :: list ∧
      ∀ ino, entry = some ino → s.synced ino = true

/-- Another name's entry is replaced. -/
theorem Recalls.setEntry {list : List (Option Bytes)} (h : s.Recalls n list)
    (hother : StorageArea.config ≠ area ∨ n ≠ name) :
    (s.setEntry area name entry).Recalls n list := by
  intro entry' hmem
  rw [entry_setEntry_ne hother, earlier_setEntry_ne hother] at hmem
  obtain ⟨hcontents, hsynced⟩ := h entry' hmem
  refine ⟨?_, hsynced⟩
  rw [world_setEntry, files_setFile_ne hother]
  exact hcontents

end Store

/-- The ledger is right about what is stored. -/
structure Durable (s : Store) (l : Durability) : Prop where
  past : ∀ name list, l.past name = some list → s.Recalls name list
  complete : ∀ name ino, l.complete name = true → s.entry .staging name = some ino →
    s.synced ino = true

namespace Durable

variable {s s' : Store} {l l' : Durability} {area : StorageArea} {name temp : Name}

theorem unknown (s : Store) : Durable s .unknown where
  past _ _ h := nomatch h
  complete _ _ h := nomatch h

/-- What a loss of power brings back is known. -/
theorem survives (h : Durable s l) (hpower : s.LosesPower s') {list : List (Option Bytes)}
    (hlist : l.past name = some list) :
    s'.world.files .config name ∈ s.world.files .config name :: list := by
  obtain ⟨hmem, hsynced⟩ := h.past name list hlist (s'.entry .config name)
    (hpower.entry .config name)
  have hcontents : s'.world.files .config name = s.contentsOf (s'.entry .config name) := by
    show Option.map s'.data _ = Option.map s.data _
    cases hentry : s'.entry .config name with
    | none => rfl
    | some ino => exact congrArg some (hpower.data ino (hsynced ino hentry))
  rwa [hcontents]

/-- Where the directory of the profiles is left alone, so is what is known of them. -/
theorem of_config (h : Durable s l) (hsound : s.Sound)
    (hdata : ∀ ino < s.next, s'.data ino = s.data ino ∧ s'.synced ino = s.synced ino)
    (hentry : s'.entry .config = s.entry .config)
    (hearlier : s'.earlier .config = s.earlier .config) (hpast : l'.past = l.past)
    (hcomplete : ∀ name ino, l'.complete name = true → s'.entry .staging name = some ino →
      s'.synced ino = true) : Durable s' l' where
  complete := hcomplete
  past name list hlist entry hmem := by
    -- whatever may come back is an inode in use, and those have not been touched
    rw [hpast] at hlist
    rw [hentry, hearlier] at hmem
    obtain ⟨hcontents, hsynced⟩ := h.past name list hlist entry hmem
    have hsame : ∀ entry, entry = s.entry .config name ∨ entry ∈ s.earlier .config name →
        s'.contentsOf entry = s.contentsOf entry := by
      intro entry hmem
      cases entry with
      | none => rfl
      | some ino =>
        exact congrArg some (hdata ino (hsound .config name ino (hmem.imp Eq.symm id))).1
    have hfiles : s'.world.files .config name = s.world.files .config name := by
      show s'.contentsOf (s'.entry .config name) = _
      rw [hentry]
      exact hsame _ (.inl rfl)
    rw [hfiles, hsame entry hmem]
    refine ⟨hcontents, fun ino hino => ?_⟩
    subst hino
    rw [(hdata ino (hsound .config name ino (hmem.imp Eq.symm id))).2]
    exact hsynced ino rfl

/-- Changes of entries and files that are not the ledger's. -/
theorem of_elsewhere (h : Durable s l) (hsound : s.Sound) (helsewhere : s.Elsewhere area s') :
    Durable s' (l.apart area) := by
  have hsynced : area ≠ .staging → ∀ name ino, l.complete name = true →
      s'.entry .staging name = some ino → s'.synced ino = true := by
    intro hne name ino hcomplete hino
    rw [helsewhere.entry _ hne.symm] at hino
    rw [helsewhere.synced ino (hsound .staging name ino (.inl hino))]
    exact h.complete name ino hcomplete hino
  have hcomplete : ∀ name ino, (l.apart area).complete name = true →
      s'.entry .staging name = some ino → s'.synced ino = true := by
    intro name ino hcomplete hino
    simp only [Durability.apart, Bool.and_eq_true, bne_iff_ne] at hcomplete
    exact hsynced hcomplete.1 name ino hcomplete.2 hino
  by_cases hconfig : area = .config
  · subst hconfig
    exact ⟨fun name list hlist => by simp [Durability.apart] at hlist, hcomplete⟩
  · refine of_config h hsound
      (fun ino hino => ⟨helsewhere.data ino hino, helsewhere.synced ino hino⟩)
      (helsewhere.entry _ (Ne.symm hconfig)) (helsewhere.earlier _ (Ne.symm hconfig)) ?_ hcomplete
    funext name
    exact if_neg hconfig

/-- A new staging file. -/
theorem draft (h : Durable s l) (hsound : s.Sound) (data : Bytes) {synced complete : Bool}
    (hcomplete : complete = true → synced = true) :
    Durable (s.draft .staging temp data synced) (l.setComplete temp complete) := by
  have helsewhere : s.Elsewhere .staging (s.draft .staging temp data synced) :=
    Store.elsewhere_draft hsound
  refine of_config h hsound (fun ino hino => ⟨helsewhere.data ino hino, helsewhere.synced ino hino⟩)
    (helsewhere.entry _ (by simp)) (helsewhere.earlier _ (by simp)) rfl
    fun name ino hknown hino => ?_
  by_cases hname : name = temp
  · subst hname
    rw [Store.entry_draft_self] at hino
    cases hino
    rw [Store.synced_draft_next]
    refine hcomplete ?_
    simpa [Durability.setComplete] using hknown
  · have hold : s.entry .staging name = some ino := by
      rw [← hino]
      exact (if_neg fun heq => hname heq.2).symm
    rw [helsewhere.synced ino (hsound .staging name ino (.inl hold))]
    refine h.complete name ino ?_ hold
    simpa [Durability.setComplete, Function.update_of_ne hname] using hknown

theorem syncDirectory (h : Durable s l) (area : StorageArea) :
    Durable (s.syncDirectory area) l where
  complete := h.complete
  past name list hlist entry hmem := by
    refine h.past name list hlist entry (hmem.imp id fun hmem => ?_)
    simp only [Store.syncDirectory] at hmem
    split at hmem
    · cases hmem
    · exact hmem

/-- After the directory was synced nothing else can come back. -/
theorem synced (h : Durable s l) : Durable (s.syncDirectory .config) l.synced where
  complete := h.complete
  past name list hlist entry hmem := by
    obtain ⟨old, hold, -⟩ := Option.map_eq_some_iff.mp hlist
    have hentry : entry = s.entry .config name := by
      rcases hmem with hmem | hmem
      · exact hmem
      · simp [Store.syncDirectory] at hmem
    subst hentry
    refine ⟨List.mem_cons_self, (h.past name old hold _ (.inl rfl)).2⟩

/-- A profile's entry is replaced: by none, or by one of a synced file. -/
theorem setEntry (h : Durable s l) (name : Name) {entry : Option ℕ}
    (hentry : ∀ ino, entry = some ino → s.synced ino = true) :
    Durable (s.setEntry .config name entry) (l.push name (s.world.files .config name)) where
  complete name' ino hcomplete hino := h.complete name' ino hcomplete hino
  past name' list hlist entry' hmem := by
    by_cases heq : name' = name
    · subst heq
      simp only [Durability.push, Function.update_self] at hlist
      obtain ⟨old, hold, rfl⟩ := Option.map_eq_some_iff.mp hlist
      rw [Store.entry_setEntry_self, Store.earlier_setEntry_self, List.mem_cons] at hmem
      rcases hmem with rfl | hmem
      · -- the new entry, which is the contents now
        refine ⟨?_, hentry⟩
        rw [Store.world_setEntry, files_setFile_self]
        exact List.mem_cons_self
      · obtain ⟨hcontents, hsynced⟩ := h.past name' old hold entry' hmem
        exact ⟨List.mem_cons_of_mem _ hcontents, hsynced⟩
    · have hlist' : l.past name' = some list := by
        rw [← hlist]
        exact (Function.update_of_ne heq _ _).symm
      exact (h.past name' list hlist').setEntry (.inr heq) entry' hmem

/-- More may come back than does. -/
theorem weaken (h : Durable s l) (name : Name) (contents : Option Bytes) :
    Durable s (l.push name contents) where
  complete := h.complete
  past name' list hlist entry hmem := by
    by_cases heq : name' = name
    · subst heq
      simp only [Durability.push, Function.update_self] at hlist
      obtain ⟨old, hold, rfl⟩ := Option.map_eq_some_iff.mp hlist
      obtain ⟨hcontents, hsynced⟩ := h.past name' old hold entry hmem
      refine ⟨?_, hsynced⟩
      rcases List.mem_cons.mp hcontents with hnow | hold
      · exact List.mem_cons.mpr (.inl hnow)
      · exact List.mem_cons_of_mem _ (List.mem_cons_of_mem _ hold)
    · have hlist' : l.past name' = some list := by
        rw [← hlist]
        exact (Function.update_of_ne heq _ _).symm
      exact h.past name' list hlist' entry hmem

/-- A profile's entry is replaced by one of which nothing is known. -/
theorem setEntry_forget (h : Durable s l) (name : Name) (entry : Option ℕ) :
    Durable (s.setEntry .config name entry) (l.forget name) where
  complete name' ino hcomplete hino := h.complete name' ino hcomplete hino
  past name' list hlist entry' hmem := by
    by_cases heq : name' = name
    · subst heq
      simp [Durability.forget] at hlist
    · have hlist' : l.past name' = some list := by
        rw [← hlist]
        exact (Function.update_of_ne heq _ _).symm
      exact (h.past name' list hlist').setEntry (.inr heq) entry' hmem

/-- Entries of the other directories are nothing to the ledger. -/
theorem setElsewhere (h : Durable s l) {entry : Option ℕ} (hconfig : area ≠ .config)
    (hstaging : area ≠ .staging) : Durable (s.setEntry area name entry) l where
  past name' list hlist := (h.past name' list hlist).setEntry (.inl hconfig.symm)
  complete name' ino hcomplete hino := by
    rw [Store.entry_setEntry_ne (.inl hstaging.symm)] at hino
    exact h.complete name' ino hcomplete hino

/-- A profile's entry is replaced by that of a staging file. -/
theorem move (h : Durable s l) (name : Name) {ino : ℕ} (hino : s.entry .staging temp = some ino) :
    Durable (s.setEntry .config name (some ino))
      (l.move temp name (s.world.files .config name)) := by
  unfold Durability.move
  split
  · rename_i hcomplete
    refine h.setEntry name ?_
    rintro ino' ⟨⟩
    exact h.complete temp ino hcomplete hino
  · exact h.setEntry_forget name (some ino)

/-- A staging entry is replaced. -/
theorem setStaging (h : Durable s l) {entry : Option ℕ} {complete : Bool}
    (hentry : ∀ ino, entry = some ino → complete = true → s.synced ino = true) :
    Durable (s.setEntry .staging temp entry) (l.setComplete temp complete) where
  past name list hlist := (h.past name list hlist).setEntry (.inl (by simp))
  complete name ino hknown hino := by
    by_cases hname : name = temp
    · subst hname
      rw [Store.entry_setEntry_self] at hino
      refine hentry ino hino ?_
      simpa [Durability.setComplete] using hknown
    · rw [Store.entry_setEntry_ne (.inr hname)] at hino
      refine h.complete name ino ?_ hino
      simpa [Durability.setComplete, Function.update_of_ne hname] using hknown

/-- A staging entry is removed. -/
theorem unlinkStaging (h : Durable s l) (temp : Name) :
    Durable (s.setEntry .staging temp none) l := by
  have hset : Durable (s.setEntry .staging temp none) (l.setComplete temp (l.complete temp)) :=
    h.setStaging (by simp)
  have hsame : l.setComplete temp (l.complete temp) = l := by
    simp [Durability.setComplete]
  rwa [hsame] at hset

end Durable

end NmSidebar
