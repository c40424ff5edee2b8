import NmSidebar.Helper.DiskStore

/-!
# Reads of the disk

What the storage functions that only look at files reply, in terms of what is stored. Each of them
leaves the store as it was, wherever it is stopped.
-/

namespace NmSidebar

open Text Effects

variable {d d' : Disk} {area : StorageArea} {name : Name} {mode : ℕ}

/-- What a look at a name tells: `ENOENT` means that there is no such entry, and a status is that
of the entry's file. -/
def Disk.Seen (d : Disk) (area : StorageArea) (name : Name) :
    Except LookupFailure StorageIdentity → Prop
  | .ok status => ∃ ino, d.entry area name = some ino ∧ status = d.stat ino
  | .error .noEntry => d.entry area name = none
  | .error .failed => True

theorem safe_fstatat {P : Store → Prop} (hP : P d.store) :
    Safe diskBehaves (during P) (diskCall (.fstatat area name))
      (fun r d' => d' = d ∧ d.Seen area name r) d := by
  refine safe_diskCall rfl hP fun r d' h => ?_
  cases r with
  | ok status => exact ⟨h.2, h.1⟩
  | error failure =>
    cases failure with
    | noEntry => exact ⟨h.2, h.1⟩
    | failed => exact ⟨h, trivial⟩

/-- A call that neither changes the store nor moves a descriptor of the caller. -/
theorem safe_openat {P : Store → Prop} (hP : P d.store) :
    Safe diskBehaves (during P) (diskCall (.openat area name))
      (fun r d' => d'.store = d.store ∧ d'.file = d.file ∧ ∀ fd ∈ r, ∃ ino,
        d.entry area name = some ino ∧ d'.descriptor fd = some ⟨ino, 0⟩) d := by
  refine safe_diskCall rfl hP fun r d' h => ?_
  cases r with
  | none =>
    obtain rfl : d' = d := h
    exact ⟨rfl, rfl, by simp⟩
  | some fd =>
    obtain ⟨ino, hino, -, rfl⟩ := h
    refine ⟨rfl, rfl, fun fd' hfd => ⟨ino, hino, ?_⟩⟩
    obtain rfl := Option.some.inj hfd
    simp [Disk.setDescriptor]

theorem safe_fstat {P : Store → Prop} (hP : P d.store) {fd : ℕ} :
    Safe diskBehaves (during P) (diskCall (.fstat fd))
      (fun r d' => d' = d ∧ ∀ status ∈ r, ∃ handle, d.descriptor fd = some handle ∧
        status = d.stat handle.ino) d := by
  refine safe_diskCall rfl hP fun r d' h => ?_
  cases r with
  | none => exact ⟨h, by simp⟩
  | some status =>
    obtain ⟨⟨handle, hhandle, rfl⟩, rfl⟩ := h
    refine ⟨rfl, fun status' hstatus => ⟨handle, hhandle, ?_⟩⟩
    exact (Option.some.inj hstatus).symm

theorem safe_close {P : Store → Prop} (hP : P d.store) {fd : ℕ} :
    Safe diskBehaves (during P) (diskCall (.close fd)) (fun _ d' => d'.store = d.store) d := by
  refine safe_diskCall rfl hP fun r d' h => ?_
  rw [show d' = _ from h]
  rfl

/-! ## Looking at files -/

/-- What `secure_file_state_at` tells. -/
theorem safe_secureFileStateAt {P : Store → Prop} (hP : P d.store) :
    Safe diskBehaves (during P) (secureFileStateAt area name mode)
      (fun r d' => d'.store = d.store ∧ (r = .missing → d.entry area name = none) ∧
        (r = .valid → (d.entry area name).isSome)) d := by
  unfold secureFileStateAt
  refine (safe_fstatat hP).bind ?_
  rintro r _ ⟨rfl, hseen⟩
  match r, hseen with
  | .error .noEntry, hseen => exact ⟨rfl, fun _ => hseen, by simp⟩
  | .error .failed, _ => exact ⟨rfl, by simp, by simp⟩
  | .ok before, ⟨ino, hino, _⟩ =>
    dsimp only
    split
    · exact ⟨rfl, by simp, by simp⟩
    · refine (safe_openat hP).bind fun opened d₁ h₁ => ?_
      obtain ⟨hstore, -, -⟩ := h₁
      cases opened with
      | none => exact ⟨hstore, by simp, by simp⟩
      | some fd =>
        have hP₁ : P d₁.store := by rwa [hstore]
        refine (safe_fstat hP₁).bind ?_
        rintro after _ ⟨rfl, -⟩
        refine (safe_close hP₁).bind fun _ d₂ h₂ => ?_
        rw [hstore] at h₂
        cases after with
        | none => exact ⟨h₂, by simp, by simp⟩
        | some after =>
          refine ⟨h₂, fun hmissing => ?_, fun _ => by simp [hino]⟩
          split at hmissing <;> cases hmissing

/-- What `awg_helper_storage_config_security_state` tells. -/
theorem safe_storageConfigSecurityState {configName : Name} {P : Store → Prop} (hP : P d.store) :
    Safe diskBehaves (during P) (storageConfigSecurityState configName)
      (fun r d' => d'.store = d.store ∧ (r = .missing → d.entry .config configName = none) ∧
        (r = .valid → (d.entry .config configName).isSome)) d := by
  unfold storageConfigSecurityState
  refine (safe_fstatat hP).bind ?_
  rintro r _ ⟨rfl, hseen⟩
  match r, hseen with
  | .error .noEntry, hseen => exact ⟨rfl, fun _ => hseen, by simp⟩
  | .error .failed, _ => exact ⟨rfl, by simp, by simp⟩
  | .ok status, ⟨ino, hino, _⟩ =>
    refine ⟨rfl, fun hmissing => ?_, fun _ => by simp [hino]⟩
    split at hmissing <;> cases hmissing

/-- The functions that compare an identity leave the store alone. -/
theorem safe_identities {P : Store → Prop} (hP : P d.store) (identity : StorageIdentity) :
    Safe diskBehaves (during P) (storageGetConfigIdentity name) (fun _ d' => d' = d) d ∧
      Safe diskBehaves (during P) (storageConfigMatchesIdentity name identity)
        (fun _ d' => d' = d) d ∧
      Safe diskBehaves (during P) (storageDisplacedMatchesIdentity name identity)
        (fun _ d' => d' = d) d := by
  refine ⟨?_, ?_, ?_⟩
  all_goals
    refine (safe_fstatat hP).bind ?_
    rintro r _ ⟨rfl, -⟩
    cases r <;> rfl

/-! ## Reading files -/

/-- An open file whose next byte is the one at this offset. -/
structure Disk.OpenAt (d : Disk) (fd ino offset : ℕ) : Prop where
  handle : d.descriptor fd = some ⟨ino, offset⟩

/-- What a read tells. -/
theorem safe_read {P : Store → Prop} (hP : P d.store) {fd ino offset size : ℕ}
    (hopen : d.OpenAt fd ino offset) :
    Safe diskBehaves (during P) (diskCall (.read fd size))
      (fun r d' => d'.store = d.store ∧ d'.file = d.file ∧
        (∀ bytes, r = .data bytes → bytes.length ≤ size ∧
          bytes <+: (d.store.data ino).drop offset ∧ d'.OpenAt fd ino (offset + bytes.length)) ∧
        (r = .ended → size = 0 ∨ (d.store.data ino).drop offset = []) ∧
        (r = .ended ∨ r = .interrupted ∨ r = .failed → d' = d)) d := by
  refine safe_diskCall rfl hP fun r d' h => ?_
  cases r with
  | data bytes =>
    obtain ⟨handle, hhandle, -, hlength, hbytes, rfl⟩ := h
    obtain rfl : handle = ⟨ino, offset⟩ := Option.some.inj (hhandle.symm.trans hopen.handle)
    refine ⟨rfl, rfl, ?_, by simp, by simp⟩
    rintro bytes' ⟨⟩
    exact ⟨hlength, hbytes, ⟨by simp [Disk.setDescriptor]⟩⟩
  | ended =>
    obtain ⟨⟨handle, hhandle, hended⟩, rfl⟩ := h
    obtain rfl : handle = ⟨ino, offset⟩ := Option.some.inj (hhandle.symm.trans hopen.handle)
    exact ⟨rfl, rfl, by simp, fun _ => hended, by simp⟩
  | interrupted | failed =>
    obtain rfl : d' = d := h
    exact ⟨rfl, rfl, by simp, by simp, by simp⟩

/-- What has been read of a file, from its start. -/
structure HasRead (d₀ : Disk) (fd ino size : ℕ) (contents : Bytes) (d : Disk) : Prop where
  store : d.store = d₀.store
  file : d.file = d₀.file
  opened : d.OpenAt fd ino contents.length
  read : contents <+: d₀.store.data ino
  length : contents.length ≤ size

theorem HasRead.append {d₀ : Disk} {fd ino size : ℕ} {contents bytes : Bytes}
    (h : HasRead d₀ fd ino size contents d) (hstore : d'.store = d.store) (hfile : d'.file = d.file)
    (hlength : bytes.length ≤ size - contents.length)
    (hbytes : bytes <+: (d.store.data ino).drop contents.length)
    (hopened : d'.OpenAt fd ino (contents.length + bytes.length)) :
    HasRead d₀ fd ino size (contents ++ bytes) d' where
  store := hstore.trans h.store
  file := hfile.trans h.file
  opened := by rwa [List.length_append]
  read := by
    rw [h.store] at hbytes
    have htake := List.prefix_iff_eq_take.mp h.read
    rw [← List.take_append_drop contents.length (d₀.store.data ino), ← htake]
    exact (List.prefix_append_right_inj contents).mpr hbytes
  length := by
    have := h.length
    rw [List.length_append]
    omega

/-- What `readUpTo` reads: where no read failed, so many bytes, or all there are. -/
theorem ends_readUpTo {P : Store → Prop} (hP : P d.store) (rounds : ℕ) {fd ino size : ℕ}
    (hopen : d.OpenAt fd ino 0) :
    Ends diskBehaves (during P) (readUpTo rounds fd size)
      (fun r d' => HasRead d fd ino size r.2 d' ∧
        (r.1 = true → r.2.length = size ∨ r.2 = d.store.data ino)) d := by
  refine Ends.loop (I := fun contents d' => HasRead d fd ino size contents d')
    (fun contents d₁ h₁ => ?_) rounds ⟨rfl, rfl, hopen, List.nil_prefix, Nat.zero_le _⟩
  have hP₁ : P d₁.store := by rwa [h₁.store]
  split
  · refine (safe_read hP₁ h₁.opened).bindEnds fun r d₂ h₂ => ?_
    obtain ⟨hstore, hfile, hdata, hended, hsame⟩ := h₂
    cases r with
    | data bytes =>
      obtain ⟨hlength, hbytes, hopened⟩ := hdata bytes rfl
      refine ends_return.mpr ⟨?_, by simp⟩
      rintro _ ⟨⟩
      exact h₁.append hstore hfile hlength hbytes hopened
    | interrupted =>
      obtain rfl := hsame (by simp)
      refine ends_return.mpr ⟨?_, by simp⟩
      rintro _ ⟨⟩
      exact h₁
    | ended =>
      obtain rfl := hsame (by simp)
      refine ends_return.mpr ⟨by simp, ?_⟩
      rintro _ ⟨⟩
      refine ⟨h₁, fun _ => .inr ?_⟩
      have hrest : (d.store.data ino).drop contents.length = [] := by
        rw [← h₁.store]
        refine (hended rfl).resolve_left ?_
        omega
      rw [List.prefix_iff_eq_take.mp h₁.read,
        List.take_of_length_le (List.drop_eq_nil_iff.mp hrest)]
    | failed =>
      obtain rfl := hsame (by simp)
      refine ends_return.mpr ⟨by simp, ?_⟩
      rintro _ ⟨⟩
      exact ⟨h₁, by simp⟩
  · refine ends_return.mpr ⟨by simp, ?_⟩
    rintro _ ⟨⟩
    refine ⟨h₁, fun _ => .inl ?_⟩
    have := h₁.length
    show contents.length = size
    omega

/-- A prefix that is as long as the whole is the whole. -/
theorem HasRead.whole {d₀ : Disk} {fd ino size : ℕ} {contents : Bytes}
    (h : HasRead d₀ fd ino size contents d)
    (hlength : (d₀.store.data ino).length ≤ contents.length) :
    contents = d₀.store.data ino :=
  h.read.eq_of_length_le hlength

/-- What is read of an open file whose size was asked for before. -/
theorem ends_readOpenedFile {P : Store → Prop} (hP : P d.store) (rounds : ℕ) {fd ino : ℕ}
    (hopen : d.OpenAt fd ino 0) {before : StorageIdentity}
    (hsize : before.size = (d.store.data ino).length) :
    Ends diskBehaves (during P) (readOpenedFile rounds fd before)
      (fun r d' => d'.store = d.store ∧ ∀ contents ∈ r, contents = d.store.data ino) d := by
  unfold readOpenedFile
  refine (safe_fstat hP).bindEnds ?_
  rintro after d ⟨rfl, -⟩
  cases after with
  | none => exact ends_return.mpr ⟨rfl, by simp⟩
  | some after =>
    dsimp only
    split
    · exact ends_return.mpr ⟨rfl, by simp⟩
    · refine (ends_readUpTo hP rounds hopen).bind ?_
      rintro ⟨ok, contents⟩ d₁ ⟨hread, -⟩
      dsimp only at hread ⊢
      have hstore := hread.store
      split
      · exact ends_return.mpr ⟨hstore, by simp⟩
      · rename_i hall
        have hwhole : contents = _ := hread.whole (by rw [← hsize]; omega)
        have hP₁ : P d₁.store := by rwa [hstore]
        refine (safe_fstat hP₁).bindEnds ?_
        rintro after _ ⟨rfl, -⟩
        cases after with
        | none => exact ends_return.mpr ⟨hstore, by simp⟩
        | some after =>
          dsimp only
          split
          · exact ends_return.mpr ⟨hstore, by simp⟩
          · refine ends_return.mpr ⟨hstore, fun contents' h => ?_⟩
            rw [← hwhole, Option.some.inj h]

theorem files_of_entry {ino : ℕ} (h : d.entry area name = some ino) :
    d.store.world.files area name = some (d.store.data ino) := by
  show Option.map _ (d.entry area name) = _
  rw [h]
  rfl

/-- What `read_secure_file_at` reads is the file. -/
theorem ends_readSecureFileAt {P : Store → Prop} (hP : P d.store) (rounds maximumSize : ℕ) :
    Ends diskBehaves (during P) (readSecureFileAt rounds area name mode maximumSize)
      (fun r d' => d'.store = d.store ∧ ∀ contents, r = some contents →
        d.store.world.files area name = some contents ∧ contents.length ≤ maximumSize) d := by
  unfold readSecureFileAt
  refine (safe_fstatat hP).bindEnds ?_
  rintro r d ⟨rfl, hseen⟩
  cases r with
  | error failure => exact ends_return.mpr ⟨rfl, by simp⟩
  | ok before =>
    obtain ⟨ino, hino, rfl⟩ := hseen
    dsimp only
    split
    · exact ends_return.mpr ⟨rfl, by simp⟩
    · rename_i hsecure
      refine (safe_openat hP).bindEnds fun opened d₁ h₁ => ?_
      obtain ⟨hstore, -, hopened⟩ := h₁
      cases opened with
      | none => exact ends_return.mpr ⟨hstore, by simp⟩
      | some fd =>
        obtain ⟨ino', hino', hfd⟩ := hopened fd rfl
        obtain rfl : ino = ino' := Option.some.inj (hino.symm.trans hino')
        have hP₁ : P d₁.store := by rwa [hstore]
        refine (ends_readOpenedFile hP₁ rounds ⟨hfd⟩ (by rw [hstore]; rfl)).bind ?_
        rintro contents d₂ ⟨hstore₂, hcontents⟩
        rw [hstore] at hstore₂ hcontents
        have hP₂ : P d₂.store := by rwa [hstore₂]
        refine (safe_close hP₂).bindEnds fun _ d₃ h₃ => ends_return.mpr ⟨h₃.trans hstore₂, ?_⟩
        intro read hread
        rw [hcontents read hread]
        refine ⟨files_of_entry hino, ?_⟩
        have hsize : ¬ (d.stat ino).size > maximumSize := fun hsize => hsecure (.inr hsize)
        exact not_lt.mp hsize

/-- What is read of an open configuration. -/
theorem ends_readOpenedConfig {P : Store → Prop} (hP : P d.store) (rounds : ℕ) {fd ino : ℕ}
    {configName : Name} (hopen : d.OpenAt fd ino 0) {before : StorageIdentity} :
    Ends diskBehaves (during P) (readOpenedConfig rounds fd configName before)
      (fun r d' => d'.store = d.store ∧
        (∀ failure, r = .error failure → failure ≠ .success ∧ failure ≠ .notFound) ∧
        ∀ contents identity, r = .ok (contents, identity) →
          contents = d.store.data ino ∧ contents.length ≤ maxConfigSize) d := by
  have hfails : ∀ {d' : Disk} {failure : HelperExit}, d'.store = d.store → failure ≠ .success →
      failure ≠ .notFound → Ends diskBehaves (during P)
        (return .error failure : DiskLoopM (Except HelperExit (Bytes × StorageIdentity)))
        (fun r d' => d'.store = d.store ∧
          (∀ failure, r = .error failure → failure ≠ .success ∧ failure ≠ .notFound) ∧
          ∀ contents identity, r = .ok (contents, identity) →
            contents = d.store.data ino ∧ contents.length ≤ maxConfigSize) d' := by
    intro d' failure hstore hsuccess hfound
    refine ends_return.mpr ⟨hstore, ?_, by simp⟩
    rintro failure' ⟨⟩
    exact ⟨hsuccess, hfound⟩
  unfold readOpenedConfig
  refine (safe_fstat hP).bindEnds ?_
  rintro opened d ⟨rfl, -⟩
  cases opened with
  | none => exact hfails rfl (by simp) (by simp)
  | some opened =>
    dsimp only
    split
    · exact hfails rfl (by simp) (by simp)
    · refine (ends_readUpTo hP rounds hopen).bind ?_
      rintro ⟨ok, contents⟩ d₁ ⟨hread, hall⟩
      dsimp only at hread hall ⊢
      have hstore := hread.store
      have hP₁ : P d₁.store := by rwa [hstore]
      split
      · exact hfails hstore (by simp) (by simp)
      · rename_i hok
        split
        · exact hfails hstore (by simp) (by simp)
        · rename_i hlength
          have hwhole : contents = d.store.data ino := by
            refine (hall (Bool.eq_true_of_not_eq_false hok)).resolve_left ?_
            omega
          split
          · exact hfails hstore (by simp) (by simp)
          · refine (safe_fstat hP₁).bindEnds ?_
            rintro after _ ⟨rfl, -⟩
            cases after with
            | none => exact hfails hstore (by simp) (by simp)
            | some after =>
              dsimp only
              split
              · exact hfails hstore (by simp) (by simp)
              · refine (safe_fstatat hP₁).bindEnds ?_
                rintro current _ ⟨rfl, -⟩
                cases current with
                | error failure => exact hfails hstore (by simp) (by simp)
                | ok current =>
                  dsimp only
                  split
                  · exact hfails hstore (by simp) (by simp)
                  · refine ends_return.mpr ⟨hstore, by simp, ?_⟩
                    rintro contents' identity ⟨⟩
                    exact ⟨hwhole, by omega⟩

/-- What `awg_helper_storage_read_config` reads is the configuration. -/
theorem ends_storageReadConfig {P : Store → Prop} (hP : P d.store) (rounds : ℕ)
    {configName : Name} :
    Ends diskBehaves (during P) (storageReadConfig rounds configName)
      (fun r d' => d'.store = d.store ∧
        (∀ failure, r = .error failure → failure ≠ .success ∧
          (failure = .notFound → d.entry .config configName = none)) ∧
        ∀ contents identity, r = .ok (contents, identity) →
          d.store.world.files .config configName = some contents ∧
            contents.length ≤ maxConfigSize) d := by
  have hfails : ∀ {d' : Disk} {failure : HelperExit}, d'.store = d.store → failure ≠ .success →
      (failure = .notFound → d.entry .config configName = none) → Ends diskBehaves (during P)
        (return .error failure : DiskLoopM (Except HelperExit (Bytes × StorageIdentity)))
        (fun r d' => d'.store = d.store ∧
          (∀ failure, r = .error failure → failure ≠ .success ∧
            (failure = .notFound → d.entry .config configName = none)) ∧
          ∀ contents identity, r = .ok (contents, identity) →
            d.store.world.files .config configName = some contents ∧
              contents.length ≤ maxConfigSize) d' := by
    intro d' failure hstore hsuccess hfound
    refine ends_return.mpr ⟨hstore, ?_, by simp⟩
    rintro failure' ⟨⟩
    exact ⟨hsuccess, hfound⟩
  unfold storageReadConfig
  refine (safe_fstatat hP).bindEnds ?_
  rintro r d ⟨rfl, hseen⟩
  match r, hseen with
  | .error .noEntry, hseen => exact hfails rfl (by simp) fun _ => hseen
  | .error .failed, _ => exact hfails rfl (by simp) (by simp)
  | .ok before, ⟨ino, hino, _⟩ =>
    dsimp only
    split
    · exact hfails rfl (by simp) (by simp)
    · split
      · exact hfails rfl (by simp) (by simp)
      · refine (safe_openat hP).bindEnds fun opened d₁ h₁ => ?_
        obtain ⟨hstore, -, hopened⟩ := h₁
        cases opened with
        | none => exact hfails hstore (by simp) (by simp)
        | some fd =>
          obtain ⟨ino', hino', hfd⟩ := hopened fd rfl
          obtain rfl : ino = ino' := Option.some.inj (hino.symm.trans hino')
          have hP₁ : P d₁.store := by rwa [hstore]
          refine (ends_readOpenedConfig hP₁ rounds ⟨hfd⟩).bind ?_
          rintro result d₂ ⟨hstore₂, herror, hok⟩
          rw [hstore] at hstore₂ hok
          have hP₂ : P d₂.store := by rwa [hstore₂]
          refine (safe_close hP₂).bindEnds fun _ d₃ h₃ => ends_return.mpr ⟨h₃.trans hstore₂, ?_⟩
          refine ⟨fun failure hfailure => ?_, fun contents identity hread => ?_⟩
          · have hkind := herror failure hfailure
            exact ⟨hkind.1, fun hfound => absurd hfound hkind.2⟩
          · obtain ⟨rfl, hlength⟩ := hok contents identity hread
            exact ⟨files_of_entry hino, hlength⟩

/-- What is read of an open marker. -/
theorem ends_readOpenedMarker {P : Store → Prop} (hP : P d.store) (rounds : ℕ) {fd ino : ℕ}
    (hopen : d.OpenAt fd ino 0) {before : StorageIdentity} :
    Ends diskBehaves (during P) (readOpenedMarker rounds fd before)
      (fun r d' => d'.store = d.store ∧
        (r = .invalid ∨ r = markerRead (d.store.data ino))) d := by
  unfold readOpenedMarker
  refine (safe_fstat hP).bindEnds ?_
  rintro after d ⟨rfl, -⟩
  cases after with
  | none => exact ends_return.mpr ⟨rfl, .inl rfl⟩
  | some after =>
    dsimp only
    split
    · exact ends_return.mpr ⟨rfl, .inl rfl⟩
    · refine (ends_readUpTo hP rounds hopen).bind ?_
      rintro ⟨ok, contents⟩ d₁ ⟨hread, hall⟩
      dsimp only at hread hall ⊢
      have hstore := hread.store
      split
      · exact ends_return.mpr ⟨hstore, .inl rfl⟩
      · rename_i hok
        replace hall := hall (Bool.eq_true_of_not_eq_false hok)
        split
        · rename_i hfull
          -- a byte that follows makes the marker invalid
          refine Ends.bind (Q := fun r d' => d'.store = d.store ∧
            (r = .ended → contents = d.store.data ino)) (Ends.retry (fun d₂ h₂ => ?_) rounds hread)
            ?_
          · have hP₂ : P d₂.store := by rwa [h₂.store]
            refine (safe_read hP₂ h₂.opened).mono fun r d₃ h₃ => ?_
            obtain ⟨hstore₃, -, -, hended, hsame⟩ := h₃
            refine ⟨fun hagain => ?_, fun _ => ⟨hstore₃.trans h₂.store, ?_⟩⟩
            · obtain rfl := hsame (.inr (.inl (beq_iff_eq.mp hagain)))
              exact h₂
            · intro hr
              have hrest := (hended hr).resolve_left (by simp)
              rw [h₂.store] at hrest
              exact h₂.whole (List.drop_eq_nil_iff.mp hrest)
          · rintro r d₂ ⟨hstore₂, hended⟩
            cases r with
            | ended =>
              refine ends_return.mpr ⟨hstore₂, .inr ?_⟩
              rw [← hended rfl]
            | data bytes => exact ends_return.mpr ⟨hstore₂, .inl rfl⟩
            | interrupted => exact ends_return.mpr ⟨hstore₂, .inl rfl⟩
            | failed => exact ends_return.mpr ⟨hstore₂, .inl rfl⟩
        · rename_i hshort
          refine ends_return.mpr ⟨hstore, .inr ?_⟩
          rw [← hall.resolve_left hshort]

/-- A marker that is read is the one on disk. -/
theorem marker_of_markerRead {w : World} {data : Bytes} (hfile : w.files .runtime name = some data)
    {read : ParsedMarker} (h : markerRead data = .valid read) :
    w.marker name = some read.marker := by
  rw [World.marker, hfile, Option.bind_some]
  unfold markerRead at h
  cases hparsed : (runtimeMarkerParse data).attach with
  | none => simp [hparsed] at h
  | some marker =>
    simp only [hparsed, Option.elim_some, MarkerRead.valid.injEq] at h
    subst h
    exact marker.2

/-- What `awg_helper_storage_read_runtime_marker` reads is the marker. -/
theorem ends_storageReadRuntimeMarker {P : Store → Prop} (hP : P d.store) (rounds : ℕ) :
    Ends diskBehaves (during P) (storageReadRuntimeMarker rounds name)
      (fun r d' => d'.store = d.store ∧ (r = .missing → d.entry .runtime name = none) ∧
        ∀ read, r = .valid read → d.store.world.marker name = some read.marker) d := by
  unfold storageReadRuntimeMarker
  refine (safe_fstatat hP).bindEnds ?_
  rintro r d ⟨rfl, hseen⟩
  match r, hseen with
  | .error .noEntry, hseen => exact ends_return.mpr ⟨rfl, fun _ => hseen, by simp⟩
  | .error .failed, _ => exact ends_return.mpr ⟨rfl, by simp, by simp⟩
  | .ok before, ⟨ino, hino, _⟩ =>
    dsimp only
    split
    · exact ends_return.mpr ⟨rfl, by simp, by simp⟩
    · refine (safe_openat hP).bindEnds fun opened d₁ h₁ => ?_
      obtain ⟨hstore, -, hopened⟩ := h₁
      cases opened with
      | none => exact ends_return.mpr ⟨hstore, by simp, by simp⟩
      | some fd =>
        obtain ⟨ino', hino', hfd⟩ := hopened fd rfl
        obtain rfl : ino = ino' := Option.some.inj (hino.symm.trans hino')
        have hP₁ : P d₁.store := by rwa [hstore]
        refine (ends_readOpenedMarker hP₁ rounds ⟨hfd⟩).bind ?_
        rintro result d₂ ⟨hstore₂, hresult⟩
        rw [hstore] at hstore₂ hresult
        have hP₂ : P d₂.store := by rwa [hstore₂]
        refine (safe_close hP₂).bindEnds fun _ d₃ h₃ => ends_return.mpr ⟨h₃.trans hstore₂, ?_⟩
        refine ⟨?_, fun read hread => ?_⟩
        · rintro rfl
          rcases hresult with h | h
          · cases h
          · exact absurd h.symm (markerRead_ne_missing _)
        · rcases hresult with rfl | rfl
          · cases hread
          · exact marker_of_markerRead (files_of_entry hino) hread

end NmSidebar
