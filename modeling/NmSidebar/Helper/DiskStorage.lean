import NmSidebar.Helper.Disk
import NmSidebar.Helper.RuntimeListing
import NmSidebar.Program.Loops

/-!
# The storage functions

The functions of `amneziawg_helper_storage.c` that `Helper/Operations.lean` takes for single
operations, as the system calls that they make. Each loop over a call that may be interrupted is
looked at for so many `rounds`.
-/

namespace NmSidebar

open Text Effects

/-! ## Looking at files -/

/-- `secure_file_state_at`. -/
def secureFileStateAt (area : StorageArea) (name : Name) (mode : ℕ) : DiskM EntryState := do
  match ← diskCall (.fstatat area name) with
  | .error .noEntry => return .missing
  | .error .failed => return .invalid
  | .ok before =>
    if before.isSecure mode = false then return .invalid
    else
      match ← diskCall (.openat area name) with
      | none => return .invalid
      | some fd =>
        let after ← diskCall (.fstat fd)
        let _ ← diskCall (.close fd)
        match after with
        | none => return .invalid
        | some after =>
          return if after.dev = before.dev ∧ after.ino = before.ino ∧ after.isSecure mode then .valid
            else .invalid

/-- `awg_helper_storage_config_security_state`. -/
def storageConfigSecurityState (configName : Name) : DiskM EntryState := do
  match ← diskCall (.fstatat .config configName) with
  | .error .noEntry => return .missing
  | .error .failed => return .invalid
  | .ok status => return if status.isSecure 0o600 then .valid else .invalid

/-- `same_config_metadata`. -/
def sameConfigMetadata (left right : StorageIdentity) : Bool := left == right

/-- `awg_helper_storage_get_config_identity`. -/
def storageGetConfigIdentity (configName : Name) : DiskM (Option StorageIdentity) := do
  match ← diskCall (.fstatat .config configName) with
  | .error _ => return none
  | .ok status => return if status.isSecure 0o600 then some status else none

/-- `awg_helper_storage_config_matches_identity`. -/
def storageConfigMatchesIdentity (configName : Name) (identity : StorageIdentity) :
    DiskM Bool := do
  match ← diskCall (.fstatat .config configName) with
  | .error _ => return false
  | .ok current => return sameConfigMetadata identity current

/-- `awg_helper_storage_displaced_matches_identity`: a rename changes the time of the last
change. -/
def storageDisplacedMatchesIdentity (tempName : Name) (original : StorageIdentity) :
    DiskM Bool := do
  match ← diskCall (.fstatat .staging tempName) with
  | .error _ => return false
  | .ok displaced => return sameConfigMetadata { displaced with ctime := original.ctime } original

/-! ## Reading files -/

/-- The reads of `read_secure_file_at`, `awg_helper_storage_read_config` and
`awg_helper_storage_read_runtime_marker`: up to `size` bytes, and whether the last read failed. -/
def readUpTo (rounds fd size : ℕ) : DiskLoopM (Bool × Bytes) :=
  Prog.loop (fun contents : Bytes =>
    if contents.length < size then do
      match ← (liftM (diskCall (.read fd (size - contents.length))) : DiskLoopM ReadReply) with
      | .data bytes => return .again (contents ++ bytes)
      | .interrupted => return .again contents
      | .ended => return .done (true, contents)
      | .failed => return .done (false, contents)
    else return .done (true, contents)) rounds []

/-- What `read_secure_file_at` does with an open file. -/
def readOpenedFile (rounds fd : ℕ) (before : StorageIdentity) : DiskLoopM (Option Bytes) := do
  match ← (liftM (diskCall (.fstat fd)) : DiskLoopM (Option StorageIdentity)) with
  | none => return none
  | some after =>
    if after.dev ≠ before.dev ∨ after.ino ≠ before.ino then return none
    else
      let (ok, contents) ← readUpTo rounds fd before.size
      if ok = false ∨ contents.length < before.size then return none
      else
        match ← (liftM (diskCall (.fstat fd)) : DiskLoopM (Option StorageIdentity)) with
        | none => return none
        | some after =>
          if after.dev ≠ before.dev ∨ after.ino ≠ before.ino ∨ after.size ≠ before.size then
            return none
          else return some contents

/-- `read_secure_file_at`. -/
def readSecureFileAt (rounds : ℕ) (area : StorageArea) (name : Name) (mode maximumSize : ℕ) :
    DiskLoopM (Option Bytes) := do
  match ← (liftM (diskCall (.fstatat area name)) :
      DiskLoopM (Except LookupFailure StorageIdentity)) with
  | .error _ => return none
  | .ok before =>
    if before.isSecure mode = false ∨ before.size > maximumSize then return none
    else
      match ← (liftM (diskCall (.openat area name)) : DiskLoopM (Option ℕ)) with
      | none => return none
      | some fd =>
        let contents ← readOpenedFile rounds fd before
        let _ ← (liftM (diskCall (.close fd)) : DiskLoopM Bool)
        return contents

/-- What `awg_helper_storage_read_config` does with an open file. -/
def readOpenedConfig (rounds fd : ℕ) (configName : Name) (before : StorageIdentity) :
    DiskLoopM (Except HelperExit (Bytes × StorageIdentity)) := do
  match ← (liftM (diskCall (.fstat fd)) : DiskLoopM (Option StorageIdentity)) with
  | none => return .error .filesystemFailed
  | some opened =>
    if sameConfigMetadata before opened = false then return .error .filesystemFailed
    else
      let (ok, contents) ← readUpTo rounds fd (maxConfigSize + 1)
      if ok = false then return .error .inputFailed
      else if contents.length > maxConfigSize then return .error .invalidConfig
      else if contents.length ≠ opened.size then return .error .filesystemFailed
      else
        match ← (liftM (diskCall (.fstat fd)) : DiskLoopM (Option StorageIdentity)) with
        | none => return .error .filesystemFailed
        | some after =>
          if sameConfigMetadata opened after = false then return .error .filesystemFailed
          else
            match ← (liftM (diskCall (.fstatat .config configName)) :
                DiskLoopM (Except LookupFailure StorageIdentity)) with
            | .error _ => return .error .filesystemFailed
            | .ok current =>
              if sameConfigMetadata after current = false then return .error .filesystemFailed
              else return .ok (contents, current)

/-- `awg_helper_storage_read_config`. -/
def storageReadConfig (rounds : ℕ) (configName : Name) :
    DiskLoopM (Except HelperExit (Bytes × StorageIdentity)) := do
  match ← (liftM (diskCall (.fstatat .config configName)) :
      DiskLoopM (Except LookupFailure StorageIdentity)) with
  | .error .noEntry => return .error .notFound
  | .error .failed => return .error .filesystemFailed
  | .ok before =>
    if before.isSecure 0o600 = false then return .error .filesystemFailed
    else if before.size > maxConfigSize then return .error .invalidConfig
    else
      match ← (liftM (diskCall (.openat .config configName)) : DiskLoopM (Option ℕ)) with
      | none => return .error .filesystemFailed
      | some fd =>
        let result ← readOpenedConfig rounds fd configName before
        let _ ← (liftM (diskCall (.close fd)) : DiskLoopM Bool)
        return result

/-- A file that is read as a marker. -/
def markerRead (data : Bytes) : MarkerRead :=
  (runtimeMarkerParse data).attach.elim .invalid fun marker => .valid ⟨marker.1, data, marker.2⟩

@[simp] theorem markerRead_ne_missing (data : Bytes) : markerRead data ≠ .missing := by
  unfold markerRead
  cases (runtimeMarkerParse data).attach <;> simp

/-- What `awg_helper_storage_read_runtime_marker` does with an open file. A file that fills the
buffer may not go on after it. -/
def readOpenedMarker (rounds fd : ℕ) (before : StorageIdentity) : DiskLoopM MarkerRead := do
  match ← (liftM (diskCall (.fstat fd)) : DiskLoopM (Option StorageIdentity)) with
  | none => return .invalid
  | some after =>
    if after.dev ≠ before.dev ∨ after.ino ≠ before.ino ∨ after.isSecure 0o644 = false then
      return .invalid
    else
      let (ok, contents) ← readUpTo rounds fd maxRuntimeMarkerSize
      if ok = false then return .invalid
      else if contents.length = maxRuntimeMarkerSize then
        match ← Prog.retry (· == ReadReply.interrupted) (diskCall (.read fd 1)) rounds with
        | .ended => return markerRead contents
        | .data _ | .interrupted | .failed => return .invalid
      else return markerRead contents

/-- `awg_helper_storage_read_runtime_marker`. -/
def storageReadRuntimeMarker (rounds : ℕ) (name : Name) : DiskLoopM MarkerRead := do
  match ← (liftM (diskCall (.fstatat .runtime name)) :
      DiskLoopM (Except LookupFailure StorageIdentity)) with
  | .error .noEntry => return .missing
  | .error .failed => return .invalid
  | .ok before =>
    if before.isSecure 0o644 = false then return .invalid
    else
      match ← (liftM (diskCall (.openat .runtime name)) : DiskLoopM (Option ℕ)) with
      | none => return .invalid
      | some fd =>
        let result ← readOpenedMarker rounds fd before
        let _ ← (liftM (diskCall (.close fd)) : DiskLoopM Bool)
        return result

/-! ## Temporary files -/

/-- The random bytes of `create_temp_config_at`. -/
def randomBytes (rounds : ℕ) : DiskLoopM (Option Bytes) :=
  Prog.loop (fun drawn : Bytes =>
    if drawn.length < randomSize then do
      match ← (liftM (diskCall (.getrandom (randomSize - drawn.length))) :
          DiskLoopM ReadReply) with
      | .data bytes => return .again (drawn ++ bytes)
      | .interrupted => return .again drawn
      | .ended | .failed => return .done none
    else return .done (some drawn)) rounds []

/-- The loop of `create_temp_config_at`. -/
def createTempUpTo (rounds : ℕ) (area : StorageArea) : ℕ → DiskLoopM (Option (ℕ × Name))
  | 0 => return none
  | attempts + 1 => do
    match ← randomBytes rounds with
    | none => return none
    | some drawn =>
      match ← (liftM (diskCall (.createat area (tempNameOf drawn))) : DiskLoopM CreateReply) with
      | .created fd => return some (fd, tempNameOf drawn)
      | .taken => createTempUpTo rounds area attempts
      | .failed => return none

/-- The size of every buffer `temp_name`. -/
def tempNameSize : ℕ := 64

/-- `create_temp_config_at`, with the descriptor that it returns. -/
def createTempFile (rounds : ℕ) (area : StorageArea) (nameSize : ℕ) :
    DiskLoopM (Option (ℕ × Name)) :=
  if nameSize < maxInterfaceLength + 6 then return none
  else createTempUpTo rounds area 128

/-- `awg_helper_write_all`. -/
def helperWriteAll (rounds fd : ℕ) (contents : Bytes) : DiskLoopM Bool :=
  Prog.loop (fun offset : ℕ =>
    if offset < contents.length then do
      if ← (liftM (diskCall .terminationRequested) : DiskLoopM Bool) then return .done false
      else
        match ← (liftM (diskCall (.write fd (contents.drop offset))) : DiskLoopM WriteReply) with
        | .wrote count => return if count = 0 then .done false else .again (offset + count)
        | .interrupted => return .again offset
        | .failed => return .done false
    else return .done true) rounds 0

/-- What is done to a new file before it gets its name. -/
def prepareTemp (rounds fd : ℕ) (contents : Bytes) (mode : ℕ) : DiskLoopM Bool := do
  if ← (liftM (diskCall (.fchown fd 0 0)) : DiskLoopM Bool) then
    if ← (liftM (diskCall (.fchmod fd mode)) : DiskLoopM Bool) then
      if ← helperWriteAll rounds fd contents then
        liftM (diskCall (.fsync fd))
      else return false
    else return false
  else return false

/-- `awg_helper_storage_write_staging_candidate`. -/
def storageWriteStagingCandidate (rounds : ℕ) (contents : Bytes) : DiskLoopM StagingCandidate := do
  match ← createTempFile rounds .staging tempNameSize with
  | none => return .notCreated
  | some (temp, tempName) =>
    let ok ← prepareTemp rounds temp contents 0o600
    let _ ← (liftM (diskCall (.close temp)) : DiskLoopM Bool)
    return if ok then .complete tempName else .incomplete tempName

/-! ## Changing directories -/

/-- `remove_entry_and_sync_at`. -/
def removeEntryAndSyncAt (area : StorageArea) (name : Name) : DiskM Bool := do
  match ← diskCall (.unlinkat area name) with
  | .error .failed => return false
  | .ok _ | .error .noEntry => diskCall (.fsyncDirectory area)

/-- The end of `atomic_write_at`, where the new file is complete. -/
def publishTemp (area : StorageArea) (temp : ℕ) (tempName target : Name) : DiskM Bool := do
  if ← diskCall (.close temp) then
    if ← diskCall (.renameat area tempName target) then diskCall (.fsyncDirectory area)
    else return false
  else return false

/-- `atomic_write_at`. -/
def atomicWriteAt (rounds : ℕ) (area : StorageArea) (target : Name) (contents : Bytes)
    (mode : ℕ) : DiskLoopM Bool := do
  match ← createTempFile rounds area tempNameSize with
  | none => return false
  | some (temp, tempName) =>
    if ← prepareTemp rounds temp contents mode then
      if ← (liftM (publishTemp area temp tempName target) : DiskLoopM Bool) then
        let state ← (liftM (secureFileStateAt area target mode) : DiskLoopM EntryState)
        return state == .valid
      else
        let _ ← (liftM (removeEntryAndSyncAt area tempName) : DiskLoopM Bool)
        return false
    else
      let _ ← (liftM (diskCall (.close temp)) : DiskLoopM Bool)
      let _ ← (liftM (removeEntryAndSyncAt area tempName) : DiskLoopM Bool)
      return false

/-- `awg_helper_storage_unlink_staging`. -/
def storageUnlinkStaging (name : Name) : DiskM Bool := do
  match ← diskCall (.unlinkat .staging name) with
  | .ok _ => return true
  | .error _ => return false

/-- `awg_helper_storage_sync_config_and_staging`. -/
def storageSyncConfigAndStaging : DiskM Bool := do
  if ← diskCall (.fsyncDirectory .config) then diskCall (.fsyncDirectory .staging)
  else return false

/-- `awg_helper_storage_write_runtime_marker`. -/
def storageWriteRuntimeMarker (rounds : ℕ) (name : Name) (marker : RuntimeMarker) :
    DiskLoopM Bool :=
  match runtimeMarkerSerialize marker with
  | none => return false
  | some contents => atomicWriteAt rounds .runtime name contents 0o644

/-! ## Scans -/

/-- `awg_helper_storage_iterator_new`. -/
def storageIteratorNew (area : StorageArea) : DiskM Bool := do
  if ← diskCall (.openScan area) then
    if ← diskCall (.fdopendir area) then return true
    else
      diskCall .closeScan
      return false
  else return false

/-! ## The operations -/

/-- The operations that are storage functions. -/
def HelperCall.isStorage : HelperCall → Bool
  | secureFileState .. | configSecurityState _ | readSecureFile .. | readConfig _ => true
  | writeStagingCandidate _ | atomicWrite .. | removeAndSync .. | unlinkStaging _ => true
  | renameStagingNoreplace .. | exchangeStagingConfig .. | syncConfigAndStaging => true
  | syncStaging | getConfigIdentity _ | configMatchesIdentity .. => true
  | displacedMatchesIdentity .. | iteratorNew _ | iteratorNext | iteratorFree => true
  | readRuntimeMarker _ | writeRuntimeMarker .. => true
  | _ => false

/-- The storage functions in place of the operations; the other operations stay. -/
def storageProgram (rounds : ℕ) : (o : HelperCall) → DiskLoopM o.Reply
  | .secureFileState area name mode => liftM (secureFileStateAt area name mode)
  | .configSecurityState configName => liftM (storageConfigSecurityState configName)
  | .readSecureFile area name mode maximumSize =>
    readSecureFileAt rounds area name mode maximumSize
  | .readConfig configName => storageReadConfig rounds configName
  | .writeStagingCandidate contents => storageWriteStagingCandidate rounds contents
  | .atomicWrite area target contents mode => atomicWriteAt rounds area target contents mode
  | .removeAndSync area name => liftM (removeEntryAndSyncAt area name)
  | .unlinkStaging name => liftM (storageUnlinkStaging name)
  | .renameStagingNoreplace tempName configName =>
    liftM (diskCall (.renameNoreplace tempName configName))
  | .exchangeStagingConfig tempName configName =>
    liftM (diskCall (.renameExchange tempName configName))
  | .syncConfigAndStaging => liftM storageSyncConfigAndStaging
  | .syncStaging => liftM (diskCall (.fsyncDirectory .staging))
  | .getConfigIdentity configName => liftM (storageGetConfigIdentity configName)
  | .configMatchesIdentity configName identity =>
    liftM (storageConfigMatchesIdentity configName identity)
  | .displacedMatchesIdentity tempName identity =>
    liftM (storageDisplacedMatchesIdentity tempName identity)
  | .iteratorNew area => liftM (storageIteratorNew area)
  | .iteratorNext => liftM (diskCall .readdir)
  | .iteratorFree => liftM (diskCall .closedir)
  | .readRuntimeMarker name => storageReadRuntimeMarker rounds name
  | .writeRuntimeMarker name marker => storageWriteRuntimeMarker rounds name marker
  | o => liftM (diskCall (.other o))

end NmSidebar
