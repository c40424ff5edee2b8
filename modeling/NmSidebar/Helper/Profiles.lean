import NmSidebar.Helper.Tools
import NmSidebar.AmneziaWG.Config
import NmSidebar.AmneziaWG.ProfileReport

/-!
# Profiles

The saved profiles of the helper (`amneziawg_helper_profiles.c`): import, replacement, listing,
deletion, and the preparation of a profile for an activation.
-/

namespace NmSidebar

open Text Effects

/-! ## Input -/

/-- `awg_helper_profiles_read_input`. -/
def profilesReadInput (deadline : ℤ) : HelperM (Except HelperExit Bytes) := do
  match ← ask (.readStandardInput deadline) with
  | .error failure => return .error failure
  | .ok contents =>
    match configParseEnvelope contents with
    | .ok _ => return .ok contents
    | .error (.rejected .tooLarge _) => return .error .inputTooLarge
    | .error _ => return .error .invalidConfig

/-! ## Candidates -/

/-- The runtime snapshot `write_candidate` makes, and the name of the candidate. -/
structure Candidate where
  tempName : Name
  snapshot : Bytes

/-- The cleanup at the end of `write_candidate`. -/
def discardCandidate (tempName : Name) (result : HelperExit) :
    HelperM (Except HelperExit Candidate) := do
  if ← ask (.removeAndSync .staging tempName) then return .error result
  else return .error .filesystemFailed

/-- `write_candidate`. -/
def writeCandidate (contents : Bytes) (deadline : ℤ) : HelperM (Except HelperExit Candidate) := do
  match configParseEnvelope contents with
  | .error _ => return .error .invalidConfig
  | .ok envelope =>
    match ← ask (.writeStagingCandidate contents) with
    | .notCreated => return .error .filesystemFailed
    | .incomplete tempName => discardCandidate tempName .filesystemFailed
    | .complete tempName =>
      match formatted pathMax (stagingDir ++ ascii "/" ++ tempName) with
      | none => discardCandidate tempName .filesystemFailed
      | some tempPath =>
        let quick ← quickRun .strip tempPath deadline
        if quick.status ≠ .success then
          discardCandidate tempName
            (if quick.status = .awgQuickFailed then .invalidConfig else quick.status)
        else
          match quickConfigBuildSnapshot quick.output envelope with
          | .error _ => discardCandidate tempName .invalidConfig
          | .ok snapshot => return .ok ⟨tempName, snapshot⟩

/-- Removes a candidate that is not needed any more, keeping the result. -/
def removeCandidate (tempName : Name) (result : HelperExit) : HelperM HelperExit := do
  if ← ask (.removeAndSync .staging tempName) then return result
  else return .filesystemFailed

/-- What `load_stored_config` reads. -/
structure StoredConfig where
  original : Bytes
  dns : DnsConfig
  identity : StorageIdentity

/-- `load_stored_config`. -/
def loadStoredConfig (configName : Name) : HelperM (Except HelperExit StoredConfig) := do
  match ← ask (.readConfig configName) with
  | .error failure => return .error failure
  | .ok (contents, identity) =>
    match configParseEnvelope contents with
    | .error _ => return .error .invalidConfig
    | .ok envelope => return .ok ⟨contents, envelope.dns, identity⟩

/-! ## Import and replacement -/

/-- `replacement_target_status`. -/
def replacementTargetStatus (name configName : Name) : HelperM HelperExit := do
  match ← ask (.secureFileState .config configName 0o600) with
  | .missing => return .notFound
  | .invalid => return .filesystemFailed
  | .valid =>
    match ← sessionRuntimeState name with
    | .error failure => return failure
    | .ok state =>
      return if state.marker.isSome then .active
        else if state.interface then .interfaceConflict
        else .success

/-- `awg_helper_profiles_import`. -/
def profilesImport (name configName : Name) (input : Bytes) (deadline : ℤ) :
    HelperM HelperExit := do
  let result ← replacementTargetStatus name configName
  if result = .success then return .replaceConfirmationRequired
  else if result ≠ .notFound then return result
  else
    match ← writeCandidate input deadline with
    | .error failure => return failure
    | .ok candidate =>
      let stop ← phaseStopStatus deadline
      if stop ≠ .success then removeCandidate candidate.tempName stop
      else
        match ← ask (.renameStagingNoreplace candidate.tempName configName) with
        | .renamed =>
          if ← ask .syncConfigAndStaging then phaseStopStatus deadline
          else if ← ask (.removeAndSync .config configName) then return .filesystemFailed
          else return .rollbackFailed
        | .targetExists =>
          let result ← replacementTargetStatus name configName
          removeCandidate candidate.tempName
            (if result = .success then .replaceConfirmationRequired
            else if result = .notFound then .filesystemFailed
            else result)
        | .failed => removeCandidate candidate.tempName .filesystemFailed

/-- `rollback_replacement`. -/
def rollbackReplacement (tempName configName : Name) : HelperM HelperExit := do
  if ← ask (.exchangeStagingConfig tempName configName) then
    if ← ask .syncConfigAndStaging then
      let _ ← ask (.removeAndSync .staging tempName)
      return .filesystemFailed
    else return .rollbackFailed
  else return .rollbackFailed

/-- `awg_helper_profiles_replace`. -/
def profilesReplace (name configName : Name) (input : Bytes) (deadline : ℤ) :
    HelperM HelperExit := do
  let result ← replacementTargetStatus name configName
  if result ≠ .success then return result
  else
    match ← ask (.getConfigIdentity configName) with
    | none => return .filesystemFailed
    | some original =>
      match ← writeCandidate input deadline with
      | .error failure => return failure
      | .ok candidate =>
        let result ← replacementTargetStatus name configName
        if result ≠ .success then removeCandidate candidate.tempName result
        else
          let stop ← phaseStopStatus deadline
          if stop ≠ .success then removeCandidate candidate.tempName stop
          else if ← ask (.exchangeStagingConfig candidate.tempName configName) then
            if ← ask (.displacedMatchesIdentity candidate.tempName original) then
              if ← ask .syncConfigAndStaging then
                if ← ask (.unlinkStaging candidate.tempName) then
                  if ← ask .syncStaging then phaseStopStatus deadline
                  else return .rollbackFailed
                else rollbackReplacement candidate.tempName configName
              else rollbackReplacement candidate.tempName configName
            else rollbackReplacement candidate.tempName configName
          else removeCandidate candidate.tempName .filesystemFailed

/-! ## The inventory -/

/-- `config_entry_name`: the state of an entry's name, and the name without its suffix. -/
def configEntryName (entryName : Name) : EntryState × Name :=
  if entryName.length < 5 ∨ entryName.drop (entryName.length - 5) ≠ ascii ".conf" then
    (.missing, [])
  else
    let name := entryName.take (entryName.length - 5)
    if name.length > maxInterfaceLength then (.invalid, [])
    else if nameIsValid name then (.valid, name)
    else (.invalid, name)

/-- `inspect_profile`. -/
def inspectProfile (configName : Name) (deadline : ℤ) :
    HelperM (HelperExit × ProfileStatus) := do
  match ← ask (.configSecurityState configName) with
  | .invalid => return (.success, .fileSecurity)
  | .missing => return (.success, .changedOrUnreadable)
  | .valid =>
    match ← ask (.secureFileState .config configName 0o600) with
    | .missing | .invalid => return (.success, .changedOrUnreadable)
    | .valid =>
      match ← loadStoredConfig configName with
      | .error failure =>
        return (.success,
          if failure = .invalidConfig then .invalidConfiguration else .changedOrUnreadable)
      | .ok stored =>
        match dnsConfigSerialize stored.dns with
        | none => return (.success, .invalidConfiguration)
        | some _ =>
          -- the protocol check needs `awg-quick`; without it the profile is still offered
          let checked ← writeCandidate stored.original deadline
          match checked with
          | .error .invalidConfig => return (.success, .incompatibleConfiguration)
          | .error .awgQuickUnavailable =>
            if ← ask (.configMatchesIdentity configName stored.identity) then
              return (.success, .available)
            else return (.success, .changedOrUnreadable)
          | .error failure => return (failure, .changedOrUnreadable)
          | .ok candidate =>
            if ← ask (.removeAndSync .staging candidate.tempName) then
              if ← ask (.configMatchesIdentity configName stored.identity) then
                return (.success, .available)
              else return (.success, .changedOrUnreadable)
            else return (.filesystemFailed, .changedOrUnreadable)

/-- The loop of `list_profiles`. The source goes on until the directory ends; `entries` bounds
the entries that are still read. -/
def listProfilesLoop (deadline : ℤ) :
    ℕ → ProfileReport → HelperM (Option (HelperExit × ProfileReport))
  | 0, _ => return none
  | entries + 1, report => do
    let stop ← phaseStopStatus deadline
    if stop ≠ .success then return some (stop, report)
    else
      match ← ask .iteratorNext with
      | .failed => return some (.filesystemFailed, report)
      | .done => return some (.success, report)
      | .entry entryName =>
        match configEntryName entryName with
        | (.missing, _) => listProfilesLoop deadline entries report
        | (.invalid, _) => listProfilesLoop deadline entries { report with complete := false }
        | (.valid, name) =>
          if report.records.length ≥ profileReportMaxRecords then
            return some (.success, { report with complete := false })
          else
            let (result, status) ← inspectProfile entryName deadline
            if result ≠ .success then return some (result, report)
            else
              match report.add name status with
              | none => listProfilesLoop deadline entries { report with complete := false }
              | some report => listProfilesLoop deadline entries report

/-- `list_profiles`; `entries` bounds the directory. -/
def listProfiles (entries : ℕ) (deadline : ℤ) :
    HelperM (Option (HelperExit × ProfileReport)) := do
  if ← ask (.iteratorNew .config) then
    match ← listProfilesLoop deadline entries ⟨[], true⟩ with
    | none => return none
    | some (result, report) =>
      let closed ← ask .iteratorFree
      let result := if ¬closed ∧ result = .success then .filesystemFailed else result
      let result := if result = .success ∧ ¬report.complete then .inventoryPartial else result
      let records := report.records.mergeSort fun left right => nameLe left.1 right.1
      return some (result, { report with records })
  else return some (.filesystemFailed, ⟨[], true⟩)

/-- `awg_helper_profiles_list`. -/
def profilesList (entries : ℕ) (deadline : ℤ) : HelperM (Option HelperExit) := do
  match ← listProfiles entries deadline with
  | none => return none
  | some (result, report) =>
    if result = .success ∨ result = .inventoryPartial then
      match report.encode with
      | none => return some .childSetupFailed
      | some output =>
        if ← ask (.writeStandardOutput output) then return some result
        else return some .childSetupFailed
    else return some result

/-! ## Deletion -/

/-- `awg_helper_profiles_delete`. -/
def profilesDelete (name configName : Name) (deadline : ℤ) : HelperM HelperExit := do
  let configState ← ask (.secureFileState .config configName 0o600)
  if configState = .invalid then return .filesystemFailed
  else
    match ← sessionRuntimeState name with
    | .error failure => return failure
    | .ok state =>
      if state.marker.isSome then return .active
      else if state.interface then return .interfaceConflict
      else
        let stop ← phaseStopStatus deadline
        if stop ≠ .success then return stop
        else if configState ≠ .missing then
          if ← ask (.removeAndSync .config configName) then phaseStopStatus deadline
          else return .filesystemFailed
        else phaseStopStatus deadline

/-! ## Preparation -/

/-- `AwgHelperPreparedProfile`, after `awg_helper_profiles_prepare_runtime`. -/
structure PreparedProfile where
  runtimeSnapshot : Bytes
  dns : DnsConfig

/-- `awg_helper_profiles_prepare_runtime`. -/
def profilesPrepareRuntime (configName : Name) (deadline : ℤ) :
    HelperM (Except HelperExit PreparedProfile) := do
  match ← loadStoredConfig configName with
  | .error failure => return .error failure
  | .ok stored =>
    match ← writeCandidate stored.original deadline with
    | .error failure => return .error failure
    | .ok candidate =>
      if ← ask (.removeAndSync .staging candidate.tempName) then
        return .ok ⟨candidate.snapshot, stored.dns⟩
      else return .error .filesystemFailed

/-- `awg_helper_prepared_profile_add_link_claim`. -/
def PreparedProfile.addLinkClaim (prepared : PreparedProfile) (linkToken : Bytes) :
    Option PreparedProfile :=
  match quickConfigAddLinkClaim prepared.runtimeSnapshot linkToken with
  | .error _ => none
  | .ok claimed => some { prepared with runtimeSnapshot := claimed }

end NmSidebar
