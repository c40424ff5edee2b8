import NmSidebar.Helper.ActivationSafety

/-!
# What the other programs use

The programs that list, check, prepare and manage profiles touch no session. Each changes at most
the saved profile it is about.
-/

namespace NmSidebar

open Text Effects

/-! ## Operations on profiles -/

/-- The saved profile that an operation puts into its place or removes. -/
def HelperCall.touchesProfile : HelperCall → Option Name
  | renameStagingNoreplace _ configName | exchangeStagingConfig _ configName => some configName
  | removeAndSync .config configName => some configName
  | _ => none

/-- An operation that touches no session, and no saved profile but `profile`. -/
def HelperCall.WorksOn (profile : Option Name) (o : HelperCall) : Prop :=
  o.isPassive = true ∨ ∃ configName, profile = some configName ∧ o.touchesProfile = some configName

/-- An operation on one saved profile leaves the others as they were. -/
theorem profile_of_touches {configName configName' : Name} {o : HelperCall} {w w' : World}
    {r : o.Reply} (h : behaves o w r w') (ho : o.touchesProfile = some configName')
    (hne : configName ≠ configName') : w'.files .config configName = w.files .config configName := by
  have hrename : ∀ {w : World} {tempName : Name} {staged saved : Option Bytes},
      ((w.setFile .staging tempName staged).setFile .config configName' saved).files .config
        configName = w.files .config configName := by
    intro w tempName staged saved
    rw [files_setFile_ne (.inr hne), files_setFile_ne (.inl (by simp))]
  cases o with
  | removeAndSync area name =>
    cases area with
    | config =>
      cases ho
      cases h with
      | kept => rfl
      | removed | unsynced => exact files_setFile_ne (.inr hne)
    | staging | runtime | runtimeConfigs => cases ho
  | renameStagingNoreplace tempName configName =>
    cases ho
    cases h with
    | renamed => exact hrename
    | targetExists | failed => rfl
  | exchangeStagingConfig tempName configName =>
    cases ho
    cases h with
    | exchanged => exact hrename
    | failed => rfl
  | _ => cases ho

/-- An operation on a saved profile leaves the sessions alone. -/
theorem of_touches {configName : Name} {o : HelperCall} (h : o.touchesProfile = some configName) :
    o.isRecorded = false ∧ o.changesArea .runtime = false ∧ o.changesArea .runtimeConfigs = false ∧
      o ≠ .compareExchangeCommitted := by
  cases o with
  | removeAndSync area name =>
    cases area with
    | config => exact ⟨rfl, rfl, rfl, by simp⟩
    | staging | runtime | runtimeConfigs => cases h
  | renameStagingNoreplace | exchangeStagingConfig => exact ⟨rfl, rfl, rfl, by simp⟩
  | _ => cases h

variable {profile : Option Name}

/-- One operation, and what is left of the program. -/
theorem uses_ask {α : Type} {P : HelperCall → Prop} {o : HelperCall} {f : o.Reply → HelperM α}
    (ho : P o) (hf : ∀ r, (f r).Uses P) : (ask o >>= f).Uses P :=
  Prog.Uses.bind (show (ask o).Uses P from ⟨ho, fun _ => trivial⟩) hf

theorem worksOn_ask {o : HelperCall} (ho : o.WorksOn profile) :
    (ask o).Uses (HelperCall.WorksOn profile) :=
  ⟨ho, fun _ => trivial⟩

theorem worksOn_phaseStopStatus (deadline : ℤ) :
    (phaseStopStatus deadline).Uses (HelperCall.WorksOn profile) := by
  refine uses_ask (.inl rfl) fun stopped => ?_
  cases stopped with
  | true => trivial
  | false => exact uses_ask (.inl rfl) fun _ => trivial

theorem worksOn_phaseFailureOr (deadline : ℤ) (fallback : HelperExit) :
    (phaseFailureOr deadline fallback).Uses (HelperCall.WorksOn profile) :=
  (worksOn_phaseStopStatus deadline).bind fun _ => trivial

theorem worksOn_sessionRuntimeState (name : Name) :
    (sessionRuntimeState name).Uses (HelperCall.WorksOn profile) := by
  refine uses_ask (.inl rfl) fun read => ?_
  cases read with
  | invalid => trivial
  | missing | valid => exact uses_ask (.inl rfl) fun _ => trivial

theorem worksOn_quickRun_strip (configPath : Bytes) (deadline : ℤ) :
    (quickRun .strip configPath deadline).Uses (HelperCall.WorksOn profile) := by
  refine (worksOn_phaseStopStatus deadline).bind fun stop => ?_
  split
  · trivial
  refine uses_ask (.inl rfl) fun opened => ?_
  cases opened with
  | false => trivial
  | true => exact uses_ask (.inl rfl) fun _ => trivial

/-! ## Candidates -/

theorem worksOn_discardCandidate (tempName : Name) (result : HelperExit) :
    (discardCandidate tempName result).Uses (HelperCall.WorksOn profile) := by
  refine uses_ask (.inl rfl) fun removed => ?_
  cases removed <;> trivial

theorem worksOn_removeCandidate (tempName : Name) (result : HelperExit) :
    (removeCandidate tempName result).Uses (HelperCall.WorksOn profile) := by
  refine uses_ask (.inl rfl) fun removed => ?_
  cases removed <;> trivial

theorem worksOn_writeCandidate (contents : Bytes) (deadline : ℤ) :
    (writeCandidate contents deadline).Uses (HelperCall.WorksOn profile) := by
  unfold writeCandidate
  split
  · trivial
  refine uses_ask (.inl rfl) fun candidate => ?_
  cases candidate with
  | notCreated => trivial
  | incomplete tempName => exact worksOn_discardCandidate tempName _
  | complete tempName =>
    dsimp only
    split
    · exact worksOn_discardCandidate tempName _
    refine (worksOn_quickRun_strip _ deadline).bind fun quick => ?_
    split
    · exact worksOn_discardCandidate tempName _
    split
    · exact worksOn_discardCandidate tempName _
    · trivial

theorem worksOn_loadStoredConfig (configName : Name) :
    (loadStoredConfig configName).Uses (HelperCall.WorksOn profile) := by
  refine uses_ask (.inl rfl) fun read => ?_
  rcases read with failure | ⟨contents, identity⟩
  · trivial
  · dsimp only
    split <;> trivial

theorem worksOn_replacementTargetStatus (name configName : Name) :
    (replacementTargetStatus name configName).Uses (HelperCall.WorksOn profile) := by
  refine uses_ask (.inl rfl) fun state => ?_
  cases state with
  | missing | invalid => trivial
  | valid =>
    refine (worksOn_sessionRuntimeState name).bind fun seen => ?_
    cases seen <;> trivial

/-! ## Import, replacement and deletion -/

theorem worksOn_profilesReadInput (deadline : ℤ) :
    (profilesReadInput deadline).Uses (HelperCall.WorksOn profile) := by
  refine uses_ask (.inl rfl) fun read => ?_
  cases read with
  | error failure => trivial
  | ok contents =>
    dsimp only
    split <;> trivial

theorem worksOn_profilesImport (name configName : Name) (input : Bytes) (deadline : ℤ) :
    (profilesImport name configName input deadline).Uses
      (HelperCall.WorksOn (some configName)) := by
  refine (worksOn_replacementTargetStatus name configName).bind fun result => ?_
  split
  · trivial
  split
  · trivial
  refine (worksOn_writeCandidate input deadline).bind fun written => ?_
  cases written with
  | error failure => trivial
  | ok candidate =>
    refine (worksOn_phaseStopStatus deadline).bind fun stop => ?_
    split
    · exact worksOn_removeCandidate _ _
    refine uses_ask (.inr ⟨_, rfl, rfl⟩) fun outcome => ?_
    cases outcome with
    | failed => exact worksOn_removeCandidate _ _
    | targetExists =>
      exact (worksOn_replacementTargetStatus name configName).bind
        fun _ => worksOn_removeCandidate _ _
    | renamed =>
      refine uses_ask (.inl rfl) fun synced => ?_
      cases synced with
      | true => exact worksOn_phaseStopStatus deadline
      | false =>
        refine uses_ask (.inr ⟨_, rfl, rfl⟩) fun removed => ?_
        cases removed <;> trivial

theorem worksOn_rollbackReplacement (tempName configName : Name) :
    (rollbackReplacement tempName configName).Uses (HelperCall.WorksOn (some configName)) := by
  refine uses_ask (.inr ⟨_, rfl, rfl⟩) fun exchanged => ?_
  cases exchanged with
  | false => trivial
  | true =>
    refine uses_ask (.inl rfl) fun synced => ?_
    cases synced with
    | false => trivial
    | true => exact uses_ask (.inl rfl) fun _ => trivial

theorem worksOn_profilesReplace (name configName : Name) (input : Bytes) (deadline : ℤ) :
    (profilesReplace name configName input deadline).Uses
      (HelperCall.WorksOn (some configName)) := by
  refine (worksOn_replacementTargetStatus name configName).bind fun result => ?_
  split
  · trivial
  refine uses_ask (.inl rfl) fun identity => ?_
  cases identity with
  | none => trivial
  | some original =>
    refine (worksOn_writeCandidate input deadline).bind fun written => ?_
    cases written with
    | error failure => trivial
    | ok candidate =>
      refine (worksOn_replacementTargetStatus name configName).bind fun result => ?_
      split
      · exact worksOn_removeCandidate _ _
      refine (worksOn_phaseStopStatus deadline).bind fun stop => ?_
      split
      · exact worksOn_removeCandidate _ _
      refine uses_ask (.inr ⟨_, rfl, rfl⟩) fun exchanged => ?_
      cases exchanged with
      | false => exact worksOn_removeCandidate _ _
      | true =>
        refine uses_ask (.inl rfl) fun same => ?_
        cases same with
        | false => exact worksOn_rollbackReplacement _ configName
        | true =>
          refine uses_ask (.inl rfl) fun synced => ?_
          cases synced with
          | false => exact worksOn_rollbackReplacement _ configName
          | true =>
            refine uses_ask (.inl rfl) fun unlinked => ?_
            cases unlinked with
            | false => exact worksOn_rollbackReplacement _ configName
            | true =>
              refine uses_ask (.inl rfl) fun synced => ?_
              cases synced with
              | false => trivial
              | true => exact worksOn_phaseStopStatus deadline

theorem worksOn_profilesDelete (name configName : Name) (deadline : ℤ) :
    (profilesDelete name configName deadline).Uses (HelperCall.WorksOn (some configName)) := by
  refine uses_ask (.inl rfl) fun configState => ?_
  split
  · trivial
  refine (worksOn_sessionRuntimeState name).bind fun seen => ?_
  cases seen with
  | error failure => trivial
  | ok state =>
    dsimp only
    split
    · trivial
    split
    · trivial
    refine (worksOn_phaseStopStatus deadline).bind fun stop => ?_
    split
    · trivial
    split
    · refine uses_ask (.inr ⟨_, rfl, rfl⟩) fun removed => ?_
      cases removed with
      | false => trivial
      | true => exact worksOn_phaseStopStatus deadline
    · exact worksOn_phaseStopStatus deadline

/-! ## The inventory -/

theorem worksOn_inspectProfile (configName : Name) (deadline : ℤ) :
    (inspectProfile configName deadline).Uses (HelperCall.WorksOn profile) := by
  refine uses_ask (.inl rfl) fun security => ?_
  cases security with
  | invalid | missing => trivial
  | valid =>
    refine uses_ask (.inl rfl) fun state => ?_
    cases state with
    | missing | invalid => trivial
    | valid =>
      refine (worksOn_loadStoredConfig configName).bind fun loaded => ?_
      cases loaded with
      | error failure => trivial
      | ok stored =>
        dsimp only
        split
        · trivial
        refine (worksOn_writeCandidate _ deadline).bind fun checked => ?_
        split
        · trivial
        · refine uses_ask (.inl rfl) fun same => ?_
          cases same <;> trivial
        · trivial
        · refine uses_ask (.inl rfl) fun removed => ?_
          cases removed with
          | false => trivial
          | true =>
            refine uses_ask (.inl rfl) fun same => ?_
            cases same <;> trivial

/-- The directory is read to its end, whatever it holds. -/
theorem worksOn_listProfilesLoop (deadline : ℤ) (entries : ℕ) (report : ProfileReport) :
    (listProfilesLoop deadline entries report).Uses (HelperCall.WorksOn profile) := by
  induction entries generalizing report with
  | zero => trivial
  | succ entries ih =>
    refine (worksOn_phaseStopStatus deadline).bind fun stop => ?_
    split
    · trivial
    refine uses_ask (.inl rfl) fun next => ?_
    cases next with
    | failed | done => trivial
    | entry entryName =>
      dsimp only
      split
      · exact ih report
      · exact ih _
      · split
        · trivial
        refine (worksOn_inspectProfile entryName deadline).bind fun inspected => ?_
        split
        · trivial
        split
        · exact ih _
        · exact ih _

theorem worksOn_profilesList (entries : ℕ) (deadline : ℤ) :
    (profilesList entries deadline).Uses (HelperCall.WorksOn profile) := by
  have hlist : (listProfiles entries deadline).Uses (HelperCall.WorksOn profile) := by
    refine uses_ask (.inl rfl) fun opened => ?_
    cases opened with
    | false => trivial
    | true =>
      refine (worksOn_listProfilesLoop deadline entries _).bind fun listed => ?_
      rcases listed with _ | ⟨result, report⟩
      · trivial
      · exact uses_ask (.inl rfl) fun _ => trivial
  refine hlist.bind fun listed => ?_
  rcases listed with _ | ⟨result, report⟩
  · trivial
  · dsimp only
    split
    · split
      · trivial
      · refine uses_ask (.inl rfl) fun written => ?_
        cases written <;> trivial
    · trivial

/-! ## Preparation and admission -/

theorem worksOn_profilesPrepareRuntime (configName : Name) (deadline : ℤ) :
    (profilesPrepareRuntime configName deadline).Uses (HelperCall.WorksOn profile) := by
  refine (worksOn_loadStoredConfig configName).bind fun loaded => ?_
  cases loaded with
  | error failure => trivial
  | ok stored =>
    refine (worksOn_writeCandidate _ deadline).bind fun written => ?_
    cases written with
    | error failure => trivial
    | ok candidate =>
      refine uses_ask (.inl rfl) fun removed => ?_
      cases removed <;> trivial

theorem worksOn_dnsSelectBackend (dns : DnsConfig) (deadline : ℤ) :
    (dnsSelectBackend dns deadline).Uses (HelperCall.WorksOn profile) := by
  have hdeadline : (resolvedOperationDeadline deadline).Uses (HelperCall.WorksOn profile) := by
    refine uses_ask (.inl rfl) fun now => ?_
    dsimp only
    split <;> trivial
  unfold dnsSelectBackend
  split
  · trivial
  refine hdeadline.bind fun operationDeadline => ?_
  cases operationDeadline with
  | none => trivial
  | some operationDeadline =>
    refine uses_ask (.inl rfl) fun cancellable => ?_
    cases cancellable with
    | false => trivial
    | true =>
      refine uses_ask (.inl rfl) fun bus => ?_
      cases bus with
      | false => trivial
      | true =>
        refine uses_ask (.inl rfl) fun owner => ?_
        cases owner with
        | error | yes => trivial
        | no =>
          refine uses_ask (.inl rfl) fun opened => ?_
          cases opened <;> trivial

theorem worksOn_listRuntimeLoop (deadline : ℤ) (remaining : ℕ)
    (found : FoundNames) :
    (listRuntimeLoop deadline remaining found).Uses (HelperCall.WorksOn profile) := by
  induction remaining generalizing found with
  | zero =>
    rw [listRuntimeLoop]
    refine (worksOn_phaseStopStatus deadline).bind fun stop => ?_
    split
    · trivial
    refine uses_ask (.inl rfl) fun next => ?_
    cases next <;> trivial
  | succ remaining ih =>
    rw [listRuntimeLoop]
    refine (worksOn_phaseStopStatus deadline).bind fun stop => ?_
    split
    · trivial
    refine uses_ask (.inl rfl) fun next => ?_
    cases next with
    | done | failed => trivial
    | entry name =>
      dsimp only
      split
      · exact ih found
      split
      · split
        · trivial
        · exact ih _
      · trivial

theorem worksOn_storageListRuntimeNames (deadline : ℤ) :
    (storageListRuntimeNames deadline).Uses (HelperCall.WorksOn profile) := by
  refine (worksOn_phaseStopStatus deadline).bind fun stop => ?_
  split
  · trivial
  refine uses_ask (.inl rfl) fun opened => ?_
  cases opened with
  | false => trivial
  | true =>
    refine (worksOn_listRuntimeLoop deadline _ _).bind fun listed => ?_
    refine uses_ask (.inl rfl) fun closed => ?_
    cases closed with
    | false => trivial
    | true =>
      cases listed with
      | error failure => trivial
      | ok names =>
        refine (worksOn_phaseStopStatus deadline).bind fun stop => ?_
        split <;> trivial

theorem worksOn_checkRuntimeFiles (name configName : Name) (journal : RuntimeMarker) :
    (checkRuntimeFiles name configName journal).Uses (HelperCall.WorksOn profile) := by
  have hload : (loadRuntimeDns name).Uses (HelperCall.WorksOn profile) := by
    unfold loadRuntimeDns
    split
    · trivial
    refine uses_ask (.inl rfl) fun contents => ?_
    cases contents <;> trivial
  refine hload.bind fun dns => ?_
  cases dns with
  | none => trivial
  | some dns =>
    refine uses_ask (.inl rfl) fun state => ?_
    split <;> trivial

theorem worksOn_tunnelCheckDown (name : Name) (deadline : ℤ) :
    (tunnelCheckDown name deadline).Uses (HelperCall.WorksOn profile) := by
  refine (worksOn_phaseStopStatus deadline).bind fun stop => ?_
  split
  · trivial
  split
  · trivial
  split
  · trivial
  refine (worksOn_sessionRuntimeState name).bind fun seen => ?_
  cases seen with
  | error failure => trivial
  | ok state =>
    dsimp only
    split
    · trivial
    · trivial
    · exact (worksOn_checkRuntimeFiles name _ _).bind fun _ => worksOn_phaseFailureOr deadline _
/-! ## The process -/

/-- The part of `main` that prepares the process touches no session. -/
theorem worksOn_helperProcessStart (deadlines : Deadlines) :
    (helperProcessStart deadlines).Uses (HelperCall.WorksOn profile) := by
  refine uses_ask (.inl rfl) fun isRoot => ?_
  cases isRoot with
  | false => trivial
  | true =>
    refine uses_ask (.inl rfl) fun initialised => ?_
    cases initialised with
    | false => trivial
    | true =>
      refine uses_ask (.inl rfl) fun ignored => ?_
      cases ignored with
      | false => trivial
      | true =>
        refine uses_ask (.inl rfl) fun installed => ?_
        cases installed with
        | false => trivial
        | true =>
          refine uses_ask (.inl rfl) fun subreaper => ?_
          cases subreaper with
          | false => trivial
          | true =>
            refine uses_ask (.inl rfl) fun sanitized => ?_
            cases sanitized <;> trivial

/-- So does its end. -/
theorem worksOn_helperExit (deadlines : Deadlines) (result : HelperExit) :
    (helperExit deadlines result).Uses (HelperCall.WorksOn profile) := by
  refine uses_ask (.inl rfl) fun committed => ?_
  cases committed with
  | true => trivial
  | false =>
    rw [if_neg Bool.false_ne_true]
    split
    · exact (worksOn_phaseStopStatus _).bind fun _ => trivial
    · trivial

end NmSidebar
