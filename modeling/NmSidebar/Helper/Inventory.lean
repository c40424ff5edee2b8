import NmSidebar.Helper.Calm
import NmSidebar.AmneziaWG.Model

/-!
# The inventory of profiles

A listing of the saved profiles on its way from the helper through the service to the model of
the sidebar.
-/

namespace NmSidebar

open Text Effects

/-! ## The failures of a listing

Only the end of a listing makes it partial: no step before it fails with that status. -/

theorem phaseStopStatus_returns (deadline : ℤ) :
    (phaseStopStatus deadline).Returns fun stop => stop ≠ .inventoryPartial := by
  intro stopped
  cases stopped with
  | true => exact HelperExit.noConfusion
  | false =>
    intro now
    show (if _ then HelperExit.timedOut else .success) ≠ _
    split <;> exact HelperExit.noConfusion

theorem failureStatus_ne_partial (diagnostics : QuickDiagnostics) :
    diagnostics.failureStatus ≠ .inventoryPartial := by
  unfold QuickDiagnostics.failureStatus
  split <;> exact HelperExit.noConfusion

theorem quickStatus_ne_partial (command : QuickCommand) (child : SubprocessResult) :
    quickStatus command child ≠ .inventoryPartial := by
  unfold quickStatus
  cases child.status with
  | exited =>
    cases child.waitStatus with
    | exited code =>
      dsimp only
      split
      · exact HelperExit.noConfusion
      split
      · exact failureStatus_ne_partial child.diagnostics
      split <;> exact HelperExit.noConfusion
    | signaled | other => exact HelperExit.noConfusion
  | _ => exact HelperExit.noConfusion

theorem quickRun_returns (command : QuickCommand) (configPath : Bytes) (deadline : ℤ) :
    (quickRun command configPath deadline).Returns fun quick =>
      quick.status ≠ .inventoryPartial := by
  refine (phaseStopStatus_returns deadline).bind fun stop hstop => ?_
  split
  · exact hstop
  intro opened
  cases opened with
  | true => exact fun child => quickStatus_ne_partial command child
  | false => exact HelperExit.noConfusion

theorem discardCandidate_returns (tempName : Name) {result : HelperExit}
    (h : result ≠ .inventoryPartial) :
    (discardCandidate tempName result).Returns fun r => ∀ failure, r = .error failure →
      failure ≠ .inventoryPartial := by
  intro removed
  cases removed with
  | true =>
    rintro failure ⟨⟩
    exact h
  | false =>
    rintro failure ⟨⟩
    exact HelperExit.noConfusion

theorem writeCandidate_returns (contents : Bytes) (deadline : ℤ) :
    (writeCandidate contents deadline).Returns fun r => ∀ failure, r = .error failure →
      failure ≠ .inventoryPartial := by
  unfold writeCandidate
  split
  · rintro failure ⟨⟩
    exact HelperExit.noConfusion
  intro written
  cases written with
  | notCreated =>
    rintro failure ⟨⟩
    exact HelperExit.noConfusion
  | incomplete tempName => exact discardCandidate_returns tempName HelperExit.noConfusion
  | complete tempName =>
    dsimp only [Prog.bind]
    split
    · exact discardCandidate_returns tempName HelperExit.noConfusion
    refine (quickRun_returns _ _ deadline).bind fun quick hquick => ?_
    split
    · apply discardCandidate_returns
      split
      · exact HelperExit.noConfusion
      · exact hquick
    split
    · exact discardCandidate_returns tempName HelperExit.noConfusion
    · rintro failure ⟨⟩

theorem inspectProfile_returns (configName : Name) (deadline : ℤ) :
    (inspectProfile configName deadline).Returns fun r => r.1 ≠ .inventoryPartial := by
  have hsuccess : ∀ status : ProfileStatus,
      (Prog.pure (HelperExit.success, status) : HelperM _).Returns
        fun r => r.1 ≠ .inventoryPartial := fun _ => HelperExit.noConfusion
  have hmatches : ∀ o : HelperCall, ∀ p : o.Reply → HelperM (HelperExit × ProfileStatus),
      (∀ r, (p r).Returns fun r => r.1 ≠ .inventoryPartial) →
      (ask o >>= p).Returns fun r => r.1 ≠ .inventoryPartial := fun _ _ h r => h r
  refine hmatches _ _ fun security => ?_
  cases security with
  | invalid | missing => exact hsuccess _
  | valid =>
    refine hmatches _ _ fun file => ?_
    cases file with
    | missing | invalid => exact hsuccess _
    | valid =>
      refine (loadStoredConfig configName).returns_any.bind fun loaded _ => ?_
      cases loaded with
      | error failure => exact hsuccess _
      | ok stored =>
        dsimp only
        split
        · exact hsuccess _
        refine (writeCandidate_returns stored.original deadline).bind fun checked hchecked => ?_
        split
        · exact hsuccess _
        · refine hmatches _ _ fun same => ?_
          cases same <;> exact hsuccess _
        · exact hchecked _ rfl
        · refine hmatches _ _ fun removed => ?_
          cases removed with
          | false => exact HelperExit.noConfusion
          | true =>
            refine hmatches _ _ fun same => ?_
            cases same <;> exact hsuccess _

/-! ## The listing -/

/-- What the loop of a listing leaves: a well-formed report, with a status of its own. -/
def Listed (r : Option (HelperExit × ProfileReport)) : Prop :=
  ∀ listing, r = some listing → listing.2.WellFormed ∧ listing.1 ≠ .inventoryPartial

theorem listed_some {result : HelperExit} {report : ProfileReport} (h : report.WellFormed)
    (hresult : result ≠ .inventoryPartial) : Listed (some (result, report)) := by
  rintro listing ⟨⟩
  exact ⟨h, hresult⟩

/-- Giving up completeness keeps a report well formed. -/
theorem wellFormed_incomplete {report : ProfileReport} (h : report.WellFormed) :
    ProfileReport.WellFormed { report with complete := false } :=
  ⟨h.bounded, h.valid, h.nodup⟩

/-- The loop of a listing, by induction on the entries. -/
theorem listProfilesLoop_returns (deadline : ℤ) (entries : ℕ) {report : ProfileReport}
    (h : report.WellFormed) : (listProfilesLoop deadline entries report).Returns Listed := by
  induction entries generalizing report with
  | zero => exact fun listing hlisting => nomatch hlisting
  | succ entries ih =>
    refine (phaseStopStatus_returns deadline).bind fun stop hstop => ?_
    split
    · exact listed_some h hstop
    intro next
    cases next with
    | failed => exact listed_some h HelperExit.noConfusion
    | done => exact listed_some h HelperExit.noConfusion
    | entry entryName =>
      dsimp only [Prog.bind]
      split
      · exact ih h
      · exact ih (wellFormed_incomplete h)
      · split
        · exact listed_some (wellFormed_incomplete h) HelperExit.noConfusion
        refine (inspectProfile_returns entryName deadline).bind ?_
        rintro ⟨result, status⟩ hresult
        dsimp only at hresult ⊢
        split
        · exact listed_some h hresult
        split
        · exact ih (wellFormed_incomplete h)
        · rename_i report' hadd
          exact ih (wellFormed_add h hadd).1

/-- What a listing is: a sorted well-formed report, complete with a success and incomplete with a
partial inventory. -/
structure Listing (status : HelperExit) (report : ProfileReport) : Prop where
  wellFormed : report.WellFormed
  sorted : report.records.Pairwise fun left right => savedProfileLe left right = true
  complete : status = .success → report.complete = true
  incomplete : status = .inventoryPartial → report.complete = false

/-- Sorting keeps a report well formed. -/
theorem wellFormed_sort {report : ProfileReport} (h : report.WellFormed) :
    ProfileReport.WellFormed
      { report with records := report.records.mergeSort savedProfileLe } := by
  have hperm := List.mergeSort_perm report.records savedProfileLe
  refine ⟨?_, fun record hmem => h.valid record (hperm.mem_iff.mp hmem), ?_⟩
  · rw [hperm.length_eq]
    exact h.bounded
  · exact (hperm.map Prod.fst).nodup_iff.mpr h.nodup

theorem listProfiles_returns (entries : ℕ) (deadline : ℤ) :
    (listProfiles entries deadline).Returns fun r =>
      ∀ status report, r = some (status, report) → Listing status report := by
  have hsorted : ∀ report : ProfileReport,
      (report.records.mergeSort savedProfileLe).Pairwise
        fun left right => savedProfileLe left right = true := by
    intro report
    apply List.pairwise_mergeSort
    · exact fun _ _ _ hab hbc => nameLe_trans hab hbc
    · exact fun a b => nameLe_total a.1 b.1
  intro opened
  cases opened with
  | false =>
    rintro status report ⟨⟩
    exact ⟨wellFormed_nil true, List.Pairwise.nil, fun h => HelperExit.noConfusion h,
      fun h => HelperExit.noConfusion h⟩
  | true =>
    refine (listProfilesLoop_returns deadline entries (wellFormed_nil true)).bind fun r hr => ?_
    cases r with
    | none => exact fun status report h => nomatch h
    | some listing =>
      obtain ⟨result, found⟩ := listing
      obtain ⟨hfound, hresult⟩ := hr _ rfl
      intro closed status report hreport
      obtain ⟨rfl, rfl⟩ := Prod.mk.inj (Option.some.inj hreport)
      have hended : (if ¬closed = true ∧ result = .success then .filesystemFailed else result) ≠
          HelperExit.inventoryPartial := by
        split
        · exact HelperExit.noConfusion
        · exact hresult
      revert hended
      generalize (if ¬closed = true ∧ result = .success then .filesystemFailed else result) = ended
      intro hended
      refine ⟨wellFormed_sort hfound, hsorted found, ?_, ?_⟩
      · -- a success that is not complete is reported as partial
        dsimp only
        intro hstatus
        split at hstatus
        · cases hstatus
        · rename_i hcomplete
          simpa [hstatus] using hcomplete
      · dsimp only
        intro hstatus
        split at hstatus
        · rename_i hpartial
          simpa using hpartial.2
        · exact absurd hstatus hended

/-! ## The pipeline -/

/-- A listing that the helper completes is delivered: its report is encoded within the limit,
decoded by the service with the same exit status to the same report, and taken over by the model,
which then has exactly its records in the order of their names. And every report that the service
decodes has at most 256 records with valid statuses and valid names, none twice, and is complete
exactly with a success. -/
theorem profileInventory_delivered :
    (∀ (entries : ℕ) (deadline : ℤ) (w w' : World) (tr : List (Event helperSig World))
      (status : HelperExit) (report : ProfileReport),
      Steps behaves (listProfiles entries deadline) w tr (.pure (some (status, report))) w' →
      status = .success ∨ status = .inventoryPartial →
      (∃ data, report.encode = some data ∧ data.length ≤ 8192 ∧
        profileReportDecode data status = some report) ∧
      report.records.Pairwise (fun left right => nameLe left.1 right.1 = true) ∧
      ∀ model : AwgModel, ∃ model', model.replaceProfiles report.profileRecords = some model' ∧
        model'.profiles = report.records) ∧
    ∀ (data : Bytes) (status : HelperExit) (report : ProfileReport),
      profileReportDecode data status = some report →
      report.records.length ≤ 256 ∧ (∀ record ∈ report.records, nameIsValid record.1 = true) ∧
        (report.records.map Prod.fst).Nodup ∧ (status = .success ∨ status = .inventoryPartial) ∧
        (report.complete = true ↔ status = .success) := by
  refine ⟨fun entries deadline w w' tr status report hs hstatus => ?_,
    fun data status report h => ?_⟩
  · obtain ⟨hreport, hsorted, hcomplete, hincomplete⟩ :=
      (listProfiles_returns entries deadline).returned hs status report rfl
    have hcoupled : report.complete = true ↔ status = .success := by
      refine ⟨fun h => hstatus.resolve_right fun hpartial => ?_, hcomplete⟩
      rw [hincomplete hpartial] at h
      cases h
    refine ⟨⟨_, encode_of_wellFormed hreport, length_encodeReport hreport,
      decode_encodeReport hreport hstatus hcoupled⟩, hsorted, fun model => ?_⟩
    refine ⟨_, replaceProfiles_of_wellFormed hreport model, ?_⟩
    exact List.mergeSort_of_pairwise hsorted
  · obtain ⟨hreport, hstatus, hcoupled⟩ := wellFormed_of_decode h
    exact ⟨hreport.bounded, hreport.valid, hreport.nodup, hstatus, hcoupled⟩

/-- A machine with two profiles. -/
def listedWorld : World :=
  (emptyWorld.setFile .config (ascii "a.conf") (some sampleConfig)).setFile .config
    (ascii "b.conf") (some sampleConfig)

/-- The world when the directory is opened. -/
def openedWorld : World := { listedWorld with scan := [ascii "b.conf", ascii "a.conf"] }

theorem opens_listedWorld : behaves (.iteratorNew .config) listedWorld true openedWorld := by
  refine ⟨fun _ name hname => ?_, rfl⟩
  by_cases hb : name = ascii "b.conf"
  · simp [openedWorld, hb]
  by_cases ha : name = ascii "a.conf"
  · simp [openedWorld, ha]
  · simp [listedWorld, World.setFile, emptyWorld, ha, hb] at hname

/-- What is left of a listing that has opened its directory. -/
def openedListing : HelperM (Option (HelperExit × ProfileReport)) :=
  match listProfiles 4 1000 with
  | .call (.iteratorNew _) k => k true
  | p => p

/-- The report on them. -/
def sampleReport : ProfileReport :=
  ⟨[(ascii "b", .available), (ascii "a", .available)].mergeSort fun left right =>
    nameLe left.1 right.1, true⟩

/-- The listing of two profiles reaches the model. -/
theorem profileInventory_delivered_sample :
    ∃ data, sampleReport.encode = some data ∧ data.length ≤ 8192 ∧
      profileReportDecode data .success = some sampleReport ∧
      ∃ model', (⟨[]⟩ : AwgModel).replaceProfiles sampleReport.profileRecords = some model' ∧
        model'.profiles = sampleReport.records := by
  have hreturned : (profileMachine.run 30 openedListing openedWorld).2.1.result =
      some (some (.success, sampleReport)) := rfl
  have hsteps := (profileMachine.steps 30 openedListing openedWorld).returned hreturned
  obtain ⟨⟨data, hencode, hlength, hdecode⟩, -, hmodel⟩ := profileInventory_delivered.1 4 1000
    listedWorld _ _ .success sampleReport (.step opens_listedWorld hsteps) (.inl rfl)
  exact ⟨data, hencode, hlength, hdecode, hmodel _⟩

end NmSidebar
