import NmSidebar.AmneziaWG.ProfileReport

/-!
# The model of the sidebar

The saved profiles of `model.c`, and their replacement by the profiles of a report.
-/

namespace NmSidebar

/-- `NetworkSidebarAwgProfileRecord`: a profile as the service's reply names it. -/
structure ProfileRecord where
  name : Name
  status : ℕ

/-- `SavedProfile`. -/
abbrev SavedProfile := Name × ProfileStatus

/-- `NetworkSidebarAwgModel`. -/
structure AwgModel where
  profiles : List SavedProfile

/-- `saved_profile_compare`. -/
def savedProfileLe (left right : SavedProfile) : Bool := nameLe left.1 right.1

/-- One record of `network_sidebar_awg_model_replace_profiles`. -/
def replaceProfilesStep (replacement : List SavedProfile) (record : ProfileRecord) :
    Option (List SavedProfile) :=
  if nameIsValid record.name = false ∨ record.name ∈ replacement.map Prod.fst then none
  else (ProfileStatus.ofNumber record.status).map fun status =>
    replacement ++ [(record.name, status)]

/-- `network_sidebar_awg_model_replace_profiles`. -/
def AwgModel.replaceProfiles (model : AwgModel) (profiles : List ProfileRecord) :
    Option AwgModel :=
  if profiles.length > profileReportMaxRecords then none
  else (profiles.foldlM replaceProfilesStep []).map fun replacement =>
    { model with profiles := replacement.mergeSort savedProfileLe }

/-- The records of a report as they come through the service. -/
def ProfileReport.profileRecords (report : ProfileReport) : List ProfileRecord :=
  report.records.map fun record => ⟨record.1, record.2.number⟩

/-- Records with new and valid names are all taken over. -/
theorem foldlM_replaceProfilesStep {records replacement : List SavedProfile}
    (hvalid : ∀ record ∈ records, nameIsValid record.1 = true)
    (hnodup : ((replacement ++ records).map Prod.fst).Nodup) :
    (records.map fun record => (⟨record.1, record.2.number⟩ : ProfileRecord)).foldlM
      replaceProfilesStep replacement = some (replacement ++ records) := by
  induction records generalizing replacement with
  | nil => rw [List.append_nil]; rfl
  | cons record records ih =>
    have hname := hvalid record List.mem_cons_self
    have hnew : record.1 ∉ replacement.map Prod.fst := by
      intro hmem
      rw [List.map_append, List.map_cons] at hnodup
      exact (List.disjoint_of_nodup_append hnodup) hmem List.mem_cons_self
    have hstep : replaceProfilesStep replacement ⟨record.1, record.2.number⟩ =
        some (replacement ++ [record]) := by
      rw [replaceProfilesStep, if_neg (not_or.mpr ⟨by simp [hname], hnew⟩), ofNumber_number]
      rfl
    have hrest : replacement ++ record :: records = replacement ++ [record] ++ records := by
      rw [List.append_assoc, List.singleton_append]
    rw [List.map_cons, List.foldlM_cons, hstep]
    rw [hrest] at hnodup ⊢
    exact ih (fun other hmem => hvalid other (List.mem_cons_of_mem _ hmem)) hnodup

/-- The records of a well-formed report become the model's profiles, in the order of their
names. -/
theorem replaceProfiles_of_wellFormed {report : ProfileReport} (h : report.WellFormed)
    (model : AwgModel) :
    model.replaceProfiles report.profileRecords =
      some { model with profiles := report.records.mergeSort savedProfileLe } := by
  have hbounded : ¬report.profileRecords.length > profileReportMaxRecords := by
    rw [ProfileReport.profileRecords, List.length_map]
    exact not_lt.mpr h.bounded
  rw [AwgModel.replaceProfiles, if_neg hbounded, ProfileReport.profileRecords,
    foldlM_replaceProfilesStep h.valid (by rw [List.nil_append]; exact h.nodup)]
  rfl

end NmSidebar
