import NmSidebar.Helper.Calm

/-!
# The outcome of an activation

What `awg_helper_tunnel_activate` returns agrees with the journal on disk and with the commit.
-/

namespace NmSidebar

open Text Effects

/-- The admission checks of an activation are passive. -/
theorem worksOn_admission (a : Activation) (deadlines : Deadlines) :
    (a.admission deadlines).Uses (HelperCall.WorksOn none) := by
  refine (worksOn_phaseStopStatus _).bind fun stop => ?_
  split
  · trivial
  refine (worksOn_sessionRuntimeState a.name).bind fun seen => ?_
  cases seen with
  | error failure => trivial
  | ok state =>
    dsimp only
    split
    · trivial
    split
    · trivial
    split <;> trivial

/-- The event writes an artifact of the activation. -/
def WritesArtifact (a : Activation) (e : HelperEvent) : Prop :=
  ∃ contents mode, e.op = .atomicWrite .runtimeConfigs a.configName contents mode

/-- An activation that has written an artifact got past its admission checks. -/
theorem admitted_of_artifact {a : Activation} {blocked : Bool} {deadlines : Deadlines}
    {w w' : World} {tr : List HelperEvent} {result : HelperExit}
    (hs : Steps behaves (tunnelActivate blocked (some a) deadlines) w tr (.pure result) w')
    (hartifact : ∃ e ∈ tr, WritesArtifact a e) :
    ∃ dnsName w₁ tr₁ tr₂, tr = tr₁ ++ tr₂ ∧
      Steps behaves (a.admission deadlines) w tr₁ (.pure (.ok dnsName)) w₁ ∧
      Steps behaves (a.admitted blocked dnsName deadlines) w₁ tr₂ (.pure result) w' := by
  obtain ⟨e, he, contents, mode, hop⟩ := hartifact
  unfold tunnelActivate at hs
  dsimp only at hs
  split at hs
  · cases hs
    cases he
  obtain ⟨admitted, w₁, tr₁, tr₂, rfl, hadmission, hrest⟩ := hs.bind_inv
  cases admitted with
  | ok dnsName => exact ⟨dnsName, w₁, tr₁, tr₂, rfl, hadmission, hrest⟩
  | error failure =>
    -- a refused activation has only done what admission does
    cases hrest
    rw [List.append_nil] at he
    have hpassive := (uses_passive (worksOn_admission a deadlines)).issued hadmission e he
    rw [hop] at hpassive
    cases hpassive

/-- The outcome of an activation that got past its admission checks, in a process that has not
committed yet: `process_init` leaves it so, and only an activation commits. Where it succeeds the
process is committed and the marker on disk is active, with the session's DNS applied. Where it
fails the process is not committed, and unless the first write of its rollback has failed the
marker on disk is gone or not active. -/
theorem activation_outcome {a : Activation} {blocked : Bool} {deadlines : Deadlines}
    {w w' : World} {tr : List HelperEvent} {result : HelperExit} (hw : w.committed = false)
    (hs : Steps behaves (tunnelActivate blocked (some a) deadlines) w tr (.pure result) w')
    (hartifact : ∃ e ∈ tr, WritesArtifact a e) :
    (result = .success → w'.committed = true ∧ ∃ marker, w'.marker a.name = some marker ∧
      marker.state = .active ∧ marker.wasActive = true ∧ marker.ifindex ≠ 0 ∧
      (marker.dnsBackend = .none ∨ marker.dnsState = .applied)) ∧
    (result ≠ .success → w'.committed = false ∧
      ((tr.foldl Ledgers.after .empty a.name).rollbackWriteFailed = false →
        Inactive a.name w')) := by
  obtain ⟨dnsName, w₁, tr₁, tr₂, rfl, hadmission, hadmitted⟩ := admitted_of_artifact hs hartifact
  have hstart : Accounted a.name w (Ledgers.empty a.name) := allAccounted_empty w a.name
  obtain ⟨hcommitted, hadmits⟩ :=
    ((@safe_admission (w, Ledgers.empty) a deadlines false hstart).monitored hadmission).2 _ rfl
  obtain ⟨rfl, hclear⟩ := hadmits dnsName rfl
  have hconcluded := ((safe_admitted hclear (hcommitted.trans hw)).monitored hadmitted).2 _ rfl
  rw [← List.foldl_append] at hconcluded
  refine ⟨fun hresult => ?_, fun hresult => ?_⟩
  · obtain ⟨hcommit, marker, hmarker, hstate⟩ := hconcluded.success hresult
    obtain ⟨data, -, hparse⟩ := Option.bind_eq_some_iff.mp hmarker
    obtain ⟨hifindex, hwasActive, hdns⟩ :=
      fields_of_active (fieldsAreValid_of_parse hparse) hstate
    exact ⟨hcommit, marker, hmarker, hstate, hwasActive, hifindex, hdns⟩
  · obtain ⟨huncommitted, hinactive⟩ := hconcluded.failure hresult
    refine ⟨huncommitted, fun hwrite => ?_⟩
    exact (hinactive rfl).resolve_left (by rw [hwrite]; exact Bool.false_ne_true)

/-- A sample activation whose link never appears. -/
def linklessUp : List HelperEvent × HelperM HelperExit × World :=
  Environment.runAll [(23, noLink wideScope)]
    (tunnelActivate false (some sampleActivation) farDeadlines) emptyWorld

theorem steps_linklessUp :
    Steps behaves (tunnelActivate false (some sampleActivation) farDeadlines) emptyWorld
      linklessUp.1 (.pure .runtimeFailed) linklessUp.2.2 := by
  have hresult : linklessUp.2.1.result = some .runtimeFailed := by decide +kernel
  exact (Environment.steps_runAll _ _ _).returned hresult

/-- It fails, and leaves the process uncommitted and the session not active. -/
theorem activation_outcome_sample :
    linklessUp.2.2.committed = false ∧ Inactive (ascii "a") linklessUp.2.2 := by
  have houtcome := (activation_outcome rfl steps_linklessUp
    ⟨_, List.get_mem linklessUp.1 ⟨4, by decide +kernel⟩, [], 0o600, rfl⟩).2
    HelperExit.noConfusion
  exact ⟨houtcome.1, houtcome.2 (by decide +kernel)⟩

end NmSidebar
