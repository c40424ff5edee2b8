import NmSidebar.Helper.CalmDisk
import NmSidebar.Helper.Commit
import NmSidebar.Helper.DiskRefinement
import NmSidebar.Helper.Replacement

/-!
# Profiles after a loss of power

An import, a replacement or a deletion is stopped between any two system calls and the power is
lost. Every profile then holds what it held before, or the one at hand holds all that the
transaction was to put there; and what was reported as done stays done.
-/

namespace NmSidebar

open Text Effects

/-! ## What may come back -/

/-- The machine with the ledger. -/
abbrev Ledgered := World × Durability

/-- The behaviour of the operations, with the ledger. -/
abbrev ledgered : Behaviour helperSig Ledgered := behaves.monitor Durability.after

/-- Every profile has allowed contents, and so it has after a loss of power. -/
def Recoverable (allowed : Name → Option Bytes → Prop) (s : Ledgered) : Prop :=
  ∀ name, ∃ list, s.2.past name = some list ∧
    ∀ contents ∈ s.1.files .config name :: list, allowed name contents

/-- The issue condition of a transaction. -/
def KeepsRecoverable (allowed : Name → Option Bytes → Prop) (_ : HelperCall) (s : Ledgered) :
    Prop := Recoverable allowed s

/-- A staging file can be moved to a profile's name: all of it is synced. -/
structure Movable (allowed : Name → Option Bytes → Prop) (tempName : Name) (contents : Bytes)
    (s : Ledgered) : Prop where
  recoverable : Recoverable allowed s
  holds : s.1.files .staging tempName = some contents
  complete : s.2.complete tempName = true

/-- The name holds some contents, or none, and nothing else can come back. -/
structure SavedFor (configName : Name) (kept : Option Bytes) (s : Ledgered) : Prop where
  holds : s.1.files .config configName = kept
  past : s.2.past configName = some []

/-- What a transaction has come to when it returns. -/
structure Survives (allowed : Name → Option Bytes → Prop) (configName : Name)
    (kept : Option Bytes) (result : HelperExit) (s : Ledgered) : Prop where
  recoverable : Recoverable allowed s
  saved : result = .success → SavedFor configName kept s

variable {allowed : Name → Option Bytes → Prop} {configName tempName : Name}
  {input contents : Bytes} {kept : Option Bytes} {s s' : Ledgered} {o : HelperCall} {r : o.Reply}
  {deadline : ℤ} {result : HelperExit}

theorem Recoverable.survives (hs : Recoverable allowed s) (hresult : result ≠ .success) :
    Survives allowed configName kept result s := ⟨hs, fun h => absurd h hresult⟩

/-- What a profile holds now is allowed. -/
theorem Recoverable.now (hs : Recoverable allowed s) (name : Name) :
    allowed name (s.1.files .config name) := by
  obtain ⟨list, -, hallowed⟩ := hs name
  exact hallowed _ List.mem_cons_self

/-- Staging files are no profiles. -/
theorem Recoverable.congr (hs : Recoverable allowed s)
    (hconfig : s'.1.files .config = s.1.files .config) (hpast : s'.2.past = s.2.past) :
    Recoverable allowed s' := by
  intro name
  rw [hconfig, hpast]
  exact hs name

/-- Once the directory is synced, nothing else can come back. -/
theorem Recoverable.past_synced (hs : Recoverable allowed s) (name : Name) :
    s.2.synced.past name = some [] := by
  obtain ⟨list, hlist, -⟩ := hs name
  exact Durability.past_synced hlist

/-- The ledger keeps its list where a synced file is moved. -/
theorem Movable.move_eq (hs : Movable allowed tempName contents s) (old : Option Bytes) :
    s.2.move tempName configName old = s.2.push configName old := if_pos hs.complete

/-! ## Operations -/

/-- What an operation that moves nothing has left alone. -/
structure Unmoved (s s' : Ledgered) : Prop where
  config : s'.1.files .config = s.1.files .config
  staging : s'.1.files .staging = s.1.files .staging
  ledger : s'.2 = s.2 ∨ s'.2 = s.2.synced

theorem unmoved_of_ledgered (h : ledgered o s r s') (ho : o.IsLook) : Unmoved s s' where
  config := files_of_behaves h.1 ho.1
  staging := files_of_behaves h.1 ho.2
  ledger := by
    rw [h.2]
    cases o with
    | writeStagingCandidate contents => cases ho.2
    | renameStagingNoreplace | exchangeStagingConfig => cases ho.1
    | atomicWrite area =>
      cases area with
      | config => cases ho.1
      | staging => cases ho.2
      | runtime | runtimeConfigs => exact .inl rfl
    | removeAndSync area =>
      cases area with
      | config => cases ho.1
      | staging | runtime | runtimeConfigs => exact .inl rfl
    | syncConfigAndStaging =>
      cases r with
      | true => exact .inr rfl
      | false => exact .inl rfl
    | _ => exact .inl rfl

theorem Recoverable.unmoved (hs : Recoverable allowed s) (h : Unmoved s s') :
    Recoverable allowed s' := by
  intro name
  obtain ⟨list, hlist, hallowed⟩ := hs name
  rw [h.config]
  rcases h.ledger with hledger | hledger
  · exact ⟨list, by rw [hledger, hlist], hallowed⟩
  · refine ⟨[], by rw [hledger, hs.past_synced], ?_⟩
    simpa using hs.now name

theorem Movable.unmoved (hs : Movable allowed tempName contents s) (h : Unmoved s s') :
    Movable allowed tempName contents s' where
  recoverable := hs.recoverable.unmoved h
  holds := by rw [h.staging, hs.holds]
  complete := by
    rcases h.ledger with hledger | hledger <;> rw [hledger] <;> exact hs.complete

theorem SavedFor.unmoved (hs : SavedFor configName kept s) (h : Unmoved s s') :
    SavedFor configName kept s' where
  holds := by rw [h.config, hs.holds]
  past := by
    rcases h.ledger with hledger | hledger <;> rw [hledger]
    · exact hs.past
    · exact Durability.past_synced hs.past

/-- A program of looks keeps what every look keeps. -/
theorem safe_unmoved {α : Type} {I : Ledgered → Prop} {p : HelperM α}
    (hp : p.Uses HelperCall.IsLook) (hs : I s) (hA : ∀ s, I s → Recoverable allowed s)
    (hI : ∀ s s', I s → Unmoved s s' → I s') :
    Safe ledgered (KeepsRecoverable allowed) p (fun _ s' => I s') s :=
  Safe.of_uses hp hs (fun _ s _ hs => hA s hs)
    fun _ s _ s' ho hs h => hI s s' hs (unmoved_of_ledgered h ho)

theorem looks_quickRun (command : QuickCommand) (configPath : Bytes) (deadline : ℤ) :
    (quickRun command configPath deadline).Uses HelperCall.IsLook := by
  refine (looks_phaseStopStatus deadline).bind fun stop => ?_
  split
  · trivial
  refine uses_ask ⟨rfl, rfl⟩ fun opened => ?_
  cases opened with
  | false => trivial
  | true => exact uses_ask ⟨rfl, rfl⟩ fun _ => trivial

/-- The directory of the profiles was synced. -/
theorem savedFor_of_synced (hs : Recoverable allowed s)
    (hholds : s.1.files .config configName = kept)
    (h : ledgered .syncConfigAndStaging s true s') : SavedFor configName kept s' where
  holds := by rw [(unmoved_of_ledgered h ⟨rfl, rfl⟩).config, hholds]
  past := by
    have hledger : s'.2 = s.2.synced := h.2
    rw [hledger, hs.past_synced]

/-- A staging file is removed. -/
theorem Recoverable.removed {removed : Bool} (hs : Recoverable allowed s)
    (h : ledgered (.removeAndSync .staging tempName) s removed s') : Recoverable allowed s' :=
  hs.congr (files_of_behaves h.1 rfl) (congrArg Durability.past h.2)

/-- A staging file is unlinked. -/
theorem Recoverable.unlinked {unlinked : Bool} (hs : Recoverable allowed s)
    (h : ledgered (.unlinkStaging tempName) s unlinked s') : Recoverable allowed s' :=
  hs.congr (files_of_behaves h.1 rfl) (congrArg Durability.past h.2)

theorem SavedFor.unlinked {unlinked : Bool} (hs : SavedFor configName kept s)
    (h : ledgered (.unlinkStaging tempName) s unlinked s') : SavedFor configName kept s' where
  holds := by rw [files_of_behaves h.1 rfl, hs.holds]
  past := by
    have hledger : s'.2 = s.2 := h.2
    rw [hledger, hs.past]

theorem Movable.stays (hs : Movable allowed tempName contents s)
    (h : ledgered (.unlinkStaging tempName) s false s') :
    Movable allowed tempName contents s' := by
  have hsame : s' = s := by
    obtain ⟨hunlinked, -⟩ | ⟨-, hworld⟩ := h.1
    · cases hunlinked
    · exact Prod.ext hworld h.2
  rwa [hsame]

/-- The contents of a profile are replaced by allowed ones. -/
theorem Recoverable.push {w : World} (hs : Recoverable allowed s) {contents : Option Bytes}
    (hcontents : allowed configName contents)
    (hself : w.files .config configName = contents)
    (hothers : ∀ name, name ≠ configName → w.files .config name = s.1.files .config name) :
    Recoverable allowed (w, s.2.push configName (s.1.files .config configName)) := by
  intro name
  obtain ⟨list, hlist, hallowed⟩ := hs name
  by_cases hname : name = configName
  · -- what the name held may come back, and was allowed there
    subst hname
    refine ⟨s.1.files .config name :: list, by simp [Durability.push, hlist], ?_⟩
    intro other hother
    rw [List.mem_cons, hself] at hother
    rcases hother with rfl | hother
    · exact hcontents
    · exact hallowed other hother
  · refine ⟨list, ?_, ?_⟩
    · rw [← hlist]
      exact Function.update_of_ne hname _ _
    · rw [hothers name hname]
      exact hallowed

/-- The exchange leaves a staging file that can be exchanged back. -/
theorem Movable.exchanged {exchanged : Bool} (hs : Movable allowed tempName contents s)
    (hcontents : ∀ saved, allowed configName (some saved) → allowed configName (some contents))
    (h : ledgered (.exchangeStagingConfig tempName configName) s exchanged s') :
    if exchanged then ∃ saved, Movable allowed tempName saved s' ∧
      allowed configName (some saved) ∧ s'.1.files .config configName = some contents
    else Movable allowed tempName contents s' := by
  obtain ⟨w, l⟩ := s
  obtain ⟨w', l'⟩ := s'
  obtain ⟨hb, hledger⟩ := h
  cases hb with
  | exchanged staged saved hstaged hsaved =>
    obtain rfl : staged = contents := Option.some.inj (hstaged.symm.trans hs.holds)
    have hledger : l' = (l.push configName (w.files .config configName)).setComplete
        tempName (l.past configName).isSome := by
      rw [← hs.move_eq]
      exact hledger
    have hself : ((w.setFile .staging tempName (some saved)).setFile .config configName
        (some staged)).files .config configName = some staged := files_setFile_self ..
    have hsaved' : allowed configName (some saved) := by
      rw [← hsaved]
      exact hs.recoverable.now configName
    have hrecoverable := hs.recoverable.push (hcontents saved hsaved') hself fun name hname => by
      rw [files_setFile_ne (.inr hname), files_setFile_ne (.inl (by simp))]
    refine ⟨saved, ⟨?_, ?_, ?_⟩, hsaved', hself⟩
    · subst hledger
      exact hrecoverable
    · show ((w.setFile .staging tempName (some saved)).setFile .config configName
        (some staged)).files .staging tempName = some saved
      rw [files_setFile_ne (.inl (by simp)), files_setFile_self]
    · -- what was displaced is as well known as the profile was
      subst hledger
      obtain ⟨list, hlist, -⟩ := hs.recoverable configName
      have hlist : l.past configName = some list := hlist
      show ((l.push configName _).setComplete tempName (l.past configName).isSome).complete
        tempName = true
      simp [Durability.setComplete, hlist]
  | failed =>
    obtain rfl : l' = l := hledger
    exact hs

/-- The rename puts the staging file where there was nothing. -/
theorem Movable.renamed {outcome : RenameOutcome} (hs : Movable allowed tempName contents s)
    (hcontents : allowed configName none → allowed configName (some contents))
    (h : ledgered (.renameStagingNoreplace tempName configName) s outcome s') :
    if outcome = .renamed then Recoverable allowed s' ∧ allowed configName none ∧
      s'.1.files .config configName = some contents
    else Movable allowed tempName contents s' := by
  obtain ⟨w, l⟩ := s
  obtain ⟨w', l'⟩ := s'
  obtain ⟨hb, hledger⟩ := h
  cases hb with
  | renamed staged hstaged htarget =>
    obtain rfl : staged = contents := Option.some.inj (hstaged.symm.trans hs.holds)
    have hledger : l' = l.push configName (w.files .config configName) := by
      rw [← hs.move_eq]
      exact hledger
    subst hledger
    have hself : ((w.setFile .staging tempName none).setFile .config configName
        (some staged)).files .config configName = some staged := files_setFile_self ..
    have hnone : allowed configName none := by
      rw [← htarget]
      exact hs.recoverable.now configName
    have hrecoverable := hs.recoverable.push (hcontents hnone) hself fun name hname => by
      rw [files_setFile_ne (.inr hname), files_setFile_ne (.inl (by simp))]
    exact ⟨hrecoverable, hnone, hself⟩
  | targetExists | failed =>
    obtain rfl : l' = l := hledger
    exact hs

/-- The removal of an import that could not be synced. -/
theorem Recoverable.withdrawn {removed : Bool} (hs : Recoverable allowed s)
    (hnone : allowed configName none)
    (h : ledgered (.removeAndSync .config configName) s removed s') : Recoverable allowed s' := by
  obtain ⟨w, l⟩ := s
  obtain ⟨w', l'⟩ := s'
  obtain ⟨hb, hledger⟩ := h
  have hpushed : ∀ w' : World, w' = w.setFile .config configName none →
      Recoverable allowed (w', l.push configName (w.files .config configName)) := by
    rintro w' rfl
    refine hs.push hnone (files_setFile_self ..) fun name hname => ?_
    rw [files_setFile_ne (.inr hname)]
  cases hb with
  | removed =>
    have hledger : l' = l.synced := hledger
    have hunmoved : Unmoved
        (w.setFile .config configName none, l.push configName (w.files .config configName))
        (w.setFile .config configName none, l.synced) :=
      ⟨rfl, rfl, .inr (Durability.synced_push ..).symm⟩
    subst hledger
    exact (hpushed _ rfl).unmoved hunmoved
  | unsynced =>
    obtain rfl : l' = l.push configName (w.files .config configName) := hledger
    exact hpushed _ rfl
  | kept =>
    obtain rfl : l' = l.push configName (w.files .config configName) := hledger
    exact hs.push (hs.now configName) rfl fun _ _ => rfl

theorem savedFor_of_withdrawn (hs : Recoverable allowed s)
    (h : ledgered (.removeAndSync .config configName) s true s') : SavedFor configName none s' where
  holds := by
    obtain ⟨hb, -⟩ := h
    generalize s'.1 = w' at hb
    cases hb
    exact files_setFile_self ..
  past := by
    have hledger : s'.2 = s.2.synced := h.2
    rw [hledger, hs.past_synced]

/-! ## Candidates -/

/-- What `write_candidate` leaves. -/
def CandidateReady (allowed : Name → Option Bytes → Prop) (input : Bytes) (s : Ledgered) :
    Except HelperExit Candidate → Prop
  | .error failure => Recoverable allowed s ∧ failure ≠ .success
  | .ok candidate => Movable allowed candidate.tempName input s

theorem safe_removeCandidate_survives (hs : Recoverable allowed s) (hresult : result ≠ .success) :
    Safe ledgered (KeepsRecoverable allowed) (removeCandidate tempName result)
      (Survives allowed configName kept) s := by
  refine ⟨hs, fun removed s' h => ?_⟩
  have hs' := hs.removed h
  cases removed with
  | true => exact hs'.survives hresult
  | false => exact hs'.survives (by simp)

theorem safe_discardCandidate_ready (hs : Recoverable allowed s) (hresult : result ≠ .success) :
    Safe ledgered (KeepsRecoverable allowed) (discardCandidate tempName result)
      (fun r s' => CandidateReady allowed input s' r) s := by
  refine ⟨hs, fun removed s' h => ?_⟩
  have hs' := hs.removed h
  cases removed with
  | true => exact ⟨hs', hresult⟩
  | false => exact ⟨hs', by simp⟩

/-- A new staging file is no profile. -/
theorem Recoverable.written {created : StagingCandidate} (hs : Recoverable allowed s)
    (h : ledgered (.writeStagingCandidate contents) s created s') : Recoverable allowed s' := by
  refine hs.congr (files_of_behaves h.1 rfl) ?_
  rw [h.2]
  cases created <;> rfl

/-- A complete candidate can be moved. -/
theorem movable_of_written (hs : Recoverable allowed s)
    (h : ledgered (.writeStagingCandidate contents) s (.complete tempName) s') :
    Movable allowed tempName contents s' where
  recoverable := hs.written h
  holds := by
    obtain ⟨hb, -⟩ := h
    generalize s'.1 = w' at hb
    cases hb
    exact files_setFile_self ..
  complete := by
    have hledger : s'.2 = s.2.setComplete tempName true := h.2
    rw [hledger]
    simp [Durability.setComplete]

/-- `write_candidate` leaves a candidate that can be moved, or none. -/
theorem safe_writeCandidate_ready (hs : Recoverable allowed s) :
    Safe ledgered (KeepsRecoverable allowed) (writeCandidate input deadline)
      (fun r s' => CandidateReady allowed input s' r) s := by
  unfold writeCandidate
  cases hparse : configParseEnvelope input with
  | error failure => exact ⟨hs, by simp⟩
  | ok envelope =>
    refine safe_bind.mpr (safe_request.mpr ⟨hs, fun created s₁ h₁ => ?_⟩)
    have hs₁ := hs.written h₁
    cases created with
    | notCreated => exact ⟨hs₁, by simp⟩
    | incomplete tempName => exact safe_discardCandidate_ready hs₁ (by simp)
    | complete tempName =>
      have hmovable := movable_of_written hs h₁
      dsimp only
      cases formatted pathMax (stagingDir ++ ascii "/" ++ tempName) with
      | none => exact safe_discardCandidate_ready hs₁ (by simp)
      | some tempPath =>
        refine (safe_unmoved (looks_quickRun .strip tempPath deadline) hmovable
          (fun _ => Movable.recoverable) fun _ _ => Movable.unmoved).bind fun quick s₂ hs₂ => ?_
        split
        · refine safe_discardCandidate_ready hs₂.recoverable ?_
          split
          · simp
          · assumption
        · cases quickConfigBuildSnapshot quick.output envelope with
          | error failure => exact safe_discardCandidate_ready hs₂.recoverable (by simp)
          | ok snapshot => exact hs₂

/-! ## Replacement -/

theorem safe_rollbackReplacement_survives (hs : Movable allowed tempName contents s)
    (hcontents : allowed configName (some contents)) :
    Safe ledgered (KeepsRecoverable allowed) (rollbackReplacement tempName configName)
      (Survives allowed configName kept) s := by
  refine safe_bind.mpr (safe_request.mpr ⟨hs.recoverable, fun exchanged s₁ h₁ => ?_⟩)
  have hs₁ := hs.exchanged (fun _ _ => hcontents) h₁
  cases exchanged with
  | false => exact (Movable.recoverable hs₁).survives (by simp)
  | true =>
    obtain ⟨saved, hs₁, -⟩ := hs₁
    refine safe_bind.mpr (safe_request.mpr ⟨hs₁.recoverable, fun synced s₂ h₂ => ?_⟩)
    have hs₂ := hs₁.recoverable.unmoved (unmoved_of_ledgered h₂ ⟨rfl, rfl⟩)
    cases synced with
    | false => exact hs₂.survives (by simp)
    | true =>
      refine safe_bind.mpr (safe_request.mpr ⟨hs₂, fun removed s₃ h₃ => ?_⟩)
      exact (hs₂.removed h₃).survives (by simp)

/-- The check of the deadline once everything is saved. -/
theorem safe_lastPhaseStopStatus_survives (hs : Recoverable allowed s)
    (hsaved : SavedFor configName kept s) :
    Safe ledgered (KeepsRecoverable allowed) (phaseStopStatus deadline)
      (Survives allowed configName kept) s :=
  (safe_unmoved (I := fun s => Recoverable allowed s ∧ SavedFor configName kept s)
    (looks_phaseStopStatus deadline) ⟨hs, hsaved⟩ (fun _ => And.left)
    fun _ _ hs h => ⟨hs.1.unmoved h, hs.2.unmoved h⟩).mono
    fun _ _ hs => ⟨hs.1, fun _ => hs.2⟩

/-- `awg_helper_profiles_replace` once its candidate has been exchanged with the profile. -/
theorem safe_exchangedReplace_survives {saved : Bytes} {original : StorageIdentity}
    (hs : Movable allowed tempName saved s) (hsaved : allowed configName (some saved))
    (hholds : s.1.files .config configName = some input) :
    Safe ledgered (KeepsRecoverable allowed)
      (do
        if ← ask (.displacedMatchesIdentity tempName original) then
          if ← ask .syncConfigAndStaging then
            if ← ask (.unlinkStaging tempName) then
              if ← ask .syncStaging then phaseStopStatus deadline
              else return .rollbackFailed
            else rollbackReplacement tempName configName
          else rollbackReplacement tempName configName
        else rollbackReplacement tempName configName)
      (Survives allowed configName (some input)) s := by
  refine safe_bind.mpr (safe_request.mpr ⟨hs.recoverable, fun matched s₁ h₁ => ?_⟩)
  have hunmoved₁ := unmoved_of_ledgered h₁ ⟨rfl, rfl⟩
  have hs₁ := hs.unmoved hunmoved₁
  rw [← hunmoved₁.config] at hholds
  cases matched with
  | false => exact safe_rollbackReplacement_survives hs₁ hsaved
  | true =>
    refine safe_bind.mpr (safe_request.mpr ⟨hs₁.recoverable, fun synced s₂ h₂ => ?_⟩)
    have hs₂ := hs₁.unmoved (unmoved_of_ledgered h₂ ⟨rfl, rfl⟩)
    cases synced with
    | false => exact safe_rollbackReplacement_survives hs₂ hsaved
    | true =>
      -- from here on only the input can come back
      have hsaved₂ := savedFor_of_synced hs₁.recoverable hholds h₂
      refine safe_bind.mpr (safe_request.mpr ⟨hs₂.recoverable, fun unlinked s₃ h₃ => ?_⟩)
      cases unlinked with
      | false => exact safe_rollbackReplacement_survives (hs₂.stays h₃) hsaved
      | true =>
        have hs₃ := hs₂.recoverable.unlinked h₃
        refine safe_bind.mpr (safe_request.mpr ⟨hs₃, fun synced' s₄ h₄ => ?_⟩)
        have hunmoved₄ := unmoved_of_ledgered h₄ ⟨rfl, rfl⟩
        have hs₄ := hs₃.unmoved hunmoved₄
        cases synced' with
        | false => exact hs₄.survives (by simp)
        | true =>
          exact safe_lastPhaseStopStatus_survives hs₄ ((hsaved₂.unlinked h₃).unmoved hunmoved₄)

/-- `awg_helper_profiles_replace` loses no profile. -/
theorem safe_profilesReplace_survives {name : Name} (hs : Recoverable allowed s)
    (hinput : ∀ saved, allowed configName (some saved) → allowed configName (some input)) :
    Safe ledgered (KeepsRecoverable allowed) (profilesReplace name configName input deadline)
      (Survives allowed configName (some input)) s := by
  refine (safe_unmoved (looks_replacementTargetStatus name configName) hs (fun _ => id)
    fun _ _ => Recoverable.unmoved).bind fun target s₁ hs₁ => ?_
  split
  · exact hs₁.survives ‹_›
  refine safe_bind.mpr (safe_request.mpr ⟨hs₁, fun original s₂ h₂ => ?_⟩)
  have hs₂ := hs₁.unmoved (unmoved_of_ledgered h₂ ⟨rfl, rfl⟩)
  cases original with
  | none => exact hs₂.survives (by simp)
  | some original =>
    refine (safe_writeCandidate_ready hs₂).bind fun written s₃ hs₃ => ?_
    cases written with
    | error failure => exact Recoverable.survives hs₃.1 hs₃.2
    | ok candidate =>
      have hs₃ : Movable allowed candidate.tempName input s₃ := hs₃
      refine (safe_unmoved (looks_replacementTargetStatus name configName) hs₃
        (fun _ => Movable.recoverable) fun _ _ => Movable.unmoved).bind fun target' s₄ hs₄ => ?_
      split
      · exact safe_removeCandidate_survives hs₄.recoverable ‹_›
      refine (safe_unmoved (looks_phaseStopStatus deadline) hs₄
        (fun _ => Movable.recoverable) fun _ _ => Movable.unmoved).bind fun stop s₅ hs₅ => ?_
      split
      · exact safe_removeCandidate_survives hs₅.recoverable ‹_›
      refine safe_bind.mpr (safe_request.mpr ⟨hs₅.recoverable, fun exchanged s₆ h₆ => ?_⟩)
      have hs₆ := hs₅.exchanged hinput h₆
      cases exchanged with
      | false => exact safe_removeCandidate_survives (Movable.recoverable hs₆) (by simp)
      | true =>
        obtain ⟨saved, hmovable, hsaved, hholds⟩ := hs₆
        exact safe_exchangedReplace_survives hmovable hsaved hholds

/-! ## Import -/

/-- `awg_helper_profiles_import` loses no profile. -/
theorem safe_profilesImport_survives {name : Name} (hs : Recoverable allowed s)
    (hinput : allowed configName none → allowed configName (some input)) :
    Safe ledgered (KeepsRecoverable allowed) (profilesImport name configName input deadline)
      (Survives allowed configName (some input)) s := by
  refine (safe_unmoved (looks_replacementTargetStatus name configName) hs (fun _ => id)
    fun _ _ => Recoverable.unmoved).bind fun target s₁ hs₁ => ?_
  split
  · exact hs₁.survives (by simp)
  rename_i htarget
  split
  · exact hs₁.survives htarget
  refine (safe_writeCandidate_ready hs₁).bind fun written s₂ hs₂ => ?_
  cases written with
  | error failure => exact Recoverable.survives hs₂.1 hs₂.2
  | ok candidate =>
    have hs₂ : Movable allowed candidate.tempName input s₂ := hs₂
    refine (safe_unmoved (looks_phaseStopStatus deadline) hs₂
      (fun _ => Movable.recoverable) fun _ _ => Movable.unmoved).bind fun stop s₃ hs₃ => ?_
    split
    · exact safe_removeCandidate_survives hs₃.recoverable ‹_›
    refine safe_bind.mpr (safe_request.mpr ⟨hs₃.recoverable, fun outcome s₄ h₄ => ?_⟩)
    have hs₄ := hs₃.renamed hinput h₄
    cases outcome with
    | renamed =>
      obtain ⟨hrecoverable, hnone, hholds⟩ := hs₄
      refine safe_bind.mpr (safe_request.mpr ⟨hrecoverable, fun synced s₅ h₅ => ?_⟩)
      have hs₅ := hrecoverable.unmoved (unmoved_of_ledgered h₅ ⟨rfl, rfl⟩)
      cases synced with
      | true =>
        exact safe_lastPhaseStopStatus_survives hs₅ (savedFor_of_synced hrecoverable hholds h₅)
      | false =>
        -- the input is withdrawn, and may come back
        refine safe_bind.mpr (safe_request.mpr ⟨hs₅, fun removed s₆ h₆ => ?_⟩)
        have hs₆ := hs₅.withdrawn hnone h₆
        cases removed with
        | true => exact hs₆.survives (by simp)
        | false => exact hs₆.survives (by simp)
    | targetExists =>
      have hs₄ : Movable allowed candidate.tempName input s₄ := hs₄
      refine (safe_unmoved (looks_replacementTargetStatus name configName) hs₄
        (fun _ => Movable.recoverable) fun _ _ => Movable.unmoved).bind fun target' s₅ hs₅ => ?_
      refine safe_removeCandidate_survives hs₅.recoverable ?_
      split
      · simp
      · split
        · simp
        · assumption
    | failed => exact safe_removeCandidate_survives (Movable.recoverable hs₄) (by simp)

/-! ## Deletion -/

/-- `awg_helper_profiles_delete` loses no other profile. -/
theorem safe_profilesDelete_survives {name : Name} (hs : Recoverable allowed s)
    (hsaved : SavedFor configName (s.1.files .config configName) s)
    (hnone : allowed configName none) :
    Safe ledgered (KeepsRecoverable allowed) (profilesDelete name configName deadline)
      (Survives allowed configName none) s := by
  generalize hkept : s.1.files .config configName = kept at hsaved
  have hunmoved : ∀ s s', Recoverable allowed s ∧ SavedFor configName kept s → Unmoved s s' →
      Recoverable allowed s' ∧ SavedFor configName kept s' :=
    fun _ _ hs h => ⟨hs.1.unmoved h, hs.2.unmoved h⟩
  refine safe_bind.mpr (safe_request.mpr ⟨hs, fun state s₁ h₁ => ?_⟩)
  have hs₁ := hunmoved s s₁ ⟨hs, hsaved⟩ (unmoved_of_ledgered h₁ ⟨rfl, rfl⟩)
  have hmissing : state = .missing → kept = none := fun h => hkept.symm.trans (h₁.1.1 h)
  split
  · exact hs₁.1.survives (by simp)
  have hreturns := Safe.of_returnsOn (B := ledgered) (A := fun _ _ => True) (w := s₁)
    (R := fun _ _ => True) (sessionRuntimeState_returns name).on (fun _ _ => trivial)
    fun _ _ _ _ _ => trivial
  refine (((safe_unmoved (looks_sessionRuntimeState name) hs₁ (fun _ => And.left) hunmoved).and
    hreturns).weaken fun _ _ => And.left).bind fun seen s₂ hs₂ => ?_
  obtain ⟨hs₂, hfailing⟩ := hs₂
  cases seen with
  | error failure => exact hs₂.1.survives (hfailing failure rfl)
  | ok seen =>
    dsimp only
    split
    · exact hs₂.1.survives (by simp)
    split
    · exact hs₂.1.survives (by simp)
    refine (safe_unmoved (looks_phaseStopStatus deadline) hs₂ (fun _ => And.left)
      hunmoved).bind fun stop s₃ hs₃ => ?_
    split
    · exact hs₃.1.survives ‹_›
    split
    · refine safe_bind.mpr (safe_request.mpr ⟨hs₃.1, fun removed s₄ h₄ => ?_⟩)
      have hs₄ := hs₃.1.withdrawn hnone h₄
      cases removed with
      | false => exact hs₄.survives (by simp)
      | true => exact safe_lastPhaseStopStatus_survives hs₄ (savedFor_of_withdrawn hs₃.1 h₄)
    · -- nothing is removed where there was nothing
      rename_i hstate
      rw [hmissing (not_not.mp hstate)] at hs₃
      exact safe_lastPhaseStopStatus_survives hs₃.1 hs₃.2

/-! ## The loss of power -/

/-- The profiles are synced: nothing else can come back for any of them. -/
structure Store.Settled (s : Store) : Prop where
  earlier : ∀ name, s.earlier .config name = []
  synced : ∀ name ino, s.entry .config name = some ino → s.synced ino = true

theorem Store.Settled.durable {s : Store} (h : s.Settled) : Durable s .settled where
  complete _ _ hcomplete := by cases hcomplete
  past name list hlist entry hmem := by
    rw [h.earlier name] at hmem
    have hentry : entry = s.entry .config name := by simpa using hmem
    subst hentry
    exact ⟨List.mem_cons_self, fun ino hino => h.synced name ino hino⟩

/-- The transactions on a saved profile, with what each asks of the contents that it finds, and
what it is to leave. -/
inductive ProfileChange (name configName : Name) (deadline : ℤ) :
    HelperM HelperExit → (Option Bytes → Prop) → Option Bytes → Prop
  | imported (input : Bytes) : ProfileChange name configName deadline
      (profilesImport name configName input deadline) (· = none) (some input)
  | replaced (input : Bytes) : ProfileChange name configName deadline
      (profilesReplace name configName input deadline) (· ≠ none) (some input)
  | deleted : ProfileChange name configName deadline
      (profilesDelete name configName deadline) (fun _ => True) none

/-- What such a transaction may leave under any name. -/
def OldOrKept (w : World) (configName : Name) (asked : Option Bytes → Prop) (kept : Option Bytes)
    (name : Name) (contents : Option Bytes) : Prop :=
  contents = w.files .config name ∨
    (name = configName ∧ asked (w.files .config name) ∧ contents = kept)

variable {asked : Option Bytes → Prop}

theorem recoverable_settled (w : World) (configName : Name) (asked : Option Bytes → Prop)
    (kept : Option Bytes) : Recoverable (OldOrKept w configName asked kept) (w, .settled) := by
  refine fun name => ⟨[], rfl, fun contents hcontents => ?_⟩
  exact .inl (List.mem_singleton.mp hcontents)

theorem ProfileChange.safe {name : Name} {p : HelperM HelperExit}
    (hp : ProfileChange name configName deadline p asked kept) (w : World) :
    Safe ledgered (KeepsRecoverable (OldOrKept w configName asked kept)) p
      (Survives (OldOrKept w configName asked kept) configName kept) (w, .settled) := by
  have hstart := recoverable_settled w configName asked kept
  cases hp with
  | imported input =>
    refine safe_profilesImport_survives hstart fun hnone => .inr ⟨rfl, ?_, rfl⟩
    rcases hnone with hnone | ⟨-, -, hnone⟩
    · exact hnone.symm
    · cases hnone
  | replaced input =>
    refine safe_profilesReplace_survives hstart fun saved hsaved => .inr ⟨rfl, ?_, rfl⟩
    rcases hsaved with hsaved | ⟨-, hasked, -⟩
    · rw [← hsaved]
      simp
    · exact hasked
  | deleted => exact safe_profilesDelete_survives hstart ⟨rfl, rfl⟩ (.inr ⟨rfl, trivial, rfl⟩)

/-- A run with the ledger, from its safety. -/
theorem recoverable_of_safe {p q : HelperM HelperExit} {w w' : World} {l : Durability}
    {tr : List HelperEvent}
    (h : Safe ledgered (KeepsRecoverable allowed) p (Survives allowed configName kept) (w, l))
    (hs : Steps behaves p w tr q w') :
    Recoverable allowed (w', tr.foldl Durability.after l) ∧
      (q = .pure .success → SavedFor configName kept (w', tr.foldl Durability.after l)) := by
  obtain ⟨tr', hs'⟩ := hs.monitor Durability.after l
  have hrest := h.rest hs'
  refine ⟨?_, ?_⟩
  · cases q with
    | pure a => exact Survives.recoverable hrest
    | call o k => exact hrest.1
  · rintro rfl
    exact Survives.saved hrest rfl

/-- A profile survives a loss of power. Where an import, a replacement or a deletion over the system
calls is stopped anywhere and the power is lost, every profile holds what it held before, or it is
the one at hand, which was none for an import and one for a replacement, and holds what the
transaction was to leave. Where the transaction had returned success, it holds that. -/
theorem profiles_survivePowerLoss (rounds : ℕ) {name configName : Name} {deadline : ℤ}
    {p : HelperM HelperExit} {asked : Option Bytes → Prop} {kept : Option Bytes} {d d' : Disk}
    {s : Store} {tr : List (Event diskSig Disk)} {q : DiskM (Option HelperExit)}
    (hp : ProfileChange name configName deadline p asked kept) (hsound : d.store.Sound)
    (hsettled : d.store.Settled)
    (hs : Steps diskBehaves (p.implement (storageProgram rounds)).run d tr q d')
    (hq : q ≠ .pure none) (hpower : d'.store.LosesPower s) :
    (∀ other, s.world.files .config other = d.world.files .config other ∨
      (other = configName ∧ asked (d.world.files .config other) ∧
        s.world.files .config other = kept)) ∧
    (q = .pure (some .success) → s.world.files .config configName = kept) := by
  obtain ⟨tr', q', hs', -, hdurable, -, hreturn⟩ :=
    storage_simulates rounds p hsound hsettled.durable hs hq
  obtain ⟨hrecoverable, hsaved⟩ := recoverable_of_safe (hp.safe d.world) hs'
  refine ⟨fun other => ?_, fun hsuccess => ?_⟩
  · obtain ⟨list, hlist, hallowed⟩ := hrecoverable other
    exact hallowed _ (hdurable.survives hpower hlist)
  · obtain ⟨hholds, hpast⟩ := hsaved (hreturn _ hsuccess)
    have hsurvives := hdurable.survives hpower hpast
    rw [List.mem_singleton] at hsurvives
    rw [hsurvives]
    exact hholds

/-- A disk with two saved profiles, and a staging file whose directory is not synced. -/
def savedDisk : Disk where
  file ino :=
    ⟨0, 0o100600, 0, 0, 1, 0, 0, if ino = 0 then ascii "[Interface]\n" else ascii "k", true⟩
  next := 3
  entry area name :=
    if area = .config ∧ name = ascii "a.conf" then some 0
    else if area = .config ∧ name = ascii "b.conf" then some 1
    else if area = .staging ∧ name = ascii "n" then some 2
    else none
  earlier area _ := if area = .staging then [none] else []
  descriptor _ := none
  scan := []
  committed := false

theorem sound_savedDisk : savedDisk.store.Sound := by
  intro area name ino h
  simp only [savedDisk, Disk.store] at h ⊢
  rcases h with h | h
  · split_ifs at h <;> simp only [Option.some.injEq] at h <;> omega
  · split at h <;> simp at h

/-- A replacement that is stopped between the exchange and the sync of the directories. -/
def sampleExchange : List (Event diskSig Disk) × DiskM (Option HelperExit) × Disk :=
  calmDisk.run 28
    ((profilesReplace (ascii "a") (ascii "a.conf") sampleConfig 1000).implement
      (storageProgram 30)).run savedDisk

/-- What is stored where the entry that was exchanged has come back. -/
def recoveredStore : Store :=
  { sampleExchange.2.2.store with
    entry := fun area name =>
      if area = .config ∧ name = ascii "a.conf" then some 0
      else sampleExchange.2.2.store.entry area name }

theorem losesPower_sampleExchange : sampleExchange.2.2.store.LosesPower recoveredStore where
  entry area name := by
    by_cases hmoved : area = .config ∧ name = ascii "a.conf"
    · obtain ⟨rfl, rfl⟩ := hmoved
      right
      decide +kernel
    · left
      simp [recoveredStore, hmoved]
  data _ _ := rfl

/-- The power is lost between the exchange and the sync. The profile holds the input, but what it
held before comes back; the other profile is kept. -/
theorem profiles_survivePowerLoss_sample :
    sampleExchange.2.2.world.files .config (ascii "a.conf") = some sampleConfig ∧
      recoveredStore.world.files .config (ascii "a.conf") = some (ascii "[Interface]\n") ∧
      recoveredStore.world.files .config (ascii "b.conf") = some (ascii "k") := by
  have hreplaced : ProfileChange (ascii "a") (ascii "a.conf") 1000
      (profilesReplace (ascii "a") (ascii "a.conf") sampleConfig 1000) (· ≠ none)
      (some sampleConfig) := .replaced sampleConfig
  have hkept := (profiles_survivePowerLoss 30 hreplaced sound_savedDisk
    ⟨fun _ => rfl, fun _ _ _ => rfl⟩ (calmDisk.steps 28 _ savedDisk)
    (fun h => absurd (congrArg Prog.result h) (by decide +kernel)) losesPower_sampleExchange).1
  refine ⟨by decide +kernel, ?_, ?_⟩
  · rcases hkept (ascii "a.conf") with hold | ⟨-, -, hnew⟩
    · rw [hold]
      decide +kernel
    · -- the entry has come back, so it is not the input
      exact absurd hnew (by decide +kernel)
  · rcases hkept (ascii "b.conf") with hold | ⟨hname, -⟩
    · rw [hold]
      decide +kernel
    · exact absurd hname (by decide)

end NmSidebar
