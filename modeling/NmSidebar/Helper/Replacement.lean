import NmSidebar.Helper.Deletion

/-!
# Saved profiles are never torn

The import and the replacement of a profile, with other processes about that may change the
profile as well. At every moment the profile's name holds either all of what others have left
there or all of the input, and a transaction that reports a plain failure has left the name to
them.
-/

namespace NmSidebar

open Text Effects

/-! ## Profiles that others change too -/

/-- What others have left under a profile's name, and whether a file of the helper's is in its
place. -/
structure Standing where
  saved : Option Bytes
  ours : Bool

/-- The machine with the standing of one profile. -/
abbrev Contested := World × Standing

/-- Whether the name holds a file of the helper's after an operation. -/
def HelperCall.takes : (o : HelperCall) → o.Reply → Bool → Bool
  | .exchangeStagingConfig .., true, ours => !ours
  | .renameStagingNoreplace .., .renamed, _ => true
  | .removeAndSync .config _, true, _ => false
  | _, _, ours => ours

/-- The behaviour of the operations where others may change the profile at any time that no file
of the helper's is in its place. -/
def contested (configName : Name) : Behaviour helperSig Contested := fun o σ r σ' =>
  ∃ w, behaves o σ.1 r w ∧ σ'.2.ours = o.takes r σ.2.ours ∧
    ((σ'.1 = w ∧ σ'.2.saved = σ.2.saved) ∨
      (σ'.2.ours = false ∧ σ'.1 = w.setFile .config configName σ'.2.saved))

/-- A machine before a transaction: the profile is what others have left. -/
def World.contest (w : World) (configName : Name) : Contested :=
  (w, ⟨w.files .config configName, false⟩)

/-- Where nobody else acts, a run is one on the contested machine, and what others have left stays
what it was. -/
theorem steps_contested {α : Type} {configName : Name} {p q : HelperM α} {σ : Contested}
    {w' : World} {tr : List HelperEvent} (hs : Steps behaves p σ.1 tr q w') :
    ∃ tr' σ', Steps (contested configName) p σ tr' q σ' ∧ σ'.1 = w' ∧ σ'.2.saved = σ.2.saved := by
  generalize hw : σ.1 = w at hs
  induction hs generalizing σ with
  | here p w => exact ⟨[], σ, .here p σ, hw, rfl⟩
  | @step o k w w₁ w' r tr q hb _ ih =>
    obtain ⟨tr', σ', hs', hworld, hsaved⟩ :=
      @ih ⟨w₁, ⟨σ.2.saved, o.takes r σ.2.ours⟩⟩ rfl
    have hstep : contested configName o σ r (w₁, ⟨σ.2.saved, o.takes r σ.2.ours⟩) :=
      ⟨w₁, hw ▸ hb, rfl, .inl ⟨rfl, rfl⟩⟩
    exact ⟨_, σ', .step hstep hs', hworld, hsaved⟩

/-- An operation on a contested machine. -/
abbrev ContestedEvent := Event helperSig Contested

/-- A contested machine with the events so far. -/
abbrev Watched := Contested × List ContestedEvent

/-- The candidate that an operation has created in the staging directory. -/
def candidateOf : ContestedEvent → Option Name
  | ⟨.writeStagingCandidate _, _, .incomplete tempName, _⟩
  | ⟨.writeStagingCandidate _, _, .complete tempName, _⟩ => some tempName
  | _ => none

/-- `awg-quick` has accepted the input: it was run on a staging file that held exactly the input,
and a snapshot could be built from what it printed. -/
def Validated (input : Bytes) (tr : List ContestedEvent) : Prop :=
  ∃ envelope tempName deadline child snapshot σ σ',
    configParseEnvelope input = .ok envelope ∧ σ.1.files .staging tempName = some input ∧
    (⟨.subprocessRun .strip (stagingDir ++ ascii "/" ++ tempName) deadline, σ, child, σ'⟩ :
      ContestedEvent) ∈ tr ∧
    quickStatus .strip child = .success ∧
    quickConfigBuildSnapshot child.output envelope = .ok snapshot

/-- The removal of a staging file has failed. -/
def RemovalFailed (tempName : Name) (tr : List ContestedEvent) : Prop :=
  ∃ σ σ', (⟨.removeAndSync .staging tempName, σ, false, σ'⟩ : ContestedEvent) ∈ tr

/-- No candidate is left, but for removals that failed. -/
def Cleared (s : Watched) : Prop :=
  ∀ e ∈ s.2, ∀ tempName, candidateOf e = some tempName →
    s.1.1.files .staging tempName = none ∨ RemovalFailed tempName s.2

/-- The name holds what others have left there. -/
structure Untouched (configName : Name) (σ : Contested) : Prop where
  theirs : σ.2.ours = false
  holds : σ.1.files .config configName = σ.2.saved

theorem untouched_contest (w : World) (configName : Name) :
    Untouched configName (w.contest configName) := ⟨rfl, rfl⟩

/-- The name is held whole: by what others have left, or by the input, accepted. -/
def Whole (configName : Name) (input : Bytes) (s : Watched) : Prop :=
  s.1.1.files .config configName = s.1.2.saved ∨
    s.1.1.files .config configName = some input ∧ Validated input s.2

/-- The results that leave the profile as it was. -/
def HelperExit.IsRefusal (result : HelperExit) : Prop :=
  result ≠ .success ∧ result ≠ .rollbackFailed ∧ result ≠ .timedOut ∧ result ≠ .childSignaled

/-! ## Steps that move nothing -/

/-- An operation that changes neither the saved profiles nor the candidates. -/
def HelperCall.IsLook (o : HelperCall) : Prop :=
  o.changesArea .config = false ∧ o.changesArea .staging = false

variable {configName : Name} {input : Bytes}

theorem takes_of_spares {o : HelperCall} (h : o.SparesProfiles) (r : o.Reply) (ours : Bool) :
    o.takes r ours = ours := by
  cases o with
  | removeAndSync area name =>
    cases area with
    | config => cases h
    | staging | runtime | runtimeConfigs => rfl
  | renameStagingNoreplace | exchangeStagingConfig => cases h
  | _ => rfl

theorem candidateOf_of_look {o : HelperCall} (h : o.IsLook) {σ σ' : Contested} {r : o.Reply} :
    candidateOf ⟨o, σ, r, σ'⟩ = none := by
  cases o with
  | writeStagingCandidate contents => cases h.2
  | _ => rfl

/-- What a step has left alone where it changes no saved profile. -/
structure Spared (configName : Name) (σ σ' : Contested) : Prop where
  ours : σ'.2.ours = σ.2.ours
  own : σ.2.ours = true →
    σ'.1.files .config configName = σ.1.files .config configName ∧ σ'.2.saved = σ.2.saved
  untouched : Untouched configName σ → Untouched configName σ'

/-- An operation that changes no saved profile leaves the profile to whom it belongs. -/
theorem spared_of_contested {o : HelperCall} {σ σ' : Contested} {r : o.Reply}
    (h : contested configName o σ r σ') (ho : o.SparesProfiles) : Spared configName σ σ' := by
  obtain ⟨w, hb, hours, hedit⟩ := h
  rw [takes_of_spares ho] at hours
  have hfiles : w.files .config = σ.1.files .config := files_of_behaves hb ho
  refine ⟨hours, fun hown => ?_, fun hσ => ⟨hours.trans hσ.theirs, ?_⟩⟩
  · rcases hedit with ⟨hw, hsaved⟩ | ⟨htheirs, -⟩
    · exact ⟨by rw [hw, hfiles], hsaved⟩
    · rw [hours, hown] at htheirs
      cases htheirs
  · rcases hedit with ⟨hw, hsaved⟩ | ⟨-, hw⟩
    · rw [hw, hfiles, hsaved]
      exact hσ.holds
    · rw [hw]
      exact files_setFile_self ..

/-- Others leave the staging directory alone. -/
theorem staging_of_contested {o : HelperCall} {σ σ' : Contested} {r : o.Reply}
    (h : contested configName o σ r σ') :
    ∃ w, behaves o σ.1 r w ∧ σ'.1.files .staging = w.files .staging := by
  obtain ⟨w, hb, -, ⟨hw, -⟩ | ⟨-, hw⟩⟩ := h
  · exact ⟨w, hb, by rw [hw]⟩
  · refine ⟨w, hb, ?_⟩
    rw [hw]
    funext other
    exact files_setFile_ne (.inl (by simp))

/-- What a look at the machine has left alone. -/
structure Looked (configName : Name) (s s' : Watched) : Prop extends
    Spared configName s.1 s'.1 where
  staging : s'.1.1.files .staging = s.1.1.files .staging
  log : ∀ e ∈ s.2, e ∈ s'.2
  fresh : ∀ e ∈ s'.2, e ∈ s.2 ∨ candidateOf e = none

theorem looked_of_logged {o : HelperCall} {s s' : Watched} {r : o.Reply}
    (h : (contested configName).logged o s r s') (ho : o.IsLook) : Looked configName s s' where
  toSpared := spared_of_contested h.1 ho.1
  staging := by
    obtain ⟨w, hb, hstaging⟩ := staging_of_contested h.1
    rw [hstaging]
    exact files_of_behaves hb ho.2
  log := fun e he => by
    rw [h.2]
    exact List.mem_append_left _ he
  fresh := fun e he => by
    rw [h.2] at he
    rcases List.mem_append.mp he with he | he
    · exact .inl he
    · rw [List.mem_singleton.mp he]
      exact .inr (candidateOf_of_look ho)

/-! ## Before the exchange -/

/-- The candidates created so far are among those that `known` allows. -/
def Known (known : Name → Prop) (s : Watched) : Prop :=
  ∀ e ∈ s.2, ∀ tempName, candidateOf e = some tempName → known tempName

theorem Looked.known {known : Name → Prop} {s s' : Watched} (h : Looked configName s s')
    (hs : Known known s) : Known known s' := by
  intro e he tempName hcandidate
  rcases h.fresh e he with hold | hfresh
  · exact hs e hold tempName hcandidate
  · rw [hfresh] at hcandidate
    cases hcandidate

/-- Nothing has been created yet. -/
structure Idle (configName : Name) (s : Watched) : Prop where
  untouched : Untouched configName s.1
  known : Known (fun _ => False) s

/-- A candidate with all of the input waits in the staging directory. -/
structure Staged (configName : Name) (input : Bytes) (tempName : Name) (s : Watched) : Prop where
  untouched : Untouched configName s.1
  known : Known (· = tempName) s
  staged : s.1.1.files .staging tempName = some input

/-- The one candidate is gone, or its removal has failed. -/
structure Cleaned (configName : Name) (s : Watched) : Prop where
  untouched : Untouched configName s.1
  cleared : Cleared s

theorem Idle.looked {s s' : Watched} (hs : Idle configName s) (h : Looked configName s s') :
    Idle configName s' := ⟨h.untouched hs.untouched, h.known hs.known⟩

theorem Staged.looked {tempName : Name} {s s' : Watched}
    (hs : Staged configName input tempName s) (h : Looked configName s s') :
    Staged configName input tempName s' :=
  ⟨h.untouched hs.untouched, h.known hs.known, by rw [h.staging]; exact hs.staged⟩

theorem Idle.cleaned {s : Watched} (hs : Idle configName s) : Cleaned configName s :=
  ⟨hs.untouched, fun e he tempName h => (hs.known e he tempName h).elim⟩

theorem RemovalFailed.mono {tempName : Name} {tr tr' : List ContestedEvent}
    (h : RemovalFailed tempName tr) (hlog : ∀ e ∈ tr, e ∈ tr') : RemovalFailed tempName tr' := by
  obtain ⟨σ, σ', he⟩ := h
  exact ⟨σ, σ', hlog _ he⟩

theorem Validated.mono {tr tr' : List ContestedEvent} (h : Validated input tr)
    (hlog : ∀ e ∈ tr, e ∈ tr') : Validated input tr' := by
  obtain ⟨envelope, tempName, deadline, child, snapshot, σ, σ', hparse, hstaged, he, hrest⟩ := h
  exact ⟨envelope, tempName, deadline, child, snapshot, σ, σ', hparse, hstaged, hlog _ he, hrest⟩

theorem Cleared.looked {s s' : Watched} (hs : Cleared s) (h : Looked configName s s') :
    Cleared s' := by
  intro e he tempName hcandidate
  rcases h.fresh e he with hold | hfresh
  · rw [h.staging]
    exact (hs e hold tempName hcandidate).imp id fun hfailed => hfailed.mono h.log
  · rw [hfresh] at hcandidate
    cases hcandidate

theorem Cleaned.looked {s s' : Watched} (hs : Cleaned configName s)
    (h : Looked configName s s') : Cleaned configName s' :=
  ⟨h.untouched hs.untouched, hs.cleared.looked h⟩

/-- The issue condition before the exchange. -/
def BeforeExchange (configName : Name) (_ : HelperCall) (s : Watched) : Prop :=
  Untouched configName s.1

variable {s : Watched}

/-- A program of looks keeps what every look keeps. -/
theorem safe_looks {α : Type} {A : HelperCall → Watched → Prop} {I : Watched → Prop}
    {p : HelperM α} (hp : p.Uses HelperCall.IsLook) (hs : I s)
    (hA : ∀ o s, I s → A o s) (hI : ∀ s s', I s → Looked configName s s' → I s') :
    Safe (contested configName).logged A p (fun _ s' => I s') s :=
  Safe.of_uses hp hs (fun o s _ hs => hA o s hs)
    fun _ s _ s' ho hs h => hI s s' hs (looked_of_logged h ho)

theorem looks_phaseStopStatus (deadline : ℤ) :
    (phaseStopStatus deadline).Uses HelperCall.IsLook := by
  refine uses_ask ⟨rfl, rfl⟩ fun stopped => ?_
  cases stopped with
  | true => trivial
  | false => exact uses_ask ⟨rfl, rfl⟩ fun _ => trivial

theorem looks_sessionRuntimeState (name : Name) :
    (sessionRuntimeState name).Uses HelperCall.IsLook := by
  refine uses_ask ⟨rfl, rfl⟩ fun read => ?_
  cases read with
  | invalid => trivial
  | missing | valid => exact uses_ask ⟨rfl, rfl⟩ fun _ => trivial

theorem looks_replacementTargetStatus (name configName : Name) :
    (replacementTargetStatus name configName).Uses HelperCall.IsLook := by
  refine uses_ask ⟨rfl, rfl⟩ fun state => ?_
  cases state with
  | missing | invalid => trivial
  | valid =>
    refine (looks_sessionRuntimeState name).bind fun seen => ?_
    cases seen <;> trivial

/-- The removal of the one candidate, whatever it replies. -/
theorem cleaned_of_removal {tempName : Name} {removed : Bool} {s' : Watched}
    (hs : Untouched configName s.1) (hknown : Known (· = tempName) s)
    (h : (contested configName).logged (.removeAndSync .staging tempName) s removed s') :
    Cleaned configName s' := by
  refine ⟨(spared_of_contested h.1 rfl).untouched hs, ?_⟩
  have hgone : s'.1.1.files .staging tempName = none ∨ RemovalFailed tempName s'.2 := by
    cases removed with
    | false =>
      refine .inr ⟨s.1, s'.1, ?_⟩
      rw [h.2]
      exact List.mem_append_right _ List.mem_cons_self
    | true =>
      obtain ⟨w, hb, hstaging⟩ := staging_of_contested h.1
      left
      rw [hstaging]
      cases hb
      exact files_setFile_self ..
  intro e he tempName' hcandidate
  rw [h.2] at he
  rcases List.mem_append.mp he with hold | hnew
  · obtain rfl : tempName' = tempName := hknown e hold tempName' hcandidate
    exact hgone
  · rw [List.mem_singleton.mp hnew] at hcandidate
    cases hcandidate

theorem safe_removeCandidate_cleaned {tempName : Name} {result : HelperExit}
    (hs : Untouched configName s.1) (hknown : Known (· = tempName) s) :
    Safe (contested configName).logged (BeforeExchange configName)
      (removeCandidate tempName result) (fun _ s' => Cleaned configName s') s := by
  refine ⟨hs, fun removed s' h => ?_⟩
  have hcleaned := cleaned_of_removal hs hknown h
  cases removed <;> exact hcleaned

/-- What `write_candidate` leaves. -/
def CandidateWritten (configName : Name) (input : Bytes) (s : Watched) :
    Except HelperExit Candidate → Prop
  | .error _ => Cleaned configName s
  | .ok candidate => Staged configName input candidate.tempName s ∧ Validated input s.2

theorem safe_discardCandidate_cleaned {tempName : Name} {result : HelperExit}
    (hs : Untouched configName s.1) (hknown : Known (· = tempName) s) :
    Safe (contested configName).logged (BeforeExchange configName)
      (discardCandidate tempName result) (fun r s' => CandidateWritten configName input s' r)
      s := by
  refine ⟨hs, fun removed s' h => ?_⟩
  have hcleaned := cleaned_of_removal hs hknown h
  cases removed <;> exact hcleaned

/-- What the creation of a candidate leaves. -/
def CandidateCreated (configName : Name) (input : Bytes) (s : Watched) : StagingCandidate → Prop
  | .notCreated => Idle configName s
  | .incomplete tempName => Untouched configName s.1 ∧ Known (· = tempName) s
  | .complete tempName => Staged configName input tempName s

theorem created_of_logged {created : StagingCandidate} {s' : Watched} (hs : Idle configName s)
    (h : (contested configName).logged (.writeStagingCandidate input) s created s') :
    CandidateCreated configName input s' created := by
  have huntouched := (spared_of_contested h.1 rfl).untouched hs.untouched
  obtain ⟨w, hb, hstaging⟩ := staging_of_contested h.1
  have hknown : ∀ {known : Name → Prop},
      (∀ tempName, candidateOf ⟨.writeStagingCandidate input, s.1, created, s'.1⟩ =
        some tempName → known tempName) → Known known s' := by
    intro known hnew e he tempName hcandidate
    rw [h.2] at he
    rcases List.mem_append.mp he with hold | hlast
    · exact (hs.known e hold tempName hcandidate).elim
    · rw [List.mem_singleton.mp hlast] at hcandidate
      exact hnew tempName hcandidate
  cases created with
  | notCreated => exact ⟨huntouched, hknown fun _ h => nomatch h⟩
  | incomplete tempName => exact ⟨huntouched, hknown fun _ h => (Option.some.inj h).symm⟩
  | complete tempName =>
    refine ⟨huntouched, hknown fun _ h => (Option.some.inj h).symm, ?_⟩
    rw [hstaging]
    cases hb
    exact files_setFile_self ..

/-- `awg-quick strip` has accepted what a staging file holds, and printed `output`. -/
def Stripped (input : Bytes) (configPath output : Bytes) (tempName : Name)
    (tr : List ContestedEvent) : Prop :=
  ∃ deadline child σ σ', σ.1.files .staging tempName = some input ∧
    (⟨.subprocessRun .strip configPath deadline, σ, child, σ'⟩ : ContestedEvent) ∈ tr ∧
    quickStatus .strip child = .success ∧ output = child.output

theorem safe_quickRun_stripped {tempName : Name} {configPath : Bytes} {deadline : ℤ}
    (hs : Staged configName input tempName s) :
    Safe (contested configName).logged (BeforeExchange configName)
      (quickRun .strip configPath deadline) (fun quick s' => Staged configName input tempName s' ∧
        (quick.status = .success → Stripped input configPath quick.output tempName s'.2)) s := by
  refine (safe_looks (looks_phaseStopStatus deadline) hs (fun _ _ hs => hs.untouched)
    fun _ _ => Staged.looked).bind fun stop s₁ hs₁ => ?_
  split
  · exact ⟨hs₁, fun h => absurd h ‹_›⟩
  refine ⟨hs₁.untouched, fun opened s₂ h₂ => ?_⟩
  have hs₂ := hs₁.looked (looked_of_logged h₂ ⟨rfl, rfl⟩)
  cases opened with
  | false => exact ⟨hs₂, HelperExit.noConfusion⟩
  | true =>
    refine ⟨hs₂.untouched, fun child s₃ h₃ => ⟨hs₂.looked (looked_of_logged h₃ ⟨rfl, rfl⟩), ?_⟩⟩
    intro hstatus
    refine ⟨deadline, child, s₂.1, s₃.1, hs₂.staged, ?_, hstatus, if_pos hstatus⟩
    rw [h₃.2]
    exact List.mem_append_right _ List.mem_cons_self

/-- `write_candidate` leaves a candidate with all of the input, accepted, or none. -/
theorem safe_writeCandidate_written {deadline : ℤ} (hs : Idle configName s) :
    Safe (contested configName).logged (BeforeExchange configName)
      (writeCandidate input deadline)
      (fun r s' => CandidateWritten configName input s' r) s := by
  unfold writeCandidate
  cases hparse : configParseEnvelope input with
  | error failure => exact hs.cleaned
  | ok envelope =>
    refine safe_bind.mpr (safe_request.mpr ⟨hs.untouched, fun created s₁ h₁ => ?_⟩)
    have hcreated := created_of_logged hs h₁
    cases created with
    | notCreated => exact hcreated.cleaned
    | incomplete tempName => exact safe_discardCandidate_cleaned hcreated.1 hcreated.2
    | complete tempName =>
      have hstaged : Staged configName input tempName s₁ := hcreated
      dsimp only
      cases hpath : formatted pathMax (stagingDir ++ ascii "/" ++ tempName) with
      | none => exact safe_discardCandidate_cleaned hstaged.untouched hstaged.known
      | some tempPath =>
        obtain rfl := formatted_eq_some hpath
        refine (safe_quickRun_stripped hstaged).bind fun quick s₂ hquick => ?_
        obtain ⟨hstaged₂, hstripped⟩ := hquick
        split
        · exact safe_discardCandidate_cleaned hstaged₂.untouched hstaged₂.known
        rename_i hstatus
        cases hsnapshot : quickConfigBuildSnapshot quick.output envelope with
        | error failure => exact safe_discardCandidate_cleaned hstaged₂.untouched hstaged₂.known
        | ok snapshot =>
          refine ⟨hstaged₂, ?_⟩
          obtain ⟨deadline', child, σ, σ', hfile, he, hstatus', houtput⟩ :=
            hstripped (not_not.mp hstatus)
          rw [houtput] at hsnapshot
          exact ⟨envelope, tempName, deadline', child, snapshot, σ, σ', hparse, hfile, he,
            hstatus', hsnapshot⟩

/-! ## The exchange and its undoing -/

/-- The name holds a file of the helper's, with all of the accepted input. -/
structure Placed (configName : Name) (input : Bytes) (s : Watched) : Prop where
  ours : s.1.2.ours = true
  holds : s.1.1.files .config configName = some input
  validated : Validated input s.2

/-- What others had left is where the candidate was. -/
structure Swapped (configName : Name) (input : Bytes) (tempName : Name) (s : Watched) : Prop
    extends Placed configName input s where
  displaced : s.1.1.files .staging tempName = s.1.2.saved
  known : Known (· = tempName) s

theorem Placed.of_spared {s' : Watched} (hs : Placed configName input s)
    (h : Spared configName s.1 s'.1) (hlog : ∀ e ∈ s.2, e ∈ s'.2) :
    Placed configName input s' :=
  ⟨h.ours.trans hs.ours, (h.own hs.ours).1.trans hs.holds, hs.validated.mono hlog⟩

theorem Placed.looked {s' : Watched} (hs : Placed configName input s)
    (h : Looked configName s s') : Placed configName input s' := hs.of_spared h.toSpared h.log

theorem Swapped.looked {tempName : Name} {s' : Watched}
    (hs : Swapped configName input tempName s) (h : Looked configName s s') :
    Swapped configName input tempName s' where
  toPlaced := hs.toPlaced.looked h
  displaced := by
    rw [h.staging, (h.own hs.ours).2]
    exact hs.displaced
  known := h.known hs.known

theorem Placed.whole (hs : Placed configName input s) : Whole configName input s :=
  .inr ⟨hs.holds, hs.validated⟩

theorem Untouched.whole (hs : Untouched configName s.1) : Whole configName input s :=
  .inl hs.holds

/-- The known candidates after an operation that is no creation. -/
theorem Known.logged {known : Name → Prop} {o : HelperCall} {r : o.Reply} {s' : Watched}
    (hs : Known known s) (h : (contested configName).logged o s r s')
    (ho : candidateOf ⟨o, s.1, r, s'.1⟩ = none) : Known known s' := by
  intro e he tempName hcandidate
  rw [h.2] at he
  rcases List.mem_append.mp he with hold | hlast
  · exact hs e hold tempName hcandidate
  · rw [List.mem_singleton.mp hlast, ho] at hcandidate
    cases hcandidate

theorem mem_of_logged {o : HelperCall} {r : o.Reply} {s' : Watched}
    (h : (contested configName).logged o s r s') : ∀ e ∈ s.2, e ∈ s'.2 := by
  intro e he
  rw [h.2]
  exact List.mem_append_left _ he

/-- The exchange puts the candidate in the place of what others have left, or does nothing. -/
theorem exchanged_of_staged {tempName : Name} {exchanged : Bool} {s' : Watched}
    (hs : Staged configName input tempName s) (hvalid : Validated input s.2)
    (h : (contested configName).logged (.exchangeStagingConfig tempName configName) s
      exchanged s') :
    if exchanged then Swapped configName input tempName s'
    else Staged configName input tempName s' := by
  have hknown := hs.known.logged h rfl
  have hlog := mem_of_logged h
  obtain ⟨⟨w, hb, hours, hedit⟩, -⟩ := h
  cases hb with
  | exchanged staged saved hstaged hsaved =>
    obtain rfl : staged = input := Option.some.inj (hstaged.symm.trans hs.staged)
    have hours' : s'.1.2.ours = true := by
      rw [hours, HelperCall.takes, hs.untouched.theirs]
      rfl
    obtain ⟨hw, hsaved'⟩ | ⟨htheirs, -⟩ := hedit
    · refine ⟨⟨hours', ?_, hvalid.mono hlog⟩, ?_, hknown⟩
      · rw [hw, files_setFile_self]
      · rw [hw, files_setFile_ne (.inl (by simp)), files_setFile_self, hsaved',
          ← hs.untouched.holds, hsaved]
    · rw [hours'] at htheirs
      cases htheirs
  | failed =>
    have hours' : s'.1.2.ours = false := hours.trans hs.untouched.theirs
    obtain ⟨hw, hsaved'⟩ | ⟨-, hw⟩ := hedit
    · refine ⟨⟨hours', ?_⟩, hknown, ?_⟩
      · rw [hw, hsaved']
        exact hs.untouched.holds
      · rw [hw]
        exact hs.staged
    · refine ⟨⟨hours', ?_⟩, hknown, ?_⟩
      · rw [hw, files_setFile_self]
      · rw [hw, files_setFile_ne (.inl (by simp))]
        exact hs.staged

/-- The exchange back gives the name back to what others had left, or does nothing. -/
theorem exchanged_of_swapped {tempName : Name} {exchanged : Bool} {s' : Watched}
    (hs : Swapped configName input tempName s)
    (h : (contested configName).logged (.exchangeStagingConfig tempName configName) s
      exchanged s') :
    if exchanged then Staged configName input tempName s'
    else Swapped configName input tempName s' := by
  have hknown := hs.known.logged h rfl
  have hlog := mem_of_logged h
  obtain ⟨⟨w, hb, hours, hedit⟩, -⟩ := h
  cases hb with
  | exchanged staged saved hstaged hsaved =>
    obtain rfl : saved = input := Option.some.inj (hsaved.symm.trans hs.holds)
    have hours' : s'.1.2.ours = false := by
      rw [hours, HelperCall.takes, hs.ours]
      rfl
    obtain ⟨hw, hsaved'⟩ | ⟨-, hw⟩ := hedit
    · refine ⟨⟨hours', ?_⟩, hknown, ?_⟩
      · rw [hw, files_setFile_self, hsaved', ← hs.displaced, hstaged]
      · rw [hw, files_setFile_ne (.inl (by simp)), files_setFile_self]
    · refine ⟨⟨hours', ?_⟩, hknown, ?_⟩
      · rw [hw, files_setFile_self]
      · rw [hw, files_setFile_ne (.inl (by simp)), files_setFile_ne (.inl (by simp)),
          files_setFile_self]
  | failed =>
    have hours' : s'.1.2.ours = true := hours.trans hs.ours
    obtain ⟨hw, hsaved'⟩ | ⟨htheirs, -⟩ := hedit
    · refine ⟨⟨hours', ?_, hs.validated.mono hlog⟩, ?_, hknown⟩
      · rw [hw]
        exact hs.holds
      · rw [hw, hsaved']
        exact hs.displaced
    · rw [hours'] at htheirs
      cases htheirs

/-- The removal of what was displaced leaves the accepted input in place. -/
theorem unlinked_of_swapped {tempName : Name} {unlinked : Bool} {s' : Watched}
    (hs : Swapped configName input tempName s)
    (h : (contested configName).logged (.unlinkStaging tempName) s unlinked s') :
    if unlinked then Placed configName input s' else Swapped configName input tempName s' := by
  have hspared := spared_of_contested h.1 rfl
  have hplaced := hs.toPlaced.of_spared hspared (mem_of_logged h)
  cases unlinked with
  | true => exact hplaced
  | false =>
    refine ⟨hplaced, ?_, hs.known.logged h rfl⟩
    obtain ⟨w, hb, hstaging⟩ := staging_of_contested h.1
    rcases hb with ⟨hunlinked, -⟩ | ⟨-, rfl⟩
    · cases hunlinked
    · rw [hstaging, (hspared.own hs.ours).2]
      exact hs.displaced

/-! ## Replacement -/

/-- The issue condition of a replacement: the name is held whole. -/
def KeepsWhole (configName : Name) (input : Bytes) (_ : HelperCall) (s : Watched) : Prop :=
  Whole configName input s

/-- What a transaction has come to when it returns: the name is held whole, and by what others
have left where the result is a refusal. -/
structure Ended (configName : Name) (input : Bytes) (result : HelperExit) (s : Watched) :
    Prop where
  whole : Whole configName input s
  refused : result.IsRefusal → Cleaned configName s

theorem Cleaned.ended (hs : Cleaned configName s) (result : HelperExit) :
    Ended configName input result s := ⟨hs.untouched.whole, fun _ => hs⟩

theorem Placed.ended (hs : Placed configName input s) {result : HelperExit}
    (hresult : ¬result.IsRefusal) : Ended configName input result s :=
  ⟨hs.whole, fun h => absurd h hresult⟩

theorem not_isRefusal_rollbackFailed : ¬HelperExit.rollbackFailed.IsRefusal := fun h => h.2.1 rfl

/-- A check of the deadline has no refusal as its result. -/
theorem returns_phaseStopStatus (deadline : ℤ) :
    (phaseStopStatus deadline).Returns fun result => ¬result.IsRefusal := by
  intro stopped
  cases stopped with
  | true => exact fun h => h.2.2.2 rfl
  | false =>
    intro now
    show ¬(if _ then HelperExit.timedOut else .success).IsRefusal
    split
    · exact fun h => h.2.2.1 rfl
    · exact fun h => h.1 rfl

theorem keepsWhole_of_beforeExchange {α : Type} {p : HelperM α} {Q : α → Watched → Prop}
    (h : Safe (contested configName).logged (BeforeExchange configName) p Q s) :
    Safe (contested configName).logged (KeepsWhole configName input) p Q s :=
  h.weaken fun _ _ hs => hs.whole

/-- Looks at the machine while the accepted input is in place. -/
theorem safe_looks_placed {α : Type} {p : HelperM α} (hp : p.Uses HelperCall.IsLook)
    (hs : Placed configName input s) :
    Safe (contested configName).logged (KeepsWhole configName input) p
      (fun _ s' => Placed configName input s') s :=
  safe_looks hp hs (fun _ _ hs => hs.whole) fun _ _ => Placed.looked

/-- The check of the deadline at the end of a transaction. -/
theorem safe_lastPhaseStopStatus {deadline : ℤ} (hs : Placed configName input s) :
    Safe (contested configName).logged (KeepsWhole configName input) (phaseStopStatus deadline)
      (Ended configName input) s := by
  have hreturns := Safe.of_returnsOn (B := (contested configName).logged)
    (A := fun _ _ => True) (w := s) (R := fun _ _ => True) (returns_phaseStopStatus deadline).on
    (fun _ _ => trivial) fun _ _ _ _ _ => trivial
  exact (((safe_looks_placed (looks_phaseStopStatus deadline) hs).and hreturns).weaken
    fun _ _ => And.left).mono fun _ _ h => h.1.ended h.2

theorem safe_rollbackReplacement {tempName : Name} (hs : Swapped configName input tempName s) :
    Safe (contested configName).logged (KeepsWhole configName input)
      (rollbackReplacement tempName configName) (Ended configName input) s := by
  refine safe_bind.mpr (safe_request.mpr ⟨hs.whole, fun exchanged s₁ h₁ => ?_⟩)
  have hs₁ := exchanged_of_swapped hs h₁
  cases exchanged with
  | false => exact Placed.ended (Swapped.toPlaced hs₁) not_isRefusal_rollbackFailed
  | true =>
    have hstaged : Staged configName input tempName s₁ := hs₁
    refine safe_bind.mpr (safe_request.mpr ⟨hstaged.untouched.whole, fun synced s₂ h₂ => ?_⟩)
    have hs₂ := hstaged.looked (looked_of_logged h₂ ⟨rfl, rfl⟩)
    cases synced with
    | false => exact ⟨hs₂.untouched.whole, fun h => absurd h not_isRefusal_rollbackFailed⟩
    | true =>
      refine safe_bind.mpr (safe_request.mpr ⟨hs₂.untouched.whole, fun removed s₃ h₃ => ?_⟩)
      exact (cleaned_of_removal hs₂.untouched hs₂.known h₃).ended _

theorem safe_removeCandidate_ended {tempName : Name} {result : HelperExit}
    (hs : Staged configName input tempName s) :
    Safe (contested configName).logged (KeepsWhole configName input)
      (removeCandidate tempName result) (Ended configName input) s :=
  keepsWhole_of_beforeExchange
    ((safe_removeCandidate_cleaned hs.untouched hs.known).mono fun _ _ hs => hs.ended _)

/-- `awg_helper_profiles_replace` once its candidate has been exchanged with the profile. -/
theorem safe_exchangedReplace {tempName : Name} {original : StorageIdentity} {deadline : ℤ}
    (hs : Swapped configName input tempName s) :
    Safe (contested configName).logged (KeepsWhole configName input)
      (do
        if ← ask (.displacedMatchesIdentity tempName original) then
          if ← ask .syncConfigAndStaging then
            if ← ask (.unlinkStaging tempName) then
              if ← ask .syncStaging then phaseStopStatus deadline
              else return .rollbackFailed
            else rollbackReplacement tempName configName
          else rollbackReplacement tempName configName
        else rollbackReplacement tempName configName)
      (Ended configName input) s := by
  refine safe_bind.mpr (safe_request.mpr ⟨hs.whole, fun matched s₁ h₁ => ?_⟩)
  have hs₁ := hs.looked (looked_of_logged h₁ ⟨rfl, rfl⟩)
  cases matched with
  | false => exact safe_rollbackReplacement hs₁
  | true =>
    refine safe_bind.mpr (safe_request.mpr ⟨hs₁.whole, fun synced s₂ h₂ => ?_⟩)
    have hs₂ := hs₁.looked (looked_of_logged h₂ ⟨rfl, rfl⟩)
    cases synced with
    | false => exact safe_rollbackReplacement hs₂
    | true =>
      refine safe_bind.mpr (safe_request.mpr ⟨hs₂.whole, fun unlinked s₃ h₃ => ?_⟩)
      have hs₃ := unlinked_of_swapped hs₂ h₃
      cases unlinked with
      | false => exact safe_rollbackReplacement hs₃
      | true =>
        have hplaced : Placed configName input s₃ := hs₃
        refine safe_bind.mpr (safe_request.mpr ⟨hplaced.whole, fun synced' s₄ h₄ => ?_⟩)
        have hs₄ := hplaced.looked (looked_of_logged h₄ ⟨rfl, rfl⟩)
        cases synced' with
        | false => exact hs₄.ended not_isRefusal_rollbackFailed
        | true => exact safe_lastPhaseStopStatus hs₄

/-- `awg_helper_profiles_replace` holds the name whole. -/
theorem safe_profilesReplace_ended {name : Name} {deadline : ℤ} (hs : Idle configName s) :
    Safe (contested configName).logged (KeepsWhole configName input)
      (profilesReplace name configName input deadline) (Ended configName input) s := by
  have hidle : ∀ s, Idle configName s → Whole configName input s :=
    fun _ hs => hs.untouched.whole
  refine (safe_looks (looks_replacementTargetStatus name configName) hs
    (fun _ => hidle) fun _ _ => Idle.looked).bind fun target s₁ hs₁ => ?_
  split
  · exact hs₁.cleaned.ended _
  refine safe_bind.mpr (safe_request.mpr ⟨hidle _ hs₁, fun original s₂ h₂ => ?_⟩)
  have hs₂ := hs₁.looked (looked_of_logged h₂ ⟨rfl, rfl⟩)
  cases original with
  | none => exact hs₂.cleaned.ended _
  | some original =>
    refine (keepsWhole_of_beforeExchange (safe_writeCandidate_written hs₂)).bind ?_
    intro written s₃ hs₃
    cases written with
    | error failure => exact Cleaned.ended hs₃ _
    | ok candidate =>
      obtain ⟨hstaged, hvalid⟩ := hs₃
      have hwhole : ∀ s, Staged configName input candidate.tempName s ∧ Validated input s.2 →
          Whole configName input s := fun _ hs => hs.1.untouched.whole
      have hlooked : ∀ s s', Staged configName input candidate.tempName s ∧
          Validated input s.2 → Looked configName s s' →
          Staged configName input candidate.tempName s' ∧ Validated input s'.2 :=
        fun _ _ hs h => ⟨hs.1.looked h, hs.2.mono h.log⟩
      refine (safe_looks (looks_replacementTargetStatus name configName) ⟨hstaged, hvalid⟩
        (fun _ => hwhole) hlooked).bind fun target' s₄ hs₄ => ?_
      split
      · exact safe_removeCandidate_ended hs₄.1
      refine (safe_looks (looks_phaseStopStatus deadline) hs₄
        (fun _ => hwhole) hlooked).bind fun stop s₅ hs₅ => ?_
      split
      · exact safe_removeCandidate_ended hs₅.1
      refine safe_bind.mpr (safe_request.mpr ⟨hwhole _ hs₅, fun exchanged s₆ h₆ => ?_⟩)
      have hs₆ := exchanged_of_staged hs₅.1 hs₅.2 h₆
      cases exchanged with
      | false => exact safe_removeCandidate_ended hs₆
      | true => exact safe_exchangedReplace hs₆

/-! ## Import -/

/-- The name is held whole, and by the input only where others have left nothing. -/
def Added (configName : Name) (input : Bytes) (s : Watched) : Prop :=
  Whole configName input s ∧ (s.1.2.saved ≠ none → s.1.1.files .config configName = s.1.2.saved)

/-- The issue condition of an import. -/
def KeepsOthers (configName : Name) (input : Bytes) (_ : HelperCall) (s : Watched) : Prop :=
  Added configName input s

theorem Untouched.added (hs : Untouched configName s.1) : Added configName input s :=
  ⟨hs.whole, fun _ => hs.holds⟩

/-- The input is in place, where there was nothing. -/
structure Imported (configName : Name) (input : Bytes) (s : Watched) : Prop
    extends Placed configName input s where
  nothing : s.1.2.saved = none

theorem Imported.added (hs : Imported configName input s) : Added configName input s :=
  ⟨hs.whole, fun h => absurd hs.nothing h⟩

theorem Imported.looked {s' : Watched} (hs : Imported configName input s)
    (h : Looked configName s s') : Imported configName input s' :=
  ⟨hs.toPlaced.looked h, (h.own hs.ours).2.trans hs.nothing⟩

/-- What an import has come to when it returns. -/
structure ImportEnded (configName : Name) (input : Bytes) (result : HelperExit) (s : Watched) :
    Prop where
  added : Added configName input s
  refused : result.IsRefusal → Untouched configName s.1

theorem Untouched.importEnded (hs : Untouched configName s.1) (result : HelperExit) :
    ImportEnded configName input result s := ⟨hs.added, fun _ => hs⟩

/-- The rename puts the candidate where there was nothing, or does nothing. -/
theorem renamed_of_staged {tempName : Name} {outcome : RenameOutcome} {s' : Watched}
    (hs : Staged configName input tempName s) (hvalid : Validated input s.2)
    (h : (contested configName).logged (.renameStagingNoreplace tempName configName) s
      outcome s') :
    if outcome = .renamed then Imported configName input s'
    else Staged configName input tempName s' := by
  have hknown := hs.known.logged h rfl
  have hlog := mem_of_logged h
  obtain ⟨⟨w, hb, hours, hedit⟩, -⟩ := h
  have hkept : w = s.1.1 → s'.1.2.ours = false → Staged configName input tempName s' := by
    rintro rfl hours'
    obtain ⟨hw, hsaved'⟩ | ⟨-, hw⟩ := hedit
    · refine ⟨⟨hours', ?_⟩, hknown, ?_⟩
      · rw [hw, hsaved']
        exact hs.untouched.holds
      · rw [hw]
        exact hs.staged
    · refine ⟨⟨hours', ?_⟩, hknown, ?_⟩
      · rw [hw, files_setFile_self]
      · rw [hw, files_setFile_ne (.inl (by simp))]
        exact hs.staged
  cases hb with
  | renamed contents hsource htarget =>
    obtain rfl : contents = input := Option.some.inj (hsource.symm.trans hs.staged)
    obtain ⟨hw, hsaved'⟩ | ⟨htheirs, -⟩ := hedit
    · refine ⟨⟨hours, ?_, hvalid.mono hlog⟩, ?_⟩
      · rw [hw, files_setFile_self]
      · rw [hsaved', ← hs.untouched.holds, htarget]
    · rw [hours] at htheirs
      cases htheirs
  | targetExists => exact hkept rfl (hours.trans hs.untouched.theirs)
  | failed => exact hkept rfl (hours.trans hs.untouched.theirs)

/-- The removal of an import that could not be synced. -/
theorem removed_of_imported {removed : Bool} {s' : Watched}
    (hs : Imported configName input s)
    (h : (contested configName).logged (.removeAndSync .config configName) s removed s') :
    if removed then Untouched configName s'.1 else Added configName input s' := by
  have hlog := mem_of_logged h
  obtain ⟨⟨w, hb, hours, hedit⟩, -⟩ := h
  cases hb with
  | removed =>
    refine ⟨hours, ?_⟩
    obtain ⟨hw, hsaved'⟩ | ⟨-, hw⟩ := hedit
    · rw [hw, files_setFile_self, hsaved', hs.nothing]
    · rw [hw, files_setFile_self]
  | unsynced =>
    obtain ⟨hw, hsaved'⟩ | ⟨htheirs, -⟩ := hedit
    · refine ⟨.inl ?_, fun hne => absurd (hsaved'.trans hs.nothing) hne⟩
      rw [hw, files_setFile_self, hsaved', hs.nothing]
    · rw [hours.trans hs.ours] at htheirs
      cases htheirs
  | kept =>
    obtain ⟨hw, hsaved'⟩ | ⟨htheirs, -⟩ := hedit
    · refine ⟨.inr ⟨?_, hs.validated.mono hlog⟩, fun hne => absurd (hsaved'.trans hs.nothing) hne⟩
      rw [hw]
      exact hs.holds
    · rw [hours.trans hs.ours] at htheirs
      cases htheirs

theorem safe_removeCandidate_importEnded {tempName : Name} {result : HelperExit}
    (hs : Staged configName input tempName s) :
    Safe (contested configName).logged (KeepsOthers configName input)
      (removeCandidate tempName result) (ImportEnded configName input) s :=
  ((safe_removeCandidate_cleaned hs.untouched hs.known).weaken fun _ _ hs => hs.added).mono
    fun _ _ hs => hs.untouched.importEnded _

/-- `awg_helper_profiles_import` adds to what others have left, and replaces nothing. -/
theorem safe_profilesImport_ended {name : Name} {deadline : ℤ} (hs : Idle configName s) :
    Safe (contested configName).logged (KeepsOthers configName input)
      (profilesImport name configName input deadline) (ImportEnded configName input) s := by
  have hidle : ∀ s, Idle configName s → Added configName input s :=
    fun _ hs => hs.untouched.added
  refine (safe_looks (looks_replacementTargetStatus name configName) hs
    (fun _ => hidle) fun _ _ => Idle.looked).bind fun target s₁ hs₁ => ?_
  split
  · exact hs₁.untouched.importEnded _
  split
  · exact hs₁.untouched.importEnded _
  refine ((safe_writeCandidate_written hs₁).weaken fun _ _ hs => hs.added).bind ?_
  intro written s₂ hs₂
  cases written with
  | error failure => exact Untouched.importEnded (Cleaned.untouched hs₂) _
  | ok candidate =>
    obtain ⟨hstaged, hvalid⟩ := hs₂
    have hadded : ∀ s, Staged configName input candidate.tempName s ∧ Validated input s.2 →
        Added configName input s := fun _ hs => hs.1.untouched.added
    have hlooked : ∀ s s', Staged configName input candidate.tempName s ∧
        Validated input s.2 → Looked configName s s' →
        Staged configName input candidate.tempName s' ∧ Validated input s'.2 :=
      fun _ _ hs h => ⟨hs.1.looked h, hs.2.mono h.log⟩
    refine (safe_looks (looks_phaseStopStatus deadline) ⟨hstaged, hvalid⟩
      (fun _ => hadded) hlooked).bind fun stop s₃ hs₃ => ?_
    split
    · exact safe_removeCandidate_importEnded hs₃.1
    refine safe_bind.mpr (safe_request.mpr ⟨hadded _ hs₃, fun outcome s₄ h₄ => ?_⟩)
    have hs₄ := renamed_of_staged hs₃.1 hs₃.2 h₄
    cases outcome with
    | renamed =>
      have himported : Imported configName input s₄ := hs₄
      refine safe_bind.mpr (safe_request.mpr ⟨himported.added, fun synced s₅ h₅ => ?_⟩)
      have hs₅ := himported.looked (looked_of_logged h₅ ⟨rfl, rfl⟩)
      cases synced with
      | true =>
        have hreturns := Safe.of_returnsOn (B := (contested configName).logged)
          (A := fun _ _ => True) (w := s₅) (R := fun _ _ => True)
          (returns_phaseStopStatus deadline).on (fun _ _ => trivial) fun _ _ _ _ _ => trivial
        exact (((safe_looks (looks_phaseStopStatus deadline) hs₅ (fun _ _ hs => hs.added)
          fun _ _ => Imported.looked).and hreturns).weaken fun _ _ => And.left).mono
          fun _ _ h => ⟨h.1.added, fun hrefusal => absurd hrefusal h.2⟩
      | false =>
        refine safe_bind.mpr (safe_request.mpr ⟨hs₅.added, fun removed s₆ h₆ => ?_⟩)
        have hs₆ := removed_of_imported hs₅ h₆
        cases removed with
        | true => exact Untouched.importEnded hs₆ _
        | false => exact ⟨hs₆, fun h => absurd h not_isRefusal_rollbackFailed⟩
    | targetExists =>
      have hstaged₄ : Staged configName input candidate.tempName s₄ := hs₄
      refine (safe_looks (looks_replacementTargetStatus name configName) hstaged₄
        (fun _ _ hs => hs.untouched.added) fun _ _ => Staged.looked).bind fun target' s₅ hs₅ => ?_
      exact safe_removeCandidate_importEnded hs₅
    | failed => exact safe_removeCandidate_importEnded hs₄

/-! ## Both -/

theorem idle_contest (w : World) (configName : Name) :
    Idle configName (w.contest configName, []) :=
  ⟨untouched_contest w configName, fun _ he => by cases he⟩

/-- A saved profile is never torn or lost. Wherever a replacement is stopped, the profile's name
holds all of what others have left there, or all of the input, which `awg-quick` has accepted;
where it returns a refusal, the name holds what others have left, and no candidate remains but
for a removal that failed. An import puts the input only where others have left nothing; where
it returns a refusal, the name is as others have left it. -/
theorem savedProfile_whole (name configName : Name) (input : Bytes) (deadline : ℤ) (w : World) :
    (∀ tr q σ', Steps (contested configName) (profilesReplace name configName input deadline)
        (w.contest configName) tr q σ' →
      Whole configName input (σ', tr) ∧
      ∀ result, q = .pure result → result.IsRefusal →
        σ'.1.files .config configName = σ'.2.saved ∧ Cleared (σ', tr)) ∧
    (∀ tr q σ', Steps (contested configName) (profilesImport name configName input deadline)
        (w.contest configName) tr q σ' →
      Added configName input (σ', tr) ∧
      ∀ result, q = .pure result → result.IsRefusal →
        σ'.1.files .config configName = σ'.2.saved) := by
  have hidle := idle_contest w configName
  constructor
  · intro tr q σ' hs
    have hsafe := @safe_profilesReplace_ended configName input _ name deadline hidle
    refine ⟨hsafe.anywhere (fun _ _ h => h.whole) hs, ?_⟩
    rintro result rfl hrefusal
    obtain ⟨huntouched, hcleared⟩ := (hsafe.logged hs).refused hrefusal
    exact ⟨huntouched.holds, hcleared⟩
  · intro tr q σ' hs
    have hsafe := @safe_profilesImport_ended configName input _ name deadline hidle
    refine ⟨hsafe.anywhere (fun _ _ h => h.added) hs, ?_⟩
    rintro result rfl hrefusal
    exact ((hsafe.logged hs).refused hrefusal).holds

/-- A machine with a saved profile. -/
def profileWorld : World :=
  emptyWorld.setFile .config (configNameOf (ascii "a")) (some (ascii "[Interface]\n"))

/-- The first operations of a replacement. What its exchange displaces is not the file it has
found, so the fifteenth operation exchanges and the seventeenth takes the exchange back. -/
def sampleReplacement (operations : ℕ) : List HelperEvent × HelperM HelperExit × World :=
  profileMachine.run operations
    (profilesReplace (ascii "a") (configNameOf (ascii "a")) sampleConfig 1000) profileWorld

/-- A run of it is one on the contested machine. -/
theorem steps_sampleReplacement (operations : ℕ) :
    ∃ tr σ', Steps (contested (configNameOf (ascii "a")))
        (profilesReplace (ascii "a") (configNameOf (ascii "a")) sampleConfig 1000)
        (profileWorld.contest (configNameOf (ascii "a"))) tr (sampleReplacement operations).2.1 σ' ∧
      σ'.1 = (sampleReplacement operations).2.2 ∧ σ'.2.saved = some (ascii "[Interface]\n") :=
  steps_contested (profileMachine.steps operations _ profileWorld)

/-- Stopped after the exchange, the name holds the input, which `awg-quick` has accepted. When the
exchange has been taken back, it holds what was saved. -/
theorem savedProfile_whole_sample :
    ((sampleReplacement 15).2.2.files .config (configNameOf (ascii "a")) = some sampleConfig ∧
      ∃ tr, Validated sampleConfig tr) ∧
    (sampleReplacement 19).2.2.files .config (configNameOf (ascii "a")) =
      some (ascii "[Interface]\n") := by
  have hinput : (sampleReplacement 15).2.2.files .config (configNameOf (ascii "a")) =
      some sampleConfig := by decide +kernel
  refine ⟨⟨hinput, ?_⟩, ?_⟩
  · obtain ⟨tr, σ', hs, hworld, hsaved⟩ := steps_sampleReplacement 15
    obtain hold | ⟨-, hvalid⟩ := ((savedProfile_whole (ascii "a") (configNameOf (ascii "a"))
      sampleConfig 1000 profileWorld).1 _ _ _ hs).1
    · -- the exchange has put something else there than what was saved
      rw [hworld, hinput, hsaved] at hold
      exact absurd hold (by decide)
    · exact ⟨tr, hvalid⟩
  · obtain ⟨tr, σ', hs, hworld, hsaved⟩ := steps_sampleReplacement 19
    have hresult : (sampleReplacement 19).2.1.result = some .filesystemFailed := by decide +kernel
    have hholds := (((savedProfile_whole (ascii "a") (configNameOf (ascii "a")) sampleConfig 1000
      profileWorld).1 _ _ _ hs).2 _ (Prog.eq_pure_of_result hresult)
      ⟨by simp, by simp, by simp, by simp⟩).1
    rw [← hworld, hholds, hsaved]

end NmSidebar
