import NmSidebar.Helper.Intervention

/-!
# Safety of commands

Every command of the helper keeps the discipline of the sessions it works on, one after the other.
From this the invariant holds over every history of commands, each stopped anywhere.
-/

namespace NmSidebar

open Text Effects

/-! ## Held sessions -/

/-- A session that is left to the administrator, with its saved profile where it has one. -/
structure Hold where
  name : Name
  valid : nameIsValid name = true
  saved : Option Bytes

/-- The session still needs the administrator, and its saved profile is untouched. -/
structure Hold.Kept (hold : Hold) (w : World) : Prop where
  needs : NeedsIntervention hold.name w
  profile : ∀ contents, hold.saved = some contents →
    w.files .config (configNameOf hold.name) = some contents

theorem Hold.Kept.of_files {hold : Hold} {w w' : World} (h : hold.Kept w)
    (hruntime : w'.files .runtime hold.name = w.files .runtime hold.name)
    (hconfig : w'.files .config = w.files .config) : hold.Kept w' :=
  ⟨h.needs.of_files hruntime, fun contents hsaved => hconfig ▸ h.profile contents hsaved⟩

/-- No session of the name is held. -/
def Free (held : Option Hold) (k : Name) : Prop := ∀ hold ∈ held, hold.name ≠ k

/-- The profile is not one that is held. -/
def ProfileFree (held : Option Hold) (configName : Name) : Prop :=
  ∀ hold ∈ held, hold.saved ≠ none → configName ≠ configNameOf hold.name

theorem ProfileFree.of_free {held : Option Hold} {name : Name} (h : Free held name) :
    ProfileFree held (configNameOf name) :=
  fun hold hhold _ heq => h hold hhold (configNameOf_inj heq).symm

/-- A name is held or it is free. -/
theorem held_or_free (held : Option Hold) (name : Name) :
    (∃ hold ∈ held, hold.name = name) ∨ Free held name := by
  by_cases hfree : Free held name
  · exact .inr hfree
  · left
    simpa [Free] using hfree

theorem exists_free (held : Option Hold) : ∃ k, nameIsValid k = true ∧ Free held k := by
  by_cases ha : Free held (ascii "a")
  · exact ⟨ascii "a", by decide, ha⟩
  · refine ⟨ascii "b", by decide, fun hold hmem => ?_⟩
    intro hb
    refine ha fun hold' hmem' ha' => ?_
    rw [Option.mem_unique hmem' hmem, hb] at ha'
    exact absurd ha' (by decide)

/-! ## Where commands issue their operations -/

/-- A command issues an operation as a transaction of a session that is not held may, or on a
profile that is not held, or to write down that a held session's cleanup is unconfirmed. -/
inductive Issue (held : Option Hold) : HelperCall → Tracked → Prop
  | session {k : Name} {o : HelperCall} {σ : Tracked} (hk : nameIsValid k = true)
      (hfree : Free held k) (ho : Committing k o σ) : Issue held o σ
  | profile {configName : Name} {o : HelperCall} {σ : Tracked}
      (ho : o.touchesProfile = some configName)
      (hfree : ProfileFree held configName) : Issue held o σ
  | refusal {hold : Hold} {marker : RuntimeMarker} {σ : Tracked} (hhold : hold ∈ held)
      (hstate : marker.state = .cleanupUnconfirmed)
      (ho : Allowed hold.name false (.writeRuntimeMarker hold.name marker) σ) :
      Issue held (.writeRuntimeMarker hold.name marker) σ

variable {held : Option Hold} {pending : Name → Prop} {k : Name} {o : HelperCall}
  {σ σ' : Tracked} {r : o.Reply}

theorem issue_of_isPassive (h : o.isPassive = true) : Issue held o σ := by
  obtain ⟨k, hk, hfree⟩ := exists_free held
  exact .session hk hfree (.inl (allowed_of_isPassive h))

/-- What a transaction of a session may issue, a command may. -/
theorem issue_of_committing {α : Type} (hk : nameIsValid k = true) (hfree : Free held k)
    {p : HelperM α} {Q : α → Tracked → Prop} (h : Safe tracked (Committing k) p Q σ) :
    Safe tracked (Issue held) p Q σ :=
  h.weaken fun _ _ ho => .session hk hfree ho

/-- Issued operations keep the invariant. -/
theorem allAccounted_issue (ho : Issue held o σ) (hσ : AllAccounted σ) (h : tracked o σ r σ') :
    AllAccounted σ' := by
  have hsteady : o.isRecorded = false → o.changesArea .runtime = false → AllAccounted σ' := by
    intro hrecorded hruntime n
    exact (hσ n).keeps (keeps_of_not_isRecorded h hrecorded n)
      (marker_of_files (files_of_behaves h.1 hruntime))
  cases ho with
  | session hk _ ho =>
    rcases ho with ho | rfl
    · exact allAccounted_step hk ho hσ h
    · exact hsteady rfl rfl
  | profile ho _ => exact hsteady (of_touches ho).1 (of_touches ho).2.1
  | refusal _ _ ho => exact allAccounted_step (Hold.valid _) ho hσ h

/-- A transaction touches no saved profile. -/
theorem changesConfig_of_committing (h : Committing k o σ) : o.changesArea .config = false := by
  rcases h with h | rfl
  · cases o with
    | removeAndSync area name =>
      cases area with
      | config => cases h
      | staging | runtime | runtimeConfigs => rfl
    | atomicWrite area file contents mode =>
      rw [h.1]
      rfl
    | renameStagingNoreplace | exchangeStagingConfig => cases h
    | _ => rfl
  · rfl

/-- A transaction of another session leaves a runtime file alone. -/
theorem runtime_of_committing_ne {n : Name} (ho : Committing k o σ) (h : behaves o σ.1 r σ'.1)
    (hne : n ≠ k) (hpresent : σ.1.files .runtime n ≠ none) :
    σ'.1.files .runtime n = σ.1.files .runtime n := by
  rcases ho with ho | rfl
  · rcases changesRuntime_of_allowed ho with hruntime | ⟨journal, rfl⟩ | rfl
    · rw [files_of_behaves h hruntime]
    · simp only [behaves, HelperCall.Outcome] at h
      split at h
      · rw [h.2]
      · generalize σ'.1 = w' at h
        cases h with
        | written | unconfirmed => exact files_setFile_ne (.inr hne)
        | abandoned => rfl
        | leftOver tempName written htemp hfresh =>
          refine files_setFile_ne (.inr ?_)
          rintro rfl
          exact hpresent hfresh
    · have hb : Removal σ.1 .runtime k r σ'.1 := h
      generalize σ'.1 = w' at hb
      cases hb with
      | removed | unsynced => exact files_setFile_ne (.inr hne)
      | kept => rfl
  · rw [files_of_behaves h rfl]

/-- Issued operations leave a held session held. -/
theorem kept_issue {hold : Hold} (hhold : hold ∈ held) (ho : Issue held o σ)
    (hσ : hold.Kept σ.1) (h : behaves o σ.1 r σ'.1) : hold.Kept σ'.1 := by
  cases ho with
  | session _ hfree ho =>
    exact hσ.of_files (runtime_of_committing_ne ho h (hfree hold hhold) hσ.needs.present)
      (files_of_behaves h (changesConfig_of_committing ho))
  | profile ho hfree =>
    refine ⟨hσ.needs.of_files ?_, fun contents hsaved => ?_⟩
    · rw [files_of_behaves h (of_touches ho).2.1]
    · rw [profile_of_touches h ho (hfree hold hhold (by simp [hsaved])).symm]
      exact hσ.profile contents hsaved
  | refusal hhold' hstate _ =>
    obtain rfl := Option.mem_unique hhold hhold'
    obtain ⟨-, hold, hother, -⟩ :=
      outcome_writeRuntimeMarker h (not_isTempName_of_nameIsValid (Hold.valid _))
    refine ⟨?_, fun contents hsaved => ?_⟩
    · rcases hold with hnew | hsame
      · exact .inr ⟨_, hnew, .inl hstate⟩
      · exact hσ.needs.of_files hsame
    · rw [hother .config _ (.inl (by simp))]
      exact hσ.profile contents hsaved

/-! ## What a command has still before it -/

/-- The process is not committed, the disk accounts for the ledgers, no transaction has begun
with the sessions that are `pending`, and what is held is held still. -/
structure Ready (held : Option Hold) (pending : Name → Prop) (σ : Tracked) : Prop where
  accounted : AllAccounted σ
  unbegun : ∀ n, pending n → (σ.2 n).Unbegun
  uncommitted : σ.1.committed = false
  kept : ∀ hold ∈ held, hold.Kept σ.1

theorem Ready.mono {pending' : Name → Prop} (h : Ready held pending σ)
    (hp : ∀ n, pending' n → pending n) : Ready held pending' σ :=
  ⟨h.accounted, fun n hn => h.unbegun n (hp n hn), h.uncommitted, h.kept⟩

/-- An operation on one session leaves the others pending. -/
theorem ready_step (ho : Allowed k false o σ) (hissue : Issue held o σ)
    (hσ : Ready held pending σ) (hpending : o.isPassive = true ∨ ∀ n, pending n → n ≠ k)
    (h : tracked o σ r σ') : Ready held pending σ' where
  accounted := allAccounted_issue hissue hσ.accounted h
  unbegun := fun n hn =>
    unbegun_step h (hpending.imp id fun hne => ⟨ho, hne n hn⟩) (hσ.unbegun n hn)
  uncommitted := by
    rw [committed_of_behaves h.1, hσ.uncommitted]
    rintro rfl
    cases ho
  kept := fun hold hhold => kept_issue hhold hissue (hσ.kept hold hhold) h.1

/-- A passive operation leaves everything pending. -/
theorem ready_passive (ho : o.isPassive = true) (hσ : Ready held pending σ)
    (h : tracked o σ r σ') : Ready held pending σ' :=
  ready_step (allowed_of_isPassive (k := []) ho) (issue_of_isPassive ho) hσ (.inl ho) h

/-- A program of a session that commits nothing leaves the other sessions pending. -/
theorem safe_onSession {α : Type} (hk : nameIsValid k = true) (hfree : Free held k)
    {p : HelperM α} {Q : α → Tracked → Prop} (h : Safe tracked (Allowed k false) p Q σ)
    (hσ : Ready held pending σ) :
    Safe tracked (Issue held) p
      (fun _ σ' => Ready held (fun n => pending n ∧ n ≠ k) σ') σ := by
  have hσ' : Ready held (fun n => pending n ∧ n ≠ k) σ := hσ.mono fun _ hn => hn.1
  refine ((h.keep hσ' fun o σ r σ' ho hσ h => ?_).mono fun _ _ h => h.2).weaken fun _ _ ho =>
    .session hk hfree (.inl ho.1)
  exact ready_step ho (.session hk hfree (.inl ho)) hσ (.inr fun n hn => hn.2) h

/-- A program that works on no session leaves all of them pending and their markers alone. -/
theorem safe_worksOn {α : Type} {p : HelperM α} (hp : p.Uses (HelperCall.WorksOn none))
    (hσ : Ready held pending σ) :
    Safe tracked (Issue held) p
      (fun _ σ' => Ready held pending σ' ∧ σ'.1.files .runtime = σ.1.files .runtime) σ := by
  refine Safe.of_uses (uses_passive hp) ⟨hσ, rfl⟩ (fun _ _ ho _ => issue_of_isPassive ho) ?_
  rintro o σ₁ r σ₂ ho ⟨hσ₁, hfiles⟩ h
  exact ⟨ready_passive ho hσ₁ h, (steady_of_isPassive h ho).runtime.trans hfiles⟩

/-- A passive program leaves everything pending. -/
theorem safe_passiveReady {α : Type} {p : HelperM α} {Q : α → World → Prop}
    (h : Safe behaves (fun o _ => o.isPassive = true) p Q σ.1) (hσ : Ready held pending σ) :
    Safe tracked (Issue held) p (fun a σ' => Q a σ'.1 ∧ Ready held pending σ') σ :=
  ((h.monitor σ.2).keep hσ fun _ _ _ _ ho hσ h => ready_passive ho hσ h).weaken
    fun _ _ ho => issue_of_isPassive ho.1

/-- A program that works on a profile that is not held may be run anywhere. -/
theorem issue_worksOn {α : Type} {profile : Option Name} {p : HelperM α}
    (hp : p.Uses (HelperCall.WorksOn profile))
    (hfree : ∀ configName ∈ profile, ProfileFree held configName) :
    Safe tracked (Issue held) p (fun _ _ => True) σ := by
  refine Safe.of_uses hp trivial (fun o σ ho _ => ?_) fun _ _ _ _ _ _ _ => trivial
  rcases ho with ho | ⟨configName, hprofile, ho⟩
  · exact issue_of_isPassive ho
  · exact .profile ho (hfree configName hprofile)

theorem issue_worksOnProfile {α : Type} {configName : Name} {p : HelperM α}
    (hfree : ProfileFree held configName)
    (hp : p.Uses (HelperCall.WorksOn (some configName))) :
    Safe tracked (Issue held) p (fun _ _ => True) σ := by
  refine issue_worksOn hp fun configName' hmem => ?_
  obtain rfl := Option.some.inj hmem
  exact hfree

/-- A program that works on none may be run anywhere. -/
theorem issue_worksOnNone {α : Type} {p : HelperM α} (hp : p.Uses (HelperCall.WorksOn none)) :
    Safe tracked (Issue held) p (fun _ _ => True) σ :=
  issue_worksOn hp fun _ h => nomatch h

/-! ## Disconnection -/

/-- The disconnection of a held session is refused. -/
theorem safe_heldDown {blocked : Bool} {hold : Hold} {deadlines : Deadlines}
    (hhold : hold ∈ held) (hσ : Ready held pending σ) (hname : pending hold.name) :
    Safe tracked (Issue held)
      (tunnelDown blocked hold.name (configNameOf hold.name) (runtimeConfigPathOf hold.name)
        deadlines)
      (fun result σ' => result ≠ .success ∧
        Ready held (fun n => pending n ∧ n ≠ hold.name) σ') σ := by
  have hissue : ∀ {o σ}, Allowed hold.name false o σ ∧ Refusing hold.name o σ.1 →
      Issue held o σ := by
    rintro o σ ⟨hallowed, hpassive | ⟨marker, rfl, hstate⟩⟩
    · exact issue_of_isPassive hpassive
    · exact .refusal hhold hstate hallowed
  have hdown := @safe_tunnelDown hold.name σ blocked deadlines (hσ.accounted hold.name)
    (hσ.unbegun hold.name hname)
  have hrefused := @safe_refusedDown hold.name σ.1 blocked (configNameOf hold.name)
    (runtimeConfigPathOf hold.name) deadlines (hσ.kept hold hhold).needs
  have hσ' : Ready held (fun n => pending n ∧ n ≠ hold.name) σ := hσ.mono fun _ hn => hn.1
  refine (((hdown.and (hrefused.monitor σ.2)).keep hσ' fun o σ r σ' ho hσ h => ?_).mono
    ?_).weaken fun _ _ ho => hissue ho.1
  · exact ready_step ho.1 (hissue ho) hσ (.inr fun n hn => hn.2) h
  · exact fun result σ' h => ⟨h.1.2, h.2⟩

/-- `awg_helper_tunnel_down` of a session that nothing was begun with. -/
theorem safe_down {blocked : Bool} {name : Name} {deadlines : Deadlines}
    (hk : nameIsValid name = true) (hσ : Ready held pending σ) (hname : pending name) :
    Safe tracked (Issue held)
      (tunnelDown blocked name (configNameOf name) (runtimeConfigPathOf name) deadlines)
      (fun result σ' => (result = .success → Free held name) ∧
        Ready held (fun n => pending n ∧ n ≠ name) σ') σ := by
  rcases held_or_free held name with ⟨hold, hhold, rfl⟩ | hfree
  · exact (safe_heldDown hhold hσ hname).mono fun _ _ h => ⟨fun hs => absurd hs h.1, h.2⟩
  · exact (safe_onSession hk hfree
      (safe_tunnelDown (hσ.accounted name) (hσ.unbegun name hname)) hσ).mono
      fun _ _ h => ⟨fun _ => hfree, h⟩

/-! ## Preparation -/

/-- A scope that is captured where there is no marker goes to no session's ledger. -/
theorem safe_firewallCaptureScope {name : Name} {deadline : ℤ} (hk : nameIsValid name = true)
    (hfree : Free held name) (hσ : Ready held pending σ)
    (hmissing : σ.1.files .runtime name = none) :
    Safe tracked (Issue held) (ask (.firewallCaptureScope name deadline))
      (fun _ σ' => Ready held pending σ') σ := by
  have hallowed : Allowed name false (.firewallCaptureScope name deadline) σ := rfl
  have hissue : Issue held (.firewallCaptureScope name deadline) σ :=
    .session hk hfree (.inl hallowed)
  refine safe_request.mpr ⟨hissue, fun captured σ' h => ?_⟩
  have hother := ready_step hallowed hissue (hσ.mono fun n (hn : pending n ∧ n ≠ name) => hn.1)
    (.inr fun n hn => hn.2) h
  refine ⟨hother.accounted, fun n hn => ?_, hother.uncommitted, hother.kept⟩
  by_cases hne : n ≠ name
  · exact hother.unbegun n ⟨hn, hne⟩
  obtain rfl := not_not.mp hne
  intro hup
  have hafter : σ'.2 n = (σ.2 n).after n ⟨_, σ.1, captured, σ'.1⟩ := congrFun h.2 n
  rw [hafter] at hup
  refine absurd ?_ (present_of_up hup)
  rw [show σ'.1.files .runtime = σ.1.files .runtime from files_of_behaves h.1 rfl]
  exact hmissing

/-- A look at a session leaves all of them pending, and tells where there is none. -/
theorem safe_lookAtSession {name : Name} {σ : Tracked}
    (hσ : Ready held pending σ) :
    Safe tracked (Issue held) (sessionRuntimeState name)
      (fun seen σ' => Ready held pending σ' ∧ ∀ interface, seen = .ok ⟨none, interface⟩ →
        σ'.1.files .runtime name = none) σ := by
  have hready := safe_worksOn (worksOn_sessionRuntimeState name) hσ
  have hseen := @safe_sessionRuntimeState name false σ (hσ.accounted name).tokenKnown
  refine ((hready.and hseen).mono ?_).weaken fun _ _ ho => ho.1
  rintro seen σ' ⟨⟨hσ', hfiles⟩, hseen⟩
  refine ⟨hσ', fun interface h => ?_⟩
  rw [hfiles]
  exact (hseen.missing interface h).1

/-- A session that is not held is prepared without beginning anything with any session. -/
theorem safe_freePrepareUp {name : Name} {deadline : ℤ} (hfree : Free held name)
    (hσ : Ready held pending σ) :
    Safe tracked (Issue held) (tunnelPrepareUp name deadline)
      (fun _ σ' => Ready held pending σ') σ := by
  unfold tunnelPrepareUp
  split
  · exact hσ
  rename_i hname
  have hk := eq_true_of_ne_false hname
  refine (safe_worksOn (worksOn_phaseStopStatus deadline) hσ).bind ?_
  rintro stop σ₁ ⟨hσ₁, -⟩
  split
  · exact hσ₁
  split
  · exact hσ₁
  · exact hσ₁
  refine (safe_worksOn (worksOn_ask (.inl rfl)) hσ₁).bind ?_
  rintro configState σ₂ ⟨hσ₂, -⟩
  cases configState with
  | missing | invalid => exact hσ₂
  | valid =>
    refine (safe_lookAtSession hσ₂).bind ?_
    rintro seen σ₃ ⟨hσ₃, hmissing⟩
    rcases seen with failure | ⟨_ | parsed, _ | _⟩
    · exact hσ₃
    · have hmissing := hmissing false rfl
      refine (safe_worksOn (worksOn_ask (.inl rfl)) hσ₃).bind ?_
      rintro random σ₄ ⟨hσ₄, hfiles₄⟩
      cases random with
      | none => exact hσ₄
      | some random =>
        refine (safe_worksOn (worksOn_profilesPrepareRuntime _ deadline) hσ₄).bind ?_
        rintro prepared σ₅ ⟨hσ₅, hfiles₅⟩
        cases prepared with
        | error failure => exact hσ₅
        | ok profile =>
          dsimp only
          split
          · exact hσ₅
          · exact hσ₅
          refine (safe_worksOn (worksOn_dnsSelectBackend _ deadline) hσ₅).bind ?_
          rintro selected σ₆ ⟨hσ₆, hfiles₆⟩
          cases selected with
          | error failure =>
            refine (safe_worksOn (worksOn_phaseFailureOr deadline _) hσ₆).bind ?_
            exact fun _ _ h => h.1
          | ok dnsBackend =>
            have hmissing₆ : σ₆.1.files .runtime name = none := by
              rw [hfiles₆, hfiles₅, hfiles₄, hmissing]
            refine (safe_firewallCaptureScope hk hfree hσ₆ hmissing₆).bind fun captured σ₇ hσ₇ => ?_
            split
            · refine (safe_worksOn (worksOn_phaseFailureOr deadline _) hσ₇).bind ?_
              exact fun _ _ h => h.1
            · refine (safe_worksOn (worksOn_phaseStopStatus deadline) hσ₇).bind ?_
              rintro stop σ₈ ⟨hσ₈, -⟩
              split <;> exact hσ₈
    · exact hσ₃
    · exact hσ₃
    · exact hσ₃

/-- `awg_helper_tunnel_prepare_up` begins nothing with any session. -/
theorem safe_tunnelPrepareUp {name : Name} {deadline : ℤ} (hσ : Ready held pending σ) :
    Safe tracked (Issue held) (tunnelPrepareUp name deadline)
      (fun _ σ' => Ready held pending σ') σ := by
  rcases held_or_free held name with ⟨hold, hhold, rfl⟩ | hfree
  · exact (safe_passiveReady (safe_refusedPrepareUp (hσ.kept hold hhold).needs) hσ).mono
      fun _ _ h => h.2
  · exact safe_freePrepareUp hfree hσ

/-- `awg_helper_tunnel_activate`. -/
theorem safe_activate {blocked : Bool} {a : Activation} {deadlines : Deadlines}
    (hσ : Ready held pending σ) :
    Safe tracked (Issue held) (tunnelActivate blocked (some a) deadlines) (fun _ _ => True) σ := by
  rcases held_or_free held a.name with ⟨hold, hhold, heq⟩ | hfree
  · have hneeds : NeedsIntervention a.name σ.1 := heq ▸ (hσ.kept hold hhold).needs
    exact (safe_passiveReady (safe_refusedActivate hneeds) hσ).mono fun _ _ _ => trivial
  · exact issue_of_committing a.nameValid hfree
      (safe_tunnelActivate (hσ.accounted a.name) hσ.uncommitted)

/-! ## The switch -/

/-- Where the switch may call its functions. -/
def SwitchCall.Pre (held : Option Hold) (o : SwitchCall) (σ : Tracked) : Prop :=
  Ready held (fun _ => False) σ ∧
    match o with
    | .down name configName snapshotPath _ =>
      nameIsValid name = true ∧ configName = configNameOf name ∧
        snapshotPath = runtimeConfigPathOf name ∧ (σ.2 name).Unbegun
    | _ => True

/-- The contracts of the functions: all but the activation commit nothing, and of the sessions
that nothing was begun with they only work on the one they disconnect. -/
def switchContract (held : Option Hold) : Behaviour switchSig Tracked := fun o σ _ σ' =>
  match o with
  | .activate .. => True
  | .down name .. => Ready held (fun n => (σ.2 n).Unbegun ∧ n ≠ name) σ'
  | _ => Ready held (fun n => (σ.2 n).Unbegun) σ'

/-- All sessions that nothing was begun with are pending. -/
theorem Ready.unbegunPending {σ : Tracked} (h : Ready held pending σ) :
    Ready held (fun n => (σ.2 n).Unbegun) σ :=
  ⟨h.accounted, fun _ hn => hn, h.uncommitted, h.kept⟩

/-- The functions keep their contracts. -/
theorem safe_switchCall (o : SwitchCall) (σ : Tracked) (ho : o.Pre held σ) :
    Safe tracked (Issue held) o.run (fun r σ' => switchContract held o σ r σ') σ := by
  obtain ⟨hσ, ho⟩ := ho
  have hpassive : ∀ {α : Type} {p : HelperM α}, p.Uses (HelperCall.WorksOn none) →
      Safe tracked (Issue held) p (fun _ σ' => Ready held (fun n => (σ.2 n).Unbegun) σ') σ :=
    fun hp => (safe_worksOn hp hσ.unbegunPending).mono fun _ _ h => h.1
  cases o with
  | listRuntimeNames deadline => exact hpassive (worksOn_storageListRuntimeNames deadline)
  | prepareUp name deadline => exact safe_tunnelPrepareUp hσ.unbegunPending
  | checkDown name deadline => exact hpassive (worksOn_tunnelCheckDown name deadline)
  | phaseStop deadline => exact hpassive (worksOn_phaseStopStatus deadline)
  | runtimeState name => exact hpassive (worksOn_sessionRuntimeState name)
  | down name configName snapshotPath deadlines =>
    obtain ⟨hk, rfl, rfl, hunbegun⟩ := ho
    exact (safe_down hk hσ.unbegunPending hunbegun).mono fun _ _ h => h.2
  | activate a deadlines => exact safe_activate hσ

/-- A function that disconnects and activates nothing leaves everything pending. -/
theorem Ready.call {σ σ' : Tracked} (hσ : Ready held pending σ)
    (h : Ready held (fun n => (σ.2 n).Unbegun) σ') : Ready held pending σ' :=
  h.mono hσ.unbegun

theorem Ready.pre {σ : Tracked} (h : Ready held pending σ) :
    Ready held (fun _ => False) σ := h.mono fun _ => False.elim

/-- The check of the previous sessions begins nothing with them. -/
theorem safe_checkAll {deadlines : Deadlines} (names : List Name)
    {σ : Tracked} (hσ : Ready held pending σ) :
    Safe (switchContract held) (SwitchCall.Pre held) (checkAll deadlines names)
      (fun _ σ' => Ready held pending σ') σ := by
  induction names generalizing σ with
  | nil => exact hσ
  | cons name rest ih =>
    refine safe_bind.mpr (safe_request.mpr ⟨⟨hσ.pre, trivial⟩, fun result σ₁ h₁ => ?_⟩)
    have hσ₁ := hσ.call h₁
    split
    · exact hσ₁
    · exact ih hσ₁

/-- One previous session is disconnected, and the others stay pending. -/
theorem safe_disconnectPrevious {name : Name} {deadlines : Deadlines}
    {σ : Tracked} (hk : nameIsValid name = true) (hσ : Ready held pending σ) (hname : pending name) :
    Safe (switchContract held) (SwitchCall.Pre held) (disconnectPrevious name deadlines)
      (fun _ σ' => Ready held (fun n => pending n ∧ n ≠ name) σ') σ := by
  have hleave : ∀ {σ' : Tracked}, Ready held pending σ' → Ready held (fun n => pending n ∧ n ≠ name) σ' :=
    fun h => h.mono fun _ hn => hn.1
  refine safe_bind.mpr (safe_request.mpr ⟨⟨hσ.pre, trivial⟩, fun stop σ₁ h₁ => ?_⟩)
  have hσ₁ := hσ.call h₁
  split
  · exact hleave hσ₁
  split
  · exact hleave hσ₁
  · exact hleave hσ₁
  rename_i configName snapshotPath hconfig hpath
  have hnames := And.intro (formatted_eq_some hconfig) (formatted_eq_some hpath)
  refine safe_bind.mpr (safe_request.mpr
    ⟨⟨hσ₁.pre, hk, hnames.1, hnames.2, hσ₁.unbegun name hname⟩, fun result σ₂ h₂ => ?_⟩)
  have hσ₂ : Ready held (fun n => pending n ∧ n ≠ name) σ₂ :=
    Ready.mono h₂ fun n hn => ⟨hσ₁.unbegun n hn.1, hn.2⟩
  split
  · exact hσ₂
  refine safe_bind.mpr (safe_request.mpr ⟨⟨hσ₂.pre, trivial⟩, fun stop σ₃ h₃ => ?_⟩)
  have hσ₃ := hσ₂.call h₃
  split
  · exact hσ₃
  refine safe_bind.mpr (safe_request.mpr ⟨⟨hσ₃.pre, trivial⟩, fun seen σ₄ h₄ => ?_⟩)
  have hσ₄ := hσ₃.call h₄
  cases seen <;> exact hσ₄

/-- The previous sessions are disconnected one after the other, none twice. -/
theorem safe_disconnectAll {deadlines : Deadlines} (names : List Name)
    (hvalid : ∀ name ∈ names, nameIsValid name = true) (hnodup : names.Nodup) {σ : Tracked}
    (hσ : Ready held (fun n => n ∈ names) σ) :
    Safe (switchContract held) (SwitchCall.Pre held) (disconnectAll deadlines names)
      (fun _ σ' => Ready held (fun _ => False) σ') σ := by
  induction names generalizing σ with
  | nil => exact hσ.pre
  | cons name rest ih =>
    obtain ⟨hname, hrest⟩ := List.nodup_cons.mp hnodup
    refine (safe_disconnectPrevious (hvalid name List.mem_cons_self) hσ List.mem_cons_self).bind
      fun result σ₁ hσ₁ => ?_
    split
    · exact hσ₁.pre
    · refine ih (fun n hn => hvalid n (List.mem_cons_of_mem name hn)) hrest ?_
      refine hσ₁.mono fun n hn => ⟨List.mem_cons_of_mem name hn, ?_⟩
      rintro rfl
      exact hname hn

/-- The target is activated with nothing committed. -/
theorem safe_switchTarget {activation : Activation} {deadlines : Deadlines} {σ : Tracked}
    (hσ : Ready held (fun _ => False) σ) :
    Safe (switchContract held) (SwitchCall.Pre held) (switchTarget activation deadlines)
      (fun _ _ => True) σ := by
  refine safe_bind.mpr (safe_request.mpr ⟨⟨hσ, trivial⟩, fun listed σ₁ h₁ => ?_⟩)
  have hσ₁ := hσ.call h₁
  cases listed with
  | error failure => trivial
  | ok remaining =>
    dsimp only
    split
    · trivial
    refine safe_bind.mpr (safe_request.mpr ⟨⟨hσ₁, trivial⟩, fun stop σ₂ h₂ => ?_⟩)
    split
    · trivial
    · exact safe_request.mpr ⟨⟨hσ₁.call h₂, trivial⟩, fun _ _ _ => trivial⟩

/-- The switch calls its functions where it may. -/
theorem safe_switchProgram {name : Name} {deadlines : Deadlines} {σ : Tracked}
    (hσ : Ready held (fun _ => True) σ) :
    Safe (switchContract held) (SwitchCall.Pre held) (switchProgram name deadlines) (fun _ _ => True) σ := by
  unfold switchProgram
  split
  · trivial
  refine safe_bind.mpr (safe_request.mpr ⟨⟨hσ.pre, trivial⟩, fun listed σ₁ h₁ => ?_⟩)
  have hσ₁ := hσ.call h₁
  cases listed with
  | error failure => trivial
  | ok previous =>
    refine safe_bind.mpr (safe_request.mpr ⟨⟨hσ₁.pre, trivial⟩, fun prepared σ₂ h₂ => ?_⟩)
    have hσ₂ := hσ₁.call h₂
    cases prepared with
    | error failure => trivial
    | ok activation =>
      refine (safe_checkAll previous.names hσ₂).bind fun admitted σ₃ hσ₃ => ?_
      split
      · trivial
      refine (safe_disconnectAll previous.names previous.valid previous.nodup
        (hσ₃.mono fun _ _ => trivial)).bind fun disconnected σ₄ hσ₄ => ?_
      split
      · trivial
      · exact safe_switchTarget hσ₄

/-- `awg_helper_switch_up`. -/
theorem safe_switchUp {name : Name} {deadlines : Deadlines} {σ : Tracked}
    (hσ : Ready held (fun _ => True) σ) :
    Safe tracked (Issue held) (switchUp name deadlines) (fun _ _ => True) σ :=
  Safe.interpret safe_switchCall (safe_switchProgram hσ)

/-! ## Commands -/

/-- `awg_helper_remove`. -/
theorem safe_helperRemove {name : Name} {deadlines : Deadlines} {σ : Tracked}
    (hσ : Ready held (fun _ => True) σ) :
    Safe tracked (Issue held) (helperRemove name deadlines) (fun _ _ => True) σ := by
  refine (safe_worksOn (worksOn_phaseStopStatus _) hσ).bind ?_
  rintro stop σ₁ ⟨hσ₁, -⟩
  split
  · trivial
  split
  · trivial
  rename_i hname
  have hk := eq_true_of_ne_false hname
  split
  · trivial
  · trivial
  rename_i configName snapshotPath hconfig hpath
  obtain rfl := formatted_eq_some hconfig
  obtain rfl := formatted_eq_some hpath
  refine (safe_worksOn (worksOn_ask (.inl rfl)) hσ₁).bind ?_
  rintro configState σ₂ ⟨hσ₂, -⟩
  split
  · trivial
  refine (safe_down hk hσ₂ trivial).bind ?_
  rintro result σ₃ ⟨hfree, -⟩
  split
  · trivial
  rename_i hresult
  refine (issue_worksOnNone (worksOn_phaseStopStatus _)).bind fun stop σ₄ _ => ?_
  split
  · trivial
  · exact issue_worksOnProfile (.of_free (hfree (not_not.mp hresult)))
      (worksOn_profilesDelete name _ _)

section Storage

variable {deadlines : Deadlines} {next : HelperM (Option HelperExit)} {σ : Tracked}

/-- The storage is opened before any session is touched. -/
theorem safe_openProfiles (hσ : Ready held (fun _ => True) σ)
    (hnext : ∀ σ', Ready held (fun _ => True) σ' → Safe tracked (Issue held) next (fun _ _ => True) σ') :
    Safe tracked (Issue held) (openProfiles deadlines next) (fun _ _ => True) σ := by
  refine (safe_worksOn (worksOn_ask (.inl rfl)) hσ).bind ?_
  rintro opened σ₁ ⟨hσ₁, -⟩
  cases opened with
  | true => exact hnext σ₁ hσ₁
  | false => exact (issue_worksOnNone (worksOn_phaseFailureOr _ _)).bind fun _ _ _ => trivial

theorem safe_openRuntime (hσ : Ready held (fun _ => True) σ)
    (hnext : ∀ σ', Ready held (fun _ => True) σ' → Safe tracked (Issue held) next (fun _ _ => True) σ') :
    Safe tracked (Issue held) (openRuntime deadlines next) (fun _ _ => True) σ := by
  refine (safe_worksOn (worksOn_ask (.inl rfl)) hσ).bind ?_
  rintro opened σ₁ ⟨hσ₁, -⟩
  cases opened with
  | true => exact hnext σ₁ hσ₁
  | false => exact (issue_worksOnNone (worksOn_phaseFailureOr _ _)).bind fun _ _ _ => trivial

end Storage

/-- `awg_helper_profiles_import`. -/
theorem safe_profilesImport {name : Name} {input : Bytes} {deadline : ℤ}
    (hσ : Ready held pending σ) :
    Safe tracked (Issue held) (profilesImport name (configNameOf name) input deadline)
      (fun _ _ => True) σ := by
  by_cases hfree : ProfileFree held (configNameOf name)
  · exact issue_worksOnProfile hfree (worksOn_profilesImport name _ input deadline)
  obtain ⟨hold, hhold, hsaved, heq⟩ : ∃ hold ∈ held, hold.saved ≠ none ∧
      configNameOf name = configNameOf hold.name := by
    simpa [ProfileFree] using hfree
  obtain rfl := configNameOf_inj heq
  have hkept := hσ.kept hold hhold
  obtain ⟨contents, hcontents⟩ := Option.ne_none_iff_exists'.mp hsaved
  have hprofile : σ.1.files .config (configNameOf hold.name) ≠ none := by
    rw [hkept.profile contents hcontents]
    simp
  exact (safe_passiveReady (safe_refusedImport hkept.needs hprofile) hσ).mono fun _ _ _ => trivial

/-- `awg_helper_profiles_replace`. -/
theorem safe_profilesReplace {name : Name} {input : Bytes} {deadline : ℤ}
    (hσ : Ready held pending σ) :
    Safe tracked (Issue held) (profilesReplace name (configNameOf name) input deadline)
      (fun _ _ => True) σ := by
  rcases held_or_free held name with ⟨hold, hhold, rfl⟩ | hfree
  · exact (safe_passiveReady (safe_refusedReplace (hσ.kept hold hhold).needs) hσ).mono
      fun _ _ _ => trivial
  · exact issue_worksOnProfile (.of_free hfree) (worksOn_profilesReplace name _ input deadline)

/-- A command that reads its input before it works on a saved profile. -/
theorem safe_withInput {deadlines : Deadlines} {next : Bytes → HelperM HelperExit}
    (hσ : Ready held (fun _ => True) σ)
    (hnext : ∀ input σ', Ready held (fun _ => True) σ' →
      Safe tracked (Issue held) (next input) (fun _ _ => True) σ') :
    Safe tracked (Issue held) (withInput deadlines fun input => some <$> next input)
      (fun _ _ => True) σ := by
  refine (safe_worksOn (worksOn_profilesReadInput _) hσ).bind ?_
  rintro read σ₁ ⟨hσ₁, -⟩
  cases read with
  | error failure => trivial
  | ok input =>
    refine safe_openRuntime hσ₁ fun σ₂ hσ₂ => safe_openProfiles hσ₂ fun σ₃ hσ₃ => ?_
    exact (hnext input σ₃ hσ₃).bind fun _ _ _ => trivial

/-- One operation of `main`; only the inventory has no name. -/
theorem safe_helperOperation {entries : ℕ} {operation : HelperOperation} {name : Name}
    {deadlines : Deadlines} {σ : Tracked} (hσ : Ready held (fun _ => True) σ)
    (hk : operation ≠ .listProfiles → nameIsValid name = true) :
    Safe tracked (Issue held) (helperOperation entries operation name deadlines) (fun _ _ => True) σ := by
  cases operation with
  | «import» => exact safe_withInput hσ fun input σ' hσ' => safe_profilesImport hσ'
  | replace => exact safe_withInput hσ fun input σ' hσ' => safe_profilesReplace hσ'
  | down =>
    refine safe_openRuntime hσ fun σ₁ hσ₁ => ?_
    exact (safe_down (hk (by simp)) hσ₁ trivial).bind fun _ _ _ => trivial
  | listProfiles =>
    refine safe_openRuntime hσ fun σ₁ hσ₁ => safe_openProfiles hσ₁ fun σ₂ _ => ?_
    exact issue_worksOnNone (worksOn_profilesList entries _)
  | up =>
    refine safe_openRuntime hσ fun σ₁ hσ₁ => safe_openProfiles hσ₁ fun σ₂ hσ₂ => ?_
    exact (safe_switchUp hσ₂).bind fun _ _ _ => trivial
  | delete =>
    refine safe_openRuntime hσ fun σ₁ hσ₁ => safe_openProfiles hσ₁ fun σ₂ hσ₂ => ?_
    exact (safe_helperRemove hσ₂).bind fun _ _ _ => trivial

/-- The arguments `main` accepts name an interface where the operation needs one. -/
theorem name_of_helperArguments {argv : List Bytes} {operation : HelperOperation} {name : Name}
    {deadlines : Deadlines} (h : helperArguments argv = .ok (operation, name, deadlines)) :
    operation ≠ .listProfiles → nameIsValid name = true := by
  intro hoperation
  unfold helperArguments at h
  split at h
  · split at h
    · split at h
      · cases h
      split at h
      · cases h
      · split at h
        · cases h
        · rename_i hname
          cases h
          by_contra hinvalid
          exact hname (.inr ⟨hoperation, Bool.eq_false_iff.mpr hinvalid⟩)
    · cases h
  · cases h

/-- `main`. -/
theorem safe_helperMain {entries : ℕ} {argv : List Bytes} {σ : Tracked}
    (hσ : Ready held (fun _ => True) σ) :
    Safe tracked (Issue held) (helperMain entries argv) (fun _ _ => True) σ := by
  unfold helperMain
  split
  · trivial
  rename_i operation name deadlines harguments
  refine (safe_worksOn (worksOn_helperProcessStart deadlines) hσ).bind ?_
  rintro started σ₁ ⟨hσ₁, -⟩
  split
  · trivial
  split
  · trivial
  · trivial
  refine (safe_helperOperation hσ₁ (name_of_helperArguments harguments)).bind fun result σ₂ _ => ?_
  cases result with
  | none => trivial
  | some result =>
    exact (issue_worksOnNone (worksOn_helperExit deadlines result)).bind fun _ _ _ => trivial

/-! ## Histories -/

/-- The programs a history is made of: runs of the helper, and runs of the two entry points of
the tunnel by themselves. -/
inductive HelperCommand : HelperM (Option HelperExit) → Prop
  | main (entries : ℕ) (argv : List Bytes) : HelperCommand (helperMain entries argv)
  | activate (dnsRecoveryBlocked : Bool) (activation : Activation) (deadlines : Deadlines) :
      HelperCommand (some <$> tunnelActivate dnsRecoveryBlocked (some activation) deadlines)
  | down (dnsRecoveryBlocked : Bool) (name : Name) (deadlines : Deadlines)
      (hname : nameIsValid name = true) :
      HelperCommand (some <$> tunnelDown dnsRecoveryBlocked name (configNameOf name)
        (runtimeConfigPathOf name) deadlines)

/-- Every command is safe where nothing was begun. -/
theorem safe_helperCommand {p : HelperM (Option HelperExit)} (hp : HelperCommand p) {σ : Tracked}
    (hσ : Ready held (fun _ => True) σ) : Safe tracked (Issue held) p (fun _ _ => True) σ := by
  cases hp with
  | main entries argv => exact safe_helperMain hσ
  | activate blocked a deadlines =>
    exact (safe_activate hσ).bind fun _ _ _ => trivial
  | down blocked name deadlines hname =>
    exact (safe_down hname hσ trivial).bind fun _ _ _ => trivial

/-- What a new process finds: the files, and nothing of the last process. -/
structure Booted (w w' : World) : Prop where
  files : w'.files = w.files
  uncommitted : w'.committed = false

/-- A history of the helper: commands one after the other, each stopped anywhere. -/
abbrev HelperHistory : World → List (List HelperEvent) → World → Prop :=
  History behaves Booted HelperCommand

/-- The ledgers after a history. -/
def ledgersAfter (runs : List (List HelperEvent)) : Ledgers :=
  ledgerAfter Ledgers.after Ledgers.atBoot .empty runs

/-- A new process forgets only what was of the last command. -/
theorem ready_of_booted {w w' : World} {L : Ledgers} (hσ : AllAccounted (w, L))
    (hkept : ∀ hold ∈ held, hold.Kept w) (hboot : Booted w w') :
    Ready held (fun _ => True) (w', L.atBoot) where
  accounted := by
    intro n
    have hmarker : w'.marker n = w.marker n := by rw [World.marker, World.marker, hboot.files]
    refine ⟨?_, ?_⟩
    · rw [hmarker]
      exact (hσ n).carried
    · rw [hmarker]
      exact (hσ n).session
  unbegun := fun n _ => unbegun_atBoot (L n)
  uncommitted := hboot.uncommitted
  kept := fun hold hhold =>
    (hkept hold hhold).of_files (by rw [hboot.files]) (by rw [hboot.files])

/-- Over every history of the helper the disk accounts for the ledgers, what is held stays held,
and every operation was issued where a command may issue it. -/
theorem helperHistory_issue {w w' : World} {runs : List (List HelperEvent)}
    (hh : HelperHistory w runs w') (hkept : ∀ hold ∈ held, hold.Kept w) :
    (AllAccounted (w', ledgersAfter runs) ∧ ∀ hold ∈ held, hold.Kept w') ∧
      ∀ before tr after pre e post, runs = before ++ tr :: after → tr = pre ++ e :: post →
        let σ : Tracked := (e.before, pre.foldl Ledgers.after (ledgersAfter before).atBoot)
        (Issue held e.op σ ∧ AllAccounted σ ∧ ∀ hold ∈ held, hold.Kept e.before) ∧
          behaves e.op e.before e.reply e.after :=
  History.monitored
    (I := fun σ => AllAccounted σ ∧ ∀ hold ∈ held, hold.Kept σ.1)
    (fun _ _ _ hσ hboot => ready_of_booted hσ.1 hσ.2 hboot)
    (fun _ hσ => ⟨hσ.accounted, hσ.kept⟩) (fun _ _ hp hσ => safe_helperCommand hp hσ)
    (fun _ _ _ _ ho hσ h => ⟨allAccounted_issue ho hσ.1 h,
      fun hold hhold => kept_issue hhold ho (hσ.2 hold hhold) h.1⟩)
    hh ⟨allAccounted_empty w, hkept⟩

end NmSidebar
