import NmSidebar.Actions.SaveConflicts

/-!
# The version an editor saves with

The profile editor of `connection-settings.c` next to `profile-save.c`: the editor takes the version
of libnm's cache for its own only while its form is clean and the cached settings are those it was
opened with or has saved. libnm hears of a save late. Edits that are begun before it does keep the
version from before the save, and are refused once the cache has caught up.
-/

namespace NmSidebar

open Text Effects

/-! ## The editor -/

/-- What of `Editor` the version depends on. The values and the originals are those of its fields. -/
structure ProfileEditor where
  /-- The settings of the baseline without its secrets. -/
  baseline : List Setting
  submitted : List Setting
  version : ℕ
  values : List Bytes
  originals : List Bytes
  dirty : Bool
  deriving DecidableEq

namespace ProfileEditor

/-- `sync_version`. -/
def syncVersion (editor : ProfileEditor) (cache : CachedProfile) : ProfileEditor :=
  if cache.settings = editor.baseline then { editor with version := cache.version } else editor

/-- The number of the fields that are changed. -/
def changeCount (editor : ProfileEditor) : ℕ :=
  (editor.values.zip editor.originals).countP fun field => field.1 ≠ field.2

/-- `update_dirty`, while the form is not being built. -/
def updateDirty (editor : ProfileEditor) (cache : CachedProfile) : ProfileEditor :=
  let editor := if !editor.dirty then editor.syncVersion cache else editor
  { editor with dirty := editor.changeCount ≠ 0 }

/-- The timer's `sync_version` in `refresh_live`. -/
def refresh (editor : ProfileEditor) (saving : Bool) (cache : CachedProfile) : ProfileEditor :=
  if !editor.dirty && !saving then editor.syncVersion cache else editor

/-- `save_finished` after a success, before `update_dirty`. `cleared` empties the password and what a
disabled method leaves unused. -/
def saved (editor : ProfileEditor) (cleared : List Bytes → List Bytes) : ProfileEditor :=
  { editor with
    baseline := editor.submitted
    values := cleared editor.values
    originals := cleared editor.values
    dirty := false }

/-- The editor that `network_sidebar_edit_profile` makes of a profile in libnm's cache, before
`update_dirty`. -/
def opened (cache : CachedProfile) (values : List Bytes) : ProfileEditor where
  baseline := cache.settings
  submitted := []
  version := cache.version
  values
  originals := values
  dirty := false

end ProfileEditor

/-! ## Saves while no other client changes the profile -/

/-- libnm hears of the version and of the settings that are stored, with one message or with two. -/
inductive CacheUpdate (together : Bool) (w : ProfileWorld) : ProfileWorld → Prop
  | version : together = false →
      CacheUpdate together w { w with cache := { w.cache with version := w.stored.version } }
  | settings : together = false →
      CacheUpdate together w { w with cache := { w.cache with settings := w.stored.settings } }
  | whole :
      CacheUpdate together w { w with cache := ⟨w.stored.settings, w.stored.version⟩ }

/-- What reaches the cache in a turn of the main loop. -/
abbrev Heard (together : Bool) : ProfileWorld → ProfileWorld → Prop :=
  Relation.ReflTransGen (CacheUpdate together)

/-- What each call of a save may reply and change where no other client does anything. `GetSecrets`
leaves the version alone, and an `Update2` that fails has changed nothing. -/
def lonelySaves (together : Bool) : Behaviour saveSig ProfileWorld
  | .turn, w, _, w' => Heard together w w'
  | .update2 settings versionId, w, reply, w' =>
    (reply ≠ .ok () ∧ w' = w) ∨ reply = .ok () ∧ versionId = w.stored.version ∧
      ∃ after, Updates settings w.stored after ∧ w' = w.store after
  | .cache, w, cache, w' => cache = w.cache ∧ w' = w
  | .getSecrets _, w, reply, w' =>
    w' = w ∧ ∀ secrets, reply = .ok secrets → secrets = w.stored.secrets
  | .addConnection _, w, _, w' => w' = w
  | .notify _, w, _, w' => w' = w
  | .scheduleRefresh _, w, _, w' => w' = w

/-- The cache holds what is stored. -/
def ProfileWorld.CaughtUp (w : ProfileWorld) : Prop :=
  w.cache = ⟨w.stored.settings, w.stored.version⟩

instance (w : ProfileWorld) : Decidable w.CaughtUp := inferInstanceAs (Decidable (_ = _))

instance (w : ProfileWorld) (version : ℕ) (settings : List Setting) :
    Decidable (w.Recorded version settings) :=
  inferInstanceAs (Decidable (∃ profile ∈ w.history, _ ∧ _))

/-! ## Sessions -/

/-- What is noted of a session: whether the edits were begun while the cache was behind, the
baseline at the time the version was taken, and whether the cache was right about its version
then. -/
structure VersionLedger where
  begunBehind : Bool
  adoptedFor : List Setting
  agreed : Bool
  deriving DecidableEq

/-- The ledger after the editor has compared its baseline with the cache. -/
def VersionLedger.compared (ledger : VersionLedger) (editor : ProfileEditor)
    (w : ProfileWorld) : VersionLedger :=
  if w.cache.settings = editor.baseline then
    { ledger with
      adoptedFor := editor.baseline
      agreed := w.Recorded w.cache.version w.cache.settings }
  else ledger

/-- The ledger after `update_dirty`. -/
def VersionLedger.updated (ledger : VersionLedger) (editor : ProfileEditor)
    (w : ProfileWorld) : VersionLedger :=
  if editor.dirty then ledger
  else if editor.changeCount ≠ 0 then { ledger.compared editor w with begunBehind := ¬w.CaughtUp }
  else ledger.compared editor w

/-- An editor with what is left of its save, and the profile it edits. -/
structure EditorSession where
  editor : ProfileEditor
  saving : Option (SaveM (Except SaveError Unit))
  world : ProfileWorld
  ledger : VersionLedger

namespace EditorSession

/-- `update_dirty`. -/
def updateDirty (s : EditorSession) : EditorSession :=
  { s with
    editor := s.editor.updateDirty s.world.cache
    ledger := s.ledger.updated s.editor s.world }

/-- The timer's part of `refresh_live`. -/
def refresh (s : EditorSession) : EditorSession :=
  { s with
    editor := s.editor.refresh s.saving.isSome s.world.cache
    ledger :=
      if !s.editor.dirty && !s.saving.isSome then s.ledger.compared s.editor s.world
      else s.ledger }

/-- `save_finished`. -/
def saveFinished (s : EditorSession) (cleared : List Bytes → List Bytes) :
    Except SaveError Unit → EditorSession
  | .ok () => updateDirty { s with saving := none, editor := s.editor.saved cleared }
  | .error _ => { s with saving := none }

/-- The editor of a profile that libnm knows as it is stored. -/
def opened (profile : StoredProfile) (values : List Bytes) : EditorSession :=
  updateDirty
    { editor := .opened ⟨profile.settings, profile.version⟩ values
      saving := none
      world := .created profile
      ledger := ⟨false, profile.settings, true⟩ }

/-- One step of a session. `draftOf` is the draft that `save_clicked` makes of a baseline and a form
that is valid. While a save is under way the form and its buttons take no input; the buttons are
shown while the form is dirty. -/
inductive Step (together : Bool) (draftOf : List Setting → List Bytes → Option Connection)
    (cleared : List Bytes → List Bytes) (s : EditorSession) : EditorSession → Prop
  | edit (values : List Bytes) : s.saving = none →
      Step together draftOf cleared s
        (updateDirty { s with editor := { s.editor with values } })
  | revert (i : ℕ) : s.saving = none →
      Step together draftOf cleared s
        (updateDirty { s with editor :=
          { s.editor with values := s.editor.values.set i (s.editor.originals.getD i []) } })
  | revertAll : s.saving = none →
      Step together draftOf cleared s
        (updateDirty { s with editor := { s.editor with values := s.editor.originals } })
  | refresh : Step together draftOf cleared s s.refresh
  | heard {w : ProfileWorld} : s.saving = none → CacheUpdate together s.world w →
      Step together draftOf cleared s { s with world := w }
  | saveClicked {draft : Connection} : s.saving = none → s.editor.dirty = true →
      draftOf s.editor.baseline s.editor.values = some draft →
      Step together draftOf cleared s
        { s with
          editor := { s.editor with submitted := draft.settings }
          saving := some (saveProfile true draft s.editor.version) }
  | call {o : SaveCall} {k : SaveCall.Reply o → SaveM (Except SaveError Unit)}
      {reply : SaveCall.Reply o} {w : ProfileWorld} : s.saving = some (.call o k) →
      lonelySaves together o s.world reply w →
      Step together draftOf cleared s { s with saving := some (k reply), world := w }
  | finished {result : Except SaveError Unit} : s.saving = some (.pure result) →
      Step together draftOf cleared s (s.saveFinished cleared result)

end EditorSession

/-! ## What a save leaves -/

/-- A save that succeeds has stored the settings under a new version; otherwise the cache has heard of
what was stored before. -/
def SaveLeft (together : Bool) (w₀ : ProfileWorld) (settings : List Setting) :
    Except SaveError Unit → ProfileWorld → Prop
  | .ok (), w => ∃ u after, Heard together w₀ u ∧ after.settings = settings ∧
      u.stored.version < after.version ∧ Heard together (u.store after) w
  | .error _, w => Heard together w₀ w

/-- Where libnm refuses no call of a save. -/
abbrev AnyIssue : SaveCall → ProfileWorld → Prop := fun _ _ => True

section Saves

variable {together : Bool} {w₀ w : ProfileWorld} {settings : List Setting} {save : SaveProfile}
  {remote : CachedProfile}

/-- The rule of a request: the cache may hear of something before and after it. -/
theorem lonely_callAsync {o : SaveCall} {Q : SaveCall.Reply o → ProfileWorld → Prop}
    (h : ∀ u, Heard together w u → ∀ reply u', lonelySaves together o u reply u' →
      ∀ u'', Heard together u' u'' → Q reply u'') :
    Safe (lonelySaves together) AnyIssue (callAsync o) Q w :=
  ⟨trivial, fun _ u hu => ⟨trivial, fun reply u' hreply => ⟨trivial, fun _ u'' hu'' =>
    h u hu reply u' hreply u'' hu''⟩⟩⟩

theorem lonely_saveUpdate (hdraft : save.draft.settings = settings) (hw : Heard together w₀ w) :
    Safe (lonelySaves together) AnyIssue (saveUpdate save remote) (SaveLeft together w₀ settings)
      w := by
  unfold saveUpdate
  split
  · exact hw
  refine safe_bind.mpr (lonely_callAsync fun u hu reply u' hreply u'' hu'' => ?_)
  obtain ⟨hfailed, rfl⟩ | ⟨rfl, -, after, hafter, rfl⟩ := hreply
  · cases reply with
    | ok u => exact absurd rfl hfailed
    | error message => exact hw.trans (hu.trans hu'')
  · refine safe_bind.mpr (safe_request.mpr ⟨trivial, fun _ u₃ h₃ => ?_⟩)
    obtain rfl : u₃ = u'' := h₃
    exact ⟨u, after, hw.trans hu, hafter.settings.trans hdraft, hafter.version, hu''⟩

theorem lonely_saveNext {rest : List Bytes} (hdraft : save.draft.settings = settings)
    (hw : Heard together w₀ w) :
    Safe (lonelySaves together) AnyIssue (saveNext save remote rest)
      (SaveLeft together w₀ settings) w := by
  induction rest generalizing save remote w with
  | nil => exact lonely_saveUpdate hdraft hw
  | cons setting rest ih =>
    unfold saveNext
    split
    · exact ih hdraft hw
    refine safe_bind.mpr (lonely_callAsync fun u hu reply u' hreply u'' hu'' => ?_)
    obtain ⟨rfl, -⟩ : u' = u ∧ _ := hreply
    cases reply with
    | error message => exact hw.trans (hu.trans hu'')
    | ok secrets =>
      cases hdone : secretsDone save setting (.ok secrets) with
      | error error => exact hw.trans (hu.trans hu'')
      | ok save' =>
        refine safe_bind.mpr (safe_request.mpr ⟨trivial, fun cache u₃ h₃ => ?_⟩)
        obtain ⟨-, rfl⟩ : _ ∧ u₃ = u'' := h₃
        exact ih ((secretsDone_value hdone).1.trans hdraft) (hw.trans (hu.trans hu''))

/-- A save stores its draft, or leaves what is stored. -/
theorem lonely_saveProfile {draft : Connection} {version : ℕ} :
    Safe (lonelySaves together) AnyIssue (saveProfile true draft version)
      (SaveLeft together w draft.settings) w := by
  unfold saveProfile
  rw [if_pos rfl]
  refine safe_bind.mpr (safe_request.mpr ⟨trivial, fun cache u hu => ?_⟩)
  obtain ⟨-, rfl⟩ : _ ∧ u = w := hu
  split
  · exact .refl
  · exact lonely_saveNext rfl .refl

end Saves

/-- The refusal of a version that is not that of the cache. -/
def changedWhileEditing : Except SaveError Unit :=
  .error (.busy (ascii
    "This profile changed while you were editing. Reopen the editor and try again."))

theorem changedWhileSaving_ne :
    Except.error (.busy (ascii
      "This profile changed while saving. Reopen the editor and try again.")) ≠
      changedWhileEditing := by
  intro h
  have hmessage := SaveError.busy.inj (Except.error.inj h)
  exact absurd hmessage (by decide +kernel)

theorem request_ne (message : Bytes) :
    Except.error (.request message) ≠ changedWhileEditing := by
  intro h
  cases Except.error.inj h

theorem secretsDone_request {save : SaveProfile} {setting : Bytes} {reply : Except Bytes Secrets}
    {error : SaveError} (h : secretsDone save setting reply = .error error) :
    ∃ message, error = .request message := by
  unfold secretsDone at h
  split at h
  · exact ⟨_, (Except.error.inj h).symm⟩
  split at h
  · exact ⟨_, (Except.error.inj h).symm⟩
  split at h
  · cases h
  split at h
  · exact ⟨_, (Except.error.inj h).symm⟩
  · cases h

theorem returns_callAsync {o : SaveCall} {Q : SaveCall.Reply o → Prop} (h : ∀ reply, Q reply) :
    (callAsync o).Returns Q := fun _ reply _ => h reply

/-- No later step of a save refuses it for its version. -/
theorem saveNext_returns {save : SaveProfile} {remote : CachedProfile} {rest : List Bytes} :
    (saveNext save remote rest).Returns (· ≠ changedWhileEditing) := by
  induction rest generalizing save remote with
  | nil =>
    unfold saveNext saveUpdate
    split
    · exact changedWhileSaving_ne
    refine Prog.returns_bind.mpr (returns_callAsync fun reply => ?_)
    cases reply with
    | error message => exact request_ne message
    | ok u =>
      intro cache h
      cases h
  | cons setting rest ih =>
    unfold saveNext
    split
    · exact ih
    refine Prog.returns_bind.mpr (returns_callAsync fun reply => ?_)
    cases hdone : secretsDone save setting reply with
    | error error =>
      obtain ⟨message, rfl⟩ := secretsDone_request hdone
      exact request_ne message
    | ok save' => exact fun cache => ih

/-- A save is refused for its version where that is not the version of the cache. -/
theorem saveProfile_changedWhileEditing {together : Bool} {draft : Connection} {version : ℕ}
    {w w' : ProfileWorld} {tr : List (Event saveSig ProfileWorld)}
    {result : Except SaveError Unit}
    (hs : Steps (lonelySaves together) (saveProfile true draft version) w tr (.pure result) w') :
    result = changedWhileEditing ↔ version ≠ w.cache.version := by
  have hsafe : Safe (lonelySaves together) AnyIssue (saveProfile true draft version)
      (fun result _ => result = changedWhileEditing ↔ version ≠ w.cache.version) w := by
    unfold saveProfile
    rw [if_pos rfl]
    refine safe_bind.mpr (safe_request.mpr ⟨trivial, fun cache u hu => ?_⟩)
    obtain ⟨rfl, rfl⟩ : cache = w.cache ∧ u = w := hu
    split
    · rename_i hversion
      exact iff_of_true rfl hversion
    · rename_i hversion
      refine Safe.of_returnsOn (Prog.Returns.on (R := fun _ _ => True) (saveNext_returns.mono ?_))
        (fun _ _ => trivial) (fun _ _ _ _ _ => trivial)
      intro result hresult
      exact iff_of_false hresult hversion
  exact hsafe.returned hs

/-! ## What every session keeps -/

/-- The profile moves: the cache hears of it, or a save stores it under a new version. -/
def Evolves (together : Bool) (w w' : ProfileWorld) : Prop :=
  CacheUpdate together w w' ∨ ∃ after, w.stored.version < after.version ∧ w' = w.store after

theorem evolves_of_heard {together : Bool} {w w' : ProfileWorld} (h : Heard together w w') :
    Relation.ReflTransGen (Evolves together) w w' :=
  Relation.ReflTransGen.mono (fun _ _ => Or.inl) _ _ h

/-- Every call of a save lets the profile move. -/
theorem evolves_lonelySaves {together : Bool} {o : SaveCall} {w w' : ProfileWorld}
    {reply : SaveCall.Reply o} (h : lonelySaves together o w reply w') :
    Relation.ReflTransGen (Evolves together) w w' := by
  cases o with
  | turn => exact evolves_of_heard h
  | cache => rw [h.2]
  | getSecrets setting => rw [h.1]
  | update2 request versionId =>
    obtain ⟨-, rfl⟩ | ⟨-, -, after, hafter, rfl⟩ := h
    · exact .refl
    · exact .single (.inr ⟨after, hafter.version, rfl⟩)
  | addConnection request => rw [show w' = w from h]
  | notify message => rw [show w' = w from h]
  | scheduleRefresh delay => rw [show w' = w from h]

/-- The profile as it moves. -/
structure WorldSound (together : Bool) (w : ProfileWorld) : Prop where
  dated : w.Dated
  behind : w.cache.version ≤ w.stored.version
  agrees : together = true → w.Agrees

/-- What the ledger says of the version the editor has. -/
structure Noted (together : Bool) (editor : ProfileEditor) (ledger : VersionLedger)
    (w : ProfileWorld) : Prop where
  behind : editor.version ≤ w.stored.version
  adopted : w.Recorded editor.version ledger.adoptedFor ↔ ledger.agreed = true
  agreed : together = true → ledger.agreed = true

/-- An editor with no save under way. Its baseline is what is stored. It has the stored version only
where the cache has the stored settings, and lacks it where its edits were begun too early. -/
structure Settled (editor : ProfileEditor) (ledger : VersionLedger) (w : ProfileWorld) :
    Prop where
  baseline : editor.baseline = w.stored.settings
  current : editor.version = w.stored.version → w.cache.settings = w.stored.settings
  begun : editor.dirty = true →
    (ledger.begunBehind = true ↔ editor.version ≠ w.stored.version)

section Sessions

variable {together : Bool} {editor : ProfileEditor} {ledger : VersionLedger} {w w' : ProfileWorld}

theorem WorldSound.evolves (h : WorldSound together w) (hw : Evolves together w w') :
    WorldSound together w' := by
  obtain (⟨htogether⟩ | ⟨htogether⟩ | ⟨⟩) | ⟨after, hlater, rfl⟩ := hw
  · exact ⟨h.dated, le_rfl, fun htrue => absurd (htogether.symm.trans htrue) Bool.false_ne_true⟩
  · exact ⟨h.dated, h.behind,
      fun htrue => absurd (htogether.symm.trans htrue) Bool.false_ne_true⟩
  · exact ⟨h.dated, le_rfl, fun _ => ⟨w.stored, List.mem_cons_self, rfl, rfl⟩⟩
  · obtain ⟨hsubset, hdated⟩ := ProfileWorld.grows_store hlater
    refine ⟨hdated h.dated, h.behind.trans hlater.le, fun htrue => ?_⟩
    obtain ⟨profile, hmem, hsame⟩ := h.agrees htrue
    exact ⟨profile, hsubset hmem, hsame⟩

/-- A new version is no version of before. -/
theorem recorded_store {version : ℕ} {settings : List Setting} {after : StoredProfile}
    (hversion : version ≤ w.stored.version) (hlater : w.stored.version < after.version) :
    (w.store after).Recorded version settings ↔ w.Recorded version settings := by
  constructor
  · rintro ⟨profile, hmem, hsame, hsettings⟩
    obtain rfl | hmem := List.mem_cons.mp hmem
    · exact absurd (hsame.trans_le hversion) (Nat.not_le_of_gt hlater)
    · exact ⟨profile, hmem, hsame, hsettings⟩
  · rintro ⟨profile, hmem, hsame⟩
    exact ⟨profile, List.mem_cons_of_mem _ hmem, hsame⟩

theorem Noted.evolves (h : Noted together editor ledger w) (hw : Evolves together w w') :
    Noted together editor ledger w' := by
  obtain (⟨-⟩ | ⟨-⟩ | ⟨⟩) | ⟨after, hlater, rfl⟩ := hw
  · exact ⟨h.behind, h.adopted, h.agreed⟩
  · exact ⟨h.behind, h.adopted, h.agreed⟩
  · exact ⟨h.behind, h.adopted, h.agreed⟩
  · exact ⟨h.behind.trans hlater.le, (recorded_store h.behind hlater).trans h.adopted, h.agreed⟩

theorem Settled.heard (h : Settled editor ledger w) (hw : CacheUpdate together w w') :
    Settled editor ledger w' := by
  cases hw with
  | version => exact ⟨h.baseline, h.current, h.begun⟩
  | settings => exact ⟨h.baseline, fun _ => rfl, h.begun⟩
  | whole => exact ⟨h.baseline, fun _ => rfl, h.begun⟩

/-- The editor compares its baseline with the cache. -/
theorem Noted.sync (h : Noted together editor ledger w) (hw : WorldSound together w) :
    Noted together (editor.syncVersion w.cache) (ledger.compared editor w) w := by
  unfold ProfileEditor.syncVersion VersionLedger.compared
  by_cases hsame : w.cache.settings = editor.baseline
  · rw [if_pos hsame, if_pos hsame]
    refine ⟨hw.behind, ?_, fun htrue => decide_eq_true (hw.agrees htrue)⟩
    rw [← hsame]
    exact decide_eq_true_iff.symm
  · rw [if_neg hsame, if_neg hsame]
    exact h

theorem dirty_syncVersion {cache : CachedProfile} :
    (editor.syncVersion cache).dirty = editor.dirty := by
  unfold ProfileEditor.syncVersion
  split <;> rfl

theorem changeCount_syncVersion {cache : CachedProfile} :
    (editor.syncVersion cache).changeCount = editor.changeCount := by
  unfold ProfileEditor.syncVersion
  split <;> rfl

/-- A clean editor stays settled when it compares its baseline with the cache, and has the stored
version then where the cache has caught up. -/
theorem Settled.sync (h : Settled editor ledger w) (hclean : editor.dirty = false) :
    Settled (editor.syncVersion w.cache) (ledger.compared editor w) w ∧
      (w.CaughtUp ↔ (editor.syncVersion w.cache).version = w.stored.version) := by
  have hnever {P : Prop} (hdirty : (editor.syncVersion w.cache).dirty = true) : P := by
    rw [dirty_syncVersion, hclean] at hdirty
    exact absurd hdirty Bool.false_ne_true
  unfold ProfileEditor.syncVersion VersionLedger.compared at *
  by_cases hsame : w.cache.settings = editor.baseline
  · have hstored : w.cache.settings = w.stored.settings := hsame.trans h.baseline
    rw [if_pos hsame, if_pos hsame] at *
    refine ⟨⟨h.baseline, fun _ => hstored, hnever⟩, ?_⟩
    constructor
    · intro hcaught
      exact congrArg CachedProfile.version hcaught
    · intro hversion
      exact congrArg₂ CachedProfile.mk hstored hversion
  · rw [if_neg hsame, if_neg hsame] at *
    refine ⟨h, ?_⟩
    constructor
    · intro hcaught
      exact absurd ((congrArg CachedProfile.settings hcaught).trans h.baseline.symm) hsame
    · intro hversion
      exact absurd ((h.current hversion).trans h.baseline.symm) hsame

/-- Only what is compared changes the version and what is noted of it. -/
theorem Noted.updateDirty (h : Noted together editor ledger w) (hw : WorldSound together w) :
    Noted together (editor.updateDirty w.cache) (ledger.updated editor w) w := by
  unfold ProfileEditor.updateDirty VersionLedger.updated
  cases editor.dirty with
  | true => exact ⟨h.behind, h.adopted, h.agreed⟩
  | false =>
    have hsynced := h.sync hw
    rw [Bool.not_false, if_pos rfl, if_neg Bool.false_ne_true]
    dsimp only
    split
    · exact ⟨hsynced.behind, hsynced.adopted, hsynced.agreed⟩
    · exact ⟨hsynced.behind, hsynced.adopted, hsynced.agreed⟩

/-- When the form becomes dirty, the editor has the stored version where the cache has caught up. -/
theorem Settled.updateDirty (h : Settled editor ledger w) :
    Settled (editor.updateDirty w.cache) (ledger.updated editor w) w := by
  unfold ProfileEditor.updateDirty VersionLedger.updated
  cases hdirty : editor.dirty with
  | true => exact ⟨h.baseline, h.current, fun _ => h.begun hdirty⟩
  | false =>
    obtain ⟨hsynced, hcaught⟩ := h.sync hdirty
    rw [Bool.not_false, if_pos rfl, if_neg Bool.false_ne_true]
    dsimp only
    rw [changeCount_syncVersion]
    split
    · refine ⟨hsynced.baseline, hsynced.current, fun _ => ?_⟩
      rw [decide_eq_true_iff, hcaught]
    · rename_i hnone
      exact ⟨hsynced.baseline, hsynced.current, fun hchanged =>
        absurd (of_decide_eq_true hchanged) hnone⟩

theorem WorldSound.moves (h : WorldSound together w)
    (hw : Relation.ReflTransGen (Evolves together) w w') : WorldSound together w' := by
  induction hw with
  | refl => exact h
  | tail _ hstep ih => exact ih.evolves hstep

theorem Noted.moves (h : Noted together editor ledger w)
    (hw : Relation.ReflTransGen (Evolves together) w w') : Noted together editor ledger w' := by
  induction hw with
  | refl => exact h
  | tail _ hstep ih => exact ih.evolves hstep

theorem Settled.hears (h : Settled editor ledger w) (hw : Heard together w w') :
    Settled editor ledger w' := by
  induction hw with
  | refl => exact h
  | tail _ hstep ih => exact ih.heard hstep

/-- What is stored stays when the cache hears of it. -/
theorem stored_heard (hw : Heard together w w') : w'.stored = w.stored := by
  induction hw with
  | refl => rfl
  | tail _ hstep ih => cases hstep <;> exact ih

end Sessions

/-! ## Reachable sessions -/

namespace EditorSession

/-- What every session keeps. A save under way was begun by a settled editor. -/
structure Sound (together : Bool) (s : EditorSession) : Prop where
  world : WorldSound together s.world
  noted : Noted together s.editor s.ledger s.world
  settled : s.saving = none → Settled s.editor s.ledger s.world
  underWay : ∀ p, s.saving = some p → ∃ w₀, Settled s.editor s.ledger w₀ ∧
    s.editor.version ≤ w₀.stored.version ∧
      Safe (lonelySaves together) AnyIssue p (SaveLeft together w₀ s.editor.submitted) s.world

section Steps

variable {together : Bool} {draftOf : List Setting → List Bytes → Option Connection}
  {cleared : List Bytes → List Bytes} {s s' : EditorSession}

/-- An idle session whose editor is settled stays sound when the form is compared. -/
theorem sound_updateDirty (hworld : WorldSound together s.world)
    (hnoted : Noted together s.editor s.ledger s.world)
    (hsettled : Settled s.editor s.ledger s.world) (hidle : s.saving = none) :
    Sound together s.updateDirty := by
  refine ⟨hworld, hnoted.updateDirty hworld, fun _ => hsettled.updateDirty, fun p hp => ?_⟩
  have hnone : s.updateDirty.saving = none := hidle
  rw [hnone] at hp
  cases hp

theorem Sound.edit (h : Sound together s) (hidle : s.saving = none) (values : List Bytes) :
    Sound together (updateDirty { s with editor := { s.editor with values } }) := by
  have hsettled := h.settled hidle
  exact sound_updateDirty h.world ⟨h.noted.behind, h.noted.adopted, h.noted.agreed⟩
    ⟨hsettled.baseline, hsettled.current, hsettled.begun⟩ hidle

theorem sound_opened (profile : StoredProfile) (values : List Bytes) :
    Sound together (opened profile values) := by
  have hstored : (ProfileWorld.created profile).Recorded profile.version profile.settings :=
    ⟨profile, List.mem_cons_self, rfl, rfl⟩
  exact sound_updateDirty ⟨List.pairwise_singleton _ profile, le_rfl, fun _ => hstored⟩
    ⟨le_rfl, iff_of_true hstored rfl, fun _ => rfl⟩
    ⟨rfl, fun _ => rfl, fun hdirty => absurd hdirty Bool.false_ne_true⟩ rfl

theorem Sound.refresh (h : Sound together s) : Sound together s.refresh := by
  cases hcompares : !s.editor.dirty && !s.saving.isSome with
  | false =>
    have hsame : s.refresh = s := by
      simp only [EditorSession.refresh, ProfileEditor.refresh, hcompares, Bool.false_eq_true,
        if_false]
    rw [hsame]
    exact h
  | true =>
    have hsynced : s.refresh = { s with
        editor := s.editor.syncVersion s.world.cache
        ledger := s.ledger.compared s.editor s.world } := by
      simp only [EditorSession.refresh, ProfileEditor.refresh, hcompares, if_true]
    simp only [Bool.and_eq_true, Bool.not_eq_true', Option.isSome_eq_false_iff,
      Option.isNone_iff_eq_none] at hcompares
    obtain ⟨hclean, hidle⟩ := hcompares
    rw [hsynced]
    refine ⟨h.world, h.noted.sync h.world, fun _ => ((h.settled hidle).sync hclean).1,
      fun p hp => ?_⟩
    exact absurd (hidle.symm.trans hp) (Option.some_ne_none p).symm

/-- A save that ends leaves a settled editor: with what it has stored as the baseline and a version
from before it, or as it was. -/
theorem Sound.finished (h : Sound together s) {result : Except SaveError Unit}
    (hsaving : s.saving = some (.pure result)) :
    Sound together (s.saveFinished cleared result) := by
  obtain ⟨w₀, hsettled, hbehind, hleft⟩ := h.underWay _ hsaving
  cases result with
  | error error =>
    exact ⟨h.world, h.noted, fun _ => hsettled.hears hleft, fun p hp => nomatch hp⟩
  | ok u =>
    obtain ⟨w, after, hw, hafter, hlater, hworld⟩ := hleft
    have hstored : s.world.stored = after := stored_heard hworld
    rw [stored_heard hw] at hlater
    refine sound_updateDirty h.world ⟨h.noted.behind, h.noted.adopted, h.noted.agreed⟩ ⟨?_, ?_, ?_⟩
      rfl
    · exact (congrArg StoredProfile.settings hstored).trans hafter |>.symm
    · intro hversion
      have hsame : s.editor.version = after.version :=
        hversion.trans (congrArg StoredProfile.version hstored)
      omega
    · intro hdirty
      exact absurd hdirty Bool.false_ne_true

/-- Every step keeps what sessions keep. -/
theorem Sound.step (h : Sound together s) (hstep : Step together draftOf cleared s s') :
    Sound together s' := by
  cases hstep with
  | edit values hidle => exact h.edit hidle values
  | revert i hidle => exact h.edit hidle _
  | revertAll hidle => exact h.edit hidle _
  | refresh => exact h.refresh
  | heard hidle hheard =>
    refine ⟨h.world.evolves (.inl hheard), h.noted.evolves (.inl hheard),
      fun _ => (h.settled hidle).heard hheard, fun p hp => ?_⟩
    exact absurd (hidle.symm.trans hp) (Option.some_ne_none p).symm
  | saveClicked hidle hdirty hdraft =>
    have hsettled := h.settled hidle
    refine ⟨h.world, ⟨h.noted.behind, h.noted.adopted, h.noted.agreed⟩,
      fun hnone => (nomatch hnone), fun p hp => ?_⟩
    obtain rfl := Option.some.inj hp
    exact ⟨s.world, ⟨hsettled.baseline, hsettled.current, hsettled.begun⟩, h.noted.behind,
      lonely_saveProfile⟩
  | call hsaving hcall =>
    obtain ⟨w₀, hsettled, hbehind, hsafe⟩ := h.underWay _ hsaving
    have hmoves := evolves_lonelySaves hcall
    refine ⟨h.world.moves hmoves, h.noted.moves hmoves, fun hnone => (nomatch hnone),
      fun p hp => ?_⟩
    obtain rfl := Option.some.inj hp
    exact ⟨w₀, hsettled, hbehind, hsafe.2 _ _ hcall⟩
  | finished hsaving => exact h.finished hsaving

/-- Every session that is reached keeps it. -/
theorem sound_of_reached {profile : StoredProfile} {values : List Bytes}
    (h : Relation.ReflTransGen (Step together draftOf cleared) (opened profile values) s) :
    Sound together s := by
  induction h with
  | refl => exact sound_opened profile values
  | tail _ hstep ih => exact ih.step hstep

end Steps

/-- A save that is issued when the cache has caught up is refused for a change of the profile where
its edits were begun while the cache was behind, and nowhere else. The version is one that the
baseline was stored under when it was taken where the cache was right about its version then, which
it is where libnm hears of the version and the settings together. -/
theorem saves_refused {together : Bool}
    {draftOf : List Setting → List Bytes → Option Connection} {cleared : List Bytes → List Bytes}
    {profile : StoredProfile} {values : List Bytes} {s : EditorSession}
    (h : Relation.ReflTransGen (Step together draftOf cleared) (opened profile values) s) :
    (s.saving = none → s.editor.dirty = true → s.world.CaughtUp → ∀ draft tr result w',
      Steps (lonelySaves together) (saveProfile true draft s.editor.version) s.world tr
        (.pure result) w' →
      (result = changedWhileEditing ↔ s.ledger.begunBehind = true)) ∧
    (s.world.Recorded s.editor.version s.ledger.adoptedFor ↔ s.ledger.agreed = true) ∧
    (together = true → s.ledger.agreed = true) := by
  have hsound := sound_of_reached h
  refine ⟨fun hidle hdirty hcaught draft tr result w' hs => ?_, hsound.noted.adopted,
    hsound.noted.agreed⟩
  have hversion : s.world.cache.version = s.world.stored.version :=
    congrArg CachedProfile.version hcaught
  rw [saveProfile_changedWhileEditing hs, hversion]
  exact ((hsound.settled hidle).begun hdirty).symm

/-! ## Edits that are begun too early -/

/-- What is left of a save runs as the program does. -/
theorem reaches_of_steps {together : Bool}
    {draftOf : List Setting → List Bytes → Option Connection} {cleared : List Bytes → List Bytes}
    {s : EditorSession} {p q : SaveM (Except SaveError Unit)} {w w' : ProfileWorld}
    {tr : List (Event saveSig ProfileWorld)} (hs : Steps (lonelySaves together) p w tr q w') :
    Relation.ReflTransGen (Step together draftOf cleared)
      { s with saving := some p, world := w } { s with saving := some q, world := w' } := by
  induction hs with
  | here p w => exact .refl
  | step hb _ ih => exact .head (.call rfl hb) ih

/-- The settings of a profile that connects on its own or not. -/
def autoconnectSettings (value : Bytes) : List Setting :=
  [⟨ascii "connection", [(ascii "autoconnect", value)]⟩]

/-- The draft of a form with one switch. -/
def autoconnectDraft (_ : List Setting) (values : List Bytes) : Option Connection :=
  some ⟨autoconnectSettings (values.headD []), []⟩

/-- An open network that does not connect on its own. -/
def autoconnectProfile : StoredProfile := ⟨autoconnectSettings (ascii "0"), [], 1⟩

/-- NetworkManager accepts what is of its version, and the cache hears of nothing. -/
def deafAnswer : (o : SaveCall) → ProfileWorld → SaveCall.Reply o × ProfileWorld
  | .turn, w => ((), w)
  | .cache, w => (w.cache, w)
  | .getSecrets _, w => (.ok w.stored.secrets, w)
  | .update2 request versionId, w =>
    if versionId = w.stored.version ∧ request.secrets = [] then
      (.ok (), w.store ⟨request.settings, w.stored.secrets, w.stored.version + 1⟩)
    else (.error (ascii "version mismatch"), w)
  | .addConnection _, w => (.ok (), w)
  | .notify _, w => ((), w)
  | .scheduleRefresh _, w => ((), w)

theorem deafAnswer_allowed (o : SaveCall) (w : ProfileWorld) :
    lonelySaves true o w (deafAnswer o w).1 (deafAnswer o w).2 := by
  cases o with
  | turn => exact .refl
  | cache => exact ⟨rfl, rfl⟩
  | getSecrets setting => exact ⟨rfl, fun secrets h => (Except.ok.inj h).symm⟩
  | update2 request versionId =>
    dsimp only [deafAnswer]
    split
    · rename_i hversion
      refine .inr ⟨rfl, hversion.1, ⟨request.settings, w.stored.secrets, w.stored.version + 1⟩,
        ⟨rfl, Nat.lt_succ_self _, ?_, fun _ => rfl⟩, rfl⟩
      rintro ⟨s, p, hvalue⟩
      rw [hversion.2] at hvalue
      exact absurd rfl hvalue
    · exact .inl ⟨fun h => (nomatch h), rfl⟩
  | addConnection request => rfl
  | notify message => rfl
  | scheduleRefresh delay => rfl

def deafSaves : Environment (lonelySaves true) := ⟨deafAnswer, deafAnswer_allowed⟩

/-- The draft with the switch set. -/
def switchDraft : Connection := ⟨autoconnectSettings (ascii "1"), []⟩

/-- The form is opened and the switch is set. -/
def switchedOn : EditorSession :=
  let s := opened autoconnectProfile [ascii "0"]
  updateDirty { s with editor := { s.editor with values := [ascii "1"] } }

/-- The form with the draft handed in. -/
def switchSubmitted : EditorSession :=
  { switchedOn with editor := { switchedOn.editor with submitted := switchDraft.settings } }

/-- The save of the switch. -/
def switchSave : List (Event saveSig ProfileWorld) × SaveM (Except SaveError Unit) × ProfileWorld :=
  deafSaves.run 5 (saveProfile true switchDraft switchedOn.editor.version) switchedOn.world

/-- The save is done. -/
def switchSaved : EditorSession :=
  { switchSubmitted with
    saving := some (.pure (.ok ()))
    world := switchSave.2.2 }.saveFinished id (.ok ())

/-- The switch is set back at once. -/
def switchedOff : EditorSession :=
  updateDirty { switchSaved with editor := { switchSaved.editor with values := [ascii "0"] } }

/-- Then the cache hears of the save. -/
def switchHeard : EditorSession :=
  { switchedOff with world :=
    { switchedOff.world with
      cache := ⟨switchedOff.world.stored.settings, switchedOff.world.stored.version⟩ } }

theorem switchHeard_reached :
    Relation.ReflTransGen (Step true autoconnectDraft id)
      (opened autoconnectProfile [ascii "0"]) switchHeard := by
  have hclicked : Step true autoconnectDraft id switchedOn { switchSubmitted with
      saving := some (saveProfile true switchDraft switchedOn.editor.version) } :=
    .saveClicked rfl (by decide +kernel) rfl
  have hresult : switchSave.2.1.result = some (.ok ()) := by decide +kernel
  have hsave := deafSaves.steps 5 (saveProfile true switchDraft switchedOn.editor.version)
    switchedOn.world
  have hcalls : Relation.ReflTransGen (Step true autoconnectDraft id)
      { switchSubmitted with
        saving := some (saveProfile true switchDraft switchedOn.editor.version) }
      { switchSubmitted with saving := some (.pure (.ok ())), world := switchSave.2.2 } := by
    have hsteps : Steps (lonelySaves true) (saveProfile true switchDraft switchedOn.editor.version)
        switchedOn.world switchSave.1 (.pure (.ok ())) switchSave.2.2 := hsave.returned hresult
    exact reaches_of_steps hsteps
  have hsaved : Step true autoconnectDraft id
      { switchSubmitted with saving := some (.pure (.ok ())), world := switchSave.2.2 }
      switchSaved := .finished rfl
  have hoff : Step true autoconnectDraft id switchSaved switchedOff := .edit [ascii "0"] rfl
  have hheard : Step true autoconnectDraft id switchedOff switchHeard := .heard rfl .whole
  exact .head (.edit [ascii "1"] rfl) (.head hclicked (hcalls.trans
    (.head hsaved (.head hoff (.single hheard)))))

/-- A save is refused although the cache has caught up and no other client has done anything. -/
theorem saves_refused_early : ∃ s : EditorSession,
    Relation.ReflTransGen (Step true autoconnectDraft id)
      (opened autoconnectProfile [ascii "0"]) s ∧
    s.saving = none ∧ s.editor.dirty = true ∧ s.world.CaughtUp ∧
    ∃ draft tr w', autoconnectDraft s.editor.baseline s.editor.values = some draft ∧
      Steps (lonelySaves true) (saveProfile true draft s.editor.version) s.world tr
        (.pure changedWhileEditing) w' := by
  have hsteps := deafSaves.steps 1
    (saveProfile true ⟨autoconnectSettings (ascii "0"), []⟩ switchHeard.editor.version)
    switchHeard.world
  have hresult : (deafSaves.run 1
      (saveProfile true ⟨autoconnectSettings (ascii "0"), []⟩ switchHeard.editor.version)
      switchHeard.world).2.1.result = some changedWhileEditing := by decide +kernel
  have hvalues : switchHeard.editor.values = [ascii "0"] := by decide +kernel
  exact ⟨switchHeard, switchHeard_reached, rfl, by decide +kernel, by decide +kernel, _, _, _,
    by rw [autoconnectDraft, hvalues]; rfl, hsteps.returned hresult⟩

/-- Its edits were begun while the cache was behind. -/
theorem saves_refused_sample :
    (switchHeard.saving = none → switchHeard.editor.dirty = true → switchHeard.world.CaughtUp →
      ∀ draft tr result w', Steps (lonelySaves true)
        (saveProfile true draft switchHeard.editor.version) switchHeard.world tr (.pure result) w' →
      (result = changedWhileEditing ↔ switchHeard.ledger.begunBehind = true)) ∧
    (switchHeard.world.Recorded switchHeard.editor.version switchHeard.ledger.adoptedFor ↔
      switchHeard.ledger.agreed = true) ∧
    (true = true → switchHeard.ledger.agreed = true) :=
  saves_refused switchHeard_reached

end EditorSession

end NmSidebar
