import Mathlib.Data.List.Pairwise
import NmSidebar.Actions.ProfileSave
import NmSidebar.Program.Environment

/-!
# What a save overwrites

An accepted `Update2` replaces the settings that the draft was made from and keeps the secrets that
were not entered again exactly where what `GetSecrets` returned is still what is stored. The version
that goes with `Update2` is that of the cache at the end, so a change of secrets alone that the cache
has caught up with is not refused but undone.
-/

namespace NmSidebar

open Text Effects

/-! ## The profile's history -/

namespace ProfileWorld

/-- Later versions are larger. -/
def Dated (w : ProfileWorld) : Prop := w.history.Pairwise fun p q => q.version < p.version

/-- Nothing of the history is lost. -/
def Grows (w w' : ProfileWorld) : Prop := w.history ⊆ w'.history ∧ (w.Dated → w'.Dated)

theorem Grows.refl (w : ProfileWorld) : w.Grows w := ⟨List.Subset.refl _, id⟩

theorem Grows.trans {w w' w'' : ProfileWorld} (h : w.Grows w') (h' : w'.Grows w'') :
    w.Grows w'' :=
  ⟨fun _ hp => h'.1 (h.1 hp), h'.2 ∘ h.2⟩

/-- A change that raises the version. -/
theorem grows_store {w : ProfileWorld} {profile : StoredProfile}
    (h : w.stored.version < profile.version) : w.Grows (w.store profile) := by
  refine ⟨List.subset_cons_self _ _, fun hdated => List.pairwise_cons.mpr ⟨?_, hdated⟩⟩
  intro p hp
  rcases List.mem_cons.mp hp with rfl | hp
  · exact h
  · exact lt_trans ((List.pairwise_cons.mp hdated).1 p hp) h

theorem grows_foreign {w w' : ProfileWorld} (h : Foreign w w') : w.Grows w' := by
  cases h with
  | change profile h => exact grows_store h
  | version profile h => exact .refl _
  | settings profile h => exact .refl _

theorem grows_turn {w w' : ProfileWorld} (h : Relation.ReflTransGen Foreign w w') : w.Grows w' := by
  induction h with
  | refl => exact .refl w
  | tail _ hstep ih => exact ih.trans (grows_foreign hstep)

theorem Reached.dated {w : ProfileWorld} (h : w.Reached) : w.Dated := by
  obtain ⟨profile, h⟩ := h
  exact (grows_turn h).2 (List.pairwise_singleton _ profile)

/-- A version belongs to one profile only. -/
theorem Dated.unique {w : ProfileWorld} (h : w.Dated) {p q : StoredProfile} (hp : p ∈ w.history)
    (hq : q ∈ w.history) (hversion : p.version = q.version) : p = q := by
  have hnodup : (w.history.map StoredProfile.version).Nodup :=
    List.pairwise_map.mpr (h.imp fun hlt => (ne_of_lt hlt).symm)
  exact List.inj_on_of_nodup_map hnodup hp hq hversion

/-- The settings were stored under the version. -/
def Recorded (w : ProfileWorld) (version : ℕ) (settings : List Setting) : Prop :=
  ∃ profile ∈ w.history, profile.version = version ∧ profile.settings = settings

/-- The settings in libnm's cache are those of the version in it. -/
def Agrees (w : ProfileWorld) : Prop := w.Recorded w.cache.version w.cache.settings

end ProfileWorld

/-- Only a turn of the main loop and an accepted `Update2` change anything. -/
theorem saves_changes {o : SaveCall} {w w' : ProfileWorld} {reply : SaveCall.Reply o}
    (h : saves o w reply w') (hturn : o ≠ .turn) :
    w' = w ∨ ∃ request after, o = .update2 request w.stored.version ∧
      Updates request w.stored after ∧ w' = w.store after := by
  cases o with
  | turn => exact absurd rfl hturn
  | cache => exact .inl h.2
  | getSecrets setting => exact .inl h.1
  | update2 request versionId =>
    rcases h with ⟨-, rfl⟩ | ⟨rfl, after, hupdates, rfl⟩
    · exact .inl rfl
    · exact .inr ⟨request, after, rfl, hupdates, rfl⟩
  | addConnection request => exact .inl h
  | notify message => exact .inl h
  | scheduleRefresh delay => exact .inl h

/-! ## What a save has done so far -/

/-- The answers to `GetSecrets`, the world in which the cache was last read, whether a `GetSecrets`
has failed, and whether an `Update2` was sent and accepted. -/
structure SaveLedger where
  reads : List (Bytes × Secrets)
  seen : Option ProfileWorld
  failed : Bool
  sent : Bool
  accepted : Bool

namespace SaveLedger

/-- Nothing is done yet. -/
def start : SaveLedger := ⟨[], none, false, false, false⟩

/-- The ledger after one more event. -/
def record (ledger : SaveLedger) : Event saveSig ProfileWorld → SaveLedger
  | ⟨.cache, w, _, _⟩ => { ledger with seen := some w }
  | ⟨.getSecrets setting, _, .ok secrets, _⟩ =>
    { ledger with reads := ledger.reads ++ [(setting, secrets)] }
  | ⟨.getSecrets _, _, .error _, _⟩ => { ledger with failed := true }
  | ⟨.update2 .., _, .ok (), _⟩ => { ledger with sent := true, accepted := true }
  | ⟨.update2 .., _, .error _, _⟩ => { ledger with sent := true }
  | _ => ledger

/-- The value that `GetSecrets` returned for a secret, none where it was not asked for the
setting. -/
def value (ledger : SaveLedger) (setting property : Bytes) : Option Bytes :=
  (ledger.reads.lookup setting).bind (·.value setting property)

end SaveLedger

/-- The ledger of a run. -/
def saveLedger (tr : List (Event saveSig ProfileWorld)) : SaveLedger :=
  tr.foldl SaveLedger.record .start

/-- Worlds with the ledger of the save. -/
abbrev savesLogged : Behaviour saveSig (ProfileWorld × SaveLedger) :=
  saves.monitor SaveLedger.record

/-- An `Update2` that was accepted is among the events. -/
theorem exists_of_accepted {tr : List (Event saveSig ProfileWorld)} {ledger : SaveLedger}
    (h : (tr.foldl SaveLedger.record ledger).accepted = true) : ledger.accepted = true ∨
      ∃ pre request versionId before after post,
        tr = pre ++ ⟨.update2 request versionId, before, .ok (), after⟩ :: post := by
  induction tr generalizing ledger with
  | nil => exact .inl h
  | cons e tr ih =>
    rcases ih h with hrecord | ⟨pre, request, versionId, before, after, post, rfl⟩
    · obtain ⟨o, w, r, w'⟩ := e
      cases o with
      | update2 request versionId =>
        cases r with
        | ok u => exact .inr ⟨[], request, versionId, w, w', tr, rfl⟩
        | error message => exact .inl hrecord
      | getSecrets setting =>
        cases r with
        | ok secrets => exact .inl hrecord
        | error message => exact .inl hrecord
      | turn => exact .inl hrecord
      | cache => exact .inl hrecord
      | addConnection request => exact .inl hrecord
      | notify message => exact .inl hrecord
      | scheduleRefresh delay => exact .inl hrecord
    · exact .inr ⟨e :: pre, request, versionId, before, after, post, rfl⟩

/-! ## Where a save issues what -/

/-- What an `Update2` is sent with: the draft's settings, its secrets over those that were read, and
the version that came with unchanged settings when the cache was last read. -/
structure Justified (w₀ : ProfileWorld) (draft : Connection) (version : ℕ)
    (request : Connection) (versionId : ℕ) (w : ProfileWorld) (ledger : SaveLedger) : Prop where
  current : version = w₀.cache.version
  settings : request.settings = draft.settings
  secrets : ∀ s p, request.secrets.value s p = (draft.secrets.value s p).or (ledger.value s p)
  seen : ∃ u, ledger.seen = some u ∧ u.cache = ⟨w₀.cache.settings, versionId⟩ ∧ u.Grows w
  grows : w₀.Grows w
  complete : ledger.failed = false

/-- Secrets are read before `Update2` only, and `Update2` is sent where it is justified. -/
def SaveIssue (w₀ : ProfileWorld) (draft : Connection) (version : ℕ) :
    SaveCall → ProfileWorld × SaveLedger → Prop
  | .update2 request versionId, σ => Justified w₀ draft version request versionId σ.1 σ.2
  | .getSecrets _, σ => σ.2.sent = false
  | _, _ => True

/-- What a save has come to, with the settings whose secrets it has not looked for yet. -/
structure Progress (w₀ : ProfileWorld) (draft : Connection) (save : SaveProfile)
    (remote : CachedProfile) (rest : List Bytes) (σ : ProfileWorld × SaveLedger) : Prop where
  settings : save.draft.settings = draft.settings
  secrets : ∀ s p, save.draft.secrets.value s p =
    (draft.secrets.value s p).or (σ.2.value s p)
  baseline : save.baseline = w₀.cache.settings
  entered : save.newSecrets = draft.secrets
  unread : rest.Nodup ∧ ∀ s ∈ rest, σ.2.reads.lookup s = none
  seen : ∃ u, σ.2.seen = some u ∧ u.cache = remote ∧ u.Grows σ.1
  grows : w₀.Grows σ.1
  unsent : σ.2.sent = false
  complete : σ.2.failed = false

/-- What a returned save has come to. -/
structure SaveEnded (result : Except SaveError Unit) (ledger : SaveLedger) : Prop where
  saved : result = .ok () → ledger.accepted = true
  refused : ∀ message, result = .error (.busy message) → ledger.sent = false

section Runs

variable {w₀ : ProfileWorld} {draft : Connection} {version : ℕ} {save save' : SaveProfile}
  {remote : CachedProfile} {rest : List Bytes} {setting : Bytes} {σ : ProfileWorld × SaveLedger}

/-- The rule of a request: others move before it is handled and before its reply is dispatched. -/
theorem safe_callAsync {o : SaveCall} {Q : SaveCall.Reply o → ProfileWorld × SaveLedger → Prop}
    (h : ∀ w, σ.1.Grows w → SaveIssue w₀ draft version o (w, σ.2) ∧ ∀ reply w',
      saves o w reply w' → ∀ w'', w'.Grows w'' → Q reply (w'', σ.2.record ⟨o, w, reply, w'⟩)) :
    Safe savesLogged (SaveIssue w₀ draft version) (callAsync o) Q σ := by
  refine ⟨trivial, fun _ σ₁ h₁ => ?_⟩
  obtain ⟨hturn, hledger⟩ := h₁
  obtain ⟨hissue, hreply⟩ := h σ₁.1 (ProfileWorld.grows_turn hturn)
  have hsame : σ₁.2 = σ.2 := hledger
  refine ⟨by rw [← hsame] at hissue; exact hissue, fun reply σ₂ h₂ => ?_⟩
  refine ⟨trivial, fun _ σ₃ h₃ => ?_⟩
  have hlast : σ₃.2 = σ.2.record ⟨o, σ₁.1, reply, σ₂.1⟩ := by
    rw [show σ₃.2 = σ₂.2 from h₃.2, h₂.2, hsame]
  have hQ := hreply reply σ₂.1 h₂.1 σ₃.1 (ProfileWorld.grows_turn h₃.1)
  rw [← hlast] at hQ
  exact hQ

/-- The reading of the cache. -/
theorem safe_cache {Q : CachedProfile → ProfileWorld × SaveLedger → Prop}
    (h : Q σ.1.cache (σ.1, { σ.2 with seen := some σ.1 })) :
    Safe savesLogged (SaveIssue w₀ draft version) (callNow .cache) Q σ := by
  refine safe_request.mpr ⟨trivial, fun cache σ' h' => ?_⟩
  obtain ⟨⟨rfl, hworld⟩, hledger⟩ := h'
  obtain ⟨w, ledger⟩ := σ'
  obtain rfl : w = σ.1 := hworld
  obtain rfl : ledger = { σ.2 with seen := some σ.1 } := hledger
  exact h

/-- The other calls that return at once change nothing. -/
theorem safe_callNow {o : SaveCall} {Q : SaveCall.Reply o → ProfileWorld × SaveLedger → Prop}
    (ho : (∃ message, o = .notify message) ∨ ∃ delay, o = .scheduleRefresh delay)
    (h : ∀ reply, Q reply σ) :
    Safe savesLogged (SaveIssue w₀ draft version) (callNow o) Q σ := by
  obtain ⟨message, rfl⟩ | ⟨delay, rfl⟩ := ho
  · exact safe_request.mpr ⟨trivial, fun reply σ' h' => Prod.ext h'.1 h'.2 ▸ h reply⟩
  · exact safe_request.mpr ⟨trivial, fun reply σ' h' => Prod.ext h'.1 h'.2 ▸ h reply⟩

/-- `secrets_done` leaves every secret as it was entered, or else as it was read. -/
theorem secretsDone_value {secrets : Secrets}
    (h : secretsDone save setting (.ok secrets) = .ok save') :
    save'.draft.settings = save.draft.settings ∧ save'.baseline = save.baseline ∧
      save'.newSecrets = save.newSecrets ∧ ∀ s p, save'.draft.secrets.value s p =
        if s = setting then (save.newSecrets.value s p).or
          ((secrets.value s p).or (save.draft.secrets.value s p))
        else save.draft.secrets.value s p := by
  unfold secretsDone at h
  cases hread : updateSecrets save.draft setting secrets with
  | error message => simp only [hread] at h; cases h
  | ok read =>
    obtain ⟨hsettings, hvalue⟩ := updateSecrets_value hread
    simp only [hread] at h
    cases hnew : save.newSecrets.lookup setting with
    | none =>
      simp only [hnew] at h
      obtain rfl := Except.ok.inj h
      refine ⟨hsettings, rfl, rfl, fun s p => ?_⟩
      rw [hvalue]
      by_cases hs : s = setting
      · subst hs
        have hnone : save.newSecrets.value s p = none := by
          rw [Secrets.value, hnew]
          rfl
        rw [if_pos rfl, if_pos rfl, hnone, Option.none_or]
      · rw [if_neg hs, if_neg hs]
    | some entries =>
      simp only [hnew] at h
      cases hentered : updateSecrets read setting save.newSecrets with
      | error message => simp only [hentered] at h; cases h
      | ok entered =>
        simp only [hentered] at h
        obtain rfl := Except.ok.inj h
        obtain ⟨hsettings', hvalue'⟩ := updateSecrets_value hentered
        refine ⟨hsettings'.trans hsettings, rfl, rfl, fun s p => ?_⟩
        rw [hvalue', hvalue]
        by_cases hs : s = setting
        · rw [if_pos hs, if_pos hs, if_pos hs]
        · rw [if_neg hs, if_neg hs, if_neg hs]

/-- After a setting's secrets were read. -/
theorem Progress.read {secrets : Secrets} {w : ProfileWorld} {ledger : SaveLedger}
    (h : Progress w₀ draft save remote (setting :: rest) σ)
    (hdone : secretsDone save setting (.ok secrets) = .ok save') (hgrows : σ.1.Grows w)
    (hledger : ledger = { σ.2 with reads := σ.2.reads ++ [(setting, secrets)], seen := some w }) :
    Progress w₀ draft save' w.cache rest (w, ledger) := by
  obtain ⟨hsettings, hbaseline, hentered, hvalue⟩ := secretsDone_value hdone
  obtain ⟨hfresh, hunread⟩ := h.unread
  have hlookup (s : Bytes) : ledger.reads.lookup s =
      (σ.2.reads.lookup s).or (if s = setting then some secrets else none) := by
    subst hledger
    rw [List.lookup_append]
    by_cases hs : s = setting
    · rw [if_pos hs, hs, List.lookup_cons_self]
    · rw [if_neg hs, List.lookup_cons, beq_false_of_ne hs]
      rfl
  refine ⟨hsettings.trans h.settings, fun s p => ?_, hbaseline.trans h.baseline,
    hentered.trans h.entered, ⟨(List.nodup_cons.mp hfresh).2, fun s hs => ?_⟩,
    ⟨w, by rw [hledger], rfl, .refl w⟩, h.grows.trans hgrows, by rw [hledger]; exact h.unsent,
    by rw [hledger]; exact h.complete⟩
  · rw [hvalue, h.secrets, h.entered, SaveLedger.value, SaveLedger.value, hlookup]
    by_cases hs : s = setting
    · subst hs
      rw [if_pos rfl, if_pos rfl, hunread s List.mem_cons_self, Option.none_or]
      cases draft.secrets.value s p with
      | some entered => rfl
      | none =>
        simp only [Option.none_or, Option.bind_none, Option.or_none, Option.bind_some]
    · rw [if_neg hs, if_neg hs, Option.or_none]
  · have hne : s ≠ setting := fun heq => (List.nodup_cons.mp hfresh).1 (heq ▸ hs)
    rw [hlookup, hunread s (List.mem_cons_of_mem setting hs), if_neg hne]
    rfl

/-- After a setting whose secrets are left unread. -/
theorem Progress.skip (h : Progress w₀ draft save remote (setting :: rest) σ) :
    Progress w₀ draft save remote rest σ :=
  { h with
    unread := ⟨(List.nodup_cons.mp h.unread.1).2,
      fun s hs => h.unread.2 s (List.mem_cons_of_mem setting hs)⟩ }

/-- What a save that has sent nothing ends with. -/
theorem saveEnded_error {error : SaveError} {ledger : SaveLedger} (h : ledger.sent = false) :
    SaveEnded (.error error) ledger :=
  ⟨nofun, fun _ _ => h⟩

theorem safe_saveUpdate (hversion : version = w₀.cache.version)
    (h : Progress w₀ draft save remote [] σ) :
    Safe savesLogged (SaveIssue w₀ draft version) (saveUpdate save remote)
      (fun result σ' => SaveEnded result σ'.2) σ := by
  unfold saveUpdate
  split
  · exact saveEnded_error h.unsent
  rename_i hsame
  obtain ⟨u, hseen, hcache, hgrows⟩ := h.seen
  refine safe_bind.mpr (safe_callAsync fun w hw => ⟨?_, fun reply w' _ w'' _ => ?_⟩)
  · have hsettings : remote.settings = w₀.cache.settings :=
      (not_not.mp hsame).trans h.baseline
    refine ⟨hversion, h.settings, h.secrets, ⟨u, hseen, ?_, hgrows.trans hw⟩, h.grows.trans hw,
      h.complete⟩
    rw [hcache, ← hsettings]
  · cases reply with
    | error message => exact ⟨nofun, nofun⟩
    | ok u =>
      refine safe_bind.mpr (safe_callNow (.inl ⟨_, rfl⟩) fun _ => ?_)
      exact ⟨fun _ => rfl, nofun⟩

theorem safe_saveNext (hversion : version = w₀.cache.version)
    (h : Progress w₀ draft save remote rest σ) :
    Safe savesLogged (SaveIssue w₀ draft version) (saveNext save remote rest)
      (fun result σ' => SaveEnded result σ'.2) σ := by
  induction rest generalizing save remote σ with
  | nil => exact safe_saveUpdate hversion h
  | cons setting rest ih =>
    unfold saveNext
    split
    · exact ih h.skip
    refine safe_bind.mpr (safe_callAsync fun w hw => ⟨h.unsent, fun reply w' hreply w'' hw'' => ?_⟩)
    obtain ⟨rfl, -⟩ : w' = w ∧ _ := hreply
    cases reply with
    | error message => exact saveEnded_error h.unsent
    | ok secrets =>
      cases hdone : secretsDone save setting (.ok secrets) with
      | error error => exact saveEnded_error h.unsent
      | ok save' =>
        refine safe_bind.mpr (safe_cache (ih (h.read hdone (hw.trans hw'') rfl)))

theorem secretSettings_nodup : secretSettings.Nodup := by decide

theorem safe_saveProfile (hasRemote : Bool) :
    Safe savesLogged (SaveIssue w₀ draft version) (saveProfile hasRemote draft version)
      (fun result σ' => hasRemote = true → SaveEnded result σ'.2) (w₀, .start) := by
  unfold saveProfile
  cases hasRemote with
  | false =>
    rw [if_neg Bool.false_ne_true]
    unfold saveAdd
    refine safe_bind.mpr (safe_callAsync fun w _ => ⟨trivial, fun reply w' _ w'' _ => ?_⟩)
    cases reply with
    | error message => exact nofun
    | ok u =>
      refine safe_bind.mpr (safe_callNow (.inl ⟨_, rfl⟩) fun _ => ?_)
      exact safe_bind.mpr (safe_callNow (.inr ⟨_, rfl⟩) fun _ => nofun)
  | true =>
    rw [if_pos rfl]
    refine safe_bind.mpr (safe_cache ?_)
    split
    · exact fun _ => saveEnded_error rfl
    rename_i hversion
    refine (safe_saveNext (not_not.mp hversion) ?_).mono fun result σ' h _ => h
    refine ⟨rfl, fun s p => (Option.or_none).symm, rfl, rfl, ⟨secretSettings_nodup, fun _ _ => rfl⟩,
      ⟨w₀, rfl, rfl, .refl w₀⟩, .refl w₀, rfl, rfl⟩

end Runs

/-! ## What is overwritten -/

/-- The call is an `Update2`. -/
def SaveCall.IsUpdate : SaveCall → Prop
  | .update2 .. => True
  | _ => False

/-- A `GetSecrets` that failed. -/
def SecretsUnread : Event saveSig ProfileWorld → Prop
  | ⟨.getSecrets _, _, .error _, _⟩ => True
  | _ => False

/-- A save with a failed `GetSecrets` sends no `Update2`. -/
def SaveSteady (σ : ProfileWorld × SaveLedger) : Prop := σ.2.sent = true → σ.2.failed = false

theorem steady_saves {w₀ : ProfileWorld} {draft : Connection} {version : ℕ} {o : SaveCall}
    {σ σ' : ProfileWorld × SaveLedger} {reply : SaveCall.Reply o}
    (hissue : SaveIssue w₀ draft version o σ) (hsteady : SaveSteady σ)
    (h : savesLogged o σ reply σ') : SaveSteady σ' := by
  unfold SaveSteady
  rw [h.2]
  cases o with
  | update2 request versionId =>
    have hcomplete : σ.2.failed = false := hissue.complete
    cases reply with
    | ok u => exact fun _ => hcomplete
    | error message => exact fun _ => hcomplete
  | getSecrets setting =>
    have hunsent : σ.2.sent = false := hissue
    cases reply with
    | ok secrets => exact hsteady
    | error message => exact fun hsent => absurd (hunsent.symm.trans hsent) Bool.false_ne_true
  | turn => exact hsteady
  | cache => exact hsteady
  | addConnection request => exact hsteady
  | notify message => exact hsteady
  | scheduleRefresh delay => exact hsteady

/-- What is once in the ledger stays there. -/
theorem sent_record {ledger : SaveLedger} (e : Event saveSig ProfileWorld)
    (h : ledger.sent = true ∨ e.op.IsUpdate) : (ledger.record e).sent = true := by
  obtain ⟨o, w, r, w'⟩ := e
  cases o with
  | update2 request versionId =>
    cases r with
    | ok u => rfl
    | error message => rfl
  | getSecrets setting =>
    cases r with
    | ok secrets => exact h.resolve_right id
    | error message => exact h.resolve_right id
  | turn => exact h.resolve_right id
  | cache => exact h.resolve_right id
  | addConnection request => exact h.resolve_right id
  | notify message => exact h.resolve_right id
  | scheduleRefresh delay => exact h.resolve_right id

theorem failed_record {ledger : SaveLedger} (e : Event saveSig ProfileWorld)
    (h : ledger.failed = true ∨ SecretsUnread e) : (ledger.record e).failed = true := by
  obtain ⟨o, w, r, w'⟩ := e
  cases o with
  | update2 request versionId =>
    cases r with
    | ok u => exact h.resolve_right id
    | error message => exact h.resolve_right id
  | getSecrets setting =>
    cases r with
    | ok secrets => exact h.resolve_right id
    | error message => rfl
  | turn => exact h.resolve_right id
  | cache => exact h.resolve_right id
  | addConnection request => exact h.resolve_right id
  | notify message => exact h.resolve_right id
  | scheduleRefresh delay => exact h.resolve_right id

/-- What one event of a run puts into the ledger is there at the end. -/
theorem recorded_of_mem {P : SaveLedger → Prop} {R : Event saveSig ProfileWorld → Prop}
    (hrecord : ∀ ledger e, P ledger ∨ R e → P (ledger.record e))
    {tr : List (Event saveSig ProfileWorld)} {e : Event saveSig ProfileWorld} (he : e ∈ tr)
    (hR : R e) : P (saveLedger tr) := by
  have hfold (tr : List (Event saveSig ProfileWorld)) (ledger : SaveLedger)
      (h : P ledger ∨ ∃ e ∈ tr, R e) : P (tr.foldl SaveLedger.record ledger) := by
    induction tr generalizing ledger with
    | nil => exact h.resolve_right (by simp)
    | cons e tr ih =>
      refine ih (ledger.record e) ?_
      rcases h with h | ⟨e', he', h⟩
      · exact .inl (hrecord ledger e (.inl h))
      · rcases List.mem_cons.mp he' with rfl | he'
        · exact .inl (hrecord ledger e' (.inr h))
        · exact .inr ⟨e', he', h⟩
  exact hfold tr .start (.inr ⟨e, he, hR⟩)

/-- An accepted `Update2` has replaced the settings that the draft's version was recorded for, and
left the draft's settings with its secrets over the stored ones. -/
structure Preserves (w : ProfileWorld) (draft : Connection) (version : ℕ)
    (before after : StoredProfile) : Prop where
  recorded : w.Recorded version before.settings
  settings : after.settings = draft.settings
  secrets : ∀ s p, after.secrets.value s p =
    (draft.secrets.value s p).or (before.secrets.value s p)

/-- The settings in libnm's cache were those of the version in it, at the start and where the cache
was last read. -/
def CacheAgrees (w : ProfileWorld) (ledger : SaveLedger) : Prop :=
  w.Agrees ∧ ∀ u, ledger.seen = some u → u.Agrees

/-- What is stored of every secret that was not entered again is what `GetSecrets` has returned, and
nothing where it was not asked; or there is no secret at all to be written. -/
def SecretsUndisturbed (draft : Connection) (ledger : SaveLedger) (before : StoredProfile) : Prop :=
  (∃ s p, (draft.secrets.value s p).or (ledger.value s p) ≠ none) →
    ∀ s p, draft.secrets.value s p = none → before.secrets.value s p = ledger.value s p

/-- What was replaced, where the cache was right about the version both times. -/
theorem Justified.recorded {w₀ w : ProfileWorld} {draft request : Connection}
    {version versionId : ℕ} {ledger : SaveLedger}
    (h : Justified w₀ draft version request versionId w ledger) (hdated : w.Dated)
    (hcache : CacheAgrees w₀ ledger) (hversion : versionId = w.stored.version) :
    w₀.Recorded version w.stored.settings := by
  obtain ⟨u, hseen, hu, hgrows⟩ := h.seen
  obtain ⟨p, hp, hpversion, hpsettings⟩ := hcache.2 u hseen
  rw [hu] at hpversion hpsettings
  have hstored : p = w.stored :=
    hdated.unique (hgrows.1 hp) List.mem_cons_self (hpversion.trans hversion)
  rw [← hstored, hpsettings, h.current]
  exact hcache.1

/-- What an accepted `Update2` keeps of the secrets. -/
theorem Justified.secrets_iff {w₀ w : ProfileWorld} {draft request : Connection}
    {version versionId : ℕ} {ledger : SaveLedger} {after : StoredProfile}
    (h : Justified w₀ draft version request versionId w ledger)
    (hupdates : Updates request w.stored after) :
    (∀ s p, after.secrets.value s p = (draft.secrets.value s p).or (w.stored.secrets.value s p)) ↔
      SecretsUndisturbed draft ledger w.stored := by
  have hvalue : request.secrets.HasValue ↔
      ∃ s p, (draft.secrets.value s p).or (ledger.value s p) ≠ none := by
    simp only [Secrets.HasValue, h.secrets]
  constructor
  · intro hkept hsome s p hentered
    have hafter := hkept s p
    rw [hupdates.supplied (hvalue.mpr hsome), h.secrets, hentered, Option.none_or,
      Option.none_or] at hafter
    exact hafter.symm
  · intro hundisturbed s p
    by_cases hsome : request.secrets.HasValue
    · rw [hupdates.supplied hsome, h.secrets]
      cases hentered : draft.secrets.value s p with
      | some entered => rfl
      | none => rw [hundisturbed (hvalue.mp hsome) s p hentered]
    · -- nothing was entered
      have hentered : draft.secrets.value s p = none := by
        by_contra hentered
        refine hsome (hvalue.mpr ⟨s, p, fun hnone => hentered ?_⟩)
        exact (Option.or_eq_none_iff.mp hnone).1
      rw [hupdates.kept hsome, hentered, Option.none_or]

/-- Where libnm's cache is right about its version, a save keeps what it does not change exactly
where the secrets were not disturbed. A refused save and one that could not read the secrets change
nothing. -/
theorem profileSave_conflicts {hasRemote : Bool} {draft : Connection} {version : ℕ}
    {w w' : ProfileWorld} {tr : List (Event saveSig ProfileWorld)}
    {q : SaveM (Except SaveError Unit)} (hw : w.Reached)
    (hs : Steps saves (saveProfile hasRemote draft version) w tr q w') :
    (∀ pre request versionId before after post,
      tr = pre ++ ⟨.update2 request versionId, before, .ok (), after⟩ :: post →
      after.stored.settings = draft.settings ∧ (CacheAgrees w (saveLedger pre) →
        (Preserves w draft version before.stored after.stored ↔
          SecretsUndisturbed draft (saveLedger pre) before.stored))) ∧
    (hasRemote = true → q = .pure (.ok ()) → ∃ pre request versionId before after post,
      tr = pre ++ ⟨.update2 request versionId, before, .ok (), after⟩ :: post) ∧
    (hasRemote = true → ∀ message, q = .pure (.error (.busy message)) →
      ∀ e ∈ tr, ¬e.op.IsUpdate) ∧
    ((∃ e ∈ tr, SecretsUnread e) → ∀ e ∈ tr, ¬e.op.IsUpdate) ∧
    ∀ e ∈ tr, e.op ≠ .turn → e.after = e.before ∨
      ∃ request, e.op = .update2 request e.before.stored.version := by
  have hsafe := @safe_saveProfile w draft version hasRemote
  obtain ⟨hissued, hreturned⟩ := hsafe.monitored hs
  have hnone (hunsent : (saveLedger tr).sent ≠ true) (e : Event saveSig ProfileWorld)
      (he : e ∈ tr) : ¬e.op.IsUpdate := fun hupdate =>
    hunsent (recorded_of_mem (P := fun ledger => ledger.sent = true)
      (fun ledger e => sent_record e) he hupdate)
  refine ⟨fun pre request versionId before after post htr => ?_, fun hremote hq => ?_,
    fun hremote message hq => hnone ?_, ?_, fun e he hturn => ?_⟩
  · have hjustified := hissued pre _ post htr
    have hbehaved := hs.behaved ⟨.update2 request versionId, before, .ok (), after⟩ (by simp [htr])
    rcases hbehaved with ⟨hrefused, -⟩ | ⟨hversion, stored, hupdates, hafter⟩
    · exact absurd rfl hrefused
    have hstored : after.stored = stored := congrArg ProfileWorld.stored hafter
    have hsettings : after.stored.settings = draft.settings := by
      rw [hstored, hupdates.settings, hjustified.settings]
    have hsecrets := hjustified.secrets_iff hupdates
    rw [← hstored] at hsecrets
    refine ⟨hsettings, fun hcache => ⟨fun h => hsecrets.mp h.secrets, fun h => ?_⟩⟩
    have hdated : before.Dated := hjustified.grows.2 hw.dated
    exact ⟨hjustified.recorded hdated hcache hversion, hsettings, hsecrets.mpr h⟩
  · have haccepted := (hreturned (.ok ()) hq hremote).saved rfl
    exact (exists_of_accepted haccepted).resolve_left Bool.false_ne_true
  · have hunsent : (saveLedger tr).sent = false := (hreturned _ hq hremote).refused message rfl
    rw [hunsent]
    exact Bool.false_ne_true
  · rintro ⟨e, he, hfailed⟩
    refine hnone fun hsent => ?_
    obtain ⟨tr', hs'⟩ := hs.monitor SaveLedger.record .start
    have hsteady := hsafe.invariant (I := SaveSteady) nofun
      (fun o σ reply σ' hissue h hb => steady_saves hissue h hb) hs'
    have hunread : (saveLedger tr).failed = true :=
      recorded_of_mem (P := fun ledger => ledger.failed = true)
        (fun ledger e => failed_record e) he hfailed
    exact Bool.false_ne_true ((hsteady hsent).symm.trans hunread)
  · rcases saves_changes (hs.behaved e he) hturn with hsame | ⟨request, after, ho, -, -⟩
    · exact .inl hsame
    · exact .inr ⟨request, ho⟩

/-! ## Two saves of one profile -/

/-- A profile with dynamic WEP, which has secrets in both settings. -/
def sampleSettings : List Setting :=
  [⟨wirelessSecurityName, [(ascii "key-mgmt", ascii "ieee8021x")]⟩,
    ⟨ieee8021xName, [(ascii "identity", ascii "user")]⟩]

/-- The profile as it was made. -/
def sampleStored : StoredProfile where
  settings := sampleSettings
  secrets :=
    [(wirelessSecurityName, [(ascii "wep-key0", ascii "0123456789")]),
      (ieee8021xName, [(ascii "password", ascii "old")])]
  version := 1

/-- The profile with a key that another client has changed. -/
def sampleChanged : StoredProfile where
  settings := sampleSettings
  secrets :=
    [(wirelessSecurityName, [(ascii "wep-key0", ascii "abcdef0123")]),
      (ieee8021xName, [(ascii "password", ascii "old")])]
  version := 2

/-- The draft has another identity and no secret. -/
def sampleDraft : Connection where
  settings :=
    [⟨wirelessSecurityName, [(ascii "key-mgmt", ascii "ieee8021x")]⟩,
      ⟨ieee8021xName, [(ascii "identity", ascii "guest")]⟩]
  secrets := []

/-- The request has the key of the wireless security. -/
def hasKey (request : Connection) : Bool :=
  (request.secrets.value wirelessSecurityName (ascii "wep-key0")).isSome

/-- `Update2` is accepted with the current version and a key. -/
def sampleUpdate (request : Connection) (versionId : ℕ) (w : ProfileWorld) :
    Except Bytes Unit × ProfileWorld :=
  if versionId = w.stored.version ∧ hasKey request then
    (.ok (), w.store ⟨request.settings, request.secrets, w.stored.version + 1⟩)
  else (.error (ascii "version mismatch"), w)

theorem sampleUpdate_allowed (request : Connection) (versionId : ℕ) (w : ProfileWorld) :
    saves (.update2 request versionId) w (sampleUpdate request versionId w).1
      (sampleUpdate request versionId w).2 := by
  unfold sampleUpdate
  split
  · rename_i h
    have hvalue : request.secrets.HasValue := ⟨_, _, Option.isSome_iff_ne_none.mp h.2⟩
    refine .inr ⟨h.1, _, ⟨rfl, Nat.lt_succ_self _, fun _ => rfl, fun hnone => ?_⟩, rfl⟩
    exact absurd hvalue hnone
  · exact .inl ⟨nofun, rfl⟩

/-- What each call gets where nobody else does anything. -/
def calmSaveAnswer : (o : SaveCall) → ProfileWorld → SaveCall.Reply o × ProfileWorld
  | .cache, w => (w.cache, w)
  | .getSecrets _, w => (.ok w.stored.secrets, w)
  | .update2 request versionId, w => sampleUpdate request versionId w
  | .addConnection _, w => (.ok (), w)
  | .turn, w => ((), w)
  | .notify _, w => ((), w)
  | .scheduleRefresh _, w => ((), w)

theorem calmSaveAnswer_allowed (o : SaveCall) (w : ProfileWorld) :
    saves o w (calmSaveAnswer o w).1 (calmSaveAnswer o w).2 := by
  cases o with
  | turn => exact .refl
  | cache => exact ⟨rfl, rfl⟩
  | getSecrets setting => exact ⟨rfl, fun secrets h => (Except.ok.inj h).symm⟩
  | update2 request versionId => exact sampleUpdate_allowed request versionId w
  | addConnection request => rfl
  | notify message => rfl
  | scheduleRefresh delay => rfl

/-- Nobody else does anything. -/
def calmSaves : Environment saves := ⟨calmSaveAnswer, calmSaveAnswer_allowed⟩

/-- The world after another client's change has reached the cache. -/
def sampleMeddled (w : ProfileWorld) : ProfileWorld :=
  if w.stored.version < sampleChanged.version then
    { w.store sampleChanged with cache := ⟨sampleChanged.settings, sampleChanged.version⟩ }
  else w

theorem sampleMeddled_foreign (w : ProfileWorld) :
    Relation.ReflTransGen ProfileWorld.Foreign w (sampleMeddled w) := by
  unfold sampleMeddled
  split
  · rename_i h
    refine .head (.change sampleChanged h) (.head (.version sampleChanged List.mem_cons_self) ?_)
    exact .single (.settings sampleChanged List.mem_cons_self)
  · exact .refl

/-- In a turn of the main loop another client changes the key. -/
def meddlingAnswer : (o : SaveCall) → ProfileWorld → SaveCall.Reply o × ProfileWorld
  | .turn, w => ((), sampleMeddled w)
  | o, w => calmSaveAnswer o w

theorem meddlingAnswer_allowed (o : SaveCall) (w : ProfileWorld) :
    saves o w (meddlingAnswer o w).1 (meddlingAnswer o w).2 := by
  cases o with
  | turn => exact sampleMeddled_foreign w
  | cache => exact calmSaveAnswer_allowed .cache w
  | getSecrets setting => exact calmSaveAnswer_allowed (.getSecrets setting) w
  | update2 request versionId => exact calmSaveAnswer_allowed (.update2 request versionId) w
  | addConnection request => exact calmSaveAnswer_allowed (.addConnection request) w
  | notify message => exact calmSaveAnswer_allowed (.notify message) w
  | scheduleRefresh delay => exact calmSaveAnswer_allowed (.scheduleRefresh delay) w

/-- Another client's changes come in any turn of the main loop. -/
def meddling : Environment saves := ⟨meddlingAnswer, meddlingAnswer_allowed⟩

theorem sampleStored_reached : (ProfileWorld.created sampleStored).Reached := ⟨_, .refl⟩

/-- The run in which nobody else does anything. -/
def quietSave : List (Event saveSig ProfileWorld) × SaveM (Except SaveError Unit) × ProfileWorld :=
  Environment.runAll [(13, calmSaves)] (saveProfile true sampleDraft 1)
    (ProfileWorld.created sampleStored)

/-- The run in which the key is changed between the two `GetSecrets`. -/
def disturbedSave :
    List (Event saveSig ProfileWorld) × SaveM (Except SaveError Unit) × ProfileWorld :=
  Environment.runAll [(5, calmSaves), (1, meddling), (7, calmSaves)]
    (saveProfile true sampleDraft 1) (ProfileWorld.created sampleStored)

theorem quietSave_steps : Steps saves (saveProfile true sampleDraft 1)
    (ProfileWorld.created sampleStored) quietSave.1 (.pure (.ok ())) quietSave.2.2 := by
  have hs := Environment.steps_runAll [(13, calmSaves)] (saveProfile true sampleDraft 1)
    (ProfileWorld.created sampleStored)
  exact hs.returned (show quietSave.2.1.result = some (.ok ()) by decide +kernel)

theorem disturbedSave_steps : Steps saves (saveProfile true sampleDraft 1)
    (ProfileWorld.created sampleStored) disturbedSave.1 (.pure (.ok ())) disturbedSave.2.2 := by
  have hs := Environment.steps_runAll [(5, calmSaves), (1, meddling), (7, calmSaves)]
    (saveProfile true sampleDraft 1) (ProfileWorld.created sampleStored)
  exact hs.returned (show disturbedSave.2.1.result = some (.ok ()) by decide +kernel)

/-- In a calm run the draft is stored. -/
theorem profileSave_conflicts_sample :
    ∃ pre request versionId before after post,
      quietSave.1 = pre ++ ⟨.update2 request versionId, before, .ok (), after⟩ :: post ∧
      after.stored.settings = sampleDraft.settings ∧
      (CacheAgrees (ProfileWorld.created sampleStored) (saveLedger pre) →
        (Preserves (ProfileWorld.created sampleStored) sampleDraft 1 before.stored after.stored ↔
          SecretsUndisturbed sampleDraft (saveLedger pre) before.stored)) := by
  obtain ⟨hupdates, haccepted, -⟩ := profileSave_conflicts sampleStored_reached quietSave_steps
  obtain ⟨pre, request, versionId, before, after, post, htr⟩ := haccepted rfl rfl
  exact ⟨pre, request, versionId, before, after, post, htr, hupdates _ _ _ _ _ _ htr⟩

/-- The value of the key has been changed by an `Update2`. -/
def undoesKey (e : Event saveSig ProfileWorld) : Bool :=
  match e.op with
  | .update2 .. =>
    decide (e.after.stored.secrets.value wirelessSecurityName (ascii "wep-key0") ≠
      e.before.stored.secrets.value wirelessSecurityName (ascii "wep-key0"))
  | _ => true

/-- A save succeeds although another client has changed the key, and writes the old key. -/
theorem profileSave_undoesKey : ∃ w w' tr,
    w.Reached ∧ Steps saves (saveProfile true sampleDraft 1) w tr (.pure (.ok ())) w' ∧
    ∃ pre request versionId before after post,
      tr = pre ++ ⟨.update2 request versionId, before, .ok (), after⟩ :: post ∧
      ¬Preserves w sampleDraft 1 before.stored after.stored := by
  refine ⟨_, _, _, sampleStored_reached, disturbedSave_steps, ?_⟩
  have haccepted : (saveLedger disturbedSave.1).accepted = true := by decide +kernel
  obtain ⟨pre, request, versionId, before, after, post, htr⟩ :=
    (exists_of_accepted haccepted).resolve_left Bool.false_ne_true
  refine ⟨pre, request, versionId, before, after, post, htr, fun h => ?_⟩
  have hundone : disturbedSave.1.all undoesKey = true := by decide +kernel
  have hkey := List.all_eq_true.mp hundone ⟨.update2 request versionId, before, .ok (), after⟩
    (by rw [htr]; exact List.mem_append_right pre List.mem_cons_self)
  exact of_decide_eq_true hkey (h.secrets wirelessSecurityName (ascii "wep-key0"))

end NmSidebar
