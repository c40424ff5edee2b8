import NmSidebar.Client.ImportOwnership

/-!
# The runs of an import

From the click to the configuration, and every way in which an import ends before: its chooser and
its loader go where its activity goes.
-/

namespace NmSidebar

open Text Effects

/-- What `app.c` and the others do from within a callout, somebody could do. -/
theorem ClientEntry.IsCallback.isCall {e : ClientEntry} (h : e.IsCallback) : e.IsCall := by
  cases e <;> trivial

namespace AwgClient

variable {client client' : AwgClient} {activityId index : ℕ} {loader : ImportLoader}

/-! ## What a loader delivers -/

/-- A loader that was silent delivers once. -/
theorem delivered_complete {delivery : ImportDelivery} (hsilent : loader.deliveries = [])
    (hfits : delivery.Fits loader.activityId) : (loader.complete delivery).Delivered := by
  refine ⟨delivery, ?_, hfits⟩
  show loader.deliveries ++ [delivery] = [delivery]
  rw [hsilent]
  rfl

/-- What is delivered with a failure. -/
theorem fits_failed {result : ImportLoadResult} (hfailed : result ≠ .success)
    (hown : result ≠ .cancelled → client.activity = .importLoad ∧ client.activityId = activityId) :
    (ImportDelivery.mk result none client.activity client.activityId).Fits activityId where
  config := iff_of_false (by simp) hfailed
  sized bytes hbytes := absurd hbytes (by simp)
  own := hown

theorem mapLoader_mapLoader (f g : ImportLoader → ImportLoader) :
    (client.mapLoader index f).mapLoader index g = client.mapLoader index (g ∘ f) := by
  unfold mapLoader
  dsimp only
  rw [List.modify_modify_eq]

theorem getElem?_mapLoader (hloader : client.loaders[index]? = some loader)
    (f : ImportLoader → ImportLoader) :
    (client.mapLoader index f).loaders[index]? = some (f loader) := by
  show (client.loaders.modify index f)[index]? = some (f loader)
  rw [List.getElem?_modify_eq, hloader]
  rfl

theorem importView_disown (hheld : client.importLoader = some index) :
    (client.disown index).importView = client.importView.letGo := by
  unfold disown
  rw [if_pos hheld]
  rfl

/-- The loader that was held has gone through `f` and was let go. -/
theorem importView_release (hheld : client.importLoader = some index)
    (f : ImportLoader → ImportLoader) :
    ((client.mapLoader index f).disown index).importView = client.importView.release index f := by
  rw [@importView_disown (client.mapLoader index f) _ hheld]
  rfl

/-- A loader is completed during the activity of the client. -/
def completing (client : AwgClient) (result : ImportLoadResult) (config : Option Bytes)
    (loader : ImportLoader) : ImportLoader :=
  loader.complete ⟨result, config, client.activity, client.activityId⟩

/-- A load that has not been completed is completed. -/
theorem completeLoad_eq (hloader : client.loaders[index]? = some loader)
    (hpending : loader.completed = false) (result : ImportLoadResult) (config : Option Bytes) :
    client.completeLoad index result config =
      (client.mapLoader index (client.completing result config)).importLoadCb index
        loader.activityId result config := by
  unfold completeLoad
  rw [hloader]
  exact if_neg (by simp [hpending])

/-- A new loader has gone through `f`. -/
theorem importView_withLoader (activityId : ℕ) (f : ImportLoader → ImportLoader) :
    ((client.withLoader activityId).mapLoader client.loaders.length f).importView =
      client.importView.hold (f (.new activityId)) := by
  unfold importView mapLoader withLoader ImportView.hold
  dsimp only
  rw [ImportView.modify_concat]

/-! ## The end of an import -/

/-- An import that the controller does not recognize has ended. -/
theorem free_of_refused (h : client.importView.Bare)
    (hload : client.activity.isImporting = true →
      client.activity = .importLoad ∧ client.activityId = activityId)
    (hrefused : client.activityMatches activityId = false ∨ client.activity ≠ .importLoad) :
    client.importView.Free := by
  refine ⟨h, Bool.eq_false_iff.mpr fun himporting => ?_⟩
  obtain ⟨hactivity, hid⟩ := hload himporting
  rcases hrefused with hfails | hother
  · have hbusy : client.activity ≠ .idle := by simp [hactivity]
    refine Bool.false_ne_true (hfails.symm.trans (activityMatches_iff.mpr ?_))
    exact ⟨(h.running hbusy).1, (h.running hbusy).2, hbusy, hid⟩
  · exact hother hactivity

/-- The configuration that was loaded is imported. -/
theorem freesImport_importLoaded (h : client.importView.Bare)
    (hload : client.activity.isImporting = true →
      client.activity = .importLoad ∧ client.activityId = activityId) (config : Option Bytes) :
    FreesImport id (client.importLoaded activityId config) := by
  unfold importLoaded
  split
  · rename_i hrefused
    exact free_of_refused h hload hrefused
  · dsimp only
    refine FreesImport.bind (freesImport_transitionActivity h (fun himporting =>
      (hload himporting).2) (by simp) rfl _) fun entered hs => ?_
    split
    · exact freesImport_dispatch hs _
    · exact hs

theorem freesImport_importFailed (h : client.importView.Bare)
    (hload : client.activity.isImporting = true →
      client.activity = .importLoad ∧ client.activityId = activityId) {error : ImportError}
    (herror : error ≠ .none) : FreesImport id (client.importFailed activityId error) := by
  unfold importFailed
  split
  · rename_i hrefused
    refine free_of_refused h hload ?_
    rcases hrefused with hfails | hother | hnone
    · exact .inl hfails
    · exact .inr hother
    · exact absurd hnone herror
  · have hview := client.importView_emitNotice
      ⟨.importLoadFailed, .import, 0, error, client.activityName⟩
    refine freesImport_finishImport (by rwa [hview]) (fun himporting => ?_) 1
    have hactivity := congrArg ImportView.activity hview
    have hid := congrArg ImportView.activityId hview
    exact hid.trans (hload (by rwa [← show _ = client.activity from hactivity])).2

theorem controllerImportError_ne_none {result : ImportLoadResult} (hsuccess : result ≠ .success)
    (hcancelled : result ≠ .cancelled) : controllerImportError result ≠ .none := by
  cases result with
  | success => exact absurd rfl hsuccess
  | cancelled => exact absurd rfl hcancelled
  | _ => simp [controllerImportError]

/-- A presenter that stops has no activity any more. -/
theorem idle_of_presenterStopping (h : client.importView.Owned)
    (hstopping : client.presenterStopping = true) : client.activity = .idle := by
  refine h.idle_of_stopping (Bool.eq_true_of_not_eq_false fun hrunning => ?_)
  exact Bool.false_ne_true ((h.listens hrunning).2.symm.trans hstopping)

/-- The callback of a loader ends the import or imports what was loaded. -/
theorem freesImport_importLoadCb (h : (client.disown index).importView.Bare)
    (hload : (client.disown index).activity.isImporting = true →
      (client.disown index).activity = .importLoad ∧
        (client.disown index).activityId = activityId)
    {result : ImportLoadResult} (hresult : result ≠ .cancelled) (config : Option Bytes) :
    FreesImport id (client.importLoadCb index activityId result config) := by
  unfold importLoadCb
  dsimp only
  generalize client.disown index = disowned at h hload
  split
  · rename_i hstopping
    exact h.free_of_idle (idle_of_presenterStopping h.toOwned hstopping)
  split
  · exact freesImport_importLoaded h hload config
  · rename_i hfailed
    exact freesImport_importFailed h hload (controllerImportError_ne_none hfailed hresult)

/-- A load that goes on between callbacks is completed. -/
theorem freesImport_completeLoad (h : client.importView.Owned)
    (hsettled : client.importView.Settled) (hloader : client.loaders[index]? = some loader)
    (hpending : loader.completed = false) {f : ImportLoader → ImportLoader}
    (hf : (f loader).completed = false) (hid : (f loader).activityId = loader.activityId)
    (hsilent : (f loader).deliveries = loader.deliveries) {result : ImportLoadResult}
    (hresult : result ≠ .cancelled) {config : Option Bytes}
    (hconfig : config.isSome = true ↔ result = .success)
    (hsized : ∀ bytes ∈ config, 1 ≤ bytes.length ∧ bytes.length ≤ maxConfigSize) :
    FreesImport id ((client.mapLoader index f).completeLoad index result config) := by
  obtain ⟨hheld, hgoes⟩ := h.pending index loader hloader hpending
  obtain ⟨hactivity, hactivityId, hchooser⟩ := hsettled.loads h hloader hpending
  rw [completeLoad_eq (getElem?_mapLoader hloader f) hf, mapLoader_mapLoader]
  have hdelivered : (client.completing result config (f loader)).Delivered := by
    refine delivered_complete (hsilent.trans hgoes.silent) ⟨hconfig, hsized, fun _ => ?_⟩
    exact ⟨hactivity, hactivityId.trans hid.symm⟩
  have hview := importView_release hheld (client.completing result config ∘ f)
  have hbare : (client.importView.release index (client.completing result config ∘ f)).Bare :=
    ⟨h.release hloader hpending rfl hdelivered, hchooser, rfl⟩
  refine freesImport_importLoadCb (hview.symm ▸ hbare) (fun _ => ?_) hresult config
  exact ⟨(congrArg ImportView.activity hview).trans hactivity,
    (congrArg ImportView.activityId hview).trans (hactivityId.trans hid.symm)⟩

/-- The loader that is held is cancelled: its callback is called, and nothing else happens. -/
theorem leaves_importLoaderCancel (h : client.importView.Owned)
    (hheld : client.importLoader = some index) :
    LeavesImport (client.importLoaderCancel index) fun client' => client'.importView.Owned ∧
      client'.importLoader = none ∧ client'.chooser = client.chooser ∧
        client.importView.Eases client'.importView := by
  obtain ⟨loader, hloader, hpending⟩ := h.held index hheld
  have hloader : client.loaders[index]? = some loader := hloader
  have hgoes := (h.pending index loader hloader hpending).2
  unfold importLoaderCancel
  rw [hloader, Option.all_some, if_neg (by simp [hpending]),
    completeLoad_eq (getElem?_mapLoader hloader .cancel) hpending, mapLoader_mapLoader]
  have hdelivered : (client.completing .cancelled none loader.cancel).Delivered :=
    delivered_complete hgoes.silent (fits_failed (by simp) fun hown => absurd rfl hown)
  have hview := importView_release hheld (client.completing .cancelled none ∘ .cancel)
  have howned : (client.importView.release index
      (client.completing .cancelled none ∘ .cancel)).Owned :=
    h.release hloader hpending rfl hdelivered
  have hdone {client' : AwgClient} (hview : client'.importView =
      client.importView.release index (client.completing .cancelled none ∘ .cancel)) :
      client'.importView.Owned ∧ client'.importLoader = none ∧ client'.chooser = client.chooser ∧
        client.importView.Eases client'.importView := by
    refine ⟨hview.symm ▸ howned, congrArg ImportView.importLoader hview,
      congrArg ImportView.chooser hview, ?_⟩
    rw [hview]
    exact { ImportView.Eases.refl client.importView with }
  unfold importLoadCb
  dsimp only
  split
  · exact hdone hview
  · exact hdone hview

/-- Whatever there is of an import is given up. -/
theorem leaves_cancelImportInteraction (h : client.importView.Owned) :
    LeavesImport client.cancelImportInteraction fun client' => client'.importView.Bare ∧
      client.importView.Eases client'.importView := by
  unfold cancelImportInteraction
  have hunchosen : client.destroyChooser.importView.Owned := h.unchoose
  refine Leaves.bind (keepsImport_setExternalInteraction hunchosen false) fun told hs => ?_
  obtain ⟨hs, htends⟩ := hs
  have hchooser : told.chooser = none :=
    htends.chooser.elim (fun hsame => hsame) fun hnone => hnone
  have heases : client.importView.Eases told.importView := { htends.toEases with }
  split
  · rename_i hnone
    exact ⟨⟨hs, hchooser, hnone⟩, heases⟩
  · rename_i index hheld
    refine (leaves_importLoaderCancel hs hheld).mono fun client' hs' => ?_
    obtain ⟨hs', hnone, hsame, heases'⟩ := hs'
    exact ⟨⟨hs', hsame.trans hchooser, hnone⟩, heases.trans heases'⟩

/-! ## The start of an import -/

/-- A file is loaded, or the import ends. -/
theorem settlesImport_startImportLoad (h : client.importView.Bare)
    (hactivity : client.activity = .importLoad) (hid : client.activityId = activityId) :
    SettlesImport (client.startImportLoad activityId) := by
  have hload (_ : client.activity.isImporting = true) :
      client.activity = .importLoad ∧ client.activityId = activityId := ⟨hactivity, hid⟩
  unfold startImportLoad
  split
  · rename_i hrefused
    rcases hrefused with hstopping | hheld
    · have hidle := idle_of_presenterStopping h.toOwned hstopping
      exact absurd (hactivity.symm.trans hidle) (by simp)
    · rw [show client.importLoader = none from h.unheld] at hheld
      exact absurd hheld (by simp)
  · refine leaves_clientCall fun made => ?_
    split
    · exact (freesImport_importFailed h hload (by simp)).settles
    unfold importLoaderStart
    have hnew : (client.withLoader activityId).loaders[client.loaders.length]? =
        some (.new activityId) := List.getElem?_concat_length
    rw [hnew, Option.all_some, if_neg (by simp [ImportLoader.new])]
    refine leaves_clientCall fun found => ?_
    split
    · refine FreesImport.settles ?_
      rw [completeLoad_eq (getElem?_mapLoader hnew .start) rfl, mapLoader_mapLoader]
      let f := (client.withLoader activityId).completing .notLocal none ∘ .start
      have hview : (((client.withLoader activityId).mapLoader client.loaders.length f).disown
          client.loaders.length).importView = (client.importView.hold (f (.new activityId))).letGo := by
        rw [@importView_disown (mapLoader _ _ _) _ rfl, importView_withLoader]
      have hbare : (client.importView.hold (f (.new activityId))).letGo.Bare :=
        h.letGo rfl (delivered_complete rfl (fits_failed (by simp) fun _ => ⟨hactivity, hid⟩))
      refine freesImport_importLoadCb (hview.symm ▸ hbare) (fun _ => ?_) (by simp) none
      exact ⟨(congrArg ImportView.activity hview).trans hactivity,
        (congrArg ImportView.activityId hview).trans hid⟩
    · rw [mapLoader_mapLoader]
      have hview := client.importView_withLoader activityId (.startReading ∘ .start)
      have howned := @ImportView.Bare.hold _ h (ImportLoader.new activityId).start.startReading rfl
        ⟨rfl, rfl, rfl, rfl⟩
      refine ⟨hview.symm ▸ howned, hview.symm ▸ ⟨?_, ?_⟩⟩
      · show client.chooser = if client.activity = .importSelect then _ else _
        rw [hactivity]
        exact h.unchosen
      · rw [ImportView.heldFor_hold]
        show some activityId = if client.activity = .importLoad then some client.activityId else none
        rw [if_pos hactivity, hid]

/-- The file that was selected is loaded, or the import ends. -/
theorem leaves_importFileSelected (h : client.importView.Bare)
    (hselect : client.activity.isImporting = true →
      client.activity = .importSelect ∧ client.activityId = activityId)
    (basename : Option Bytes) :
    LeavesImport (client.importFileSelected activityId basename) fun selected =>
      (selected.2 = true → selected.1.importView.Bare ∧ selected.1.activity = .importLoad ∧
        selected.1.activityId = activityId) ∧
      (selected.2 = false → selected.1.importView.Free) := by
  have hother (hrefused : client.activityMatches activityId = false ∨
      client.activity ≠ .importSelect) : client.importView.Free := by
    refine ⟨h, Bool.eq_false_iff.mpr fun himporting => ?_⟩
    obtain ⟨hactivity, hid⟩ := hselect himporting
    rcases hrefused with hfails | hother
    · have hbusy : client.activity ≠ .idle := by simp [hactivity]
      refine Bool.false_ne_true (hfails.symm.trans (activityMatches_iff.mpr ?_))
      exact ⟨(h.running hbusy).1, (h.running hbusy).2, hbusy, hid⟩
    · exact hother hactivity
  unfold importFileSelected
  split
  · rename_i hrefused
    exact ⟨by simp, fun _ => hother hrefused⟩
  rename_i hgoes
  obtain ⟨hmatches, hactivity⟩ := not_or.mp hgoes
  have hmatches := activityMatches_iff.mp (Bool.eq_true_of_not_eq_false hmatches)
  have hactivity : client.activity = .importSelect := not_not.mp hactivity
  split
  · have hview := client.importView_emitNotice ⟨.invalidImportFilename, .import, 0, .none, none⟩
    refine Leaves.bind (freesImport_finishImport (hview.symm ▸ h) (fun _ => ?_) 1) fun ended hs => ?_
    · exact (congrArg ImportView.activityId hview).trans hmatches.id
    · exact ⟨by simp, fun _ => hs⟩
  · rename_i name hname
    unfold transitionActivity
    rw [if_neg (by simp [activityMatches_iff.mpr hmatches])]
    have hauthorized : client.authorized = true := h.authorized (by
      rw [show client.importView.activity = .importSelect from hactivity]
      rfl)
    have hentered : (client.entered .importLoad (some name)).importView.Bare :=
      h.enter hmatches.busy fun _ => hauthorized
    refine Leaves.bind (keepsImport_emitChanged hentered.toOwned 1) fun told hs => ?_
    obtain ⟨hs, htends⟩ := hs
    have hbare := hentered.tends hs htends
    have hid : told.activityId = activityId := htends.id.trans hmatches.id
    refine ⟨fun hok => ⟨hbare, ?_, hid⟩, fun hended => ?_⟩
    · exact beq_iff_eq.mp (Bool.and_eq_true_iff.mp hok).2
    · rcases htends.activity with hsame | hidle
      · -- where the activity is still the one that was entered, the answer is yes
        have hsame : told.activity = .importLoad := hsame
        have hbusy : told.activity ≠ .idle := by simp [hsame]
        have hmatches' : told.activityMatches activityId = true := activityMatches_iff.mpr
          ⟨(hs.running hbusy).1, (hs.running hbusy).2, hbusy, hid⟩
        rw [hmatches', hsame] at hended
        exact absurd hended (by simp)
      · exact hbare.free_of_idle hidle

/-- The chooser is answered. -/
theorem settlesImport_fileChooserResponseCb (h : client.importView.Owned)
    (hsettled : client.importView.Settled) (hchooser : client.chooser = some activityId)
    (file : Option (Option Bytes)) :
    SettlesImport (client.fileChooserResponseCb activityId file) := by
  have hselect : client.activity = .importSelect ∧ client.activityId = activityId := by
    have hselect := hsettled.select
    rw [show client.importView.chooser = some activityId from hchooser] at hselect
    split at hselect
    · rename_i hactivity
      exact ⟨hactivity, (Option.some.inj hselect).symm⟩
    · exact absurd hselect (by simp)
  have hunheld : client.importLoader = none := by
    refine h.unheld_of_heldFor ?_
    rw [hsettled.load, if_neg]
    rw [show client.importView.activity = .importSelect from hselect.1]
    simp
  have hbare : client.destroyChooser.importView.Bare := ⟨h.unchoose, rfl, hunheld⟩
  unfold fileChooserResponseCb
  refine Leaves.bind (keepsImport_setExternalInteraction hbare.toOwned false) fun told hs => ?_
  obtain ⟨hs, htends⟩ := hs
  have hbare := hbare.tends hs htends
  have hselect (himporting : told.activity.isImporting = true) :
      told.activity = .importSelect ∧ told.activityId = activityId := by
    refine ⟨?_, htends.id.trans hselect.2⟩
    rcases htends.activity with hsame | hidle
    · exact hsame.trans hselect.1
    · rw [show told.activity = .idle from hidle] at himporting
      exact absurd himporting Bool.false_ne_true
  split
  · rename_i hstopping
    have hfree := hbare.free_of_idle (idle_of_presenterStopping hs hstopping)
    exact ⟨hs, hfree.settled⟩
  split
  · unfold importSelectionCancelled
    split
    · exact (freesImport_finishImport hbare (fun himporting => (hselect himporting).2) 1).settles
    · rename_i hrefused
      have hfree : told.importView.Free := by
        refine ⟨hbare, Bool.eq_false_iff.mpr fun himporting => hrefused ?_⟩
        obtain ⟨hactivity, hid⟩ := hselect himporting
        have hbusy : told.activity ≠ .idle := by simp [hactivity]
        exact ⟨activityMatches_iff.mpr ⟨(hs.running hbusy).1, (hs.running hbusy).2, hbusy, hid⟩,
          hactivity⟩
      exact ⟨hs, hfree.settled⟩
  · rename_i basename
    refine Leaves.bind (leaves_importFileSelected hbare hselect basename) fun selected hs => ?_
    obtain ⟨hloads, hends⟩ := hs
    split
    · rename_i hok
      obtain ⟨hbare, hactivity, hid⟩ := hloads hok
      exact settlesImport_startImportLoad hbare hactivity hid
    · rename_i hok
      have hfree := hends (Bool.eq_false_iff.mpr hok)
      exact ⟨hfree.toOwned, hfree.settled⟩

/-- The chooser is shown, or there is none and the import can end. -/
theorem leaves_emitSelectImport (h : client.importView.Bare)
    (hactivity : client.activity = .importSelect) (hid : client.activityId = activityId) :
    LeavesImport (client.emitSelectImport activityId) fun shown =>
      (shown.2 = true → shown.1.importView.Owned ∧ shown.1.importView.Settled) ∧
      (shown.2 = false → shown.1.importView.Bare ∧ shown.1.activityId = activityId) := by
  unfold emitSelectImport
  split
  · unfold presentImportChooser
    split
    · exact ⟨by simp, fun _ => ⟨h, hid⟩⟩
    refine leaves_clientCall fun made => ?_
    split
    · exact ⟨by simp, fun _ => ⟨h, hid⟩⟩
    have hchosen : (client.withChooser activityId).importView.Owned := h.toOwned.choose activityId
    refine Leaves.bind (keepsImport_setExternalInteraction hchosen true) fun told hs => ?_
    obtain ⟨hs, htends⟩ := hs
    have hunheld : told.importLoader = none :=
      htends.loader.elim (fun hsame => hsame.1.trans h.unheld) fun hnone => hnone
    split
    · have hbare : told.destroyChooser.importView.Bare := ⟨hs.unchoose, rfl, hunheld⟩
      refine Leaves.bind (keepsImport_setExternalInteraction hbare.toOwned false) fun told' hs' => ?_
      exact ⟨by simp, fun _ => ⟨hbare.tends hs'.1 hs'.2, hs'.2.id.trans (htends.id.trans hid)⟩⟩
    · rename_i hgoes
      have hkept : told.chooser ≠ none := fun hnone => hgoes (.inr hnone)
      have himporting : (client.withChooser activityId).importView.activity.isImporting = true := by
        rw [show (client.withChooser activityId).importView.activity = .importSelect from hactivity]
        rfl
      refine ⟨fun _ => ⟨hs, ?_⟩, by simp⟩
      rcases htends.activity with hsame | hidle
      · obtain ⟨hchooser, -, -⟩ := htends.goesOn himporting hsame
        have hactivity : told.importView.activity = .importSelect := hsame.trans hactivity
        refine ⟨?_, ?_⟩
        · rw [hchooser, if_pos hactivity, htends.id]
          exact congrArg some hid.symm
        · rw [ImportView.heldFor_of_unheld hunheld, hactivity]
          rfl
      · exact absurd (htends.ended himporting hidle).1 hkept
  · exact ⟨by simp, fun _ => ⟨h, hid⟩⟩

/-- An import is asked for. -/
theorem settlesImport_controllerImport (h : client.importView.Owned)
    (hsettled : client.importView.Settled) : SettlesImport client.controllerImport := by
  unfold controllerImport
  split
  · exact ⟨h, hsettled⟩
  refine Leaves.bind (leavesImport_operationIsAllowed h _ _ _) fun reply hs => ?_
  have hsettled := hsettled.tends h hs.1 hs.2.1
  split
  · exact ⟨hs.1, hsettled⟩
  split
  · exact ⟨(importView_emitNotice _).symm ▸ hs.1, (importView_emitNotice _).symm ▸ hsettled⟩
  have hbare (hidle : reply.client.activity = .idle) : reply.client.importView.Free :=
    hsettled.free hs.1 (by rw [show reply.client.importView.activity = .idle from hidle]; rfl)
  refine Leaves.bind (leaves_beginActivity hs.1 .import .importSelect none fun hidle =>
    (hbare hidle).toBare) fun begun hs' => ?_
  obtain ⟨hs', ⟨hrefused, htends⟩ | ⟨-, hbegun, htends, hok⟩⟩ := hs'
  · rw [if_pos hrefused]
    exact ⟨hs', hsettled.tends hs.1 hs' htends⟩
  have hbare := hbegun.tends hs' htends
  have hid : begun.1.activityId = reply.client.activityId + 1 := htends.id
  split
  · rename_i hrefused
    have hfree : begun.1.importView.Free := by
      refine ⟨hbare, Bool.eq_false_iff.mpr fun himporting => ?_⟩
      rcases htends.activity with hsame | hidle
      · have hsame : begun.1.activity = .importSelect := hsame
        have hbusy : begun.1.activity ≠ .idle := by simp [hsame]
        have hmatches := activityMatches_iff.mpr
          ⟨(hs'.running hbusy).1, (hs'.running hbusy).2, hbusy, hid⟩
        rw [hmatches, hsame] at hok
        exact absurd (hok.symm.trans hrefused) (by simp)
      · rw [hidle] at himporting
        exact Bool.false_ne_true himporting
    exact ⟨hs', hfree.settled⟩
  · rename_i hbegun
    rw [Bool.eq_true_of_not_eq_false hbegun] at hok
    have hactivity := beq_iff_eq.mp (Bool.and_eq_true_iff.mp hok.symm).2
    refine Leaves.bind (leaves_emitSelectImport hbare hactivity rfl) fun shown hs => ?_
    obtain ⟨hshown, hrefused⟩ := hs
    cases hsecond : shown.2 with
    | true =>
      rw [if_neg (by simp)]
      exact hshown hsecond
    | false =>
      obtain ⟨hbare, hid⟩ := hrefused hsecond
      have hview := shown.1.importView_emitNotice
        ⟨.importChooserUnavailable, .import, 0, .none, none⟩
      split
      · exact (@freesImport_finishImport shown.1.importChooserUnavailable _
          (hview.symm ▸ hbare) (fun _ => (congrArg ImportView.activityId hview).trans hid) 1).settles
      · rename_i hfails
        have hfree : shown.1.importView.Free := by
          refine ⟨hbare, Bool.eq_false_iff.mpr fun himporting => hfails ⟨rfl, ?_⟩⟩
          have hbusy : shown.1.activity ≠ .idle := fun hidle => by
            rw [show shown.1.importView.activity = .idle from hidle] at himporting
            exact Bool.false_ne_true himporting
          exact activityMatches_iff.mpr
            ⟨(hbare.running hbusy).1, (hbare.running hbusy).2, hbusy, hid⟩
        exact ⟨hbare.toOwned, hfree.settled⟩

/-! ## Loads that end by themselves -/

/-- A loader that was completed before learns something. -/
theorem settlesImport_learn (h : client.importView.Owned) (hsettled : client.importView.Settled)
    (hloader : client.loaders[index]? = some loader) (hcompleted : loader.completed = true)
    {f : ImportLoader → ImportLoader} (hsame : (f loader).completed = true)
    (hdeliveries : (f loader).deliveries = loader.deliveries)
    (hid : ∀ loader, (f loader).activityId = loader.activityId) :
    SettlesImport (return client.mapLoader index f) := by
  have howned : (client.importView.learn index f).Owned :=
    h.learn hloader hcompleted hsame hdeliveries (hid loader)
  exact ⟨howned, hsettled.tends h howned (ImportView.tends_learn index hid)⟩

/-- The timer of a loader fires. -/
theorem settlesImport_loadTimeoutCb (h : client.importView.Owned)
    (hsettled : client.importView.Settled) (hloader : client.loaders[index]? = some loader) :
    SettlesImport (client.loadTimeoutCb index) := by
  unfold loadTimeoutCb
  dsimp only
  rw [getElem?_mapLoader hloader, Option.all_some]
  split
  · rename_i hcompleted
    exact settlesImport_learn h hsettled hloader hcompleted hcompleted rfl fun _ => rfl
  · rename_i hpending
    have hpending : loader.completed = false := Bool.eq_false_iff.mpr hpending
    rw [mapLoader_mapLoader]
    exact (freesImport_completeLoad h hsettled hloader hpending hpending rfl rfl (by simp)
      (iff_of_false (by simp) (by simp)) (by simp)).settles

/-- The result of a worker comes to the main loop. -/
theorem settlesImport_importReadCb (h : client.importView.Owned)
    (hsettled : client.importView.Settled) (hloader : client.loaders[index]? = some loader)
    {run : WorkerRun} {result : ImportLoadResult × Option Bytes}
    (hworker : importReadWorker run = some result)
    (hseen : run.SeesCancelled → loader.cancelled = true) (late : Bool) :
    SettlesImport (client.importReadCb index result late) := by
  obtain ⟨hconfig, hsized, hcancelled⟩ := importReadWorker_result hworker
  unfold importReadCb
  dsimp only
  rw [getElem?_mapLoader hloader]
  dsimp only
  split
  · rename_i hcompleted
    exact settlesImport_learn h hsettled hloader hcompleted hcompleted rfl fun _ => rfl
  · rename_i hpending
    have hpending : loader.completed = false := Bool.eq_false_iff.mpr hpending
    have huncancelled := (h.pending index loader hloader hpending).2.uncancelled
    have hstatus : loader.returned.readStatus result.1 late = .timedOut ∨
        loader.returned.readStatus result.1 late = result.1 := by
      unfold ImportLoader.readStatus
      split
      · exact .inl rfl
      · rw [show loader.returned.cancelled = false from huncancelled]
        exact .inr rfl
    generalize loader.returned.readStatus result.1 late = status at hstatus
    refine (freesImport_completeLoad h hsettled hloader hpending hpending rfl rfl ?_ ?_ ?_).settles
    · -- a load that was not cancelled has a worker that has not seen so
      rcases hstatus with rfl | rfl
      · simp
      · intro hresult
        exact Bool.false_ne_true (huncancelled.symm.trans (hseen (hcancelled hresult)))
    · split
      · rename_i hsuccess
        rcases hstatus with rfl | rfl
        · exact absurd hsuccess (by simp)
        · exact hconfig
      · rename_i hfailed
        exact iff_of_false (by simp) hfailed
    · intro bytes hbytes
      split at hbytes
      · exact hsized bytes hbytes
      · exact absurd hbytes (by simp)

/-- The user gives an import up. -/
theorem settlesImport_presenterCancelImport (h : client.importView.Owned)
    (hsettled : client.importView.Settled) : SettlesImport client.presenterCancelImport := by
  unfold presenterCancelImport
  split
  · exact ⟨h, hsettled⟩
  refine Leaves.bind (leaves_cancelImportInteraction h) fun released hs => ?_
  obtain ⟨hbare, -⟩ := hs
  refine FreesImport.settles ?_
  unfold controllerCancelImport
  split
  · have hview := released.importView_emitNotice
      ⟨.importCancelled, .import, 0, .none, released.activityName⟩
    exact freesImport_finishImport (hview.symm ▸ hbare)
      (fun _ => congrArg ImportView.activityId hview) 1
  · rename_i hrefused
    refine ⟨hbare, Bool.eq_false_iff.mpr fun himporting => hrefused ?_⟩
    have hactivity := AwgActivity.isImporting_iff.mp himporting
    have hbusy : released.activity ≠ .idle := by
      rcases hactivity with hactivity | hactivity <;>
        simp [show released.activity = _ from hactivity]
    obtain ⟨hstarted, hstopping⟩ := hbare.running hbusy
    refine ⟨?_, hactivity⟩
    unfold isRunning
    rw [show released.started = true from hstarted, show released.stopping = false from hstopping]
    rfl

/-! ## Authorization -/

theorem importView_withdrawn : (client.withAuthorized false).cancelInteraction.importView =
    client.importView.withdraw := by
  by_cases hends : client.activity.isInteraction = true
  · simp [cancelInteraction, withAuthorized, interrupted, ImportView.withdraw, importView, hends]
  · simp [cancelInteraction, withAuthorized, ImportView.withdraw, importView, hends]

/-- The authorization is withdrawn, and the activity with it that needs the user. -/
theorem leaves_withdrawAuthorization (h : client.importView.Owned) :
    LeavesImport client.withdrawAuthorization fun client' => client'.importView.Owned ∧
      client.importView.withdraw.Tends client'.importView := by
  unfold withdrawAuthorization
  have hview := client.importView_withdrawn
  have howned := hview.symm ▸ h.withdraw
  refine Leaves.bind (leavesImport_callout howned _) fun told hs => ?_
  obtain ⟨hsound, hs, htends⟩ := hs
  rw [hview] at htends
  have hfinished : KeepsImport told told.finishVerified := by
    unfold finishVerified
    split
    · rename_i hverified
      -- what is verified is an operation, and no import
      have hother := AwgActivity.not_isImporting_of_isCommand (hsound.verified hverified).1
      exact keepsImport_finishActivity hs (fun _ himporting =>
        absurd (hother.symm.trans himporting) Bool.false_ne_true) 1
    · exact keepsImport_pure hs
  refine Leaves.bind hfinished fun finished hs' => ?_
  refine Leaves.bind (keepsImport_callout hs'.1 _) fun told' hs'' => leaves_tell ?_
  exact ⟨hs''.1, htends.trans (hs'.2.trans hs''.2)⟩

/-- Where the authorization is lost, the chooser and the loader of an import are given up. -/
theorem keepsImport_dismissLost (h : client.importView.Owned)
    (hother : client.activity.isImporting = false) (lost : Bool) :
    LeavesImport (client.dismissLost lost) fun client' => client'.importView.Owned ∧
      client.importView.Tends client'.importView ∧
        (lost = true → client.isRunning = true →
          client'.chooser = none ∧ client'.importLoader = none) := by
  unfold dismissLost
  split
  · unfold emitDismissAll
    split
    · unfold dismissInteractions
      refine (@leaves_cancelImportInteraction client.clearConfirmation h).mono fun client' hs => ?_
      obtain ⟨hbare, heases⟩ := hs
      have hother (himporting : client.importView.activity.isImporting = true) : False :=
        Bool.false_ne_true (hother.symm.trans himporting)
      refine ⟨hbare.toOwned, ⟨heases, .inr hbare.unchosen, .inr hbare.unheld,
        fun himporting => (hother himporting).elim, fun himporting => (hother himporting).elim⟩,
        fun _ _ => ⟨hbare.unchosen, hbare.unheld⟩⟩
    · rename_i hdeaf
      refine ⟨h, .refl _, fun _ hrunning => absurd ?_ hdeaf⟩
      have hstopping : client.stopping = false := by
        obtain ⟨-, hstopping⟩ := Bool.and_eq_true_iff.mp hrunning
        simpa using hstopping
      unfold uiListens
      rw [hrunning, show client.uiEvent = true from (h.listens hstopping).1]
      rfl
  · rename_i hkept
    exact ⟨h, .refl _, fun hlost => absurd hlost hkept⟩

theorem keepsImport_authorizationSettled (h : client.importView.Owned)
    (changed authorized : Bool) :
    KeepsImport client (client.authorizationSettled changed authorized) :=
  Aspect.keeps_authorizationSettled (A := importAspect) h changed authorized

/-- An import that goes on needs its authorization, and ends with it. -/
theorem keepsImport_setAuthorized (h : client.importView.Owned) (authorized : Bool) :
    KeepsImport client (client.setAuthorized authorized) := by
  unfold setAuthorized
  dsimp only
  split
  · have howned : (client.withAuthorized true).importView.Owned := h.authorize
    refine Leaves.bind (keepsImport_callout howned _) fun told hs => ?_
    have htends : client.importView.Tends told.importView := { hs.2 with }
    exact (keepsImport_authorizationSettled hs.1 _ _).after htends
  · refine Leaves.bind (leaves_withdrawAuthorization h) fun withdrawn hs => ?_
    obtain ⟨hs, htends⟩ := hs
    have hother := htends.other ImportView.not_isImporting_withdraw
    refine Leaves.bind (keepsImport_dismissLost hs hother _) fun dismissed hs' => ?_
    obtain ⟨hs', htends', hgiven⟩ := hs'
    have hended (himporting : client.importView.activity.isImporting = true) :
        dismissed.chooser = none ∧ dismissed.importLoader = none := by
      have hbusy : client.importView.activity ≠ .idle := fun hidle => by
        rw [hidle] at himporting
        exact Bool.false_ne_true himporting
      have hauthorized : client.authorized = true := h.authorized himporting
      obtain ⟨hstarted, hstopping⟩ := h.running hbusy
      refine hgiven ?_ ?_
      · rename_i hlost
        simp only [Bool.not_eq_true] at hlost
        simp [hauthorized, hlost]
      · unfold isRunning
        rw [show withdrawn.started = true from htends.started.trans hstarted,
          show withdrawn.stopping = false from htends.stopping.trans hstopping]
        rfl
    have hview : (dismissed.explainCancelled client.activity).importView =
        dismissed.importView := by
      unfold explainCancelled
      split
      · exact importView_emitNotice _
      · rfl
    refine (keepsImport_authorizationSettled (hview.symm ▸ hs') _ _).after ?_
    rw [hview]
    exact ImportView.tends_withdraw (htends.trans htends') hended

/-! ## What the others tell the controller -/

theorem keepsImport_runtimeSourceChanged (hsound : client.flight.Sound)
    (h : client.importView.Owned) : KeepsImport client client.runtimeSourceChanged := by
  unfold runtimeSourceChanged
  refine leaves_clientCall fun checking => ?_
  split
  · rename_i hverified
    have hother := AwgActivity.not_isImporting_of_isCommand (hsound.verified hverified.2.1).1
    exact keepsImport_finishActivity h (fun _ himporting =>
      absurd (hother.symm.trans himporting) Bool.false_ne_true) 1
  split
  · exact keepsImport_emitChanged h 1
  · exact keepsImport_pure h

/-! ## Start and stop -/

/-- The controller stops, and its activity ends. -/
theorem leaves_controllerStop (h : client.importView.Owned) :
    LeavesImport client.closing.controllerStop fun client' => client'.importView.Owned ∧
      client'.stopping = true := by
  unfold controllerStop
  split
  · rename_i hstopping
    exact ⟨h.deafen hstopping false true, hstopping⟩
  have hdetached : client.closing.detach.importView.Owned := h.stop
  refine Leaves.bind (keepsImport_callout hdetached _) fun told hs => ?_
  have hhalted : told.backendStop.importView.Owned := hs.1
  refine Leaves.bind (keepsImport_callout hhalted _) fun told' hs' => ?_
  have hstopping : told'.stopping = true := hs'.2.stopping.trans hs.2.stopping
  have hdismissed : LeavesImport told'.dismissPresented fun client' => client'.importView.Owned ∧
      client'.stopping = true := by
    unfold dismissPresented
    split
    · refine (@leaves_cancelImportInteraction told'.clearConfirmation hs'.1).mono
        fun client' hs'' => ?_
      exact ⟨hs''.1.toOwned, hs''.2.stopping.trans hstopping⟩
    · exact ⟨hs'.1, hstopping⟩
  refine Leaves.bind hdismissed fun dismissed hs'' => ?_
  exact ⟨hs''.1.deafen hs''.2 false _, hs''.2⟩

theorem settlesImport_presenterStop (h : client.importView.Owned)
    (hsettled : client.importView.Settled) : SettlesImport client.presenterStop := by
  unfold presenterStop
  split
  · exact ⟨h, hsettled⟩
  refine Leaves.bind (leaves_controllerStop h) fun stopped hs => ?_
  refine Leaves.bind (@leaves_cancelImportInteraction stopped.clearConfirmation hs.1)
    fun dismissed hs' => ?_
  have hfree : dismissed.importView.Free :=
    hs'.1.free_of_idle (hs'.1.toOwned.idle_of_stopping (hs'.2.stopping.trans hs.2))
  refine Leaves.bind ((keepsImport_setExternalInteraction hfree.toOwned false).frees hfree)
    fun ended hfree => ?_
  exact ⟨hfree.toOwned, hfree.settled⟩

theorem settlesImport_presenterStart (h : client.importView.Owned)
    (hsettled : client.importView.Settled) : SettlesImport client.presenterStart := by
  unfold presenterStart controllerStart
  split
  · exact ⟨h, hsettled⟩
  split
  · exact ⟨h, hsettled⟩
  rename_i hfresh
  obtain ⟨hstarted, -⟩ := not_or.mp hfresh
  -- a controller that was not started has no activity yet
  have hidle : client.importView.activity = .idle := by
    by_contra hbusy
    exact hstarted (h.running hbusy).1
  have hfree := hsettled.free h (by rw [hidle]; rfl)
  have hrunning : client.presenterBegun.beginRunning.importView.Free :=
    { hfree with running := fun hbusy => absurd hidle hbusy }
  refine leaves_tell (FreesImport.settles
    ((freesImport_callout hrunning .runtimeStart).bind fun told hs => leaves_tell ?_))
  unfold backendStart
  split
  · exact hs
  · exact hs

/-! ## Every run -/

/-- What comes from within a callout keeps the contract. -/
theorem keepsImport_run (hsound : client.flight.Sound) (h : client.importView.Owned)
    {e : ClientEntry} (he : e.IsCallback) : KeepsImport client (e.run client) := by
  cases e with
  | setParent parent toastOverlay =>
    change KeepsImport client (return client.presenterSetParent parent toastOverlay)
    unfold presenterSetParent
    split
    · exact keepsImport_pure h
    · exact ⟨h, .refl _⟩
  | parentDestroyed => exact ⟨h, .refl _⟩
  | requestInventory force => exact Aspect.keeps_requestInventory (A := importAspect) h force
  | setInventoryEnabled enabled =>
    exact Aspect.keeps_setInventoryEnabled (A := importAspect) h enabled
  | authorizationChanged authorized =>
    change KeepsImport client (client.backendAuthorizationChanged authorized)
    unfold backendAuthorizationChanged
    split
    · exact keepsImport_setAuthorized h authorized
    · exact keepsImport_pure h
  | runtimeSourceChanged => exact keepsImport_runtimeSourceChanged hsound h
  | inventoryChanged change purpose =>
    exact Aspect.keeps_inventoryChanged (A := importAspect) h change purpose
  | start => exact he.elim
  | stop => exact he.elim
  | «import» => exact he.elim
  | cancelImport => exact he.elim
  | setActive name active => exact he.elim
  | requestDelete name => exact he.elim
  | chooserResponse file => exact he.elim
  | loadTimeout index => exact he.elim
  | readFinished index run late => exact he.elim
  | confirmationChosen confirmed => exact he.elim
  | flushDeferred => exact he.elim
  | backendResult index result => exact he.elim

/-- An operation that has completed leaves the imports alone. -/
theorem settlesImport_backendResult (hsound : client.flight.Sound) (h : client.importView.Owned)
    (hsettled : client.importView.Settled) {call : BackendCall}
    (hcall : client.inFlight[index]? = some call) (result : BackendResult) :
    SettlesImport ((client.answered index).backendServiceResult result call.action) := by
  obtain ⟨-, howns⟩ := hsound.land hcall
  by_cases hmatches : (client.answered index).activityMatches call.action.activityId = true
  · have hcommand := isCommand_of_command (howns.runs (activityMatches_iff.mp hmatches))
    have hfree := hsettled.free h (AwgActivity.not_isImporting_of_isCommand hcommand)
    exact (@freesImport_serviceResult (client.answered index) hfree result call.action).settles
  · unfold backendServiceResult
    rw [if_pos (Bool.eq_false_iff.mpr hmatches)]
    exact ⟨h, hsettled⟩

/-- Every entry between callbacks leaves a client that is settled. -/
theorem settlesImport_run (hsound : client.flight.Sound) (h : client.importView.Owned)
    (hsettled : client.importView.Settled) {e : ClientEntry} (henabled : e.Enabled client) :
    SettlesImport (e.run client) := by
  by_cases hcallback : e.IsCallback
  · exact (keepsImport_run hsound h hcallback).settles h hsettled
  cases e with
  | start => exact settlesImport_presenterStart h hsettled
  | stop => exact settlesImport_presenterStop h hsettled
  | «import» =>
    change SettlesImport client.presenterImport
    unfold presenterImport
    split
    · exact ⟨h, hsettled⟩
    · exact settlesImport_controllerImport h hsettled
  | cancelImport => exact settlesImport_presenterCancelImport h hsettled
  | setActive name active =>
    change SettlesImport (client.presenterSetActive name active)
    unfold presenterSetActive
    split
    · exact ⟨h, hsettled⟩
    · exact settlesImport_controllerSetActive h hsettled name active
  | requestDelete name =>
    change SettlesImport (client.presenterRequestDelete name)
    unfold presenterRequestDelete
    split
    · exact ⟨h, hsettled⟩
    · exact settlesImport_controllerConfirmDelete h hsettled name
  | chooserResponse file =>
    dsimp only [ClientEntry.run]
    split
    · exact ⟨h, hsettled⟩
    · rename_i hchooser
      exact settlesImport_fileChooserResponseCb h hsettled hchooser file
  | loadTimeout index =>
    obtain ⟨loader, hloader, -⟩ := henabled
    exact settlesImport_loadTimeoutCb h hsettled hloader
  | readFinished index run late =>
    obtain ⟨-, loader, hloader, -, hseen⟩ := henabled
    dsimp only [ClientEntry.run]
    split
    · exact ⟨h, hsettled⟩
    · rename_i hworker
      exact settlesImport_importReadCb h hsettled hloader hworker hseen late
  | confirmationChosen confirmed =>
    dsimp only [ClientEntry.run]
    split
    · exact ⟨h, hsettled⟩
    · exact settlesImport_confirmationChosenCb h hsettled _ _ confirmed
  | flushDeferred =>
    change SettlesImport client.flushDeferredCb
    unfold flushDeferredCb
    split
    · exact ⟨h, hsettled⟩
    · refine leaves_clientCall fun mapped => ?_
      split
      · split <;> exact ⟨h, hsettled⟩
      · split <;> exact ⟨h, hsettled⟩
  | backendResult index result =>
    dsimp only [ClientEntry.run]
    split
    · exact ⟨h, hsettled⟩
    · rename_i call hcall
      exact settlesImport_backendResult hsound h hsettled hcall result
  | setParent parent toastOverlay => exact absurd trivial hcallback
  | parentDestroyed => exact absurd trivial hcallback
  | requestInventory force => exact absurd trivial hcallback
  | setInventoryEnabled enabled => exact absurd trivial hcallback
  | authorizationChanged authorized => exact absurd trivial hcallback
  | runtimeSourceChanged => exact absurd trivial hcallback
  | inventoryChanged change purpose => exact absurd trivial hcallback

theorem owned_new (externalInteraction : Bool) : (new externalInteraction).importView.Owned where
  authorized himporting := absurd himporting Bool.false_ne_true
  running hbusy := absurd rfl hbusy
  listens _ := ⟨rfl, rfl⟩
  held index hmem := absurd hmem (by simp [new, importView])
  pending index loader hmem := absurd hmem (by simp [new, importView])
  delivered loader hmem := absurd hmem (by simp [new, importView])

/-- The client keeps the contract about its imports. -/
theorem import_keptUnder :
    flightContract.KeptUnder importAspect.contract (clientComponent ClientEntry.IsCallback) where
  refl client := .refl client.importView
  trans _ _ _ h h' := h.trans h'
  init := by
    rintro _ ⟨externalInteraction, rfl⟩
    exact ⟨owned_new externalInteraction, rfl, rfl⟩
  nested e client he _ hsound h :=
    (keepsImport_run hsound h he).mono fun _ hs _ => hs
  settled e client henabled hsound h _ hsettled :=
    (settlesImport_run hsound h hsettled henabled).mono fun _ hs _ => hs

/-- Between callbacks the imports of a client are settled. -/
theorem import_settled
    (h : (clientComponent ClientEntry.IsCallback).Reachable (.idle client)) :
    client.importView.Owned ∧ client.importView.Settled := by
  have hkept := (flight_keptBy fun _ he => he.isCall).and import_keptUnder
  obtain ⟨hinvariant, hsettled⟩ := hkept.idle h
  exact ⟨hinvariant.2, hsettled.2⟩

end AwgClient

/-! ## The main result -/

/-- Between callbacks the activity is the selection of a file exactly where the presenter has a
chooser for it, and the load of one exactly where it has a loader that was started for it. A load
that goes on has a timer that will end it; one that has ended has called its callback once, with a
configuration of an admissible size exactly where it succeeded, and only to say that it was cancelled
for another activity than its own. -/
theorem import_neverStrands {client : AwgClient}
    (h : (clientComponent ClientEntry.IsCallback).Reachable (.idle client)) :
    (∀ activityId, client.activity = .importSelect ∧ client.activityId = activityId ↔
      client.chooser = some activityId) ∧
    (∀ activityId, client.activity = .importLoad ∧ client.activityId = activityId ↔
      ∃ index ∈ client.importLoader, ∃ loader ∈ client.loaders[index]?,
        loader.activityId = activityId ∧ loader.started = true ∧ loader.completed = false) ∧
    ∀ index, ∀ loader ∈ client.loaders[index]?,
      (loader.completed = false → client.importLoader = some index ∧ loader.deliveries = [] ∧
        loader.timeoutSource = true) ∧
      (loader.completed = true → ∃ delivery, loader.deliveries = [delivery] ∧
        (delivery.config.isSome = true ↔ delivery.result = .success) ∧
        (∀ bytes ∈ delivery.config, 1 ≤ bytes.length ∧ bytes.length ≤ maxConfigSize) ∧
        (delivery.result ≠ .cancelled →
          delivery.activity = .importLoad ∧ delivery.activityId = loader.activityId)) := by
  obtain ⟨howned, hsettled⟩ := AwgClient.import_settled h
  refine ⟨fun activityId => ?_, fun activityId => ?_, fun index loader hloader => ⟨?_, ?_⟩⟩
  · have hselect : client.chooser = if client.activity = .importSelect then some client.activityId
        else none := hsettled.select
    rw [hselect]
    constructor
    · rintro ⟨hactivity, rfl⟩
      rw [if_pos hactivity]
    · intro hchooser
      split at hchooser
      · rename_i hactivity
        exact ⟨hactivity, Option.some.inj hchooser⟩
      · exact absurd hchooser (by simp)
  · constructor
    · rintro ⟨hactivity, rfl⟩
      have hload : client.importView.heldFor = if client.activity = .importLoad then
          some client.activityId else none := hsettled.load
      rw [if_pos hactivity] at hload
      obtain ⟨loader, hloader, hid⟩ := Option.map_eq_some_iff.mp hload
      obtain ⟨index, hindex, hloader⟩ := Option.bind_eq_some_iff.mp hloader
      obtain ⟨held, hheld, hpending⟩ := howned.held index hindex
      obtain rfl : loader = held := Option.some.inj (hloader.symm.trans hheld)
      exact ⟨index, hindex, loader, hloader, hid,
        (howned.pending index loader hloader hpending).2.begun, hpending⟩
    · rintro ⟨index, -, loader, hloader, rfl, -, hpending⟩
      obtain ⟨hactivity, hid, -⟩ := hsettled.loads howned hloader hpending
      exact ⟨hactivity, hid⟩
  · intro hpending
    obtain ⟨hheld, hgoes⟩ := howned.pending index loader hloader hpending
    exact ⟨hheld, hgoes.silent, hgoes.timed⟩
  · intro hcompleted
    obtain ⟨delivery, hdelivery, hfits⟩ :=
      howned.delivered loader (List.mem_of_getElem? hloader) hcompleted
    exact ⟨delivery, hdelivery, hfits.config, hfits.sized, hfits.own⟩

/-- A file was picked: it is being loaded, and there is no chooser any more. -/
theorem import_neverStrands_load :
    (calmClientEntry (calmClientEntry sampleClient .import)
      (.chooserResponse (some (some (ascii "awg0.conf"))))).activity = .importLoad ∧
    (calmClientEntry (calmClientEntry sampleClient .import)
      (.chooserResponse (some (some (ascii "awg0.conf"))))).chooser ≠ some 1 := by
  have himport := @reachable_calmClientEntry ClientEntry.IsCallback _ sampleClient_reachable
    .import trivial
  have hchooser : (calmClientEntry sampleClient .import).chooser.isSome = true := by
    decide +kernel
  have hpicked := reachable_calmClientEntry himport
    (.chooserResponse (some (some (ascii "awg0.conf")))) hchooser
  obtain ⟨hselect, -, -⟩ := import_neverStrands hpicked
  have hactivity : (calmClientEntry (calmClientEntry sampleClient .import)
      (.chooserResponse (some (some (ascii "awg0.conf"))))).activity = .importLoad := by
    decide +kernel
  refine ⟨hactivity, fun hchooser => ?_⟩
  have hother := ((hselect 1).mpr hchooser).1
  rw [hactivity] at hother
  exact absurd hother (by simp)

end NmSidebar
