import NmSidebar.Gui.ProfileEditor

/-!
# Runs of the sidebar and its editors

Between two callbacks the presenter chooses or edits, and the window is seen exactly when the user
wishes it and nothing blocks it. An explicit hide lasts until an explicit show, and an editor that
was not superseded gives back the sidebar it has hidden.
-/

namespace NmSidebar

open Blocking

namespace Sidebar

/-! ## Between two callbacks -/

/-- What holds between two callbacks of an application that is not shutting down. -/
structure Stable (s : Sidebar) : Prop where
  running : s.app.shuttingDown = false
  settled : s.app.Settled
  state : s.presenter.state = .idle ∨ s.presenter.state = .choosing ∨ s.presenter.state = .editing
  importOwner : .profileImport ∈ s.app.externalInteractionOwners ↔ s.presenter.state = .choosing
  editorOwner : .profileEditor ∉ s.app.externalInteractionOwners
  owed : .profileEditor ∈ s.app.deferredRestoreOwners → s.presenter.state = .editing
  chooser : s.presenter.chooser = true ↔ s.presenter.state = .choosing
  chooserOpen : s.presenter.chooserStopping = false
  pending : s.presenter.session.pending = true ↔ s.presenter.state = .editing
  tracked : s.presenter.session.Tracked
  sessionOpen : s.presenter.session.stopping = false

theorem stable_initial (layerShell : LayerShell) : (initial layerShell).Stable where
  running := rfl
  settled := by
    refine .inr (iff_of_false Bool.false_ne_true ?_)
    exact fun hshown => absurd hshown.1 Bool.false_ne_true
  state := .inl rfl
  importOwner := by simp [initial]
  editorOwner := by simp [initial]
  owed := by simp [initial]
  chooser := by simp [initial]
  chooserOpen := rfl
  pending := by simp [initial, ExternalEditorSession.new]
  tracked := ExternalEditorSession.tracked_new
  sessionOpen := rfl

/-- An application that has done nothing but note acts on the wish. -/
structure Acted (app app' : SidebarApp) (acts : List (Act InteractionOwner)) : Prop where
  running : app'.shuttingDown = false
  settled : app'.Settled
  wish : app'.wish = app.wish.run acts
  failed : app.unsupportedLayerShell = true → app'.unsupportedLayerShell = true

theorem Acted.refl {app : SidebarApp} (hrunning : app.shuttingDown = false) (h : app.Settled) :
    Acted app app [] :=
  ⟨hrunning, h, rfl, id⟩

/-- One more notification. -/
theorem Acted.callback {app app' : SidebarApp} {acts : List (Act InteractionOwner)}
    (h : Acted app app' acts) {owner : InteractionOwner} {event : InteractionEvent}
    (hdefer : event = .interactionDefer → owner ∈ app'.externalInteractionOwners) :
    Acted app (app'.externalInteractionCallback owner event) (acts ++ [event.act owner]) where
  running := by rw [SidebarApp.shuttingDown_externalInteractionCallback, h.running]
  settled := SidebarApp.settled_externalInteractionCallback h.settled hdefer
  wish := by
    rw [SidebarApp.wish_externalInteractionCallback owner event h.running, h.wish]
    exact (List.foldl_concat Wish.step _ _ _).symm
  failed := fun hfailed =>
    SidebarApp.failed_externalInteractionCallback owner event (h.failed hfailed)

/-- An error that is shown. -/
theorem Acted.error {app app' : SidebarApp} {acts : List (Act InteractionOwner)}
    (h : Acted app app' acts) (message : String) :
    Acted app (app'.externalErrorCallback message) acts where
  running := by rw [SidebarApp.shuttingDown_externalErrorCallback, h.running]
  settled := SidebarApp.settled_externalErrorCallback h.settled
  wish := by rw [SidebarApp.wish_externalErrorCallback, h.wish]
  failed := fun hfailed => SidebarApp.failed_externalErrorCallback message (h.failed hfailed)

/-! ## What the presenter does -/

/-- A chooser that is shown takes the place of an editor. -/
theorem importProfile_eq {s : Sidebar} (hstate : s.presenter.state ≠ .stopped)
    (hopen : s.presenter.chooserStopping = false) (hchooser : s.presenter.chooser = false)
    (hparent : s.app.parentSet = true) :
    s.importProfile =
      ⟨(s.app.externalInteractionCallback .profileImport .interactionBegin).externalInteractionCallback
        .profileEditor .interactionCancel,
        { s.presenter with
          state := .choosing
          chooser := true
          session := s.presenter.session.cancel }⟩ := by
  simp [importProfile, chooserInteractionCb, notifyInteraction, setChooser, enter, setSession,
    mapPresenter, mapApp, hstate, hopen, hchooser, hparent]

theorem importCancel_eq {s : Sidebar} (hstate : s.presenter.state ≠ .stopped)
    (hopen : s.presenter.chooserStopping = false) (hchooser : s.presenter.chooser = true) :
    s.importCancel =
      ⟨s.app.externalInteractionCallback .profileImport .interactionEnd,
        { s.presenter with state := .idle, chooser := false }⟩ := by
  simp [importCancel, chooserInteractionCb, notifyInteraction, setChooser, enter, mapPresenter,
    mapApp, hstate, hopen, hchooser]

/-- The application while an editor is launched, once a chooser has been released. -/
def launchingApp (app : SidebarApp) : SidebarApp :=
  (app.externalInteractionCallback .profileEditor .interactionBegin).externalInteractionCallback
    .profileImport .interactionEnd

theorem openEditor_none {s : Sidebar} (hstate : s.presenter.state ≠ .stopped)
    (hopen : s.presenter.session.stopping = false) (hparent : s.app.parentSet = true) :
    s.openEditor none =
      ⟨(launchingApp s.app).externalInteractionCallback .profileEditor .interactionDefer,
        { s.presenter with
          state := .editing
          chooser := false
          session := (s.presenter.session.cancel.openEditor none).1 }⟩ := by
  simp [openEditor, notifyInteraction, setChooser, enter, setSession, mapPresenter, mapApp,
    launchingApp, ExternalEditorSession.openEditor, ExternalEditorSession.cancel, hstate, hopen,
    hparent]

theorem openEditor_some {s : Sidebar} (error : String) (hstate : s.presenter.state ≠ .stopped)
    (hopen : s.presenter.session.stopping = false) (hparent : s.app.parentSet = true) :
    s.openEditor (some error) =
      ⟨((launchingApp s.app).externalInteractionCallback .profileEditor
          .interactionEnd).externalErrorCallback
        ("Could not open nm-connection-editor: " ++ error),
        { s.presenter with
          state := .idle
          chooser := false
          session := (s.presenter.session.cancel.openEditor (some error)).1 }⟩ := by
  simp [openEditor, notifyInteraction, reportError, setChooser, enter, setSession, mapPresenter,
    mapApp, launchingApp, ExternalEditorSession.openEditor, ExternalEditorSession.cancel, hstate,
    hopen, hparent]

/-! ## Steps -/

/-- A step to a stable state, with the acts on the wish that it consists of. -/
structure Moved (s s' : Sidebar) (acts : List (Act InteractionOwner)) : Prop where
  stable : s'.Stable
  wish : s'.app.wish = s.app.wish.run acts
  generation : s.presenter.session.generation ≤ s'.presenter.session.generation
  failed : s.app.unsupportedLayerShell = true → s'.app.unsupportedLayerShell = true

/-- A step of the application alone, which leaves the owners of the presenter alone. -/
theorem Stable.moved_mapApp {s : Sidebar} (h : s.Stable) {app : SidebarApp}
    {acts : List (Act InteractionOwner)} (hacted : Acted s.app app acts)
    (himport : .profileImport ∈ (s.app.wish.run acts).owners ↔
      .profileImport ∈ s.app.wish.owners)
    (heditor : .profileEditor ∉ (s.app.wish.run acts).owners)
    (howed : .profileEditor ∈ (s.app.wish.run acts).deferred →
      .profileEditor ∈ s.app.wish.deferred) : Moved s ⟨app, s.presenter⟩ acts := by
  refine ⟨?_, hacted.wish, Nat.le_refl _, hacted.failed⟩
  have howners : app.externalInteractionOwners = (s.app.wish.run acts).owners :=
    congrArg Wish.owners hacted.wish
  have hdeferred : app.deferredRestoreOwners = (s.app.wish.run acts).deferred :=
    congrArg Wish.deferred hacted.wish
  exact
    { h with
      running := hacted.running
      settled := hacted.settled
      importOwner := by rw [howners, himport]; exact h.importOwner
      editorOwner := by rw [howners]; exact heditor
      owed := by rw [hdeferred]; exact fun hmem => h.owed (howed hmem) }

theorem moved_show {s : Sidebar} (h : s.Stable) :
    Moved s (s.mapApp SidebarApp.showSidebar) [.request] :=
  h.moved_mapApp
    ⟨(SidebarApp.shuttingDown_showSidebar _).trans h.running,
      SidebarApp.settled_showSidebar h.settled, SidebarApp.wish_showSidebar _,
      fun hfailed => SidebarApp.failed_presentSidebar true hfailed⟩
    Iff.rfl h.editorOwner fun hmem => absurd hmem (Finset.notMem_empty _)

theorem moved_hide {s : Sidebar} (h : s.Stable) :
    Moved s (s.mapApp SidebarApp.hideSidebar) [.dismiss] :=
  h.moved_mapApp
    ⟨h.running, SidebarApp.settled_hideSidebar _, SidebarApp.wish_hideSidebar _, id⟩
    Iff.rfl h.editorOwner fun hmem => absurd hmem (Finset.notMem_empty _)

/-- The application goes on as it was, but for what does not matter here. -/
theorem Stable.moved_same {s : Sidebar} (h : s.Stable) {app : SidebarApp}
    (hwish : app.wish = s.app.wish) (hrunning : app.shuttingDown = s.app.shuttingDown)
    (hsettled : app.Settled)
    (hfailed : s.app.unsupportedLayerShell = true → app.unsupportedLayerShell = true) :
    Moved s ⟨app, s.presenter⟩ [] :=
  h.moved_mapApp ⟨hrunning.trans h.running, hsettled, hwish, hfailed⟩ Iff.rfl h.editorOwner id

theorem moved_toggle {s : Sidebar} (h : s.Stable) :
    Moved s (s.mapApp SidebarApp.toggleSidebar) [] ∧
        s.app.toggleSidebar.unsupportedLayerShell = true ∨
      Moved s (s.mapApp SidebarApp.toggleSidebar) [.dismiss] ∧
        s.app.sidebarRequestedVisible = true ∨
      Moved s (s.mapApp SidebarApp.toggleSidebar) [.request] ∧
        s.app.sidebarRequestedVisible = false := by
  obtain ⟨app, hwish, hshutting, hsettled, hfailed, hcases⟩ := SidebarApp.toggleSidebar_cases h.settled
  have hsame : Moved s ⟨app, s.presenter⟩ [] := h.moved_same hwish hshutting hsettled hfailed
  unfold mapApp
  rcases hcases with ⟨heq, hunsupported⟩ | ⟨heq, hrequested⟩ | ⟨heq, hrequested⟩
  · rw [heq]
    exact .inl ⟨hsame, hunsupported⟩
  · rw [heq]
    refine .inr (.inl ⟨?_, hrequested⟩)
    have hhide := moved_hide hsame.stable
    exact ⟨hhide.stable, hhide.wish.trans (congrArg (Wish.run · _) hwish), hhide.generation,
      fun h => hhide.failed (hfailed h)⟩
  · rw [heq]
    refine .inr (.inr ⟨?_, hrequested⟩)
    have hshow := moved_show hsame.stable
    exact ⟨hshow.stable, hshow.wish.trans (congrArg (Wish.run · _) hwish), hshow.generation,
      fun h => hshow.failed (hfailed h)⟩

theorem moved_amneziawg {s : Sidebar} (h : s.Stable) (active : Bool) :
    Moved s (s.mapApp (·.amneziawgInteractionCallback active))
      [if active then .block .amneziawgImport else .release .amneziawgImport] := by
  have hrefl := Acted.refl h.running h.settled
  have heditor : .profileEditor ∉ s.app.wish.owners := h.editorOwner
  cases active with
  | true =>
    have hacted := @Acted.callback _ _ _ hrefl .amneziawgImport .interactionBegin (by simp)
    exact h.moved_mapApp hacted (by simp [Wish.step]) (by simpa [Wish.step] using heditor)
      (by simp [Wish.step])
  | false =>
    have hacted := @Acted.callback _ _ _ hrefl .amneziawgImport .interactionEnd (by simp)
    exact h.moved_mapApp hacted (by simp [Wish.step]) (by simpa [Wish.step] using heditor)
      (by simp [Wish.step])

/-! ## Steps of the presenter -/

theorem Stable.ne_stopped {s : Sidebar} (h : s.Stable) : s.presenter.state ≠ .stopped := by
  rcases h.state with hstate | hstate | hstate <;> rw [hstate] <;> simp

/-- An error is shown. -/
theorem moved_error {s : Sidebar} (h : s.Stable) (message : String) :
    Moved s (s.reportError message) [] := by
  unfold reportError
  rw [if_neg h.ne_stopped]
  have hacted := (Acted.refl h.running h.settled).error message
  exact h.moved_same hacted.wish (hacted.running.trans h.running.symm) hacted.settled
    hacted.failed

/-- The presenter enters a state, after acts on the wish that leave its owners right. -/
theorem Stable.moved_enter {s : Sidebar} (h : s.Stable) {app : SidebarApp}
    {acts : List (Act InteractionOwner)} (hacted : Acted s.app app acts)
    {state : ProfileEditorState} (hstate : state = .idle ∨ state = .choosing ∨ state = .editing)
    {session : ExternalEditorSession} (htracked : session.Tracked)
    (hopen : session.stopping = false)
    (hgeneration : s.presenter.session.generation ≤ session.generation)
    (hpending : session.pending = true ↔ state = .editing)
    (himport : .profileImport ∈ (s.app.wish.run acts).owners ↔ state = .choosing)
    (heditor : .profileEditor ∉ (s.app.wish.run acts).owners)
    (howed : .profileEditor ∈ (s.app.wish.run acts).deferred → state = .editing) :
    Moved s
      ⟨app, { s.presenter with
        state := state
        chooser := decide (state = .choosing)
        session := session }⟩ acts := by
  refine ⟨?_, hacted.wish, hgeneration, hacted.failed⟩
  have howners : app.externalInteractionOwners = (s.app.wish.run acts).owners :=
    congrArg Wish.owners hacted.wish
  have hdeferred : app.deferredRestoreOwners = (s.app.wish.run acts).deferred :=
    congrArg Wish.deferred hacted.wish
  exact
    { running := hacted.running
      settled := hacted.settled
      state := hstate
      importOwner := by rw [howners]; exact himport
      editorOwner := by rw [howners]; exact heditor
      owed := by rw [hdeferred]; exact howed
      chooser := decide_eq_true_iff
      chooserOpen := h.chooserOpen
      pending := hpending
      tracked := htracked
      sessionOpen := hopen }

/-- A chooser is shown, or there is one already, or it cannot be shown. -/
theorem moved_importProfile {s : Sidebar} (h : s.Stable) :
    Moved s s.importProfile [] ∨
      Moved s s.importProfile [.block .profileImport, .abandon .profileEditor] := by
  by_cases hchooser : s.presenter.chooser = true
  · left
    have hsame : s.importProfile = s := by
      simp [importProfile, hchooser]
    rw [hsame]
    exact h.moved_same rfl rfl h.settled id
  · by_cases hparent : s.app.parentSet = true
    · right
      rw [importProfile_eq h.ne_stopped h.chooserOpen (Bool.eq_false_iff.mpr hchooser) hparent]
      have hrefl := Acted.refl h.running h.settled
      have hbegin := @Acted.callback _ _ _ hrefl .profileImport .interactionBegin (by simp)
      have hacted := @Acted.callback _ _ _ hbegin .profileEditor .interactionCancel (by simp)
      exact h.moved_enter hacted (.inr (.inl rfl))
        (ExternalEditorSession.tracked_cancel h.tracked) h.sessionOpen (Nat.le_succ _)
        (by simp [ExternalEditorSession.cancel]) (by simp [Wish.step, InteractionEvent.act])
        (by simp [Wish.step, InteractionEvent.act]) (by simp [Wish.step, InteractionEvent.act])
    · left
      have herror : s.importProfile = s.reportError "Could not show VPN import dialog" := by
        simp [importProfile, h.ne_stopped, h.chooserOpen, hchooser, hparent]
      rw [herror]
      exact moved_error h _

/-- A chooser is released. -/
theorem Stable.moved_release {s : Sidebar} (h : s.Stable) (hstate : s.presenter.state = .choosing) :
    Moved s
      ⟨s.app.externalInteractionCallback .profileImport .interactionEnd,
        { s.presenter with state := .idle, chooser := false }⟩ [.release .profileImport] := by
  have hrefl := Acted.refl h.running h.settled
  have hacted := @Acted.callback _ _ _ hrefl .profileImport .interactionEnd (by simp)
  have hpending : ¬s.presenter.session.pending = true := by
    rw [h.pending, hstate]
    simp
  have howed : .profileEditor ∉ s.app.wish.deferred := by
    intro hmem
    have hediting := h.owed hmem
    rw [hstate] at hediting
    exact absurd hediting (by simp)
  have heditor : .profileEditor ∉ s.app.wish.owners := h.editorOwner
  exact h.moved_enter hacted (.inl rfl) h.tracked h.sessionOpen (Nat.le_refl _)
    (iff_of_false hpending (by simp)) (by simp [Wish.step, InteractionEvent.act])
    (by simpa [Wish.step, InteractionEvent.act] using heditor)
    (by simpa [Wish.step, InteractionEvent.act] using howed)

/-- A chooser that is cancelled is released. -/
theorem moved_importCancel {s : Sidebar} (h : s.Stable) :
    Moved s s.importCancel [] ∧ s.importCancel = s ∧ s.presenter.state ≠ .choosing ∨
      Moved s s.importCancel [.release .profileImport] ∧
        s.importCancel.presenter.state = .idle := by
  by_cases hchooser : s.presenter.chooser = true
  · right
    rw [importCancel_eq h.ne_stopped h.chooserOpen hchooser]
    exact ⟨h.moved_release (h.chooser.mp hchooser), rfl⟩
  · left
    have hsame : s.importCancel = s := by
      simp [importCancel, hchooser]
    rw [hsame]
    exact ⟨h.moved_same rfl rfl h.settled id, rfl, fun hstate => hchooser (h.chooser.mpr hstate)⟩

/-- While an editor is launched, it is the owner in place of the chooser. -/
theorem Acted.launching {app : SidebarApp} (hrunning : app.shuttingDown = false)
    (h : app.Settled) :
    Acted app (launchingApp app) [.block .profileEditor, .release .profileImport] ∧
      .profileEditor ∈ (launchingApp app).externalInteractionOwners := by
  have hbegin := @Acted.callback _ _ _ (Acted.refl hrunning h) .profileEditor .interactionBegin (by simp)
  have hend := @Acted.callback _ _ _ hbegin .profileImport .interactionEnd (by simp)
  refine ⟨hend, ?_⟩
  have howners : (launchingApp app).externalInteractionOwners = _ := congrArg Wish.owners hend.wish
  rw [howners]
  simp [Wish.step, InteractionEvent.act]

/-- An editor is launched, or the launch fails. -/
theorem moved_openEditor {s : Sidebar} (h : s.Stable) (chooser : Bool) (spawn : Option String)
    (hparent : s.app.parentSet = true) :
    spawn = none ∧ ((s.setChooser chooser).openEditor spawn).presenter.state = .editing ∧
        Moved s ((s.setChooser chooser).openEditor spawn)
          [.block .profileEditor, .release .profileImport, .defer .profileEditor] ∨
      spawn ≠ none ∧ Moved s ((s.setChooser chooser).openEditor spawn)
        [.block .profileEditor, .release .profileImport, .release .profileEditor] := by
  obtain ⟨hlaunching, howner⟩ := Acted.launching h.running h.settled
  have htracked := ExternalEditorSession.tracked_cancel h.tracked
  obtain ⟨htracked', hopen', -, hpending'⟩ :=
    ExternalEditorSession.openEditor_cases spawn htracked h.sessionOpen
  have hgeneration : s.presenter.session.generation ≤
      (s.presenter.session.cancel.openEditor spawn).1.generation := by
    unfold ExternalEditorSession.openEditor
    rw [if_neg (by rw [show s.presenter.session.cancel.stopping = false from h.sessionOpen]; simp)]
    cases spawn with
    | none => exact Nat.le_add_right _ 2
    | some error => exact Nat.le_add_right _ 2
  cases spawn with
  | none =>
    left
    rw [@openEditor_none (s.setChooser chooser) h.ne_stopped h.sessionOpen hparent]
    have hacted := @Acted.callback _ _ _ hlaunching .profileEditor .interactionDefer fun _ => howner
    refine ⟨rfl, rfl, h.moved_enter hacted (.inr (.inr rfl)) htracked' hopen' hgeneration
      (iff_of_true (hpending'.mpr rfl) rfl) ?_ ?_ fun _ => rfl⟩
    · simp [Wish.step, InteractionEvent.act]
    · simp [Wish.step, InteractionEvent.act]
  | some error =>
    right
    rw [@openEditor_some (s.setChooser chooser) error h.ne_stopped h.sessionOpen hparent]
    have hend := @Acted.callback _ _ _ hlaunching .profileEditor .interactionEnd (by simp)
    have hacted := hend.error ("Could not open nm-connection-editor: " ++ error)
    refine ⟨by simp, h.moved_enter hacted (.inl rfl) htracked' hopen' hgeneration
      (iff_of_false (fun hpending => ?_) (by simp)) ?_ ?_ fun hmem => ?_⟩
    · exact absurd (hpending'.mp hpending) (by simp)
    · simp [Wish.step, InteractionEvent.act]
    · simp [Wish.step, InteractionEvent.act]
    · exact absurd hmem (by simp [Wish.step, InteractionEvent.act])

/-- The acts of an event that may launch an editor. -/
def launchActs : List (List (Act InteractionOwner)) :=
  [[], [.release .profileImport],
    [.block .profileEditor, .release .profileImport, .defer .profileEditor],
    [.block .profileEditor, .release .profileImport, .release .profileEditor]]

/-- A launch that the user or an action asks for. -/
theorem moved_launch {s : Sidebar} (h : s.Stable) (spawn : Option String) :
    ∃ acts ∈ launchActs, Moved s (s.requestEditor spawn) acts := by
  unfold requestEditor
  rw [if_neg (by rw [h.running]; exact Bool.false_ne_true)]
  by_cases hparent : s.app.parentSet = true
  · rcases moved_openEditor h s.presenter.chooser spawn hparent with ⟨-, -, hmoved⟩ | ⟨-, hmoved⟩
    · exact ⟨_, by simp [launchActs], hmoved⟩
    · exact ⟨_, by simp [launchActs], hmoved⟩
  · have hopen : s.openEditor spawn =
        if s.importCancel.presenter.state = .choosing then
          (s.importCancel.enter .idle).notifyInteraction .profileImport .interactionEnd
        else s.importCancel := by
      unfold openEditor
      rw [if_neg h.ne_stopped, if_pos (Bool.eq_false_iff.mpr hparent)]
    rw [hopen]
    rcases moved_importCancel h with ⟨hmoved, hsame, hstate⟩ | ⟨hmoved, hstate⟩
    · rw [if_neg (by rw [hsame]; exact hstate)]
      exact ⟨_, by simp [launchActs], hmoved⟩
    · rw [if_neg (by rw [hstate]; simp)]
      exact ⟨_, by simp [launchActs], hmoved⟩

/-- The answer of a chooser releases it, or launches an editor in its place. -/
theorem moved_importResponse {s : Sidebar} (h : s.Stable) (response : ChooserResponse)
    (spawn : Option String) :
    ∃ acts ∈ launchActs, Moved s (s.importResponse response spawn) acts ∧
      (response ≠ .accepted true → acts = [] ∨ acts = [.release .profileImport]) := by
  unfold importResponse
  by_cases hchooser : s.presenter.chooser = true
  · rw [if_neg (by simp [h.chooserOpen, hchooser])]
    have hstate := h.chooser.mp hchooser
    rcases moved_importCancel h with ⟨-, -, hother⟩ | ⟨hcancel, -⟩
    · exact absurd hstate hother
    · cases response with
      | dismissed => exact ⟨_, by simp [launchActs], hcancel, fun _ => .inr rfl⟩
      | accepted hasPath =>
        cases hasPath with
        | false =>
          have herror := moved_error hcancel.stable "Select a local VPN configuration file"
          exact ⟨_, by simp [launchActs],
            ⟨herror.stable, herror.wish.trans hcancel.wish,
              hcancel.generation.trans herror.generation,
              fun hfailed => herror.failed (hcancel.failed hfailed)⟩, fun _ => .inr rfl⟩
        | true =>
          dsimp only
          rw [if_pos (show (s.setChooser false).presenter.state = .choosing from hstate)]
          by_cases hparent : s.app.parentSet = true
          · rcases moved_openEditor h false spawn hparent with ⟨-, -, hmoved⟩ | ⟨-, hmoved⟩
            · exact ⟨_, by simp [launchActs], hmoved, fun hne => absurd rfl hne⟩
            · exact ⟨_, by simp [launchActs], hmoved, fun hne => absurd rfl hne⟩
          · -- the window has gone, so that the selection only releases the chooser
            have hopen : (s.setChooser false).openEditor spawn =
                ⟨s.app.externalInteractionCallback .profileImport .interactionEnd,
                  { s.presenter with state := .idle, chooser := false }⟩ := by
              simp [openEditor, importCancel, notifyInteraction, enter, setChooser, mapPresenter,
                mapApp, hstate, hparent]
            rw [hopen]
            exact ⟨_, by simp [launchActs], h.moved_release hstate, fun _ => .inr rfl⟩
  · rw [if_pos (by simp [hchooser])]
    exact ⟨_, by simp [launchActs], h.moved_same rfl rfl h.settled id, fun _ => .inl rfl⟩

/-! ## Steps of the editor's session -/

/-- A callback of the session goes on, or it ends the editor. -/
theorem moved_sessionCallback {s : Sidebar} (h : s.Stable)
    {result : ExternalEditorSession × Option (Option String)}
    (ho : s.presenter.session.Outcome result) :
    result.2 = none ∧ Moved s (s.sessionCallback result) [] ∧
        (s.sessionCallback result).presenter.session.generation =
          s.presenter.session.generation ∨
      result.2 ≠ none ∧ Moved s (s.sessionCallback result) [.release .profileEditor] ∧
        (s.sessionCallback result).presenter.session.generation =
          s.presenter.session.generation + 1 := by
  obtain ⟨session, completed⟩ := result
  obtain ⟨htracked, hstopping, hkept, hended⟩ := ho
  have hopen : session.stopping = false := hstopping.trans h.sessionOpen
  cases completed with
  | none =>
    left
    obtain ⟨hpending, hgeneration⟩ := hkept rfl
    refine ⟨rfl, ⟨?_, rfl, hgeneration.ge, id⟩, hgeneration⟩
    exact
      { h with
        pending := by
          show session.pending = true ↔ _
          rw [hpending]
          exact h.pending
        tracked := htracked
        sessionOpen := hopen }
  | some message =>
    right
    obtain ⟨hpending, hpending', hgeneration⟩ := hended (by simp)
    have hstate := h.pending.mp hpending
    have hchooser : s.presenter.chooser = false := by
      rw [Bool.eq_false_iff, ne_eq, h.chooser, hstate]
      simp
    have hrelease := @Acted.callback _ _ _ (Acted.refl h.running h.settled) .profileEditor
      .interactionEnd (by simp)
    -- the message, where there is one, changes nothing that matters
    obtain ⟨app, hacted, happ⟩ : ∃ app, Acted s.app app [.release .profileEditor] ∧
        (s.setSession session).editorCompleted message =
          ⟨app, { s.presenter with state := .idle, chooser := false, session := session }⟩ := by
      cases message with
      | none =>
        exact ⟨_, hrelease, by
          simp [editorCompleted, setSession, notifyInteraction, enter, mapPresenter, mapApp, hstate,
            ← hchooser]⟩
      | some message =>
        exact ⟨_, hrelease.error message, by
          simp [editorCompleted, setSession, notifyInteraction, reportError, enter, mapPresenter,
            mapApp, hstate, ← hchooser]⟩
    refine ⟨by simp, ?_, ?_⟩
    · show Moved s ((s.setSession session).editorCompleted message) _
      rw [happ]
      have himport : .profileImport ∉ s.app.wish.owners := by
        intro hmem
        have hchoosing := h.importOwner.mp hmem
        rw [hstate] at hchoosing
        exact absurd hchoosing (by simp)
      refine h.moved_enter hacted (.inl rfl) htracked hopen (by rw [hgeneration]; exact Nat.le_succ _)
        (iff_of_false (by rw [hpending']; simp) (by simp)) ?_ ?_ ?_
      · simpa [Wish.step] using himport
      · simp [Wish.step]
      · simp [Wish.step]
    · show ((s.setSession session).editorCompleted message).presenter.session.generation = _
      rw [happ]
      exact hgeneration

end Sidebar

/-! ## Events -/

namespace SidebarEvent

/-- The user asks for the sidebar, or to hide it. -/
def IsExplicit (e : SidebarEvent) : Prop :=
  e = .showCommand ∨ e = .hideCommand ∨ e = .toggleCommand

/-- The event may launch an editor. -/
def Launches (e : SidebarEvent) : Prop :=
  (∃ spawn, e = .launch spawn) ∨ ∃ spawn, e = .chooserResponse (.accepted true) spawn

/-- The event takes the place of an editor that is still open: a launch, even one that fails, or a
chooser. -/
def Supersedes (e : SidebarEvent) : Prop := (∃ spawn, e = .launch spawn) ∨ e = .importProfile

/-- The event is a callback of the editor's session. -/
def OfEditor : SidebarEvent → Prop
  | .editorExited _ _ => True
  | .busReady _ _ => True
  | .ownerReply _ _ => True
  | .ownerAppeared _ => True
  | .ownerVanished => True
  | _ => False

/-- The acts on the wish that an event may consist of. -/
def acts : SidebarEvent → List (List (Act InteractionOwner))
  | .showCommand => [[.request]]
  | .hideCommand => [[.dismiss]]
  | .toggleCommand => [[], [.dismiss], [.request]]
  | .importProfile => [[], [.block .profileImport, .abandon .profileEditor]]
  | .chooserResponse (.accepted true) _ => Sidebar.launchActs
  | .chooserResponse _ _ => [[], [.release .profileImport]]
  | .launch _ => Sidebar.launchActs
  | .editorExited _ _ => [[], [.release .profileEditor]]
  | .busReady _ _ => [[], [.release .profileEditor]]
  | .ownerReply _ _ => [[], [.release .profileEditor]]
  | .ownerAppeared _ => [[], [.release .profileEditor]]
  | .ownerVanished => [[], [.release .profileEditor]]
  | .amneziawgInteraction _ => [[.block .amneziawgImport], [.release .amneziawgImport]]
  | .parentChanged _ => [[]]
  | .layerShellChanged _ => [[]]
  | .shutdown => []

/-- Only an explicit command requests the sidebar. -/
theorem ne_request {e : SidebarEvent} (hshow : e ≠ .showCommand) (htoggle : e ≠ .toggleCommand)
    {acts : List (Act InteractionOwner)} (hacts : acts ∈ e.acts) : ∀ a ∈ acts, a ≠ .request := by
  have hlaunch : ∀ acts ∈ Sidebar.launchActs, ∀ a ∈ acts, a ≠ .request := by
    simp [Sidebar.launchActs]
  cases e with
  | showCommand => exact absurd rfl hshow
  | toggleCommand => exact absurd rfl htoggle
  | launch spawn => exact hlaunch acts hacts
  | chooserResponse response spawn =>
    cases response with
    | dismissed => revert acts; simp [SidebarEvent.acts]
    | accepted hasPath =>
      cases hasPath with
      | true => exact hlaunch acts hacts
      | false => revert acts; simp [SidebarEvent.acts]
  | _ => revert acts; simp [SidebarEvent.acts]

/-- Only an explicit command or a launch takes the wish back. -/
theorem grants_acts {e : SidebarEvent} (h : ¬e.IsExplicit) (hlaunch : ¬e.Launches)
    {acts : List (Act InteractionOwner)} (hacts : acts ∈ e.acts) : ∀ a ∈ acts, a.Grants := by
  cases e with
  | showCommand => exact absurd (.inl rfl) h
  | hideCommand => exact absurd (.inr (.inl rfl)) h
  | toggleCommand => exact absurd (.inr (.inr rfl)) h
  | launch spawn => exact absurd (.inl ⟨spawn, rfl⟩) hlaunch
  | chooserResponse response spawn =>
    cases response with
    | dismissed => revert acts; simp [SidebarEvent.acts, Act.Grants]
    | accepted hasPath =>
      cases hasPath with
      | true => exact absurd (.inr ⟨spawn, rfl⟩) hlaunch
      | false => revert acts; simp [SidebarEvent.acts, Act.Grants]
  | _ => revert acts; simp [SidebarEvent.acts, Act.Grants]

end SidebarEvent

namespace Sidebar

/-! ## Steps -/

/-- A callback goes on, or it ends the editor. -/
def GoesOnOrEnds (s s' : Sidebar) : Prop :=
  Moved s s' [] ∧ s'.presenter.session.generation = s.presenter.session.generation ∨
    Moved s s' [.release .profileEditor] ∧
      s'.presenter.session.generation = s.presenter.session.generation + 1

theorem goesOnOrEnds_sessionCallback {s : Sidebar} (h : s.Stable)
    {result : ExternalEditorSession × Option (Option String)}
    (ho : s.presenter.session.Outcome result) : GoesOnOrEnds s (s.sessionCallback result) :=
  (moved_sessionCallback h ho).imp And.right And.right

/-- A callback of a process. -/
theorem goesOnOrEnds_processCallback {s : Sidebar} (h : s.Stable) {generation : ℕ}
    {stage : EditorStage}
    {f : ExternalEditorSession → ExternalEditorSession × Option (Option String)}
    (ho : s.presenter.session.Waits generation stage →
      s.presenter.session.Outcome (f s.presenter.session)) :
    GoesOnOrEnds s (s.processCallback generation stage f) := by
  unfold processCallback
  split
  · next hwaits => exact goesOnOrEnds_sessionCallback h (ho hwaits)
  · exact .inl ⟨h.moved_same rfl rfl h.settled id, rfl⟩

/-- A callback of the watched name. -/
theorem goesOnOrEnds_watchCallback {s : Sidebar} (h : s.Stable)
    {f : ExternalEditorSession → EditorOwnerWatch →
      ExternalEditorSession × Option (Option String)}
    (ho : ∀ watch ∈ s.presenter.session.ownerWatch,
      s.presenter.session.Outcome (f s.presenter.session watch)) :
    GoesOnOrEnds s (s.watchCallback f) := by
  unfold watchCallback
  cases hwatch : s.presenter.session.ownerWatch with
  | none => exact .inl ⟨h.moved_same rfl rfl h.settled id, rfl⟩
  | some watch => exact goesOnOrEnds_sessionCallback h (ho watch hwatch)

/-- An event of the editor's processes or of the watched name. -/
theorem goesOnOrEnds_step {s : Sidebar} (h : s.Stable) {e : SidebarEvent} (he : e.OfEditor) :
    GoesOnOrEnds s (s.step e) := by
  cases e with
  | editorExited generation failure =>
    show GoesOnOrEnds s
      (s.processCallback generation .exit fun session => session.exited generation failure)
    exact goesOnOrEnds_processCallback h
      (ExternalEditorSession.outcome_exited failure h.tracked h.sessionOpen)
  | busReady generation connected =>
    show GoesOnOrEnds s
      (s.processCallback generation .bus fun session => session.busReady generation connected)
    exact goesOnOrEnds_processCallback h
      (ExternalEditorSession.outcome_busReady connected h.tracked h.sessionOpen)
  | ownerReply generation owner =>
    show GoesOnOrEnds s
      (s.processCallback generation .owner fun session => session.ownerReply generation owner)
    exact goesOnOrEnds_processCallback h
      (ExternalEditorSession.outcome_ownerReply owner h.tracked h.sessionOpen)
  | ownerAppeared owner =>
    show GoesOnOrEnds s (s.watchCallback fun session watch => session.ownerAppeared watch owner)
    exact goesOnOrEnds_watchCallback h fun _ hwatch =>
      ExternalEditorSession.outcome_ownerAppeared owner h.tracked h.sessionOpen hwatch
  | ownerVanished =>
    exact goesOnOrEnds_watchCallback h fun _ hwatch =>
      ExternalEditorSession.outcome_ownerVanished h.tracked h.sessionOpen hwatch
  | showCommand => exact absurd he id
  | hideCommand => exact absurd he id
  | toggleCommand => exact absurd he id
  | importProfile => exact absurd he id
  | chooserResponse response spawn => exact absurd he id
  | launch spawn => exact absurd he id
  | amneziawgInteraction active => exact absurd he id
  | parentChanged present => exact absurd he id
  | layerShellChanged layerShell => exact absurd he id
  | shutdown => exact absurd he id

/-- One event of an application that is not shutting down. -/
theorem moved_step {s : Sidebar} (h : s.Stable) {e : SidebarEvent} (hne : e ≠ .shutdown) :
    ∃ acts ∈ e.acts, Moved s (s.step e) acts := by
  by_cases he : e.OfEditor
  · have hacts : [] ∈ e.acts ∧ [Act.release InteractionOwner.profileEditor] ∈ e.acts := by
      cases e <;> first | exact absurd he id | exact ⟨by simp [SidebarEvent.acts], by simp [SidebarEvent.acts]⟩
    rcases goesOnOrEnds_step h he with ⟨hmoved, -⟩ | ⟨hmoved, -⟩
    · exact ⟨_, hacts.1, hmoved⟩
    · exact ⟨_, hacts.2, hmoved⟩
  · cases e with
    | showCommand => exact ⟨_, List.mem_singleton_self _, moved_show h⟩
    | hideCommand => exact ⟨_, List.mem_singleton_self _, moved_hide h⟩
    | toggleCommand =>
      rcases moved_toggle h with ⟨hmoved, -⟩ | ⟨hmoved, -⟩ | ⟨hmoved, -⟩
      · exact ⟨_, by simp [SidebarEvent.acts], hmoved⟩
      · exact ⟨_, by simp [SidebarEvent.acts], hmoved⟩
      · exact ⟨_, by simp [SidebarEvent.acts], hmoved⟩
    | importProfile =>
      rcases moved_importProfile h with hmoved | hmoved
      · exact ⟨_, by simp [SidebarEvent.acts], hmoved⟩
      · exact ⟨_, by simp [SidebarEvent.acts], hmoved⟩
    | chooserResponse response spawn =>
      obtain ⟨acts, hmem, hmoved, hkept⟩ := moved_importResponse h response spawn
      refine ⟨acts, ?_, hmoved⟩
      by_cases hresponse : response = .accepted true
      · rw [hresponse]
        exact hmem
      · have hshort := hkept hresponse
        cases response with
        | dismissed => simpa [SidebarEvent.acts] using hshort
        | accepted hasPath =>
          cases hasPath with
          | true => exact absurd rfl hresponse
          | false => simpa [SidebarEvent.acts] using hshort
    | launch spawn => exact moved_launch h spawn
    | amneziawgInteraction active =>
      refine ⟨_, ?_, moved_amneziawg h active⟩
      cases active <;> simp [SidebarEvent.acts]
    | parentChanged present =>
      exact ⟨_, List.mem_singleton_self _, h.moved_same rfl rfl h.settled id⟩
    | layerShellChanged layerShell =>
      exact ⟨_, List.mem_singleton_self _, h.moved_same rfl rfl h.settled id⟩
    | shutdown => exact absurd rfl hne
    | editorExited generation failure => exact absurd trivial he
    | busReady generation connected => exact absurd trivial he
    | ownerReply generation owner => exact absurd trivial he
    | ownerAppeared owner => exact absurd trivial he
    | ownerVanished => exact absurd trivial he

/-- Every run of an application that is not shutting down leads to a stable state. -/
theorem stable_run {s : Sidebar} (h : s.Stable) {events : List SidebarEvent}
    (hevents : ∀ e ∈ events, e ≠ .shutdown) : (s.run events).Stable := by
  induction events generalizing s with
  | nil => exact h
  | cons e events ih =>
    obtain ⟨acts, -, hmoved⟩ := moved_step h (hevents e List.mem_cons_self)
    exact ih hmoved.stable fun e' he' => hevents e' (List.mem_cons_of_mem _ he')

/-- What every act of a run keeps, the run keeps. -/
theorem wish_run {P : Wish InteractionOwner → Prop} {s : Sidebar} (h : s.Stable)
    {events : List SidebarEvent} (hevents : ∀ e ∈ events, e ≠ .shutdown)
    (hkept : ∀ e ∈ events, ∀ acts ∈ e.acts, ∀ a ∈ acts, ∀ w : Wish InteractionOwner,
      P w → P (w.step a)) (hP : P s.app.wish) : P (s.run events).app.wish := by
  induction events generalizing s with
  | nil => exact hP
  | cons e events ih =>
    obtain ⟨acts, hacts, hmoved⟩ := moved_step h (hevents e List.mem_cons_self)
    refine ih hmoved.stable (fun e' he' => hevents e' (List.mem_cons_of_mem _ he'))
      (fun e' he' => hkept e' (List.mem_cons_of_mem _ he')) ?_
    rw [hmoved.wish]
    exact Wish.run_induction (fun w a ha => hkept e List.mem_cons_self acts hacts a ha w) hP

end Sidebar
end NmSidebar
