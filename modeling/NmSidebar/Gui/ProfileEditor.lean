import NmSidebar.Gui.EditorSession
import NmSidebar.Gui.SidebarWindow

/-!
# The external editors of profiles

`profile_editor_presenter.c` and its chooser of a file, `profile_import_presenter.c`. The presenter
chooses a file or edits a profile, and tells the application which of them blocks the sidebar.
-/

namespace NmSidebar

open Blocking

/-! ## The state -/

/-- `ProfileEditorState`. -/
inductive ProfileEditorState where
  | idle | choosing | launching | editing | stopped
  deriving DecidableEq

/-- `NetworkSidebarProfileEditorPresenter`, which has no callbacks once it is stopped, and its
`NetworkSidebarProfileImportPresenter`, which has none once it is stopping. -/
structure ProfileEditorPresenter where
  state : ProfileEditorState
  /-- There is a `chooser`. -/
  chooser : Bool
  chooserStopping : Bool
  session : ExternalEditorSession

/-- The application with its presenter. -/
structure Sidebar where
  app : SidebarApp
  presenter : ProfileEditorPresenter

/-- The answer of the file chooser: none but `GTK_RESPONSE_ACCEPT` accepts, and only a local file has
a path. -/
inductive ChooserResponse where
  | dismissed
  | accepted (hasPath : Bool)
  deriving DecidableEq

namespace Sidebar

/-- A change of the application. -/
def mapApp (s : Sidebar) (f : SidebarApp → SidebarApp) : Sidebar := { s with app := f s.app }

/-- A change of the presenter. -/
def mapPresenter (s : Sidebar) (f : ProfileEditorPresenter → ProfileEditorPresenter) : Sidebar :=
  { s with presenter := f s.presenter }

/-- The presenter enters a state. -/
def enter (s : Sidebar) (state : ProfileEditorState) : Sidebar :=
  s.mapPresenter fun presenter => { presenter with state := state }

/-- A change of the editor's session. -/
def setSession (s : Sidebar) (session : ExternalEditorSession) : Sidebar :=
  s.mapPresenter fun presenter => { presenter with session := session }

/-- Whether there is a chooser. -/
def setChooser (s : Sidebar) (chooser : Bool) : Sidebar :=
  s.mapPresenter fun presenter => { presenter with chooser := chooser }

/-! ## The presenter -/

/-- `notify_interaction`. -/
def notifyInteraction (s : Sidebar) (owner : InteractionOwner) (event : InteractionEvent) :
    Sidebar :=
  if s.presenter.state = .stopped then s
  else s.mapApp (·.externalInteractionCallback owner event)

/-- `report_error`. -/
def reportError (s : Sidebar) (message : String) : Sidebar :=
  if s.presenter.state = .stopped then s else s.mapApp (·.externalErrorCallback message)

/-- `chooser_interaction_cb`. -/
def chooserInteractionCb (s : Sidebar) (active : Bool) : Sidebar :=
  if s.presenter.state = .stopped then s
  else
    let s := (s.enter (if active then .choosing else .idle)).notifyInteraction .profileImport
      (if active then .interactionBegin else .interactionEnd)
    if active ∧ s.presenter.state = .choosing then
      (s.setSession s.presenter.session.cancel).notifyInteraction .profileEditor .interactionCancel
    else s

/-- `network_sidebar_profile_import_presenter_cancel`. -/
def importCancel (s : Sidebar) : Sidebar :=
  if s.presenter.chooser = false then s
  else
    let s := s.setChooser false
    if s.presenter.chooserStopping then s else s.chooserInteractionCb false

/-- `network_sidebar_profile_editor_presenter_open`. The callback of the application does not change
the state of the presenter. -/
def openEditor (s : Sidebar) (spawn : Option String) : Sidebar :=
  if s.presenter.state = .stopped then s
  else if s.app.parentSet = false then
    let s := s.importCancel
    -- a selection may already have silently dismissed the chooser
    if s.presenter.state = .choosing then
      (s.enter .idle).notifyInteraction .profileImport .interactionEnd
    else s
  else
    let s := ((s.setSession s.presenter.session.cancel).enter .launching).notifyInteraction
      .profileEditor .interactionBegin
    if s.presenter.state ≠ .launching then s
    else
      let s := (s.setChooser false).notifyInteraction .profileImport .interactionEnd
      if s.presenter.state ≠ .launching then s
      else
        let opened := s.presenter.session.openEditor spawn
        let s := s.setSession opened.1
        match opened.2 with
        | some error =>
          ((s.enter .idle).notifyInteraction .profileEditor .interactionEnd).reportError
            ("Could not open nm-connection-editor: " ++ error)
        | none => (s.enter .editing).notifyInteraction .profileEditor .interactionDefer

/-- `import_response_cb` of the chooser, and `chooser_selected_cb`. -/
def importResponse (s : Sidebar) (response : ChooserResponse) (spawn : Option String) : Sidebar :=
  if s.presenter.chooserStopping || !s.presenter.chooser then s
  else
    match response with
    | .dismissed => s.importCancel
    | .accepted false => s.importCancel.reportError "Select a local VPN configuration file"
    | .accepted true =>
      let s := s.setChooser false
      if s.presenter.state = .choosing then s.openEditor spawn else s

/-- `network_sidebar_profile_editor_presenter_import`. -/
def importProfile (s : Sidebar) : Sidebar :=
  if s.presenter.state = .stopped then s
  else if s.presenter.chooserStopping || s.presenter.chooser then s
  else if s.app.parentSet = false then s.reportError "Could not show VPN import dialog"
  else (s.setChooser true).chooserInteractionCb true

/-- `editor_completed_cb`, where it is called. -/
def editorCompleted (s : Sidebar) (message : Option String) : Sidebar :=
  if s.presenter.state ≠ .editing then s
  else
    let s := (s.enter .idle).notifyInteraction .profileEditor .interactionEnd
    match message with
    | some message => s.reportError message
    | none => s

/-- A callback of the session, with the message of its completion. -/
def sessionCallback (s : Sidebar) (result : ExternalEditorSession × Option (Option String)) :
    Sidebar :=
  match result.2 with
  | some message => (s.setSession result.1).editorCompleted message
  | none => s.setSession result.1

/-- `network_sidebar_profile_editor_presenter_stop`. -/
def stop (s : Sidebar) : Sidebar :=
  if s.presenter.state = .stopped then s
  else s.mapPresenter fun presenter =>
    { state := .stopped
      chooser := false
      chooserStopping := true
      session := presenter.session.stop }

/-- `on_shutdown`. -/
def onShutdown (s : Sidebar) : Sidebar :=
  (s.mapApp fun app => { app with shuttingDown := true, deferredRestoreOwners := ∅ }).stop

end Sidebar

/-! ## Events -/

/-- What the user, the choosers and the session bus do. A process of the editor is known by its
generation. -/
inductive SidebarEvent where
  | showCommand | hideCommand | toggleCommand
  | importProfile
  | chooserResponse (response : ChooserResponse) (spawn : Option String)
  | launch (spawn : Option String)
  | editorExited (generation : ℕ) (failure : Option String)
  | busReady (generation : ℕ) (connected : Bool)
  | ownerReply (generation : ℕ) (owner : Option String)
  | ownerAppeared (owner : String)
  | ownerVanished
  | amneziawgInteraction (active : Bool)
  | parentChanged (present : Bool)
  | layerShellChanged (layerShell : LayerShell)
  | shutdown

namespace Sidebar

/-- Before anything has happened. -/
def initial (layerShell : LayerShell) : Sidebar where
  app :=
    { layerShell := layerShell
      window := none
      parentSet := false
      externalInteractionOwners := ∅
      sidebarRequestedVisible := false
      deferredRestoreOwners := ∅
      inventoryRefreshRequested := false
      inventoryEnabled := false
      inventoryRequests := 0
      toasts := []
      shuttingDown := false
      unsupportedLayerShell := false }
  presenter := ⟨.idle, false, false, .new⟩

/-- The session with whom a callback of a process is. Nothing happens where there is no such
process. -/
def processCallback (s : Sidebar) (generation : ℕ) (stage : EditorStage)
    (f : ExternalEditorSession → ExternalEditorSession × Option (Option String)) : Sidebar :=
  if ⟨generation, stage⟩ ∈ s.presenter.session.processes then
    s.sessionCallback (f s.presenter.session)
  else s

/-- A callback of the watched name. Nothing happens where none is watched. -/
def watchCallback (s : Sidebar)
    (f : ExternalEditorSession → EditorOwnerWatch →
      ExternalEditorSession × Option (Option String)) : Sidebar :=
  match s.presenter.session.ownerWatch with
  | some watch => s.sessionCallback (f s.presenter.session watch)
  | none => s

/-- `request_editor_callback`. -/
def requestEditor (s : Sidebar) (spawn : Option String) : Sidebar :=
  if s.app.shuttingDown then s else s.openEditor spawn

/-- One event. -/
def step (s : Sidebar) : SidebarEvent → Sidebar
  | .showCommand => s.mapApp SidebarApp.showSidebar
  | .hideCommand => s.mapApp SidebarApp.hideSidebar
  | .toggleCommand => s.mapApp SidebarApp.toggleSidebar
  | .importProfile => s.importProfile
  | .chooserResponse response spawn => s.importResponse response spawn
  | .launch spawn => s.requestEditor spawn
  | .editorExited generation failure =>
    s.processCallback generation .exit fun session => session.exited generation failure
  | .busReady generation connected =>
    s.processCallback generation .bus fun session => session.busReady generation connected
  | .ownerReply generation owner =>
    s.processCallback generation .owner fun session => session.ownerReply generation owner
  | .ownerAppeared owner => s.watchCallback fun session watch => session.ownerAppeared watch owner
  | .ownerVanished => s.watchCallback ExternalEditorSession.ownerVanished
  | .amneziawgInteraction active => s.mapApp (·.amneziawgInteractionCallback active)
  | .parentChanged present => s.mapApp fun app => { app with parentSet := present }
  | .layerShellChanged layerShell => s.mapApp fun app => { app with layerShell := layerShell }
  | .shutdown => s.onShutdown

/-- Events one after the other. -/
def run (s : Sidebar) (events : List SidebarEvent) : Sidebar := events.foldl step s

end Sidebar
end NmSidebar
