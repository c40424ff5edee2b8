import NmSidebar.Program.Blocking

/-!
# The window of the sidebar

The part of `app.c` that shows and hides the sidebar. Its window is seen when the user wishes it
and no chooser or editor of another window blocks it.
-/

namespace NmSidebar

open Blocking

/-! ## Interactions with other windows -/

/-- `NetworkSidebarInteractionOwner`. -/
inductive InteractionOwner where
  | profileImport | profileEditor | amneziawgImport
  deriving DecidableEq

/-- `NetworkSidebarInteractionEvent`. -/
inductive InteractionEvent where
  | interactionBegin | interactionDefer | interactionEnd | interactionCancel
  deriving DecidableEq

/-- An event of an interaction, as an act on the wish. -/
def InteractionEvent.act : InteractionEvent → InteractionOwner →
    Act InteractionOwner
  | .interactionBegin => .block
  | .interactionDefer => .defer
  | .interactionEnd => .release
  | .interactionCancel => .abandon

/-- What the compositor answers: `network_sidebar_layer_shell_unavailable_message` has no message,
and `network_sidebar_configure_layer_shell_window` succeeds. -/
structure LayerShell where
  available : Bool
  configures : Bool

/-- The fields of `NetworkSidebarGuiApp` that decide whether the sidebar is seen. -/
structure SidebarApp where
  layerShell : LayerShell
  /-- `window`, with its visibility. -/
  window : Option Bool
  /-- The presenters refer to the window. -/
  parentSet : Bool
  externalInteractionOwners : Finset InteractionOwner
  sidebarRequestedVisible : Bool
  deferredRestoreOwners : Finset InteractionOwner
  inventoryRefreshRequested : Bool
  /-- The last `network_sidebar_awg_controller_set_inventory_enabled`. -/
  inventoryEnabled : Bool
  /-- The calls of `network_sidebar_awg_controller_request_inventory`. -/
  inventoryRequests : ℕ
  toasts : List String
  shuttingDown : Bool
  /-- `unsupported_layer_shell`: the application has been asked to quit. -/
  unsupportedLayerShell : Bool

namespace SidebarApp

/-- `gtk_widget_get_visible` of the window. -/
def visible (self : SidebarApp) : Bool := self.window.getD false

/-- `gtk_widget_set_visible` of the window, where there is one. -/
def setVisible (self : SidebarApp) (visible : Bool) : SidebarApp :=
  { self with window := self.window.map fun _ => visible }

/-- `fail_layer_shell`. -/
def failLayerShell (self : SidebarApp) : SidebarApp := { self with unsupportedLayerShell := true }

/-- `ensure_window`, which fails with the state it leaves. -/
def ensureWindow (self : SidebarApp) : Except SidebarApp SidebarApp :=
  if self.window.isSome then .ok self
  else if self.layerShell.available = false then .error self.failLayerShell
  else
    let self := { self with window := some false }
    if self.layerShell.configures = false then .error self.failLayerShell
    else .ok { self with parentSet := true }

/-- The end of `present_sidebar`, from `gtk_window_present`. -/
def presentWindow (self : SidebarApp) : SidebarApp :=
  let self := { self.setVisible true with inventoryEnabled := true }
  if self.inventoryRefreshRequested then
    { self with
      inventoryRefreshRequested := false
      inventoryRequests := self.inventoryRequests + 1 }
  else self

/-- `present_sidebar`. -/
def presentSidebar (self : SidebarApp) (refreshInventory : Bool) : SidebarApp :=
  let self := { self with
    sidebarRequestedVisible := true
    inventoryRefreshRequested := self.inventoryRefreshRequested || refreshInventory }
  if self.externalInteractionOwners ≠ ∅ then self
  else
    match self.ensureWindow with
    | .error self => self
    | .ok self =>
      if self.layerShell.configures = false then self.failLayerShell else self.presentWindow

/-- `show_sidebar`. -/
def showSidebar (self : SidebarApp) : SidebarApp :=
  { self with deferredRestoreOwners := ∅ }.presentSidebar true

/-- `hide_sidebar`. -/
def hideSidebar (self : SidebarApp) : SidebarApp :=
  { self with
    sidebarRequestedVisible := false
    deferredRestoreOwners := ∅
    inventoryRefreshRequested := false
    inventoryEnabled := false }.setVisible false

/-- `toggle_sidebar`. -/
def toggleSidebar (self : SidebarApp) : SidebarApp :=
  match self.ensureWindow with
  | .error self => self
  | .ok self => if self.sidebarRequestedVisible then self.hideSidebar else self.showSidebar

/-- The owners with one of them set or cleared. -/
def changeOwner (self : SidebarApp) (owner : InteractionOwner) (active : Bool) :
    Finset InteractionOwner :=
  if active then insert owner self.externalInteractionOwners
  else self.externalInteractionOwners.erase owner

/-- `set_external_interaction`. -/
def setExternalInteraction (self : SidebarApp) (owner : InteractionOwner) (active : Bool) :
    SidebarApp :=
  let owners := self.changeOwner owner active
  if owners = self.externalInteractionOwners then self
  else
    let self := { self with externalInteractionOwners := owners }
    if owners ≠ ∅ then { self with inventoryEnabled := false }.setVisible false
    else if self.shuttingDown = false ∧ self.sidebarRequestedVisible then
      self.presentSidebar false
    else self

/-- The owner no longer owes the sidebar. -/
def forgetRestore (self : SidebarApp) (owner : InteractionOwner) : SidebarApp :=
  { self with deferredRestoreOwners := self.deferredRestoreOwners.erase owner }

/-- The sidebar is hidden until the owner's end. -/
def deferRestore (self : SidebarApp) (owner : InteractionOwner) : SidebarApp :=
  { self with
    deferredRestoreOwners :=
      if self.sidebarRequestedVisible then insert owner self.deferredRestoreOwners
      else self.deferredRestoreOwners
    sidebarRequestedVisible := false
    inventoryRefreshRequested := false }

/-- The owner gives back what it owes, even if another owner still blocks the window. -/
def retainRestore (self : SidebarApp) (owner : InteractionOwner) : SidebarApp :=
  if owner ∈ self.deferredRestoreOwners then
    { self.forgetRestore owner with sidebarRequestedVisible := true }
  else self.forgetRestore owner

/-- `external_interaction_callback`. -/
def externalInteractionCallback (self : SidebarApp) (owner : InteractionOwner)
    (event : InteractionEvent) : SidebarApp :=
  if self.shuttingDown then self
  else
    match event with
    | .interactionBegin => (self.forgetRestore owner).setExternalInteraction owner true
    | .interactionDefer => (self.deferRestore owner).setExternalInteraction owner false
    | .interactionEnd =>
      let ended := (self.retainRestore owner).setExternalInteraction owner false
      if owner ∈ self.deferredRestoreOwners ∧ owner ∉ self.externalInteractionOwners ∧
          ended.externalInteractionOwners = ∅ then ended.presentSidebar false
      else ended
    | .interactionCancel => (self.forgetRestore owner).setExternalInteraction owner false

/-- `amneziawg_interaction_callback`. -/
def amneziawgInteractionCallback (self : SidebarApp) (active : Bool) : SidebarApp :=
  self.externalInteractionCallback .amneziawgImport
    (if active then .interactionBegin else .interactionEnd)

/-- `toast_callback`. -/
def toastCallback (self : SidebarApp) (message : String) : SidebarApp :=
  if self.visible then { self with toasts := self.toasts ++ [message] } else self

/-- `external_error_callback`. -/
def externalErrorCallback (self : SidebarApp) (message : String) : SidebarApp :=
  if self.shuttingDown then self else self.toastCallback message

/-! ## The wish of the user -/

/-- What the user wishes, and which interactions block or owe it. -/
def wish (self : SidebarApp) : Wish InteractionOwner :=
  ⟨self.externalInteractionOwners, self.sidebarRequestedVisible, self.deferredRestoreOwners⟩

@[simp]
theorem wish_failLayerShell (self : SidebarApp) : self.failLayerShell.wish = self.wish := rfl

@[simp]
theorem wish_setVisible (self : SidebarApp) (visible : Bool) :
    (self.setVisible visible).wish = self.wish := rfl

/-- The window is seen exactly when the wish is granted, unless the application is to quit. -/
def Settled (self : SidebarApp) : Prop :=
  self.unsupportedLayerShell = true ∨ (self.visible = true ↔ self.wish.Shown)

theorem visible_setVisible_false (self : SidebarApp) : (self.setVisible false).visible = false := by
  unfold visible setVisible
  cases self.window <;> rfl

/-! ## Showing and hiding -/

/-- `ensure_window` has failed for good, or there is a window. Either way the wish is as before. -/
theorem ensureWindow_cases (self : SidebarApp) :
    (∃ self', self.ensureWindow = .error self' ∧ self'.wish = self.wish ∧
      self'.shuttingDown = self.shuttingDown ∧ self'.unsupportedLayerShell = true) ∨
    ∃ self', self.ensureWindow = .ok self' ∧ self'.wish = self.wish ∧
      self'.shuttingDown = self.shuttingDown ∧
      self'.unsupportedLayerShell = self.unsupportedLayerShell ∧
      self'.visible = self.visible ∧ self'.window.isSome = true := by
  unfold ensureWindow
  by_cases hwindow : self.window.isSome = true
  · rw [if_pos hwindow]
    exact .inr ⟨self, rfl, rfl, rfl, rfl, rfl, hwindow⟩
  · rw [if_neg hwindow]
    have hhidden : self.visible = false := by
      unfold visible
      rw [Option.not_isSome_iff_eq_none.mp hwindow]
      rfl
    by_cases havailable : self.layerShell.available = false
    · rw [if_pos havailable]
      exact .inl ⟨_, rfl, rfl, rfl, rfl⟩
    · rw [if_neg havailable]
      by_cases hconfigures : self.layerShell.configures = false
      · rw [if_pos hconfigures]
        exact .inl ⟨_, rfl, rfl, rfl, rfl⟩
      · rw [if_neg hconfigures]
        exact .inr ⟨_, rfl, rfl, rfl, rfl, hhidden.symm, rfl⟩

@[simp]
theorem wish_presentWindow (self : SidebarApp) : self.presentWindow.wish = self.wish := by
  unfold presentWindow
  dsimp only
  split <;> rfl

@[simp]
theorem shuttingDown_presentWindow (self : SidebarApp) :
    self.presentWindow.shuttingDown = self.shuttingDown := by
  unfold presentWindow
  dsimp only
  split <;> rfl

@[simp]
theorem unsupportedLayerShell_presentWindow (self : SidebarApp) :
    self.presentWindow.unsupportedLayerShell = self.unsupportedLayerShell := by
  unfold presentWindow
  dsimp only
  split <;> rfl

/-- A window that is presented is visible. -/
theorem visible_presentWindow {self : SidebarApp} (h : self.window.isSome = true) :
    self.presentWindow.visible = true := by
  obtain ⟨seen, hwindow⟩ := Option.isSome_iff_exists.mp h
  unfold presentWindow visible setVisible
  dsimp only
  split <;> simp [hwindow]

/-- What `present_sidebar` does: it notes the wish, and shows the window or fails for good where no
owner blocks. -/
theorem presentSidebar_cases (self : SidebarApp) (refreshInventory : Bool) :
    (self.presentSidebar refreshInventory).wish = { self.wish with requested := true } ∧
    (self.presentSidebar refreshInventory).shuttingDown = self.shuttingDown ∧
    ((self.presentSidebar refreshInventory).unsupportedLayerShell = true ∨
      (self.presentSidebar refreshInventory).unsupportedLayerShell =
        self.unsupportedLayerShell ∧
      ((self.presentSidebar refreshInventory).visible = true ↔
        self.externalInteractionOwners = ∅ ∨ self.visible = true)) := by
  unfold presentSidebar
  dsimp only
  by_cases howners : self.externalInteractionOwners = ∅
  · rw [if_neg (not_not.mpr howners)]
    rcases ensureWindow_cases { self with
        sidebarRequestedVisible := true
        inventoryRefreshRequested := self.inventoryRefreshRequested || refreshInventory } with
      ⟨self', hensure, hwish, hshutting, hfailed⟩ |
      ⟨self', hensure, hwish, hshutting, hunsupported, -, hsome⟩
    · rw [hensure]
      exact ⟨hwish, hshutting, .inl hfailed⟩
    · rw [hensure]
      dsimp only
      by_cases hconfigures : self'.layerShell.configures = false
      · rw [if_pos hconfigures]
        exact ⟨hwish, hshutting, .inl rfl⟩
      · rw [if_neg hconfigures, wish_presentWindow, shuttingDown_presentWindow,
          unsupportedLayerShell_presentWindow, visible_presentWindow hsome]
        exact ⟨hwish, hshutting, .inr ⟨hunsupported, by simp [howners]⟩⟩
  · rw [if_pos howners]
    refine ⟨rfl, rfl, .inr ⟨rfl, ?_⟩⟩
    rw [or_iff_right howners]
    rfl

@[simp]
theorem wish_presentSidebar (self : SidebarApp) (refreshInventory : Bool) :
    (self.presentSidebar refreshInventory).wish = { self.wish with requested := true } :=
  (presentSidebar_cases self refreshInventory).1

@[simp]
theorem shuttingDown_presentSidebar (self : SidebarApp) (refreshInventory : Bool) :
    (self.presentSidebar refreshInventory).shuttingDown = self.shuttingDown :=
  (presentSidebar_cases self refreshInventory).2.1

/-- An application that is to quit does not take it back. -/
theorem failed_presentSidebar {self : SidebarApp} (refreshInventory : Bool)
    (h : self.unsupportedLayerShell = true) :
    (self.presentSidebar refreshInventory).unsupportedLayerShell = true := by
  obtain ⟨-, -, hfailed | ⟨hsame, -⟩⟩ := presentSidebar_cases self refreshInventory
  · exact hfailed
  · exact hsame.trans h

/-- No owner blocks a window that is visible, unless the application is to quit. -/
def Blocked (self : SidebarApp) : Prop :=
  self.unsupportedLayerShell = true ∨ (self.externalInteractionOwners ≠ ∅ → self.visible = false)

theorem Settled.blocked {self : SidebarApp} (h : self.Settled) : self.Blocked := by
  refine h.imp_right fun hvisible howners => ?_
  rw [← Bool.not_eq_true, hvisible]
  exact fun hshown => howners hshown.2

/-- Presenting settles the window. -/
theorem settled_presentSidebar {self : SidebarApp} (refreshInventory : Bool) (h : self.Blocked) :
    (self.presentSidebar refreshInventory).Settled := by
  obtain ⟨hwish, -, hfailed | ⟨hsame, hvisible⟩⟩ := presentSidebar_cases self refreshInventory
  · exact .inl hfailed
  · rcases h with hunsupported | hblocked
    · exact .inl (hsame.trans hunsupported)
    · refine .inr ?_
      rw [hvisible, hwish]
      constructor
      · rintro (howners | hseen)
        · exact ⟨rfl, howners⟩
        · refine ⟨rfl, ?_⟩
          by_contra howners
          exact absurd hseen (by rw [hblocked howners]; exact Bool.false_ne_true)
      · exact fun hshown => .inl hshown.2

@[simp]
theorem shuttingDown_showSidebar (self : SidebarApp) :
    self.showSidebar.shuttingDown = self.shuttingDown := by
  simp [showSidebar]

theorem wish_showSidebar (self : SidebarApp) : self.showSidebar.wish = self.wish.step .request := by
  unfold showSidebar
  rw [wish_presentSidebar]
  rfl

theorem settled_showSidebar {self : SidebarApp} (h : self.Settled) : self.showSidebar.Settled :=
  @settled_presentSidebar { self with deferredRestoreOwners := ∅ } true h.blocked

@[simp]
theorem shuttingDown_hideSidebar (self : SidebarApp) :
    self.hideSidebar.shuttingDown = self.shuttingDown := rfl

theorem wish_hideSidebar (self : SidebarApp) : self.hideSidebar.wish = self.wish.step .dismiss :=
  rfl

theorem settled_hideSidebar (self : SidebarApp) : self.hideSidebar.Settled := by
  refine .inr ?_
  unfold hideSidebar
  rw [visible_setVisible_false]
  simp [wish, setVisible, Wish.Shown]

/-! ## Interactions -/

/-- An owner that changes nothing leaves all as it is. -/
theorem setExternalInteraction_of_unchanged {self : SidebarApp} {owner : InteractionOwner}
    {active : Bool} (h : self.changeOwner owner active = self.externalInteractionOwners) :
    self.setExternalInteraction owner active = self :=
  if_pos h

/-- `set_external_interaction` changes the owners and nothing else of the wish. -/
theorem wish_setExternalInteraction (self : SidebarApp) (owner : InteractionOwner)
    (active : Bool) :
    (self.setExternalInteraction owner active).wish =
      { self.wish with owners := self.changeOwner owner active } := by
  unfold setExternalInteraction
  dsimp only
  split
  · next h => rw [h]; rfl
  · split
    · rfl
    · split
      · next h => rw [wish_presentSidebar]; exact congrArg (Wish.mk _ · _) h.2.symm
      · rfl

@[simp]
theorem shuttingDown_setExternalInteraction (self : SidebarApp) (owner : InteractionOwner)
    (active : Bool) :
    (self.setExternalInteraction owner active).shuttingDown = self.shuttingDown := by
  unfold setExternalInteraction
  dsimp only
  split_ifs
  · rfl
  · rfl
  · rw [shuttingDown_presentSidebar]
  · rfl

theorem failed_setExternalInteraction {self : SidebarApp} (owner : InteractionOwner)
    (active : Bool) (h : self.unsupportedLayerShell = true) :
    (self.setExternalInteraction owner active).unsupportedLayerShell = true := by
  unfold setExternalInteraction
  dsimp only
  split_ifs
  · exact h
  · exact h
  · exact failed_presentSidebar false h
  · exact h

/-- A change of the owners settles the window. -/
theorem settled_setExternalInteraction {self : SidebarApp} {owner : InteractionOwner}
    {active : Bool} (hrunning : self.shuttingDown = false) (h : self.Blocked)
    (hchange : self.changeOwner owner active ≠ self.externalInteractionOwners) :
    (self.setExternalInteraction owner active).Settled := by
  unfold setExternalInteraction
  dsimp only
  rw [if_neg hchange]
  by_cases howners : self.changeOwner owner active = ∅
  · rw [if_neg (not_not.mpr howners)]
    split
    · refine settled_presentSidebar false (h.imp_right fun _ hne => ?_)
      exact absurd howners hne
    · next hrequested =>
      -- the last owner has left a window that nobody wishes to see
      refine h.imp_right fun hblocked => ?_
      have hhidden : self.visible = false := hblocked (howners ▸ hchange.symm)
      exact iff_of_false (fun hseen => absurd (hhidden.symm.trans hseen) Bool.false_ne_true)
        fun hshown => hrequested ⟨hrunning, hshown.1⟩
  · rw [if_pos howners]
    refine .inr (iff_of_false ?_ fun hshown => howners hshown.2)
    rw [visible_setVisible_false]
    exact Bool.false_ne_true

/-- `set_external_interaction` leaves the window settled where it was, or where it changes the
owners. -/
theorem settled_setExternalInteraction_of {self : SidebarApp} {owner : InteractionOwner}
    {active : Bool} (hrunning : self.shuttingDown = false) (h : self.Blocked)
    (hunchanged : self.changeOwner owner active = self.externalInteractionOwners → self.Settled) :
    (self.setExternalInteraction owner active).Settled := by
  by_cases hchange : self.changeOwner owner active = self.externalInteractionOwners
  · rw [setExternalInteraction_of_unchanged hchange]
    exact hunchanged hchange
  · exact settled_setExternalInteraction hrunning h hchange

/-! ## Callbacks -/

theorem wish_retainRestore (self : SidebarApp) (owner : InteractionOwner) :
    (self.retainRestore owner).wish =
      { self.wish.step (.release owner) with owners := self.externalInteractionOwners } := by
  unfold retainRestore
  split
  · next h => simp [wish, forgetRestore, Wish.step, h]
  · next h => simp [wish, forgetRestore, Wish.step, h]

@[simp]
theorem shuttingDown_retainRestore (self : SidebarApp) (owner : InteractionOwner) :
    (self.retainRestore owner).shuttingDown = self.shuttingDown := by
  unfold retainRestore
  split <;> rfl

theorem Blocked.retainRestore {self : SidebarApp} {owner : InteractionOwner} (h : self.Blocked) :
    (self.retainRestore owner).Blocked := by
  unfold SidebarApp.retainRestore
  split
  · exact h
  · exact h

@[simp]
theorem shuttingDown_externalInteractionCallback (self : SidebarApp) (owner : InteractionOwner)
    (event : InteractionEvent) :
    (self.externalInteractionCallback owner event).shuttingDown = self.shuttingDown := by
  unfold externalInteractionCallback
  split
  · rfl
  · cases event with
    | interactionBegin => exact shuttingDown_setExternalInteraction _ _ _
    | interactionDefer => exact shuttingDown_setExternalInteraction _ _ _
    | interactionCancel => exact shuttingDown_setExternalInteraction _ _ _
    | interactionEnd =>
      dsimp only
      split <;> simp

theorem failed_externalInteractionCallback {self : SidebarApp} (owner : InteractionOwner)
    (event : InteractionEvent) (h : self.unsupportedLayerShell = true) :
    (self.externalInteractionCallback owner event).unsupportedLayerShell = true := by
  unfold externalInteractionCallback
  split
  · exact h
  · cases event with
    | interactionBegin => exact failed_setExternalInteraction owner true h
    | interactionDefer => exact failed_setExternalInteraction owner false h
    | interactionCancel => exact failed_setExternalInteraction owner false h
    | interactionEnd =>
      have hended : ((self.retainRestore owner).setExternalInteraction owner
          false).unsupportedLayerShell = true := by
        apply failed_setExternalInteraction
        unfold retainRestore
        split <;> exact h
      dsimp only
      split
      · exact failed_presentSidebar false hended
      · exact hended

/-- `external_interaction_callback` is an act on the wish. -/
theorem wish_externalInteractionCallback {self : SidebarApp} (owner : InteractionOwner)
    (event : InteractionEvent) (hrunning : self.shuttingDown = false) :
    (self.externalInteractionCallback owner event).wish = self.wish.step (event.act owner) := by
  unfold externalInteractionCallback
  rw [if_neg (by rw [hrunning]; exact Bool.false_ne_true)]
  cases event with
  | interactionBegin => exact wish_setExternalInteraction _ _ _
  | interactionDefer => exact wish_setExternalInteraction _ _ _
  | interactionCancel => exact wish_setExternalInteraction _ _ _
  | interactionEnd =>
    have hended : ((self.retainRestore owner).setExternalInteraction owner false).wish =
        self.wish.step (.release owner) := by
      rw [wish_setExternalInteraction, wish_retainRestore]
      unfold retainRestore
      split <;> rfl
    dsimp only
    split
    · next h =>
      rw [wish_presentSidebar, hended]
      simp [wish, InteractionEvent.act, Wish.step, h.1]
    · exact hended

/-- `external_interaction_callback` leaves the window settled. An owner defers only while it
blocks. -/
theorem settled_externalInteractionCallback {self : SidebarApp} {owner : InteractionOwner}
    {event : InteractionEvent} (h : self.Settled)
    (hdefer : event = .interactionDefer → owner ∈ self.externalInteractionOwners) :
    (self.externalInteractionCallback owner event).Settled := by
  unfold externalInteractionCallback
  by_cases hshutting : self.shuttingDown = true
  · rw [if_pos hshutting]
    exact h
  · rw [if_neg hshutting]
    have hrunning : self.shuttingDown = false := Bool.eq_false_iff.mpr hshutting
    have hblocked := h.blocked
    cases event with
    | interactionBegin => exact settled_setExternalInteraction_of hrunning hblocked fun _ => h
    | interactionCancel => exact settled_setExternalInteraction_of hrunning hblocked fun _ => h
    | interactionDefer =>
      refine settled_setExternalInteraction_of hrunning hblocked fun hunchanged => ?_
      exact absurd (hdefer rfl) (Finset.erase_eq_self.mp hunchanged)
    | interactionEnd =>
      dsimp only
      split
      · next hrestore =>
        exact settled_presentSidebar false (.inr fun howners => absurd hrestore.2.2 howners)
      · next hrestore =>
        refine settled_setExternalInteraction_of (by simpa using hrunning) hblocked.retainRestore
          fun hunchanged => ?_
        by_cases howed : owner ∈ self.deferredRestoreOwners
        · -- another owner still blocks the window
          have howners : (self.retainRestore owner).externalInteractionOwners ≠ ∅ := by
            rw [setExternalInteraction_of_unchanged hunchanged] at hrestore
            have hidle : owner ∉ self.externalInteractionOwners := by
              unfold retainRestore at hunchanged
              rw [if_pos howed] at hunchanged
              exact Finset.erase_eq_self.mp hunchanged
            exact fun hempty => hrestore ⟨howed, hidle, hempty⟩
          refine hblocked.retainRestore.imp_right fun hhidden => ?_
          rw [hhidden howners]
          exact iff_of_false Bool.false_ne_true fun hshown => howners hshown.2
        · unfold retainRestore
          rw [if_neg howed]
          exact h

@[simp]
theorem wish_externalErrorCallback (self : SidebarApp) (message : String) :
    (self.externalErrorCallback message).wish = self.wish := by
  unfold externalErrorCallback toastCallback
  split_ifs <;> rfl

@[simp]
theorem shuttingDown_externalErrorCallback (self : SidebarApp) (message : String) :
    (self.externalErrorCallback message).shuttingDown = self.shuttingDown := by
  unfold externalErrorCallback toastCallback
  split_ifs <;> rfl

theorem failed_externalErrorCallback {self : SidebarApp} (message : String)
    (h : self.unsupportedLayerShell = true) :
    (self.externalErrorCallback message).unsupportedLayerShell = true := by
  unfold externalErrorCallback toastCallback
  split_ifs <;> exact h

theorem settled_externalErrorCallback {self : SidebarApp} {message : String} (h : self.Settled) :
    (self.externalErrorCallback message).Settled := by
  unfold externalErrorCallback toastCallback
  split_ifs
  · exact h
  · exact h
  · exact h

/-- `toggle_sidebar` fails for good, or it hides or shows the sidebar. -/
theorem toggleSidebar_cases {self : SidebarApp} (h : self.Settled) :
    ∃ self' : SidebarApp, self'.wish = self.wish ∧ self'.shuttingDown = self.shuttingDown ∧
      self'.Settled ∧ (self.unsupportedLayerShell = true → self'.unsupportedLayerShell = true) ∧
      (self.toggleSidebar = self' ∧ self'.unsupportedLayerShell = true ∨
        self.toggleSidebar = self'.hideSidebar ∧ self.sidebarRequestedVisible = true ∨
        self.toggleSidebar = self'.showSidebar ∧ self.sidebarRequestedVisible = false) := by
  unfold toggleSidebar
  rcases ensureWindow_cases self with
    ⟨self', hensure, hwish, hshutting, hfailed⟩ |
    ⟨self', hensure, hwish, hshutting, hunsupported, hseen, -⟩
  · rw [hensure]
    exact ⟨self', hwish, hshutting, .inl hfailed, fun _ => hfailed, .inl ⟨rfl, hfailed⟩⟩
  · rw [hensure]
    have hrequested : self'.sidebarRequestedVisible = self.sidebarRequestedVisible :=
      congrArg Wish.requested hwish
    have hsettled : self'.Settled := by
      unfold Settled
      rw [hunsupported, hseen, hwish]
      exact h
    refine ⟨self', hwish, hshutting, hsettled, fun h => hunsupported.trans h, .inr ?_⟩
    dsimp only
    rw [hrequested]
    cases self.sidebarRequestedVisible with
    | true => exact .inl ⟨if_pos rfl, rfl⟩
    | false => exact .inr ⟨if_neg Bool.false_ne_true, rfl⟩

end SidebarApp
end NmSidebar
