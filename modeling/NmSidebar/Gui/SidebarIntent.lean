import NmSidebar.Gui.SidebarRuns

/-!
# The intention of the user

What the runs of the sidebar keep: the window follows the user's intention, a hidden sidebar stays
hidden until it is asked for, and an editor gives back the sidebar that it has hidden, unless
something has taken the editor's place.
-/

namespace NmSidebar

open Blocking

namespace Sidebar

/-! ## The end of an editor -/

/-- The event ends what is left of the editor that was started in a generation. -/
def EndsEditor (s : Sidebar) (generation : ℕ) : SidebarEvent → Prop
  | .editorExited generation' failure =>
    generation' = generation ∧ failure ≠ none ∧ s.presenter.session.Waits generation .exit
  | .busReady generation' connected =>
    generation' = generation ∧ connected = false ∧ s.presenter.session.Waits generation .bus
  | .ownerReply generation' owner =>
    generation' = generation ∧ owner = none ∧ s.presenter.session.Waits generation .owner
  | .ownerAppeared owner =>
    ∃ watch ∈ s.presenter.session.ownerWatch, watch.generation = generation ∧ owner ≠ watch.owner
  | .ownerVanished => ∃ watch ∈ s.presenter.session.ownerWatch, watch.generation = generation
  | _ => False

theorem EndsEditor.ofEditor {s : Sidebar} {generation : ℕ} {e : SidebarEvent}
    (h : s.EndsEditor generation e) : e.OfEditor := by
  cases e <;> first | exact trivial | exact absurd h id

/-- A callback that completes the session releases the editor. -/
theorem moved_completed {s : Sidebar} (h : s.Stable)
    {result : ExternalEditorSession × Option (Option String)}
    (ho : s.presenter.session.Outcome result) (hcompleted : result.2 ≠ none) :
    Moved s (s.sessionCallback result) [.release .profileEditor] := by
  rcases moved_sessionCallback h ho with ⟨hnone, -⟩ | ⟨-, hmoved, -⟩
  · exact absurd hnone hcompleted
  · exact hmoved

/-- The end of the current editor releases it. -/
theorem moved_endsEditor {s : Sidebar} (h : s.Stable) {e : SidebarEvent}
    (he : s.EndsEditor s.presenter.session.generation e) :
    Moved s (s.step e) [.release .profileEditor] := by
  have hcurrent : ∀ stage, s.presenter.session.Waits s.presenter.session.generation stage →
      s.presenter.session.isCurrent s.presenter.session.generation = true := fun stage hwaits =>
    (ExternalEditorSession.isCurrent_iff h.tracked h.sessionOpen hwaits).mpr rfl
  cases e with
  | editorExited generation failure =>
    obtain ⟨rfl, hfailure, hwaits⟩ := he
    obtain ⟨error, rfl⟩ := Option.ne_none_iff_exists'.mp hfailure
    have hmoved := moved_completed h
      (ExternalEditorSession.outcome_exited (some error) h.tracked h.sessionOpen hwaits)
      (by simp [ExternalEditorSession.exited, ExternalEditorSession.finish, hcurrent _ hwaits])
    rwa [show s.step (.editorExited _ (some error)) = _ from if_pos hwaits]
  | busReady generation connected =>
    obtain ⟨rfl, rfl, hwaits⟩ := he
    have hmoved := moved_completed h
      (ExternalEditorSession.outcome_busReady false h.tracked h.sessionOpen hwaits)
      (by simp [ExternalEditorSession.busReady, ExternalEditorSession.finish, hcurrent _ hwaits])
    rwa [show s.step (.busReady _ false) = _ from if_pos hwaits]
  | ownerReply generation owner =>
    obtain ⟨rfl, rfl, hwaits⟩ := he
    have hmoved := moved_completed h
      (ExternalEditorSession.outcome_ownerReply none h.tracked h.sessionOpen hwaits)
      (by
        have hwait : { s.presenter.session with wait := false }.isCurrent
          s.presenter.session.generation = true := hcurrent _ hwaits
        simp [ExternalEditorSession.ownerReply, ExternalEditorSession.finish, hcurrent _ hwaits,
          hwait])
    rwa [show s.step (.ownerReply _ none) = _ from if_pos hwaits]
  | ownerAppeared owner =>
    obtain ⟨watch, hwatch, -, howner⟩ := he
    have hmoved := moved_completed h
      (ExternalEditorSession.outcome_ownerAppeared owner h.tracked h.sessionOpen hwatch)
      (by
        simp [ExternalEditorSession.ownerAppeared, ExternalEditorSession.finish, howner,
          ExternalEditorSession.isCurrent_watch h.tracked h.sessionOpen hwatch])
    have hstep : s.step (.ownerAppeared owner) =
        s.sessionCallback (s.presenter.session.ownerAppeared watch owner) := by
      unfold step watchCallback
      rw [Option.mem_def.mp hwatch]
    rwa [hstep]
  | ownerVanished =>
    obtain ⟨watch, hwatch, -⟩ := he
    have hmoved := moved_completed h
      (ExternalEditorSession.outcome_ownerVanished h.tracked h.sessionOpen hwatch)
      (by
        simp [ExternalEditorSession.ownerVanished, ExternalEditorSession.finish,
          ExternalEditorSession.isCurrent_watch h.tracked h.sessionOpen hwatch])
    have hstep : s.step .ownerVanished =
        s.sessionCallback (s.presenter.session.ownerVanished watch) := by
      unfold step watchCallback
      rw [Option.mem_def.mp hwatch]
    rwa [hstep]
  | showCommand => exact absurd he id
  | hideCommand => exact absurd he id
  | toggleCommand => exact absurd he id
  | importProfile => exact absurd he id
  | chooserResponse response spawn => exact absurd he id
  | launch spawn => exact absurd he id
  | amneziawgInteraction active => exact absurd he id
  | parentChanged present => exact absurd he id
  | layerShellChanged layerShell => exact absurd he id
  | shutdown => exact absurd he id

/-! ## What an editor owes -/

/-- No chooser is open, and the editor of a generation owes the sidebar or has given it back. -/
def Owing (generation : ℕ) (s : Sidebar) : Prop :=
  .profileImport ∉ s.app.wish.owners ∧
    (s.presenter.session.generation = generation ∧ .profileEditor ∈ s.app.wish.deferred ∨
      generation < s.presenter.session.generation ∧ s.app.wish.requested = true)

/-- A step that goes on leaves the debt, and one that ends the editor pays it. -/
theorem owing_goesOnOrEnds {s s' : Sidebar} {generation : ℕ} (h : Owing generation s)
    (hstep : GoesOnOrEnds s s') : Owing generation s' := by
  obtain ⟨himport, howing⟩ := h
  rcases hstep with ⟨hmoved, hgeneration⟩ | ⟨hmoved, hgeneration⟩
  · unfold Owing
    rw [hmoved.wish, hgeneration]
    exact ⟨himport, howing⟩
  · unfold Owing
    rw [hmoved.wish, hgeneration]
    refine ⟨fun hmem => himport (Finset.mem_of_mem_erase hmem), .inr ?_⟩
    show _ ∧ (s.app.wish.step (.release .profileEditor)).requested = true
    rcases howing with ⟨heq, howed⟩ | ⟨hlt, hrequested⟩
    · exact ⟨by omega, Wish.requested_release howed⟩
    · exact ⟨by omega, Wish.requested_step hrequested trivial⟩

/-- What nobody has asked for and nothing has superseded leaves the debt, or pays it. -/
theorem owing_step {s : Sidebar} (h : s.Stable) {generation : ℕ} (hs : Owing generation s)
    {e : SidebarEvent} (hne : e ≠ .shutdown) (hexplicit : ¬e.IsExplicit)
    (hsupersedes : ¬e.Supersedes) : Owing generation (s.step e) := by
  by_cases he : e.OfEditor
  · exact owing_goesOnOrEnds hs (goesOnOrEnds_step h he)
  · cases e with
    | showCommand => exact absurd (.inl rfl) hexplicit
    | hideCommand => exact absurd (.inr (.inl rfl)) hexplicit
    | toggleCommand => exact absurd (.inr (.inr rfl)) hexplicit
    | importProfile => exact absurd (.inr rfl) hsupersedes
    | launch spawn => exact absurd (.inl ⟨spawn, rfl⟩) hsupersedes
    | shutdown => exact absurd rfl hne
    | parentChanged present => exact hs
    | layerShellChanged layerShell => exact hs
    | chooserResponse response spawn =>
      -- there is no chooser that could answer
      have hchooser : s.presenter.chooser ≠ true := fun hchooser =>
        hs.1 (h.importOwner.mpr (h.chooser.mp hchooser))
      have hsame : s.step (.chooserResponse response spawn) = s := if_pos (by simp [hchooser])
      rw [hsame]
      exact hs
    | amneziawgInteraction active =>
      have hwish := (moved_amneziawg h active).wish
      obtain ⟨himport, howing⟩ := hs
      obtain ⟨a, hact, hspares, hgrants, hother⟩ : ∃ a : Act InteractionOwner,
          (s.step (.amneziawgInteraction active)).app.wish = s.app.wish.step a ∧
            a.Spares .profileEditor ∧ a.Grants ∧
            .profileImport ∉ (s.app.wish.step a).owners := by
        cases active with
        | true =>
          exact ⟨.block .amneziawgImport, hwish, by simp [Act.Spares], trivial,
            by simpa [Wish.step] using himport⟩
        | false =>
          exact ⟨.release .amneziawgImport, hwish, by simp [Act.Spares], trivial,
            by simpa [Wish.step] using himport⟩
      unfold Owing
      rw [hact]
      exact ⟨hother, howing.imp (fun howed => ⟨howed.1, Wish.owed_step howed.2 hspares⟩)
        fun hheld => ⟨hheld.1, Wish.requested_step hheld.2 hgrants⟩⟩
    | editorExited generation failure => exact absurd trivial he
    | busReady generation connected => exact absurd trivial he
    | ownerReply generation owner => exact absurd trivial he
    | ownerAppeared owner => exact absurd trivial he
    | ownerVanished => exact absurd trivial he

theorem owing_run {s : Sidebar} (h : s.Stable) {generation : ℕ} (hs : Owing generation s)
    {events : List SidebarEvent} (hevents : ∀ e ∈ events, e ≠ .shutdown)
    (hquiet : ∀ e ∈ events, ¬e.IsExplicit ∧ ¬e.Supersedes) : Owing generation (s.run events) := by
  induction events generalizing s with
  | nil => exact hs
  | cons e events ih =>
    have hne := hevents e List.mem_cons_self
    obtain ⟨hexplicit, hsupersedes⟩ := hquiet e List.mem_cons_self
    obtain ⟨acts, -, hmoved⟩ := moved_step h hne
    apply ih hmoved.stable (owing_step h hs hne hexplicit hsupersedes)
    · exact fun e' he' => hevents e' (List.mem_cons_of_mem _ he')
    · exact fun e' he' => hquiet e' (List.mem_cons_of_mem _ he')

/-- A launch from a sidebar that is seen leaves its editor owing the sidebar. -/
theorem owing_launch {s : Sidebar} (h : s.Stable) (hparent : s.app.parentSet = true)
    (hshown : s.app.wish.Shown) :
    Owing (s.step (.launch none)).presenter.session.generation (s.step (.launch none)) := by
  have hstep : s.step (.launch none) = s.openEditor none :=
    if_neg (by rw [h.running]; exact Bool.false_ne_true)
  rcases moved_openEditor h s.presenter.chooser none hparent with
    ⟨-, hstate, hmoved⟩ | ⟨hne, -⟩
  · rw [hstep]
    have hwish : (s.openEditor none).app.wish = _ := hmoved.wish
    obtain ⟨hrequested, howners⟩ := hshown
    refine ⟨?_, .inl ⟨rfl, ?_⟩⟩
    · rw [hwish]
      simp [Wish.step]
    · rw [hwish]
      simp [Wish.step, hrequested]
  · exact absurd rfl hne

/-! ## Runs -/

theorem run_cons (s : Sidebar) (e : SidebarEvent) (events : List SidebarEvent) :
    s.run (e :: events) = (s.step e).run events := rfl

/-- An application that has not failed has not failed before. -/
theorem failed_run {s : Sidebar} (h : s.Stable) {events : List SidebarEvent}
    (hevents : ∀ e ∈ events, e ≠ .shutdown) (hfailed : s.app.unsupportedLayerShell = true) :
    (s.run events).app.unsupportedLayerShell = true := by
  induction events generalizing s with
  | nil => exact hfailed
  | cons e events ih =>
    obtain ⟨acts, -, hmoved⟩ := moved_step h (hevents e List.mem_cons_self)
    exact ih hmoved.stable (fun e' he' => hevents e' (List.mem_cons_of_mem _ he'))
      (hmoved.failed hfailed)

/-- The window is seen exactly when the wish is granted, while the application runs. -/
theorem Stable.visible_iff {s : Sidebar} (h : s.Stable)
    (hrunning : s.app.unsupportedLayerShell = false) :
    s.app.visible = true ↔
      s.app.sidebarRequestedVisible = true ∧ s.app.externalInteractionOwners = ∅ := by
  rcases h.settled with hfailed | hvisible
  · exact absurd (hrunning.symm.trans hfailed) Bool.false_ne_true
  · exact hvisible

/-- What holds of the sidebar between two callbacks. -/
structure Consistent (s : Sidebar) : Prop where
  visible : s.app.unsupportedLayerShell = false → (s.app.visible = true ↔
    s.app.sidebarRequestedVisible = true ∧ s.app.externalInteractionOwners = ∅)
  importOwner : .profileImport ∈ s.app.externalInteractionOwners ↔ s.presenter.state = .choosing
  editorOwner : .profileEditor ∉ s.app.externalInteractionOwners
  owed : .profileEditor ∈ s.app.deferredRestoreOwners →
    s.presenter.state = .editing ∧ s.presenter.session.pending = true ∧
      s.presenter.session.continuations s.presenter.session.generation = 1

theorem Stable.consistent {s : Sidebar} (h : s.Stable) : s.Consistent where
  visible := h.visible_iff
  importOwner := h.importOwner
  editorOwner := h.editorOwner
  owed := by
    intro howed
    have hstate := h.owed howed
    have hpending := h.pending.mpr hstate
    refine ⟨hstate, hpending, ?_⟩
    rw [h.tracked.current, if_pos hpending]

/-- An explicit hide: the command, or a toggle of a sidebar that is wished. -/
def Hides (s : Sidebar) (e : SidebarEvent) : Prop :=
  e = .hideCommand ∨ e = .toggleCommand ∧ s.app.sidebarRequestedVisible = true

/-- An explicit hide dismisses the wish, where the application goes on. -/
theorem dismissed_hides {s : Sidebar} (h : s.Stable) {e : SidebarEvent} (he : s.Hides e)
    (hrunning : (s.step e).app.unsupportedLayerShell = false) :
    (s.step e).app.wish.Dismissed := by
  rcases he with rfl | ⟨rfl, hrequested⟩
  · have hwish : (s.step .hideCommand).app.wish = _ := (moved_hide h).wish
    rw [hwish]
    exact Wish.dismissed_dismiss _
  · rcases moved_toggle h with ⟨-, hfailed⟩ | ⟨hmoved, -⟩ | ⟨-, hnot⟩
    · exact absurd (hrunning.symm.trans hfailed) Bool.false_ne_true
    · have hwish : (s.step .toggleCommand).app.wish = _ := hmoved.wish
      rw [hwish]
      exact Wish.dismissed_dismiss _
    · exact absurd (hnot.symm.trans hrequested) Bool.false_ne_true

/-! ## The window and the intention -/

/-- After an explicit hide, the sidebar is not seen before it is asked for again. -/
def StaysHidden (s : Sidebar) (e : SidebarEvent) (after : List SidebarEvent) : Prop :=
  s.Hides e → (∀ e' ∈ after, e' ≠ .showCommand ∧ e' ≠ .toggleCommand) →
    ((s.step e).run after).app.unsupportedLayerShell = false →
      ((s.step e).run after).app.visible = false

/-- An editor that was launched from a sidebar that was seen gives it back at its end, unless the
user has hidden or shown it since. -/
def GivesBack (s : Sidebar) (since : List SidebarEvent) (e : SidebarEvent)
    (after : List SidebarEvent) : Prop :=
  s.app.visible = true → s.app.parentSet = true → (∀ e' ∈ since, ¬e'.IsExplicit) →
    ((s.step (.launch none)).run since).EndsEditor
      (s.step (.launch none)).presenter.session.generation e →
    (∀ e' ∈ after, ¬e'.IsExplicit ∧ ¬e'.Launches) →
    ((((s.step (.launch none)).run since).step e).run after).app.unsupportedLayerShell = false →
    ((((s.step (.launch none)).run since).step e).run after).app.externalInteractionOwners = ∅ →
      ((((s.step (.launch none)).run since).step e).run after).app.visible = true

theorem staysHidden {s : Sidebar} (h : s.Stable) {e : SidebarEvent} {after : List SidebarEvent}
    (he : e ≠ .shutdown) (hafter : ∀ e' ∈ after, e' ≠ .shutdown) : s.StaysHidden e after := by
  intro hhides hshow hrunning
  obtain ⟨acts, -, hmoved⟩ := moved_step h he
  have hrunning' : (s.step e).app.unsupportedLayerShell = false := by
    by_contra hfailed
    have := failed_run hmoved.stable hafter (Bool.eq_true_of_not_eq_false hfailed)
    exact absurd (hrunning.symm.trans this) Bool.false_ne_true
  have hdismissed : ((s.step e).run after).app.wish.Dismissed :=
    wish_run hmoved.stable hafter
      (fun e' he' acts hacts a ha w hw => Wish.dismissed_step hw
        (SidebarEvent.ne_request (hshow e' he').1 (hshow e' he').2 hacts a ha))
      (dismissed_hides h hhides hrunning')
  rw [← Bool.not_eq_true, (stable_run hmoved.stable hafter).visible_iff hrunning]
  rintro ⟨hrequested, -⟩
  exact absurd (hdismissed.1.symm.trans hrequested) Bool.false_ne_true

theorem givesBack {s : Sidebar} (h : s.Stable) {since : List SidebarEvent} {e : SidebarEvent}
    {after : List SidebarEvent} (hsince : ∀ e' ∈ since, e' ≠ .shutdown) (he : e ≠ .shutdown)
    (hafter : ∀ e' ∈ after, e' ≠ .shutdown) (hsupersedes : ∀ e' ∈ since, ¬e'.Supersedes) :
    s.GivesBack since e after := by
  intro hvisible hparent hexplicit hends hquiet hrunning howners
  obtain ⟨acts, -, hlaunched⟩ := moved_step h (show SidebarEvent.launch none ≠ .shutdown by simp)
  have hstable := stable_run hlaunched.stable hsince
  obtain ⟨acts', -, hended⟩ := moved_step hstable he
  have hstable' := stable_run hended.stable hafter
  -- the application has not failed at the launch, so that the sidebar was wished
  have hshown : s.app.wish.Shown := by
    rcases h.settled with hfailed | hiff
    · have hfailed' := hended.failed (failed_run hlaunched.stable hsince (hlaunched.failed hfailed))
      exact absurd (hrunning.symm.trans (failed_run hended.stable hafter hfailed'))
        Bool.false_ne_true
    · exact hiff.mp hvisible
  obtain ⟨himport, howing⟩ := owing_run hlaunched.stable (owing_launch h hparent hshown) hsince
    fun e' he' => ⟨hexplicit e' he', hsupersedes e' he'⟩
  have hrequested :
      (((s.step (.launch none)).run since).step e).app.wish.requested = true := by
    rcases howing with ⟨hgeneration, howed⟩ | ⟨-, hrequested⟩
    · rw [← hgeneration] at hends
      rw [(moved_endsEditor hstable hends).wish]
      exact Wish.requested_release howed
    · rcases goesOnOrEnds_step hstable hends.ofEditor with ⟨hmoved, -⟩ | ⟨hmoved, -⟩
      · rw [hmoved.wish]
        exact hrequested
      · rw [hmoved.wish]
        show (Wish.step _ (Act.release InteractionOwner.profileEditor)).requested = true
        exact Wish.requested_step hrequested trivial
  have hheld := wish_run (P := fun w => w.requested = true) hended.stable hafter
    (fun e' he' acts hacts a ha w hw => Wish.requested_step hw
      (SidebarEvent.grants_acts (hquiet e' he').1 (hquiet e' he').2 hacts a ha)) hrequested
  exact (hstable'.visible_iff hrunning).mpr ⟨hheld, howners⟩

/-- Between two callbacks the sidebar is seen exactly when it is wished and no owner blocks it, the
owners are those of the presenter's state, and only the current editor owes the sidebar. What was
hidden stays hidden until it is asked for, and the editor gives back the sidebar that it has
hidden, unless a later launch or a chooser has taken its place. -/
theorem sidebar_followsIntent (layerShell : LayerShell) (events : List SidebarEvent)
    (hevents : ∀ e ∈ events, e ≠ .shutdown) :
    ((initial layerShell).run events).Consistent ∧
    (∀ before e after, events = before ++ e :: after →
      ((initial layerShell).run before).StaysHidden e after) ∧
    ∀ before since e after, events = before ++ .launch none :: (since ++ e :: after) →
      (∀ e' ∈ since, ¬e'.Supersedes) →
        ((initial layerShell).run before).GivesBack since e after := by
  have hstable := stable_initial layerShell
  refine ⟨(stable_run hstable hevents).consistent, ?_, ?_⟩
  · rintro before e after rfl
    have hbefore := stable_run hstable fun e' he' => hevents e' (List.mem_append_left _ he')
    exact staysHidden hbefore (hevents e (by simp)) fun e' he' => hevents e' (by simp [he'])
  · rintro before since e after rfl hsupersedes
    have hbefore := stable_run hstable fun e' he' => hevents e' (List.mem_append_left _ he')
    exact givesBack hbefore (fun e' he' => hevents e' (by simp [he'])) (hevents e (by simp))
      (fun e' he' => hevents e' (by simp [he'])) hsupersedes

/-- The sidebar is shown, an editor hides it, and a chooser blocks it while the editor ends. -/
def editorRun : List SidebarEvent :=
  [.showCommand, .launch none, .amneziawgInteraction true, .editorExited 2 (some "killed"),
    .amneziawgInteraction false]

theorem sidebar_followsIntent_sample :
    ((initial ⟨true, true⟩).run editorRun).Consistent ∧
    ((initial ⟨true, true⟩).run editorRun).app.visible = true := by
  have h := sidebar_followsIntent ⟨true, true⟩ editorRun (by simp [editorRun])
  refine ⟨h.1, h.2.2 [.showCommand] [.amneziawgInteraction true]
    (.editorExited 2 (some "killed")) [.amneziawgInteraction false] rfl
    (by simp [SidebarEvent.Supersedes]) ?_ ?_ (by simp [SidebarEvent.IsExplicit]) ?_
    (by simp [SidebarEvent.IsExplicit, SidebarEvent.Launches]) ?_ ?_⟩
  · decide +kernel
  · decide +kernel
  · exact ⟨by decide +kernel, by simp, by unfold ExternalEditorSession.Waits; decide +kernel⟩
  · decide +kernel
  · decide +kernel

/-- A launch that fails takes the place of the editor that is open, whose end then gives nothing
back. -/
theorem superseded_notGivenBack :
    ¬∀ (layerShell : LayerShell) (before since : List SidebarEvent) (e : SidebarEvent),
      (∀ e' ∈ before ++ since ++ [e], e' ≠ .shutdown) →
        ((initial layerShell).run before).GivesBack since e [] := by
  intro h
  have hvisible := h ⟨true, true⟩ [.showCommand] [.launch (some "no such file")]
    (.editorExited 2 (some "killed")) (by simp) (by decide +kernel) (by decide +kernel)
    (by simp [SidebarEvent.IsExplicit])
    ⟨by decide +kernel, by simp, by unfold ExternalEditorSession.Waits; decide +kernel⟩
    (by simp) (by decide +kernel) (by decide +kernel)
  exact absurd hvisible (by decide +kernel)

end Sidebar
end NmSidebar
