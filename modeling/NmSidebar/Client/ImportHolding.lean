import NmSidebar.Client.AwgClient

/-!
# The activity of the client and its import

What the activity, the chooser and the loaders have to do with one another, and what those who call
back from within a callout may do to them.
-/

namespace NmSidebar

open Text Effects

/-! ## The import -/

/-- The part of the client that its imports are about. -/
structure ImportView where
  authorized : Bool
  activity : AwgActivity
  activityId : ℕ
  started : Bool
  stopping : Bool
  uiEvent : Bool
  presenterStopping : Bool
  chooser : Option ℕ
  importLoader : Option ℕ
  loaders : List ImportLoader

/-- The imports of a client. -/
def AwgClient.importView (client : AwgClient) : ImportView where
  authorized := client.authorized
  activity := client.activity
  activityId := client.activityId
  started := client.started
  stopping := client.stopping
  uiEvent := client.uiEvent
  presenterStopping := client.presenterStopping
  chooser := client.chooser
  importLoader := client.importLoader
  loaders := client.loaders

/-- The activity is that of an import whose file is selected or loaded. -/
def AwgActivity.isImporting : AwgActivity → Bool
  | .importSelect | .importLoad => true
  | .idle | .import | .replaceConfirm | .replace | .up | .down | .deleteConfirm | .delete => false

theorem AwgActivity.isInteraction_of_isImporting {activity : AwgActivity}
    (h : activity.isImporting = true) : activity.isInteraction = true := by
  cases activity <;> first | rfl | exact absurd h Bool.false_ne_true

theorem AwgActivity.not_isImporting_of_isCommand {activity : AwgActivity}
    (h : activity.isCommand = true) : activity.isImporting = false := by
  cases activity <;> first | rfl | exact absurd h Bool.false_ne_true

theorem AwgActivity.isImporting_iff {activity : AwgActivity} :
    activity.isImporting = true ↔ activity = .importSelect ∨ activity = .importLoad := by
  cases activity <;> simp [AwgActivity.isImporting]

@[simp] theorem isImporting_confirmation (kind : ConfirmationKind) :
    kind.activity.isImporting = false := by
  cases kind <;> rfl

/-- A load that goes on: its timer is there. -/
structure ImportLoader.Pending (loader : ImportLoader) : Prop where
  begun : loader.started = true
  uncancelled : loader.cancelled = false
  timed : loader.timeoutSource = true
  silent : loader.deliveries = []

/-- What a loader for the activity delivers: a configuration where it has succeeded, and nothing but
that it was cancelled to another activity. -/
structure ImportDelivery.Fits (delivery : ImportDelivery) (activityId : ℕ) : Prop where
  config : delivery.config.isSome = true ↔ delivery.result = .success
  sized : ∀ bytes ∈ delivery.config, 1 ≤ bytes.length ∧ bytes.length ≤ maxConfigSize
  own : delivery.result ≠ .cancelled →
    delivery.activity = .importLoad ∧ delivery.activityId = activityId

/-- A load that has ended: its callback was called once. -/
def ImportLoader.Delivered (loader : ImportLoader) : Prop :=
  ∃ delivery, loader.deliveries = [delivery] ∧ delivery.Fits loader.activityId

namespace ImportView

/-- The activity that the loader which is held is for. -/
def heldFor (view : ImportView) : Option ℕ :=
  (view.importLoader.bind fun index => view.loaders[index]?).map (·.activityId)

/-- Holds wherever the client calls out. -/
structure Owned (view : ImportView) : Prop where
  authorized : view.activity.isImporting = true → view.authorized = true
  running : view.activity ≠ .idle → view.started = true ∧ view.stopping = false
  listens : view.stopping = false → view.uiEvent = true ∧ view.presenterStopping = false
  held : ∀ index ∈ view.importLoader, ∃ loader ∈ view.loaders[index]?, loader.completed = false
  pending : ∀ index, ∀ loader ∈ view.loaders[index]?, loader.completed = false →
    view.importLoader = some index ∧ loader.Pending
  delivered : ∀ loader ∈ view.loaders, loader.completed = true → loader.Delivered

/-- Holds between callbacks: who selects a file has a chooser, and who loads one a loader. -/
structure Settled (view : ImportView) : Prop where
  select : view.chooser = if view.activity = .importSelect then some view.activityId else none
  load : view.heldFor = if view.activity = .importLoad then some view.activityId else none

/-- The activity goes on or ends. -/
structure Eases (view view' : ImportView) : Prop where
  id : view'.activityId = view.activityId
  started : view'.started = view.started
  stopping : view'.stopping = view.stopping
  activity : view'.activity = view.activity ∨ view'.activity = .idle

/-- What the calls from within a callout do: an import that goes on keeps its chooser and its loader,
and one that they end has none. -/
structure Tends (view view' : ImportView) : Prop extends Eases view view' where
  chooser : view'.chooser = view.chooser ∨ view'.chooser = none
  loader : view'.importLoader = view.importLoader ∧ view'.heldFor = view.heldFor ∨
    view'.importLoader = none
  goesOn : view.activity.isImporting = true → view'.activity = view.activity →
    view'.chooser = view.chooser ∧ view'.importLoader = view.importLoader ∧
      view'.heldFor = view.heldFor
  ended : view.activity.isImporting = true → view'.activity = .idle →
    view'.chooser = none ∧ view'.importLoader = none

/-- There is neither a chooser nor a loader. -/
structure Bare (view : ImportView) : Prop extends Owned view where
  unchosen : view.chooser = none
  unheld : view.importLoader = none

/-- Nor is there an import that needs one. -/
structure Free (view : ImportView) : Prop extends Bare view where
  other : view.activity.isImporting = false

variable {view view' view'' : ImportView} {activityId : ℕ}

/-! ## What the calls from within a callout do -/

theorem Eases.refl (view : ImportView) : view.Eases view := ⟨rfl, rfl, rfl, .inl rfl⟩

theorem Eases.trans (h : view.Eases view') (h' : view'.Eases view'') : view.Eases view'' where
  id := h'.id.trans h.id
  started := h'.started.trans h.started
  stopping := h'.stopping.trans h.stopping
  activity := by
    rcases h'.activity with hsame | hidle
    · exact h.activity.imp hsame.trans hsame.trans
    · exact .inr hidle

/-- No import begins. -/
theorem Eases.other (h : view.Eases view') (hother : view.activity.isImporting = false) :
    view'.activity.isImporting = false := by
  rcases h.activity with hsame | hidle
  · rwa [hsame]
  · rw [hidle]
    rfl

theorem Tends.refl (view : ImportView) : view.Tends view where
  toEases := .refl view
  chooser := .inl rfl
  loader := .inl ⟨rfl, rfl⟩
  goesOn _ _ := ⟨rfl, rfl, rfl⟩
  ended himporting hidle := by
    rw [hidle] at himporting
    exact absurd himporting Bool.false_ne_true

theorem Tends.trans (h : view.Tends view') (h' : view'.Tends view'') : view.Tends view'' where
  toEases := h.toEases.trans h'.toEases
  chooser := by
    rcases h'.chooser with hsame | hnone
    · exact h.chooser.imp hsame.trans hsame.trans
    · exact .inr hnone
  loader := by
    rcases h'.loader with ⟨hsame, hfor⟩ | hnone
    · exact h.loader.imp (fun h => ⟨hsame.trans h.1, hfor.trans h.2⟩) hsame.trans
    · exact .inr hnone
  goesOn himporting hactivity := by
    rcases h.activity with hsame | hidle
    · obtain ⟨hchooser, hloader, hfor⟩ := h.goesOn himporting hsame
      obtain ⟨hchooser', hloader', hfor'⟩ :=
        h'.goesOn (hsame.symm ▸ himporting) (hactivity.trans hsame.symm)
      exact ⟨hchooser'.trans hchooser, hloader'.trans hloader, hfor'.trans hfor⟩
    · -- an activity that has ended does not begin again
      have hidle' : view.activity = .idle := by
        rcases h'.activity with hsame' | hidle'
        · exact (hactivity.symm.trans hsame').trans hidle
        · exact hactivity.symm.trans hidle'
      rw [hidle'] at himporting
      exact absurd himporting Bool.false_ne_true
  ended himporting hidle := by
    rcases h.activity with hsame | hended
    · exact h'.ended (hsame.symm ▸ himporting) hidle
    · obtain ⟨hchooser, hloader⟩ := h.ended himporting hended
      refine ⟨?_, ?_⟩
      · exact h'.chooser.elim (fun hsame => hsame.trans hchooser) fun hnone => hnone
      · exact h'.loader.elim (fun hsame => hsame.1.trans hloader) fun hnone => hnone

theorem heldFor_of_unheld (h : view.importLoader = none) : view.heldFor = none := by
  unfold heldFor
  rw [h]
  rfl

/-- A loader that is held is for some activity. -/
theorem Owned.unheld_of_heldFor (h : view.Owned) (hfor : view.heldFor = none) :
    view.importLoader = none := by
  cases hheld : view.importLoader with
  | none => rfl
  | some index =>
    obtain ⟨loader, hloader, -⟩ := h.held index hheld
    unfold heldFor at hfor
    rw [hheld, Option.bind_some, Option.mem_def.mp hloader] at hfor
    exact absurd hfor (by simp)

theorem Bare.tends (h : view.Bare) (howned : view'.Owned) (htends : view.Tends view') :
    view'.Bare where
  toOwned := howned
  unchosen := htends.chooser.elim (fun hsame => hsame.trans h.unchosen) fun hnone => hnone
  unheld := htends.loader.elim (fun hsame => hsame.1.trans h.unheld) fun hnone => hnone

theorem Free.tends (h : view.Free) (howned : view'.Owned) (htends : view.Tends view') :
    view'.Free :=
  ⟨h.toBare.tends howned htends, htends.other h.other⟩

/-- An activity that is not running is idle. -/
theorem Owned.idle_of_stopping (h : view.Owned) (hstopping : view.stopping = true) :
    view.activity = .idle := by
  by_contra hbusy
  exact absurd (hstopping.symm.trans (h.running hbusy).2) (by simp)

theorem Bare.free_of_idle (h : view.Bare) (hidle : view.activity = .idle) : view.Free :=
  ⟨h, by rw [hidle]; rfl⟩

theorem Free.settled (h : view.Free) : view.Settled where
  select := by
    rw [h.unchosen, if_neg]
    intro hactivity
    exact absurd (hactivity ▸ h.other) (by simp [AwgActivity.isImporting])
  load := by
    rw [heldFor_of_unheld h.unheld, if_neg]
    intro hactivity
    exact absurd (hactivity ▸ h.other) (by simp [AwgActivity.isImporting])

/-- Between callbacks there is neither a chooser nor a loader where there is no import. -/
theorem Settled.free (h : view.Settled) (howned : view.Owned)
    (hother : view.activity.isImporting = false) : view.Free where
  toOwned := howned
  unchosen := by
    rw [h.select, if_neg]
    intro hactivity
    exact absurd (hactivity ▸ hother) (by simp [AwgActivity.isImporting])
  unheld := by
    refine howned.unheld_of_heldFor ?_
    rw [h.load, if_neg]
    intro hactivity
    exact absurd (hactivity ▸ hother) (by simp [AwgActivity.isImporting])
  other := hother

theorem Settled.tends (h : view.Settled) (howned : view.Owned) (howned' : view'.Owned)
    (htends : view.Tends view') : view'.Settled := by
  by_cases himporting : view.activity.isImporting = true
  · rcases htends.activity with hsame | hidle
    · obtain ⟨hchooser, -, hfor⟩ := htends.goesOn himporting hsame
      exact ⟨by rw [hchooser, hsame, htends.id, h.select], by rw [hfor, hsame, htends.id, h.load]⟩
    · obtain ⟨hchooser, hloader⟩ := htends.ended himporting hidle
      exact (Bare.free_of_idle ⟨howned', hchooser, hloader⟩ hidle).settled
  · have hfree := h.free howned (Bool.eq_false_iff.mpr himporting)
    exact (hfree.tends howned' htends).settled

/-! ## Steps -/

/-- The activity has ended. -/
def finish (view : ImportView) : ImportView := { view with activity := .idle }

theorem Owned.finish (h : view.Owned) : view.finish.Owned where
  authorized himporting := absurd himporting Bool.false_ne_true
  running hbusy := absurd rfl hbusy
  listens := h.listens
  held := h.held
  pending := h.pending
  delivered := h.delivered

/-- Who ends an import has neither its chooser nor its loader any more. -/
theorem tends_finish (hended : view.activity.isImporting = true →
    view.chooser = none ∧ view.importLoader = none) : view.Tends view.finish where
  id := rfl
  started := rfl
  stopping := rfl
  activity := .inr rfl
  chooser := .inl rfl
  loader := .inl ⟨rfl, rfl⟩
  goesOn _ _ := ⟨rfl, rfl, rfl⟩
  ended himporting _ := hended himporting

/-- The activity goes on as another one. -/
def enter (view : ImportView) (activity : AwgActivity) : ImportView := { view with activity }

theorem Owned.enter (h : view.Owned) {activity : AwgActivity} (hbusy : view.activity ≠ .idle)
    (hauthorized : activity.isImporting = true → view.authorized = true) :
    (view.enter activity).Owned where
  authorized := hauthorized
  running _ := h.running hbusy
  listens := h.listens
  held := h.held
  pending := h.pending
  delivered := h.delivered

theorem Bare.enter (h : view.Bare) {activity : AwgActivity} (hbusy : view.activity ≠ .idle)
    (hauthorized : activity.isImporting = true → view.authorized = true) :
    (view.enter activity).Bare :=
  ⟨h.toOwned.enter hbusy hauthorized, h.unchosen, h.unheld⟩

/-- A new activity has begun. -/
def begin (view : ImportView) (activity : AwgActivity) : ImportView :=
  { view with activity, activityId := view.activityId + 1 }

theorem Bare.begin (h : view.Bare) {activity : AwgActivity}
    (hrunning : view.started = true ∧ view.stopping = false)
    (hauthorized : activity.isImporting = true → view.authorized = true) :
    (view.begin activity).Bare where
  authorized := hauthorized
  running _ := hrunning
  listens := h.listens
  held := h.held
  pending := h.pending
  delivered := h.delivered
  unchosen := h.unchosen
  unheld := h.unheld

/-- The chooser is gone. -/
def unchoose (view : ImportView) : ImportView := { view with chooser := none }

theorem Owned.unchoose (h : view.Owned) : view.unchoose.Owned where
  authorized := h.authorized
  running := h.running
  listens := h.listens
  held := h.held
  pending := h.pending
  delivered := h.delivered

/-- There is a chooser. -/
def choose (view : ImportView) (activityId : ℕ) : ImportView :=
  { view with chooser := some activityId }

theorem Owned.choose (h : view.Owned) (activityId : ℕ) : (view.choose activityId).Owned where
  authorized := h.authorized
  running := h.running
  listens := h.listens
  held := h.held
  pending := h.pending
  delivered := h.delivered

/-- The user is authorized. -/
theorem Owned.authorize (h : view.Owned) : { view with authorized := true }.Owned where
  authorized _ := rfl
  running := h.running
  listens := h.listens
  held := h.held
  pending := h.pending
  delivered := h.delivered

/-- The authorization is gone, and the activity with it that needs the user. -/
def withdraw (view : ImportView) : ImportView :=
  { view with
    authorized := false
    activity := if view.activity.isInteraction then .idle else view.activity }

theorem not_isImporting_withdraw : view.withdraw.activity.isImporting = false := by
  show (if view.activity.isInteraction = true then AwgActivity.idle
    else view.activity).isImporting = false
  split
  · rfl
  · rename_i hother
    by_contra himporting
    exact hother (AwgActivity.isInteraction_of_isImporting (Bool.eq_true_of_not_eq_false himporting))

theorem Owned.withdraw (h : view.Owned) : view.withdraw.Owned where
  authorized himporting :=
    absurd (not_isImporting_withdraw.symm.trans himporting) Bool.false_ne_true
  running hbusy := h.running fun hidle => hbusy (by
    show (if view.activity.isInteraction = true then AwgActivity.idle else view.activity) = .idle
    rw [hidle]
    rfl)
  listens := h.listens
  held := h.held
  pending := h.pending
  delivered := h.delivered

/-- What was done after the authorization was withdrawn, and the import has lost what it had. -/
theorem tends_withdraw (h : view.withdraw.Tends view')
    (hended : view.activity.isImporting = true → view'.chooser = none ∧ view'.importLoader = none) :
    view.Tends view' where
  id := h.id
  started := h.started
  stopping := h.stopping
  activity := by
    rcases h.activity with hsame | hidle
    · rw [hsame]
      show (if view.activity.isInteraction = true then AwgActivity.idle else view.activity) = _ ∨
        (if view.activity.isInteraction = true then AwgActivity.idle else view.activity) = _
      split
      · exact .inr rfl
      · exact .inl rfl
    · exact .inr hidle
  chooser := h.chooser
  loader := h.loader
  goesOn himporting hactivity := by
    have hother := h.other not_isImporting_withdraw
    rw [hactivity] at hother
    exact absurd (hother.symm.trans himporting) Bool.false_ne_true
  ended himporting _ := hended himporting

/-- The controller has stopped. -/
def stop (view : ImportView) : ImportView :=
  { view with
    authorized := false
    activity := .idle
    activityId := min (view.activityId + 1) (2 ^ 64 - 1)
    started := false
    stopping := true
    uiEvent := false
    presenterStopping := true }

theorem Owned.stop (h : view.Owned) : view.stop.Owned where
  authorized himporting := absurd himporting Bool.false_ne_true
  running hbusy := absurd rfl hbusy
  listens hrunning := absurd hrunning.symm Bool.false_ne_true
  held := h.held
  pending := h.pending
  delivered := h.delivered

/-- Who has stopped listens no more. -/
theorem Owned.deafen (h : view.Owned) (hstopping : view.stopping = true)
    (uiEvent presenterStopping : Bool) :
    { view with uiEvent := uiEvent, presenterStopping := presenterStopping }.Owned where
  authorized := h.authorized
  running := h.running
  listens hrunning := absurd (hstopping.symm.trans hrunning) (by simp)
  held := h.held
  pending := h.pending
  delivered := h.delivered

/-! ## Loaders -/

/-- Where an element of a changed list comes from. -/
theorem of_getElem?_modify {α : Type} {l : List α} {index index' : ℕ} {f : α → α} {a a' : α}
    (ha : l[index]? = some a) (ha' : (l.modify index f)[index']? = some a') :
    index = index' ∧ f a = a' ∨ index ≠ index' ∧ l[index']? = some a' := by
  rw [List.getElem?_modify] at ha'
  obtain ⟨found, hfound, hmapped⟩ := Option.map_eq_some_iff.mp ha'
  split at hmapped
  · rename_i hindex
    subst hindex
    obtain rfl := Option.some.inj (ha.symm.trans hfound)
    exact .inl ⟨rfl, hmapped⟩
  · rename_i hindex
    obtain rfl : found = a' := hmapped
    exact .inr ⟨hindex, hfound⟩

/-- The loader with the index has gone through `f`, and the presenter has let it go. -/
def release (view : ImportView) (index : ℕ) (f : ImportLoader → ImportLoader) : ImportView :=
  { view with importLoader := none, loaders := view.loaders.modify index f }

/-- A load that ends leaves none. -/
theorem Owned.release (h : view.Owned) {index : ℕ} {loader : ImportLoader}
    {f : ImportLoader → ImportLoader} (hloader : view.loaders[index]? = some loader)
    (hpending : loader.completed = false) (hcompleted : (f loader).completed = true)
    (hdelivered : (f loader).Delivered) : (view.release index f).Owned where
  authorized := h.authorized
  running := h.running
  listens := h.listens
  held index' hmem := absurd hmem (by simp [ImportView.release])
  pending index' loader' hmem hpending' := by
    rcases of_getElem?_modify hloader hmem with ⟨-, rfl⟩ | ⟨hindex, hfound⟩
    · exact absurd (hpending'.symm.trans hcompleted) Bool.false_ne_true
    · -- two loads that go on would both be the one that is held
      have hheld := (h.pending index loader hloader hpending).1
      have hheld' := (h.pending index' loader' hfound hpending').1
      exact absurd (Option.some.inj (hheld.symm.trans hheld')) hindex
  delivered loader' hmem hcompleted' := by
    obtain ⟨index', hindex'⟩ := List.mem_iff_getElem?.mp hmem
    rcases of_getElem?_modify hloader hindex' with ⟨-, rfl⟩ | ⟨-, hfound⟩
    · exact hdelivered
    · exact h.delivered loader' (List.mem_of_getElem? hfound) hcompleted'

/-- The loader with the index has gone through `f`. -/
def learn (view : ImportView) (index : ℕ) (f : ImportLoader → ImportLoader) : ImportView :=
  { view with loaders := view.loaders.modify index f }

theorem heldFor_learn (index : ℕ) {f : ImportLoader → ImportLoader}
    (hid : ∀ loader, (f loader).activityId = loader.activityId) :
    (view.learn index f).heldFor = view.heldFor := by
  show (view.importLoader.bind fun index' => (view.loaders.modify index f)[index']?).map
    (·.activityId) = (view.importLoader.bind fun index' => view.loaders[index']?).map (·.activityId)
  cases view.importLoader with
  | none => rfl
  | some index' =>
    rw [Option.bind_some, Option.bind_some, List.getElem?_modify]
    cases view.loaders[index']? with
    | none => rfl
    | some loader =>
      show some (if index = index' then f loader else loader).activityId = some loader.activityId
      split
      · rw [hid]
      · rfl

theorem tends_learn (index : ℕ) {f : ImportLoader → ImportLoader}
    (hid : ∀ loader, (f loader).activityId = loader.activityId) :
    view.Tends (view.learn index f) where
  id := rfl
  started := rfl
  stopping := rfl
  activity := .inl rfl
  chooser := .inl rfl
  loader := .inl ⟨rfl, heldFor_learn index hid⟩
  goesOn _ _ := ⟨rfl, rfl, heldFor_learn index hid⟩
  ended himporting hidle := by
    rw [show view.activity = .idle from hidle] at himporting
    exact absurd himporting Bool.false_ne_true

/-- A loader that was completed before may learn that its timer or its worker is done. -/
theorem Owned.learn (h : view.Owned) {index : ℕ} {loader : ImportLoader}
    {f : ImportLoader → ImportLoader} (hloader : view.loaders[index]? = some loader)
    (hcompleted : loader.completed = true) (hsame : (f loader).completed = true)
    (hdeliveries : (f loader).deliveries = loader.deliveries)
    (hid : (f loader).activityId = loader.activityId) :
    (view.learn index f).Owned where
  authorized := h.authorized
  running := h.running
  listens := h.listens
  held index' hmem := by
    obtain ⟨held, hheld, hpending⟩ := h.held index' hmem
    have hindex : index ≠ index' := by
      rintro rfl
      obtain rfl := Option.some.inj (hloader.symm.trans hheld)
      exact absurd (hpending.symm.trans hcompleted) Bool.false_ne_true
    refine ⟨held, ?_, hpending⟩
    show (view.loaders.modify index f)[index']? = some held
    rw [List.getElem?_modify_ne f _ hindex]
    exact hheld
  pending index' loader' hmem hpending := by
    rcases of_getElem?_modify hloader hmem with ⟨-, rfl⟩ | ⟨-, hfound⟩
    · exact absurd (hpending.symm.trans hsame) Bool.false_ne_true
    · exact h.pending index' loader' hfound hpending
  delivered loader' hmem hcompleted' := by
    obtain ⟨index', hindex'⟩ := List.mem_iff_getElem?.mp hmem
    rcases of_getElem?_modify hloader hindex' with ⟨-, rfl⟩ | ⟨-, hfound⟩
    · obtain ⟨delivery, hdelivery, hfits⟩ :=
        h.delivered loader (List.mem_of_getElem? hloader) hcompleted
      exact ⟨delivery, hdeliveries.trans hdelivery, hid ▸ hfits⟩
    · exact h.delivered loader' (List.mem_of_getElem? hfound) hcompleted'

/-- The last element of a list is changed. -/
theorem modify_concat {α : Type} (l : List α) (a : α) (f : α → α) :
    (l ++ [a]).modify l.length f = l ++ [f a] := by
  induction l with
  | nil => rfl
  | cons head rest ih =>
    show head :: (rest ++ [a]).modify rest.length f = head :: (rest ++ [f a])
    rw [ih]

/-- There is a new loader. -/
def hold (view : ImportView) (loader : ImportLoader) : ImportView :=
  { view with importLoader := some view.loaders.length, loaders := view.loaders ++ [loader] }

/-- A new load is the only one that goes on. -/
theorem Bare.hold (h : view.Bare) {loader : ImportLoader} (hnew : loader.completed = false)
    (hpending : loader.Pending) : (view.hold loader).Owned where
  authorized := h.authorized
  running := h.running
  listens := h.listens
  held index hmem := by
    obtain rfl : view.loaders.length = index := Option.some.inj hmem
    exact ⟨loader, List.getElem?_concat_length, hnew⟩
  pending index loader' hmem hpending' := by
    have hmem : (view.loaders ++ [loader])[index]? = some loader' := hmem
    rcases lt_trichotomy index view.loaders.length with hlt | rfl | hgt
    · rw [List.getElem?_append_left hlt] at hmem
      -- the loads of before have all ended
      have hheld := (h.pending index loader' hmem hpending').1
      exact absurd (h.unheld.symm.trans hheld) (by simp)
    · rw [List.getElem?_concat_length] at hmem
      obtain rfl := Option.some.inj hmem
      exact ⟨rfl, hpending⟩
    · rw [List.getElem?_eq_none (by simpa using hgt)] at hmem
      exact absurd hmem (by simp)
  delivered loader' hmem hcompleted := by
    rcases List.mem_append.mp hmem with hold | hlast
    · exact h.delivered loader' hold hcompleted
    · obtain rfl := List.mem_singleton.mp hlast
      exact absurd (hnew.symm.trans hcompleted) Bool.false_ne_true

/-- The loader is let go. -/
def letGo (view : ImportView) : ImportView := { view with importLoader := none }

/-- A new load that has ended at once. -/
theorem Bare.letGo (h : view.Bare) {loader : ImportLoader} (hcompleted : loader.completed = true)
    (hdelivered : loader.Delivered) : (view.hold loader).letGo.Bare where
  authorized := h.authorized
  running := h.running
  listens := h.listens
  held index hmem := absurd hmem (by simp [ImportView.letGo])
  pending index loader' hmem hpending := by
    have hmem : (view.loaders ++ [loader])[index]? = some loader' := hmem
    rcases List.mem_append.mp (List.mem_of_getElem? hmem) with hold | hlast
    · obtain ⟨index', hindex'⟩ := List.mem_iff_getElem?.mp hold
      have hheld := (h.pending index' loader' hindex' hpending).1
      exact absurd (h.unheld.symm.trans hheld) (by simp)
    · obtain rfl := List.mem_singleton.mp hlast
      exact absurd (hpending.symm.trans hcompleted) Bool.false_ne_true
  delivered loader' hmem hcompleted' := by
    rcases List.mem_append.mp hmem with hold | hlast
    · exact h.delivered loader' hold hcompleted'
    · obtain rfl := List.mem_singleton.mp hlast
      exact hdelivered
  unchosen := h.unchosen
  unheld := rfl

theorem heldFor_hold (loader : ImportLoader) :
    (view.hold loader).heldFor = some loader.activityId := by
  show ((view.loaders ++ [loader])[view.loaders.length]?).map (·.activityId) = _
  rw [List.getElem?_concat_length]
  rfl

/-- A load that goes on is that of the activity. -/
theorem Settled.loads (h : view.Settled) (howned : view.Owned) {index : ℕ} {loader : ImportLoader}
    (hloader : view.loaders[index]? = some loader) (hpending : loader.completed = false) :
    view.activity = .importLoad ∧ view.activityId = loader.activityId ∧ view.chooser = none := by
  have hheld := (howned.pending index loader hloader hpending).1
  have hfor : view.heldFor = some loader.activityId := by
    unfold heldFor
    rw [hheld, Option.bind_some, hloader]
    rfl
  have hload := h.load
  rw [hfor] at hload
  split at hload
  · rename_i hactivity
    refine ⟨hactivity, (Option.some.inj hload).symm, ?_⟩
    rw [h.select, hactivity]
    rfl
  · exact absurd hload (by simp)

end ImportView

end NmSidebar
