import Mathlib.Data.List.Perm.Subperm
import Mathlib.Logic.Relation
import NmSidebar.Actions.ActivationWatch

/-!
# Profiles of single attempts

A profile that was made for one attempt is removed at most once, and where the call has failed or
the watch has found the active connection deactivated. A watch sees a state only when it polls, so
an active connection that was activated between two polls may be taken for one that has failed.
-/

namespace NmSidebar

open Text

/-! ## The machine -/

namespace WifiActions

variable {texts : WifiTexts}

/-- One event. The UUID of a new profile is fresh. -/
inductive Step (texts : WifiTexts) : WifiActions → WifiActions → Prop
  | connectWifi {s : WifiActions} (device ap : ℕ) {uuid : Bytes} (hfresh : uuid ∉ s.generated) :
      Step texts s (s.connectWifi texts device ap uuid)
  | activateConnection {s : WifiActions} {async : AsyncAction} (htemp : async.tempUuid = none) :
      Step texts s (s.activateConnection async)
  | passwordDialogChosen {s : WifiActions} {pre post : List PasswordDialogData}
      {data : PasswordDialogData} (hdialog : s.out.dialogs = pre ++ data :: post) (connect : Bool)
      (password : List Char) {uuid : Bytes} (hfresh : uuid ∉ s.generated) :
      Step texts s (({ s with out := { s.out with dialogs := pre ++ post } } :
        WifiActions).passwordDialogChosen texts data connect password uuid)
  | commitPasswordFinish {s : WifiActions} {pre post : List PasswordDialogData}
      {data : PasswordDialogData} (hcommit : s.commits = pre ++ data :: post)
      (error : Option Bytes) :
      Step texts s
        (({ s with commits := pre ++ post } : WifiActions).commitPasswordFinish data error)
  | activateFinish {s : WifiActions} {pre post : List (ActivateCall × AsyncAction)}
      {call : ActivateCall} {async : AsyncAction}
      (hpending : s.pending = pre ++ (call, async) :: post) (result : Except Bytes (Option ℕ)) :
      Step texts s
        (({ s with pending := pre ++ post } : WifiActions).activateFinish texts call async result)
  | activationWatchCb {s : WifiActions} {watch : ActivationWatch} (hwatch : watch ∈ s.watches) :
      Step texts s (s.activationWatchCb texts watch)
  | deactivate {s : WifiActions} (active : ℕ) (name : Bytes) :
      Step texts s (s.deactivate active name)
  | temporaryWifiCleanupRetry {s : WifiActions} {pre post : List TemporaryWifiCleanup}
      {cleanup : TemporaryWifiCleanup} (hcleanup : s.out.cleanups = pre ++ cleanup :: post) :
      Step texts s { s with out := ({ s.out with cleanups := pre ++ post } :
        WifiOutput).temporaryWifiCleanupAttempt s.view cleanup }
  | change {s : WifiActions} (view : WifiView) : Step texts s { s with view }

/-- Nothing has happened yet. -/
def start (view : WifiView) : WifiActions := ⟨view, ⟨[], [], [], []⟩, [], [], [], []⟩

/-- What any sequence of events comes to. -/
abbrev Run (texts : WifiTexts) : WifiActions → WifiActions → Prop :=
  Relation.ReflTransGen (Step texts)

/-- The UUIDs of the attempts that are pending or watched. -/
def holders (s : WifiActions) : List Bytes :=
  s.watches.filterMap (·.tempUuid) ++ s.pending.filterMap (·.2.tempUuid)

end WifiActions

/-! ## What functions note -/

namespace WifiOutput

variable {view : WifiView} {out : WifiOutput}

@[simp] theorem record_perform (effect : WifiEffect) : (out.perform effect).record = out.record :=
  rfl

@[simp] theorem record_toast (message : Bytes) : (out.toast message).record = out.record := rfl

@[simp] theorem record_scheduleRefresh (delay : ℕ) :
    (out.scheduleRefresh delay).record = out.record := rfl

@[simp] theorem record_note (tempUuid : Option Bytes) (entry : Bytes → AttemptNote) :
    (out.note tempUuid entry).record = out.record ++ (tempUuid.map entry).toList := rfl

@[simp] theorem record_temporaryWifiCleanupAttempt (cleanup : TemporaryWifiCleanup) :
    (out.temporaryWifiCleanupAttempt view cleanup).record = out.record := by
  unfold temporaryWifiCleanupAttempt
  split <;> split <;> rfl

@[simp] theorem record_cleanupTemporaryWifiProfile (uuid : Option Bytes) (ssid : Bytes) :
    (out.cleanupTemporaryWifiProfile view uuid ssid).record =
      out.record ++ (uuid.map .cleanup).toList := by
  unfold cleanupTemporaryWifiProfile
  cases uuid with
  | none => exact (List.append_nil _).symm
  | some uuid => simp

@[simp] theorem record_promptWifiPassword (device ap : ℕ) (savedWifi : Option SavedWifi) :
    (out.promptWifiPassword view device ap savedWifi).record = out.record := by
  unfold promptWifiPassword
  split <;> rfl

/-- An authentication failure on a device begins one cleanup. -/
theorem record_handleWifiAuthFailure (name : Bytes) (device ap : Option ℕ)
    (savedWifi : Option SavedWifi) (tempUuid : Option Bytes) :
    (handleWifiAuthFailure view out name device ap savedWifi tempUuid).2 = device.isSome ∧
      (handleWifiAuthFailure view out name device ap savedWifi tempUuid).1.record =
        out.record ++ if device.isSome then (tempUuid.map .cleanup).toList else [] := by
  unfold handleWifiAuthFailure
  cases device with
  | none => exact ⟨rfl, (List.append_nil _).symm⟩
  | some device =>
    cases ap with
    | none => simp
    | some ap =>
      dsimp only
      split
      · simp
      · split <;> simp

/-- A failed attempt with a profile of its own begins one cleanup, whatever the reason is. -/
theorem record_activationWatchFailed (texts : WifiTexts) (watch : ActivationWatch) :
    (activationWatchFailed texts view out watch).record =
      out.record ++ (watch.tempUuid.map .cleanup).toList := by
  unfold activationWatchFailed
  simp only [record_scheduleRefresh, apply_ite WifiOutput.record, record_toast, ite_self]
  cases htemp : watch.tempUuid with
  | none =>
    simp only [Option.isSome_none, Bool.and_false, Bool.false_and, Bool.false_eq_true, if_false]
    split
    · simp [record_handleWifiAuthFailure]
    · simp
  | some uuid =>
    obtain ⟨hwifi, hdevice⟩ := watch.temporary (by simp [htemp])
    have hdevice : watch.wifiDevice.isSome = true := Option.isSome_iff_ne_none.mpr hdevice
    -- the two cleanups exclude each other
    by_cases hauth : (watch.retryWifiAuth &&
        reasonLooksLikeAuthFailure (view.actives watch.active).reason) = true
    · simp [hwifi, hauth, hdevice, record_handleWifiAuthFailure]
    · simp [hwifi, hauth]

end WifiOutput

/-! ## The course of an attempt -/

/-- Whom a note is about. -/
def AttemptNote.uuid : AttemptNote → Bytes
  | callFailed uuid | polled uuid _ | cleanup uuid => uuid

/-- The notes of one attempt. -/
def notesOf (record : List AttemptNote) (uuid : Bytes) : List AttemptNote :=
  record.filter (·.uuid = uuid)

/-- The attempt has neither failed nor succeeded as far as its watch has seen. -/
def Undecided (uuid : Bytes) (notes : List AttemptNote) : Prop :=
  ∀ note ∈ notes, ∃ state, note = .polled uuid state ∧ state ≠ .activated ∧ state ≠ .deactivated

/-- How an attempt ends. It is left open where its watch is removed or expires. -/
inductive Verdict (uuid : Bytes) : List AttemptNote → Prop
  | open : Verdict uuid []
  | callFailed : Verdict uuid [.callFailed uuid, .cleanup uuid]
  | activated : Verdict uuid [.polled uuid .activated]
  | deactivated : Verdict uuid [.polled uuid .deactivated, .cleanup uuid]

/-- An attempt is undecided until it ends. -/
def Decided (uuid : Bytes) (notes : List AttemptNote) : Prop :=
  ∃ watched ending, notes = watched ++ ending ∧ Undecided uuid watched ∧ Verdict uuid ending

theorem Undecided.append {uuid : Bytes} {notes notes' : List AttemptNote}
    (h : Undecided uuid notes) (h' : Undecided uuid notes') : Undecided uuid (notes ++ notes') := by
  intro note hnote
  rcases List.mem_append.mp hnote with hnote | hnote
  · exact h note hnote
  · exact h' note hnote

theorem Undecided.decided {uuid : Bytes} {notes : List AttemptNote} (h : Undecided uuid notes) :
    Decided uuid notes :=
  ⟨notes, [], (List.append_nil notes).symm, h, .open⟩

theorem Undecided.uuid {uuid : Bytes} {notes : List AttemptNote} (h : Undecided uuid notes) :
    ∀ note ∈ notes, note.uuid = uuid := by
  intro note hnote
  obtain ⟨state, rfl, -⟩ := h note hnote
  rfl

theorem Verdict.uuid {uuid : Bytes} {notes : List AttemptNote} (h : Verdict uuid notes) :
    ∀ note ∈ notes, note.uuid = uuid := by
  cases h <;> simp [AttemptNote.uuid]

/-- Notes of one attempt are the notes of no other. -/
theorem notesOf_append {record new : List AttemptNote} {uuid : Bytes}
    (hnew : ∀ note ∈ new, note.uuid = uuid) (uuid' : Bytes) :
    notesOf (record ++ new) uuid' = notesOf record uuid' ++ if uuid' = uuid then new else [] := by
  unfold notesOf
  rw [List.filter_append]
  congr 1
  split
  · rename_i heq
    refine List.filter_eq_self.mpr fun note hnote => decide_eq_true ?_
    exact (hnew note hnote).trans heq.symm
  · rename_i hne
    refine List.filter_eq_nil_iff.mpr fun note hnote heq => hne ?_
    exact (of_decide_eq_true heq).symm.trans (hnew note hnote)

/-- The cleanup of a profile is begun once at most: where the call has failed or the watch has found
the attempt deactivated, and nowhere else. -/
structure CleanedUp (record : List AttemptNote) (uuid : Bytes) : Prop where
  once : record.count (.cleanup uuid) ≤ 1
  callFailed : .callFailed uuid ∈ record → .cleanup uuid ∈ record
  deactivated : .polled uuid .deactivated ∈ record → .cleanup uuid ∈ record
  activated : .polled uuid .activated ∈ record → .cleanup uuid ∉ record
  only : .cleanup uuid ∈ record →
    .callFailed uuid ∈ record ∨ .polled uuid .deactivated ∈ record

/-- What is noted of an attempt that is undecided is neither of these. -/
theorem Undecided.notMem {uuid : Bytes} {notes : List AttemptNote} (h : Undecided uuid notes) :
    .cleanup uuid ∉ notes ∧ .callFailed uuid ∉ notes ∧ .polled uuid .activated ∉ notes ∧
      .polled uuid .deactivated ∉ notes := by
  refine ⟨fun hmem => ?_, fun hmem => ?_, fun hmem => ?_, fun hmem => ?_⟩
  · obtain ⟨state, heq, -⟩ := h _ hmem
    exact absurd heq nofun
  · obtain ⟨state, heq, -⟩ := h _ hmem
    exact absurd heq nofun
  · obtain ⟨state, heq, hne, -⟩ := h _ hmem
    exact hne (AttemptNote.polled.inj heq).2.symm
  · obtain ⟨state, heq, -, hne⟩ := h _ hmem
    exact hne (AttemptNote.polled.inj heq).2.symm

/-- An attempt that is decided has been cleaned up as it should. -/
theorem Decided.cleanedUp {uuid : Bytes} {record : List AttemptNote}
    (h : Decided uuid (notesOf record uuid)) : CleanedUp record uuid := by
  obtain ⟨watched, ending, hnotes, hwatched, hending⟩ := h
  obtain ⟨hcleanup, hfailed, hactivated, hdeactivated⟩ := hwatched.notMem
  have hmem {note : AttemptNote} (hnote : note.uuid = uuid) :
      note ∈ record ↔ note ∈ watched ∨ note ∈ ending := by
    rw [← List.mem_append, ← hnotes]
    simp [notesOf, hnote]
  have hcount : record.count (.cleanup uuid) = ending.count (.cleanup uuid) := by
    rw [← List.count_filter (p := fun note => decide (note.uuid = uuid)) (decide_eq_true rfl)]
    show (notesOf record uuid).count _ = _
    rw [hnotes, List.count_append, List.count_eq_zero_of_not_mem hcleanup, Nat.zero_add]
  constructor
  · rw [hcount]
    cases hending <;> simp
  · rw [hmem rfl, hmem rfl]
    cases hending <;> simp [hfailed]
  · rw [hmem rfl, hmem rfl]
    cases hending <;> simp [hdeactivated]
  · rw [hmem rfl, hmem rfl]
    cases hending <;> simp [hactivated, hcleanup]
  · rw [hmem rfl, hmem rfl, hmem rfl]
    cases hending <;> simp [hcleanup]

namespace WifiActions

variable {texts : WifiTexts} {s s' : WifiActions}

/-- The attempts that are under way are undecided, each held once. -/
structure Sound (s : WifiActions) : Prop where
  nodup : s.holders.Nodup
  generated : ∀ uuid ∈ s.holders, uuid ∈ s.generated
  fresh : ∀ uuid, uuid ∉ s.generated → notesOf s.out.record uuid = []
  undecided : ∀ uuid ∈ s.holders, Undecided uuid (notesOf s.out.record uuid)
  decided : ∀ uuid, Decided uuid (notesOf s.out.record uuid)

theorem sound_start (view : WifiView) : (start view).Sound :=
  ⟨List.nodup_nil, nofun, fun _ _ => rfl, nofun, fun _ => ⟨[], [], rfl, nofun, .open⟩⟩

theorem nodup_of_subperm {l l' : List Bytes} (h : l.Subperm l') (hnodup : l'.Nodup) : l.Nodup := by
  obtain ⟨l'', hperm, hsublist⟩ := h
  exact hperm.nodup_iff.mp (hsublist.nodup hnodup)

/-- Where nothing is noted, attempts may be let go. -/
theorem Sound.idle (h : s.Sound) (hholders : s'.holders.Subperm s.holders)
    (hrecord : s'.out.record = s.out.record) (hgenerated : s'.generated = s.generated) :
    s'.Sound where
  nodup := nodup_of_subperm hholders h.nodup
  generated uuid hheld := hgenerated ▸ h.generated uuid (hholders.subset hheld)
  fresh uuid hfresh := by rw [hrecord]; exact h.fresh uuid (hgenerated ▸ hfresh)
  undecided uuid hheld := by rw [hrecord]; exact h.undecided uuid (hholders.subset hheld)
  decided uuid := by rw [hrecord]; exact h.decided uuid

/-- A new attempt. -/
theorem Sound.attempt (h : s.Sound) {uuid : Bytes} (hfresh : uuid ∉ s.generated)
    (hholders : s'.holders = s.holders ++ [uuid]) (hrecord : s'.out.record = s.out.record)
    (hgenerated : s'.generated = uuid :: s.generated) : s'.Sound where
  nodup := by
    rw [hholders, ← List.concat_eq_append]
    exact h.nodup.concat fun hheld => hfresh (h.generated uuid hheld)
  generated := by
    rw [hholders, hgenerated]
    intro uuid' hheld
    rcases List.mem_append.mp hheld with hheld | hheld
    · exact List.mem_cons_of_mem _ (h.generated uuid' hheld)
    · exact List.mem_cons.mpr (.inl (List.mem_singleton.mp hheld))
  fresh uuid' hfresh' := by
    rw [hgenerated] at hfresh'
    rw [hrecord]
    exact h.fresh uuid' fun hold => hfresh' (List.mem_cons_of_mem _ hold)
  undecided := by
    rw [hholders, hrecord]
    intro uuid' hheld
    rcases List.mem_append.mp hheld with hheld | hheld
    · exact h.undecided uuid' hheld
    · rw [List.mem_singleton.mp hheld, h.fresh uuid hfresh]
      exact nofun
  decided uuid' := by rw [hrecord]; exact h.decided uuid'

/-- An attempt that is under way is served: it stays undecided, or it is decided and let go. -/
theorem Sound.serve (h : s.Sound) {uuid : Bytes} {new : List AttemptNote}
    (hheld : uuid ∈ s.holders) (hrecord : s'.out.record = s.out.record ++ new)
    (hgenerated : s'.generated = s.generated) (hholders : s'.holders.Subperm s.holders)
    (hnew : Undecided uuid new ∨ Verdict uuid new ∧ uuid ∉ s'.holders) : s'.Sound := by
  have hnotes :=
    @notesOf_append s.out.record _ _ (hnew.elim Undecided.uuid fun h => h.1.uuid)
  have hold := h.undecided uuid hheld
  refine ⟨nodup_of_subperm hholders h.nodup, fun uuid' hheld' => ?_, fun uuid' hfresh => ?_,
    fun uuid' hheld' => ?_, fun uuid' => ?_⟩
  · rw [hgenerated]
    exact h.generated uuid' (hholders.subset hheld')
  · have hne : uuid' ≠ uuid := by
      rintro rfl
      exact hfresh (hgenerated ▸ h.generated uuid' hheld)
    rw [hrecord, hnotes, if_neg hne, List.append_nil]
    exact h.fresh uuid' (hgenerated ▸ hfresh)
  · rw [hrecord, hnotes]
    have hundecided := h.undecided uuid' (hholders.subset hheld')
    split
    · rename_i heq
      subst heq
      exact hundecided.append (hnew.resolve_right fun h => h.2 hheld')
    · rwa [List.append_nil]
  · rw [hrecord, hnotes]
    split
    · rename_i heq
      subst heq
      rcases hnew with hnew | ⟨hnew, -⟩
      · exact (hold.append hnew).decided
      · exact ⟨_, _, rfl, hold, hnew⟩
    · rw [List.append_nil]
      exact h.decided uuid'

/-! ## What one event does -/

/-- The watch that goes on is for the same profile. -/
theorem tempUuid_activationWatchPoll {view : WifiView} {out : WifiOutput}
    {watch next : ActivationWatch}
    (h : (activationWatchPoll texts view out watch).2 = some next) :
    next.tempUuid = watch.tempUuid := by
  unfold activationWatchPoll at h
  dsimp only at h
  repeat' split at h
  · exact absurd h nofun
  · exact absurd h nofun
  · exact absurd h nofun
  · rw [← Option.some.inj h]

/-- A poll of an attempt without a profile of its own notes nothing. -/
theorem record_activationWatchPoll_none {view : WifiView} {out : WifiOutput}
    {watch : ActivationWatch} (htemp : watch.tempUuid = none) :
    (activationWatchPoll texts view out watch).1.record = out.record := by
  unfold activationWatchPoll
  dsimp only
  repeat' split
  · simp [htemp]
  · simp [WifiOutput.record_activationWatchFailed, htemp]
  · simp [htemp]
  · simp [htemp]

/-- A poll of an attempt leaves it undecided, or decides it and ends the watch. -/
theorem record_activationWatchPoll {view : WifiView} {out : WifiOutput} {watch : ActivationWatch}
    {uuid : Bytes} (htemp : watch.tempUuid = some uuid) : ∃ new,
      (activationWatchPoll texts view out watch).1.record = out.record ++ new ∧
      (Undecided uuid new ∨
        Verdict uuid new ∧ (activationWatchPoll texts view out watch).2 = none) := by
  unfold activationWatchPoll
  dsimp only
  have hopen (hactivated : (view.actives watch.active).state ≠ .activated)
      (hdeactivated : (view.actives watch.active).state ≠ .deactivated) :
      Undecided uuid [.polled uuid (view.actives watch.active).state] := by
    intro note hnote
    exact ⟨_, List.mem_singleton.mp hnote, hactivated, hdeactivated⟩
  by_cases hactivated : (view.actives watch.active).state = .activated
  · rw [if_pos hactivated]
    exact ⟨[.polled uuid .activated], by simp [htemp, hactivated], .inr ⟨.activated, rfl⟩⟩
  rw [if_neg hactivated]
  by_cases hdeactivated : (view.actives watch.active).state = .deactivated
  · rw [if_pos hdeactivated]
    exact ⟨[.polled uuid .deactivated, .cleanup uuid],
      by simp [WifiOutput.record_activationWatchFailed, htemp, hdeactivated],
      .inr ⟨.deactivated, rfl⟩⟩
  rw [if_neg hdeactivated]
  refine ⟨[.polled uuid (view.actives watch.active).state], ?_,
    .inl (hopen hactivated hdeactivated)⟩
  split <;> simp [htemp]

/-- A watch is polled after it, or its call, has been taken out. -/
theorem sound_pollWatch {s₀ : WifiActions} (h : s.Sound) {watch : ActivationWatch}
    (hrecord : s₀.out.record = s.out.record) (hgenerated : s₀.generated = s.generated)
    (hholders : (watch.tempUuid.toList ++ s₀.holders).Subperm s.holders) :
    (s₀.pollWatch texts watch).Sound := by
  have hpolled : (s₀.pollWatch texts watch).out =
      (activationWatchPoll texts s₀.view s₀.out watch).1 := rfl
  have hwatches : (s₀.pollWatch texts watch).holders =
      (activationWatchPoll texts s₀.view s₀.out watch).2.toList.filterMap (·.tempUuid) ++
        s₀.holders := by
    unfold pollWatch holders
    dsimp only
    rw [List.filterMap_append, List.append_assoc]
  have hkept : (s₀.pollWatch texts watch).holders.Subperm s.holders := by
    rw [hwatches]
    refine .trans (.append ?_ (.refl _)) hholders
    cases hnext : (activationWatchPoll texts s₀.view s₀.out watch).2 with
    | none => exact List.nil_subperm
    | some next =>
      rw [← tempUuid_activationWatchPoll hnext]
      cases htemp : next.tempUuid with
      | none => simp [htemp]
      | some uuid => simp [htemp]
  cases htemp : watch.tempUuid with
  | none =>
    exact h.idle hkept (by rw [hpolled, record_activationWatchPoll_none htemp, hrecord]) hgenerated
  | some uuid =>
    rw [htemp] at hholders
    obtain ⟨new, hnotes, hnew⟩ :=
      @record_activationWatchPoll texts s₀.view s₀.out watch uuid htemp
    refine h.serve (hholders.subset List.mem_cons_self) (by rw [hpolled, hnotes, hrecord])
      hgenerated hkept (hnew.imp_right fun ⟨hverdict, hnext⟩ => ⟨hverdict, ?_⟩)
    rw [hwatches, hnext]
    exact (List.nodup_cons.mp (nodup_of_subperm hholders h.nodup)).1

/-- Where a call has failed, one cleanup is begun. -/
theorem record_activateFailed (async : AsyncAction) (retries : Bool) (savedWifi : Option SavedWifi)
    (could : Bytes) (delay : ℕ) (message : Bytes) :
    (s.activateFailed async retries savedWifi could delay message).out.record = s.out.record ++
      ((async.tempUuid.map .callFailed).toList ++ (async.tempUuid.map .cleanup).toList) := by
  unfold activateFailed
  dsimp only
  by_cases hauth : (retries && errorLooksLikeAuthFailure message) = true
  · rw [if_pos hauth]
    obtain ⟨hhandled, hcleanup⟩ := @WifiOutput.record_handleWifiAuthFailure s.view
      (s.out.note async.tempUuid .callFailed) async.name async.wifiDevice async.wifiAp savedWifi
      async.tempUuid
    rw [hhandled]
    -- without a device the failure is not handled, and the cleanup is that of the other branch
    cases hdevice : async.wifiDevice with
    | some device => simp_all
    | none => simp_all
  · rw [if_neg hauth]
    simp

/-! ## Taking out -/

theorem holders_removeWatch (s : WifiActions) (key : Bytes) :
    (s.removeWatch key).holders.Sublist s.holders :=
  (List.filter_sublist.filterMap _).append_right _

/-- A watch that fires is taken out with all that the hash table has under its key. -/
theorem holders_fired {watch : ActivationWatch} (hwatch : watch ∈ s.watches) :
    (watch.tempUuid.toList ++ (s.removeWatch watch.key).holders).Subperm s.holders := by
  obtain ⟨l, r, hwatches⟩ := List.append_of_mem hwatch
  have hrest : (s.removeWatch watch.key).watches.Sublist (l ++ r) := by
    unfold removeWatch
    rw [hwatches, List.filter_append, List.filter_cons_of_neg (by simp)]
    exact List.filter_sublist.append List.filter_sublist
  have hperm : (watch.tempUuid.toList ++ (l ++ r).filterMap (·.tempUuid)).Perm
      (s.watches.filterMap (·.tempUuid)) := by
    rw [hwatches, List.filterMap_append, List.filterMap_append, List.filterMap_cons]
    cases watch.tempUuid with
    | none => exact .refl _
    | some uuid =>
      simp only [Option.toList_some, List.cons_append, List.nil_append]
      exact List.perm_middle.symm
  unfold holders
  rw [← List.append_assoc]
  exact (((hrest.filterMap _).append_left _).subperm.trans hperm.subperm).append (.refl _)

/-- A call that returns is taken out. -/
theorem holders_returned {pre post : List (ActivateCall × AsyncAction)} {call : ActivateCall}
    {async : AsyncAction} (hpending : s.pending = pre ++ (call, async) :: post) :
    (async.tempUuid.toList ++ ({ s with pending := pre ++ post } : WifiActions).holders).Perm
      s.holders := by
  unfold holders
  rw [hpending, List.filterMap_append, List.filterMap_append, List.filterMap_cons]
  dsimp only
  cases async.tempUuid with
  | none => exact .refl _
  | some uuid =>
    simp only [Option.toList_some, List.cons_append, List.nil_append, ← List.append_assoc]
    exact List.perm_middle.symm

/-! ## The events -/

/-- What was noted in passing does not matter where it is no note. -/
theorem Sound.scheduleRefresh (h : s.Sound) (delay : ℕ) :
    ({ s with out := s.out.scheduleRefresh delay } : WifiActions).Sound :=
  h.idle (.refl _) rfl rfl

theorem Sound.addAndActivateWifi (h : s.Sound) (device ap : ℕ) (password : Option (List Char))
    {uuid : Bytes} (hfresh : uuid ∉ s.generated) :
    (s.addAndActivateWifi texts device ap password uuid).Sound := by
  refine h.attempt hfresh ?_ rfl rfl
  unfold WifiActions.addAndActivateWifi holders
  dsimp only
  rw [List.filterMap_append, List.append_assoc]
  rfl

theorem Sound.activateConnection (h : s.Sound) {async : AsyncAction}
    (htemp : async.tempUuid = none) : (s.activateConnection async).Sound := by
  refine h.idle (List.Perm.of_eq ?_).subperm rfl rfl
  unfold WifiActions.activateConnection holders
  dsimp only
  rw [List.filterMap_append]
  simp [htemp]

theorem Sound.connectWifi (h : s.Sound) (device ap : ℕ) {uuid : Bytes}
    (hfresh : uuid ∉ s.generated) : (s.connectWifi texts device ap uuid).Sound := by
  unfold WifiActions.connectWifi
  dsimp only
  split
  · exact h.idle (.refl _) rfl rfl
  split
  · exact h.addAndActivateWifi device ap none hfresh
  split
  · exact h.idle (.refl _) rfl rfl
  · exact h.idle (.refl _) (WifiOutput.record_promptWifiPassword device ap none) rfl

theorem Sound.passwordDialogChosen (h : s.Sound) (data : PasswordDialogData) (connect : Bool)
    (password : List Char) {uuid : Bytes} (hfresh : uuid ∉ s.generated) :
    (s.passwordDialogChosen texts data connect password uuid).Sound := by
  unfold WifiActions.passwordDialogChosen
  split
  · exact h
  split
  · exact h.idle (.refl _) rfl rfl
  split
  · exact h.idle (.refl _) rfl rfl
  · exact h.addAndActivateWifi data.device data.ap (some password) hfresh

theorem Sound.commitPasswordFinish (h : s.Sound) (data : PasswordDialogData)
    (error : Option Bytes) : (s.commitPasswordFinish data error).Sound := by
  unfold WifiActions.commitPasswordFinish
  split
  · exact h.idle (.refl _) rfl rfl
  · exact (h.activateConnection rfl).scheduleRefresh 500

/-- A call that has failed decides its attempt. -/
theorem Sound.activateFailed {s₀ : WifiActions} (h : s.Sound) {async : AsyncAction} (retries : Bool)
    (savedWifi : Option SavedWifi) (could : Bytes) (delay : ℕ) (message : Bytes)
    (hrecord : s₀.out.record = s.out.record) (hgenerated : s₀.generated = s.generated)
    (hholders : (async.tempUuid.toList ++ s₀.holders).Perm s.holders) :
    (s₀.activateFailed async retries savedWifi could delay message).Sound := by
  have hnotes := record_activateFailed (s := s₀) async retries savedWifi could delay message
  rw [hrecord] at hnotes
  have hsame : (s₀.activateFailed async retries savedWifi could delay message).holders =
      s₀.holders ∧ (s₀.activateFailed async retries savedWifi could delay message).generated =
        s₀.generated := by
    unfold WifiActions.activateFailed
    dsimp only
    split <;> split <;> exact ⟨rfl, rfl⟩
  have hkept : s₀.holders.Subperm s.holders :=
    (List.sublist_append_right _ _).subperm.trans hholders.subperm
  cases htemp : async.tempUuid with
  | none =>
    refine h.idle (hsame.1 ▸ hkept) ?_ (hsame.2.trans hgenerated)
    rw [hnotes, htemp]
    exact List.append_nil _
  | some uuid =>
    rw [htemp] at hnotes hholders
    refine h.serve (hholders.subset List.mem_cons_self) hnotes (hsame.2.trans hgenerated)
      (hsame.1 ▸ hkept) (.inr ⟨.callFailed, ?_⟩)
    rw [hsame.1]
    exact (List.nodup_cons.mp (hholders.nodup_iff.mpr h.nodup)).1

/-- An active connection is watched from the moment it is returned. -/
theorem Sound.activateStarted {s₀ : WifiActions} (h : s.Sound) {async : AsyncAction} (delay : ℕ)
    (active : Option ℕ) (hrecord : s₀.out.record = s.out.record)
    (hgenerated : s₀.generated = s.generated)
    (hholders : (async.tempUuid.toList ++ s₀.holders).Perm s.holders) :
    (s₀.activateStarted texts async delay active).Sound := by
  unfold WifiActions.activateStarted startActivationWatch
  refine Sound.scheduleRefresh ?_ delay
  cases active with
  | none =>
    refine h.idle ?_ hrecord hgenerated
    exact (List.sublist_append_right _ _).subperm.trans hholders.subperm
  | some active =>
    refine sound_pollWatch h hrecord hgenerated ?_
    exact ((holders_removeWatch s₀ _).append_left _).subperm.trans hholders.subperm

/-- Every event keeps the attempts apart. -/
theorem sound_step (h : s.Sound) (hstep : Step texts s s') : s'.Sound := by
  cases hstep with
  | connectWifi device ap hfresh => exact h.connectWifi device ap hfresh
  | activateConnection htemp => exact h.activateConnection htemp
  | @passwordDialogChosen pre post data hdialog connect password uuid hfresh =>
    have hdismissed : ({ s with out := { s.out with dialogs := pre ++ post } } :
        WifiActions).Sound := h.idle (.refl _) rfl rfl
    exact hdismissed.passwordDialogChosen data connect password hfresh
  | @commitPasswordFinish pre post data hcommit error =>
    have hcommitted : ({ s with commits := pre ++ post } : WifiActions).Sound :=
      h.idle (.refl _) rfl rfl
    exact hcommitted.commitPasswordFinish data error
  | @activateFinish pre post call async hpending result =>
    have hreturned := holders_returned hpending
    cases call with
    | activate =>
      cases result with
      | error message => exact h.activateFailed _ _ _ _ message rfl rfl hreturned
      | ok active => exact h.activateStarted 1000 active rfl rfl hreturned
    | addAndActivate =>
      cases result with
      | error message => exact h.activateFailed _ _ _ _ message rfl rfl hreturned
      | ok active => exact h.activateStarted 1200 active rfl rfl hreturned
  | activationWatchCb hwatch => exact sound_pollWatch h rfl rfl (holders_fired hwatch)
  | deactivate active name => exact h.idle (holders_removeWatch s _).subperm rfl rfl
  | temporaryWifiCleanupRetry hcleanup =>
    exact h.idle (.refl _) (WifiOutput.record_temporaryWifiCleanupAttempt _) rfl
  | change view => exact h.idle (.refl _) rfl rfl

/-- Every run keeps the attempts apart. -/
theorem sound_run (h : s.Sound) (hrun : Run texts s s') : s'.Sound := by
  induction hrun with
  | refl => exact h
  | tail _ hstep ih => exact sound_step ih hstep

/-! ## What is removed -/

/-- In every run the profile of an attempt is removed at most once: where the call has failed or a
poll has found the attempt deactivated, and never after one that has found it activated. -/
theorem temporaryWifi_cleanedUp {view : WifiView} (hrun : Run texts (start view) s) (uuid : Bytes) :
    CleanedUp s.out.record uuid :=
  ((sound_run (sound_start view) hrun).decided uuid).cleanedUp

/-! ## An attempt that is activated between two polls -/

/-- An open network, with one active connection in some state. -/
def sampleWifiView (state : ActiveConnectionState) : WifiView where
  actives _ := ⟨some [0x2f], state, .deviceDisconnected, some settingWirelessName⟩
  accessPoints _ :=
    { path := none, ssid := some [0x68], bssid := none, frequency := 2412, mode := .infra
      flags := 0, wpaFlags := 0, rsnFlags := 0, strength := 50 }
  connectionByUuid _ := some (some settingWirelessName)
  parent := true

/-- Some labels. -/
def sampleWifiTexts : WifiTexts := ⟨fun ssid => ssid.getD [], fun _ => [], fun _ => []⟩

/-- The attempt to connect to the open network. -/
def sampleAttempt : AsyncAction where
  name := [0x68]
  isWifi := true
  retryWifiAuth := false
  wifiDevice := some 0
  wifiAp := some 0
  savedWifi := none
  tempUuid := some [0x75]
  temporary _ := ⟨rfl, nofun⟩

/-- The watch of the attempt after its first poll. -/
def sampleWatch : ActivationWatch :=
  { sampleAttempt with active := 0, checksRemaining := 69, key := [0x2f] }

/-- The attempt is begun. -/
def attemptBegun : WifiActions :=
  (start (sampleWifiView .activating)).addAndActivateWifi sampleWifiTexts 0 0 none [0x75]

/-- Its call has returned, and the active connection is watched while it has a state. -/
def attemptWatched (state : ActiveConnectionState) : WifiActions :=
  { ({ attemptBegun with pending := [] } : WifiActions).activateFinish sampleWifiTexts
      .addAndActivate sampleAttempt (.ok (some 0)) with view := sampleWifiView state }

theorem run_attemptWatched (state : ActiveConnectionState) :
    Run sampleWifiTexts (start (sampleWifiView .activating)) (attemptWatched state) := by
  have hbegun : (start (sampleWifiView .activating)).connectWifi sampleWifiTexts 0 0 [0x75] =
      attemptBegun := by
    unfold connectWifi
    dsimp only
    rw [if_neg (by decide +kernel), if_pos (by decide +kernel)]
    rfl
  have hconnect : Step sampleWifiTexts (start (sampleWifiView .activating)) attemptBegun :=
    hbegun ▸ .connectWifi 0 0 List.not_mem_nil
  have hpending : attemptBegun.pending = [] ++ (.addAndActivate, sampleAttempt) :: [] := rfl
  exact .tail (.tail (.single hconnect) (.activateFinish hpending (.ok (some 0)))) (.change _)

theorem attemptWatched_watches (state : ActiveConnectionState) :
    (attemptWatched state).watches = [sampleWatch] := rfl

theorem mem_attemptWatched (state : ActiveConnectionState) :
    sampleWatch ∈ (attemptWatched state).watches := by
  rw [attemptWatched_watches]
  exact List.mem_singleton_self _

/-- The next poll finds the attempt deactivated. -/
def attemptFailed : WifiActions :=
  (attemptWatched .deactivated).activationWatchCb sampleWifiTexts sampleWatch

theorem step_attemptFailed : Step sampleWifiTexts (attemptWatched .deactivated) attemptFailed :=
  .activationWatchCb (mem_attemptWatched .deactivated)

theorem record_attemptFailed : attemptFailed.out.record =
    [.polled [0x75] .activating, .polled [0x75] .deactivated, .cleanup [0x75]] := by
  decide +kernel

/-- An attempt that fails is cleaned up as its record says. -/
theorem temporaryWifi_cleanedUp_sample :
    .cleanup [0x75] ∈ attemptFailed.out.record ∧ CleanedUp attemptFailed.out.record [0x75] := by
  refine ⟨?_, temporaryWifi_cleanedUp (.tail (run_attemptWatched .deactivated) step_attemptFailed)
    [0x75]⟩
  rw [record_attemptFailed]
  simp

/-- An attempt was activated between two polls and is cleaned up at the next one. -/
theorem temporaryWifi_activatedUnseen : ∃ s s' : WifiActions, ∃ watch ∈ s.watches,
    Run sampleWifiTexts (start (sampleWifiView .activating)) s ∧ Run sampleWifiTexts s s' ∧
      watch.tempUuid = some [0x75] ∧ (s.view.actives watch.active).state = .activated ∧
      .cleanup [0x75] ∈ s'.out.record := by
  have hchange : Step sampleWifiTexts (attemptWatched .activated) (attemptWatched .deactivated) :=
    .change (sampleWifiView .deactivated)
  refine ⟨attemptWatched .activated, attemptFailed, sampleWatch, mem_attemptWatched .activated,
    run_attemptWatched .activated, .tail (.single hchange) step_attemptFailed, rfl, rfl, ?_⟩
  rw [record_attemptFailed]
  simp

end WifiActions

end NmSidebar
