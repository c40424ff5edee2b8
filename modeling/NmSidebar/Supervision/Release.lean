import Mathlib.Logic.Relation
import Mathlib.Tactic.SplitIfs
import NmSidebar.Supervision.Supervisor

/-!
# The release invariant of the supervisor

Every function of the supervisor is a sequence of the changes of `Supervisor.Change`. What holds
of the release flag and of the groups' flags is proved once for each change.
-/

namespace NmSidebar

open Effects

/-- A group whose release is pending and can still be finalized. -/
def SupervisedGroup.Releasing (group : SupervisedGroup) : Prop :=
  group.pendingRelease = true ∧ group.helperTerminating = false ∧
    group.terminalSignalSent = false

namespace Supervisor

/-! ## The table of owned groups -/

theorem mem_of_lookup {s : Supervisor} {processGroup : ℤ} {group : SupervisedGroup}
    (h : s.lookup processGroup = some group) :
    group ∈ s.ownedGroups ∧ group.processGroup = processGroup :=
  ⟨List.mem_of_find?_eq_some h, by simpa using List.find?_some h⟩

theorem ne_of_lookup_none {s : Supervisor} {processGroup : ℤ} (h : s.lookup processGroup = none) :
    ∀ group ∈ s.ownedGroups, group.processGroup ≠ processGroup := by
  intro group hgroup
  simpa using List.find?_eq_none.mp h group hgroup

/-! ## The changes -/

/-- What cleanup does to the groups: a group may get a terminal signal or lose its sentinel, and
only a group that got the terminal signal may go. -/
inductive Cleaned : List SupervisedGroup → List SupervisedGroup → Prop
  | nil : Cleaned [] []
  | kept {group : SupervisedGroup} {groups groups' : List SupervisedGroup} (sentinel : Option ℕ)
      (sent : Bool) (hsent : group.terminalSignalSent = true → sent = true)
      (h : Cleaned groups groups') :
      Cleaned (group :: groups)
        ({ group with sentinel := sentinel, terminalSignalSent := sent } :: groups')
  | gone {group : SupervisedGroup} {groups groups' : List SupervisedGroup}
      (hsent : group.terminalSignalSent = true) (h : Cleaned groups groups') :
      Cleaned (group :: groups) groups'

/-- One change of the supervisor's state. The changes a request makes are there only for the
`allowed` types. -/
inductive Change (allowed : SupervisionType → Prop) : Supervisor → Supervisor → Prop
  | reaped {s : Supervisor} {sentinels : List ℕ} (h : sentinels.Sublist s.retiredSentinels) :
      Change allowed s { s with retiredSentinels := sentinels }
  | registered {s : Supervisor} {processGroup : ℤ} (hallowed : allowed .register) (sentinel : ℕ)
      (hcleanup : s.cleanupStarted = false) (hreleased : s.groupReleased = false)
      (hnew : s.lookup processGroup = none)
      (hroom : s.ownedGroups.length + s.retiredSentinels.length < maxSupervisedGroups) :
      Change allowed s { s with
        ownedGroups := ⟨processGroup, some sentinel, false, false, false⟩ :: s.ownedGroups }
  | unregistered {s : Supervisor} {group : SupervisedGroup} (hallowed : allowed .unregister)
      (h : group ∈ s.ownedGroups) :
      Change allowed s { (s.steal group.processGroup).unreleased group with
        retiredSentinels := s.retiredSentinels ++ group.sentinel.toList }
  | terminating {s : Supervisor} {group : SupervisedGroup} (hallowed : allowed .terminating)
      (h : group ∈ s.ownedGroups) :
      Change allowed s ((s.update group.processGroup fun group =>
        { group with helperTerminating := true, pendingRelease := false }).unreleased group)
  | released {s : Supervisor} {group : SupervisedGroup} (hallowed : allowed .release)
      (h : group ∈ s.ownedGroups)
      (hcleanup : s.cleanupStarted = false) (hreleased : s.groupReleased = false)
      (hcancelled : s.releaseCancelled = false) (hrelease : s.allowRelease = true)
      (hterminating : group.helperTerminating = false) (hlength : s.ownedGroups.length = 1) :
      Change allowed s { s.update group.processGroup
          (fun group => { group with pendingRelease := true }) with
        groupReleased := true }
  | withdrawn {s : Supervisor} {group : SupervisedGroup} (hallowed : allowed .withdrawRelease)
      (h : group ∈ s.ownedGroups) (hpending : group.pendingRelease = true) :
      Change allowed s { s.update group.processGroup
          (fun group => { group with pendingRelease := false }) with
        groupReleased := false }
  | stopped {s : Supervisor} (failed channelClosed : Bool) (hfailed : s.failed = true → failed = true)
      (hclosed : s.channelClosed = true → channelClosed = true) :
      Change allowed s { s with failed := failed, channelClosed := channelClosed }
  | cleanupBegun (s : Supervisor) : Change allowed s s.beginCleanup
  | releaseDisabled (s : Supervisor) : Change allowed s s.disableRelease
  | cleaned {s : Supervisor} {groups : List SupervisedGroup} (hcleanup : s.cleanupStarted = true)
      (h : Cleaned s.ownedGroups groups) : Change allowed s { s with ownedGroups := groups }

/-- Any number of changes. -/
abbrev Changes (allowed : SupervisionType → Prop) : Supervisor → Supervisor → Prop :=
  Relation.ReflTransGen (Change allowed)

/-- More types may be allowed. -/
theorem Change.mono {allowed allowed' : SupervisionType → Prop} {s s' : Supervisor}
    (h : Change allowed s s') (hallowed : ∀ type, allowed type → allowed' type) :
    Change allowed' s s' := by
  cases h with
  | reaped h => exact .reaped h
  | registered h sentinel hcleanup hreleased hnew hroom =>
    exact .registered (hallowed _ h) sentinel hcleanup hreleased hnew hroom
  | unregistered h hmem => exact .unregistered (hallowed _ h) hmem
  | terminating h hmem => exact .terminating (hallowed _ h) hmem
  | released h hmem hcleanup hreleased hcancelled hrelease hterminating hlength =>
    exact .released (hallowed _ h) hmem hcleanup hreleased hcancelled hrelease hterminating hlength
  | withdrawn h hmem hpending => exact .withdrawn (hallowed _ h) hmem hpending
  | stopped failed channelClosed hfailed hclosed =>
    exact .stopped failed channelClosed hfailed hclosed
  | cleanupBegun => exact .cleanupBegun _
  | releaseDisabled => exact .releaseDisabled _
  | cleaned hcleanup h => exact .cleaned hcleanup h

theorem Changes.weaken {allowed allowed' : SupervisionType → Prop} {s s' : Supervisor}
    (h : Changes allowed s s') (hallowed : ∀ type, allowed type → allowed' type) :
    Changes allowed' s s' := by
  induction h with
  | refl => exact .refl
  | tail _ hchange ih => exact ih.tail (hchange.mono hallowed)

theorem Cleaned.refl (groups : List SupervisedGroup) : Cleaned groups groups := by
  induction groups with
  | nil => exact .nil
  | cons group groups ih => exact .kept group.sentinel group.terminalSignalSent id ih

variable (allowed : SupervisionType → Prop)

/-! ## Every function is a sequence of changes -/

theorem unreaped_returns (sentinels : List ℕ) :
    (unreaped sentinels).Returns fun rest => rest.Sublist sentinels := by
  induction sentinels with
  | nil => exact .slnil
  | cons sentinel sentinels ih =>
    intro waited
    refine ih.bind fun rest hrest => ?_
    show (if waited = .exited ∨ waited = .noChild then rest else sentinel :: rest).Sublist _
    split
    · exact hrest.cons sentinel
    · exact hrest.cons_cons sentinel

theorem reapRetiredSentinels_returns (s : Supervisor) :
    s.reapRetiredSentinels.Returns fun s' => ∃ sentinels, sentinels.Sublist s.retiredSentinels ∧
      s' = { s with retiredSentinels := sentinels } :=
  (unreaped_returns s.retiredSentinels).bind fun sentinels h => ⟨sentinels, h, rfl⟩

theorem reapRetiredSentinels_changes (s : Supervisor) :
    s.reapRetiredSentinels.Returns (Changes allowed s) := by
  refine s.reapRetiredSentinels_returns.mono fun s' h => ?_
  obtain ⟨sentinels, hsub, rfl⟩ := h
  exact .single (.reaped hsub)

/-- What the switch of `handle_message` can do: the changes, then what the status says. -/
structure Handles (s : Supervisor) (type : SupervisionType) (processGroup : ℤ)
    (handled : Handled) : Prop where
  changes : Changes (· = type) s handled.supervisor
  /-- A group is registered only where no release is pending. -/
  registered : type = .register → handled.status = 0 →
    s.cleanupStarted = false ∧ s.groupReleased = false
  cleanupStarted : handled.supervisor.cleanupStarted = s.cleanupStarted

theorem handleRegister_returns (s : Supervisor) (processGroup : ℤ) :
    (s.handleRegister processGroup (s.lookup processGroup)).Returns
      (Handles s .register processGroup) := by
  refine s.reapRetiredSentinels_returns.bind fun s₁ hs₁ => ?_
  obtain ⟨sentinels, hsub, rfl⟩ := hs₁
  have hreaped : Changes (· = .register) s { s with retiredSentinels := sentinels } := .single (.reaped hsub)
  have hrejected (error : Errno) : Handles s .register processGroup
      (rejected { s with retiredSentinels := sentinels } error) :=
    ⟨hreaped, fun _ h => absurd h error.code_ne_zero, rfl⟩
  split_ifs with hopen hknown hroom
  · exact hrejected _
  · exact hrejected _
  · exact hrejected _
  · obtain ⟨hcleanup, hreleased⟩ := not_or.mp hopen
    have hcleanup : s.cleanupStarted = false := by simpa using hcleanup
    have hreleased : s.groupReleased = false := by simpa using hreleased
    intro sentinel
    cases sentinel with
    | none => exact hrejected _
    | some sentinel =>
      have hnew := Option.not_isSome_iff_eq_none.mp hknown
      have hroom : s.ownedGroups.length + sentinels.length < maxSupervisedGroups :=
        Nat.lt_of_not_le hroom
      have hchange := @Change.registered (· = .register)
        { s with retiredSentinels := sentinels } processGroup rfl sentinel hcleanup hreleased hnew
        hroom
      exact ⟨hreaped.tail hchange, fun _ _ => ⟨hcleanup, hreleased⟩, rfl⟩

theorem unregisterGroup_returns {s : Supervisor} {group : SupervisedGroup}
    (hallowed : allowed .unregister) (h : group ∈ s.ownedGroups) :
    (s.unregisterGroup group).Returns fun left => ∀ s', left = some s' →
      Changes allowed s s' ∧ s'.cleanupStarted = s.cleanupStarted := by
  refine (Prog.returns_any _).bind fun killed _ => ?_
  split_ifs
  · exact fun s' h => nomatch h
  refine (reapRetiredSentinels_returns _).bind fun s₁ hs₁ => ?_
  obtain ⟨sentinels, hsub, rfl⟩ := hs₁
  rintro s' ⟨⟩
  exact ⟨.head (.unregistered hallowed h) (.single (.reaped hsub)), rfl⟩

theorem handleUnregister_returns (s : Supervisor) (processGroup : ℤ) :
    (s.handleUnregister (s.lookup processGroup)).Returns (Handles s .unregister processGroup) := by
  have hrejected (error : Errno) : Handles s .unregister processGroup (rejected s error) :=
    ⟨.refl, fun h => (nomatch h), rfl⟩
  cases hgroup : s.lookup processGroup with
  | none => exact hrejected .enoent
  | some group =>
    intro scan
    cases scan with
    | failed => exact hrejected .eio
    | live => exact hrejected .ebusy
    | empty =>
      refine (@unregisterGroup_returns (· = .unregister) s group rfl
        (mem_of_lookup hgroup).1).bind fun left hleft => ?_
      cases left with
      | none => exact hrejected .eio
      | some s' => exact ⟨(hleft s' rfl).1, fun h => (nomatch h), (hleft s' rfl).2⟩

theorem handleTerminating_returns (s : Supervisor) (processGroup : ℤ) :
    (s.handleTerminating (s.lookup processGroup)).Returns
      (Handles s .terminating processGroup) := by
  have hrejected (error : Errno) : Handles s .terminating processGroup (rejected s error) :=
    ⟨.refl, fun h => (nomatch h), rfl⟩
  cases hgroup : s.lookup processGroup with
  | none => exact hrejected .enoent
  | some group =>
    refine (Prog.returns_any _).bind fun safe _ => ?_
    split_ifs
    · exact ⟨.single (.terminating rfl (mem_of_lookup hgroup).1), fun h => (nomatch h), rfl⟩
    · exact hrejected .eio

theorem handleRelease_returns (s : Supervisor) (processGroup : ℤ) :
    (s.handleRelease (s.lookup processGroup)).Returns (Handles s .release processGroup) := by
  have hrejected (error : Errno) : Handles s .release processGroup (rejected s error) :=
    ⟨.refl, fun h => (nomatch h), rfl⟩
  unfold handleRelease
  by_cases hopen : s.cleanupStarted = true ∨ s.groupReleased = true
  · rw [if_pos hopen]
    exact hrejected .eperm
  rw [if_neg hopen]
  by_cases hcancelled : s.releaseCancelled = true
  · rw [if_pos hcancelled]
    exact ⟨.refl, fun h => (nomatch h), rfl⟩
  rw [if_neg hcancelled]
  by_cases hallow : s.allowRelease = false
  · rw [if_pos hallow]
    exact hrejected .eperm
  rw [if_neg hallow]
  cases hgroup : s.lookup processGroup with
  | none => exact hrejected .enoent
  | some group =>
    dsimp only
    split_ifs with hended hlength
    · exact hrejected .eperm
    · exact hrejected .ebusy
    · intro scan
      cases scan with
      | failed => exact hrejected .eio
      | empty => exact hrejected .enotsup
      | live =>
        obtain ⟨hcleanup, hreleased⟩ := not_or.mp hopen
        obtain ⟨hterminating, -⟩ := not_or.mp hended
        refine ⟨.single (.released rfl (mem_of_lookup hgroup).1 ?_ ?_ ?_ ?_ ?_ (not_not.mp hlength)),
          fun h => (nomatch h), rfl⟩
        all_goals simp_all

theorem handleWithdrawRelease_handles (s : Supervisor) (processGroup : ℤ) :
    Handles s .withdrawRelease processGroup
      (s.handleWithdrawRelease (s.lookup processGroup)) := by
  unfold handleWithdrawRelease
  cases hgroup : s.lookup processGroup with
  | none => exact ⟨.refl, fun h => (nomatch h), rfl⟩
  | some group =>
    dsimp only
    split_ifs with hrefused
    · exact ⟨.refl, fun h => (nomatch h), rfl⟩
    · obtain ⟨-, hpending, -⟩ := by simpa only [not_or] using hrefused
      exact ⟨.single (.withdrawn rfl (mem_of_lookup hgroup).1 (by simpa using hpending)),
        fun h => (nomatch h), rfl⟩

/-- The rule for the switch of `handle_message`. -/
theorem handleRequest_returns (s : Supervisor) (type : SupervisionType) (processGroup : ℤ) :
    (s.handleRequest type processGroup).Returns (Handles s type processGroup) := by
  cases type with
  | register => exact s.handleRegister_returns processGroup
  | unregister => exact s.handleUnregister_returns processGroup
  | release => exact s.handleRelease_returns processGroup
  | withdrawRelease => exact s.handleWithdrawRelease_handles processGroup
  | terminating => exact s.handleTerminating_returns processGroup

theorem handleMessage_changes (s : Supervisor) (message : SupervisionMessage) :
    (s.handleMessage message).Returns fun handled =>
      Changes (requestType message = some ·) s handled.2 := by
  unfold handleMessage
  cases requestType message with
  | none => exact .refl
  | some type =>
    refine (s.handleRequest_returns type message.processGroup).bind fun handled h => ?_
    have hchanges := Changes.weaken h.changes fun _ h => congrArg some h.symm
    intro sent
    cases sent with
    | false => exact hchanges
    | true => exact hchanges

/-- A message starts no cleanup. -/
theorem handleMessage_cleanupStarted (s : Supervisor) (message : SupervisionMessage) :
    (s.handleMessage message).Returns fun handled =>
      handled.2.cleanupStarted = s.cleanupStarted := by
  unfold handleMessage
  cases requestType message with
  | none => rfl
  | some type =>
    refine (s.handleRequest_returns type message.processGroup).bind fun handled h => ?_
    intro sent
    cases sent with
    | false => exact h.cleanupStarted
    | true => exact h.cleanupStarted

theorem signalAll_returns (signal : Signal) (groups : List SupervisedGroup) :
    (signalAll signal groups).Returns (Cleaned groups) := by
  induction groups with
  | nil => exact .nil
  | cons group groups ih =>
    unfold signalAll
    split
    · exact ih.bind fun rest hrest => .kept group.sentinel group.terminalSignalSent id hrest
    · rename_i hsent
      intro sent
      exact ih.bind fun rest hrest => .kept group.sentinel _ (fun h => absurd h hsent) hrest

theorem signalGroups_changes (s : Supervisor) (signal : Signal) (hcleanup : s.cleanupStarted = true) :
    (s.signalGroups signal).Returns (Changes allowed s) :=
  (signalAll_returns signal s.ownedGroups).bind fun _ h => .single (.cleaned hcleanup h)

theorem reapTerminated_returns (groups : List SupervisedGroup) :
    (reapTerminated groups).Returns (Cleaned groups) := by
  induction groups with
  | nil => exact .nil
  | cons group groups ih =>
    unfold reapTerminated
    split
    · rename_i hsent
      rintro ⟨reaped, last⟩
      refine ih.bind fun rest hrest => ?_
      split
      · exact .gone hsent hrest
      · exact .kept _ group.terminalSignalSent id hrest
    · exact ih.bind fun rest hrest => .kept group.sentinel group.terminalSignalSent id hrest

theorem pollCleanup_changes (s : Supervisor) : s.pollCleanup.Returns (Changes allowed s) := by
  refine (s.reapRetiredSentinels_changes allowed).bind fun s₁ hs₁ => ?_
  split
  · rename_i hcleanup
    exact (reapTerminated_returns s₁.ownedGroups).bind fun _ h => hs₁.tail (.cleaned hcleanup h)
  · exact hs₁

theorem detachRetiredSentinels_changes (s : Supervisor) :
    s.detachRetiredSentinels.Returns fun detached => Changes allowed s detached.2 :=
  (s.reapRetiredSentinels_changes allowed).bind fun _ hs₁ => hs₁.tail (.reaped (List.nil_sublist _))

theorem detachTerminated_returns (groups : List SupervisedGroup) :
    (detachTerminated groups).Returns fun detached => Cleaned groups detached.2 := by
  induction groups with
  | nil => exact .nil
  | cons group groups ih =>
    unfold detachTerminated
    split
    · rename_i hsent
      exact (Prog.returns_any _).bind fun _ _ => ih.bind fun rest hrest => .gone hsent hrest
    · exact ih.bind fun rest hrest => .kept group.sentinel group.terminalSignalSent id hrest

theorem detachTerminatedGroups_changes (s : Supervisor) :
    s.detachTerminatedGroups.Returns fun detached => Changes allowed s detached.2 := by
  unfold detachTerminatedGroups
  split
  · rename_i hcleanup
    exact (detachTerminated_returns s.ownedGroups).bind fun _ h => .single (.cleaned hcleanup h)
  · exact .refl

theorem abort_changes (s : Supervisor) : s.abort.Returns (Changes allowed s) :=
  fun _ => .single (.stopped true true (fun _ => rfl) fun _ => rfl)

theorem failSentinels_changes (s : Supervisor) : s.failSentinels.Returns (Changes allowed s) := by
  refine (s.beginCleanup.signalGroups_changes allowed .kill rfl).bind fun s₁ hs₁ => ?_
  exact (hs₁.head (.cleanupBegun s)).tail
    (.stopped true s₁.channelClosed (fun _ => rfl) id)

/-- `finalize_release` does nothing, or hands out the one group whose release is pending. -/
theorem finalizeRelease_returns (s : Supervisor) :
    s.finalizeRelease.Returns fun finalized => finalized = (none, s) ∨
      ∃ group, s.ownedGroups = [group] ∧ s.cleanupStarted = false ∧ group.pendingRelease = true ∧
        group.helperTerminating = false ∧ group.terminalSignalSent = false ∧
        finalized = (some group.processGroup, s.steal group.processGroup) := by
  unfold finalizeRelease
  split
  · rename_i group hgroups
    split
    · exact .inl rfl
    · rename_i hrefused
      simp only [not_or, Bool.not_eq_true, Bool.not_eq_false] at hrefused
      obtain ⟨hcleanup, hpending, hterminating, hsent⟩ := hrefused
      exact (Prog.returns_any _).bind fun _ _ =>
        .inr ⟨group, hgroups, hcleanup, hpending, hterminating, hsent, rfl⟩
  · exact .inl rfl

/-- Polling is a sequence of changes too. -/
theorem pollMessages_changes (s : Supervisor) (rounds : ℕ) :
    (s.pollMessages rounds).Returns fun polled =>
      ∀ handled s', polled = some (handled, s') → Changes (fun _ => True) s s' := by
  induction rounds generalizing s with
  | zero => exact fun _ _ h => nomatch h
  | succ rounds ih =>
    refine Prog.returns_bind.mpr fun received => ?_
    cases received with
    | wouldBlock =>
      refine (s.reapRetiredSentinels_changes (fun _ => True)).bind fun s₁ hs₁ => ?_
      refine (Prog.returns_any _).bind fun safe _ => ?_
      cases safe with
      | true =>
        rintro handled s' ⟨⟩
        exact hs₁
      | false =>
        refine (s₁.failSentinels_changes (fun _ => True)).bind fun s₂ hs₂ => fun _ => ?_
        rintro handled s' ⟨⟩
        exact (hs₁.trans hs₂).tail (.stopped s₂.failed true id fun _ => rfl)
    | closed =>
      show Prog.Returns _ (s.sentinelsAreSafe >>= fun safe => _)
      refine (Prog.returns_any _).bind fun safe _ => ?_
      cases safe with
      | true =>
        intro _
        rintro handled s' ⟨⟩
        exact .single (.stopped s.failed true id fun _ => rfl)
      | false =>
        refine (s.failSentinels_changes (fun _ => True)).bind fun s₁ hs₁ => fun _ => ?_
        rintro handled s' ⟨⟩
        exact hs₁.tail (.stopped s₁.failed true id fun _ => rfl)
    | malformed =>
      refine ((s.abort_changes (fun _ => True)).bind fun s₁ hs₁ => ?_ :
        (Prod.mk false <$> s.abort).Returns fun polled => Changes (fun _ => True) s polled.2).bind
          fun polled hpolled => ?_
      · exact hs₁
      · rintro handled s' ⟨⟩
        exact hpolled
    | message message =>
      refine (s.handleMessage_changes message).bind fun handled hhandled => ?_
      have hchanges : Changes (fun _ => True) s handled.2 :=
        Changes.weaken hhandled fun _ _ => trivial
      obtain ⟨ok, s₁⟩ := handled
      cases ok with
      | true => exact (ih s₁).mono fun polled h handled s' hs' => hchanges.trans (h handled s' hs')
      | false =>
        intro _
        rintro handled s' ⟨⟩
        exact hchanges.tail (.stopped true true (fun _ => rfl) fun _ => rfl)

theorem poll_changes (s : Supervisor) (rounds : ℕ) :
    (s.poll rounds).Returns fun polled =>
      ∀ handled s', polled = some (handled, s') → Changes (fun _ => True) s s' := by
  refine (s.reapRetiredSentinels_changes (fun _ => True)).bind fun s₁ hs₁ => ?_
  split
  · rintro handled s' ⟨⟩
    exact hs₁
  split
  · rintro handled s' ⟨⟩
    exact hs₁
  · exact (s₁.pollMessages_changes rounds).mono fun polled h handled s' hs' =>
      hs₁.trans (h handled s' hs')

/-- Polling starts a cleanup only where it fails. -/
theorem pollMessages_cleanupStarted (s : Supervisor) (rounds : ℕ) :
    (s.pollMessages rounds).Returns fun polled => ∀ handled s', polled = some (handled, s') →
      s'.cleanupStarted = true → s.cleanupStarted = true ∨ s'.failed = true := by
  induction rounds generalizing s with
  | zero => exact fun _ _ h => nomatch h
  | succ rounds ih =>
    have hfailed (s : Supervisor) : s.failSentinels.Returns fun s' => s'.failed = true :=
      (Prog.returns_any _).bind fun _ _ => rfl
    refine Prog.returns_bind.mpr fun received => ?_
    cases received with
    | wouldBlock =>
      refine s.reapRetiredSentinels_returns.bind fun s₁ hs₁ => ?_
      obtain ⟨sentinels, -, rfl⟩ := hs₁
      refine (Prog.returns_any _).bind fun safe _ => ?_
      cases safe with
      | true =>
        rintro handled s' ⟨⟩ hcleanup
        exact .inl hcleanup
      | false =>
        refine (hfailed _).bind fun s₂ hs₂ => fun _ => ?_
        rintro handled s' ⟨⟩ -
        exact .inr hs₂
    | closed =>
      show Prog.Returns _ (s.sentinelsAreSafe >>= fun safe => _)
      refine (Prog.returns_any _).bind fun safe _ => ?_
      cases safe with
      | true =>
        intro _
        rintro handled s' ⟨⟩ hcleanup
        exact .inl hcleanup
      | false =>
        refine (hfailed s).bind fun s₂ hs₂ => fun _ => ?_
        rintro handled s' ⟨⟩ -
        exact .inr hs₂
    | malformed =>
      intro _
      rintro handled s' ⟨⟩ -
      exact .inr rfl
    | message message =>
      refine (s.handleMessage_cleanupStarted message).bind fun handled hhandled => ?_
      obtain ⟨ok, s₁⟩ := handled
      cases ok with
      | true =>
        refine (ih s₁).mono fun polled h handled s' hs' hcleanup => ?_
        exact (h handled s' hs' hcleanup).imp_left hhandled.symm.trans
      | false =>
        intro _
        rintro handled s' ⟨⟩ -
        exact .inr rfl

/-- Polling a closed channel reaps retired sentinels only. -/
theorem poll_closed {s : Supervisor} (hclosed : s.channelClosed = true) (rounds : ℕ) :
    (s.poll rounds).Returns fun polled => ∀ handled s', polled = some (handled, s') →
      ∃ sentinels, s' = { s with retiredSentinels := sentinels } := by
  refine s.reapRetiredSentinels_returns.bind fun s₁ hs₁ => ?_
  obtain ⟨sentinels, -, rfl⟩ := hs₁
  split
  · rintro handled s' ⟨⟩
    exact ⟨sentinels, rfl⟩
  · rintro handled s' ⟨⟩
    exact ⟨sentinels, rfl⟩

theorem poll_cleanupStarted (s : Supervisor) (rounds : ℕ) :
    (s.poll rounds).Returns fun polled => ∀ handled s', polled = some (handled, s') →
      s'.cleanupStarted = true → s.cleanupStarted = true ∨ s'.failed = true := by
  refine s.reapRetiredSentinels_returns.bind fun s₁ hs₁ => ?_
  obtain ⟨sentinels, -, rfl⟩ := hs₁
  split
  · rintro handled s' ⟨⟩ hcleanup
    exact .inl hcleanup
  split
  · rintro handled s' ⟨⟩ hcleanup
    exact .inl hcleanup
  · exact pollMessages_cleanupStarted { s with retiredSentinels := sentinels } rounds

/-! ## The invariant -/

/-- What holds of the supervisor between its steps. -/
structure Consistent (s : Supervisor) : Prop where
  distinct : (s.ownedGroups.map (·.processGroup)).Nodup
  bounded : s.ownedGroups.length + s.retiredSentinels.length ≤ maxSupervisedGroups
  /-- Groups are signalled only once cleanup has begun. -/
  unsignalled : s.cleanupStarted = false →
    ∀ group ∈ s.ownedGroups, group.terminalSignalSent = false
  /-- Groups lose their sentinels only then. -/
  guarded : s.cleanupStarted = false → ∀ group ∈ s.ownedGroups, group.sentinel.isSome = true

/-- The release flag agrees with the groups' flags, until cleanup starts. -/
structure ReleaseAgrees (s : Supervisor) : Prop where
  released : s.cleanupStarted = false → s.groupReleased = true →
    ∃ group, s.ownedGroups = [group] ∧ group.Releasing
  pending : s.cleanupStarted = false →
    ∀ group ∈ s.ownedGroups, group.pendingRelease = true → s.groupReleased = true

theorem consistent_new (allowRelease : Bool) : Consistent (supervisorNew allowRelease) :=
  ⟨List.nodup_nil, Nat.zero_le _, fun _ _ h => (nomatch h), fun _ _ h => nomatch h⟩

theorem releaseAgrees_new (allowRelease : Bool) : ReleaseAgrees (supervisorNew allowRelease) :=
  ⟨fun _ h => (nomatch h), fun _ _ h _ => (nomatch h)⟩

/-- A group whose release is pending is the only one. -/
theorem ReleaseAgrees.eq_singleton {s : Supervisor} {group : SupervisedGroup}
    (h : ReleaseAgrees s) (hcleanup : s.cleanupStarted = false) (hmem : group ∈ s.ownedGroups)
    (hreleased : s.groupReleased = true) : s.ownedGroups = [group] ∧ group.Releasing := by
  obtain ⟨group', hgroups, hreleasing⟩ := h.released hcleanup hreleased
  rw [hgroups] at hmem
  obtain rfl := List.mem_singleton.mp hmem
  exact ⟨hgroups, hreleasing⟩

variable {allowed} {s s' : Supervisor} {group : SupervisedGroup}

theorem mem_steal {processGroup : ℤ} (h : group ∈ (s.steal processGroup).ownedGroups) :
    group ∈ s.ownedGroups ∧ group.processGroup ≠ processGroup := by
  simpa [steal] using h

theorem length_steal_lt (h : group ∈ s.ownedGroups) :
    (s.steal group.processGroup).ownedGroups.length < s.ownedGroups.length :=
  List.length_filter_lt_length_iff_exists.mpr ⟨group, h, by simp⟩

/-- A group of an updated table comes from one of the table before. -/
theorem mem_update {processGroup : ℤ} {f : SupervisedGroup → SupervisedGroup}
    (h : group ∈ (s.update processGroup f).ownedGroups) :
    ∃ group' ∈ s.ownedGroups, (group'.processGroup = processGroup ∧ group = f group') ∨
      (group'.processGroup ≠ processGroup ∧ group = group') := by
  obtain ⟨group', hmem, rfl⟩ := List.mem_map.mp h
  refine ⟨group', hmem, ?_⟩
  by_cases heq : group'.processGroup = processGroup
  · exact .inl ⟨heq, if_pos heq⟩
  · exact .inr ⟨heq, if_neg heq⟩

/-- An update of a group's flags leaves the rest of the invariant alone. -/
theorem Consistent.update (h : Consistent s) {processGroup : ℤ}
    {f : SupervisedGroup → SupervisedGroup}
    (hnumber : ∀ group, (f group).processGroup = group.processGroup)
    (hsent : ∀ group, (f group).terminalSignalSent = group.terminalSignalSent)
    (hsentinel : ∀ group, (f group).sentinel = group.sentinel)
    (howned : s'.ownedGroups = (s.update processGroup f).ownedGroups)
    (hretired : s'.retiredSentinels = s.retiredSentinels)
    (hcleanup : s'.cleanupStarted = s.cleanupStarted) : Consistent s' := by
  have hnumbers : s'.ownedGroups.map (·.processGroup) = s.ownedGroups.map (·.processGroup) := by
    simp only [howned, Supervisor.update, List.map_map]
    refine List.map_congr_left fun group _ => ?_
    show (if _ then _ else _ : SupervisedGroup).processGroup = _
    split
    · exact hnumber group
    · rfl
  refine ⟨?_, ?_, fun hopen group hmem => ?_, fun hopen group hmem => ?_⟩
  · rw [hnumbers]
    exact h.distinct
  · have hlength := congrArg List.length hnumbers
    rw [List.length_map, List.length_map] at hlength
    rw [hlength, hretired]
    exact h.bounded
  · rw [hcleanup] at hopen
    rw [howned] at hmem
    obtain ⟨group', hmem', ⟨-, rfl⟩ | ⟨-, rfl⟩⟩ := mem_update hmem
    · exact (hsent group').trans (h.unsignalled hopen group' hmem')
    · exact h.unsignalled hopen _ hmem'
  · rw [hcleanup] at hopen
    rw [howned] at hmem
    obtain ⟨group', hmem', ⟨-, rfl⟩ | ⟨-, rfl⟩⟩ := mem_update hmem
    · rw [hsentinel]
      exact h.guarded hopen group' hmem'
    · exact h.guarded hopen _ hmem'

theorem Cleaned.sublist {groups groups' : List SupervisedGroup} (h : Cleaned groups groups') :
    (groups'.map (·.processGroup)).Sublist (groups.map (·.processGroup)) := by
  induction h with
  | nil => exact .slnil
  | kept _ _ _ _ ih => exact ih.cons_cons _
  | gone _ _ ih => exact ih.cons _

/-- Every change keeps the invariant. -/
theorem Change.consistent (h : Change allowed s s') (hs : Consistent s) : Consistent s' := by
  cases h with
  | reaped h =>
    have hlength := Nat.add_le_add_left h.length_le s.ownedGroups.length
    exact ⟨hs.distinct, Nat.le_trans hlength hs.bounded, hs.unsignalled, hs.guarded⟩
  | @registered processGroup _ sentinel hcleanup hreleased hnew hroom =>
    refine ⟨?_, ?_, fun _ group hmem => ?_, fun _ group hmem => ?_⟩
    · refine List.nodup_cons.mpr ⟨fun hmem => ?_, hs.distinct⟩
      obtain ⟨group, hgroup, heq⟩ := List.mem_map.mp hmem
      exact ne_of_lookup_none hnew group hgroup heq
    · show s.ownedGroups.length + 1 + s.retiredSentinels.length ≤ _
      omega
    · rcases List.mem_cons.mp hmem with rfl | hmem
      · rfl
      · exact hs.unsignalled hcleanup group hmem
    · rcases List.mem_cons.mp hmem with rfl | hmem
      · rfl
      · exact hs.guarded hcleanup group hmem
  | @unregistered group _ h =>
    refine ⟨?_, ?_, fun hcleanup group' hmem => hs.unsignalled hcleanup group' (mem_steal hmem).1,
      fun hcleanup group' hmem => hs.guarded hcleanup group' (mem_steal hmem).1⟩
    · exact hs.distinct.sublist (List.filter_sublist.map _)
    · have hlt := length_steal_lt h
      have hbounded := hs.bounded
      have hsentinel : group.sentinel.toList.length ≤ 1 := by cases group.sentinel <;> simp
      rw [List.length_append]
      show (s.steal group.processGroup).ownedGroups.length + _ ≤ _
      show _ + (s.retiredSentinels.length + _) ≤ _
      omega
  | terminating _ h =>
    refine hs.update ?_ ?_ ?_ rfl rfl rfl <;> exact fun _ => rfl
  | released _ h =>
    refine hs.update ?_ ?_ ?_ rfl rfl rfl <;> exact fun _ => rfl
  | withdrawn _ h _ =>
    refine hs.update ?_ ?_ ?_ rfl rfl rfl <;> exact fun _ => rfl
  | stopped => exact ⟨hs.distinct, hs.bounded, hs.unsignalled, hs.guarded⟩
  | cleanupBegun => exact ⟨hs.distinct, hs.bounded, fun h => (nomatch h), fun h => nomatch h⟩
  | releaseDisabled => exact ⟨hs.distinct, hs.bounded, hs.unsignalled, hs.guarded⟩
  | cleaned hcleanup h =>
    have hlength := h.sublist.length_le
    rw [List.length_map, List.length_map] at hlength
    refine ⟨hs.distinct.sublist h.sublist, ?_, fun h => ?_, fun h => ?_⟩
    · exact Nat.le_trans (Nat.add_le_add_right hlength _) hs.bounded
    · exact absurd (hcleanup.symm.trans h) Bool.noConfusion
    · exact absurd (hcleanup.symm.trans h) Bool.noConfusion

/-- Handing a group out keeps what does not depend on the release flag. -/
theorem Consistent.steal (h : Consistent s) (processGroup : ℤ) :
    Consistent (s.steal processGroup) := by
  refine ⟨h.distinct.sublist (List.filter_sublist.map _), ?_,
    fun hcleanup group hmem => h.unsignalled hcleanup group (mem_steal hmem).1,
    fun hcleanup group hmem => h.guarded hcleanup group (mem_steal hmem).1⟩
  have hlength : (s.steal processGroup).ownedGroups.length ≤ s.ownedGroups.length :=
    List.length_filter_le _ _
  exact Nat.le_trans (Nat.add_le_add_right hlength _) h.bounded

/-- Every change keeps the agreement of the flags. -/
theorem Change.releaseAgrees (h : Change allowed s s') (hs : Consistent s)
    (hagrees : ReleaseAgrees s) : ReleaseAgrees s' := by
  cases h with
  | reaped | stopped | releaseDisabled => exact ⟨hagrees.released, hagrees.pending⟩
  | cleanupBegun => exact ⟨fun h => (nomatch h), fun h => (nomatch h)⟩
  | cleaned hcleanup _ =>
    have hclosed : s.cleanupStarted ≠ false := by simp [hcleanup]
    exact ⟨fun h => absurd h hclosed, fun h => absurd h hclosed⟩
  | registered _ _ _ hreleased _ _ =>
    refine ⟨fun _ h => ?_, fun hcleanup group hmem hpending => ?_⟩
    · exact absurd (hreleased.symm.trans h) Bool.false_ne_true
    · rcases List.mem_cons.mp hmem with rfl | hmem
      · cases hpending
      · exact hagrees.pending hcleanup group hmem hpending
  | @unregistered group _ h =>
    refine ⟨fun hcleanup hreleased => ?_, fun hcleanup group' hmem hpending => ?_⟩
    · -- the only group has its release pending, so it is not this one
      replace hreleased : (if group.pendingRelease then false else s.groupReleased) = true :=
        hreleased
      split at hreleased
      · cases hreleased
      · rename_i hquiet
        exact absurd (hagrees.eq_singleton hcleanup h hreleased).2.1 hquiet
    · obtain ⟨hmem, hne⟩ := mem_steal hmem
      have hsingle := hagrees.eq_singleton hcleanup hmem
        (hagrees.pending hcleanup group' hmem hpending)
      rw [hsingle.1] at h
      rw [List.mem_singleton.mp h] at hne
      exact absurd rfl hne
  | @terminating group _ h =>
    refine ⟨fun hcleanup hreleased => ?_, fun hcleanup group' hmem hpending => ?_⟩
    · replace hreleased : (if group.pendingRelease then false else s.groupReleased) = true :=
        hreleased
      split at hreleased
      · cases hreleased
      · rename_i hquiet
        exact absurd (hagrees.eq_singleton hcleanup h hreleased).2.1 hquiet
    · obtain ⟨group₀, hmem₀, ⟨-, rfl⟩ | ⟨hne, rfl⟩⟩ := mem_update hmem
      · cases hpending
      · have hsingle := hagrees.eq_singleton hcleanup hmem₀
          (hagrees.pending hcleanup group' hmem₀ hpending)
        rw [hsingle.1] at h
        rw [List.mem_singleton.mp h] at hne
        exact absurd rfl hne
  | @released group _ h hcleanup _ _ _ hterminating hlength =>
    obtain ⟨group', hgroups⟩ := List.length_eq_one_iff.mp hlength
    have heq : group = group' := by
      rw [hgroups] at h
      exact List.mem_singleton.mp h
    subst heq
    refine ⟨fun _ _ => ⟨{ group with pendingRelease := true }, ?_, rfl, hterminating,
      hs.unsignalled hcleanup group h⟩, fun _ _ _ _ => rfl⟩
    simp only [update, hgroups, List.map_cons, List.map_nil, if_pos]
  | @withdrawn group _ h hpending =>
    refine ⟨fun _ h => (nomatch h), fun hcleanup group' hmem hpending' => ?_⟩
    have hsingle := hagrees.eq_singleton hcleanup h (hagrees.pending hcleanup group h hpending)
    obtain ⟨group₀, hmem₀, ⟨-, rfl⟩ | ⟨hne, rfl⟩⟩ := mem_update hmem
    · cases hpending'
    · rw [hsingle.1] at hmem₀
      exact absurd (congrArg SupervisedGroup.processGroup (List.mem_singleton.mp hmem₀)) hne

/-- The invariant survives any number of changes. -/
theorem Changes.consistent (h : Changes allowed s s') (hs : Consistent s) : Consistent s' := by
  induction h with
  | refl => exact hs
  | tail _ hchange ih => exact hchange.consistent ih

/-- The agreement survives any number of changes. -/
theorem Changes.releaseAgrees (h : Changes allowed s s') (hs : Consistent s)
    (hagrees : ReleaseAgrees s) : ReleaseAgrees s' := by
  induction h with
  | refl => exact hagrees
  | tail h hchange ih => exact hchange.releaseAgrees (Changes.consistent h hs) ih

/-! ## No new release -/

/-- No release can become pending any more. -/
def Barred (s : Supervisor) : Prop :=
  s.releaseCancelled = true ∨ s.cleanupStarted = true

/-- The group with this number has its release pending. -/
def Pending (s : Supervisor) (processGroup : ℤ) : Prop :=
  ∃ group ∈ s.ownedGroups, group.processGroup = processGroup ∧ group.pendingRelease = true

theorem Pending.of_update {processGroup number : ℤ} {f : SupervisedGroup → SupervisedGroup}
    (hf : ∀ group, (f group).pendingRelease = false)
    (h : (s.update processGroup f).Pending number) : s.Pending number := by
  obtain ⟨group, hmem, hnumber, hpending⟩ := h
  obtain ⟨group', hmem', ⟨-, rfl⟩ | ⟨-, rfl⟩⟩ := mem_update hmem
  · rw [hf] at hpending
    cases hpending
  · exact ⟨_, hmem', hnumber, hpending⟩

theorem Cleaned.pending {groups groups' : List SupervisedGroup} (h : Cleaned groups groups')
    (hmem : group ∈ groups') : ∃ group' ∈ groups, group'.processGroup = group.processGroup ∧
      group'.pendingRelease = group.pendingRelease := by
  induction h with
  | nil => cases hmem
  | @kept group₀ _ _ _ _ _ _ ih =>
    rcases List.mem_cons.mp hmem with rfl | hmem
    · exact ⟨group₀, List.mem_cons_self, rfl, rfl⟩
    · obtain ⟨group', hmem', h⟩ := ih hmem
      exact ⟨group', List.mem_cons_of_mem _ hmem', h⟩
  | gone _ _ ih =>
    obtain ⟨group', hmem', h⟩ := ih hmem
    exact ⟨group', List.mem_cons_of_mem _ hmem', h⟩

/-- Once no release can become pending, none does. -/
theorem Change.barred (h : Change allowed s s') (hs : Barred s) :
    Barred s' ∧ ∀ number, s'.Pending number → s.Pending number := by
  cases h with
  | reaped | stopped => exact ⟨hs, fun _ h => h⟩
  | cleanupBegun => exact ⟨.inr rfl, fun _ h => h⟩
  | releaseDisabled => exact ⟨.inl rfl, fun _ h => h⟩
  | registered =>
    refine ⟨hs, fun number h => ?_⟩
    obtain ⟨group, hmem, hnumber, hpending⟩ := h
    rcases List.mem_cons.mp hmem with rfl | hmem
    · cases hpending
    · exact ⟨group, hmem, hnumber, hpending⟩
  | unregistered =>
    refine ⟨hs, fun number h => ?_⟩
    obtain ⟨group, hmem, hnumber, hpending⟩ := h
    exact ⟨group, (mem_steal hmem).1, hnumber, hpending⟩
  | terminating | withdrawn => exact ⟨hs, fun _ h => Pending.of_update (fun _ => rfl) h⟩
  | released _ _ hcleanup _ hcancelled =>
    rcases hs with h | h
    · exact absurd (hcancelled.symm.trans h) Bool.false_ne_true
    · exact absurd (hcleanup.symm.trans h) Bool.false_ne_true
  | cleaned hcleanup h =>
    refine ⟨.inr hcleanup, fun number hpending => ?_⟩
    obtain ⟨group, hmem, hnumber, hpending⟩ := hpending
    obtain ⟨group', hmem', hnumber', hpending'⟩ := h.pending hmem
    exact ⟨group', hmem', hnumber'.trans hnumber, hpending'.trans hpending⟩

theorem Changes.barred (h : Changes allowed s s') (hs : Barred s) :
    Barred s' ∧ ∀ number, s'.Pending number → s.Pending number := by
  induction h with
  | refl => exact ⟨hs, fun _ h => h⟩
  | tail _ hchange ih =>
    obtain ⟨hbarred, hpending⟩ := hchange.barred ih.1
    exact ⟨hbarred, fun number h => ih.2 number (hpending number h)⟩

end Supervisor

end NmSidebar
