import NmSidebar.Program.Ledger
import NmSidebar.Supervision.Release

/-!
# Accounts of the supervised groups

An account notes what the service's calls tell of the groups and of the helper. A registered group
stays on the account until it has been killed or found empty, so no group survives that is neither
on the account nor handed out.
-/

namespace NmSidebar

open Effects

/-- What the calls tell of the helper: how it was reaped, whether a message of it waits for its
response, and whether a response was sent that no message waited for. -/
structure HelperAccount where
  reaped : Option HelperWait
  waiting : Bool
  unasked : Bool

/-- `owed` holds the groups that were registered and have neither been killed nor found empty since.
`signalled` says whether any group was sent a signal. -/
structure Account where
  owed : List ℤ
  signalled : Bool
  helper : HelperAccount

/-- The account before any call. -/
def Account.empty : Account := ⟨[], false, none, false, false⟩

/-- A message of the helper was received. -/
def HelperAccount.receive (told : HelperAccount) : HelperAccount := { told with waiting := true }

/-- A response was sent, or was to be sent. -/
def HelperAccount.respond (told : HelperAccount) : HelperAccount :=
  { told with waiting := false, unasked := told.unasked || !told.waiting }

namespace Account

/-- The account without a group. -/
def settle (l : Account) (processGroup : ℤ) : Account :=
  { l with owed := l.owed.filter (· ≠ processGroup) }

/-- The account after a call. -/
def after (l : Account) : (o : ServiceCall) → o.Reply → Account
  | .spawnSentinel processGroup, some _ => { l with owed := processGroup :: l.owed }
  | .scanProcessGroup processGroup _, .empty => l.settle processGroup
  | .killGroup processGroup .kill, true => { l.settle processGroup with signalled := true }
  | .killGroup .., _ => { l with signalled := true }
  | .reapHelper, .reaped status | .reapHelperNow, .reaped status =>
    { l with helper := { l.helper with reaped := some status } }
  | .receive, .message _ => { l with helper := l.helper.receive }
  | .send _, _ => { l with helper := l.helper.respond }
  | _, _ => l

/-- An account that differs at most by groups that were settled. -/
structure Settles (l l' : Account) : Prop where
  owed : l'.owed ⊆ l.owed
  signalled : l'.signalled = l.signalled
  told : l'.helper = l.helper

theorem Settles.refl (l : Account) : Settles l l := ⟨List.Subset.refl _, rfl, rfl⟩

theorem Settles.trans {l l' l'' : Account} (h : Settles l l') (h' : Settles l' l'') :
    Settles l l'' :=
  ⟨fun _ hmem => h.owed (h'.owed hmem), h'.signalled.trans h.signalled, h'.told.trans h.told⟩

theorem settles_settle (l : Account) (processGroup : ℤ) : Settles l (l.settle processGroup) :=
  ⟨fun _ h => (List.mem_filter.mp h).1, rfl, rfl⟩

theorem not_mem_settle (l : Account) (processGroup : ℤ) :
    processGroup ∉ (l.settle processGroup).owed := by
  simp [settle]

/-- The calls that the account has no entries for. -/
def Unaccounted (o : ServiceCall) : Prop := ∀ l r, after l o r = l

theorem records_of_unaccounted {α : Type} {p : ServiceM α} {l : Account}
    (hp : p.Uses Unaccounted) : p.Records after (fun _ l' => l' = l) l :=
  hp.records fun _ ho => ho

end Account

open Account

namespace Supervisor

/-! ## The invariant -/

/-- What the account says of the supervisor: a group on it is owned or was handed out as `out`, a
group that got the terminal signal is off it, and no group gets a signal before cleanup. -/
structure Kept (s : Supervisor) (out : Option ℤ) (told : HelperAccount) (l : Account) :
    Prop where
  owed : ∀ number ∈ l.owed,
    out = some number ∨ ∃ group ∈ s.ownedGroups, group.processGroup = number
  killed : ∀ group ∈ s.ownedGroups, group.terminalSignalSent = true → group.processGroup ∉ l.owed
  signalled : l.signalled = true → s.cleanupStarted = true
  told : l.helper = told

variable {s s' : Supervisor} {out : Option ℤ} {told : HelperAccount} {l l' : Account}

theorem Kept.settles (h : s.Kept out told l) (hl : Settles l l') : s.Kept out told l' := by
  refine ⟨fun number hmem => h.owed number (hl.owed hmem), fun group hmem hsent howed => ?_,
    fun hsignalled => h.signalled (hl.signalled ▸ hsignalled), hl.told.trans h.told⟩
  exact h.killed group hmem hsent (hl.owed howed)

/-- The invariant is about the owned groups and the start of cleanup only. -/
theorem Kept.congr (h : s.Kept out told l) (howned : s'.ownedGroups = s.ownedGroups)
    (hcleanup : s.cleanupStarted = true → s'.cleanupStarted = true) : s'.Kept out told l := by
  refine ⟨?_, ?_, fun hsignalled => hcleanup (h.signalled hsignalled), h.told⟩
  · rw [howned]
    exact h.owed
  · rw [howned]
    exact h.killed

/-- An update of flags other than the terminal signal's keeps the invariant. -/
theorem Kept.update (h : s.Kept out told l) {processGroup : ℤ}
    {f : SupervisedGroup → SupervisedGroup}
    (hnumber : ∀ group, (f group).processGroup = group.processGroup)
    (hsent : ∀ group, (f group).terminalSignalSent = group.terminalSignalSent)
    (howned : s'.ownedGroups = (s.update processGroup f).ownedGroups)
    (hcleanup : s'.cleanupStarted = s.cleanupStarted) : s'.Kept out told l := by
  refine ⟨fun number hmem => ?_, fun group hmem => ?_, ?_, h.told⟩
  · rcases h.owed number hmem with hout | ⟨group, hgroup, rfl⟩
    · exact .inl hout
    · rw [howned]
      refine .inr ⟨_, List.mem_map_of_mem hgroup, ?_⟩
      show (if _ then _ else _ : SupervisedGroup).processGroup = _
      split
      · exact hnumber group
      · rfl
  · rw [howned] at hmem
    obtain ⟨group', hmem', ⟨-, rfl⟩ | ⟨-, rfl⟩⟩ := mem_update hmem
    · rw [hnumber, hsent]
      exact h.killed group' hmem'
    · exact h.killed _ hmem'
  · rw [hcleanup]
    exact h.signalled

/-- A settled group may be stolen. -/
theorem Kept.steal (h : s.Kept out told l) {processGroup : ℤ} (hsettled : processGroup ∉ l.owed) :
    (s.steal processGroup).Kept out told l := by
  refine ⟨fun number hmem => ?_, fun group hmem => h.killed group (mem_steal hmem).1, h.signalled,
    h.told⟩
  rcases h.owed number hmem with hout | ⟨group, hgroup, rfl⟩
  · exact .inl hout
  · refine .inr ⟨group, List.mem_filter.mpr ⟨hgroup, ?_⟩, rfl⟩
    have hne : group.processGroup ≠ processGroup := fun heq => hsettled (heq ▸ hmem)
    simpa using hne

/-! ## Sentinels -/

theorem uses_reapSentinel (group : SupervisedGroup) : (reapSentinel group).Uses Unaccounted := by
  unfold reapSentinel
  split
  · trivial
  · exact ⟨fun _ _ => rfl, fun _ => ⟨fun _ _ => rfl, fun _ => trivial⟩⟩

theorem uses_unreaped (sentinels : List ℕ) : (unreaped sentinels).Uses Unaccounted := by
  induction sentinels with
  | nil => trivial
  | cons sentinel sentinels ih => exact ⟨fun _ _ => rfl, fun _ => ih.bind fun _ => trivial⟩

theorem uses_reapRetiredSentinels (s : Supervisor) : s.reapRetiredSentinels.Uses Unaccounted :=
  (uses_unreaped _).bind fun _ => trivial

theorem uses_killSentinel (group : SupervisedGroup) : (killSentinel group).Uses Unaccounted := by
  unfold killSentinel
  split
  · trivial
  · exact ⟨fun _ _ => rfl, fun _ => trivial⟩

/-- Reaping retired sentinels changes neither the groups nor the account. -/
theorem records_reapRetiredSentinels (s : Supervisor) (l : Account) :
    s.reapRetiredSentinels.Records after (fun s' l' => l' = l ∧ ∃ sentinels,
      sentinels.Sublist s.retiredSentinels ∧ s' = { s with retiredSentinels := sentinels }) l :=
  (records_of_unaccounted s.uses_reapRetiredSentinels).and s.reapRetiredSentinels_returns.records

theorem kept_reapRetiredSentinels (h : s.Kept out told l) :
    s.reapRetiredSentinels.Records after (fun s' => s'.Kept out told) l := by
  refine (s.records_reapRetiredSentinels l).mono ?_
  rintro s' l' ⟨rfl, sentinels, -, rfl⟩
  exact h.congr rfl id

theorem records_scan (processGroup : ℤ) (sentinel : Option ℕ) (l : Account) :
    (sys (.scanProcessGroup processGroup sentinel)).Records after
      (fun scan l' => Settles l l' ∧ (scan = .empty → processGroup ∉ l'.owed)) l := by
  intro scan
  cases scan with
  | failed => exact ⟨.refl l, fun h => nomatch h⟩
  | live => exact ⟨.refl l, fun h => nomatch h⟩
  | empty => exact ⟨l.settles_settle processGroup, fun _ => l.not_mem_settle processGroup⟩

theorem records_sentinelIsSafe (group : SupervisedGroup) (l : Account) :
    (sentinelIsSafe group).Records after (fun _ => Settles l) l := by
  unfold sentinelIsSafe
  split
  · exact .refl l
  intro state
  cases state with
  | failed | noChild | running => exact .refl l
  | exited =>
    show Prog.Records _ (if _ then _ else _) _ _
    split
    · exact .refl l
    split
    · exact .refl l
    · exact (records_scan _ _ l).bind fun _ _ h => h.1

theorem records_allSentinelsAreSafe (groups : List SupervisedGroup) (l : Account) :
    (allSentinelsAreSafe groups).Records after (fun _ => Settles l) l := by
  induction groups generalizing l with
  | nil => exact .refl l
  | cons group groups ih =>
    refine (records_sentinelIsSafe group l).bind fun safe l₁ hl₁ => ?_
    split
    · exact (ih l₁).mono fun _ _ h => hl₁.trans h
    · exact hl₁

/-! ## Requests of the helper -/

theorem kept_handleRegister (h : s.Kept out told l) (processGroup : ℤ) :
    (s.handleRegister processGroup (s.lookup processGroup)).Records after
      (fun handled => handled.supervisor.Kept out told) l := by
  refine (s.records_reapRetiredSentinels l).bind ?_
  rintro s₁ l₁ ⟨rfl, sentinels, -, rfl⟩
  have hreaped : { s with retiredSentinels := sentinels }.Kept out told l₁ := h.congr rfl id
  split_ifs with hopen hknown hroom
  · exact hreaped
  · exact hreaped
  · exact hreaped
  · have hnew := Option.not_isSome_iff_eq_none.mp hknown
    intro sentinel
    cases sentinel with
    | none => exact hreaped
    | some sentinel =>
      refine ⟨fun number hmem => ?_, fun group hmem hsent => ?_, h.signalled, h.told⟩
      · rcases List.mem_cons.mp hmem with rfl | hmem
        · exact .inr ⟨_, List.mem_cons_self, rfl⟩
        · exact (h.owed number hmem).imp_right fun ⟨group, hgroup, hnumber⟩ =>
            ⟨group, List.mem_cons_of_mem _ hgroup, hnumber⟩
      · rcases List.mem_cons.mp hmem with rfl | hmem
        · cases hsent
        · refine fun howed => (List.mem_cons.mp howed).elim (ne_of_lookup_none hnew group hmem) ?_
          exact h.killed group hmem hsent

theorem kept_unregisterGroup (h : s.Kept out told l) {group : SupervisedGroup}
    (hsettled : group.processGroup ∉ l.owed) :
    (s.unregisterGroup group).Records after
      (fun left l' => Settles l l' ∧ ∀ s', left = some s' → s'.Kept out told l') l := by
  refine (records_of_unaccounted (uses_killSentinel group)).bind ?_
  rintro killed l₁ rfl
  split
  · exact ⟨.refl _, fun s' h => nomatch h⟩
  · refine (records_reapRetiredSentinels _ _).bind ?_
    rintro s₁ l₂ ⟨rfl, sentinels, -, rfl⟩
    refine ⟨.refl _, ?_⟩
    rintro s' ⟨⟩
    exact (h.steal hsettled).congr rfl id

theorem kept_handleUnregister (h : s.Kept out told l) (group : Option SupervisedGroup) :
    (s.handleUnregister group).Records after
      (fun handled => handled.supervisor.Kept out told) l := by
  cases group with
  | none => exact h
  | some group =>
    refine (records_scan group.processGroup group.sentinel l).bind fun scan l₁ hl₁ => ?_
    have h₁ := h.settles hl₁.1
    cases scan with
    | failed => exact h₁
    | live => exact h₁
    | empty =>
      refine (kept_unregisterGroup h₁ (hl₁.2 rfl)).bind fun left l₂ hl₂ => ?_
      cases left with
      | none => exact h₁.settles hl₂.1
      | some s' => exact hl₂.2 s' rfl

theorem kept_handleTerminating (h : s.Kept out told l) (group : Option SupervisedGroup) :
    (s.handleTerminating group).Records after
      (fun handled => handled.supervisor.Kept out told) l := by
  cases group with
  | none => exact h
  | some group =>
    refine (records_allSentinelsAreSafe s.ownedGroups l).bind fun safe l₁ hl₁ => ?_
    have h₁ := h.settles hl₁
    split
    · refine h₁.update ?_ ?_ rfl rfl <;> exact fun _ => rfl
    · exact h₁

theorem kept_handleRelease (h : s.Kept out told l) (group : Option SupervisedGroup) :
    (s.handleRelease group).Records after (fun handled => handled.supervisor.Kept out told) l := by
  unfold handleRelease
  split
  · exact h
  split
  · exact h
  split
  · exact h
  split
  · exact h
  split
  · exact h
  split
  · exact h
  rename_i group _ _
  refine (records_scan group.processGroup group.sentinel l).bind fun scan l₁ hl₁ => ?_
  have h₁ := h.settles hl₁.1
  cases scan with
  | failed | empty => exact h₁
  | live => refine h₁.update ?_ ?_ rfl rfl <;> exact fun _ => rfl

theorem kept_handleWithdrawRelease (h : s.Kept out told l) (group : Option SupervisedGroup) :
    (s.handleWithdrawRelease group).supervisor.Kept out told l := by
  unfold handleWithdrawRelease
  split
  · exact h
  split
  · exact h
  · refine h.update ?_ ?_ rfl rfl <;> exact fun _ => rfl

theorem kept_handleRequest (h : s.Kept out told l) (type : SupervisionType) (processGroup : ℤ) :
    (s.handleRequest type processGroup).Records after
      (fun handled => handled.supervisor.Kept out told) l := by
  cases type with
  | register => exact kept_handleRegister h processGroup
  | unregister => exact kept_handleUnregister h _
  | release => exact kept_handleRelease h _
  | withdrawRelease => exact kept_handleWithdrawRelease h _
  | terminating => exact kept_handleTerminating h _

/-- The account of a message that was received. -/
theorem Kept.receive (h : s.Kept out told l) :
    s.Kept out told.receive { l with helper := l.helper.receive } :=
  ⟨h.owed, h.killed, h.signalled, congrArg HelperAccount.receive h.told⟩

/-- The account of a response. -/
theorem Kept.respond (h : s.Kept out told l) :
    s.Kept out told.respond { l with helper := l.helper.respond } :=
  ⟨h.owed, h.killed, h.signalled, congrArg HelperAccount.respond h.told⟩

/-- What polling tells of the helper: only messages that wait get a response. -/
structure Listens (told told' : HelperAccount) : Prop where
  reaped : told'.reaped = told.reaped
  asked : told.unasked = false → told'.unasked = false

theorem Listens.refl (told : HelperAccount) : Listens told told := ⟨rfl, id⟩

theorem Listens.trans {told told' told'' : HelperAccount} (h : Listens told told')
    (h' : Listens told' told'') : Listens told told'' :=
  ⟨h'.reaped.trans h.reaped, h'.asked ∘ h.asked⟩

theorem listens_receive (told : HelperAccount) : Listens told told.receive := ⟨rfl, id⟩

theorem listens_respond {told : HelperAccount} (h : told.waiting = true) :
    Listens told told.respond :=
  ⟨rfl, fun hasked => by simp [HelperAccount.respond, h, hasked]⟩

/-- The invariant after a poll. -/
def KeptListening (s : Supervisor) (out : Option ℤ) (told : HelperAccount) (l : Account) : Prop :=
  ∃ told', s.Kept out told' l ∧ Listens told told'

theorem Kept.listening (h : s.Kept out told l) : s.KeptListening out told l :=
  ⟨told, h, .refl told⟩

theorem kept_handleMessage (h : s.Kept out told l) (hwaiting : told.waiting = true)
    (message : SupervisionMessage) :
    (s.handleMessage message).Records after (fun handled => handled.2.KeptListening out told) l := by
  unfold handleMessage
  split
  · exact h.listening
  · refine (kept_handleRequest h _ message.processGroup).bind fun handled l₁ h₁ => ?_
    intro sent
    have h₂ : handled.supervisor.KeptListening out told { l₁ with helper := l₁.helper.respond } :=
      ⟨told.respond, h₁.respond, listens_respond hwaiting⟩
    cases sent with
    | false => exact h₂
    | true => exact h₂

/-! ## Cleanup -/

/-- A group without the terminal signal is still there after a cleanup. -/
theorem Cleaned.remains {groups groups' : List SupervisedGroup} (h : Cleaned groups groups')
    {group : SupervisedGroup} (hmem : group ∈ groups) (hsent : group.terminalSignalSent = false) :
    ∃ group' ∈ groups', group'.processGroup = group.processGroup := by
  induction h with
  | nil => cases hmem
  | kept _ _ _ _ ih =>
    rcases List.mem_cons.mp hmem with rfl | hmem
    · exact ⟨_, List.mem_cons_self, rfl⟩
    · obtain ⟨group', hmem', hnumber⟩ := ih hmem
      exact ⟨group', List.mem_cons_of_mem _ hmem', hnumber⟩
  | gone hgone _ ih =>
    rcases List.mem_cons.mp hmem with rfl | hmem
    · exact absurd (hsent.symm.trans hgone) Bool.false_ne_true
    · exact ih hmem

/-- A cleanup keeps the invariant where every group with the terminal signal is settled. -/
theorem Kept.cleaned (h : s.Kept out told l) {groups : List SupervisedGroup}
    (hcleanup : s.cleanupStarted = true) (hgroups : Cleaned s.ownedGroups groups)
    (howed : l'.owed ⊆ l.owed) (htold : l'.helper = l.helper)
    (hkilled : ∀ group ∈ groups, group.terminalSignalSent = true → group.processGroup ∉ l'.owed) :
    { s with ownedGroups := groups }.Kept out told l' := by
  refine ⟨fun number hmem => ?_, hkilled, fun _ => hcleanup, htold.trans h.told⟩
  refine (h.owed number (howed hmem)).imp_right ?_
  rintro ⟨group, hgroup, rfl⟩
  refine hgroups.remains hgroup (Bool.eq_false_iff.mpr fun hsent => ?_)
  exact h.killed group hgroup hsent (howed hmem)

theorem records_signalAll (signal : Signal) (groups : List SupervisedGroup) (l : Account)
    (hkilled : ∀ group ∈ groups, group.terminalSignalSent = true → group.processGroup ∉ l.owed) :
    (signalAll signal groups).Records after (fun rest l' =>
      (∀ group ∈ rest, group.terminalSignalSent = true → group.processGroup ∉ l'.owed) ∧
        l'.owed ⊆ l.owed ∧ l'.helper = l.helper) l := by
  induction groups generalizing l with
  | nil => exact ⟨fun _ h => absurd h List.not_mem_nil, List.Subset.refl _, rfl⟩
  | cons group groups ih =>
    unfold signalAll
    split
    · rename_i hsent
      refine (ih l fun group hmem => hkilled group (List.mem_cons_of_mem _ hmem)).bind ?_
      rintro rest l' ⟨hrest, howed, htold⟩
      refine ⟨fun group' hmem hsent' => ?_, howed, htold⟩
      rcases List.mem_cons.mp hmem with rfl | hmem
      · exact fun hmem => hkilled _ List.mem_cons_self hsent (howed hmem)
      · exact hrest group' hmem hsent'
    · intro sent
      -- the signal settles the group where it is a `SIGKILL` that was sent
      have hafter : ∃ l₁, after l (.killGroup group.processGroup signal) sent = l₁ ∧
          l₁.owed ⊆ l.owed ∧ l₁.helper = l.helper ∧
          ((sent && decide (signal = .kill)) = true → group.processGroup ∉ l₁.owed) := by
        cases sent with
        | false =>
          cases signal <;>
            exact ⟨_, rfl, List.Subset.refl _, rfl, fun h => absurd h Bool.false_ne_true⟩
        | true =>
          cases signal with
          | kill =>
            exact ⟨_, rfl, (l.settles_settle _).owed, rfl, fun _ => l.not_mem_settle _⟩
          | term | int =>
            exact ⟨_, rfl, List.Subset.refl _, rfl, fun h => absurd h Bool.false_ne_true⟩
      obtain ⟨l₁, rfl, howed₁, htold₁, hsettled⟩ := hafter
      refine (ih _ fun group hmem hsent howed => ?_).bind ?_
      · exact hkilled group (List.mem_cons_of_mem _ hmem) hsent (howed₁ howed)
      rintro rest l' ⟨hrest, howed, htold⟩
      refine ⟨fun group' hmem hsent' => ?_, fun _ hmem => howed₁ (howed hmem), htold.trans htold₁⟩
      rcases List.mem_cons.mp hmem with rfl | hmem
      · exact fun hmem => hsettled hsent' (howed hmem)
      · exact hrest group' hmem hsent'

theorem kept_signalGroups (h : s.Kept out told l) (hcleanup : s.cleanupStarted = true)
    (signal : Signal) :
    (s.signalGroups signal).Records after (fun s' => s'.Kept out told) l := by
  refine ((records_signalAll signal s.ownedGroups l h.killed).and
    (signalAll_returns signal s.ownedGroups).records).bind ?_
  rintro groups l' ⟨⟨hkilled, howed, htold⟩, hgroups⟩
  exact h.cleaned hcleanup hgroups howed htold hkilled

theorem uses_reapTerminated (groups : List SupervisedGroup) :
    (reapTerminated groups).Uses Unaccounted := by
  induction groups with
  | nil => trivial
  | cons group groups ih =>
    unfold reapTerminated
    split
    · refine ⟨fun _ _ => rfl, fun reaped => ih.bind fun rest => ?_⟩
      split <;> trivial
    · exact ih.bind fun _ => trivial

/-- Reaping the groups with the terminal signal gives no other group that signal. -/
theorem reapTerminated_sent (groups : List SupervisedGroup) :
    (reapTerminated groups).Returns fun rest => ∀ group ∈ rest, ∃ group' ∈ groups,
      group'.processGroup = group.processGroup ∧
        group'.terminalSignalSent = group.terminalSignalSent := by
  have hcons {group : SupervisedGroup} {groups rest : List SupervisedGroup}
      (sentinel : Option ℕ) (hrest : ∀ group ∈ rest, ∃ group' ∈ groups,
        group'.processGroup = group.processGroup ∧
          group'.terminalSignalSent = group.terminalSignalSent) :
      ∀ group' ∈ { group with sentinel := sentinel } :: rest, ∃ group'' ∈ group :: groups,
        group''.processGroup = group'.processGroup ∧
          group''.terminalSignalSent = group'.terminalSignalSent := by
    intro group' hmem
    rcases List.mem_cons.mp hmem with rfl | hmem
    · exact ⟨group, List.mem_cons_self, rfl, rfl⟩
    · obtain ⟨group'', hmem', h⟩ := hrest group' hmem
      exact ⟨group'', List.mem_cons_of_mem _ hmem', h⟩
  induction groups with
  | nil => exact fun _ h => nomatch h
  | cons group groups ih =>
    unfold reapTerminated
    split
    · rintro ⟨reaped, last⟩
      refine ih.bind fun rest hrest => ?_
      split
      · intro group' hmem
        obtain ⟨group'', hmem', h⟩ := hrest group' hmem
        exact ⟨group'', List.mem_cons_of_mem _ hmem', h⟩
      · exact hcons _ hrest
    · exact ih.bind fun rest hrest => hcons group.sentinel hrest

theorem kept_pollCleanup (h : s.Kept out told l) :
    s.pollCleanup.Records after (fun s' => s'.Kept out told) l := by
  refine (kept_reapRetiredSentinels h).bind fun s₁ l₁ h₁ => ?_
  split
  · rename_i hcleanup
    refine ((records_of_unaccounted (uses_reapTerminated s₁.ownedGroups)).and
      ((reapTerminated_returns s₁.ownedGroups).records.and
        (reapTerminated_sent s₁.ownedGroups).records)).bind ?_
    rintro groups l' ⟨rfl, hgroups, hsent⟩
    refine h₁.cleaned hcleanup hgroups (List.Subset.refl _) rfl fun group hmem hkilled => ?_
    obtain ⟨group', hmem', hnumber, hsame⟩ := hsent group hmem
    exact hnumber ▸ h₁.killed group' hmem' (hsame.trans hkilled)
  · exact h₁

theorem uses_detachTerminated (groups : List SupervisedGroup) :
    (detachTerminated groups).Uses Unaccounted := by
  induction groups with
  | nil => trivial
  | cons group groups ih =>
    unfold detachTerminated
    split
    · exact (uses_reapSentinel group).bind fun _ => ih.bind fun _ => trivial
    · exact ih.bind fun _ => trivial

theorem detachTerminated_unsent (groups : List SupervisedGroup) :
    (detachTerminated groups).Returns fun detached =>
      ∀ group ∈ detached.2, group.terminalSignalSent = false := by
  induction groups with
  | nil => exact fun _ h => nomatch h
  | cons group groups ih =>
    unfold detachTerminated
    split
    · exact (Prog.returns_any _).bind fun _ _ => ih.bind fun _ h => h
    · rename_i hsent
      refine ih.bind fun detached h => fun group' hmem => ?_
      rcases List.mem_cons.mp hmem with rfl | hmem
      · exact Bool.eq_false_iff.mpr hsent
      · exact h group' hmem

theorem kept_detachTerminatedGroups (h : s.Kept out told l) :
    s.detachTerminatedGroups.Records after (fun detached => detached.2.Kept out told) l := by
  unfold detachTerminatedGroups
  split
  · rename_i hcleanup
    refine ((records_of_unaccounted (uses_detachTerminated s.ownedGroups)).and
      ((detachTerminated_returns s.ownedGroups).records.and
        (detachTerminated_unsent s.ownedGroups).records)).bind ?_
    rintro detached l' ⟨rfl, hgroups, hunsent⟩
    refine h.cleaned hcleanup hgroups (List.Subset.refl _) rfl fun group hmem hsent => ?_
    exact absurd ((hunsent group hmem).symm.trans hsent) Bool.false_ne_true
  · exact h

theorem uses_finalizeRelease (s : Supervisor) : s.finalizeRelease.Uses Unaccounted := by
  unfold finalizeRelease
  split
  · split
    · trivial
    · exact (uses_reapSentinel _).bind fun _ => trivial
  · trivial

/-- A group that is handed out stays on the account. -/
theorem kept_finalizeRelease (h : s.Kept none told l) :
    s.finalizeRelease.Records after (fun finalized => finalized.2.Kept finalized.1 told) l := by
  unfold finalizeRelease
  split
  · rename_i group hgroups
    split
    · exact h
    · refine (records_of_unaccounted (uses_reapSentinel group)).bind ?_
      rintro sentinel l' rfl
      refine ⟨fun number hmem => .inl ?_, fun group hmem => h.killed group (mem_steal hmem).1,
        h.signalled, h.told⟩
      obtain ⟨group', hmem', rfl⟩ := (h.owed number hmem).resolve_left fun h => nomatch h
      rw [hgroups] at hmem'
      rw [List.mem_singleton.mp hmem']
  · exact h

/-! ## Polling -/

theorem kept_failSentinels (h : s.Kept out told l) :
    s.failSentinels.Records after (fun s' => s'.Kept out told) l := by
  have hbegun : s.beginCleanup.Kept out told l := h.congr rfl fun _ => rfl
  refine (kept_signalGroups hbegun rfl .kill).bind ?_
  exact fun s₁ l₁ h₁ => h₁.congr rfl id

theorem kept_pollMessages (h : s.Kept out told l) (rounds : ℕ) :
    (s.pollMessages rounds).Records after (fun polled l' =>
      ∀ handled s', polled = some (handled, s') → s'.KeptListening out told l') l := by
  induction rounds generalizing s told l with
  | zero => exact fun _ _ h => nomatch h
  | succ rounds ih =>
    intro received
    cases received with
    | wouldBlock =>
      refine (kept_reapRetiredSentinels h).bind fun s₁ l₁ h₁ => ?_
      refine (records_allSentinelsAreSafe s₁.ownedGroups l₁).bind fun safe l₂ hl₂ => ?_
      have h₂ := h₁.settles hl₂
      split
      · rintro handled s' ⟨⟩
        exact h₂.listening
      · refine (kept_failSentinels h₂).bind fun s₃ l₃ h₃ => fun _ => ?_
        rintro handled s' ⟨⟩
        exact Kept.listening (h₃.congr rfl id)
    | closed =>
      refine (records_allSentinelsAreSafe s.ownedGroups l).bind fun safe l₁ hl₁ => ?_
      have h₁ := h.settles hl₁
      split
      · intro _
        rintro handled s' ⟨⟩
        exact Kept.listening (h₁.congr rfl id)
      · refine (kept_failSentinels h₁).bind fun s₂ l₂ h₂ => fun _ => ?_
        rintro handled s' ⟨⟩
        exact Kept.listening (h₂.congr rfl id)
    | malformed =>
      intro _
      rintro handled s' ⟨⟩
      exact Kept.listening (h.congr rfl id)
    | message message =>
      refine (kept_handleMessage h.receive rfl message).bind ?_
      rintro ⟨ok, s₁⟩ l₁ ⟨told₁, h₁, hlistens₁⟩
      have hlistens₁ := (listens_receive told).trans hlistens₁
      cases ok with
      | true =>
        refine (ih h₁).mono fun polled l₂ h₂ handled s' hs' => ?_
        obtain ⟨told₂, h₂, hlistens₂⟩ := h₂ handled s' hs'
        exact ⟨told₂, h₂, hlistens₁.trans hlistens₂⟩
      | false =>
        intro _
        rintro handled s' ⟨⟩
        exact ⟨told₁, h₁.congr rfl id, hlistens₁⟩

theorem kept_poll (h : s.Kept out told l) (rounds : ℕ) :
    (s.poll rounds).Records after (fun polled l' =>
      ∀ handled s', polled = some (handled, s') → s'.KeptListening out told l') l := by
  refine (kept_reapRetiredSentinels h).bind fun s₁ l₁ h₁ => ?_
  split
  · rintro handled s' ⟨⟩
    exact h₁.listening
  split
  · rintro handled s' ⟨⟩
    exact h₁.listening
  · exact kept_pollMessages h₁ rounds

end Supervisor

end NmSidebar
