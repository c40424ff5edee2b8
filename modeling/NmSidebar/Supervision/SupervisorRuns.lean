import NmSidebar.Program.Environment
import NmSidebar.Supervision.Release

/-!
# Runs of the supervisor

The messages and calls the supervisor gets, in any order and with any replies of the kernel.
-/

namespace NmSidebar

open Effects

/-- What the supervisor is made to do: one message that `recv` has given it, or one of its
functions. -/
inductive SupervisorCall where
  | receive (message : SupervisionMessage)
  | poll (rounds : ℕ)
  | disableRelease
  | beginCleanup
  | signalGroups (signal : Signal)
  | pollCleanup
  | detachRetiredSentinels
  | detachTerminatedGroups
  | finalizeRelease
  | abort

namespace SupervisorCall

/-- A message comes in on an open channel only, and the runner signals groups only once cleanup has
begun. -/
def Admissible : SupervisorCall → Supervisor → Prop
  | receive _, s => s.failed = false ∧ s.channelClosed = false
  | signalGroups _, s => s.cleanupStarted = true
  | _, _ => True

/-- The call, with the group it hands out and the state it leaves; there is neither where a poll
has not ended. -/
def run : SupervisorCall → Supervisor → ServiceM (Option (Option ℤ × Supervisor))
  | receive message, s => do
    let (handled, s) ← s.handleMessage message
    if handled then return some (none, s)
    else
      let s ← s.abort
      return some (none, s)
  | poll rounds, s => do
    let polled ← s.poll rounds
    return polled.map fun polled => (none, polled.2)
  | disableRelease, s => return some (none, s.disableRelease)
  | beginCleanup, s => return some (none, s.beginCleanup)
  | signalGroups signal, s => do
    let s ← s.signalGroups signal
    return some (none, s)
  | pollCleanup, s => do
    let s ← s.pollCleanup
    return some (none, s)
  | detachRetiredSentinels, s => do
    let (_, s) ← s.detachRetiredSentinels
    return some (none, s)
  | detachTerminatedGroups, s => do
    let (_, s) ← s.detachTerminatedGroups
    return some (none, s)
  | finalizeRelease, s => do
    let (released, s) ← s.finalizeRelease
    return some (released, s)
  | abort, s => do
    let s ← s.abort
    return some (none, s)

end SupervisorCall

/-- One admissible call, on some replies. The flag says whether a group has been handed out. -/
inductive SupervisorStep : Supervisor × Bool → Supervisor × Bool → Prop
  | call {s s' : Supervisor} {handedOut : Bool} {released : Option ℤ} (call : SupervisorCall)
      (hadmissible : call.Admissible s) (h : (call.run s).Outcome (some (released, s'))) :
      SupervisorStep (s, handedOut) (s', handedOut || released.isSome)

/-- Any number of calls. -/
abbrev SupervisorRun : Supervisor × Bool → Supervisor × Bool → Prop :=
  Relation.ReflTransGen SupervisorStep

namespace Supervisor

/-- What a call can do: a sequence of changes, or the handing out of the one group whose release is
pending. -/
theorem run_returns (call : SupervisorCall) {s : Supervisor} (hadmissible : call.Admissible s) :
    (call.run s).Returns fun result => ∀ released s', result = some (released, s') →
      (released = none ∧ Changes (fun _ => True) s s') ∨
        ∃ group, s.ownedGroups = [group] ∧ s.cleanupStarted = false ∧ group.Releasing ∧
          released = some group.processGroup ∧ s' = s.steal group.processGroup := by
  -- every call but `finalizeRelease` hands nothing out
  have hchanges {s₁ : Supervisor} (h : Changes (fun _ => True) s s₁) (released : Option ℤ) (s' : Supervisor)
      (heq : some (none, s₁) = some (released, s')) : (released = none ∧ Changes (fun _ => True) s s') ∨
        ∃ group, s.ownedGroups = [group] ∧ s.cleanupStarted = false ∧ group.Releasing ∧
          released = some group.processGroup ∧ s' = s.steal group.processGroup := by
    cases heq
    exact .inl ⟨rfl, h⟩
  cases call with
  | receive message =>
    refine (s.handleMessage_changes message).bind fun handled h => ?_
    have h : Changes (fun _ => True) s handled.2 := Changes.weaken h fun _ _ => trivial
    obtain ⟨ok, s₁⟩ := handled
    cases ok with
    | true => exact hchanges h
    | false => exact fun _ => hchanges (h.tail (.stopped true true (fun _ => rfl) fun _ => rfl))
  | poll rounds =>
    refine (s.poll_changes rounds).bind fun polled h => ?_
    cases polled with
    | none => exact fun _ _ h => nomatch h
    | some polled => exact hchanges (h polled.1 polled.2 rfl)
  | disableRelease => exact hchanges (.single (.releaseDisabled s))
  | beginCleanup => exact hchanges (.single (.cleanupBegun s))
  | signalGroups signal =>
    exact (s.signalGroups_changes (fun _ => True) signal hadmissible).bind fun _ h => hchanges h
  | pollCleanup => exact (s.pollCleanup_changes (fun _ => True)).bind fun _ h => hchanges h
  | detachRetiredSentinels =>
    exact (s.detachRetiredSentinels_changes (fun _ => True)).bind fun _ h => hchanges h
  | detachTerminatedGroups =>
    exact (s.detachTerminatedGroups_changes (fun _ => True)).bind fun _ h => hchanges h
  | abort => exact (s.abort_changes (fun _ => True)).bind fun _ h => hchanges h
  | finalizeRelease =>
    refine s.finalizeRelease_returns.bind fun finalized h => ?_
    rcases h with rfl | ⟨group, hgroups, hcleanup, hpending, hterminating, hsent, rfl⟩
    · exact hchanges .refl
    · rintro released s' ⟨⟩
      exact .inr ⟨group, hgroups, hcleanup, ⟨hpending, hterminating, hsent⟩, rfl, rfl⟩

/-- What holds of a run of the supervisor, the flags' agreement until a group is handed out. -/
structure RunInvariant (t : Supervisor × Bool) : Prop where
  consistent : Consistent t.1
  agrees : t.2 = false → ReleaseAgrees t.1

/-- One call keeps the invariant. -/
theorem RunInvariant.step {t t' : Supervisor × Bool} (h : RunInvariant t)
    (hstep : SupervisorStep t t') : RunInvariant t' := by
  obtain ⟨call, hadmissible, houtcome⟩ := hstep
  rcases (run_returns call hadmissible).outcome houtcome _ _ rfl with
    ⟨rfl, hchanges⟩ | ⟨group, -, -, -, rfl, rfl⟩
  · refine ⟨hchanges.consistent h.consistent, fun hopen => ?_⟩
    exact hchanges.releaseAgrees h.consistent (h.agrees (by simpa using hopen))
  · exact ⟨h.consistent.steal _, fun hopen => by simp at hopen⟩

/-- One call lets no new release become pending once none can. -/
theorem barred_step {t t' : Supervisor × Bool} (h : Barred t.1) (hstep : SupervisorStep t t') :
    Barred t'.1 ∧ ∀ number, t'.1.Pending number → t.1.Pending number := by
  obtain ⟨call, hadmissible, houtcome⟩ := hstep
  rcases (run_returns call hadmissible).outcome houtcome _ _ rfl with
    ⟨rfl, hchanges⟩ | ⟨group, -, -, -, rfl, rfl⟩
  · exact hchanges.barred h
  · refine ⟨h, fun number hpending => ?_⟩
    obtain ⟨group', hmem, hnumber, hpending⟩ := hpending
    exact ⟨group', (mem_steal hmem).1, hnumber, hpending⟩

/-- A run keeps the invariant. -/
theorem RunInvariant.run {t t' : Supervisor × Bool} (h : RunInvariant t)
    (hrun : SupervisorRun t t') : RunInvariant t' := by
  induction hrun with
  | refl => exact h
  | tail _ hstep ih => exact ih.step hstep

/-- A run lets no new release become pending once none can. -/
theorem barred_run {t t' : Supervisor × Bool} (h : Barred t.1) (hrun : SupervisorRun t t') :
    ∀ number, t'.1.Pending number → t.1.Pending number := by
  have hboth : Barred t'.1 ∧ ∀ number, t'.1.Pending number → t.1.Pending number := by
    induction hrun with
    | refl => exact ⟨h, fun _ h => h⟩
    | tail _ hstep ih =>
      obtain ⟨hbarred, hpending⟩ := barred_step ih.1 hstep
      exact ⟨hbarred, fun number h => ih.2 number (hpending number h)⟩
  exact hboth.2

end Supervisor

/-- The release invariant of the supervisor, in every state `s` of every run. Until cleanup starts
or a group is handed out, the release flag is set exactly where one group is owned, its release is
pending, and neither the helper nor the supervisor has begun to end it. A registration is granted
only where no release is pending. There are never more than eight groups and retired sentinels.
After `disable_release` or `begin_cleanup` no release becomes pending that was not. -/
theorem supervisor_release {allowRelease handedOut : Bool} {s : Supervisor}
    (hrun : SupervisorRun (supervisorNew allowRelease, false) (s, handedOut)) :
    (s.cleanupStarted = false → handedOut = false →
      (s.groupReleased = true ↔ ∃ group, s.ownedGroups = [group] ∧
        group.pendingRelease = true ∧ group.helperTerminating = false ∧
        group.terminalSignalSent = false)) ∧
    (∀ processGroup handled, (s.handleRequest .register processGroup).Outcome handled →
      handled.status = 0 → s.groupReleased = false ∧
        (handedOut = false → ∀ number, ¬ s.Pending number)) ∧
    s.ownedGroups.length + s.retiredSentinels.length ≤ maxSupervisedGroups ∧
    (∀ s₁ s' handedOut', s₁ = s.disableRelease ∨ s₁ = s.beginCleanup →
      SupervisorRun (s₁, handedOut) (s', handedOut') →
      ∀ number, s'.Pending number → s.Pending number) := by
  have hnew : Supervisor.RunInvariant (supervisorNew allowRelease, false) :=
    ⟨Supervisor.consistent_new allowRelease, fun _ => Supervisor.releaseAgrees_new allowRelease⟩
  have hinvariant := hnew.run hrun
  refine ⟨fun hcleanup hopen => ⟨fun hreleased => ?_, fun hgroup => ?_⟩,
    fun processGroup handled houtcome hstatus => ?_, hinvariant.consistent.bounded,
    fun s₁ s' handedOut' hs₁ hrun' => ?_⟩
  · exact (hinvariant.agrees hopen).released hcleanup hreleased
  · obtain ⟨group, hgroups, hpending, -⟩ := hgroup
    refine (hinvariant.agrees hopen).pending hcleanup group ?_ hpending
    rw [hgroups]
    exact List.mem_singleton_self group
  · have hhandles := (s.handleRequest_returns .register processGroup).outcome houtcome
    obtain ⟨hcleanup, hreleased⟩ := hhandles.registered rfl hstatus
    refine ⟨hreleased, fun hopen number hpending => ?_⟩
    obtain ⟨group, hmem, -, hpending⟩ := hpending
    have hset := (hinvariant.agrees hopen).pending hcleanup group hmem hpending
    exact absurd (hreleased.symm.trans hset) Bool.false_ne_true
  · have hbarred : s₁.Barred ∧ ∀ number, s₁.Pending number → s.Pending number := by
      rcases hs₁ with rfl | rfl
      · exact ⟨.inl rfl, fun _ h => h⟩
      · exact ⟨.inr rfl, fun _ h => h⟩
    exact fun number h => hbarred.2 number (Supervisor.barred_run hbarred.1 hrun' number h)

/-- A request of the helper about one group. -/
def requestOf (type : SupervisionType) (processGroup : ℤ) : SupervisionMessage :=
  ⟨supervisionMagic, supervisionVersion, type.code, processGroup, 1, 0⟩

/-- Replies under which every request is granted: sentinels start and every group is live. -/
def granting : (o : ServiceCall) → o.Reply
  | .receive => .wouldBlock
  | .send _ | .killGroup .. => true
  | .closeChannel | .signalHelper _ => ()
  | .scanProcessGroup .. => .live
  | .spawnSentinel _ => some 7
  | .killSentinel _ => .sent
  | .reapSentinel _ | .peekSentinel _ | .peekHelper => .running
  | .reapGroup _ => ([], .running)
  | .monotonicMsec => 0
  | .reapHelperNow | .reapHelper => .running
  | .writeHelperInput => .open
  | .readHelperOutput => ([], .open)

/-- The supervisor after a group was registered and its release granted. -/
def releasedSupervisor : Supervisor :=
  { supervisorNew true with
    ownedGroups := [⟨5, some 7, true, false, false⟩]
    groupReleased := true }

theorem run_releasedSupervisor :
    SupervisorRun (supervisorNew true, false) (releasedSupervisor, false) := by
  have hregister := Prog.outcome_evaluate granting
    ((SupervisorCall.receive (requestOf .register 5)).run (supervisorNew true))
  have hrelease := Prog.outcome_evaluate granting
    ((SupervisorCall.receive (requestOf .release 5)).run
      { supervisorNew true with ownedGroups := [⟨5, some 7, false, false, false⟩] })
  exact .tail (.single (.call (.receive (requestOf .register 5)) ⟨rfl, rfl⟩ hregister))
    (.call (.receive (requestOf .release 5)) ⟨rfl, rfl⟩ hrelease)

theorem supervisor_release_sample :
    (releasedSupervisor.groupReleased = true ↔ ∃ group, releasedSupervisor.ownedGroups = [group] ∧
      group.pendingRelease = true ∧ group.helperTerminating = false ∧
      group.terminalSignalSent = false) :=
  (supervisor_release run_releasedSupervisor).1 rfl rfl

end NmSidebar
