import NmSidebar.Helper.Main

/-!
# The ledger of a session

What has happened to the session of a name, computed from the events of a history: what the
resolver may carry, whether `awg-quick up` may have run, which firewall scopes were recorded and
captured, and how far the evidence for the end of the session has come. The helper does not see
the ledger, and nothing in it constrains a run.
-/

namespace NmSidebar

open Text Effects

/-- An event of the helper. -/
abbrev HelperEvent := Event helperSig World

/-! ## Scopes -/

/-- Every firewall namespace of `scope` is one of `bound`. -/
def scopeWithin (scope bound : UInt32) : Prop := scope ||| bound = bound

instance (scope bound : UInt32) : Decidable (scopeWithin scope bound) :=
  inferInstanceAs (Decidable (_ = _))

@[simp] theorem scopeWithin_refl (scope : UInt32) : scopeWithin scope scope := UInt32.or_self

@[simp] theorem scopeWithin_zero (bound : UInt32) : scopeWithin 0 bound := UInt32.zero_or

theorem scopeWithin.trans {a b c : UInt32} (hab : scopeWithin a b) (hbc : scopeWithin b c) :
    scopeWithin a c := by
  rw [scopeWithin, ← hbc, ← UInt32.or_assoc, hab]

theorem scopeWithin_or_left (a b : UInt32) : scopeWithin a (a ||| b) := by
  rw [scopeWithin, ← UInt32.or_assoc, UInt32.or_self]

theorem scopeWithin_or_right (a b : UInt32) : scopeWithin b (a ||| b) := by
  rw [UInt32.or_comm a b]
  exact scopeWithin_or_left b a

theorem or_scopeWithin {a b c : UInt32} (ha : scopeWithin a c) (hb : scopeWithin b c) :
    scopeWithin (a ||| b) c := by
  rw [scopeWithin, UInt32.or_assoc, hb, ha]

/-- What two scopes do not meet, their union does not meet. -/
theorem or_and_eq_zero {a b c : UInt32} (ha : a &&& c = 0) (hb : b &&& c = 0) :
    (a ||| b) &&& c = 0 := by
  rw [← UInt32.toBitVec_inj] at ha hb ⊢
  have hbit : ∀ i, ((a ||| b) &&& c).toBitVec.getLsbD i =
      ((a &&& c).toBitVec.getLsbD i || (b &&& c).toBitVec.getLsbD i) := by
    intro i
    simp only [UInt32.toBitVec_and, UInt32.toBitVec_or, BitVec.getLsbD_and, BitVec.getLsbD_or,
      Bool.and_or_distrib_right]
  apply BitVec.eq_of_getLsbD_eq
  intro i _
  rw [hbit, ha, hb, Bool.or_self]

/-! ## Evidence -/

/-- What a command has seen of the end of a session: nothing, its link absent, after that a
probe that found nothing of a firewall scope, and after that its link absent again. -/
inductive Evidence where
  | nothing
  | linkAbsent
  | probed (scope : UInt32)
  | verified (scope : UInt32)
  deriving DecidableEq

/-- No link has the session's token and none has its name. -/
def observedAbsent : Option LinkObservation → Bool
  | none => false
  | some current => current.tokenMatches == 0 && !current.namedExists

/-- The evidence with the session's link absent. -/
def Evidence.confirmed : Evidence → Evidence
  | nothing | linkAbsent => .linkAbsent
  | probed scope | verified scope => .verified scope

theorem Evidence.confirmed_ne_nothing (evidence : Evidence) : evidence.confirmed ≠ .nothing := by
  cases evidence <;> simp [confirmed]

/-- The evidence after the session's link was looked for. -/
def Evidence.afterLink (evidence : Evidence) (observation : Option LinkObservation) : Evidence :=
  if observedAbsent observation then evidence.confirmed else .nothing

/-- The evidence after the firewall was probed. -/
def Evidence.afterProbe (evidence : Evidence) (scope : UInt32) (state : FirewallState) :
    Evidence :=
  if state = .absent ∧ evidence ≠ .nothing then .probed scope else .nothing

/-! ## The ledger -/

/-- What is known of the session whose marker is on disk. -/
structure SessionLedger where
  /-- `awg-quick up` may have run. -/
  up : Bool
  /-- The token of the marker that reached the disk last. -/
  token : Bytes
  /-- The firewall scopes of all the markers that reached the disk. -/
  recorded : UInt32
  /-- The firewall scopes the current command has captured. -/
  captured : UInt32
  /-- The evidence of the current command. -/
  evidence : Evidence
  /-- The scope that was verified when the marker on disk was written as complete. -/
  completed : Option UInt32
  /-- How many of the steps that come before the removal of the marker have just been done. -/
  finalizing : ℕ
  deriving DecidableEq

/-- Nothing is known. -/
def SessionLedger.empty : SessionLedger :=
  ⟨false, [], 0, 0, .nothing, none, 0⟩

/-- The scope that a marker written as complete rests on. -/
def SessionLedger.certificate (l : SessionLedger) : Option UInt32 :=
  match l.evidence with
  | .verified scope => some scope
  | _ => l.completed

/-- What an event tells of the session of `n`. -/
def SessionLedger.observe (n : Name) (l : SessionLedger) : HelperEvent → SessionLedger
  | ⟨.subprocessRun command path _, _, child, _⟩ =>
    if path = runtimeConfigPathOf n then
      { l with up := l.up || (command == .up && child.mayHaveRun), evidence := .nothing }
    else l
  | ⟨.writeRuntimeMarker name journal, _, _, w⟩ =>
    if name = n ∧ w.marker n = some journal then
      { l with
        token := journal.linkToken
        recorded := l.recorded ||| journal.firewallScope
        completed := if journal.state = .cleanupComplete then l.certificate else none }
    else l
  | ⟨.firewallCaptureScope name _, _, captured, _⟩ =>
    if name = n then { l with captured := l.captured ||| captured.scope.bits } else l
  | ⟨.linkObserve name token, _, reply, _⟩ =>
    if name = n ∧ token = some l.token then
      { l with evidence := l.evidence.afterLink (observationOf reply) }
    else l
  | ⟨.firewallProbe name scope _, _, state, _⟩ =>
    if name = n then { l with evidence := l.evidence.afterProbe scope state } else l
  | _ => l

/-- The steps of `finalize_runtime_entries`, counted: the marker is written as complete, the
configuration and the DNS payload are removed. Any other event starts over. -/
def finalizingAfter (n : Name) (done : ℕ) : HelperEvent → ℕ
  | ⟨.writeRuntimeMarker name journal, _, true, _⟩ =>
    if name = n ∧ journal.state = .cleanupComplete then 1 else 0
  | ⟨.removeAndSync .runtimeConfigs file, _, true, _⟩ =>
    if file = configNameOf n ∧ done = 1 then 2
    else if file = dnsNameOf n ∧ done = 2 then 3
    else 0
  | _ => 0

/-- Whether the resolver may carry the configuration of the session with a token: a change that
may have changed something was applied, and it was not reverted since. -/
def carryAfter (n : Name) (mayCarry : Bytes → Bool) : HelperEvent → Bytes → Bool
  | ⟨.resolvconfApply identity _ _, _, _, _⟩, token =>
    mayCarry token || (identity.name == n && identity.linkToken == token)
  | ⟨.resolvedChange identity (some _) _, _, outcome, _⟩, token =>
    mayCarry token ||
      (identity.name == n && identity.linkToken == token && outcome.mayHaveChanged)
  | ⟨.resolvconfRevert identity _, _, reverted, _⟩, token =>
    mayCarry token && !(identity.name == n && identity.linkToken == token && reverted)
  | ⟨.resolvedChange identity none _, _, outcome, _⟩, token =>
    mayCarry token &&
      !(identity.name == n && identity.linkToken == token && outcome.result == .ok)
  | _, token => mayCarry token

/-- The ledger of a name. -/
structure Ledger extends SessionLedger where
  /-- The resolver may carry the configuration of the session with this token. -/
  mayCarry : Bytes → Bool
  /-- The last event entered the cleanup mode. -/
  cleanupModeSet : Bool
  /-- The first marker write of `rollback_activation` has failed. It is the write that directly
  follows the entry into the cleanup mode. -/
  rollbackWriteFailed : Bool

/-- The ledger before anything has happened. -/
def Ledger.empty : Ledger :=
  { SessionLedger.empty with
    mayCarry := fun _ => false, cleanupModeSet := false, rollbackWriteFailed := false }

/-- Whether an event enters the cleanup mode. -/
def entersCleanupMode : HelperEvent → Bool
  | ⟨.setCleanupMode true, _, _, _⟩ => true
  | _ => false

/-- Whether an event is a failed write of a marker of `n`. -/
def isFailedWrite (n : Name) : HelperEvent → Bool
  | ⟨.writeRuntimeMarker name _, _, written, _⟩ => name == n && !written
  | _ => false

/-- The session's part of the ledger after an event: it ends with the marker. -/
def SessionLedger.after (n : Name) (l : SessionLedger) (e : HelperEvent) : SessionLedger :=
  if e.after.files .runtime n = none then .empty
  else { l.observe n e with finalizing := finalizingAfter n l.finalizing e }

/-- The ledger after an event. -/
def Ledger.after (n : Name) (l : Ledger) (e : HelperEvent) : Ledger :=
  { l.toSessionLedger.after n e with
    mayCarry := carryAfter n l.mayCarry e
    cleanupModeSet := entersCleanupMode e
    rollbackWriteFailed := l.rollbackWriteFailed || (l.cleanupModeSet && isFailedWrite n e) }

/-- The ledger at the start of a command: what only the last command knew is gone. -/
def Ledger.atBoot (l : Ledger) : Ledger :=
  { l with captured := 0, evidence := .nothing, finalizing := 0, cleanupModeSet := false,
           rollbackWriteFailed := false }

/-- The ledgers of all names. -/
abbrev Ledgers := Name → Ledger

/-- The ledgers before anything has happened. -/
def Ledgers.empty : Ledgers := fun _ => .empty

/-- The ledgers after an event. -/
def Ledgers.after (L : Ledgers) (e : HelperEvent) : Ledgers := fun n => (L n).after n e

/-- The ledgers at the start of a command. -/
def Ledgers.atBoot (L : Ledgers) : Ledgers := fun n => (L n).atBoot

/-- The world with the ledgers. -/
abbrev Tracked := World × Ledgers

/-- The behaviour of the helper's operations, with the ledgers kept along. -/
def tracked : Behaviour helperSig Tracked := behaves.monitor Ledgers.after

/-! ## What an event leaves of a ledger -/

/-- A ledger that promises no more than another: what it still carries was carried, and its
session, where there still is one, is the same with the same scopes. -/
structure Ledger.Keeps (l l' : Ledger) : Prop where
  carried : ∀ token, l'.mayCarry token = true → l.mayCarry token = true
  session : l'.up = true → l.up = true ∧ l'.token = l.token ∧ l'.recorded = l.recorded ∧
    l'.captured = l.captured ∧ l'.completed = l.completed

theorem Ledger.Keeps.refl (l : Ledger) : l.Keeps l where
  carried := fun _ h => h
  session := fun h => ⟨h, rfl, rfl, rfl, rfl⟩

theorem Ledger.Keeps.trans {l l' l'' : Ledger} (h : l.Keeps l') (h' : l'.Keeps l'') :
    l.Keeps l'' where
  carried := fun token ht => h.carried token (h'.carried token ht)
  session := by
    intro hup
    obtain ⟨hup', htoken', hrecorded', hcaptured', hcompleted'⟩ := h'.session hup
    obtain ⟨hup, htoken, hrecorded, hcaptured, hcompleted⟩ := h.session hup'
    exact ⟨hup, htoken'.trans htoken, hrecorded'.trans hrecorded, hcaptured'.trans hcaptured,
      hcompleted'.trans hcompleted⟩

/-- Where the marker is gone, so is the session. -/
theorem after_of_missing {n : Name} {l : Ledger} {e : HelperEvent}
    (h : e.after.files .runtime n = none) : (l.after n e).toSessionLedger = .empty :=
  if_pos h

/-- Where there is a file, the session's ledger has observed the event. -/
theorem after_of_present {n : Name} {l : Ledger} {e : HelperEvent}
    (h : e.after.files .runtime n ≠ none) : (l.after n e).toSessionLedger =
      { l.toSessionLedger.observe n e with finalizing := finalizingAfter n l.finalizing e } :=
  if_neg h

/-- A session in the ledger has a file. -/
theorem present_of_up {n : Name} {l : Ledger} {e : HelperEvent} (h : (l.after n e).up = true) :
    e.after.files .runtime n ≠ none := by
  intro hnone
  have hempty := after_of_missing (l := l) hnone
  rw [show (l.after n e).up = (l.after n e).toSessionLedger.up from rfl, hempty] at h
  cases h

/-- The ledger of a session that has observed an event. -/
theorem session_of_up {n : Name} {l : Ledger} {e : HelperEvent} (h : (l.after n e).up = true) :
    (l.after n e).toSessionLedger =
      { l.toSessionLedger.observe n e with finalizing := finalizingAfter n l.finalizing e } :=
  after_of_present (present_of_up h)

/-- An event that tells nothing of a session's marker, scopes and tool runs, and takes no
configuration into the resolver, keeps the ledger. -/
theorem keeps_after {n : Name} {l : Ledger} {e : HelperEvent}
    (hcarry : ∀ token, carryAfter n l.mayCarry e token = true → l.mayCarry token = true)
    (hobserve : l.toSessionLedger.observe n e =
      { l.toSessionLedger with evidence := (l.toSessionLedger.observe n e).evidence }) :
    l.Keeps (l.after n e) where
  carried := hcarry
  session := by
    intro hup
    have hafter := after_of_present (l := l) (present_of_up hup)
    rw [hobserve] at hafter
    have hfields := SessionLedger.mk.inj hafter
    refine ⟨?_, ?_, ?_, ?_, ?_⟩
    · exact hfields.1.symm.trans hup
    · exact hfields.2.1
    · exact hfields.2.2.1
    · exact hfields.2.2.2.1
    · exact hfields.2.2.2.2.2.1

end NmSidebar
