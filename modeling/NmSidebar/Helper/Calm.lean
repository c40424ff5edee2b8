import NmSidebar.Helper.CommandSafety
import NmSidebar.Program.Environment

/-!
# A calm machine

An environment in which calls succeed, the clock stands still and nobody else changes anything.
The runs against it are the examples that the conditions of the guarantees are met by.
-/

namespace NmSidebar

open Text Effects

/-- What a calm machine answers with: the links of every dump, the firewall scope of every
capture, and whether writes of markers succeed. -/
structure Calm where
  links : LinkSnapshot
  scope : FirewallScope
  writes : Bool

/-- An observation of the links of a dump. -/
def observeLinks (links : LinkSnapshot) (name : Name) (token : Option Bytes) :
    Option (ObservedLink name token) :=
  match h : linkSnapshotObserve links name token with
  | none => none
  | some observation => some ⟨observation, links, h⟩

/-- The reading of a marker. -/
def readMarker (contents : Option Bytes) : MarkerRead :=
  match contents with
  | none => .missing
  | some data =>
    match h : runtimeMarkerParse data with
    | none => .invalid
    | some marker => .valid ⟨marker, data, h⟩

/-- A diagnosis of nothing. -/
def QuickDiagnostics.silent : QuickDiagnostics := ⟨false, .none, .none, false, false, false⟩

/-- The answers of a calm machine. -/
def Calm.answer (c : Calm) : (o : HelperCall) → World → o.Reply × World
  | .terminationRequested, w | .terminationIsPending, w | .activeProcessGroup, w => (false, w)
  | .monotonicMsec, w => ((0 : ℤ), w)
  | .setCleanupMode _, w | .restoreMask, w => ((), w)
  | .isCommitted, w => (w.committed, w)
  | .compareExchangeCommitted, w =>
    if w.committed then (false, w) else (true, { w with committed := true })
  | .retainedProcessGroup, w => (none, w)
  | .blockTermination, w | .superviseRelease .., w | .superviseWithdrawRelease .., w
  | .beginGroupTermination .., w | .reapGroup .., w | .unregisterGroup .., w
  | .effectiveUserIsRoot, w | .processInit _, w | .ignoreBrokenPipes, w | .installHandlers, w
  | .setChildSubreaper, w | .sanitizeGioEnvironment, w | .writeStandardOutput _, w
  | .storageOpenRuntime _, w | .storageOpenProfiles, w | .syncConfigAndStaging, w
  | .syncStaging, w | .configMatchesIdentity .., w | .displacedMatchesIdentity .., w
  | .iteratorFree, w | .deadlineCancellationInit _, w | .openSystemBus _, w | .openResolvconf, w
  | .resolvconfRevert .., w | .openAwgQuick, w => (true, w)
  | .readStandardInput _, w => (.ok [], w)
  | .getrandom size, w => (some ⟨List.replicate size 0, List.length_replicate⟩, w)
  | .secureFileState area name _, w =>
    (if (w.files area name).isSome then .valid else .missing, w)
  | .configSecurityState name, w =>
    (if (w.files .config name).isSome then .valid else .missing, w)
  | .readSecureFile area name _ maximumSize, w =>
    ((w.files area name).filter fun contents => decide (contents.length ≤ maximumSize), w)
  | .readConfig _, w => (.error .filesystemFailed, w)
  | .writeStagingCandidate _, w => (.notCreated, w)
  | .atomicWrite area target contents _, w => (true, w.setFile area target (some contents))
  | .removeAndSync area name, w => (true, w.setFile area name none)
  | .unlinkStaging name, w => (true, w.setFile .staging name none)
  | .renameStagingNoreplace .., w => (.failed, w)
  | .exchangeStagingConfig .., w | .iteratorNew _, w => (false, w)
  | .getConfigIdentity _, w => (none, w)
  | .iteratorNext, w => (.failed, w)
  | .readRuntimeMarker name, w => (readMarker (w.files .runtime name), w)
  | .writeRuntimeMarker name marker, w =>
    match runtimeMarkerSerialize marker with
    | none => (false, w)
    | some contents => if c.writes then (true, w.setFile .runtime name (some contents)) else (false, w)
  | .linkObserve name token, w => (observeLinks c.links name token, w)
  | .resolvedOwner _, w => (.no, w)
  | .resolvconfApply .., w => (.ok, w)
  | .resolvedChange .., w => (⟨.ok, true⟩, w)
  | .firewallCaptureScope .., w => (⟨c.scope, true, fun h => nomatch h⟩, w)
  | .firewallProbe .., w => (.absent, w)
  | .subprocessRun .., w => (⟨.exited, true, .exited 0, true, .silent, []⟩, w)

theorem behaves_readMarker (w : World) (name : Name) :
    behaves (.readRuntimeMarker name) w (readMarker (w.files .runtime name)) w := by
  refine ⟨rfl, ?_⟩
  unfold readMarker
  split
  · rename_i hread
    split at hread
    · assumption
    · split at hread <;> cases hread
  · trivial
  · rename_i hread
    split at hread
    · cases hread
    · rename_i data hfile
      split at hread
      · cases hread
      · rename_i marker hparse
        cases hread
        rw [World.marker, hfile]
        exact hparse

/-- A calm machine answers as the behaviour allows. -/
def Calm.environment (c : Calm) : Environment behaves where
  answer := c.answer
  allowed := by
    intro o w
    cases o with
    | compareExchangeCommitted =>
      simp only [Calm.answer, behaves, HelperCall.Outcome]
      cases w.committed <;> simp
    | isCommitted => exact ⟨rfl, rfl⟩
    | readStandardInput deadline => exact ⟨fun _ h => (nomatch h), fun _ h => by cases h; simp, rfl⟩
    | secureFileState area name mode =>
      simp only [Calm.answer, behaves, HelperCall.Outcome]
      cases w.files area name <;> simp
    | configSecurityState name =>
      simp only [Calm.answer, behaves, HelperCall.Outcome]
      cases w.files .config name <;> simp
    | readSecureFile area name mode maximumSize =>
      refine ⟨fun contents h => ?_, rfl⟩
      obtain ⟨hfile, hlength⟩ := Option.filter_eq_some_iff.mp h
      exact ⟨hfile, of_decide_eq_true hlength⟩
    | readConfig name =>
      refine ⟨fun failure h => ?_, fun _ _ h => (nomatch h), rfl⟩
      cases h
      exact ⟨HelperExit.noConfusion, HelperExit.noConfusion⟩
    | writeStagingCandidate contents => exact .notCreated
    | atomicWrite area target contents mode => exact .written
    | removeAndSync area name => exact .removed
    | unlinkStaging name => exact .inl ⟨rfl, rfl⟩
    | renameStagingNoreplace tempName configName => exact .failed
    | exchangeStagingConfig tempName configName => exact .failed
    | iteratorNew area => exact ⟨fun h => (nomatch h), rfl⟩
    | iteratorNext => rfl
    | readRuntimeMarker name => exact behaves_readMarker w name
    | writeRuntimeMarker name marker =>
      simp only [Calm.answer, behaves, HelperCall.Outcome]
      generalize runtimeMarkerSerialize marker = serialized
      cases serialized with
      | none => exact ⟨rfl, rfl⟩
      | some contents =>
        cases c.writes with
        | true => exact .written
        | false => exact .abandoned
    | _ => rfl

/-! ## A session -/

/-- The token of a session. -/
def sampleToken : Bytes := List.replicate linkTokenLength 0x30

/-- The journal of a session that is about to be activated. -/
def sampleJournal : RuntimeMarker where
  linkToken := sampleToken
  ifindex := 0
  dnsBackend := .resolved
  state := .activating
  dnsState := .absent
  wasActive := false
  firewallScope := 1

/-- A profile with one DNS server. -/
def sampleDns : DnsConfig := ⟨[⟨.inet, [192, 0, 2, 1]⟩], []⟩

/-- The activation of a session `a`. -/
def sampleActivation : Activation where
  name := ascii "a"
  runtimeSnapshot := []
  dns := sampleDns
  dnsPayload := (dnsConfigSerialize sampleDns).getD []
  journal := sampleJournal
  consumed := false
  nameValid := by decide
  fresh := ⟨by decide, rfl, rfl, rfl, rfl⟩

theorem sampleLink_named : ascii "a" ≠ [] := by decide

/-- The link `awg-quick up` creates for it. -/
def sampleLink : LinkRecord :=
  ⟨1, ascii "a", some (linkAliasOf sampleToken), by decide, sampleLink_named⟩

/-- A machine with no files. -/
def emptyWorld : World := ⟨fun _ _ => none, [], false⟩

/-- Deadlines that are not reached. -/
def farDeadlines : Deadlines := ⟨1000, 2000, 2000⟩

/-- The activation as a command. -/
def sampleUp : HelperM (Option HelperExit) :=
  some <$> tunnelActivate false (some sampleActivation) farDeadlines

/-- The disconnection of the session as a command. -/
def sampleDown : HelperM (Option HelperExit) :=
  some <$> tunnelDown false (ascii "a") (configNameOf (ascii "a"))
    (runtimeConfigPathOf (ascii "a")) farDeadlines

theorem helperCommand_sampleUp : HelperCommand sampleUp :=
  .activate false sampleActivation farDeadlines

theorem helperCommand_sampleDown : HelperCommand sampleDown :=
  .down false (ascii "a") farDeadlines (by decide)

/-! ## Runs of the session -/

/-- A calm machine with no link. -/
def noLink (scope : FirewallScope) : Environment behaves := (⟨[], scope, true⟩ : Calm).environment

/-- A calm machine with the session's link. -/
def linkUp (scope : FirewallScope) : Environment behaves :=
  (⟨[sampleLink], scope, true⟩ : Calm).environment

/-- Two firewall namespaces. -/
def wideScope : FirewallScope := ⟨3, by decide⟩

/-- One of them. -/
def narrowScope : FirewallScope := ⟨1, by decide⟩

/-- An activation that is stopped when `awg-quick up` has run and the firewall scope is captured. -/
def stoppedUp : List HelperEvent × HelperM (Option HelperExit) × World :=
  Environment.runAll [(12, noLink wideScope)] sampleUp emptyWorld

/-- The disconnection after it; its capture finds less. -/
def laterDown : List HelperEvent × HelperM (Option HelperExit) × World :=
  Environment.runAll [(16, linkUp narrowScope), (12, noLink narrowScope)] sampleDown stoppedUp.2.2

/-- An activation up to its change of the resolver. -/
def upToDns : List HelperEvent × HelperM (Option HelperExit) × World :=
  Environment.runAll [(11, noLink wideScope), (12, linkUp wideScope)] sampleUp emptyWorld

theorem history_of_runAll {phases : List (ℕ × Environment behaves)}
    {p : HelperM (Option HelperExit)} {w w' : World} {runs : List (List HelperEvent)}
    (hh : HelperHistory w runs w') (hw : w'.committed = false) (hp : HelperCommand p) :
    HelperHistory w (runs ++ [(Environment.runAll phases p w').1])
      (Environment.runAll phases p w').2.2 :=
  .command hh ⟨rfl, hw⟩ hp (Environment.steps_runAll phases p w')

theorem history_stoppedUp : HelperHistory emptyWorld [stoppedUp.1] stoppedUp.2.2 :=
  history_of_runAll (.start emptyWorld) rfl helperCommand_sampleUp

theorem history_laterDown : HelperHistory emptyWorld [stoppedUp.1, laterDown.1] laterDown.2.2 :=
  history_of_runAll history_stoppedUp (by decide +kernel) helperCommand_sampleDown

theorem history_upToDns : HelperHistory emptyWorld [upToDns.1] upToDns.2.2 :=
  history_of_runAll (.start emptyWorld) rfl helperCommand_sampleUp

/-- An event of a run, with the events before it and after it. -/
theorem split_at {α : Type} (l : List α) {i : ℕ} (hi : i < l.length) :
    l = l.take i ++ l.get ⟨i, hi⟩ :: l.drop (i + 1) := by
  rw [List.get_eq_getElem, List.getElem_cons_drop, List.take_append_drop]

/-- The last operation of the disconnection. -/
theorem length_laterDown : 27 < laterDown.1.length := by decide +kernel

/-! ## Profiles -/

/-- A profile without DNS servers. -/
def sampleConfig : Bytes := ascii "[Interface]\nMTU = 1400\n"

/-- The identity of its file. -/
def sampleIdentity : StorageIdentity := ⟨0, 0, 0, 0, 0, 0, 0, 0, 0⟩

/-- The name of its candidate. -/
def sampleTempName : Name := ascii "nAAAAAAAAAAAAAA.conf"

/-- A run of `awg-quick strip` that accepts its file. -/
def acceptedStrip : SubprocessResult :=
  ⟨.exited, true, .exited 0, true, .silent, ascii "[Interface]\n"⟩

/-- What a machine with profiles answers on its own: they can be listed and read, candidates are
written, `awg-quick` accepts them, and the file that an exchange displaces is not the one that was
found before. -/
def profileAnswer : (o : HelperCall) → World → Option (o.Reply × World)
  | .getConfigIdentity _, w => some (some sampleIdentity, w)
  | .iteratorNext, w =>
    match w.scan with
    | [] => some (.done, w)
    | name :: scan => some (.entry name, { w with scan })
  | .readConfig name, w =>
    ((w.files .config name).filter fun contents => decide (contents.length ≤ maxConfigSize)).map
      fun contents => (.ok (contents, sampleIdentity), w)
  | .writeStagingCandidate contents, w =>
    if w.files .staging sampleTempName = none then
      some (.complete sampleTempName, w.setFile .staging sampleTempName (some contents))
    else none
  | .subprocessRun .strip .., w => some (acceptedStrip, w)
  | .exchangeStagingConfig tempName configName, w =>
    match w.files .staging tempName, w.files .config configName with
    | some staged, some saved =>
      some (true,
        (w.setFile .staging tempName (some saved)).setFile .config configName (some staged))
    | _, _ => none
  | .displacedMatchesIdentity .., w => some (false, w)
  | _, _ => none

theorem behaves_profileAnswer (o : HelperCall) (w : World) (a : o.Reply × World)
    (h : profileAnswer o w = some a) : behaves o w a.1 a.2 := by
  cases o with
  | getConfigIdentity name => cases h; rfl
  | displacedMatchesIdentity tempName identity => cases h; rfl
  | iteratorNext =>
    simp only [profileAnswer] at h
    split at h
    · rename_i hscan
      cases h
      exact ⟨hscan, rfl⟩
    · rename_i hscan
      cases h
      exact ⟨hscan, rfl⟩
  | readConfig name =>
    obtain ⟨contents, hread, rfl⟩ := Option.map_eq_some_iff.mp h
    obtain ⟨hfile, hlength⟩ := Option.filter_eq_some_iff.mp hread
    refine ⟨fun _ h => (nomatch h), fun _ _ h => ?_, rfl⟩
    cases h
    exact ⟨hfile, of_decide_eq_true hlength⟩
  | writeStagingCandidate contents =>
    simp only [profileAnswer] at h
    split at h
    · rename_i hfresh
      cases h
      exact .complete _ (by decide +kernel) hfresh
    · cases h
  | subprocessRun command configPath deadline =>
    cases command with
    | strip => cases h; rfl
    | up | down => cases h
  | exchangeStagingConfig tempName configName =>
    simp only [profileAnswer] at h
    split at h
    · rename_i staged saved hstaged hsaved
      cases h
      exact .exchanged _ _ hstaged hsaved
    · cases h
  | _ => cases h

/-- A calm machine with profiles. -/
def profileMachine : Environment behaves :=
  (noLink wideScope).override profileAnswer behaves_profileAnswer

end NmSidebar
