import NmSidebar.Program.Safety
import NmSidebar.AmneziaWG.LinkIdentity
import NmSidebar.AmneziaWG.RuntimeJournal
import NmSidebar.AmneziaWG.DnsConfig

/-!
# The operations of the privileged helper

The helper's functions are programs over the operations of this file: the calls that leave the
helper's own code. Every reply the operating system, the resolver or `awg-quick` can give has a
value here; what a reply says about the state of the machine is in `Helper/World.lean`.
-/

namespace NmSidebar

open Text Effects

/-! ## Types of arguments and replies -/

/-- `AwgHelperStorageArea`. -/
inductive StorageArea where
  | config
  | staging
  | runtime
  | runtimeConfigs
  deriving DecidableEq

/-- `AwgHelperEntryState`. -/
inductive EntryState where
  | missing
  | valid
  | invalid
  deriving DecidableEq

/-- `AwgHelperStorageIdentity`, the fields of `struct stat` that are compared. -/
structure StorageIdentity where
  dev : ℕ
  ino : ℕ
  mode : ℕ
  uid : ℕ
  gid : ℕ
  nlink : ℕ
  size : ℕ
  mtime : ℕ
  ctime : ℕ
  deriving DecidableEq

/-- The outcome of a staging candidate: the random name and whether the file is complete. -/
inductive StagingCandidate where
  | notCreated
  | incomplete (tempName : Name)
  | complete (tempName : Name)
  deriving DecidableEq

/-- The outcome of a rename that must not replace, with the one error code that is looked at. -/
inductive RenameOutcome where
  | renamed
  | targetExists
  | failed
  deriving DecidableEq

/-- `AwgHelperStorageIteratorResult` with the entry's name. -/
inductive IteratorResult where
  | entry (name : Name)
  | done
  | failed
  deriving DecidableEq

/-- A marker that `network_sidebar_amneziawg_runtime_marker_parse` accepts. -/
structure ParsedMarker where
  marker : RuntimeMarker
  parsed : ∃ data, runtimeMarkerParse data = some marker
  deriving DecidableEq

/-- The reply to reading a runtime marker. -/
inductive MarkerRead where
  | missing
  | invalid
  | valid (marker : ParsedMarker)
  deriving DecidableEq

/-- An observation made by `network_sidebar_amneziawg_link_snapshot_observe` on some dump. -/
structure ObservedLink (name : Name) (token : Option Bytes) where
  observation : LinkObservation
  observed : ∃ snapshot, linkSnapshotObserve snapshot name token = some observation

/-- `DnsChangeResult`. -/
inductive DnsChangeResult where
  | ok
  | unavailable
  | failed
  | uncertain
  deriving DecidableEq

/-- `DnsChangeOutcome`. -/
structure DnsChangeOutcome where
  result : DnsChangeResult
  mayHaveChanged : Bool
  deriving DecidableEq

/-- `ResolvedOwner`. -/
inductive ResolvedOwner where
  | error
  | no
  | yes
  deriving DecidableEq

/-- `AwgFirewallState`. -/
inductive FirewallState where
  | absent
  | present
  | unknown
  deriving DecidableEq

/-- A set of the five firewall namespaces. -/
structure FirewallScope where
  bits : UInt32
  within : bits &&& ~~~firewallAll = 0
  deriving DecidableEq

/-- `NETWORK_SIDEBAR_AMNEZIAWG_FIREWALL_ALL`. -/
def FirewallScope.all : FirewallScope := ⟨firewallAll, by decide⟩

/-- The scope `awg_firewall_capture_scope` leaves, and whether it returned true. A failed
discovery leaves all namespaces. -/
structure CapturedScope where
  scope : FirewallScope
  complete : Bool
  retained : complete = false → scope = .all

/-- The first argument of `awg-quick`. -/
inductive QuickCommand where
  | strip
  | up
  | down
  deriving DecidableEq

/-- `AwgSubprocessStatus`. -/
inductive SubprocessStatus where
  | exited
  | setupFailed
  | ioFailed
  | outputTooLarge
  | timedOut
  | cancelled
  deriving DecidableEq

/-- A wait status, taken apart by `WIFEXITED` and `WIFSIGNALED`. -/
inductive WaitStatus where
  | exited (code : ℕ)
  | signaled
  | other
  deriving DecidableEq

/-- `AwgQuickStage`. -/
inductive QuickStage where
  | none
  | interface
  | userspace
  | setconf
  | address
  | mtu
  | dns
  | route
  | firewall
  deriving DecidableEq

/-- `AwgQuickDiagnostics` after the last line. -/
structure QuickDiagnostics where
  userspaceStarted : Bool
  currentStage : QuickStage
  failureCandidate : QuickStage
  interfaceSeen : Bool
  teardownSeen : Bool
  recoveryBlocked : Bool
  deriving DecidableEq

/-- `AwgSubprocessResult`, with what the run printed. -/
structure SubprocessResult where
  status : SubprocessStatus
  mayHaveRun : Bool
  waitStatus : WaitStatus
  diagnosticsComplete : Bool
  diagnostics : QuickDiagnostics
  output : Bytes
  deriving DecidableEq

/-- What the random source gives when it is asked for `size` bytes. -/
abbrev RandomBytes (size : ℕ) := { bytes : Bytes // bytes.length = size }

/-- `NetworkSidebarAmneziaWGDeadlines`. -/
structure Deadlines where
  forwardAt : ℤ
  cleanupAt : ℤ
  hardAt : ℤ
  deriving DecidableEq

/-! ## The operations -/

/-- The operations, named by the function that is called. `firewallCaptureScope` has the name of
the session whose journal the scope goes to. -/
inductive HelperCall where
  -- process state and time
  | terminationRequested
  | monotonicMsec
  | setCleanupMode (enabled : Bool)
  | isCommitted
  | blockTermination
  | restoreMask
  | terminationIsPending
  | retainedProcessGroup
  | activeProcessGroup
  | superviseRelease (child : ℕ) (deadline : ℤ)
  | superviseWithdrawRelease (child : ℕ) (deadline : ℤ)
  | compareExchangeCommitted
  | beginGroupTermination (child : ℕ) (deadline : ℤ)
  | reapGroup (child : ℕ) (deadline : ℤ)
  | unregisterGroup (child : ℕ) (deadline : ℤ)
  -- the start of the process
  | effectiveUserIsRoot
  | processInit (cleanupDeadline : ℤ)
  | ignoreBrokenPipes
  | installHandlers
  | setChildSubreaper
  | sanitizeGioEnvironment
  | readStandardInput (deadline : ℤ)
  | writeStandardOutput (contents : Bytes)
  | getrandom (size : ℕ)
  -- storage
  | storageOpenRuntime (deadline : ℤ)
  | storageOpenProfiles
  | secureFileState (area : StorageArea) (name : Name) (mode : ℕ)
  | configSecurityState (configName : Name)
  | readSecureFile (area : StorageArea) (name : Name) (mode maximumSize : ℕ)
  | readConfig (configName : Name)
  | writeStagingCandidate (contents : Bytes)
  | atomicWrite (area : StorageArea) (target : Name) (contents : Bytes) (mode : ℕ)
  | removeAndSync (area : StorageArea) (name : Name)
  | unlinkStaging (name : Name)
  | renameStagingNoreplace (tempName configName : Name)
  | exchangeStagingConfig (tempName configName : Name)
  | syncConfigAndStaging
  | syncStaging
  | getConfigIdentity (configName : Name)
  | configMatchesIdentity (configName : Name) (identity : StorageIdentity)
  | displacedMatchesIdentity (tempName : Name) (identity : StorageIdentity)
  | iteratorNew (area : StorageArea)
  | iteratorNext
  | iteratorFree
  | readRuntimeMarker (name : Name)
  | writeRuntimeMarker (name : Name) (marker : RuntimeMarker)
  -- links, resolver, firewall and awg-quick
  | linkObserve (name : Name) (linkToken : Option Bytes)
  | deadlineCancellationInit (deadline : ℤ)
  | openSystemBus (deadline : ℤ)
  | resolvedOwner (deadline : ℤ)
  | openResolvconf
  | resolvconfApply (identity : LinkIdentity) (dns : DnsConfig) (deadline : ℤ)
  | resolvconfRevert (identity : LinkIdentity) (deadline : ℤ)
  | resolvedChange (identity : LinkIdentity) (dns : Option DnsConfig) (deadline : ℤ)
  | firewallCaptureScope (name : Name) (deadline : ℤ)
  | firewallProbe (name : Name) (scope : UInt32) (deadline : ℤ)
  | openAwgQuick
  | subprocessRun (command : QuickCommand) (configPath : Bytes) (deadline : ℤ)

/-- The reply to each operation. A wall clock of −1 is a failed reading, as in the source. -/
@[reducible] def HelperCall.Reply : HelperCall → Type
  | monotonicMsec => ℤ
  | setCleanupMode _ | restoreMask => Unit
  | retainedProcessGroup => Option ℕ
  | readStandardInput _ => Except HelperExit Bytes
  | getrandom size => Option (RandomBytes size)
  | secureFileState .. | configSecurityState _ => EntryState
  | readSecureFile .. => Option Bytes
  | readConfig _ => Except HelperExit (Bytes × StorageIdentity)
  | writeStagingCandidate _ => StagingCandidate
  | renameStagingNoreplace .. => RenameOutcome
  | getConfigIdentity _ => Option StorageIdentity
  | iteratorNext => IteratorResult
  | readRuntimeMarker _ => MarkerRead
  | linkObserve name linkToken => Option (ObservedLink name linkToken)
  | resolvedOwner _ => ResolvedOwner
  | resolvconfApply .. => DnsChangeResult
  | resolvedChange .. => DnsChangeOutcome
  | firewallCaptureScope .. => CapturedScope
  | firewallProbe .. => FirewallState
  | subprocessRun .. => SubprocessResult
  | _ => Bool

/-- The signature of the helper. -/
@[reducible] def helperSig : Signature := ⟨HelperCall, HelperCall.Reply⟩

/-- Programs of the helper. -/
abbrev HelperM := Prog helperSig

/-- Issues an operation. -/
abbrev ask (o : HelperCall) : HelperM o.Reply := Prog.request (S := helperSig) o

end NmSidebar
