import NmSidebar.AmneziaWG.LinkEvents
import NmSidebar.AmneziaWG.RuntimeJournal
import NmSidebar.Program.Basic

/-!
# Scans of the runtime directory

`scan_runtime` of `runtime_source.c`: the worker thread of the panel looks at the markers and the
links of a bounded set of names. Hash tables are lists without duplicates; the order in which one
is gone through is not determined.
-/

namespace NmSidebar

open Text Effects

/-- `AWG_RUNTIME_MAX_NAMES`. -/
def awgRuntimeMaxNames : ℕ := 1024

/-- `AWG_RUNTIME_MAX_DIRECTORY_ENTRIES`. -/
def awgRuntimeMaxDirectoryEntries : ℕ := 4096

/-- `NetworkSidebarAwgRuntimeRecord`. -/
structure RuntimeRecord where
  name : Name
  state : RuntimeState
  interfaceExists : Bool
  deriving DecidableEq

/-- `record_identifies_session`. -/
def RuntimeRecord.identifiesSession (record : RuntimeRecord) : Bool :=
  decide (record.state ≠ .inactive)

/-- `RuntimeScanRequest`. `startedAt` is not in the source: it counts the invalidations before the
scan was started. -/
structure RuntimeScanRequest where
  names : List Name
  previousNames : List Name
  generation : ℕ
  startedAt : ℕ

/-- `RuntimeScanResult`. `startedAt` is that of the request. -/
structure RuntimeScanResult where
  records : List RuntimeRecord
  linkFilter : Option LinkEventFilter
  generation : ℕ
  complete : Bool
  startedAt : ℕ

/-! ## What the worker calls -/

/-- `RuntimeDirectoryState`. -/
inductive RuntimeDirectoryState where
  | missing
  | trusted
  | unknown
  deriving DecidableEq

/-- `RuntimeMarkerState`, with the marker where it is valid. -/
inductive RuntimeMarkerState where
  | absent
  | valid (marker : RuntimeMarker)
  | invalid
  | unknown

/-- What `readdir` gives. -/
inductive DirectoryEntry where
  | entry (name : Bytes)
  | last
  | failed

/-- What `fstatat` and `openat` give of a marker. A file that is not a root-owned regular file with
one link and mode 0644 is foreign; one that is no longer the same when it is open is changed. -/
inductive MarkerFile where
  | absent
  | failed
  | foreign
  | changed
  | opened

/-- The operations of the worker. -/
inductive ScanCall where
  | isCancelled
  | openRuntimeDirectory
  | openEntries
  | readEntry
  | closeEntries
  | linkSnapshotRead
  | openMarker (name : Name)
  | readMarker (name : Name)
  | iterate (names : List Name)

/-- The replies to them. A read gives at most one byte more than a marker may have, or fails. -/
abbrev ScanCall.Reply : ScanCall → Type
  | isCancelled | openEntries | closeEntries => Bool
  | openRuntimeDirectory => RuntimeDirectoryState
  | readEntry => DirectoryEntry
  | linkSnapshotRead => Option LinkSnapshot
  | openMarker _ => MarkerFile
  | readMarker _ => Option Bytes
  | iterate _ => List Name

/-- The worker's signature. -/
abbrev scanSig : Signature := ⟨ScanCall, ScanCall.Reply⟩

/-- A program of the worker. -/
abbrev ScanM := Prog scanSig

/-- One operation of the worker. -/
def worker (o : ScanCall) : ScanM o.Reply := Prog.call o Prog.pure

/-- Going through a hash table meets every key once. -/
def ScanCall.Allows : (o : ScanCall) → o.Reply → Prop
  | iterate names, order => order.Perm names
  | _, _ => True

/-! ## The scan -/

/-- `g_hash_table_add` of a name. -/
def addName (names : List Name) (name : Name) : List Name :=
  if names.contains name then names else names ++ [name]

/-- The loop over the requested names in `scan_runtime`: whether all were added. -/
def addRequestedNames (names : List Name) (complete : Bool) : List Name → List Name × Bool
  | [] => (names, complete)
  | name :: rest =>
    if names.contains name ∨ names.length < awgRuntimeMaxNames then
      addRequestedNames (addName names name) complete rest
    else addRequestedNames names false rest

/-- The loop of `add_runtime_names`, with the number of entries that may still be looked at. -/
def addEntries (names : List Name) : ℕ → ScanM (List Name × Bool)
  | 0 => do
    let _ ← worker .isCancelled
    return (names, false)
  | remaining + 1 => do
    if ← worker .isCancelled then return (names, false)
    else
      match ← worker .readEntry with
      | .last => return (names, true)
      | .failed => return (names, false)
      | .entry name =>
        if nameIsValid name = false then addEntries names remaining
        else if names.length ≥ awgRuntimeMaxNames ∧ names.contains name = false then
          return (names, false)
        else addEntries (addName names name) remaining

/-- `add_runtime_names`. -/
def addRuntimeNames (names : List Name) : ScanM (List Name × Bool) := do
  if ← worker .openEntries then
    let (names, complete) ← addEntries names awgRuntimeMaxDirectoryEntries
    let closed ← worker .closeEntries
    return (names, complete && closed)
  else return (names, false)

/-- `read_runtime_marker`. -/
def readRuntimeMarker (directory : RuntimeDirectoryState) (name : Name) :
    ScanM RuntimeMarkerState := do
  match directory with
  | .missing => return .absent
  | .unknown => return .unknown
  | .trusted =>
    match ← worker (.openMarker name) with
    | .absent => return .absent
    | .failed | .changed => return .unknown
    | .foreign => return .invalid
    | .opened =>
      match ← worker (.readMarker name) with
      | none => return .unknown
      | some data =>
        if data.length > maxRuntimeMarkerSize then return .invalid
        else
          match runtimeMarkerParse data with
          | none => return .invalid
          | some marker => return .valid marker

namespace RuntimeMarkerState

/-- `marker_state != RUNTIME_MARKER_ABSENT`. -/
def present : RuntimeMarkerState → Bool
  | absent => false
  | _ => true

/-- The marker where it is valid. -/
def marker? : RuntimeMarkerState → Option RuntimeMarker
  | valid marker => some marker
  | _ => none

/-- `marker_state != RUNTIME_MARKER_UNKNOWN`. -/
def known : RuntimeMarkerState → Bool
  | unknown => false
  | _ => true

/-- The identity that `scan_runtime` watches for. -/
def identity (state : RuntimeMarkerState) (name : Name) : MonitoredIdentity :=
  ⟨name, state.marker?.map (·.linkToken), (state.marker?.map (·.ifindex)).getD 0⟩

end RuntimeMarkerState

/-- What is gathered in the loop of `scan_runtime` over the names. -/
structure RuntimeScan where
  records : List RuntimeRecord
  linkFilter : LinkEventFilter
  complete : Bool

/-- One name in the loop of `scan_runtime`. -/
def RuntimeScan.observe (scan : RuntimeScan) (links : Option LinkSnapshot) (name : Name)
    (markerState : RuntimeMarkerState) : RuntimeScan :=
  let observation := links.bind fun links =>
    linkSnapshotObserve links name (markerState.marker?.map (·.linkToken))
  let examined := markerState.known && observation.isSome
  { records := scan.records ++ [⟨name,
      if examined then
        runtimeStateClassify markerState.present markerState.marker?.isSome markerState.marker?
          observation
      else .unknown,
      observation.any (·.namedExists)⟩]
    linkFilter := scan.linkFilter.add links (markerState.identity name)
    complete := scan.complete && examined }

/-- The loop of `scan_runtime` over the names. There is no result where it is cancelled. -/
def scanNames (directory : RuntimeDirectoryState) (links : Option LinkSnapshot)
    (scan : RuntimeScan) : List Name → ScanM (Option RuntimeScan)
  | [] => return some scan
  | name :: names => do
    if ← worker .isCancelled then return none
    else
      let markerState ← readRuntimeMarker directory name
      scanNames directory links (scan.observe links name markerState) names

/-- The names of `scan_runtime`, and whether there was room for all. -/
def scanTable (scanRequest : RuntimeScanRequest) (directory : RuntimeDirectoryState) :
    ScanM (List Name × Bool) := do
  let (names, complete) :=
    addRequestedNames (scanRequest.previousNames.foldl addName []) true scanRequest.names
  match directory with
  | .trusted =>
    let (names, added) ← addRuntimeNames names
    return (names, complete && added)
  | .unknown => return (names, false)
  | .missing => return (names, complete)

/-- `scan_runtime`. -/
def scanRuntime (scanRequest : RuntimeScanRequest) : ScanM (Option RuntimeScanResult) := do
  let directory ← worker .openRuntimeDirectory
  let (names, complete) ← scanTable scanRequest directory
  if ← worker .isCancelled then return none
  else
    let links ← worker .linkSnapshotRead
    let order ← worker (.iterate names)
    match ← scanNames directory links ⟨[], .new, complete && links.isSome⟩ order with
    | none => return none
    | some scan =>
      return some {
        records := scan.records
        linkFilter := if scan.complete then some scan.linkFilter else none
        generation := scanRequest.generation
        complete := scan.complete
        startedAt := scanRequest.startedAt }

/-! ## What a scan finds -/

/-- What holds of the result of a scan. -/
structure RuntimeScanResult.Answers (result : RuntimeScanResult)
    (scanRequest : RuntimeScanRequest) : Prop where
  distinct : (result.records.map (·.name)).Nodup
  bounded : result.records.length ≤ awgRuntimeMaxNames
  valid : ∀ record ∈ result.records, nameIsValid record.name = true
  /-- Every name of the previous sessions was examined. -/
  covers : ∀ name ∈ scanRequest.previousNames, name ∈ result.records.map (·.name)
  generation : result.generation = scanRequest.generation
  startedAt : result.startedAt = scanRequest.startedAt

/-- A table with an added name has no duplicates. -/
theorem nodup_addName {names : List Name} (h : names.Nodup) (name : Name) :
    (addName names name).Nodup := by
  unfold addName
  split
  · exact h
  · rename_i habsent
    have hnew : name ∉ names := by simpa using habsent
    exact List.nodup_append.mpr ⟨h, List.nodup_singleton name,
      fun a ha b hb hab => hnew (List.mem_singleton.mp hb ▸ hab ▸ ha)⟩

theorem mem_addName {names : List Name} {name other : Name} :
    other ∈ addName names name ↔ other ∈ names ∨ other = name := by
  unfold addName
  split
  · rename_i hpresent
    have hold : name ∈ names := by simpa using hpresent
    constructor
    · exact .inl
    · rintro (hmem | rfl)
      · exact hmem
      · exact hold
  · rw [List.mem_append, List.mem_singleton]

theorem nodup_foldl_addName {names : List Name} (h : names.Nodup) (added : List Name) :
    (added.foldl addName names).Nodup := by
  induction added generalizing names with
  | nil => exact h
  | cons name added ih => exact ih (nodup_addName h name)

theorem mem_foldl_addName {names added : List Name} {other : Name} :
    other ∈ added.foldl addName names ↔ other ∈ names ∨ other ∈ added := by
  induction added generalizing names with
  | nil => simp
  | cons name added ih => rw [List.foldl_cons, ih, mem_addName, List.mem_cons, or_assoc]

/-- The hash table of names: valid ones without duplicates, within the limit, and with the names it
started from. -/
structure NameTable (start names : List Name) : Prop where
  distinct : names.Nodup
  bounded : names.length ≤ awgRuntimeMaxNames
  valid : ∀ name ∈ names, nameIsValid name = true
  covers : start ⊆ names

variable {start names : List Name} {name : Name}

theorem NameTable.add (h : NameTable start names) (hname : nameIsValid name = true)
    (hroom : names.contains name = true ∨ names.length < awgRuntimeMaxNames) :
    NameTable start (addName names name) := by
  refine ⟨nodup_addName h.distinct name, ?_, fun other hother => ?_, fun other hother => ?_⟩
  · unfold addName
    split
    · exact h.bounded
    · rename_i habsent
      rw [List.length_append, List.length_singleton]
      exact hroom.resolve_left habsent
  · rcases mem_addName.mp hother with hold | rfl
    · exact h.valid other hold
    · exact hname
  · exact mem_addName.mpr (.inl (h.covers hother))

/-- The table of the previous names. -/
theorem nameTable_previous {previous : List Name} (hdistinct : previous.Nodup)
    (hbounded : previous.length ≤ awgRuntimeMaxNames)
    (hvalid : ∀ name ∈ previous, nameIsValid name = true) :
    NameTable previous (previous.foldl addName []) := by
  have hadd (done rest : List Name) (h : (done ++ rest).Nodup) :
      rest.foldl addName done = done ++ rest := by
    induction rest generalizing done with
    | nil => simp
    | cons name rest ih =>
      have hnew : name ∉ done := fun hmem =>
        (List.nodup_append.mp h).2.2 name hmem name List.mem_cons_self rfl
      have hstep : addName done name = done ++ [name] := if_neg (by simpa using hnew)
      rw [List.foldl_cons, hstep, ih _ (by simpa using h)]
      simp
  rw [hadd [] previous hdistinct]
  exact ⟨hdistinct, hbounded, hvalid, fun _ h => h⟩

theorem NameTable.requested (h : NameTable start names) (complete : Bool) {rest : List Name}
    (hvalid : ∀ name ∈ rest, nameIsValid name = true) :
    NameTable start (addRequestedNames names complete rest).1 := by
  induction rest generalizing names complete with
  | nil => exact h
  | cons name rest ih =>
    have hname := hvalid name List.mem_cons_self
    have hrest := fun other hother => hvalid other (List.mem_cons_of_mem name hother)
    unfold addRequestedNames
    split
    · rename_i hroom
      exact ih (h.add hname hroom) complete hrest
    · exact ih h false hrest

theorem NameTable.entries (h : NameTable start names) (remaining : ℕ) :
    (addEntries names remaining).Returns fun added => NameTable start added.1 := by
  induction remaining generalizing names with
  | zero => exact fun _ => h
  | succ remaining ih =>
    intro cancelled
    cases cancelled with
    | true => exact h
    | false =>
      intro entry
      cases entry with
      | last => exact h
      | failed => exact h
      | entry name =>
        show (if nameIsValid name = false then _ else _ : ScanM _).Returns _
        split
        · exact ih h
        rename_i hname
        show (if _ then _ else _ : ScanM _).Returns _
        split
        · exact h
        · rename_i hroom
          apply ih
          apply h.add (Bool.not_eq_false _ ▸ hname)
          rcases Nat.lt_or_ge names.length awgRuntimeMaxNames with hlt | hge
          · exact .inr hlt
          · exact .inl (Bool.not_eq_false _ ▸ fun hout => hroom ⟨hge, hout⟩)

theorem NameTable.directory (h : NameTable start names) :
    (addRuntimeNames names).Returns fun added => NameTable start added.1 := by
  intro opened
  cases opened with
  | false => exact h
  | true =>
    refine (h.entries awgRuntimeMaxDirectoryEntries).bind ?_
    rintro ⟨names', complete⟩ h' closed
    exact h'

/-- The table that a scan goes through. -/
theorem scanTable_returns {scanRequest : RuntimeScanRequest}
    (hdistinct : scanRequest.previousNames.Nodup)
    (hbounded : scanRequest.previousNames.length ≤ awgRuntimeMaxNames)
    (hvalid : ∀ name ∈ scanRequest.previousNames ++ scanRequest.names, nameIsValid name = true)
    (directory : RuntimeDirectoryState) : (scanTable scanRequest directory).Returns fun table =>
      NameTable scanRequest.previousNames table.1 := by
  have hprevious := nameTable_previous hdistinct hbounded fun name hname =>
    hvalid name (List.mem_append_left _ hname)
  have hnames := hprevious.requested true fun name hname =>
    hvalid name (List.mem_append_right _ hname)
  unfold scanTable
  cases directory with
  | missing => exact hnames
  | unknown => exact hnames
  | trusted =>
    refine hnames.directory.bind ?_
    rintro ⟨names, added⟩ h
    exact h

/-- A scan that is not cancelled has a record for every name, in the order it went through them. -/
theorem scanNames_returns (directory : RuntimeDirectoryState) (links : Option LinkSnapshot)
    (scan : RuntimeScan) (names : List Name) :
    (scanNames directory links scan names).Returns fun scanned => ∀ scan', scanned = some scan' →
      scan'.records.map (·.name) = scan.records.map (·.name) ++ names := by
  induction names generalizing scan with
  | nil =>
    rintro scan' ⟨⟩
    simp
  | cons name names ih =>
    intro cancelled
    cases cancelled with
    | true => exact fun _ h => nomatch h
    | false =>
      refine (Prog.returns_any (readRuntimeMarker directory name)).bind fun markerState _ => ?_
      refine (ih (scan.observe links name markerState)).mono fun scanned h scan' hscan' => ?_
      rw [h scan' hscan']
      simp [RuntimeScan.observe]

/-- Only a complete scan has a filter. -/
theorem scanRuntime_filter (scanRequest : RuntimeScanRequest) :
    (scanRuntime scanRequest).Returns fun scanned => ∀ result, scanned = some result →
      result.linkFilter.isSome = true → result.complete = true := by
  intro directory
  refine (Prog.returns_any (scanTable scanRequest directory)).bind fun table _ => ?_
  intro cancelled
  cases cancelled with
  | true => exact fun _ h => nomatch h
  | false =>
    intro links order
    refine (Prog.returns_any (scanNames directory links _ order)).bind fun scanned _ => ?_
    cases scanned with
    | none => exact fun _ h => nomatch h
    | some scan =>
      rintro result ⟨⟩ hfilter
      by_contra hincomplete
      have hnone : (if scan.complete = true then some scan.linkFilter else none) = none :=
        if_neg hincomplete
      rw [hnone] at hfilter
      cases hfilter

/-- What a scan returns answers its request. -/
theorem scanRuntime_answers {scanRequest : RuntimeScanRequest}
    (hdistinct : scanRequest.previousNames.Nodup)
    (hbounded : scanRequest.previousNames.length ≤ awgRuntimeMaxNames)
    (hvalid : ∀ name ∈ scanRequest.previousNames ++ scanRequest.names, nameIsValid name = true) :
    (scanRuntime scanRequest).ReturnsOn ScanCall.Allows fun scanned =>
      ∀ result, scanned = some result → result.Answers scanRequest := by
  intro directory _
  refine (scanTable_returns hdistinct hbounded hvalid directory).on.bind ?_
  rintro ⟨names, complete⟩ htable cancelled -
  cases cancelled with
  | true => exact fun _ h => nomatch h
  | false =>
    intro links _ order horder
    refine (scanNames_returns directory links _ order).on.bind fun scanned hscanned => ?_
    cases scanned with
    | none => exact fun _ h => nomatch h
    | some scan =>
      rintro result ⟨⟩
      have hnames : scan.records.map (·.name) = order := hscanned scan rfl
      have hlength : scan.records.length = names.length := by
        rw [← horder.length_eq, ← hnames, List.length_map]
      refine ⟨?_, hlength ▸ htable.bounded, ?_, ?_, rfl, rfl⟩
      · exact hnames ▸ horder.nodup_iff.mpr htable.distinct
      · intro record hrecord
        have hmem : record.name ∈ order := hnames ▸ List.mem_map_of_mem hrecord
        exact htable.valid record.name (horder.mem_iff.mp hmem)
      · intro name hname
        rw [hnames]
        exact horder.mem_iff.mpr (htable.covers hname)

end NmSidebar
