import NmSidebar.AmneziaWG.Names
import NmSidebar.Client.ModelEntries

/-!
# Loading a configuration

`import_loader.c`: a worker thread opens and reads the file that the user has picked. What it makes
of the file is delivered in the main loop, unless the load was cancelled or timed out before.
-/

namespace NmSidebar

open Text

/-- `NetworkSidebarAwgImportLoadResult`. -/
inductive ImportLoadResult where
  | success
  | inspectFailed
  | notLocal
  | notRegular
  | tooLarge
  | openFailed
  | readFailed
  | empty
  | timedOut
  | cancelled
  deriving DecidableEq

/-! ## The worker -/

/-- `AWG_IMPORT_READ_CHUNK_SIZE`. -/
def awgImportReadChunkSize : ℕ := 64 * 1024

/-- What the worker sees of its cancellable and of its deadline. -/
structure StopCheck where
  cancelled : Bool
  late : Bool

/-- `import_read_stop_result`. -/
def importReadStopResult (check : StopCheck) : ImportLoadResult :=
  if check.cancelled then .cancelled else if check.late then .timedOut else .success

/-- What `open` comes to. -/
inductive OpenOutcome where
  | opened
  | interrupted
  | symbolicLink
  | failed

/-- What `fstat` comes to. -/
inductive StatOutcome where
  | failed
  | found (regular : Bool) (size : ℤ)

/-- What `read` comes to. -/
inductive ReadOutcome where
  | failed
  | interrupted
  | bytes (bytes : Bytes)

/-- The first loop of `import_read_worker`. There is no result as long as it goes on. -/
def importOpen : List (StopCheck × OpenOutcome) → Option ImportLoadResult
  | [] => none
  | (check, outcome) :: rest =>
    if importReadStopResult check ≠ .success then some (importReadStopResult check)
    else
      match outcome with
      | .opened => some .success
      | .interrupted => importOpen rest
      | .symbolicLink => some .notRegular
      | .failed => some .openFailed

/-- What `import_read_worker` makes of the status of the file. -/
def importInspect : StatOutcome → ImportLoadResult
  | .failed => .inspectFailed
  | .found regular size =>
    if regular = false then .notRegular
    else if size < 0 ∨ (maxConfigSize : ℤ) < size then .tooLarge
    else .success

/-- The second loop of `import_read_worker`, with the bytes read so far. `read` returns at most what
it is asked for. -/
def importRead (data : Bytes) : List (StopCheck × ReadOutcome) → Option (ImportLoadResult × Bytes)
  | [] => none
  | (check, outcome) :: rest =>
    if importReadStopResult check ≠ .success then some (importReadStopResult check, data)
    else
      match outcome with
      | .interrupted => importRead data rest
      | .failed => some (.readFailed, data)
      | .bytes bytes =>
        let chunk := bytes.take (min (maxConfigSize + 1 - data.length) awgImportReadChunkSize)
        if chunk = [] then some (if data = [] then .empty else .success, data)
        else if maxConfigSize < (data ++ chunk).length then some (.tooLarge, data ++ chunk)
        else importRead (data ++ chunk) rest

/-- The answers of the system to a worker. -/
structure WorkerRun where
  opens : List (StopCheck × OpenOutcome)
  status : StatOutcome
  reads : List (StopCheck × ReadOutcome)
  last : StopCheck

/-- What the worker has read when it comes to its label `out`. -/
def WorkerRun.outcome (run : WorkerRun) : Option (ImportLoadResult × Bytes) :=
  (importOpen run.opens).bind fun opened =>
    if opened ≠ .success then some (opened, [])
    else if importInspect run.status ≠ .success then some (importInspect run.status, [])
    else importRead [] run.reads

/-- What `import_read_worker` makes of what it has read. -/
def WorkerRun.conclude (run : WorkerRun) (outcome : ImportLoadResult × Bytes) :
    ImportLoadResult × Option Bytes :=
  if outcome.1 ≠ .success then (outcome.1, none)
  else if importReadStopResult run.last ≠ .success then (importReadStopResult run.last, none)
  else (.success, some outcome.2)

/-- `import_read_worker`. There is no result as long as it works. -/
def importReadWorker (run : WorkerRun) : Option (ImportLoadResult × Option Bytes) :=
  run.outcome.map run.conclude

/-- All that the worker sees of its cancellable and its deadline. -/
def WorkerRun.checks (run : WorkerRun) : List StopCheck :=
  run.opens.map Prod.fst ++ run.reads.map Prod.fst ++ [run.last]

/-- The worker has seen that it is cancelled. -/
def WorkerRun.SeesCancelled (run : WorkerRun) : Prop := ∃ check ∈ run.checks, check.cancelled = true

/-! ## What the worker returns -/

/-- A load that stops for no failure was cancelled or is late. -/
theorem cancelled_of_stopResult {check : StopCheck} (h : importReadStopResult check = .cancelled) :
    check.cancelled = true := by
  unfold importReadStopResult at h
  by_contra hgoes
  rw [if_neg hgoes] at h
  split at h <;> simp at h

/-- A file is opened, or the worker gives up; it does so as cancelled only where it sees that. -/
theorem cancelled_of_importOpen {opens : List (StopCheck × OpenOutcome)}
    (h : importOpen opens = some .cancelled) : ∃ check ∈ opens.map Prod.fst,
      check.cancelled = true := by
  induction opens with
  | nil => simp [importOpen] at h
  | cons attempt rest ih =>
    obtain ⟨check, outcome⟩ := attempt
    unfold importOpen at h
    split at h
    · exact ⟨check, by simp, cancelled_of_stopResult (Option.some.inj h)⟩
    · cases outcome with
      | opened => simp at h
      | interrupted =>
        obtain ⟨found, hmem, hfound⟩ := ih h
        exact ⟨found, List.mem_cons_of_mem check hmem, hfound⟩
      | symbolicLink => simp at h
      | failed => simp at h

/-- What reading a file comes to. -/
structure ReadTo (checks : List StopCheck) (result : ImportLoadResult) (data : Bytes) : Prop where
  sized : result = .success → 0 < data.length ∧ data.length ≤ maxConfigSize
  seen : result = .cancelled → ∃ check ∈ checks, check.cancelled = true

theorem readTo_importRead {data : Bytes} (hdata : data.length ≤ maxConfigSize)
    {reads : List (StopCheck × ReadOutcome)} {result : ImportLoadResult} {data' : Bytes}
    (h : importRead data reads = some (result, data')) :
    ReadTo (reads.map Prod.fst) result data' := by
  induction reads generalizing data with
  | nil => simp [importRead] at h
  | cons attempt rest ih =>
    obtain ⟨check, outcome⟩ := attempt
    have hlater (hrest : ReadTo (rest.map Prod.fst) result data') :
        ReadTo (((check, outcome) :: rest).map Prod.fst) result data' := by
      refine ⟨hrest.sized, fun hresult => ?_⟩
      obtain ⟨found, hmem, hfound⟩ := hrest.seen hresult
      exact ⟨found, List.mem_cons_of_mem check hmem, hfound⟩
    unfold importRead at h
    split at h
    · rename_i hstops
      obtain ⟨rfl, rfl⟩ := Prod.mk.inj (Option.some.inj h)
      exact ⟨fun hgoes => absurd hgoes hstops,
        fun hseen => ⟨check, by simp, cancelled_of_stopResult hseen⟩⟩
    · cases outcome with
      | interrupted => exact hlater (ih hdata h)
      | failed =>
        obtain ⟨rfl, rfl⟩ := Prod.mk.inj (Option.some.inj h)
        constructor <;> simp
      | bytes bytes =>
        dsimp only at h
        split at h
        · obtain ⟨rfl, rfl⟩ := Prod.mk.inj (Option.some.inj h)
          split
          · constructor <;> simp
          · rename_i hnonempty
            exact ⟨fun _ => ⟨List.length_pos_iff.mpr hnonempty, hdata⟩, by simp⟩
        · split at h
          · obtain ⟨rfl, rfl⟩ := Prod.mk.inj (Option.some.inj h)
            constructor <;> simp
          · rename_i hfits
            exact hlater (ih (not_lt.mp hfits) h)

/-- The worker returns a configuration exactly where it has succeeded, and it is of a size that a
configuration may have. It returns that it was cancelled only where it has seen that. -/
theorem importReadWorker_result {run : WorkerRun} {result : ImportLoadResult}
    {config : Option Bytes} (h : importReadWorker run = some (result, config)) :
    (config.isSome = true ↔ result = .success) ∧
      (∀ bytes ∈ config, 0 < bytes.length ∧ bytes.length ≤ maxConfigSize) ∧
      (result = .cancelled → run.SeesCancelled) := by
  obtain ⟨outcome, houtcome, hconclude⟩ := Option.map_eq_some_iff.mp h
  have hread : ReadTo run.checks outcome.1 outcome.2 := by
    obtain ⟨opened, hopened, hrest⟩ := Option.bind_eq_some_iff.mp houtcome
    split at hrest
    · rename_i hfailed
      obtain rfl := Option.some.inj hrest
      refine ⟨fun hsuccess => absurd hsuccess hfailed, fun hseen => ?_⟩
      obtain rfl : opened = .cancelled := hseen
      obtain ⟨check, hmem, hcancelled⟩ := cancelled_of_importOpen hopened
      exact ⟨check, List.mem_append_left _ (List.mem_append_left _ hmem), hcancelled⟩
    · split at hrest
      · rename_i hfailed
        obtain rfl := Option.some.inj hrest
        refine ⟨fun hsuccess => absurd hsuccess hfailed, fun hseen => ?_⟩
        -- the status of the file does not tell that the load is cancelled
        unfold importInspect at hseen
        split at hseen
        · simp at hseen
        · split at hseen
          · simp at hseen
          · split at hseen <;> simp at hseen
      · obtain ⟨hsized, hseen⟩ := readTo_importRead (Nat.zero_le _) hrest
        refine ⟨hsized, fun hresult => ?_⟩
        obtain ⟨check, hmem, hcancelled⟩ := hseen hresult
        exact ⟨check, List.mem_append_left _ (List.mem_append_right _ hmem), hcancelled⟩
  unfold WorkerRun.conclude at hconclude
  split at hconclude
  · rename_i hfailed
    obtain ⟨rfl, rfl⟩ := Prod.mk.inj hconclude
    exact ⟨iff_of_false (by simp) hfailed, by simp, hread.seen⟩
  · rename_i hread'
    split at hconclude
    · rename_i hstops
      obtain ⟨rfl, rfl⟩ := Prod.mk.inj hconclude
      refine ⟨iff_of_false (by simp) hstops, by simp, fun hseen => ?_⟩
      exact ⟨run.last, by simp [WorkerRun.checks], cancelled_of_stopResult hseen⟩
    · obtain ⟨rfl, rfl⟩ := Prod.mk.inj hconclude
      refine ⟨iff_of_true rfl rfl, fun bytes hbytes => ?_, by simp⟩
      obtain rfl := Option.some.inj hbytes
      exact hread.sized (not_not.mp hread')

/-! ## The loader -/

/-- A call of the callback of a loader. `activity` and `activityId` are not in the source: they are
those of the controller when the call is made. -/
structure ImportDelivery where
  result : ImportLoadResult
  config : Option Bytes
  activity : AwgActivity
  activityId : ℕ

/-- `NetworkSidebarAwgImportLoader`, with the activity that its `ImportLoadData` is for.
`timeoutSource` tells whether the timer is there, and `reading` whether the worker's result has still
to be returned to the main loop. `deliveries` is not in the source: the calls of its callback. -/
structure ImportLoader where
  activityId : ℕ
  cancelled : Bool
  timeoutSource : Bool
  started : Bool
  completed : Bool
  reading : Bool
  deliveries : List ImportDelivery

namespace ImportLoader

/-- `network_sidebar_awg_import_loader_new`. -/
def new (activityId : ℕ) : ImportLoader := ⟨activityId, false, false, false, false, false, []⟩

/-- What `complete_load` does before and with its callback, for a loader that is not completed. -/
def complete (loader : ImportLoader) (delivery : ImportDelivery) : ImportLoader :=
  { loader with
    completed := true
    timeoutSource := false
    deliveries := loader.deliveries ++ [delivery] }

/-- The load is cancelled. -/
def cancel (loader : ImportLoader) : ImportLoader := { loader with cancelled := true }

/-- The timer has fired. -/
def fire (loader : ImportLoader) : ImportLoader := { loader with timeoutSource := false }

/-- The worker's result has come to the main loop. -/
def returned (loader : ImportLoader) : ImportLoader := { loader with reading := false }

/-- The load is started. -/
def start (loader : ImportLoader) : ImportLoader := { loader with started := true }

/-- The timer is armed and the worker started. -/
def startReading (loader : ImportLoader) : ImportLoader :=
  { loader with timeoutSource := true, reading := true }

/-- The status with which `import_read_cb` completes the load: `g_task_propagate_int` fails for a
task that was cancelled. -/
def readStatus (loader : ImportLoader) (result : ImportLoadResult) (late : Bool) :
    ImportLoadResult :=
  if late then .timedOut else if loader.cancelled then .cancelled else result

end ImportLoader

end NmSidebar
