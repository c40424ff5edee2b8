import NmSidebar.Helper.Switch

/-!
# The helper's commands

`amneziawg_helper_remove.c` and the `main` of `amneziawg_helper.c`: one run of the helper carries
out one command.
-/

namespace NmSidebar

open Text Effects

/-- `awg_helper_remove`. -/
def helperRemove (name : Name) (deadlines : Deadlines) : HelperM HelperExit := do
  let stop ← phaseStopStatus deadlines.forwardAt
  if stop ≠ .success then return stop
  else if nameIsValid name = false then return .invalidName
  else
    match storageMakeConfigFilename name, storageMakeRuntimeConfigPath name with
    | none, _ | _, none => return .invalidName
    | some configName, some snapshotPath =>
      let configState ← ask (.secureFileState .config configName 0o600)
      if configState = .invalid then return .filesystemFailed
      else
        let result ← tunnelDown false name configName snapshotPath deadlines
        if result ≠ .success then return result
        else
          let stop ← phaseStopStatus deadlines.forwardAt
          if stop ≠ .success then return stop
          else profilesDelete name configName deadlines.forwardAt

/-- `parse_absolute_deadline`: decimal digits of a value up to `G_MAXINT64`. -/
def parseAbsoluteDeadline (text : Bytes) : Option ℤ :=
  if text = [] ∨ text.all isDigit = false then none
  else
    let value : ℤ := readFrom 0 text
    if value > maxInt64 then none else some value

/-- The operations named by the first argument. -/
inductive HelperOperation where
  | import
  | replace
  | up
  | down
  | delete
  | listProfiles
  deriving DecidableEq

/-- The operation a first argument names. -/
def helperOperationOf (command : Bytes) : Option HelperOperation :=
  if command = ascii "import" then some .import
  else if command = ascii "replace" then some .replace
  else if command = ascii "up" then some .up
  else if command = ascii "down" then some .down
  else if command = ascii "delete" then some .delete
  else if command = ascii "list-profiles" then some .listProfiles
  else none

/-- The storage of `main`, opened for an operation that needs the saved profiles. -/
def openProfiles (deadlines : Deadlines) (next : HelperM (Option HelperExit)) :
    HelperM (Option HelperExit) := do
  if ← ask .storageOpenProfiles then next
  else
    let result ← phaseFailureOr deadlines.forwardAt .filesystemFailed
    return some result

/-- The storage of `main`, opened for any operation. -/
def openRuntime (deadlines : Deadlines) (next : HelperM (Option HelperExit)) :
    HelperM (Option HelperExit) := do
  if ← ask (.storageOpenRuntime deadlines.forwardAt) then next
  else
    let result ← phaseFailureOr deadlines.forwardAt .filesystemFailed
    return some result

/-- The input of `main`, read before the storage is opened. -/
def withInput (deadlines : Deadlines) (next : Bytes → HelperM (Option HelperExit)) :
    HelperM (Option HelperExit) := do
  match ← profilesReadInput deadlines.forwardAt with
  | .error failure => return some failure
  | .ok input => openRuntime deadlines (openProfiles deadlines (next input))

/-- One operation of `main` with its storage; `entries` bounds the directory that is listed. -/
def helperOperation (entries : ℕ) (operation : HelperOperation) (name : Name)
    (deadlines : Deadlines) : HelperM (Option HelperExit) :=
  let configName := configNameOf name
  match operation with
  | .import =>
    withInput deadlines fun input =>
      some <$> profilesImport name configName input deadlines.forwardAt
  | .replace =>
    withInput deadlines fun input =>
      some <$> profilesReplace name configName input deadlines.forwardAt
  | .down =>
    openRuntime deadlines
      (some <$> tunnelDown false name configName (runtimeConfigPathOf name) deadlines)
  | .listProfiles =>
    openRuntime deadlines (openProfiles deadlines (profilesList entries deadlines.forwardAt))
  | .up => openRuntime deadlines (openProfiles deadlines (some <$> switchUp name deadlines))
  | .delete =>
    openRuntime deadlines (openProfiles deadlines (some <$> helperRemove name deadlines))

/-- The end of `main`: a success that was not committed is given up where the phase has to
stop. -/
def helperExit (deadlines : Deadlines) (result : HelperExit) : HelperM HelperExit := do
  if ← ask .isCommitted then return result
  else if result = .success ∨ result = .inventoryPartial then
    let stop ← phaseStopStatus deadlines.forwardAt
    return if stop ≠ .success then stop else result
  else return result

/-- The part of `main` that prepares the process. -/
def helperProcessStart (deadlines : Deadlines) : HelperM HelperExit := do
  if ← ask .effectiveUserIsRoot then
    if ← ask (.processInit deadlines.cleanupAt) then
      if ← ask .ignoreBrokenPipes then
        if ← ask .installHandlers then
          if ← ask .setChildSubreaper then
            if ← ask .sanitizeGioEnvironment then return .success
            else return .childSetupFailed
          else return .childSetupFailed
        else return .childSetupFailed
      else return .childSetupFailed
    else return .childSetupFailed
  else return .notRoot

/-- What `main` makes of its arguments: the operation, the name and the deadlines. -/
def helperArguments (argv : List Bytes) :
    Except HelperExit (HelperOperation × Name × Deadlines) :=
  match argv with
  | [_, command, name, forward, cleanup] =>
    match parseAbsoluteDeadline forward, parseAbsoluteDeadline cleanup with
    | some forwardAt, some cleanupAt =>
      if forwardAt > cleanupAt then .error .usage
      else
        match helperOperationOf command with
        | none => .error .usage
        | some operation =>
          if (operation = .listProfiles ∧ name ≠ []) ∨
              (operation ≠ .listProfiles ∧ nameIsValid name = false) then
            .error .invalidName
          else .ok (operation, name, ⟨forwardAt, cleanupAt, cleanupAt⟩)
    | _, _ => .error .usage
  | _ => .error .usage

/-- `main`. There is no exit status where a directory has more than `entries` entries. -/
def helperMain (entries : ℕ) (argv : List Bytes) : HelperM (Option HelperExit) := do
  match helperArguments argv with
  | .error failure => return some failure
  | .ok (operation, name, deadlines) =>
    let started ← helperProcessStart deadlines
    if started ≠ .success then return some started
    else
      match storageMakeConfigFilename name, storageMakeRuntimeConfigPath name with
      | none, _ | _, none => return some .invalidName
      | some _, some _ =>
        match ← helperOperation entries operation name deadlines with
        | none => return none
        | some result => some <$> helperExit deadlines result

end NmSidebar
