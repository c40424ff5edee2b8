import NmSidebar.Helper.Session

/-!
# Storage

The names of the helper's files, and the listing of the runtime directory
(`amneziawg_helper_storage.c`).
-/

namespace NmSidebar

open Text Effects

/-! ## File names -/

/-- `NETWORK_SIDEBAR_AMNEZIAWG_RUNTIME_CONFIG_DIR`. -/
def runtimeConfigDir : Bytes := ascii "/run/nm-sidebar/amneziawg/.configs"

/-- `NETWORK_SIDEBAR_AMNEZIAWG_STAGING_DIR`. -/
def stagingDir : Bytes := ascii "/etc/amnezia/amneziawg/.staging"

/-- `PATH_MAX`. -/
def pathMax : ℕ := 4096

/-- The name of a session's configuration. -/
def configNameOf (name : Name) : Name := name ++ ascii ".conf"

/-- The name of a session's DNS payload. -/
def dnsNameOf (name : Name) : Name := name ++ ascii ".dns"

/-- The path of a session's runtime configuration. -/
def runtimeConfigPathOf (name : Name) : Bytes := runtimeConfigDir ++ ascii "/" ++ configNameOf name

/-- `snprintf` into a buffer of `size` bytes; nothing where the text does not fit. -/
def formatted (size : ℕ) (text : Bytes) : Option Bytes :=
  if text.length > 0 ∧ text.length < size then some text else none

/-- `awg_helper_storage_make_config_filename`. -/
def storageMakeConfigFilename (name : Name) : Option Name :=
  formatted (maxInterfaceLength + 6) (configNameOf name)

/-- `awg_helper_storage_make_runtime_config_path`. -/
def storageMakeRuntimeConfigPath (name : Name) : Option Bytes :=
  formatted pathMax (runtimeConfigPathOf name)

/-- `awg_helper_storage_make_dns_filename`. -/
def storageMakeDnsFilename (name : Name) : Option Name :=
  formatted (maxInterfaceLength + 5) (dnsNameOf name)

theorem formatted_eq_some {size : ℕ} {text result : Bytes} (h : formatted size text = some result) :
    result = text := by
  unfold formatted at h
  split at h
  · exact (Option.some.inj h).symm
  · cases h

theorem configNameOf_inj {name name' : Name} (h : configNameOf name = configNameOf name') :
    name = name' := List.append_cancel_right h

theorem dnsNameOf_inj {name name' : Name} (h : dnsNameOf name = dnsNameOf name') :
    name = name' := List.append_cancel_right h

theorem runtimeConfigPathOf_inj {name name' : Name}
    (h : runtimeConfigPathOf name = runtimeConfigPathOf name') : name = name' :=
  configNameOf_inj (List.append_cancel_left h)

/-- A configuration and a DNS payload never have the same name: their last bytes differ. -/
theorem configNameOf_ne_dnsNameOf (name name' : Name) : configNameOf name ≠ dnsNameOf name' := by
  intro h
  have hlast := congrArg List.getLast? h
  have hconf : ascii ".conf" ≠ [] := by decide
  have hdns : ascii ".dns" ≠ [] := by decide
  rw [configNameOf, dnsNameOf, List.getLast?_append_of_ne_nil _ hconf,
    List.getLast?_append_of_ne_nil _ hdns] at hlast
  exact absurd hlast (by decide)

/-- The names of a valid interface fit their buffers. -/
theorem storageMakeDnsFilename_of_valid {name : Name} (h : nameIsValid name = true) :
    storageMakeDnsFilename name = some (dnsNameOf name) := by
  have hlen := length_le_of_nameIsValid h
  have hdns : (ascii ".dns").length = 4 := by decide
  refine if_pos ?_
  simp only [dnsNameOf, List.length_append, maxInterfaceLength]
  omega

/-! ## The runtime directory -/

/-- `AWG_HELPER_MAX_RUNTIME_SESSIONS`. -/
def maxRuntimeSessions : ℕ := 256

/-- `AWG_HELPER_MAX_RUNTIME_DIRECTORY_ENTRIES`. -/
def maxRuntimeDirectoryEntries : ℕ := 1024

/-- `runtime_entry_is_internal`. -/
def runtimeEntryIsInternal (name : Name) : Bool :=
  name == ascii "." || name == ascii ".." || name == ascii ".configs" ||
    name == ascii ".helper.lock" || isTempName name

/-- The sessions found in the runtime directory: names of interfaces, none twice. -/
structure FoundNames where
  names : List Name
  valid : ∀ name ∈ names, nameIsValid name = true
  nodup : names.Nodup

/-- Nothing found yet. -/
def FoundNames.empty : FoundNames := ⟨[], by simp, List.nodup_nil⟩

/-- One more session. -/
def FoundNames.add (found : FoundNames) (name : Name) (hvalid : nameIsValid name = true)
    (hnew : name ∉ found.names) : FoundNames where
  names := found.names.concat name
  valid := by
    intro other hmem
    rw [List.concat_eq_append, List.mem_append, List.mem_singleton] at hmem
    rcases hmem with hmem | rfl
    · exact found.valid other hmem
    · exact hvalid
  nodup := found.nodup.concat hnew

/-- The sessions of the runtime directory, sorted. -/
structure RuntimeNames extends FoundNames where
  sorted : names.Pairwise fun a b => nameLe a b = true

/-- `g_ptr_array_sort` with `runtime_name_compare`. -/
def FoundNames.sort (found : FoundNames) : RuntimeNames where
  names := found.names.mergeSort nameLe
  valid := fun name hmem => found.valid name (List.mem_mergeSort.mp hmem)
  nodup := (List.mergeSort_perm found.names nameLe).nodup_iff.mpr found.nodup
  sorted := @List.pairwise_mergeSort _ nameLe (fun _ _ _ => nameLe_trans) nameLe_total found.names

/-- The loop of `awg_helper_storage_list_runtime_names`; `remaining` entries may still come. -/
def listRuntimeLoop (deadline : ℤ) : ℕ → FoundNames → HelperM (Except HelperExit FoundNames)
  | remaining, found => do
    let stop ← phaseStopStatus deadline
    if stop ≠ .success then return .error stop
    else
      match ← ask .iteratorNext with
      | .done => return .ok found
      | .failed => return .error .runtimeFailed
      | .entry name =>
        match remaining with
        | 0 => return .error .runtimeFailed
        | remaining + 1 =>
          if runtimeEntryIsInternal name then listRuntimeLoop deadline remaining found
          else if hvalid : nameIsValid name = true ∧ found.names.length ≠ maxRuntimeSessions then
            if hknown : name ∈ found.names then return .error .runtimeFailed
            else listRuntimeLoop deadline remaining (found.add name hvalid.1 hknown)
          else return .error .runtimeFailed

/-- `awg_helper_storage_list_runtime_names`. -/
def storageListRuntimeNames (deadline : ℤ) : HelperM (Except HelperExit RuntimeNames) := do
  let stop ← phaseStopStatus deadline
  if stop ≠ .success then return .error stop
  else if ← ask (.iteratorNew .runtime) then
    let listed ← listRuntimeLoop deadline maxRuntimeDirectoryEntries .empty
    if ← ask .iteratorFree then
      match listed with
      | .error failure => return .error failure
      | .ok found =>
        let stop ← phaseStopStatus deadline
        if stop ≠ .success then return .error stop else return .ok found.sort
    else return .error .runtimeFailed
  else return .error .runtimeFailed

end NmSidebar
