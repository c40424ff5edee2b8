import Mathlib.Data.List.GetD
import NmSidebar.Helper.Calm
import NmSidebar.Program.Ledger

/-!
# What a listing of the runtime directory finds

A listing that succeeds has read the directory to its end and leaves out only entries that are
internal; and the names `create_temp_config_at` draws are among these.
-/

namespace NmSidebar

open Text Effects

/-! ## Temporary names -/

/-- What `getrandom` returns for a buffer of `count` bytes. -/
inductive RandomRead (count : ℕ) where
  | bytes (bytes : Bytes) (h : bytes.length ≤ count)
  | interrupted
  | failed

/-- What `openat` with `O_EXCL` comes to. -/
inductive ExclusiveOpen where
  | opened
  | taken
  | failed

/-- The system calls of `create_temp_config_at`. -/
inductive TempCall where
  | getrandom (count : ℕ)
  | openExclusive (name : Name)

/-- The reply to each. -/
@[reducible] def TempCall.Reply : TempCall → Type
  | getrandom count => RandomRead count
  | openExclusive _ => ExclusiveOpen

/-- The signature of these calls. -/
@[reducible] def tempSig : Signature := ⟨TempCall, TempCall.Reply⟩

/-- Programs over these calls. -/
abbrev TempM := Prog tempSig

/-- Makes such a call. -/
abbrev tempCall (o : TempCall) : TempM o.Reply := @Prog.request tempSig o

/-- The size of `random_bytes`. -/
def randomSize : ℕ := maxInterfaceLength - 1

/-- The loop that fills `random_bytes`. There is no outcome where more than `rounds` calls are
needed. -/
def fillRandom : ℕ → Bytes → TempM (Option (Option Bytes))
  | 0, _ => return none
  | rounds + 1, drawn => do
    if drawn.length < randomSize then
      match ← tempCall (.getrandom (randomSize - drawn.length)) with
      | .bytes more _ =>
        if more = [] then return some none else fillRandom rounds (drawn ++ more)
      | .interrupted => fillRandom rounds drawn
      | .failed => return some none
    else return some (some drawn)

/-- The byte of the alphabet that a random byte picks. -/
def alphabetByte (b : UInt8) : UInt8 := tempConfigAlphabet.getD (b &&& 63).toNat 0

/-- The name that is made of random bytes. -/
def tempNameOf (drawn : Bytes) : Name := 0x6e :: drawn.map alphabetByte ++ ascii ".conf"

/-- The attempts of `create_temp_config_at`: the name of the file that it has opened, if any. -/
def createTempAttempts (rounds : ℕ) : ℕ → TempM (Option (Option Name))
  | 0 => return some none
  | attempts + 1 => do
    match ← fillRandom rounds [] with
    | none => return none
    | some none => return some none
    | some (some drawn) =>
      match ← tempCall (.openExclusive (tempNameOf drawn)) with
      | .opened => return some (some (tempNameOf drawn))
      | .taken => createTempAttempts rounds attempts
      | .failed => return some none

/-- `create_temp_config_at` for a buffer of `nameSize` bytes. -/
def createTempConfigAt (nameSize rounds : ℕ) : TempM (Option (Option Name)) :=
  if nameSize < maxInterfaceLength + 6 then return some none else createTempAttempts rounds 128

theorem alphabetByte_mem (b : UInt8) : alphabetByte b ∈ tempConfigAlphabet := by
  have hlength : tempConfigAlphabet.length = 64 := by decide +kernel
  have hle : (b &&& 63).toNat ≤ 63 := by
    rw [UInt8.toNat_and]
    exact Nat.and_le_right
  have hlt : (b &&& 63).toNat < tempConfigAlphabet.length := by omega
  rw [alphabetByte, List.getD_eq_getElem _ _ hlt]
  exact List.getElem_mem hlt

/-- A name that is made of as many random bytes as it takes is recognised. -/
theorem isTempName_tempNameOf {drawn : Bytes} (h : drawn.length = randomSize) :
    isTempName (tempNameOf drawn) = true := by
  have hstart : (0x6e :: drawn.map alphabetByte).length = maxInterfaceLength := by
    rw [List.length_cons, List.length_map, h]
    rfl
  have htake : (tempNameOf drawn).take maxInterfaceLength = 0x6e :: drawn.map alphabetByte := by
    rw [tempNameOf, List.take_append_of_le_length (le_of_eq hstart.symm),
      List.take_of_length_le (le_of_eq hstart)]
  have hdrop : (tempNameOf drawn).drop maxInterfaceLength = ascii ".conf" := by
    rw [tempNameOf, ← hstart, List.drop_left]
  have hlength : (tempNameOf drawn).length = maxInterfaceLength + 5 := by
    rw [tempNameOf, List.length_append, hstart]
    rfl
  rw [isTempName, htake, hdrop, hlength]
  simp only [tempNameOf, List.cons_append, List.head?_cons, BEq.rfl, Bool.true_and, List.drop_one,
    List.tail_cons, List.all_map, List.all_eq_true, Function.comp_apply, List.contains_iff_mem]
  exact fun b _ => alphabetByte_mem b

/-- What fills the buffer fills it exactly. -/
theorem fillRandom_returns {rounds : ℕ} {drawn : Bytes} (h : drawn.length ≤ randomSize) :
    (fillRandom rounds drawn).Returns fun filled =>
      ∀ drawn', filled = some (some drawn') → drawn'.length = randomSize := by
  induction rounds generalizing drawn with
  | zero => exact fun _ hnone => absurd hnone.symm (Option.some_ne_none _)
  | succ rounds ih =>
    unfold fillRandom
    split
    · intro read
      cases read with
      | bytes more hmore =>
        show Prog.Returns _ (if _ then _ else _)
        split
        · exact fun _ hnone => absurd (Option.some.inj hnone).symm (Option.some_ne_none _)
        · refine ih ?_
          rw [List.length_append]
          omega
      | interrupted => exact ih h
      | failed => exact fun _ hnone => absurd (Option.some.inj hnone).symm (Option.some_ne_none _)
    · rintro drawn' ⟨⟩
      omega

/-- The call opens no file but one whose name is internal. -/
def TempCall.Internal (o : TempCall) : Prop :=
  ∀ name, o = .openExclusive name → runtimeEntryIsInternal name = true

theorem uses_fillRandom (rounds : ℕ) (drawn : Bytes) :
    (fillRandom rounds drawn).Uses TempCall.Internal := by
  induction rounds generalizing drawn with
  | zero => trivial
  | succ rounds ih =>
    unfold fillRandom
    split
    · refine ⟨fun name h => TempCall.noConfusion h, fun read => ?_⟩
      cases read with
      | bytes more hmore =>
        show Prog.Uses _ (if _ then _ else _)
        split
        · trivial
        · exact ih _
      | interrupted => exact ih drawn
      | failed => trivial
    · trivial

theorem uses_createTempAttempts (rounds attempts : ℕ) :
    (createTempAttempts rounds attempts).Uses TempCall.Internal := by
  induction attempts with
  | zero => trivial
  | succ attempts ih =>
    refine (uses_fillRandom rounds []).bindReturns (fillRandom_returns (Nat.zero_le _)) ?_
    intro filled hfilled
    match filled, hfilled with
    | none, _ => trivial
    | some none, _ => trivial
    | some (some drawn), hfilled =>
      refine ⟨?_, fun result => ?_⟩
      · rintro name ⟨⟩
        rw [runtimeEntryIsInternal, isTempName_tempNameOf (hfilled drawn rfl), Bool.or_true]
      · cases result with
        | opened => trivial
        | taken => exact ih
        | failed => trivial

/-- Every file that is opened has an internal name. -/
theorem uses_createTempConfigAt (nameSize rounds : ℕ) :
    (createTempConfigAt nameSize rounds).Uses TempCall.Internal := by
  unfold createTempConfigAt
  split
  · trivial
  · exact uses_createTempAttempts rounds 128

/-- A valid interface name is not internal. -/
theorem runtimeEntryIsInternal_of_nameIsValid {name : Name} (h : nameIsValid name = true) :
    runtimeEntryIsInternal name = false := by
  have hfirst : ∀ other : Name, nameIsValid other = false → (name == other) = false := by
    intro other hother
    rw [beq_eq_false_iff_ne]
    rintro rfl
    exact absurd (hother.symm.trans h) Bool.false_ne_true
  rw [runtimeEntryIsInternal, not_isTempName_of_nameIsValid h, hfirst (ascii ".") (by decide),
    hfirst (ascii "..") (by decide), hfirst (ascii ".configs") (by decide),
    hfirst (ascii ".helper.lock") (by decide)]
  rfl

/-! ## What was read -/

/-- What a listing has read of the directory. -/
structure DirectoryRead where
  entries : List Name
  exhausted : Bool
  closed : Bool

namespace DirectoryRead

/-- Nothing is read yet. -/
def start : DirectoryRead := ⟨[], false, false⟩

/-- What is read once an operation has replied. -/
def note (read : DirectoryRead) : (o : HelperCall) → o.Reply → DirectoryRead
  | .iteratorNext, .entry name => { read with entries := read.entries ++ [name] }
  | .iteratorNext, .done => { read with exhausted := true }
  | .iteratorFree, closed => { read with closed }
  | _, _ => read

/-- The entries that are not internal. -/
def sessions (read : DirectoryRead) : List Name :=
  read.entries.filter fun name => !runtimeEntryIsInternal name

end DirectoryRead

/-- Operations that read nothing of the directory. -/
def HelperCall.ReadsNothing (o : HelperCall) : Prop := ∀ read r, DirectoryRead.note read o r = read

theorem phaseStopStatus_note (deadline : ℤ) (read : DirectoryRead) :
    (phaseStopStatus deadline).Records DirectoryRead.note (fun _ read' => read' = read) read := by
  have huses : (phaseStopStatus deadline).Uses HelperCall.ReadsNothing := by
    refine ⟨fun _ _ => rfl, fun requested => ?_⟩
    cases requested with
    | true => trivial
    | false => exact ⟨fun _ _ => rfl, fun _ => trivial⟩
  exact huses.records fun o ho l r => ho l r

/-- What the loop has found so far: the sessions among the entries, within the limits. -/
structure Finds (remaining : ℕ) (found : FoundNames) (read : DirectoryRead) : Prop where
  names : found.names = read.sessions
  sessions : found.names.length ≤ maxRuntimeSessions
  entries : read.entries.length + remaining = maxRuntimeDirectoryEntries

/-- One more entry that is a session. -/
theorem Finds.add {remaining : ℕ} {found : FoundNames} {read : DirectoryRead} {name : Name}
    (h : Finds (remaining + 1) found read) (hinternal : runtimeEntryIsInternal name = false)
    (hvalid : nameIsValid name = true) (hroom : found.names.length ≠ maxRuntimeSessions)
    (hnew : name ∉ found.names) :
    Finds remaining (found.add name hvalid hnew)
      { read with entries := read.entries ++ [name] } where
  names := by
    have hsingle : [name].filter (fun name => !runtimeEntryIsInternal name) = [name] := by
      simp [hinternal]
    have hnames : (found.add name hvalid hnew).names = found.names ++ [name] :=
      List.concat_eq_append
    rw [hnames, DirectoryRead.sessions, List.filter_append, hsingle, h.names]
    rfl
  sessions := by
    have hsessions := h.sessions
    rw [FoundNames.add, List.length_concat]
    omega
  entries := by
    have hentries := h.entries
    rw [List.length_append, List.length_singleton]
    omega

/-- One more entry that is internal. -/
theorem Finds.skip {remaining : ℕ} {found : FoundNames} {read : DirectoryRead} {name : Name}
    (h : Finds (remaining + 1) found read) (hinternal : runtimeEntryIsInternal name = true) :
    Finds remaining found { read with entries := read.entries ++ [name] } where
  names := by
    have hnone : [name].filter (fun name => !runtimeEntryIsInternal name) = [] := by
      simp [hinternal]
    rw [DirectoryRead.sessions, List.filter_append, hnone, List.append_nil, h.names]
    rfl
  sessions := h.sessions
  entries := by
    have hentries := h.entries
    rw [List.length_append, List.length_singleton]
    omega

/-- What holds once the loop has ended. -/
def ListingEnded (listed : Except HelperExit FoundNames) (read : DirectoryRead) : Prop :=
  (∀ failure, listed = .error failure → failure ≠ .success) ∧
    ∀ found, listed = .ok found →
      read.exhausted = true ∧ ∃ remaining, Finds remaining found read

theorem ended_error {failure : HelperExit} {read : DirectoryRead} (h : failure ≠ .success) :
    ListingEnded (.error failure) read := by
  refine ⟨?_, fun found hok => (nomatch hok)⟩
  rintro _ ⟨⟩
  exact h

theorem ended_ok {found : FoundNames} {read : DirectoryRead} {remaining : ℕ}
    (hdone : read.exhausted = true) (h : Finds remaining found read) :
    ListingEnded (.ok found) read := by
  refine ⟨fun failure herror => ?_, ?_⟩
  · cases herror
  · rintro _ ⟨⟩
    exact ⟨hdone, remaining, h⟩

/-- The loop goes on with what it has found, or fails. -/
theorem listRuntimeLoop_ended (deadline : ℤ) {remaining : ℕ} {found : FoundNames}
    {read : DirectoryRead} (h : Finds remaining found read) :
    (listRuntimeLoop deadline remaining found).Records DirectoryRead.note ListingEnded read := by
  induction remaining generalizing found read with
  | zero =>
    unfold listRuntimeLoop
    refine (phaseStopStatus_note deadline read).bind ?_
    rintro stop _ rfl
    split
    · exact ended_error ‹_›
    intro next
    cases next with
    | done =>
      exact ended_ok rfl (show Finds 0 found _ from ⟨h.names, h.sessions, h.entries⟩)
    | failed => exact ended_error HelperExit.noConfusion
    | entry name => exact ended_error HelperExit.noConfusion
  | succ remaining ih =>
    unfold listRuntimeLoop
    refine (phaseStopStatus_note deadline read).bind ?_
    rintro stop _ rfl
    split
    · exact ended_error ‹_›
    intro next
    cases next with
    | done =>
      exact ended_ok rfl (show Finds (remaining + 1) found _ from ⟨h.names, h.sessions, h.entries⟩)
    | failed => exact ended_error HelperExit.noConfusion
    | entry name =>
      show Prog.Records _ (if _ then _ else _) _ _
      split
      · exact ih (h.skip ‹_›)
      rename_i hinternal
      split
      · rename_i hvalid
        split
        · exact ended_error HelperExit.noConfusion
        · rename_i hnew
          exact ih (h.add (Bool.eq_false_iff.mpr hinternal) hvalid.1 hvalid.2 hnew)
      · exact ended_error HelperExit.noConfusion

/-! ## The listing -/

/-- A list that is complete: the directory was read to its end and closed, and the list holds its
sessions, each once and in the order of `strcmp`, within the limits. -/
structure RuntimeNames.Complete (names : RuntimeNames) (read : DirectoryRead) : Prop where
  exhausted : read.exhausted = true
  closed : read.closed = true
  sessions : names.names.Perm read.sessions
  sorted : names.names.Pairwise fun a b => nameLe a b = true ∧ a ≠ b
  valid : ∀ name ∈ names.names, nameIsValid name = true
  few : names.names.length ≤ maxRuntimeSessions
  entries : read.entries.length ≤ maxRuntimeDirectoryEntries

theorem complete_sort {remaining : ℕ} {found : FoundNames} {read : DirectoryRead}
    (h : Finds remaining found read) (hexhausted : read.exhausted = true)
    (hclosed : read.closed = true) : found.sort.Complete read where
  exhausted := hexhausted
  closed := hclosed
  sessions := by
    rw [← h.names]
    exact List.mergeSort_perm found.names nameLe
  sorted := found.sort.sorted.and found.sort.nodup
  valid := found.sort.valid
  few := by
    rw [FoundNames.sort, List.length_mergeSort]
    exact h.sessions
  entries := by
    have hentries := h.entries
    omega

theorem finds_start : Finds maxRuntimeDirectoryEntries .empty .start :=
  ⟨rfl, Nat.zero_le _, Nat.zero_add _⟩

/-- The listing gives a complete list, or fails with a status that is not success. -/
theorem storageListRuntimeNames_complete (deadline : ℤ) :
    (storageListRuntimeNames deadline).Records DirectoryRead.note (fun listed read =>
      (∀ failure, listed = .error failure → failure ≠ .success) ∧
        ∀ names, listed = .ok names → names.Complete read) .start := by
  have hfail {failure : HelperExit} {read : DirectoryRead} (hne : failure ≠ .success) :
      (∀ failure', (Except.error failure : Except HelperExit RuntimeNames) = .error failure' →
        failure' ≠ .success) ∧
      ∀ names : RuntimeNames, Except.error failure = .ok names → names.Complete read := by
    refine ⟨?_, fun _ hok => (nomatch hok)⟩
    rintro _ ⟨⟩
    exact hne
  refine (phaseStopStatus_note deadline .start).bind ?_
  rintro stop _ rfl
  split
  · exact hfail ‹_›
  intro opened
  cases opened with
  | false => exact hfail HelperExit.noConfusion
  | true =>
    refine (listRuntimeLoop_ended deadline finds_start).bind fun listed read hended => ?_
    intro closed
    cases closed with
    | false => exact hfail HelperExit.noConfusion
    | true =>
      cases listed with
      | error failure => exact hfail (hended.1 failure rfl)
      | ok found =>
        obtain ⟨hexhausted, remaining, hfinds⟩ := hended.2 found rfl
        refine (phaseStopStatus_note deadline _).bind ?_
        rintro stop _ rfl
        split
        · exact hfail ‹_›
        · refine ⟨fun _ hfailure => (nomatch hfailure), ?_⟩
          rintro _ ⟨⟩
          exact complete_sort ⟨hfinds.names, hfinds.sessions, hfinds.entries⟩ hexhausted rfl

/-- A listing returns a complete list or a failure, on any entries and any replies; a temporary
name that was left behind never makes it fail, and a session is never taken for one. -/
theorem runtimeListing_complete :
    (∀ (W : Type) (B : Behaviour helperSig W) (deadline : ℤ) (w w' : W)
      (tr : List (Event helperSig W)) (listed : Except HelperExit RuntimeNames),
      Steps B (storageListRuntimeNames deadline) w tr (.pure listed) w' →
        (∀ failure, listed = .error failure → failure ≠ .success) ∧
          ∀ names, listed = .ok names →
            names.Complete (Prog.entries DirectoryRead.note .start tr)) ∧
      (∀ nameSize rounds, (createTempConfigAt nameSize rounds).Uses TempCall.Internal) ∧
        ∀ name, nameIsValid name = true → runtimeEntryIsInternal name = false :=
  ⟨fun _ _ deadline _ _ _ _ hs => (storageListRuntimeNames_complete deadline).returned hs,
    uses_createTempConfigAt, fun _ => runtimeEntryIsInternal_of_nameIsValid⟩

/-- A calm machine whose directory holds these entries, on any replies. -/
def directoryMachine : Environment (fun _ _ _ _ => True : Behaviour helperSig (World × List Name)) where
  answer
    | .iteratorNew _, w => (true, w)
    | .iteratorNext, (w, []) => (.done, w, [])
    | .iteratorNext, (w, name :: names) => (.entry name, w, names)
    | o, (w, names) => (((noLink wideScope).answer o w).1, w, names)
  allowed _ _ := trivial

/-- The directory of the sample: two sessions beside the directory itself and a name that was left
behind. -/
def sampleEntries : List Name :=
  [ascii ".", ascii "b", tempNameOf (List.replicate 14 7), ascii "a"]

/-- The listing of the sample. -/
def sampleListing :
    List (Event helperSig (World × List Name)) × HelperM (Except HelperExit RuntimeNames) ×
      World × List Name :=
  directoryMachine.run 60 (storageListRuntimeNames 1) (emptyWorld, sampleEntries)

theorem sampleListing_ok : ∃ names, sampleListing.2.1 = .pure (.ok names) := by
  have hok : (sampleListing.2.1.result.any fun listed => listed.isOk) = true := by decide +kernel
  match hlisted : sampleListing.2.1.result, hok with
  | some (.ok names), _ => exact ⟨names, Prog.eq_pure_of_result hlisted⟩

theorem sampleListing_entries :
    (Prog.entries DirectoryRead.note DirectoryRead.start sampleListing.1).entries =
      sampleEntries := by
  decide +kernel

theorem runtimeListing_complete_sample : ∃ (names : RuntimeNames) (read : DirectoryRead),
    read.entries = sampleEntries ∧ names.Complete read := by
  have hs : Steps _ _ _ sampleListing.1 sampleListing.2.1 _ :=
    directoryMachine.steps 60 (storageListRuntimeNames 1) (emptyWorld, sampleEntries)
  obtain ⟨names, hresult⟩ := sampleListing_ok
  rw [hresult] at hs
  exact ⟨names, _, sampleListing_entries,
    (runtimeListing_complete.1 _ _ 1 _ _ _ _ hs).2 names rfl⟩

end NmSidebar
