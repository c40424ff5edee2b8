import NmSidebar.Helper.Calm
import NmSidebar.Helper.Disk

/-!
# A calm disk

An environment of the system calls in which every call succeeds that can: reads and writes are
whole, descriptors are free and nobody else changes anything. Directories are not scanned.
-/

namespace NmSidebar

open Text Effects

/-- What is replied to an operation that is no storage operation. Where one is made all the same,
it fails and has changed nothing. -/
def quietReply : (o : HelperCall) → World → o.Reply
  | .compareExchangeCommitted, _ | .atomicWrite .., _ | .removeAndSync .., _ => false
  | .unlinkStaging _, _ | .writeRuntimeMarker .., _ => false
  | .subprocessRun .strip .., _ => acceptedStrip
  | o, w => ((noLink wideScope).answer o w).1

theorem behaves_quietReply (o : HelperCall) (w : World) : behaves o w (quietReply o w) w := by
  cases o with
  | compareExchangeCommitted => exact .inr ⟨rfl, rfl⟩
  | atomicWrite area target contents mode => exact .abandoned
  | removeAndSync area name => exact .kept
  | unlinkStaging name => exact .inr ⟨rfl, rfl⟩
  | writeRuntimeMarker name marker =>
    simp only [behaves, HelperCall.Outcome]
    split
    · exact ⟨rfl, trivial⟩
    · exact .abandoned
  | subprocessRun command configPath deadline => rfl
  | _ => exact (noLink wideScope).allowed _ w

namespace Disk

/-- A file as the calm disk creates it. -/
def newFile : DiskFile := ⟨0, 0o100600, 0, 0, 1, 0, 0, [], false⟩

theorem isNew_newFile : newFile.IsNew := ⟨by decide, by decide, rfl, rfl, rfl⟩

/-- The only descriptor that is ever open. -/
def calmFd : ℕ := 3

/-- A change of an open file. -/
def change (d : Disk) (fd : ℕ) (f : DiskFile → DiskFile) : Option Disk :=
  (d.descriptor fd).map fun handle => d.setFile handle.ino (f (d.file handle.ino))

/-- The answers of a calm disk. -/
def answer : (o : DiskCall) → Disk → o.Reply × Disk
  | .fstatat area name, d =>
    match d.entry area name with
    | some ino => (.ok (d.stat ino), d)
    | none => (.error .noEntry, d)
  | .openat area name, d =>
    match d.entry area name, d.descriptor calmFd with
    | some ino, none => (some calmFd, d.setDescriptor calmFd (some ⟨ino, 0⟩))
    | _, _ => (none, d)
  | .createat area name, d =>
    match d.entry area name, d.descriptor calmFd with
    | none, none =>
      (.created calmFd, (d.create area name newFile).setDescriptor calmFd (some ⟨d.next, 0⟩))
    | _, _ => (.taken, d)
  | .fstat fd, d => ((d.descriptor fd).map fun handle => d.stat handle.ino, d)
  | .read fd size, d =>
    match d.descriptor fd with
    | none => (.failed, d)
    | some handle =>
      match ((d.file handle.ino).data.drop handle.offset).take size with
      | [] => (.ended, d)
      | byte :: bytes => (.data (byte :: bytes),
          d.setDescriptor fd (some ⟨handle.ino, handle.offset + (byte :: bytes).length⟩))
  | .write fd data, d =>
    match d.descriptor fd with
    | none => (.failed, d)
    | some handle => (.wrote data.length,
        (d.setFile handle.ino { d.file handle.ino with
          data := overwrite (d.file handle.ino).data handle.offset data
          synced := false }).setDescriptor fd (some ⟨handle.ino, handle.offset + data.length⟩))
  | .fchown fd uid gid, d =>
    let changed := d.change fd fun file => { file with uid, gid }
    (changed.isSome, changed.getD d)
  | .fchmod fd mode, d =>
    let changed := d.change fd fun file =>
      { file with mode := file.mode &&& 0o170000 ||| mode }
    (changed.isSome, changed.getD d)
  | .fsync fd, d =>
    let changed := d.change fd fun file => { file with synced := true }
    (changed.isSome, changed.getD d)
  | .fsyncDirectory area, d => (true, d.syncDirectory area)
  | .close fd, d => (true, d.setDescriptor fd none)
  | .unlinkat area name, d =>
    if (d.entry area name).isSome then (.ok (), d.setEntry area name none)
    else (.error .noEntry, d)
  | .renameat area oldName newName, d =>
    if (d.entry area oldName).isSome then (true, d.renamed area oldName newName) else (false, d)
  | .renameNoreplace tempName configName, d =>
    if (d.entry .staging tempName).isSome ∧ d.entry .config configName = none then
      (.renamed, (d.setEntry .config configName (d.entry .staging tempName)).setEntry .staging
        tempName none)
    else (.failed, d)
  | .renameExchange tempName configName, d =>
    if (d.entry .staging tempName).isSome ∧ (d.entry .config configName).isSome then
      (true, (d.setEntry .config configName (d.entry .staging tempName)).setEntry .staging tempName
        (d.entry .config configName))
    else (false, d)
  | .getrandom size, d =>
    (match List.replicate size 0 with
      | [] => .failed
      | byte :: bytes => .data (byte :: bytes), d)
  | .fdopendir _, d | .openScan _, d | .closedir, d | .terminationRequested, d => (false, d)
  | .readdir, d => (.failed, d)
  | .closeScan, d => ((), d)
  | .other o, d => (quietReply o d.world, d)

theorem relinks_self (d : Disk) : d.Relinks d := ⟨rfl, fun _ => rfl⟩

theorem changes_of_change {d : Disk} {fd : ℕ} {f : DiskFile → DiskFile}
    (hctime : ∀ file, (f file).ctime = file.ctime) :
    if (d.change fd f).isSome then d.Changes fd f ((d.change fd f).getD d)
    else (d.change fd f).getD d = d := by
  unfold change
  cases hfd : d.descriptor fd with
  | none => simp
  | some handle =>
    refine ⟨handle, (d.file handle.ino).ctime, hfd, ?_⟩
    rw [← hctime (d.file handle.ino)]
    rfl

/-- A calm disk answers as the behaviour allows. -/
theorem does_answer (o : DiskCall) (d : Disk) : d.Does o (answer o d).1 (answer o d).2 := by
  cases o with
  | fstatat area name =>
    simp only [answer]
    cases hentry : d.entry area name with
    | none => exact ⟨hentry, rfl⟩
    | some ino => exact ⟨⟨ino, hentry, rfl⟩, rfl⟩
  | openat area name =>
    simp only [answer]
    split
    · rename_i ino hentry hfree
      exact ⟨ino, hentry, hfree, rfl⟩
    · rfl
  | createat area name =>
    simp only [answer]
    split
    · rename_i hentry hfree
      exact ⟨hentry, hfree, newFile, isNew_newFile, rfl⟩
    · rfl
  | fstat fd =>
    simp only [answer]
    cases hfd : d.descriptor fd with
    | none => rfl
    | some handle => exact ⟨⟨handle, hfd, rfl⟩, rfl⟩
  | read fd size =>
    simp only [answer]
    split
    · rfl
    · rename_i handle hfd
      split
      · -- nothing is read at the end, or where nothing is asked for
        rename_i hnone
        exact ⟨⟨handle, hfd, List.take_eq_nil_iff.mp hnone⟩, rfl⟩
      · rename_i byte bytes hbytes
        refine ⟨handle, hfd, by simp, ?_, ?_, rfl⟩
        · rw [← hbytes]
          exact List.length_take_le _ _
        · rw [← hbytes]
          exact List.take_prefix _ _
  | write fd data =>
    simp only [answer]
    split
    · exact .inl rfl
    · rename_i handle hfd
      refine ⟨le_rfl, ?_⟩
      rw [List.take_length]
      exact ⟨handle, _, _, hfd, rfl⟩
  | fchown fd uid gid => exact changes_of_change fun _ => rfl
  | fchmod fd mode => exact changes_of_change fun _ => rfl
  | fsync fd => exact changes_of_change fun _ => rfl
  | fsyncDirectory area => rfl
  | close fd => rfl
  | unlinkat area name =>
    simp only [answer]
    split
    · rename_i hentry
      exact ⟨hentry, relinks_self _⟩
    · rename_i hentry
      exact ⟨by simpa using hentry, rfl⟩
  | renameat area oldName newName =>
    simp only [answer]
    split
    · rename_i hentry
      exact ⟨hentry, relinks_self _⟩
    · rfl
  | renameNoreplace tempName configName =>
    simp only [answer]
    split
    · rename_i hentries
      exact ⟨hentries.1, hentries.2, relinks_self _⟩
    · rfl
  | renameExchange tempName configName =>
    simp only [answer]
    split
    · rename_i hentries
      exact ⟨hentries.1, hentries.2, relinks_self _⟩
    · rfl
  | getrandom size =>
    cases size with
    | zero => rfl
    | succ size => exact ⟨by simp, by simp, rfl⟩
  | other o => exact ⟨behaves_quietReply o d.world, rfl⟩
  | _ => rfl

end Disk

/-- The calm disk. -/
def calmDisk : Environment diskBehaves := ⟨Disk.answer, Disk.does_answer⟩

end NmSidebar
