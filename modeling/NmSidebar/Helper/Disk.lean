import NmSidebar.Helper.ProcessGroups
import NmSidebar.Helper.World

/-!
# The disk

Below the operations of `Helper/Operations.lean` are the system calls that
`amneziawg_helper_storage.c` makes. A disk has files, which are reached by their inode, and the
entries of the helper's four directories. It also has what a loss of power may bring back: a file
that was not synced may have any contents, and a directory that was not synced may still have any
entry that it has had since it was.
-/

namespace NmSidebar

open Text Effects

/-! ## Files -/

/-- A file: what `struct stat` says of it, its contents, and whether all of it is synced. -/
structure DiskFile where
  dev : ℕ
  mode : ℕ
  uid : ℕ
  gid : ℕ
  nlink : ℕ
  mtime : ℕ
  ctime : ℕ
  data : Bytes
  synced : Bool
  deriving DecidableEq

/-- The file behind a descriptor, and the offset of the next read or write. -/
structure DiskDescriptor where
  ino : ℕ
  offset : ℕ
  deriving DecidableEq

/-- The machine as the system calls find it. `earlier` has the entries a name has had since its
directory was synced; inodes from `next` on are free. -/
structure Disk where
  file : ℕ → DiskFile
  next : ℕ
  entry : StorageArea → Name → Option ℕ
  earlier : StorageArea → Name → List (Option ℕ)
  descriptor : ℕ → Option DiskDescriptor
  scan : List Name
  committed : Bool

namespace Disk

/-- What `stat` says of an inode. -/
def stat (d : Disk) (ino : ℕ) : StorageIdentity :=
  let file := d.file ino
  ⟨file.dev, ino, file.mode, file.uid, file.gid, file.nlink, file.data.length, file.mtime,
    file.ctime⟩

/-- What an entry stands for. -/
def contentsOf (d : Disk) (entry : Option ℕ) : Option Bytes :=
  entry.map fun ino => (d.file ino).data

/-- The world that the disk is, to whoever only reads the names. -/
def world (d : Disk) : World :=
  ⟨fun area name => d.contentsOf (d.entry area name), d.scan, d.committed⟩

/-- The disk with one file replaced. -/
def setFile (d : Disk) (ino : ℕ) (file : DiskFile) : Disk :=
  { d with file := Function.update d.file ino file }

/-- The disk with one entry replaced. Until the directory is synced, the entry may come back. -/
def setEntry (d : Disk) (area : StorageArea) (name : Name) (entry : Option ℕ) : Disk :=
  { d with
    entry := fun a n => if a = area ∧ n = name then entry else d.entry a n
    earlier := fun a n =>
      if a = area ∧ n = name then d.entry a n :: d.earlier a n else d.earlier a n }

/-- The disk with one descriptor opened, moved or closed. -/
def setDescriptor (d : Disk) (fd : ℕ) (descriptor : Option DiskDescriptor) : Disk :=
  { d with descriptor := Function.update d.descriptor fd descriptor }

/-- The disk after a directory was synced. -/
def syncDirectory (d : Disk) (area : StorageArea) : Disk :=
  { d with earlier := fun a n => if a = area then [] else d.earlier a n }

/-- The disk with a new file under a name that was free. -/
def create (d : Disk) (area : StorageArea) (name : Name) (file : DiskFile) : Disk :=
  { (d.setFile d.next file).setEntry area name (some d.next) with next := d.next + 1 }

/-- The disk with other link counts and times of a change, as a change of a directory leaves
them. -/
structure Relinks (d d' : Disk) : Prop where
  disk : d' = { d with file := d'.file }
  file : ∀ ino, d'.file ino =
    { d.file ino with nlink := (d'.file ino).nlink, ctime := (d'.file ino).ctime }

end Disk

/-- `S_ISREG`. -/
def isRegular (mode : ℕ) : Bool := mode &&& 0o170000 == 0o100000

/-- What is asked of a file before it is trusted. -/
def StorageIdentity.isSecure (status : StorageIdentity) (mode : ℕ) : Bool :=
  isRegular status.mode && status.uid == 0 && status.gid == 0 && status.nlink == 1 &&
    status.mode &&& 0o777 == mode

/-- A file as `openat` with `O_CREAT` and the mode 0600 leaves it, whatever the `umask`. -/
structure DiskFile.IsNew (file : DiskFile) : Prop where
  regular : isRegular file.mode = true
  closed : file.mode &&& 0o177 = 0
  nlink : file.nlink = 1
  data : file.data = []
  synced : file.synced = false

/-! ## System calls -/

/-- A failure where `ENOENT` is told from the rest. -/
inductive LookupFailure where
  | noEntry
  | failed
  deriving DecidableEq

/-- What `openat` with `O_CREAT | O_EXCL` comes to. -/
inductive CreateReply where
  | created (fd : ℕ)
  | taken
  | failed
  deriving DecidableEq

/-- The system calls, by name. Directories are named by their area; `fsyncDirectory` and `openScan`
are `fsync` and `openat` of a directory, and `other` is an operation that is no storage
operation. -/
inductive DiskCall where
  | fstatat (area : StorageArea) (name : Name)
  | openat (area : StorageArea) (name : Name)
  | createat (area : StorageArea) (name : Name)
  | fstat (fd : ℕ)
  | read (fd size : ℕ)
  | write (fd : ℕ) (data : Bytes)
  | fchown (fd uid gid : ℕ)
  | fchmod (fd mode : ℕ)
  | fsync (fd : ℕ)
  | fsyncDirectory (area : StorageArea)
  | close (fd : ℕ)
  | unlinkat (area : StorageArea) (name : Name)
  | renameat (area : StorageArea) (oldName newName : Name)
  | renameNoreplace (tempName configName : Name)
  | renameExchange (tempName configName : Name)
  | getrandom (size : ℕ)
  | openScan (area : StorageArea)
  | fdopendir (area : StorageArea)
  | closeScan
  | readdir
  | closedir
  | terminationRequested
  | other (o : HelperCall)

/-- The reply to each. -/
@[reducible] def DiskCall.Reply : DiskCall → Type
  | fstatat .. => Except LookupFailure StorageIdentity
  | openat .. => Option ℕ
  | createat .. => CreateReply
  | fstat _ => Option StorageIdentity
  | read .. | getrandom _ => ReadReply
  | write .. => WriteReply
  | unlinkat .. => Except LookupFailure Unit
  | renameNoreplace .. => RenameOutcome
  | readdir => IteratorResult
  | closeScan => Unit
  | other o => o.Reply
  | _ => Bool

/-- The signature of the storage functions. -/
@[reducible] def diskSig : Signature := ⟨DiskCall, DiskCall.Reply⟩

/-- Programs over the system calls. -/
abbrev DiskM := Prog diskSig

/-- Programs over the system calls that may go on for ever. -/
abbrev DiskLoopM := OptionT DiskM

/-- Makes a system call. -/
abbrev diskCall (o : DiskCall) : DiskM o.Reply := Prog.request (S := diskSig) o

/-! ## What the calls do -/

namespace Disk

/-- What a read of so many bytes may come to. -/
def Reads (d : Disk) (fd size : ℕ) : ReadReply → Disk → Prop
  | .data bytes, d' => ∃ handle, d.descriptor fd = some handle ∧ bytes ≠ [] ∧
      bytes.length ≤ size ∧ bytes <+: (d.file handle.ino).data.drop handle.offset ∧
      d' = d.setDescriptor fd (some ⟨handle.ino, handle.offset + bytes.length⟩)
  | .ended, d' => (∃ handle, d.descriptor fd = some handle ∧
      (size = 0 ∨ (d.file handle.ino).data.drop handle.offset = [])) ∧ d' = d
  | .interrupted, d' | .failed, d' => d' = d

/-- Bytes in place of as many others, from an offset that the file reaches. -/
def overwrite (data : Bytes) (offset : ℕ) (bytes : Bytes) : Bytes :=
  data.take offset ++ bytes ++ data.drop (offset + bytes.length)

/-- The disk after bytes were written: the file is not synced any more. -/
def Wrote (d : Disk) (fd : ℕ) (bytes : Bytes) (d' : Disk) : Prop :=
  ∃ handle mtime ctime, d.descriptor fd = some handle ∧
    d' = (d.setFile handle.ino { d.file handle.ino with
      data := overwrite (d.file handle.ino).data handle.offset bytes
      synced := false, mtime, ctime }).setDescriptor fd
        (some ⟨handle.ino, handle.offset + bytes.length⟩)

/-- The disk after a change of an open file. -/
def Changes (d : Disk) (fd : ℕ) (change : DiskFile → DiskFile) (d' : Disk) : Prop :=
  ∃ handle ctime, d.descriptor fd = some handle ∧
    d' = d.setFile handle.ino { change (d.file handle.ino) with ctime }

/-- The disk after a rename within a directory. Names of one file are left alone. -/
def renamed (d : Disk) (area : StorageArea) (oldName newName : Name) : Disk :=
  if d.entry area oldName = d.entry area newName then d
  else (d.setEntry area newName (d.entry area oldName)).setEntry area oldName none

/-- What a system call may reply, and the disk it leaves. A call that fails has changed nothing,
but for a write, of which a part may be done. -/
def Does (d : Disk) : (o : DiskCall) → o.Reply → Disk → Prop
  | .fstatat area name, .ok status, d' =>
    (∃ ino, d.entry area name = some ino ∧ status = d.stat ino) ∧ d' = d
  | .fstatat area name, .error .noEntry, d' => d.entry area name = none ∧ d' = d
  | .fstatat .., .error .failed, d' => d' = d
  | .openat area name, some fd, d' => ∃ ino, d.entry area name = some ino ∧
      d.descriptor fd = none ∧ d' = d.setDescriptor fd (some ⟨ino, 0⟩)
  | .openat .., none, d' => d' = d
  | .createat area name, .created fd, d' => d.entry area name = none ∧ d.descriptor fd = none ∧
      ∃ file : DiskFile, file.IsNew ∧
        d' = (d.create area name file).setDescriptor fd (some ⟨d.next, 0⟩)
  | .createat .., .taken, d' | .createat .., .failed, d' => d' = d
  | .fstat fd, some status, d' =>
    (∃ handle, d.descriptor fd = some handle ∧ status = d.stat handle.ino) ∧ d' = d
  | .fstat _, none, d' => d' = d
  | .read fd size, reply, d' => d.Reads fd size reply d'
  | .write fd data, .wrote count, d' =>
    count ≤ data.length ∧ d.Wrote fd (data.take count) d'
  | .write fd data, .failed, d' => d' = d ∨ ∃ count, d.Wrote fd (data.take count) d'
  | .write .., .interrupted, d' => d' = d
  | .fchown fd uid gid, done, d' =>
    if done then d.Changes fd (fun file => { file with uid, gid }) d' else d' = d
  | .fchmod fd mode, done, d' =>
    if done then
      d.Changes fd (fun file => { file with mode := file.mode &&& 0o170000 ||| mode }) d'
    else d' = d
  | .fsync fd, done, d' =>
    if done then d.Changes fd (fun file => { file with synced := true }) d' else d' = d
  | .fsyncDirectory area, done, d' => d' = if done then d.syncDirectory area else d
  | .close fd, _, d' => d' = d.setDescriptor fd none
  | .unlinkat area name, .ok _, d' =>
    (d.entry area name).isSome ∧ (d.setEntry area name none).Relinks d'
  | .unlinkat area name, .error .noEntry, d' => d.entry area name = none ∧ d' = d
  | .unlinkat .., .error .failed, d' => d' = d
  | .renameat area oldName newName, done, d' => if done then
      (d.entry area oldName).isSome ∧ (d.renamed area oldName newName).Relinks d'
    else d' = d
  | .renameNoreplace tempName configName, .renamed, d' =>
    (d.entry .staging tempName).isSome ∧ d.entry .config configName = none ∧
      ((d.setEntry .config configName (d.entry .staging tempName)).setEntry .staging tempName
        none).Relinks d'
  | .renameNoreplace _ configName, .targetExists, d' =>
    (d.entry .config configName).isSome ∧ d' = d
  | .renameNoreplace .., .failed, d' => d' = d
  | .renameExchange tempName configName, done, d' => if done then
      (d.entry .staging tempName).isSome ∧ (d.entry .config configName).isSome ∧
        ((d.setEntry .config configName (d.entry .staging tempName)).setEntry .staging tempName
          (d.entry .config configName)).Relinks d'
    else d' = d
  | .getrandom size, .data bytes, d' => bytes ≠ [] ∧ bytes.length ≤ size ∧ d' = d
  | .getrandom _, .ended, d' | .getrandom _, .interrupted, d' | .getrandom _, .failed, d' => d' = d
  | .fdopendir area, done, d' => if done then
      (∀ name, (d.entry area name).isSome → name ∈ d'.scan) ∧ d' = { d with scan := d'.scan }
    else d' = d
  | .readdir, .entry name, d' => d.scan = name :: d'.scan ∧ d' = { d with scan := d'.scan }
  | .readdir, .done, d' => d.scan = [] ∧ d' = d
  | .readdir, .failed, d' => d' = d
  | .openScan _, _, d' | .closeScan, _, d' | .closedir, _, d' => d' = d
  | .terminationRequested, _, d' => d' = d
  | .other o, reply, d' => behaves o d.world reply d'.world ∧
      d' = { d with committed := d'.committed }

end Disk

/-- The behaviour of the system calls. -/
def diskBehaves : Behaviour diskSig Disk := fun o d r d' => d.Does o r d'

end NmSidebar
