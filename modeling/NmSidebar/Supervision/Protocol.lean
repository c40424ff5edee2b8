import Mathlib.Data.Int.Notation
import NmSidebar.Program.Safety

/-!
# The supervision protocol and the calls of the service

`amneziawg_supervision_protocol.h`: the messages between the helper and the service that runs it.
The service's functions are programs over the system calls of this file. A loop that repeats
`waitpid` on a group until no child of it is left to reap is one call here.
-/

namespace NmSidebar

open Effects

/-! ## Messages -/

/-- `NetworkSidebarAmneziaWGSupervisionMessage`. A process group and a status are `gint32`. -/
structure SupervisionMessage where
  magic : UInt32
  version : UInt16
  type : UInt16
  processGroup : ℤ
  sequence : UInt32
  status : ℤ
  deriving DecidableEq

/-- `NETWORK_SIDEBAR_AMNEZIAWG_SUPERVISION_MAGIC`. -/
def supervisionMagic : UInt32 := 0x4e4d4157

/-- `NETWORK_SIDEBAR_AMNEZIAWG_SUPERVISION_VERSION`. -/
def supervisionVersion : UInt16 := 3

/-- `NetworkSidebarAmneziaWGSupervisionType`. -/
inductive SupervisionType where
  | register
  | unregister
  | release
  | withdrawRelease
  | terminating
  deriving DecidableEq

/-- The number that stands for a type in a message. -/
def SupervisionType.code : SupervisionType → UInt16
  | register => 1
  | unregister => 2
  | release => 3
  | withdrawRelease => 4
  | terminating => 5

/-- The type a number stands for. -/
def supervisionTypeOf (code : UInt16) : Option SupervisionType :=
  [.register, .unregister, .release, .withdrawRelease, .terminating].find? (·.code = code)

@[simp] theorem supervisionTypeOf_code (type : SupervisionType) :
    supervisionTypeOf type.code = some type := by
  cases type <;> rfl

/-- The statuses of a response, as numbered by Linux. -/
inductive Errno where
  | eperm
  | enoent
  | eio
  | ebusy
  | eexist
  | enospc
  | enotsup
  | eshutdown
  | ecanceled
  deriving DecidableEq

/-- The number of an error. -/
def Errno.code : Errno → ℤ
  | eperm => 1
  | enoent => 2
  | eio => 5
  | ebusy => 16
  | eexist => 17
  | enospc => 28
  | enotsup => 95
  | eshutdown => 108
  | ecanceled => 125

theorem Errno.code_ne_zero (error : Errno) : error.code ≠ 0 := by
  cases error <;> decide

/-! ## System calls of the service -/

/-- The signals that are sent to helpers and their groups. -/
inductive Signal where
  | term
  | int
  | kill
  deriving DecidableEq

/-- What one `recv` on the supervision channel gives. Any size other than a message's is
malformed, and so is an error other than `EAGAIN`. -/
inductive Received where
  | wouldBlock
  | closed
  | malformed
  | message (message : SupervisionMessage)
  deriving DecidableEq

/-- `GroupScanResult`. -/
inductive GroupScanResult where
  | failed
  | empty
  | live
  deriving DecidableEq

/-- What `kill` on one process reports. -/
inductive KillResult where
  | sent
  | noProcess
  | refused
  deriving DecidableEq

/-- What `waitpid` with `WNOHANG`, or `waitid` with `WNOWAIT`, reports of one child. -/
inductive ChildState where
  | running
  | exited
  | noChild
  | failed
  deriving DecidableEq

/-- What the last `waitpid` on a group reports when no more children of it can be reaped. -/
inductive GroupWait where
  | running
  | noChild
  | failed
  deriving DecidableEq

/-- A wait status of the helper, taken apart. -/
inductive HelperWait where
  | exited (code : ℕ)
  | signaled
  | other
  deriving DecidableEq

/-- What `waitpid` reports of the helper. -/
inductive HelperReap where
  | reaped (status : HelperWait)
  | running
  | noChild
  | failed
  deriving DecidableEq

/-- What moving bytes through one of the helper's pipes comes to. -/
inductive PipeResult where
  | open
  | done
  | failed
  deriving DecidableEq

/-- The system calls of the service, named by what they are used for. -/
inductive ServiceCall where
  -- the supervision channel
  | receive
  | send (message : SupervisionMessage)
  | closeChannel
  -- process groups and their sentinels
  | scanProcessGroup (processGroup : ℤ) (sentinel : Option ℕ)
  | spawnSentinel (processGroup : ℤ)
  | killSentinel (sentinel : ℕ)
  | reapSentinel (sentinel : ℕ)
  | peekSentinel (sentinel : ℕ)
  | killGroup (processGroup : ℤ) (signal : Signal)
  | reapGroup (processGroup : ℤ)
  -- the helper
  | monotonicMsec
  | signalHelper (signal : Signal)
  | peekHelper
  | reapHelperNow
  | reapHelper
  | writeHelperInput
  | readHelperOutput
  deriving DecidableEq

/-- The reply to each call. -/
@[reducible] def ServiceCall.Reply : ServiceCall → Type
  | receive => Received
  | send _ => Bool
  | scanProcessGroup .. => GroupScanResult
  | spawnSentinel _ => Option ℕ
  | killSentinel _ => KillResult
  | reapSentinel _ | peekSentinel _ | peekHelper => ChildState
  | killGroup .. => Bool
  | reapGroup _ => List ℕ × GroupWait
  | monotonicMsec => ℤ
  | closeChannel | signalHelper _ => Unit
  | reapHelperNow | reapHelper => HelperReap
  | writeHelperInput => PipeResult
  | readHelperOutput => List UInt8 × PipeResult

/-- The signature of the service. -/
@[reducible] def serviceSig : Signature := ⟨ServiceCall, ServiceCall.Reply⟩

/-- Programs of the service. -/
abbrev ServiceM := Prog serviceSig

/-- Makes a system call. -/
abbrev sys (o : ServiceCall) : ServiceM o.Reply := @Prog.request serviceSig o

end NmSidebar
