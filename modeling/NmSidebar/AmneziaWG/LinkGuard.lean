import NmSidebar.AmneziaWG.LinkEvents

/-!
# Link guards

A guard of `link_identity.c` subscribes to the kernel's link events and is checked before and after
each step that relies on a session's link. A check succeeds only if the kernel has told nothing but
good of the link since the subscription, and one dump shows it exactly once; a check that fails
closes the subscription, so that no later check succeeds.
-/

namespace NmSidebar

open Text Effects

/-! ## Calls -/

/-- What `recvmsg` returns: a datagram with the flags and the sender that are looked at, or how it
fails. -/
inductive GuardReceipt where
  | received (data : Bytes) (truncated fromKernel : Bool)
  | interrupted
  | again
  | failed

/-- The calls of a guard. `monotonicTime` is in microseconds; `readSnapshot` is
`link_snapshot_read_until`, on a socket of its own. -/
inductive GuardCall where
  | monotonicTime
  | isCancelled
  | socket
  | bind
  | recvmsg
  | readSnapshot (deadline : ℤ)
  | close

/-- The reply to each call. -/
@[reducible] def GuardCall.Reply : GuardCall → Type
  | monotonicTime => ℤ
  | isCancelled | socket | bind => Bool
  | recvmsg => GuardReceipt
  | readSnapshot _ => Option LinkSnapshot
  | close => Unit

/-- The signature of a guard. -/
@[reducible] def guardSig : Signature := ⟨GuardCall, GuardCall.Reply⟩

/-- Programs of a guard. -/
abbrev GuardM := Prog guardSig

/-- Makes a call. -/
abbrev guardCall (o : GuardCall) : GuardM o.Reply := Prog.request (S := guardSig) o

/-- `cancellable != NULL && g_cancellable_is_cancelled(cancellable)`. -/
def operationCancelled (hasCancellable : Bool) : GuardM Bool :=
  if hasCancellable then guardCall .isCancelled else return false

/-- `operation_expired`. -/
def operationExpired (deadline : ℤ) (hasCancellable : Bool) : GuardM Bool := do
  if (← guardCall .monotonicTime) ≥ deadline then return true
  else operationCancelled hasCancellable

/-! ## Records -/

/-- The `identity` of a guard. -/
structure GuardedLink where
  ifindex : UInt32
  ifname : Name
  linkAlias : Bytes

/-- `link_record_is_relevant`. -/
def GuardedLink.isRelevant (identity : GuardedLink) (record : LinkMessage) : Bool :=
  record.ifindex == identity.ifindex || record.ifname == identity.ifname ||
    record.linkAlias == some identity.linkAlias

/-- `link_record_matches`. -/
def GuardedLink.matches (identity : GuardedLink) (record : LinkMessage) : Bool :=
  record.ifindex == identity.ifindex && record.ifname == identity.ifname &&
    record.linkAlias == some identity.linkAlias

/-- The `LinkRecord` of a link in a dump. -/
def LinkRecord.message (record : LinkRecord) : LinkMessage :=
  ⟨record.ifindex, record.ifname, record.linkAlias⟩

/-! ## The check -/

/-- `NetworkSidebarAmneziaWGLinkGuard`: it is open while it has its socket. -/
structure LinkGuard where
  identity : GuardedLink
  isOpen : Bool

variable (order : ByteOrder)

/-- One message of `link_guard_drain`. -/
def drainMessage (identity : GuardedLink) (deadline : ℤ) (hasCancellable : Bool)
    (message : Bytes) : GuardM Bool := do
  if ← operationExpired deadline hasCancellable then return false
  else if nlmsgDumpInterrupted order message then return false
  else if nlmsgType order message = nlmsgNoop then return true
  else if nlmsgType order message ≠ rtmNewlink ∧ nlmsgType order message ≠ rtmDellink then
    return false
  else
    match parseLinkMessage order message true with
    | none => return false
    | some record =>
      if identity.isRelevant record ∧
          (nlmsgType order message = rtmDellink ∨ identity.matches record = false) then
        return false
      else return true

/-- `LINK_DUMP_BUFFER_SIZE`. -/
def linkDumpBufferSize : ℕ := 65536

/-- `LINK_GUARD_MAX_DRAIN_READS`. -/
def linkGuardMaxDrainReads : ℕ := 256

/-- The loop of `link_guard_drain`, with the reads that are left. -/
def drainReads (identity : GuardedLink) (deadline : ℤ) (hasCancellable : Bool) : ℕ → GuardM Bool
  | 0 => return false
  | reads + 1 => do
    if ← operationExpired deadline hasCancellable then return false
    else
      match ← guardCall .recvmsg with
      | .interrupted => drainReads identity deadline hasCancellable reads
      | .again =>
        let expired ← operationExpired deadline hasCancellable
        return !expired
      | .failed => return false
      | .received data truncated fromKernel =>
        if data.length = 0 ∨ data.length > linkDumpBufferSize ∨ truncated ∨ fromKernel = false then
          return false
        else
          if ← (nlmsgFormat order).walkM (drainMessage order identity deadline hasCancellable)
              data.length data then
            drainReads identity deadline hasCancellable reads
          else return false

/-- `link_guard_drain`. -/
def linkGuardDrain (identity : GuardedLink) (deadline : ℤ) (hasCancellable : Bool) : GuardM Bool :=
  drainReads order identity deadline hasCancellable linkGuardMaxDrainReads

/-- The loop of a check over the records of a dump, with the matches before: nothing where the
check fails. -/
def countMatches (identity : GuardedLink) (deadline : ℤ) (hasCancellable : Bool) :
    List LinkRecord → ℕ → GuardM (Option ℕ)
  | [], found => return some found
  | record :: records, found => do
    if ← operationExpired deadline hasCancellable then return none
    else if identity.isRelevant record.message then
      if identity.matches record.message = false ∨ found + 1 ≠ 1 then return none
      else countMatches identity deadline hasCancellable records (found + 1)
    else countMatches identity deadline hasCancellable records found

/-- `LINK_DUMP_TIMEOUT_MSEC`. -/
def linkDumpTimeoutMsec : ℤ := 1000

/-- The caller's deadline in microseconds. -/
def deadlineInMicroseconds (deadlineMsec : ℤ) : ℤ :=
  if deadlineMsec ≤ 0 then 0
  else if deadlineMsec > maxInt64 / 1000 then maxInt64
  else deadlineMsec * 1000

/-- What a check does before it returns or closes the subscription. -/
def linkGuardLooks (identity : GuardedLink) (deadline : ℤ) (hasCancellable : Bool) :
    GuardM Bool := do
  if ← linkGuardDrain order identity deadline hasCancellable then
    match ← guardCall (.readSnapshot deadline) with
    | none => return false
    | some snapshot =>
      match ← countMatches identity deadline hasCancellable snapshot 0 with
      | none => return false
      | some found =>
        if found ≠ 1 then return false
        else linkGuardDrain order identity deadline hasCancellable
  else return false

/-- `network_sidebar_amneziawg_link_guard_check`, with the guard it leaves. -/
def linkGuardCheck (guard : LinkGuard) (deadlineMsec : ℤ) (hasCancellable : Bool) :
    GuardM (Bool × LinkGuard) := do
  if guard.isOpen = false then return (false, guard)
  else
    let now ← guardCall .monotonicTime
    let deadline := min (deadlineInMicroseconds deadlineMsec) (now + linkDumpTimeoutMsec * 1000)
    if ← linkGuardLooks order guard.identity deadline hasCancellable then return (true, guard)
    else
      guardCall .close
      return (false, { guard with isOpen := false })

/-- What a guard of an identity looks for. -/
def LinkIdentity.guarded (identity : LinkIdentity) : GuardedLink :=
  ⟨identity.ifindex, identity.name, linkAliasOf identity.linkToken⟩

/-- `network_sidebar_amneziawg_link_guard_new`. -/
def linkGuardNew (identity : LinkIdentity) (deadlineMsec : ℤ) (hasCancellable : Bool) :
    GuardM (Option LinkGuard) := do
  if nameIsValid identity.name = false ∨ linkTokenIsValid identity.linkToken = false ∨
      identity.ifindex = 0 ∨ identity.ifindex.toNat > maxInt then return none
  else
    if ← operationCancelled hasCancellable then return none
    else if deadlineMsec ≤ (← guardCall .monotonicTime) / 1000 then return none
    else if ← guardCall .socket then
      if ← guardCall .bind then
        let checked ← linkGuardCheck order ⟨identity.guarded, true⟩ deadlineMsec hasCancellable
        return if checked.1 then some checked.2 else none
      else return none
    else return none

end NmSidebar
