import NmSidebar.AmneziaWG.LinkGuard
import NmSidebar.Program.Environment
import NmSidebar.Program.Runs

/-!
# Continuity of link guards

A check that succeeds vouches for the whole time since the guard was made: whatever the kernel has
told of the link until the check's last look was good, nothing was lost on the way, and a dump in
between showed the link once. No link can be removed and made again between two checks that
succeed. A check that fails is the last one that could have succeeded.
-/

namespace NmSidebar

open Text Effects

/-! ## The subscription -/

/-- A datagram that is delivered to a subscription. -/
structure LinkDatagram where
  data : Bytes
  fromKernel : Bool

/-- A subscription since it was bound: what was delivered, how much of it was read, whether the
kernel has an overrun to tell (`ENOBUFS`), and whether anything was lost. -/
structure LinkStream where
  delivered : List LinkDatagram
  read : ℕ
  overrun : Bool
  lost : Bool

/-- Time goes by: datagrams are delivered, or lost for want of room, and then there is an overrun
to tell. -/
structure LinkStream.Later (u u' : LinkStream) : Prop where
  delivered : ∃ more, u'.delivered = u.delivered ++ more
  read : u'.read = u.read
  overrun : u.overrun = true → u'.overrun = true
  lost : u'.lost = true → u.lost = true ∨ u'.overrun = true

/-- What `recvmsg` gives. It finds nothing only where all was read and there is no overrun to
tell; what it fails with, it has told. -/
inductive LinkStream.Receives : LinkStream → GuardReceipt → LinkStream → Prop
  | received {u : LinkStream} {datagram : LinkDatagram} {truncated : Bool}
      (hnext : u.delivered[u.read]? = some datagram)
      (htruncated : datagram.data.length > linkDumpBufferSize → truncated = true) :
      u.Receives (.received (datagram.data.take linkDumpBufferSize) truncated datagram.fromKernel)
        { u with read := u.read + 1 }
  | again {u : LinkStream} (hread : u.delivered.length ≤ u.read) (hoverrun : u.overrun = false) :
      u.Receives .again u
  | interrupted {u : LinkStream} : u.Receives .interrupted u
  | failed {u : LinkStream} {overrun : Bool} : u.Receives .failed { u with overrun }

/-- The calls of a guard on its subscription. A dump is another socket's, and the clock and the
cancellable say whatever they like. -/
def guardBehaviour : Behaviour guardSig LinkStream := fun o u reply u' =>
  match o with
  | .bind => u' = ⟨[], 0, false, false⟩
  | .recvmsg => ∃ v, u.Later v ∧ v.Receives reply u'
  | .monotonicTime | .isCancelled | .socket | .readSnapshot _ | .close => u.Later u'

/-- One event of a run of a guard. -/
abbrev GuardEvent := Event guardSig LinkStream

variable (order : ByteOrder)

/-- The life of a guard: it is made, which is its first check, and then checked any number of
times, each time with any deadline. The list holds each check's events and what it returned. -/
inductive GuardHistory (identity : LinkIdentity) :
    List (List GuardEvent × Bool) → LinkGuard → LinkStream → Prop
  | created {deadlineMsec : ℤ} {hasCancellable : Bool} {u u' : LinkStream} {guard : LinkGuard}
      {tr : List GuardEvent}
      (hs : Steps guardBehaviour (linkGuardNew order identity deadlineMsec hasCancellable) u tr
        (.pure (some guard)) u') : GuardHistory identity [(tr, true)] guard u'
  | checked {checks : List (List GuardEvent × Bool)} {guard guard' : LinkGuard}
      {u u' : LinkStream} {deadlineMsec : ℤ} {hasCancellable ok : Bool} {tr : List GuardEvent}
      (hh : GuardHistory identity checks guard u)
      (hs : Steps guardBehaviour (linkGuardCheck order guard deadlineMsec hasCancellable) u tr
        (.pure (ok, guard')) u') : GuardHistory identity (checks ++ [(tr, ok)]) guard' u'

/-! ## What a guard vouches for -/

namespace GuardedLink

variable (identity : GuardedLink)

/-- A link with this index, name and alias has one of them in common with the guarded link. -/
def Concerns (ifindex : UInt32) (ifname : Bytes) (linkAlias : Option Bytes) : Prop :=
  ifindex = identity.ifindex ∨ ifname = identity.ifname ∨ linkAlias = some identity.linkAlias

/-- It has all three in common. -/
def Identical (ifindex : UInt32) (ifname : Bytes) (linkAlias : Option Bytes) : Prop :=
  ifindex = identity.ifindex ∧ ifname = identity.ifname ∧ linkAlias = some identity.linkAlias

/-- A message is no event, or an event of a link that does not concern the guarded one, or a link
as the guarded one is. -/
def Spared (message : Bytes) : Prop :=
  nlmsgType order message = nlmsgNoop ∨
    (nlmsgType order message = rtmNewlink ∨ nlmsgType order message = rtmDellink) ∧
      ∃ change name, Reports order message change ∧ change.ifname = some name ∧
        (identity.Concerns change.ifindex name.val change.linkAlias.join →
          nlmsgType order message = rtmNewlink ∧
            identity.Identical change.ifindex name.val change.linkAlias.join)

/-- A datagram is the kernel's, and all its messages spare the link. -/
def SparedBy (datagram : LinkDatagram) : Prop :=
  datagram.fromKernel = true ∧ ∃ messages, Framed (nlmsgFormat order) datagram.data messages ∧
    ∀ message ∈ messages, identity.Spared order message

/-- The calls found nothing left to read at one time, when nothing had been lost and every
datagram delivered until then spared the link. -/
def Drained (tr : List GuardEvent) : Prop :=
  ∃ u u', ⟨GuardCall.recvmsg, u, GuardReceipt.again, u'⟩ ∈ tr ∧ u'.lost = false ∧
    ∀ datagram ∈ u'.delivered, identity.SparedBy order datagram

/-- Exactly one link of a dump has anything in common with the guarded one, and it has all. -/
def ShownIn (snapshot : LinkSnapshot) : Prop :=
  ∃ before record after, snapshot = before ++ record :: after ∧
    identity.Identical record.ifindex record.ifname record.linkAlias ∧
    ∀ other ∈ before ++ after,
      ¬identity.Concerns other.ifindex other.ifname other.linkAlias

/-- The calls of a check: the link was spared until before a dump, the dump shows it once, and it
was spared until after the dump. -/
def Continuous (tr : List GuardEvent) : Prop :=
  ∃ deadline u u' snapshot first last,
    tr = first ++ ⟨GuardCall.readSnapshot deadline, u, some snapshot, u'⟩ :: last ∧
      identity.Drained order first ∧ identity.ShownIn snapshot ∧ identity.Drained order last

@[simp] theorem isRelevant_iff {record : LinkMessage} : identity.isRelevant record = true ↔
    identity.Concerns record.ifindex record.ifname record.linkAlias := by
  simp [isRelevant, Concerns, or_assoc]

@[simp] theorem matches_iff {record : LinkMessage} : identity.matches record = true ↔
    identity.Identical record.ifindex record.ifname record.linkAlias := by
  simp [GuardedLink.matches, Identical, and_assoc]

end GuardedLink

/-! ## One message -/

variable {order}

/-- The loop over the attributes has a name where one of them is a name. -/
theorem haveName_of_foldlM {attributes : List Bytes} {scan scan' : LinkScan}
    (h : attributes.foldlM (parseLinkAttribute order) scan = some scan') :
    scan'.haveName = (scan.haveName || (attributeOf order iflaIfname attributes).isSome) := by
  induction attributes generalizing scan with
  | nil =>
    obtain rfl := Option.some.inj h
    exact (Bool.or_false _).symm
  | cons rta attributes ih =>
    obtain ⟨next, hnext, hrest⟩ := Option.bind_eq_some_iff.mp h
    rw [ih hrest, attributeOf_cons]
    cases attributeStep_of_parse hnext with
    | name hkind _ _ _ _ _ => simp [hkind]
    | linkAlias hkind _ _ _ =>
      have hother : rtaKind order rta ≠ iflaIfname := by rw [hkind]; decide
      rw [if_neg hother]
    | other hnoName _ => rw [if_neg hnoName]

/-- A message that is parsed with its name reports what was parsed. -/
theorem reports_of_parse {message : Bytes} {record : LinkMessage}
    (h : parseLinkMessage order message true = some record) :
    ∃ change name, Reports order message change ∧ change.ifname = some name ∧
      record = ⟨change.ifindex, name.val, change.linkAlias.join⟩ := by
  unfold parseLinkMessage at h
  split at h
  · cases h
  rename_i hrefused
  obtain ⟨-, hzero, hindex⟩ := by simpa only [not_or] using hrefused
  dsimp only at h
  split at h
  · cases h
  rename_i scan hwalk
  split at h
  · cases h
  rename_i hname
  obtain rfl := Option.some.inj h
  obtain ⟨attributes, hframed, hfold⟩ := framed_of_walk hwalk
  have hscan := scanned_of_foldlM hfold
  have hhave : (attributeOf order iflaIfname attributes).isSome = true := by
    have hhave := haveName_of_foldlM hfold
    rw [Bool.false_or] at hhave
    rw [← hhave]
    simpa using hname
  obtain ⟨name, hifname⟩ := Option.isSome_iff_exists.mp hhave
  have hne : name ≠ [] := by
    obtain ⟨rta, hfind, rfl⟩ := Option.map_eq_some_iff.mp hifname
    have hkind := List.find?_some hfind
    exact ((wellFormedAttributes_of_foldlM hfold).name rta (List.mem_of_find?_eq_some hfind)
      (beq_iff_eq.mp hkind)).2.2.2
  have hpositive : UInt32.ofNat (ifiIndex order message) ≠ 0 := by
    rw [Ne, ← UInt32.toNat_inj, UInt32.toNat_ofNat', Nat.mod_eq_of_lt (by omega)]
    exact hzero
  refine ⟨⟨_, some ⟨name, hne⟩, (attributeOf order iflaIfalias attributes).map recordedAlias,
    hpositive⟩, ⟨name, hne⟩, ⟨rfl, attributes, hframed, hifname.symm, rfl⟩, rfl, ?_⟩
  rw [hscan.name, hifname, hscan.linkAlias]
  cases attributeOf order iflaIfalias attributes <;> rfl

/-- A message that a drain goes on after spares the link. -/
theorem returns_drainMessage (identity : GuardedLink) (deadline : ℤ) (hasCancellable : Bool)
    (message : Bytes) : (drainMessage order identity deadline hasCancellable message).Returns
      fun ok => ok = true → identity.Spared order message := by
  unfold drainMessage
  refine (Prog.returns_any _).bind fun expired _ => ?_
  split
  · exact fun h => absurd h Bool.false_ne_true
  split
  · exact fun h => absurd h Bool.false_ne_true
  split
  · exact fun _ => .inl ‹_›
  split
  · exact fun h => absurd h Bool.false_ne_true
  rename_i htype
  have htype : nlmsgType order message = rtmNewlink ∨ nlmsgType order message = rtmDellink := by
    rwa [not_and_or, not_not, not_not] at htype
  split
  · exact fun h => absurd h Bool.false_ne_true
  rename_i record hparse
  obtain ⟨change, name, hreports, hname, rfl⟩ := reports_of_parse hparse
  split
  · exact fun h => absurd h Bool.false_ne_true
  rename_i hgood
  refine fun _ => .inr ⟨htype, change, name, hreports, hname, fun hconcerns => ?_⟩
  have hgood := not_and.mp hgood (identity.isRelevant_iff.mpr hconcerns)
  obtain ⟨hdeleted, hmatches⟩ := not_or.mp hgood
  exact ⟨htype.resolve_right hdeleted,
    identity.matches_iff.mp (Bool.not_eq_false _ ▸ hmatches)⟩

/-! ## A drain -/

/-- What is read of a subscription spares the link, and a loss is told before nothing is left. -/
structure GuardedLink.Quiet (order : ByteOrder) (identity : GuardedLink) (u : LinkStream) :
    Prop where
  within : u.read ≤ u.delivered.length
  read : ∀ datagram ∈ u.delivered.take u.read, identity.SparedBy order datagram
  lost : u.lost = true → u.overrun = true

variable {identity : GuardedLink} {u u' : LinkStream}

/-- A subscription that nothing was delivered to yet is quiet. -/
theorem quiet_fresh : identity.Quiet order ⟨[], 0, false, false⟩ :=
  ⟨le_rfl, by simp, fun h => absurd h Bool.false_ne_true⟩

/-- Time does not change what was read. -/
theorem GuardedLink.Quiet.later (h : identity.Quiet order u) (hlater : u.Later u') :
    identity.Quiet order u' := by
  obtain ⟨⟨more, hdelivered⟩, hread, hoverrun, hlost⟩ := hlater
  have hwithin := h.within
  refine ⟨?_, ?_, fun hlost' => ?_⟩
  · rw [hdelivered, hread, List.length_append]
    omega
  · rw [hdelivered, hread, List.take_append_of_le_length hwithin]
    exact h.read
  · rcases hlost hlost' with hbefore | hnow
    · exact hoverrun (h.lost hbefore)
    · exact hnow

/-- A subscription with nothing left to read has lost nothing, and all of it spares the link. -/
theorem GuardedLink.Quiet.drained (h : identity.Quiet order u)
    (hreceives : u.Receives .again u') :
    u' = u ∧ u.lost = false ∧ ∀ datagram ∈ u.delivered, identity.SparedBy order datagram := by
  cases hreceives with
  | again hread hoverrun =>
    refine ⟨rfl, ?_, ?_⟩
    · by_contra hlost
      rw [h.lost (by simpa using hlost)] at hoverrun
      exact absurd hoverrun.symm Bool.false_ne_true
    · have hall := h.read
      rwa [List.take_of_length_le hread] at hall

/-- A datagram that is read is the next one; where it spares the link, the subscription stays
quiet. -/
theorem GuardedLink.Quiet.receive {data : Bytes} {truncated fromKernel : Bool}
    (h : identity.Quiet order u) (hreceives : u.Receives (.received data truncated fromKernel) u')
    (htruncated : truncated = false)
    (hspared : identity.SparedBy order ⟨data, fromKernel⟩) : identity.Quiet order u' := by
  generalize hreceipt : GuardReceipt.received data truncated fromKernel = receipt at hreceives
  cases hreceives with
  | again | interrupted | failed => cases hreceipt
  | @received datagram truncated' hnext hlong =>
    obtain ⟨rfl, rfl, rfl⟩ := GuardReceipt.received.inj hreceipt
    have hshort : datagram.data.length ≤ linkDumpBufferSize := by
      by_contra hover
      rw [hlong (not_le.mp hover)] at htruncated
      exact absurd htruncated.symm Bool.false_ne_true
    rw [List.take_of_length_le hshort] at hspared
    obtain ⟨hindex, hget⟩ := List.getElem?_eq_some_iff.mp hnext
    refine ⟨hindex, fun other hother => ?_, h.lost⟩
    rw [List.take_add_one, List.mem_append, hnext] at hother
    rcases hother with hother | hother
    · exact h.read other hother
    · obtain rfl := List.mem_singleton.mp hother
      exact hspared

/-! ## Calls since -/

/-- A call that does not touch the subscription. -/
def GuardCall.IsAside : GuardCall → Prop
  | bind | recvmsg => False
  | monotonicTime | isCancelled | socket | readSnapshot _ | close => True

/-- The subscription is quiet, and the calls go on from these. -/
def GuardedLink.QuietSince (order : ByteOrder) (identity : GuardedLink) (tr : List GuardEvent)
    (s : LinkStream × List GuardEvent) : Prop :=
  identity.Quiet order s.1 ∧ tr <+: s.2

/-- The subscription was drained after these calls. -/
def GuardedLink.DrainedSince (order : ByteOrder) (identity : GuardedLink) (tr : List GuardEvent)
    (s : LinkStream × List GuardEvent) : Prop :=
  identity.Quiet order s.1 ∧ ∃ rest, s.2 = tr ++ rest ∧ identity.Drained order rest

variable {tr : List GuardEvent} {s s' : LinkStream × List GuardEvent}

/-- A call that does not touch the subscription leaves it quiet. -/
theorem quietSince_aside {o : GuardCall} {reply : o.Reply} (ho : o.IsAside)
    (h : identity.QuietSince order tr s) (hb : guardBehaviour.logged o s reply s') :
    identity.QuietSince order tr s' := by
  obtain ⟨hstep, hlog⟩ := hb
  have hlater : s.1.Later s'.1 := by
    cases o with
    | bind | recvmsg => exact ho.elim
    | monotonicTime | isCancelled | socket | readSnapshot _ | close => exact hstep
  refine ⟨h.1.later hlater, ?_⟩
  rw [hlog]
  exact h.2.trans (List.prefix_append _ _)

/-- So does a program that makes only such calls; what it returns is as on any replies. -/
theorem safe_aside {α : Type} {p : GuardM α} {Q : α → Prop} (huses : p.Uses GuardCall.IsAside)
    (hreturns : p.Returns Q) (h : identity.QuietSince order tr s) :
    Safe guardBehaviour.logged (fun _ _ => True) p
      (fun a s => Q a ∧ identity.QuietSince order tr s) s := by
  have hquiet := Safe.of_uses (B := guardBehaviour.logged) (A := fun _ _ => True) huses h
    (fun _ _ _ _ => trivial) fun _ _ _ _ ho hs hb => quietSince_aside ho hs hb
  have hvalue : Safe guardBehaviour.logged (fun _ _ => True) p (fun a _ => Q a) s :=
    Safe.of_returnsOn (R := fun _ _ => True) hreturns.on (fun _ _ => trivial)
      fun _ _ _ _ _ => trivial
  exact (hvalue.and hquiet).weaken fun _ _ _ => trivial

theorem uses_operationCancelled (hasCancellable : Bool) :
    (operationCancelled hasCancellable).Uses GuardCall.IsAside := by
  unfold operationCancelled
  split
  · exact ⟨trivial, fun _ => trivial⟩
  · trivial

theorem uses_operationExpired (deadline : ℤ) (hasCancellable : Bool) :
    (operationExpired deadline hasCancellable).Uses GuardCall.IsAside := by
  unfold operationExpired
  refine Prog.Uses.bind ⟨trivial, fun _ => trivial⟩ fun now => ?_
  split
  · trivial
  · exact uses_operationCancelled hasCancellable

theorem uses_drainMessage (deadline : ℤ) (hasCancellable : Bool) (message : Bytes) :
    (drainMessage order identity deadline hasCancellable message).Uses GuardCall.IsAside := by
  unfold drainMessage
  refine (uses_operationExpired deadline hasCancellable).bind fun expired => ?_
  split
  · trivial
  split
  · trivial
  split
  · trivial
  split
  · trivial
  split
  · trivial
  split <;> trivial

/-- The operation has not expired, or the program stops. -/
theorem safe_operationExpired {deadline : ℤ} {hasCancellable : Bool}
    (h : identity.QuietSince order tr s) :
    Safe guardBehaviour.logged (fun _ _ => True) (operationExpired deadline hasCancellable)
      (fun _ s => identity.QuietSince order tr s) s :=
  (safe_aside (uses_operationExpired deadline hasCancellable) (Prog.returns_any _) h).mono
    fun _ _ h => h.2

/-- A drain that succeeds has drained the subscription. -/
theorem safe_drainReads (deadline : ℤ) (hasCancellable : Bool) (reads : ℕ)
    (h : identity.QuietSince order tr s) :
    Safe guardBehaviour.logged (fun _ _ => True)
      (drainReads order identity deadline hasCancellable reads)
      (fun ok s => ok = true → identity.DrainedSince order tr s) s := by
  induction reads generalizing s with
  | zero => exact fun h => absurd h Bool.false_ne_true
  | succ reads ih =>
    unfold drainReads
    refine (safe_operationExpired h).bind fun expired s₁ h₁ => ?_
    split
    · exact fun h => absurd h Bool.false_ne_true
    refine safe_bind.mpr (safe_request.mpr ⟨trivial, fun receipt s₂ hb => ?_⟩)
    obtain ⟨⟨v, hlater, hreceives⟩, hlog⟩ := hb
    obtain ⟨hquiet, hbegun⟩ := h₁
    have hquiet := hquiet.later hlater
    have hsince : tr <+: s₂.2 := by
      rw [hlog]
      exact hbegun.trans (List.prefix_append _ _)
    cases receipt with
    | interrupted =>
      cases hreceives
      exact ih ⟨‹_›, hsince⟩
    | failed => exact fun h => absurd h Bool.false_ne_true
    | again =>
      obtain ⟨hsame, hlost, hspared⟩ := hquiet.drained hreceives
      have hquiet : identity.QuietSince order s₂.2 s₂ := ⟨hsame ▸ hquiet, List.prefix_rfl⟩
      refine (safe_operationExpired hquiet).bind fun expired s₃ h₃ _ => ?_
      obtain ⟨before, hbefore⟩ := hbegun
      obtain ⟨after, hafter⟩ := h₃.2
      refine ⟨h₃.1, before ++ ⟨.recvmsg, s₁.1, .again, s₂.1⟩ :: after, ?_, s₁.1, s₂.1, ?_, ?_, ?_⟩
      · rw [← hafter, hlog, ← hbefore]
        simp
      · simp
      · rwa [hsame]
      · rwa [hsame]
    | received data truncated fromKernel =>
      dsimp only
      split
      · exact fun h => absurd h Bool.false_ne_true
      rename_i haccepted
      obtain ⟨-, -, htruncated, hkernel⟩ := by simpa only [not_or] using haccepted
      have hkernel : fromKernel = true := by simpa using hkernel
      have hwalk : ((nlmsgFormat order).walkM
          (drainMessage order identity deadline hasCancellable) data.length data).Returns _ :=
        returns_walkM (fun message => returns_drainMessage identity deadline hasCancellable message)
          data.length data
      by_cases hdatagram : identity.SparedBy order ⟨data, fromKernel⟩
      · have hread := hquiet.receive hreceives (by simpa using htruncated) hdatagram
        have hthrough := safe_aside (uses_walkM (fun message => uses_drainMessage deadline
          hasCancellable message) _ _) hwalk ⟨hread, hsince⟩
        refine hthrough.bind fun ok s₃ h₃ => ?_
        split
        · exact ih h₃.2
        · exact fun h => absurd h Bool.false_ne_true
      · -- a walk over a datagram that does not spare the link stops
        have hstops : ∀ ok, (ok = true → ∃ messages, Framed (nlmsgFormat order) data messages ∧
            ∀ message ∈ messages, identity.Spared order message) → ok = false := by
          intro ok hok
          by_contra htrue
          exact hdatagram ⟨hkernel, hok (by simpa using htrue)⟩
        refine (Safe.of_returnsOn (R := fun _ _ => True) (hwalk.mono hstops).on
          (fun _ _ => trivial) fun _ _ _ _ _ => trivial).bind fun ok s₃ hok => ?_
        rw [hok]
        exact fun h => absurd h Bool.false_ne_true

/-! ## A check -/

/-- The calls since these saw the link all the time, and the subscription is quiet. -/
def GuardedLink.SeenSince (order : ByteOrder) (identity : GuardedLink) (tr : List GuardEvent)
    (s : LinkStream × List GuardEvent) : Prop :=
  identity.Quiet order s.1 ∧ ∃ rest, s.2 = tr ++ rest ∧ identity.Continuous order rest

/-- Calls before a drain do not undo it. -/
theorem GuardedLink.Drained.append {rest : List GuardEvent} (h : identity.Drained order rest)
    (before : List GuardEvent) : identity.Drained order (before ++ rest) := by
  obtain ⟨u, u', hmem, hdrained⟩ := h
  exact ⟨u, u', List.mem_append_right before hmem, hdrained⟩

theorem GuardedLink.Continuous.append {rest : List GuardEvent}
    (h : identity.Continuous order rest) (before : List GuardEvent) :
    identity.Continuous order (before ++ rest) := by
  obtain ⟨deadline, u, u', snapshot, first, last, rfl, hfirst, hshown, hlast⟩ := h
  exact ⟨deadline, u, u', snapshot, before ++ first, last, (List.append_assoc _ _ _).symm,
    hfirst.append before, hshown, hlast⟩

theorem uses_countMatches (deadline : ℤ) (hasCancellable : Bool) (records : List LinkRecord)
    (found : ℕ) :
    (countMatches identity deadline hasCancellable records found).Uses GuardCall.IsAside := by
  induction records generalizing found with
  | nil => trivial
  | cons record records ih =>
    unfold countMatches
    refine (uses_operationExpired deadline hasCancellable).bind fun expired => ?_
    split
    · trivial
    split
    · split
      · trivial
      · exact ih _
    · exact ih _

/-- The loop over a dump counts the links that concern the guarded one, and all of them are as it
is. -/
theorem returns_countMatches (deadline : ℤ) (hasCancellable : Bool) (records : List LinkRecord)
    (found : ℕ) : (countMatches identity deadline hasCancellable records found).Returns
      fun counted => ∀ n, counted = some n →
        n = found + (records.filter fun record => identity.isRelevant record.message).length ∧
          ∀ record ∈ records, identity.isRelevant record.message = true →
            identity.matches record.message = true := by
  induction records generalizing found with
  | nil =>
    intro n hn
    obtain rfl := Option.some.inj hn
    exact ⟨rfl, by simp⟩
  | cons record records ih =>
    unfold countMatches
    refine (Prog.returns_any _).bind fun expired _ => ?_
    split
    · exact fun n h => absurd h.symm (Option.some_ne_none _)
    split
    · rename_i hrelevant
      split
      · exact fun n h => absurd h.symm (Option.some_ne_none _)
      rename_i hmatches
      refine (ih (found + 1)).mono fun counted hcounted n hn => ?_
      obtain ⟨hlength, hrest⟩ := hcounted n hn
      refine ⟨?_, fun other hother hconcerns => ?_⟩
      · rw [List.filter_cons, if_pos hrelevant, List.length_cons]
        omega
      · rcases List.mem_cons.mp hother with rfl | hother
        · simpa using (not_or.mp hmatches).1
        · exact hrest other hother hconcerns
    · rename_i hirrelevant
      refine (ih found).mono fun counted hcounted n hn => ?_
      obtain ⟨hlength, hrest⟩ := hcounted n hn
      refine ⟨?_, fun other hother hconcerns => ?_⟩
      · rw [List.filter_cons, if_neg hirrelevant]
        exact hlength
      · rcases List.mem_cons.mp hother with rfl | hother
        · exact absurd hconcerns hirrelevant
        · exact hrest other hother hconcerns

/-- Where a dump has one link that concerns the guarded one, and all such links are as it is, the
dump shows it. -/
theorem shownIn_of_count {snapshot : LinkSnapshot}
    (hone : (snapshot.filter fun record => identity.isRelevant record.message).length = 1)
    (hall : ∀ record ∈ snapshot, identity.isRelevant record.message = true →
      identity.matches record.message = true) : identity.ShownIn snapshot := by
  obtain ⟨record, hrecord⟩ := List.length_eq_one_iff.mp hone
  obtain ⟨before, after, rfl, hbefore, hrelevant, hafter⟩ := List.filter_eq_cons_iff.mp hrecord
  refine ⟨before, record, after, rfl,
    identity.matches_iff.mp (hall record (by simp) hrelevant), fun other hother hconcerns => ?_⟩
  have hconcerns : identity.isRelevant other.message = true :=
    identity.isRelevant_iff.mpr hconcerns
  rcases List.mem_append.mp hother with hother | hother
  · exact hbefore other hother hconcerns
  · exact List.filter_eq_nil_iff.mp hafter other hother hconcerns

/-- The looks of a check that succeeds saw the link all the time. -/
theorem safe_linkGuardLooks (deadline : ℤ) (hasCancellable : Bool)
    (h : identity.QuietSince order tr s) :
    Safe guardBehaviour.logged (fun _ _ => True)
      (linkGuardLooks order identity deadline hasCancellable)
      (fun ok s => ok = true → identity.SeenSince order tr s) s := by
  unfold linkGuardLooks
  refine (safe_drainReads deadline hasCancellable linkGuardMaxDrainReads h).bind
    fun ok s₁ h₁ => ?_
  split
  swap
  · exact fun h => absurd h Bool.false_ne_true
  obtain ⟨hquiet, first, hfirst, hdrained⟩ := h₁ ‹_›
  refine safe_bind.mpr (safe_request.mpr ⟨trivial, fun shown s₂ hb => ?_⟩)
  have hquiet₂ : identity.QuietSince order s₂.2 s₂ :=
    ⟨(quietSince_aside (o := .readSnapshot deadline) trivial ⟨hquiet, List.prefix_rfl⟩ hb).1,
      List.prefix_rfl⟩
  obtain ⟨-, hlog⟩ := hb
  cases shown with
  | none => exact fun h => absurd h Bool.false_ne_true
  | some snapshot =>
    refine (safe_aside (uses_countMatches deadline hasCancellable snapshot 0)
      (returns_countMatches deadline hasCancellable snapshot 0) hquiet₂).bind fun counted s₃ h₃ => ?_
    obtain ⟨hcounted, hquiet₃⟩ := h₃
    cases counted with
    | none => exact fun h => absurd h Bool.false_ne_true
    | some found =>
      dsimp only
      split
      · exact fun h => absurd h Bool.false_ne_true
      rename_i hone
      obtain ⟨hfound, hall⟩ := hcounted found rfl
      refine (safe_drainReads deadline hasCancellable linkGuardMaxDrainReads hquiet₃).mono
        fun ok s₄ h₄ hok => ?_
      obtain ⟨hquiet₄, last, hlast, hdrained₄⟩ := h₄ hok
      refine ⟨hquiet₄, first ++ ⟨.readSnapshot deadline, s₁.1, some snapshot, s₂.1⟩ :: last, ?_,
        deadline, s₁.1, s₂.1, snapshot, first, last, rfl, hdrained, shownIn_of_count (by omega) hall,
        hdrained₄⟩
      rw [hlast, hlog, hfirst]
      simp

/-- A check that succeeds leaves the guard as it was and has seen the link all the time; one that
fails leaves it closed. -/
theorem safe_linkGuardCheck (guard : LinkGuard) (deadlineMsec : ℤ) (hasCancellable : Bool)
    (h : guard.isOpen = true → guard.identity.QuietSince order tr s) :
    Safe guardBehaviour.logged (fun _ _ => True)
      (linkGuardCheck order guard deadlineMsec hasCancellable)
      (fun checked s => (checked.1 = true → guard.isOpen = true ∧ checked.2 = guard ∧
          guard.identity.SeenSince order tr s) ∧
        (checked.1 = false → checked.2 = { guard with isOpen := false })) s := by
  unfold linkGuardCheck
  split
  · rename_i hclosed
    refine ⟨fun h => absurd h Bool.false_ne_true, fun _ => ?_⟩
    rw [← hclosed]
  rename_i hopen
  have hopen : guard.isOpen = true := by simpa using hopen
  refine safe_bind.mpr (safe_request.mpr ⟨trivial, fun now s₁ hb => ?_⟩)
  have h₁ := quietSince_aside (o := .monotonicTime) trivial (h hopen) hb
  refine (safe_linkGuardLooks _ hasCancellable h₁).bind fun ok s₂ h₂ => ?_
  split
  · exact ⟨fun _ => ⟨hopen, rfl, h₂ ‹_›⟩, fun h => absurd h.symm Bool.false_ne_true⟩
  · refine safe_bind.mpr (safe_request.mpr ⟨trivial, fun _ s₃ _ => ?_⟩)
    exact ⟨fun h => absurd h Bool.false_ne_true, fun _ => rfl⟩

/-- A call is noted after those before it. -/
theorem prefix_logged {o : GuardCall} {reply : o.Reply} (h : tr <+: s.2)
    (hb : guardBehaviour.logged o s reply s') : tr <+: s'.2 := by
  rw [hb.2]
  exact h.trans (List.prefix_append _ _)

/-- A guard that is made is open and has seen its link since it was bound. -/
theorem safe_linkGuardNew (identity : LinkIdentity) (deadlineMsec : ℤ) (hasCancellable : Bool)
    (hs : tr <+: s.2) :
    Safe guardBehaviour.logged (fun _ _ => True)
      (linkGuardNew order identity deadlineMsec hasCancellable)
      (fun made s' => ∀ guard, made = some guard → guard = ⟨identity.guarded, true⟩ ∧
        identity.guarded.SeenSince order tr s') s := by
  have hnone : ∀ s' : LinkStream × List GuardEvent, ∀ guard : LinkGuard, none = some guard →
      guard = ⟨identity.guarded, true⟩ ∧ identity.guarded.SeenSince order tr s' :=
    fun _ guard h => absurd h.symm (Option.some_ne_none guard)
  unfold linkGuardNew
  split
  · exact hnone s
  have hcancelled : Safe guardBehaviour.logged (fun _ _ => True)
      (operationCancelled hasCancellable) (fun _ s' => tr <+: s'.2) s := by
    unfold operationCancelled
    split
    · exact safe_request.mpr ⟨trivial, fun _ _ hb => prefix_logged (o := .isCancelled) hs hb⟩
    · exact hs
  refine hcancelled.bind fun cancelled s₁ h₁ => ?_
  split
  · exact hnone s₁
  refine safe_bind.mpr (safe_request.mpr ⟨trivial, fun now s₂ hb₂ => ?_⟩)
  have h₂ := prefix_logged (o := .monotonicTime) h₁ hb₂
  split
  · exact hnone s₂
  refine safe_bind.mpr (safe_request.mpr ⟨trivial, fun made s₃ hb₃ => ?_⟩)
  have h₃ := prefix_logged (o := .socket) h₂ hb₃
  split
  swap
  · exact hnone s₃
  refine safe_bind.mpr (safe_request.mpr ⟨trivial, fun bound s₄ hb₄ => ?_⟩)
  have h₄ := prefix_logged (o := .bind) h₃ hb₄
  have hfresh : s₄.1 = ⟨[], 0, false, false⟩ := hb₄.1
  split
  swap
  · exact hnone s₄
  have hquiet : identity.guarded.QuietSince order tr s₄ := ⟨hfresh ▸ quiet_fresh, h₄⟩
  refine (safe_linkGuardCheck ⟨identity.guarded, true⟩ deadlineMsec hasCancellable
    fun _ => hquiet).bind fun checked s₅ h₅ guard hguard => ?_
  obtain ⟨hseen, -⟩ := h₅
  split at hguard
  · rename_i hok
    obtain rfl := Option.some.inj hguard
    obtain ⟨-, hsame, hseen⟩ := hseen hok
    exact ⟨hsame, hseen⟩
  · exact absurd hguard.symm (Option.some_ne_none guard)

/-! ## The life of a guard -/

/-- A guard that is open has a quiet subscription and no check that failed. -/
structure GuardHistory.Holds (order : ByteOrder) (identity : LinkIdentity)
    (checks : List (List GuardEvent × Bool)) (guard : LinkGuard) (u : LinkStream) : Prop where
  guards : guard.identity = identity.guarded
  quiet : guard.isOpen = true → identity.guarded.Quiet order u
  succeeded : guard.isOpen = true → ∀ check ∈ checks, check.2 = true
  continuous : ∀ check ∈ checks, check.2 = true → identity.guarded.Continuous order check.1
  closed : ∀ before check after, checks = before ++ check :: after → check.2 = false →
    guard.isOpen = false ∧ ∀ later ∈ after, later.2 = false

/-- By induction on the life of a guard. -/
theorem GuardHistory.holds {identity : LinkIdentity} {checks : List (List GuardEvent × Bool)}
    {guard : LinkGuard} (h : GuardHistory order identity checks guard u) :
    GuardHistory.Holds order identity checks guard u := by
  induction h with
  | @created deadlineMsec hasCancellable u u' guard tr hs =>
    have hnew : Safe guardBehaviour.logged _
        (linkGuardNew order identity deadlineMsec hasCancellable) _ (u, []) :=
      safe_linkGuardNew identity deadlineMsec hasCancellable List.prefix_rfl
    obtain ⟨rfl, hquiet, rest, htr, hseen⟩ := hnew.logged hs guard rfl
    obtain rfl : tr = rest := htr
    refine ⟨rfl, fun _ => hquiet, by simp, by simpa using hseen, ?_⟩
    intro before check after hchecks hfailed
    have hmem : check ∈ [(tr, true)] := by rw [hchecks]; simp
    obtain rfl := List.mem_singleton.mp hmem
    exact absurd hfailed.symm Bool.false_ne_true
  | @checked checks guard guard' u u' deadlineMsec hasCancellable ok tr hh hs ih =>
    obtain ⟨hguards, hquiet, hsucceeded, hcontinuous, hclosed⟩ := ih
    have hcheck : Safe guardBehaviour.logged _
        (linkGuardCheck order guard deadlineMsec hasCancellable) _ (u, []) :=
      safe_linkGuardCheck guard deadlineMsec hasCancellable
        fun hopen => ⟨hguards ▸ hquiet hopen, List.prefix_rfl⟩
    obtain ⟨hok, hfailed⟩ := hcheck.logged hs
    cases ok with
    | true =>
      obtain ⟨hopen, rfl, hseen⟩ := hok rfl
      rw [hguards] at hseen
      obtain ⟨hquiet', rest, htr, hseen⟩ := hseen
      obtain rfl : tr = rest := htr
      refine ⟨hguards, fun _ => hquiet', fun _ check hcheck => ?_, fun check hcheck htrue => ?_,
        fun before check after hchecks hfalse => ?_⟩
      · rcases List.mem_append.mp hcheck with hcheck | hcheck
        · exact hsucceeded hopen check hcheck
        · obtain rfl := List.mem_singleton.mp hcheck
          rfl
      · rcases List.mem_append.mp hcheck with hcheck | hcheck
        · exact hcontinuous check hcheck htrue
        · obtain rfl := List.mem_singleton.mp hcheck
          exact hseen
      · -- no check has failed yet, the last one included
        have hmem : check ∈ checks ++ [(tr, true)] := by rw [hchecks]; simp
        rcases List.mem_append.mp hmem with hmem | hmem
        · rw [hsucceeded hopen check hmem] at hfalse
          exact absurd hfalse.symm Bool.false_ne_true
        · obtain rfl := List.mem_singleton.mp hmem
          exact absurd hfalse.symm Bool.false_ne_true
    | false =>
      obtain rfl := hfailed rfl
      have hopen (h : false = true) : False := Bool.false_ne_true h
      refine ⟨hguards, fun h => (hopen h).elim, fun h => (hopen h).elim,
        fun check hcheck htrue => ?_, fun before check after hchecks hfalse => ⟨rfl, ?_⟩⟩
      · rcases List.mem_append.mp hcheck with hcheck | hcheck
        · exact hcontinuous check hcheck htrue
        · obtain rfl := List.mem_singleton.mp hcheck
          exact (hopen htrue).elim
      · intro later hlater
        rcases List.eq_nil_or_concat after with rfl | ⟨others, last, rfl⟩
        · exact absurd hlater List.not_mem_nil
        rw [List.concat_eq_append] at hlater
        rw [List.concat_eq_append, ← List.cons_append, ← List.append_assoc] at hchecks
        obtain ⟨hearlier, hlast⟩ := List.append_inj' hchecks rfl
        rcases List.mem_append.mp hlater with hlater | hlater
        · exact (hclosed before check others hearlier hfalse).2 later hlater
        · obtain rfl := List.mem_singleton.mp hlater
          rw [← (List.cons.inj hlast).1]

/-- A check that succeeds has seen the guarded link all the time: after its last look at the
subscription, which came after the dump, every event delivered since the guard was made that
concerns the link's index, name or alias was a new link identical in all three, and the dump shows
exactly one link that has any of the three, and it has all. After a check that fails no check
succeeds. -/
theorem linkGuard_continuity (order : ByteOrder) (identity : LinkIdentity)
    {before after : List (List GuardEvent × Bool)} {tr : List GuardEvent} {ok : Bool}
    {guard : LinkGuard} {u : LinkStream}
    (h : GuardHistory order identity (before ++ (tr, ok) :: after) guard u) :
    (ok = true → identity.guarded.Continuous order tr) ∧
      (ok = false → ∀ later ∈ after, later.2 = false) :=
  ⟨fun hok => h.holds.continuous (tr, ok) (by simp) hok,
    fun hok => (h.holds.closed before (tr, ok) after rfl hok).2⟩

theorem LinkStream.Later.refl (u : LinkStream) : u.Later u :=
  ⟨⟨[], (List.append_nil _).symm⟩, rfl, id, .inl⟩

/-- A kernel that shows one dump, and that by the next read has told these datagrams since the
subscription was bound. -/
def tellingKernel (told : List LinkDatagram) (snapshot : LinkSnapshot) :
    Environment guardBehaviour where
  answer o u :=
    match o with
    | .monotonicTime => (0, u)
    | .isCancelled => (false, u)
    | .socket => (true, u)
    | .bind => (true, ⟨[], 0, false, false⟩)
    | .recvmsg =>
      let v := { u with delivered := u.delivered ++ told.drop u.delivered.length }
      match v.delivered[v.read]? with
      | some datagram =>
        (.received (datagram.data.take linkDumpBufferSize)
          (decide (datagram.data.length > linkDumpBufferSize)) datagram.fromKernel,
          { v with read := v.read + 1 })
      | none => if v.overrun = false then (.again, v) else (.interrupted, v)
    | .readSnapshot _ => (some snapshot, u)
    | .close => ((), u)
  allowed o u := by
    cases o with
    | bind => rfl
    | recvmsg =>
      refine ⟨{ u with delivered := u.delivered ++ told.drop u.delivered.length },
        ⟨⟨_, rfl⟩, rfl, id, .inl⟩, ?_⟩
      dsimp only
      split
      · rename_i datagram hnext
        exact .received hnext fun hlong => decide_eq_true hlong
      · rename_i hnext
        split
        · exact .again (List.getElem?_eq_none_iff.mp hnext) ‹_›
        · exact .interrupted
    | monotonicTime | isCancelled | socket | readSnapshot _ | close => exact .refl u

/-- The link `a` of a session with a token of zeros. -/
def guardedIdentity : LinkIdentity := ⟨ascii "a", List.replicate 32 0x30, 7⟩

/-- The dump with that link only. -/
def sampleDump : LinkSnapshot := [sessionLink (some (linkAliasOf (List.replicate 32 0x30)))]

/-- The kernel tells of that link: that it is there, or that it goes away. -/
def guardedEvent (type : UInt8) : LinkDatagram :=
  ⟨linkEvent type 7 ([6, 0, 3, 0, 0x61, 0, 0, 0] ++ [52, 0, 20, 0] ++
    linkAliasOf (List.replicate 32 0x30) ++ [0]), true⟩

/-- The run that makes a guard of this link. -/
def sampleGuardRun : List GuardEvent × GuardM (Option LinkGuard) × LinkStream :=
  (tellingKernel [] sampleDump).run 40 (linkGuardNew .little guardedIdentity 1000 true)
    ⟨[], 0, false, false⟩

/-- A check of the guard after the kernel has told these datagrams. -/
def guardCheckRun (told : List LinkDatagram) (isOpen : Bool) (u : LinkStream) :
    List GuardEvent × GuardM (Bool × LinkGuard) × LinkStream :=
  (tellingKernel told sampleDump).run 40
    (linkGuardCheck .little ⟨guardedIdentity.guarded, isOpen⟩ 1000 true) u

theorem history_sampleGuardRun : GuardHistory .little guardedIdentity [(sampleGuardRun.1, true)]
    ⟨guardedIdentity.guarded, true⟩ sampleGuardRun.2.2 := by
  have hmade : sampleGuardRun.2.1.result = some (some ⟨guardedIdentity.guarded, true⟩) := rfl
  have hsteps := (tellingKernel [] sampleDump).steps 40
    (linkGuardNew .little guardedIdentity 1000 true) ⟨[], 0, false, false⟩
  exact .created (hsteps.returned hmade)

/-- A check that returns goes on with the guard's life. -/
theorem history_guardCheckRun (told : List LinkDatagram) {isOpen : Bool} {u : LinkStream}
    {checks : List (List GuardEvent × Bool)} {ok : Bool} {guard : LinkGuard}
    (hh : GuardHistory .little guardedIdentity checks ⟨guardedIdentity.guarded, isOpen⟩ u)
    (hresult : (guardCheckRun told isOpen u).2.1.result = some (ok, guard)) :
    GuardHistory .little guardedIdentity (checks ++ [((guardCheckRun told isOpen u).1, ok)]) guard
      (guardCheckRun told isOpen u).2.2 := by
  have hsteps := (tellingKernel told sampleDump).steps 40
    (linkGuardCheck .little ⟨guardedIdentity.guarded, isOpen⟩ 1000 true) u
  exact .checked hh (hsteps.returned hresult)

/-- The kernel tells that the link is there. -/
def presentCheck : List GuardEvent × GuardM (Bool × LinkGuard) × LinkStream :=
  guardCheckRun [guardedEvent 16] true sampleGuardRun.2.2

/-- Then it tells that the link goes away. -/
def removedCheck : List GuardEvent × GuardM (Bool × LinkGuard) × LinkStream :=
  guardCheckRun [guardedEvent 16, guardedEvent 17] true presentCheck.2.2

/-- And then nothing more, and the link is in the dump. -/
def laterCheck : List GuardEvent × GuardM (Bool × LinkGuard) × LinkStream :=
  guardCheckRun [guardedEvent 16, guardedEvent 17] false removedCheck.2.2

/-- The check after the first event succeeds and has seen the link all the time; the one after the
second fails, and so does the one after it. -/
theorem linkGuard_continuity_sample :
    guardedIdentity.guarded.Continuous .little presentCheck.1 ∧
      laterCheck.2.1.result.map Prod.fst = some false := by
  have hpresent : GuardHistory .little guardedIdentity
      [(sampleGuardRun.1, true), (presentCheck.1, true)] ⟨guardedIdentity.guarded, true⟩
      presentCheck.2.2 := history_guardCheckRun _ history_sampleGuardRun rfl
  have hremoved : GuardHistory .little guardedIdentity
      [(sampleGuardRun.1, true), (presentCheck.1, true), (removedCheck.1, false)]
      ⟨guardedIdentity.guarded, false⟩ removedCheck.2.2 := history_guardCheckRun _ hpresent rfl
  refine ⟨(@linkGuard_continuity .little guardedIdentity [(sampleGuardRun.1, true)] [] _ _ _ _
    hpresent).1 rfl, ?_⟩
  have hreturned : laterCheck.2.1.result.isSome := by decide +kernel
  obtain ⟨⟨ok, guard⟩, hresult⟩ := Option.isSome_iff_exists.mp hreturned
  have hlater := (@linkGuard_continuity .little guardedIdentity
    [(sampleGuardRun.1, true), (presentCheck.1, true)] [(laterCheck.1, ok)] _ _ _ _
    (history_guardCheckRun _ hremoved hresult)).2 rfl (laterCheck.1, ok) (by simp)
  rw [hresult]
  exact congrArg some hlater

end NmSidebar
