import NmSidebar.AmneziaWG.GuardContinuity
import NmSidebar.Helper.Resolved

/-!
# What a change of systemd-resolved's settings shows

A run of `resolved_change` is looked back on: which methods it called, what they were answered, and
what it saw of the bus and of the link right before and right after each call. Whatever the kernel,
the bus, the clock and the cancellable do, the outcome it reports is no better than what it saw.
-/

namespace NmSidebar

open Text Effects

/-! ## Runs -/

/-- Link events go on while a change runs. What is not about the guard's subscription is answered
in any way. -/
def resolvedBehaviour : Behaviour resolvedSig LinkStream := fun o u reply u' =>
  match o with
  | .guard o => guardBehaviour o u reply u'
  | _ => u.Later u'

/-- One event of a run of a change. -/
abbrev ResolvedEvent := Event resolvedSig LinkStream

/-- An event of the guard as one of the change. -/
def ofGuard (e : GuardEvent) : ResolvedEvent := ⟨.guard e.op, e.before, e.reply, e.after⟩

/-- A call of a method that changes the link, with its reply. -/
structure ChangeAttempt where
  destination : Bytes
  method : ResolvedMethod
  reply : BusReply Unit

/-- The attempt that an event is. -/
def attemptOf : ResolvedEvent → Option ChangeAttempt
  | ⟨.callMethod destination method _, _, reply, _⟩ => some ⟨destination, method, reply⟩
  | _ => none

/-- The attempts of a run. -/
def attempts (tr : List ResolvedEvent) : List ChangeAttempt := tr.filterMap attemptOf

/-- The owner that an event names. -/
def namedOwner : ResolvedEvent → Option Bytes
  | ⟨.getNameOwner _, _, .reply name, _⟩ => some name
  | _ => none

/-- The owner that the bus named first. -/
def ownerAtStart (tr : List ResolvedEvent) : Option Bytes := tr.findSome? namedOwner

/-- Every attempt of a run, with what is before and after it. -/
def EachAttempt (P : List ResolvedEvent → ChangeAttempt → List ResolvedEvent → Prop)
    (tr : List ResolvedEvent) : Prop :=
  ∀ pre e post a, tr = pre ++ e :: post → attemptOf e = some a → P pre a post

/-- The clock is read, or whether to stop. -/
def ResolvedCall.IsLook : ResolvedCall → Prop
  | monotonicMsec | isCancelled | terminationRequested => True
  | _ => False

/-- The call is not the guard's and changes nothing. -/
def ResolvedCall.IsAside : ResolvedCall → Prop
  | guard _ | callMethod .. => False
  | _ => True

/-- The call is made before the bus is asked for the owner. -/
def ResolvedCall.IsOpening : ResolvedCall → Prop
  | guard _ | callMethod .. | getNameOwner _ => False
  | _ => True

/-- The call changes nothing. -/
def ResolvedCall.IsHarmless : ResolvedCall → Prop
  | callMethod .. => False
  | _ => True

/-! ## Evidence -/

variable (order : ByteOrder) (identity : LinkIdentity)

/-- The bus named the owner, and then the guard vouched for the link: a look at both, with nothing
but looks at the clock and at whether to stop around it. -/
def TargetSeen (owner : Bytes) (tr : List ResolvedEvent) : Prop :=
  ∃ looks timeout u u' looks' guarded,
    tr = looks ++ ⟨.getNameOwner timeout, u, .reply owner, u'⟩ :: (looks' ++ guarded.map ofGuard) ∧
      (∀ e ∈ looks ++ looks', e.op.IsLook) ∧ identity.guarded.Continuous order guarded

/-- The target was seen right before. -/
def SeenBefore (owner : Bytes) (pre : List ResolvedEvent) : Prop :=
  ∃ earlier check looks, pre = earlier ++ check ++ looks ∧ TargetSeen order identity owner check ∧
    ∀ e ∈ looks, e.op.IsLook

/-- The target is seen right after. -/
def SeenAfter (owner : Bytes) (post : List ResolvedEvent) : Prop :=
  ∃ check later, post = check ++ later ∧ TargetSeen order identity owner check

/-- The method was acknowledged, or rejected for good. -/
def ChangeAttempt.Settled (a : ChangeAttempt) : Prop :=
  a.reply = .reply () ∨ ∃ remote, a.reply = .error (some remote) ∧ rejectsForGood remote = true

/-- The methods of an operation, in order. -/
def changeMethods (ifindex : UInt32) : Option DnsConfig → List ResolvedMethod
  | some dns => [.setLinkDns ifindex (linkServers dns), .setLinkDomains ifindex (linkDomains dns),
      .setLinkDefaultRoute ifindex true]
  | none => [.revertLink ifindex]

/-- Every attempt had its effect, or none, and on the right link: its answer tells which, and the
target was seen right after. -/
def EffectsKnown (tr : List ResolvedEvent) : Prop :=
  EachAttempt (fun _ a post => a.Settled ∧ SeenAfter order identity a.destination post) tr

/-- Every method of the operation was called once, in order, and acknowledged, and the target seen
right after. -/
def CarriedOut (dns : Option DnsConfig) (tr : List ResolvedEvent) : Prop :=
  (attempts tr).map ChangeAttempt.method = changeMethods identity.ifindex dns ∧
    EachAttempt (fun _ a post => a.reply = .reply () ∧ SeenAfter order identity a.destination post) tr

/-- The outcome of a change is borne out by its run. -/
structure OutcomeShown (dns : Option DnsConfig) (tr : List ResolvedEvent)
    (outcome : DnsChangeOutcome) : Prop where
  inOrder : (attempts tr).map ChangeAttempt.method <+: changeMethods identity.ifindex dns
  seenBefore : EachAttempt (fun pre a _ => ownerAtStart tr = some a.destination ∧
    SeenBefore order identity a.destination pre) tr
  ok : outcome.result = .ok → CarriedOut order identity dns tr
  failed : outcome.result = .failed → EffectsKnown order identity tr
  unavailable : outcome.result = .unavailable → attempts tr = []
  mayHaveChanged : outcome.mayHaveChanged = true ↔ attempts tr ≠ []

/-! ## Attempts at their places -/

variable {order identity} {owner : Bytes} {tr tr' : List ResolvedEvent}

@[simp] theorem attempts_append : attempts (tr ++ tr') = attempts tr ++ attempts tr' :=
  List.filterMap_append

theorem attemptOf_harmless {e : ResolvedEvent} (h : e.op.IsHarmless) : attemptOf e = none := by
  obtain ⟨o, u, reply, u'⟩ := e
  cases o with
  | callMethod => exact h.elim
  | _ => rfl

/-- Calls that change nothing are no attempts. -/
theorem attempts_harmless (h : ∀ e ∈ tr, e.op.IsHarmless) : attempts tr = [] :=
  List.filterMap_eq_nil_iff.mpr fun e he => attemptOf_harmless (h e he)

theorem eachAttempt_nil {P : List ResolvedEvent → ChangeAttempt → List ResolvedEvent → Prop}
    (h : attempts tr = []) : EachAttempt P tr := by
  rintro pre e post a rfl ha
  have hnone := List.filterMap_eq_nil_iff.mp h e (by simp)
  rw [ha] at hnone
  exact absurd hnone (Option.some_ne_none a)

/-- What holds of each attempt of two runs holds of each of the whole, if more before and after
does not matter. -/
theorem EachAttempt.append {P : List ResolvedEvent → ChangeAttempt → List ResolvedEvent → Prop}
    (hbefore : ∀ more pre a post, P pre a post → P (more ++ pre) a post)
    (hafter : ∀ more pre a post, P pre a post → P pre a (post ++ more))
    (h : EachAttempt P tr) (h' : EachAttempt P tr') : EachAttempt P (tr ++ tr') := by
  intro pre e post a heq ha
  rcases List.append_eq_append_iff.mp heq with ⟨mid, rfl, hright⟩ | ⟨mid, hleft, hright⟩
  · exact hbefore _ _ _ _ (h' mid e post a hright ha)
  · cases mid with
    | nil =>
      obtain rfl : tr' = e :: post := by simpa using hright.symm
      rw [List.append_nil] at hleft
      rw [← hleft, ← List.append_nil tr]
      exact hbefore _ _ _ _ (h' [] e post a rfl ha)
    | cons e' mid =>
      obtain ⟨rfl, rfl⟩ := List.cons.inj hright
      exact hafter _ _ _ _ (h pre e mid a hleft ha)

theorem EachAttempt.mono
    {P Q : List ResolvedEvent → ChangeAttempt → List ResolvedEvent → Prop}
    (h : EachAttempt P tr) (hPQ : ∀ pre a post, P pre a post → Q pre a post) : EachAttempt Q tr :=
  fun pre e post a heq ha => hPQ pre a post (h pre e post a heq ha)

theorem SeenBefore.more {pre : List ResolvedEvent} (h : SeenBefore order identity owner pre)
    (more : List ResolvedEvent) : SeenBefore order identity owner (more ++ pre) := by
  obtain ⟨earlier, check, looks, rfl, hseen, hlooks⟩ := h
  refine ⟨more ++ earlier, check, looks, ?_, hseen, hlooks⟩
  simp only [List.append_assoc]

theorem SeenAfter.more {post : List ResolvedEvent} (h : SeenAfter order identity owner post)
    (more : List ResolvedEvent) : SeenAfter order identity owner (post ++ more) := by
  obtain ⟨check, later, rfl, hseen⟩ := h
  exact ⟨check, later ++ more, List.append_assoc _ _ _, hseen⟩

/-! ## Runs of the parts -/

theorem LinkStream.Later.trans {u u' u'' : LinkStream} (h : u.Later u') (h' : u'.Later u'') :
    u.Later u'' := by
  obtain ⟨⟨more, hmore⟩, hread, hoverrun, hlost⟩ := h
  obtain ⟨⟨more', hmore'⟩, hread', hoverrun', hlost'⟩ := h'
  refine ⟨⟨more ++ more', ?_⟩, hread'.trans hread, fun ho => hoverrun' (hoverrun ho), fun hl => ?_⟩
  · rw [hmore', hmore, List.append_assoc]
  · rcases hlost' hl with hl | ho
    · exact (hlost hl).imp id hoverrun'
    · exact .inr ho

variable {α : Type} {u u' : LinkStream} {isUniqueName : Bytes → Bool}

/-- Calls aside are no attempts, and the subscription only goes on. -/
theorem steps_aside {p q : ResolvedM α} (hp : p.Uses ResolvedCall.IsAside)
    (hs : Steps resolvedBehaviour p u tr q u') : u.Later u' ∧ attempts tr = [] := by
  induction hs with
  | here => exact ⟨.refl _, rfl⟩
  | @step o k w w₁ w' r tr q hb hs ih =>
    obtain ⟨hlater, hnone⟩ := ih (hp.2 r)
    have hfirst : w.Later w₁ ∧ attemptOf ⟨o, w, r, w₁⟩ = none := by
      cases o with
      | guard | callMethod => exact hp.1.elim
      | _ => exact ⟨hb, rfl⟩
    exact ⟨hfirst.1.trans hlater, by rw [attempts, List.filterMap_cons_none hfirst.2]; exact hnone⟩

/-- What the guard does in a change is one of its own runs. -/
theorem steps_onGuard {p : GuardM α} {a : α}
    (hs : Steps resolvedBehaviour (onGuard p) u tr (.pure a) u') :
    ∃ guarded, tr = guarded.map ofGuard ∧ Steps guardBehaviour p u guarded (.pure a) u' := by
  obtain ⟨guarded, rfl, hs'⟩ := Steps.of_interpret (C := guardBehaviour)
    (fun e => [ofGuard e]) (fun o w tr r w' hs => hs.of_request) hs
  exact ⟨guarded, by rw [List.map_eq_flatMap], hs'⟩

theorem attempts_guard (guarded : List GuardEvent) : attempts (guarded.map ofGuard) = [] := by
  apply attempts_harmless
  intro e he
  obtain ⟨e', -, rfl⟩ := List.mem_map.mp he
  trivial

theorem isLook_aside {o : ResolvedCall} (h : o.IsLook) : o.IsAside := by
  cases o with
  | monotonicMsec | isCancelled | terminationRequested => trivial
  | _ => exact h.elim

theorem uses_changeIsStopped : changeIsStopped.Uses ResolvedCall.IsLook := by
  refine ⟨trivial, fun cancelled => ?_⟩
  cases cancelled with
  | true => trivial
  | false => exact ⟨trivial, fun _ => trivial⟩

theorem uses_stopped_aside : changeIsStopped.Uses ResolvedCall.IsAside :=
  uses_changeIsStopped.mono fun _ => isLook_aside

/-- A run of a program that only looks. -/
theorem steps_look {p q : ResolvedM α} (hp : p.Uses ResolvedCall.IsLook)
    (hs : Steps resolvedBehaviour p u tr q u') :
    u.Later u' ∧ (∀ e ∈ tr, e.op.IsLook) ∧ attempts tr = [] := by
  obtain ⟨hlater, hnone⟩ := steps_aside (hp.mono fun _ => isLook_aside) hs
  exact ⟨hlater, hp.issued hs, hnone⟩

theorem uses_resolvedOwner (deadline : ℤ) :
    (resolvedOwner isUniqueName deadline).Uses ResolvedCall.IsAside := by
  unfold resolvedOwner
  apply Prog.Uses.bind ((Prog.uses_request _).mpr trivial)
  intro now
  dsimp only
  split
  · trivial
  apply uses_stopped_aside.bind
  intro stopped
  split
  · trivial
  apply Prog.Uses.bind ((Prog.uses_request _).mpr trivial)
  intro reply
  apply uses_stopped_aside.bind
  intro stopped
  split <;> trivial

/-- What a run of `resolved_owner` that found an owner consists of. -/
def OwnerSeen (owner : Bytes) (tr : List ResolvedEvent) : Prop :=
  ∃ looks timeout v v' looks',
    tr = looks ++ ⟨.getNameOwner timeout, v, .reply owner, v'⟩ :: looks' ∧
      ∀ e ∈ looks ++ looks', e.op.IsLook

/-- An owner is found in a reply only. -/
theorem ownerOfReply_yes {reply : BusReply Bytes} (h : (ownerOfReply isUniqueName reply).1 = .yes) :
    ∃ owner, reply = .reply owner ∧ (ownerOfReply isUniqueName reply).2 = some owner := by
  unfold ownerOfReply at h ⊢
  cases reply with
  | reply name =>
    dsimp only at h ⊢
    split at h
    · exact ⟨name, rfl, by rw [if_pos ‹_›]⟩
    · cases h
  | error remote =>
    dsimp only at h
    split at h <;> cases h

theorem steps_resolvedOwner {deadline : ℤ} {found : ResolvedOwner × Option Bytes}
    (hs : Steps resolvedBehaviour (resolvedOwner isUniqueName deadline) u tr (.pure found) u')
    (hyes : found.1 = .yes) : ∃ owner, found.2 = some owner ∧ OwnerSeen owner tr := by
  unfold resolvedOwner at hs
  obtain ⟨now, u₁, tr₁, rfl, -, hs⟩ := hs.request_inv
  dsimp only at hs
  generalize deadlineRemainingMsec now deadline resolvedCallTimeoutMsec = timeout at hs
  split at hs
  · obtain ⟨-, rfl, -⟩ := hs.of_return
    cases hyes
  obtain ⟨stopped, u₂, tr₁, tr₂, rfl, hstopped, hs⟩ := hs.bind_inv
  have hlooks := uses_changeIsStopped.issued hstopped
  split at hs
  · obtain ⟨-, rfl, -⟩ := hs.of_return
    cases hyes
  obtain ⟨reply, u₃, tr₂, rfl, -, hs⟩ := hs.request_inv
  obtain ⟨stopped', u₄, tr₂, tr₃, rfl, hstopped', hs⟩ := hs.bind_inv
  have hlooks' := uses_changeIsStopped.issued hstopped'
  split at hs
  · obtain ⟨-, rfl, -⟩ := hs.of_return
    cases hyes
  obtain ⟨rfl, rfl, -⟩ := hs.of_return
  obtain ⟨owner, rfl, howner⟩ := ownerOfReply_yes hyes
  refine ⟨owner, howner, ⟨.monotonicMsec, u, now, u₁⟩ :: tr₁, timeout, u₂, u₃, tr₂, by simp, ?_⟩
  intro e he
  rcases List.mem_append.mp he with he | he
  · rcases List.mem_cons.mp he with rfl | he
    · trivial
    · exact hlooks e he
  · exact hlooks' e he

/-! ## Looks at the target -/

/-- The guard is the link's, and while it is open its subscription is quiet. -/
structure LinkGuard.Watches (order : ByteOrder) (identity : LinkIdentity) (guard : LinkGuard)
    (u : LinkStream) : Prop where
  guards : guard.identity = identity.guarded
  quiet : guard.isOpen = true → identity.guarded.Quiet order u

theorem LinkGuard.Watches.later {guard : LinkGuard} (h : guard.Watches order identity u)
    (hlater : u.Later u') : guard.Watches order identity u' :=
  ⟨h.guards, fun hopen => (h.quiet hopen).later hlater⟩

/-- A guard goes on watching when it is checked, and a check that succeeds has seen the link. -/
theorem steps_linkGuardCheck {guard : LinkGuard} {deadline : ℤ} {hasCancellable : Bool}
    {guarded : List GuardEvent} {checked : Bool × LinkGuard} (h : guard.Watches order identity u)
    (hs : Steps guardBehaviour (linkGuardCheck order guard deadline hasCancellable) u guarded
      (.pure checked) u') :
    checked.2.Watches order identity u' ∧
      (checked.1 = true → identity.guarded.Continuous order guarded) := by
  have hcheck : Safe guardBehaviour.logged _
      (linkGuardCheck order guard deadline hasCancellable) _ (u, []) :=
    safe_linkGuardCheck guard deadline hasCancellable
      fun hopen => ⟨h.guards ▸ h.quiet hopen, List.prefix_rfl⟩
  obtain ⟨hok, hfailed⟩ := hcheck.logged hs
  cases hchecked : checked.1 with
  | true =>
    obtain ⟨-, hsame, hquiet, rest, htr, hseen⟩ := hok hchecked
    obtain rfl : guarded = rest := htr
    rw [h.guards] at hquiet hseen
    exact ⟨hsame ▸ ⟨h.guards, fun _ => hquiet⟩, fun _ => hseen⟩
  | false =>
    rw [hfailed hchecked]
    exact ⟨⟨h.guards, fun hopen => absurd hopen Bool.false_ne_true⟩,
      fun h => absurd h Bool.false_ne_true⟩

/-- A guard that was made watches. -/
theorem steps_linkGuardNew {deadline : ℤ} {hasCancellable : Bool} {guarded : List GuardEvent}
    {guard : LinkGuard}
    (hs : Steps guardBehaviour (linkGuardNew order identity deadline hasCancellable) u guarded
      (.pure (some guard)) u') : guard.Watches order identity u' := by
  have hnew : Safe guardBehaviour.logged _
      (linkGuardNew order identity deadline hasCancellable) _ (u, []) :=
    safe_linkGuardNew identity deadline hasCancellable List.prefix_rfl
  obtain ⟨rfl, hquiet, -⟩ := hnew.logged hs guard rfl
  exact ⟨rfl, fun _ => hquiet⟩

/-- What a look at the target leaves. -/
structure Checked (order : ByteOrder) (identity : LinkIdentity) (operation : ResolvedOperation)
    (tr : List ResolvedEvent) (checked : Bool × ResolvedOperation) (u' : LinkStream) : Prop where
  same : checked.2 = { operation with guard := checked.2.guard }
  watches : checked.2.guard.Watches order identity u'
  attempts : attempts tr = []
  seen : checked.1 = true → TargetSeen order identity operation.owner tr

variable {operation : ResolvedOperation}

theorem steps_resolvedTargetIsValid {checked : Bool × ResolvedOperation}
    (h : operation.guard.Watches order identity u)
    (hs : Steps resolvedBehaviour (resolvedTargetIsValid isUniqueName order operation) u tr
      (.pure checked) u') : Checked order identity operation tr checked u' := by
  unfold resolvedTargetIsValid at hs
  obtain ⟨found, u₁, tr₁, tr₂, rfl, hfound, hs⟩ := hs.bind_inv
  obtain ⟨hlater, hnone⟩ := steps_aside (uses_resolvedOwner _) hfound
  obtain ⟨guard, u₂, tr₂, tr₃, rfl, hguard, hend⟩ := hs.bind_inv
  obtain ⟨guarded, rfl, hguarded⟩ := steps_onGuard hguard
  obtain ⟨hwatches, hseen⟩ := steps_linkGuardCheck (h.later hlater) hguarded
  obtain ⟨rfl, rfl, rfl⟩ := hend.of_return
  refine ⟨rfl, hwatches, by simp [hnone, attempts_guard], fun hok => ?_⟩
  obtain ⟨hyes, howner, hvalid⟩ := of_decide_eq_true hok
  obtain ⟨owner, howner', looks, timeout, v, v', looks', rfl, hlooks⟩ :=
    steps_resolvedOwner hfound hyes
  obtain rfl : owner = operation.owner := Option.some.inj (howner'.symm.trans howner)
  exact ⟨looks, timeout, v, v', looks', guarded, by simp, hlooks, hseen hvalid⟩

/-! ## Calls -/

/-- What a run of some methods shows, one after the other until one of them is not acknowledged. -/
structure CallsShown (order : ByteOrder) (identity : LinkIdentity) (operation : ResolvedOperation)
    (methods : List ResolvedMethod) (tr : List ResolvedEvent)
    (called : DnsChangeResult × ResolvedOperation) (u' : LinkStream) : Prop where
  watches : called.2.guard.Watches order identity u'
  owner : called.2.owner = operation.owner
  inOrder : (attempts tr).map ChangeAttempt.method <+: methods
  seenBefore : EachAttempt (fun pre a _ => a.destination = operation.owner ∧
    SeenBefore order identity a.destination pre) tr
  settled : called.1 ≠ .uncertain →
    EachAttempt (fun _ a post => a.Settled ∧ SeenAfter order identity a.destination post) tr
  acknowledged : called.1 = .ok → (attempts tr).map ChangeAttempt.method = methods ∧
    ∀ a ∈ attempts tr, a.reply = .reply ()
  mayHaveChanged : called.2.mayHaveChanged = true ↔
    operation.mayHaveChanged = true ∨ attempts tr ≠ []
  available : called.1 ≠ .unavailable

/-- A call that was not made. -/
theorem CallsShown.withheld {method : ResolvedMethod} {result : DnsChangeResult}
    {after : ResolvedOperation} (hwatches : after.guard.Watches order identity u')
    (hsame : after = { operation with guard := after.guard }) (hnone : attempts tr = [])
    (hresult : result = .uncertain ∨ result = .failed) :
    CallsShown order identity operation [method] tr (result, after) u' := by
  have howner : after.owner = operation.owner := by rw [hsame]
  have hmay : after.mayHaveChanged = operation.mayHaveChanged := by rw [hsame]
  refine ⟨hwatches, howner, by simp [hnone], eachAttempt_nil hnone, fun _ => eachAttempt_nil hnone,
    fun hok => ?_, by simp [hnone, hmay], ?_⟩
  · rcases hresult with rfl | rfl <;> cases hok
  · rintro rfl
    rcases hresult with hresult | hresult <;> cases hresult

/-- A reply that says the effect is one of a settled attempt, and one that says success an
acknowledgement. -/
theorem resultOfReply_settled {reply : BusReply Unit} (destination : Bytes)
    (method : ResolvedMethod) :
    (resultOfReply reply ≠ .uncertain → (ChangeAttempt.mk destination method reply).Settled) ∧
      (resultOfReply reply = .ok → reply = .reply ()) ∧ resultOfReply reply ≠ .unavailable := by
  cases reply with
  | reply value =>
    cases value
    exact ⟨fun _ => .inl rfl, fun _ => rfl, by decide⟩
  | error remote =>
    cases remote with
    | none => exact ⟨fun h => absurd rfl h, fun h => absurd h (by decide), by decide⟩
    | some remote =>
      have hresult : resultOfReply (.error (some remote)) =
          if rejectsForGood remote then .failed else .uncertain := rfl
      rw [hresult]
      split
      · exact ⟨fun _ => .inr ⟨remote, rfl, ‹_›⟩, fun h => absurd h (by decide), by decide⟩
      · exact ⟨fun h => absurd rfl h, fun h => absurd h (by decide), by decide⟩

/-- The attempt of a run that makes just one. -/
theorem eachAttempt_one
    {P : List ResolvedEvent → ChangeAttempt → List ResolvedEvent → Prop}
    {pre post : List ResolvedEvent} {e : ResolvedEvent} {a : ChangeAttempt}
    (hpre : attempts pre = []) (hpost : attempts post = []) (he : attemptOf e = some a)
    (h : P pre a post) : EachAttempt P (pre ++ e :: post) := by
  intro pre' e' post' a' heq ha
  rcases List.append_eq_append_iff.mp heq with ⟨mid, rfl, hright⟩ | ⟨mid, rfl, hright⟩
  · cases mid with
    | nil =>
      obtain ⟨rfl, rfl⟩ := List.cons.inj hright
      rw [List.append_nil]
      rwa [← Option.some.inj (he.symm.trans ha)]
    | cons e'' mid =>
      obtain ⟨rfl, rfl⟩ := List.cons.inj hright
      have hnone := List.filterMap_eq_nil_iff.mp hpost e' (by simp)
      exact absurd (ha.symm.trans hnone) (Option.some_ne_none _)
  · cases mid with
    | nil =>
      obtain ⟨rfl, rfl⟩ := List.cons.inj hright
      rw [List.append_nil] at h
      rwa [← Option.some.inj (he.symm.trans ha)]
    | cons e'' mid =>
      obtain ⟨rfl, rfl⟩ := List.cons.inj hright
      have hnone := List.filterMap_eq_nil_iff.mp hpre e' (by simp)
      exact absurd (ha.symm.trans hnone) (Option.some_ne_none _)

/-- A call that was made right after a look at the target. -/
theorem steps_resolvedCallMade {method : ResolvedMethod} {timeout : ℤ} {pre : List ResolvedEvent}
    {called : DnsChangeResult × ResolvedOperation}
    (h : operation.guard.Watches order identity u) (hpre : attempts pre = [])
    (hseen : SeenBefore order identity operation.owner pre)
    (hs : Steps resolvedBehaviour
      (resolvedCallMade isUniqueName order operation method timeout) u tr (.pure called) u') :
    CallsShown order identity operation [method] (pre ++ tr) called u' := by
  unfold resolvedCallMade at hs
  obtain ⟨reply, u₁, tr, rfl, hlater, hs⟩ := hs.request_inv
  obtain ⟨checked, u₂, tr₁, tr₂, rfl, hchecked, hs⟩ := hs.bind_inv
  have hcheck := steps_resolvedTargetIsValid (by exact h.later hlater) hchecked
  have howner : checked.2.owner = operation.owner := by rw [hcheck.same]
  have hmay : checked.2.mayHaveChanged = true := by rw [hcheck.same]
  -- what is told of the call does not depend on how the function goes on
  have hshown : ∀ {result : DnsChangeResult} {rest : List ResolvedEvent} {u'' : LinkStream},
      u₂.Later u'' → attempts rest = [] →
      (result ≠ .uncertain → checked.1 = true ∧ result = resultOfReply reply) →
      CallsShown order identity operation [method]
        (pre ++ ⟨.callMethod operation.owner method timeout, u, reply, u₁⟩ :: (tr₁ ++ rest))
        (result, checked.2) u'' := by
    intro result rest u'' hlater' hrest hresult
    obtain ⟨hsettled, hok, havailable⟩ :=
      @resultOfReply_settled reply operation.owner method
    have hpost : attempts (tr₁ ++ rest) = [] := by simp [hcheck.attempts, hrest]
    have hone : attempts (pre ++ ⟨.callMethod operation.owner method timeout, u, reply, u₁⟩ ::
        (tr₁ ++ rest)) = [⟨operation.owner, method, reply⟩] := by
      rw [attempts_append, hpre, List.nil_append, attempts, List.filterMap_cons_some (f := attemptOf) rfl]
      exact congrArg _ hpost
    refine ⟨hcheck.watches.later hlater', howner, by simp [hone], ?_, fun hcertain => ?_,
      fun hdone => ?_, by simp [hone, hmay], ?_⟩
    · exact eachAttempt_one hpre hpost rfl ⟨rfl, hseen⟩
    · obtain ⟨hvalid, rfl⟩ := hresult hcertain
      exact eachAttempt_one hpre hpost rfl
        ⟨hsettled hcertain, tr₁, rest, rfl, hcheck.seen hvalid⟩
    · have hdone : result = .ok := hdone
      obtain ⟨-, rfl⟩ := hresult (by rw [hdone]; decide)
      rw [hone]
      exact ⟨rfl, fun a ha => by rw [List.mem_singleton.mp ha]; exact hok hdone⟩
    · intro hunavailable
      have hunavailable : result = .unavailable := hunavailable
      obtain ⟨-, rfl⟩ := hresult (by rw [hunavailable]; decide)
      exact havailable hunavailable
  split at hs
  · obtain ⟨rfl, rfl, rfl⟩ := hs.of_return
    exact hshown (.refl _) rfl fun h => absurd rfl h
  rename_i hvalid
  obtain ⟨stopped, u₃, tr₂, tr₃, rfl, hstopped, hs⟩ := hs.bind_inv
  obtain ⟨hlater', hlooks, hnone⟩ := steps_look uses_changeIsStopped hstopped
  split at hs
  · obtain ⟨rfl, rfl, rfl⟩ := hs.of_return
    rw [List.append_nil]
    exact hshown hlater' hnone fun h => absurd rfl h
  · obtain ⟨rfl, rfl, rfl⟩ := hs.of_return
    rw [List.append_nil]
    exact hshown hlater' hnone fun _ => ⟨by simpa using hvalid, rfl⟩

theorem steps_resolvedCall {method : ResolvedMethod}
    {called : DnsChangeResult × ResolvedOperation}
    (h : operation.guard.Watches order identity u)
    (hs : Steps resolvedBehaviour (resolvedCall isUniqueName order operation method) u tr
      (.pure called) u') :
    CallsShown order identity operation [method] tr called u' := by
  unfold resolvedCall at hs
  obtain ⟨checked, u₁, tr₁, tr₂, rfl, hchecked, hs⟩ := hs.bind_inv
  have hcheck := steps_resolvedTargetIsValid h hchecked
  have howner : checked.2.owner = operation.owner := by rw [hcheck.same]
  dsimp only at hs
  split at hs
  · obtain ⟨rfl, rfl, rfl⟩ := hs.of_return
    exact .withheld hcheck.watches hcheck.same (by simp [hcheck.attempts]) (.inl rfl)
  rename_i hvalid
  obtain ⟨stopped, u₂, tr₂, tr₃, rfl, hstopped, hs⟩ := hs.bind_inv
  obtain ⟨hlater₂, hlooks, hnone⟩ := steps_look uses_changeIsStopped hstopped
  split at hs
  · obtain ⟨rfl, rfl, rfl⟩ := hs.of_return
    refine .withheld (hcheck.watches.later hlater₂) hcheck.same
      (by simp [hcheck.attempts, hnone]) ?_
    split
    · exact .inl rfl
    · exact .inr rfl
  obtain ⟨now, u₃, tr₃, rfl, hlater₃, hs⟩ := hs.request_inv
  have hwatches := (hcheck.watches.later hlater₂).later hlater₃
  have hpre : attempts (tr₁ ++ tr₂ ++ [⟨.monotonicMsec, u₂, now, u₃⟩]) = [] := by
    simp [hcheck.attempts, hnone]
    rfl
  split at hs
  · obtain ⟨rfl, rfl, rfl⟩ := hs.of_return
    refine .withheld hwatches hcheck.same ?_ (.inr rfl)
    rw [← List.append_assoc]
    exact hpre
  · have hseen : SeenBefore order identity checked.2.owner
        (tr₁ ++ tr₂ ++ [⟨.monotonicMsec, u₂, now, u₃⟩]) := by
      refine ⟨[], tr₁, tr₂ ++ [⟨.monotonicMsec, u₂, now, u₃⟩], by simp, ?_, fun e he => ?_⟩
      · exact howner ▸ hcheck.seen (by simpa using hvalid)
      · rcases List.mem_append.mp he with he | he
        · exact hlooks e he
        · rw [List.mem_singleton.mp he]
          trivial
    have hmade := steps_resolvedCallMade hwatches hpre hseen hs
    have htr : tr₁ ++ (tr₂ ++ ⟨.monotonicMsec, u₂, now, u₃⟩ :: tr₃) =
        tr₁ ++ tr₂ ++ [⟨.monotonicMsec, u₂, now, u₃⟩] ++ tr₃ := by simp
    rw [htr]
    have hmay : checked.2.mayHaveChanged = operation.mayHaveChanged := by rw [hcheck.same]
    exact ⟨hmade.watches, hmade.owner.trans howner, hmade.inOrder, howner ▸ hmade.seenBefore,
      hmade.settled, hmade.acknowledged, hmay ▸ hmade.mayHaveChanged, hmade.available⟩

/-- One method after another. -/
theorem CallsShown.andThen {method : ResolvedMethod} {methods : List ResolvedMethod}
    {called called' : DnsChangeResult × ResolvedOperation} {u'' : LinkStream}
    (h : CallsShown order identity operation [method] tr called u') (hok : called.1 = .ok)
    (h' : CallsShown order identity called.2 methods tr' called' u'') :
    CallsShown order identity operation (method :: methods) (tr ++ tr') called' u'' := by
  obtain ⟨hmethod, hacknowledged⟩ := h.acknowledged hok
  have hsome : attempts tr ≠ [] := by
    intro hnone
    rw [hnone] at hmethod
    exact absurd hmethod.symm (List.cons_ne_nil _ _)
  refine ⟨h'.watches, h'.owner.trans h.owner, ?_, ?_, fun hcertain => ?_, fun hdone => ?_, ?_,
    h'.available⟩
  · rw [attempts_append, List.map_append, hmethod]
    exact (List.prefix_append_right_inj [method]).mpr h'.inOrder
  · refine .append (fun more pre a post hseen => ⟨hseen.1, hseen.2.more more⟩)
      (fun more pre a post hseen => hseen) h.seenBefore ?_
    exact h'.seenBefore.mono fun pre a post hseen => ⟨hseen.1.trans h.owner, hseen.2⟩
  · refine .append (fun more pre a post hseen => hseen)
      (fun more pre a post hseen => ⟨hseen.1, hseen.2.more more⟩) ?_ (h'.settled hcertain)
    exact h.settled (by rw [hok]; decide)
  · obtain ⟨hmethods, hacknowledged'⟩ := h'.acknowledged hdone
    rw [attempts_append]
    refine ⟨by rw [List.map_append, hmethod, hmethods]; rfl, fun a ha => ?_⟩
    exact (List.mem_append.mp ha).elim (hacknowledged a) (hacknowledged' a)
  · have hchanged : called.2.mayHaveChanged = true := h.mayHaveChanged.mpr (.inr hsome)
    rw [h'.mayHaveChanged, attempts_append]
    exact ⟨fun _ => .inr fun hnone => hsome (List.append_eq_nil_iff.mp hnone).1,
      fun _ => .inl hchanged⟩

/-- A method that is not acknowledged is the last one. -/
theorem CallsShown.last {method : ResolvedMethod} {methods : List ResolvedMethod}
    {called : DnsChangeResult × ResolvedOperation}
    (h : CallsShown order identity operation [method] tr called u') (hok : called.1 ≠ .ok) :
    CallsShown order identity operation (method :: methods) tr called u' :=
  ⟨h.watches, h.owner, h.inOrder.trans (List.prefix_append [method] methods), h.seenBefore,
    h.settled, fun hdone => absurd hdone hok, h.mayHaveChanged, h.available⟩

/-- The methods of an operation show what they do. -/
theorem steps_changeLink {dns : Option DnsConfig} {called : DnsChangeResult × ResolvedOperation}
    (h : operation.guard.Watches order identity u)
    (hs : Steps resolvedBehaviour (changeLink isUniqueName order operation identity.ifindex dns) u
      tr (.pure called) u') :
    CallsShown order identity operation (changeMethods identity.ifindex dns) tr called u' := by
  cases dns with
  | none => exact steps_resolvedCall h hs
  | some dns =>
    unfold changeLink resolvedApplyConnection at hs
    obtain ⟨servers, u₁, tr₁, tr₂, rfl, hservers, hs⟩ := hs.bind_inv
    have hservers := steps_resolvedCall h hservers
    split at hs
    · obtain ⟨rfl, rfl, rfl⟩ := hs.of_return
      rw [List.append_nil]
      exact hservers.last ‹_›
    rename_i hok
    refine hservers.andThen (not_not.mp hok) ?_
    obtain ⟨domains, u₂, tr₂, tr₃, rfl, hdomains, hs⟩ := hs.bind_inv
    have hdomains := steps_resolvedCall hservers.watches hdomains
    split at hs
    · obtain ⟨rfl, rfl, rfl⟩ := hs.of_return
      rw [List.append_nil]
      exact hdomains.last ‹_›
    rename_i hok'
    refine hdomains.andThen (not_not.mp hok') ?_
    exact steps_resolvedCall hdomains.watches hs

/-! ## Changes -/

theorem isOpening_aside {o : ResolvedCall} (h : o.IsOpening) : o.IsAside := by
  cases o with
  | guard | callMethod | getNameOwner => exact h.elim
  | _ => trivial

theorem uses_opening_stopped : changeIsStopped.Uses ResolvedCall.IsOpening := by
  refine uses_changeIsStopped.mono fun o ho => ?_
  cases o with
  | monotonicMsec | isCancelled | terminationRequested => trivial
  | _ => exact ho.elim

theorem uses_changeDeadline (deadline : ℤ) :
    (changeDeadline deadline).Uses ResolvedCall.IsOpening := by
  unfold changeDeadline
  apply Prog.Uses.bind ((Prog.uses_request _).mpr trivial)
  intro now
  split <;> trivial

theorem uses_deadlineCancellationInit (deadline : ℤ) :
    (deadlineCancellationInit deadline).Uses ResolvedCall.IsOpening := by
  unfold deadlineCancellationInit
  apply Prog.Uses.bind ((Prog.uses_request _).mpr trivial)
  intro now
  split
  · trivial
  apply Prog.Uses.bind ((Prog.uses_request _).mpr trivial)
  intro requested
  split
  · trivial
  · exact (Prog.uses_request _).mpr trivial

theorem uses_deadlineCancellationClear (started : Bool) :
    (deadlineCancellationClear started).Uses ResolvedCall.IsOpening := by
  unfold deadlineCancellationClear
  split
  · exact ((Prog.uses_request _).mpr trivial).bind fun _ => (Prog.uses_request _).mpr trivial
  · exact (Prog.uses_request _).mpr trivial

theorem uses_openSystemBus (deadline : ℤ) :
    (openSystemBus deadline).Uses ResolvedCall.IsOpening := by
  unfold openSystemBus
  apply Prog.Uses.bind ((Prog.uses_request _).mpr trivial)
  intro status
  split
  · trivial
  apply Prog.Uses.bind ((Prog.uses_request _).mpr trivial)
  intro now
  split
  · trivial
  apply uses_opening_stopped.bind
  intro stopped
  split
  · trivial
  · exact (Prog.uses_request _).mpr trivial

/-- Before the bus is asked for the owner, nothing is attempted and no owner is named. -/
theorem steps_opening {p q : ResolvedM α} (hp : p.Uses ResolvedCall.IsOpening)
    (hs : Steps resolvedBehaviour p u tr q u') :
    u.Later u' ∧ attempts tr = [] ∧ ownerAtStart tr = none := by
  obtain ⟨hlater, hnone⟩ := steps_aside (hp.mono fun _ => isOpening_aside) hs
  refine ⟨hlater, hnone, List.findSome?_eq_none_iff.mpr fun e he => ?_⟩
  have hopening := hp.issued hs e he
  obtain ⟨o, v, reply, v'⟩ := e
  cases o with
  | guard | callMethod | getNameOwner => exact hopening.elim
  | _ => rfl

theorem OwnerSeen.atStart {owner : Bytes} (h : OwnerSeen owner tr) (more : List ResolvedEvent) :
    ownerAtStart (tr ++ more) = some owner := by
  obtain ⟨looks, timeout, v, v', looks', rfl, hlooks⟩ := h
  have hfirst : looks.findSome? namedOwner = none := by
    refine List.findSome?_eq_none_iff.mpr fun e he => ?_
    have hlook := hlooks e (List.mem_append_left _ he)
    obtain ⟨o, v, reply, v'⟩ := e
    cases o with
    | monotonicMsec | isCancelled | terminationRequested => rfl
    | _ => exact hlook.elim
  rw [ownerAtStart, List.append_assoc, List.findSome?_append, hfirst]
  rfl

variable {dns : Option DnsConfig}

/-- Where nothing is attempted, anything but success may be reported. -/
theorem OutcomeShown.nothing {result : DnsChangeResult} (hnone : attempts tr = [])
    (hresult : result ≠ .ok) : OutcomeShown order identity dns tr ⟨result, false⟩ :=
  ⟨by simp [hnone], eachAttempt_nil hnone, fun hok => absurd hok hresult,
    fun _ => eachAttempt_nil hnone, fun _ => hnone, by simp [hnone]⟩

/-- What is before the bus is asked, and what is after the last attempt, changes nothing. -/
theorem OutcomeShown.framed {outcome : DnsChangeOutcome} {pre post : List ResolvedEvent}
    (h : OutcomeShown order identity dns tr outcome) (hpre : attempts pre = [])
    (howner : ownerAtStart pre = none) (hpost : attempts post = []) :
    OutcomeShown order identity dns (pre ++ (tr ++ post)) outcome := by
  have hsame : attempts (pre ++ (tr ++ post)) = attempts tr := by simp [hpre, hpost]
  have hframe : ∀ {P : List ResolvedEvent → ChangeAttempt → List ResolvedEvent → Prop},
      (∀ more pre a post, P pre a post → P (more ++ pre) a post) →
      (∀ more pre a post, P pre a post → P pre a (post ++ more)) →
      EachAttempt P tr → EachAttempt P (pre ++ (tr ++ post)) := fun hbefore hafter hP =>
    .append hbefore hafter (eachAttempt_nil hpre)
      (.append hbefore hafter hP (eachAttempt_nil hpost))
  have hlater : ∀ {P : ChangeAttempt → Prop},
      EachAttempt (fun _ a post => P a ∧ SeenAfter order identity a.destination post) tr →
      EachAttempt (fun _ a post => P a ∧ SeenAfter order identity a.destination post)
        (pre ++ (tr ++ post)) :=
    hframe (fun _ _ _ _ hP => hP) fun more _ _ _ hP => ⟨hP.1, hP.2.more more⟩
  refine ⟨hsame ▸ h.inOrder, ?_, fun hok => ?_, fun hfailed => hlater (h.failed hfailed),
    fun hresult => hsame ▸ h.unavailable hresult, hsame ▸ h.mayHaveChanged⟩
  · refine hframe (fun more _ _ _ hP => ⟨hP.1, hP.2.more more⟩) (fun _ _ _ _ hP => hP) ?_
    refine h.seenBefore.mono fun _ a _ hP => ⟨?_, hP.2⟩
    have hstart : ownerAtStart tr = some a.destination := hP.1
    rw [ownerAtStart] at howner hstart ⊢
    rw [List.findSome?_append, howner, List.findSome?_append, hstart]
    rfl
  · obtain ⟨hmethods, hseen⟩ := h.ok hok
    exact ⟨hsame ▸ hmethods, hlater hseen⟩

/-- The calls on an operation of this owner, as the outcome of a change. -/
theorem CallsShown.outcome {called : DnsChangeResult × ResolvedOperation}
    (h : CallsShown order identity operation (changeMethods identity.ifindex dns) tr called u')
    (hunchanged : operation.mayHaveChanged = false) {pre : List ResolvedEvent}
    (hpre : attempts pre = []) (howner : ∀ more, ownerAtStart (pre ++ more) = some operation.owner) :
    OutcomeShown order identity dns (pre ++ tr) ⟨called.1, called.2.mayHaveChanged⟩ := by
  have hsame : attempts (pre ++ tr) = attempts tr := by simp [hpre]
  have hsettled (hcertain : called.1 ≠ .uncertain) : EffectsKnown order identity (pre ++ tr) :=
    .append (fun _ _ _ _ hP => hP) (fun more _ _ _ hP => ⟨hP.1, hP.2.more more⟩)
      (eachAttempt_nil hpre) (h.settled hcertain)
  refine ⟨hsame ▸ h.inOrder, ?_, fun hok => ?_, fun hfailed => ?_,
    fun hresult => absurd hresult h.available, ?_⟩
  · refine .append (fun more _ _ _ hP => ⟨hP.1, hP.2.more more⟩) (fun _ _ _ _ hP => hP)
      (eachAttempt_nil hpre) (h.seenBefore.mono fun _ a _ hP => ⟨?_, hP.2⟩)
    rw [howner, hP.1]
  · have hok : called.1 = .ok := hok
    obtain ⟨hmethods, hacknowledged⟩ := h.acknowledged hok
    refine ⟨hsame ▸ hmethods, fun before e post a heq ha => ?_⟩
    obtain ⟨-, hseen⟩ := hsettled (by rw [hok]; decide) before e post a heq ha
    refine ⟨hacknowledged a ?_, hseen⟩
    rw [← hsame, heq]
    exact List.mem_filterMap.mpr ⟨e, by simp, ha⟩
  · have hfailed : called.1 = .failed := hfailed
    exact hsettled (by rw [hfailed]; decide)
  · rw [hsame]
    exact h.mayHaveChanged.trans (or_iff_right (by simp [hunchanged]))

theorem steps_changeOnBus {deadline : ℤ} {changed : DnsChangeResult × Bool}
    (hs : Steps resolvedBehaviour (changeOnBus isUniqueName order identity dns deadline) u tr
      (.pure changed) u') :
    OutcomeShown order identity dns tr ⟨changed.1, changed.2⟩ := by
  unfold changeOnBus at hs
  obtain ⟨opened, u₁, tr₁, tr₂, rfl, hopened, hs⟩ := hs.bind_inv
  obtain ⟨-, hnone₁, hstart₁⟩ := steps_opening (uses_openSystemBus _) hopened
  split at hs
  swap
  · obtain ⟨rfl, rfl, -⟩ := hs.of_return
    exact .nothing (by simp [hnone₁]) (by decide)
  obtain ⟨found, u₂, tr₂, tr₃, rfl, hfound, hs⟩ := hs.bind_inv
  obtain ⟨hlater₂, hnone₂⟩ := steps_aside (uses_resolvedOwner _) hfound
  split at hs
  swap
  · obtain ⟨rfl, rfl, -⟩ := hs.of_return
    exact .nothing (by simp [hnone₁, hnone₂]) (by decide)
  rename_i owner
  obtain ⟨owner', howner, hseen⟩ := steps_resolvedOwner hfound rfl
  obtain rfl : owner = owner' := Option.some.inj howner
  obtain ⟨made, u₃, tr₃, tr₄, rfl, hmade, hs⟩ := hs.bind_inv
  obtain ⟨guarded, rfl, hguarded⟩ := steps_onGuard hmade
  have hnone₃ := attempts_guard guarded
  cases made with
  | none =>
    obtain ⟨rfl, rfl, -⟩ := hs.of_return
    exact .nothing (by simp [hnone₁, hnone₂, hnone₃]) (by decide)
  | some guard =>
    obtain ⟨called, u₄, tr₄, tr₅, rfl, hcalled, hs⟩ := hs.bind_inv
    have hwatches := steps_linkGuardNew hguarded
    have hshown := steps_changeLink (by exact hwatches) hcalled
    obtain ⟨rfl, rfl, -⟩ := hs.of_return
    have hbefore : attempts (tr₂ ++ guarded.map ofGuard) = [] := by simp [hnone₂, hnone₃]
    have hstart : ∀ more, ownerAtStart (tr₂ ++ guarded.map ofGuard ++ more) = some owner := by
      intro more
      rw [List.append_assoc]
      exact hseen.atStart _
    have houtcome := (hshown.outcome rfl hbefore hstart).framed hnone₁ hstart₁
      (rfl : attempts [] = [])
    simpa only [List.append_assoc, List.append_nil] using houtcome

/-- Looks after a change may spoil the report of a change that was not attempted. -/
theorem steps_changeOutcome {result : DnsChangeResult} {mayHaveChanged : Bool}
    {outcome : DnsChangeOutcome}
    (h : OutcomeShown order identity dns tr ⟨result, mayHaveChanged⟩)
    (hs : Steps resolvedBehaviour (changeOutcome result mayHaveChanged) u tr' (.pure outcome) u') :
    OutcomeShown order identity dns (tr ++ tr') outcome := by
  unfold changeOutcome at hs
  split at hs
  · obtain ⟨rfl, rfl, -⟩ := hs.of_return
    rename_i hmay
    subst hmay
    rwa [List.append_nil]
  rename_i hmay
  obtain rfl : mayHaveChanged = false := Bool.eq_false_iff.mpr hmay
  obtain ⟨stopped, u₁, tr₁, tr₂, rfl, hstopped, hs⟩ := hs.bind_inv
  obtain ⟨-, -, hnone⟩ := steps_look uses_changeIsStopped hstopped
  split at hs
  · obtain ⟨rfl, rfl, -⟩ := hs.of_return
    have hbefore : attempts tr = [] := by
      by_contra hsome
      exact absurd (h.mayHaveChanged.mpr hsome) Bool.false_ne_true
    exact .nothing (by simp [hbefore, hnone]) (by decide)
  · obtain ⟨rfl, rfl, -⟩ := hs.of_return
    have hafter : attempts (tr₁ ++ []) = [] := by simp [hnone]
    exact h.framed (rfl : attempts [] = []) rfl hafter

/-- Whatever happens, the outcome of a change is borne out by its run. -/
theorem steps_resolvedChange {deadline : ℤ} {outcome : DnsChangeOutcome}
    (hs : Steps resolvedBehaviour (resolvedChange isUniqueName order identity dns deadline) u tr
      (.pure outcome) u') : OutcomeShown order identity dns tr outcome := by
  unfold resolvedChange at hs
  obtain ⟨deadline', u₁, tr₁, tr₂, rfl, hdeadline, hs⟩ := hs.bind_inv
  obtain ⟨-, hnone₁, hstart₁⟩ := steps_opening (uses_changeDeadline _) hdeadline
  cases deadline' with
  | none =>
    obtain ⟨_, u₂, tr₂, tr₃, rfl, hclear, hs⟩ := hs.bind_inv
    obtain ⟨-, hnone₂, -⟩ := steps_opening (uses_deadlineCancellationClear _) hclear
    obtain ⟨rfl, rfl, -⟩ := hs.of_return
    exact .nothing (by simp [hnone₁, hnone₂]) (by decide)
  | some deadline =>
    obtain ⟨started, u₂, tr₂, tr₃, rfl, hstarted, hs⟩ := hs.bind_inv
    obtain ⟨-, hnone₂, hstart₂⟩ := steps_opening (uses_deadlineCancellationInit _) hstarted
    split at hs
    · obtain ⟨changed, u₃, tr₃, tr₄, rfl, hchanged, hs⟩ := hs.bind_inv
      obtain ⟨reported, u₄, tr₄, tr₅, rfl, hreported, hs⟩ := hs.bind_inv
      obtain ⟨_, u₅, tr₅, tr₆, rfl, hclear, hs⟩ := hs.bind_inv
      obtain ⟨-, hnone₅, -⟩ := steps_opening (uses_deadlineCancellationClear _) hclear
      obtain ⟨rfl, rfl, -⟩ := hs.of_return
      have hbefore : attempts (tr₁ ++ tr₂) = [] := by simp [hnone₁, hnone₂]
      have hstart : ownerAtStart (tr₁ ++ tr₂) = none := by
        rw [ownerAtStart] at hstart₁ hstart₂ ⊢
        rw [List.findSome?_append, hstart₁, hstart₂]
        rfl
      have hshown := (steps_changeOutcome (steps_changeOnBus hchanged) hreported).framed
        hbefore hstart hnone₅
      simpa only [List.append_assoc, List.append_nil] using hshown
    · obtain ⟨_, u₃, tr₃, tr₄, rfl, hclear, hs⟩ := hs.bind_inv
      obtain ⟨-, hnone₃, -⟩ := steps_opening (uses_deadlineCancellationClear _) hclear
      obtain ⟨rfl, rfl, -⟩ := hs.of_return
      exact .nothing (by simp [hnone₁, hnone₂, hnone₃]) (by decide)

end NmSidebar
