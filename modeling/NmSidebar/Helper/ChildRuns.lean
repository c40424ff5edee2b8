import NmSidebar.Helper.ChildWorld

/-!
# What becomes of a child

What the calls leave alone, and what it means that a group was finished or terminated.
-/

namespace NmSidebar

open Text Effects

namespace ChildStream

variable {stream stream' stream'' : ChildStream}

theorem Grows.refl (stream : ChildStream) : stream.Grows stream :=
  ⟨rfl, List.prefix_refl _, fun _ => rfl⟩

theorem Grows.trans (h : stream.Grows stream') (h' : stream'.Grows stream'') :
    stream.Grows stream'' where
  taken := h'.taken.trans h.taken
  sent := h.sent.trans h'.sent
  closed hclosed := by
    obtain rfl := h.closed hclosed
    exact h'.closed hclosed

end ChildStream

namespace ChildWorld

/-! ## Frames -/

/-- What no call of a run but its reads and writes and its callbacks does away with. -/
structure Later (w w' : ChildWorld) : Prop where
  now : w.now ≤ w'.now
  cancelled : w.cancelled = true → w'.cancelled = true
  child : w'.child = w.child
  exit : ∀ how, w.exit = some how → w'.exit = some how ∧ w'.forced = w.forced
  output : w.output.Grows w'.output
  diagnostics : w.diagnostics.Grows w'.diagnostics
  clockFailed : w.clockFailed = true → w'.clockFailed = true
  supervisionFailed : w.supervisionFailed = true → w'.supervisionFailed = true
  waitFailed : w.waitFailed = true → w'.waitFailed = true
  registered : w'.registered = w.registered
  started : w'.started = w.started
  signalled : w.signalled = true → w'.signalled = true
  killed : w.killed = true → w'.killed = true
  reaped : w.reaped = true → w'.reaped = true
  unregistered : w.unregistered = true → w'.unregistered = true
  input : w'.input = w.input
  received : w'.received = w.received
  retained : w'.retained = w.retained

/-- What happens while the run only looks on: the child is sent a signal only where the run is
cancelled. -/
structure Passes (w w' : ChildWorld) : Prop extends Later w w' where
  signals : w'.signalled = true → w.signalled = true ∨ w'.cancelled = true
  forces : w'.forced = true → w.forced = true ∨ w.signalled = true ∨ w'.cancelled = true
  emptied : w'.emptied = w.emptied

variable {w w' w'' : ChildWorld} {o : ChildCall}

theorem Later.refl (w : ChildWorld) : w.Later w where
  now := le_rfl
  cancelled h := h
  child := rfl
  exit _ h := ⟨h, rfl⟩
  output := .refl _
  diagnostics := .refl _
  clockFailed h := h
  supervisionFailed h := h
  waitFailed h := h
  registered := rfl
  started := rfl
  signalled h := h
  killed h := h
  reaped h := h
  unregistered h := h
  input := rfl
  received := rfl
  retained := rfl

theorem Later.trans (h : w.Later w') (h' : w'.Later w'') : w.Later w'' where
  now := h.now.trans h'.now
  cancelled hset := h'.cancelled (h.cancelled hset)
  child := h'.child.trans h.child
  exit how hexit := by
    obtain ⟨hexit', hforced⟩ := h.exit how hexit
    obtain ⟨hexit'', hforced'⟩ := h'.exit how hexit'
    exact ⟨hexit'', hforced'.trans hforced⟩
  output := h.output.trans h'.output
  diagnostics := h.diagnostics.trans h'.diagnostics
  clockFailed hset := h'.clockFailed (h.clockFailed hset)
  supervisionFailed hset := h'.supervisionFailed (h.supervisionFailed hset)
  waitFailed hset := h'.waitFailed (h.waitFailed hset)
  registered := h'.registered.trans h.registered
  started := h'.started.trans h.started
  signalled hset := h'.signalled (h.signalled hset)
  killed hset := h'.killed (h.killed hset)
  reaped hset := h'.reaped (h.reaped hset)
  unregistered hset := h'.unregistered (h.unregistered hset)
  input := h'.input.trans h.input
  received := h'.received.trans h.received
  retained := h'.retained.trans h.retained

theorem Passes.refl (w : ChildWorld) : w.Passes w :=
  ⟨.refl w, .inl, .inl, rfl⟩

theorem Passes.trans (h : w.Passes w') (h' : w'.Passes w'') : w.Passes w'' where
  toLater := h.toLater.trans h'.toLater
  signals hset := by
    rcases h'.signals hset with hset | hcancelled
    · exact (h.signals hset).imp id h'.cancelled
    · exact .inr hcancelled
  forces hset := by
    rcases h'.forces hset with hset | hset | hcancelled
    · exact (h.forces hset).imp id (Or.imp id h'.cancelled)
    · exact .inr ((h.signals hset).imp id h'.cancelled)
    · exact .inr (.inr hcancelled)
  emptied := h'.emptied.trans h.emptied

/-! ## Single steps -/

theorem Drifts.passes (h : w.Drifts w') : w.Passes w' := by
  induction h with
  | tick h => exact { Passes.refl _ with now := h }
  | cancel => exact { Passes.refl _ with
      cancelled := fun _ => rfl, signals := .inl, forces := .inl }
  | exit hchild hruns how =>
    refine { Passes.refl _ with exit := fun how' hexit => ?_, forces := fun hset => ?_ }
    · exact absurd (hruns.symm.trans hexit) (by simp)
    · exact .inr (.inl hset)
  | output h => exact { Passes.refl _ with output := h }
  | diagnostics h => exact { Passes.refl _ with diagnostics := h }
  | none => exact .refl _
  | trans _ _ ih ih' => exact ih.trans ih'

/-- The run's own signals are all there are. -/
theorem Drifts.signalled (h : w.Drifts w') : w'.signalled = w.signalled := by
  induction h with
  | trans _ _ ih ih' => exact ih'.trans ih
  | _ => rfl

theorem passes_clockFails (w : ChildWorld) : w.Passes w.clockFails :=
  { Passes.refl w with clockFailed := fun _ => rfl }

theorem passes_supervisionFails (w : ChildWorld) : w.Passes w.supervisionFails :=
  { Passes.refl w with supervisionFailed := fun _ => rfl }

theorem passes_waitFails (w : ChildWorld) : w.Passes w.waitFails :=
  { Passes.refl w with waitFailed := fun _ => rfl }

theorem passes_acknowledged (w : ChildWorld) {type : SupervisionType} (htype : type ≠ .register) :
    w.Passes (w.acknowledged type) := by
  cases type with
  | register => exact absurd rfl htype
  | unregister => exact { Passes.refl w with unregistered := fun _ => rfl }
  | release | withdrawRelease | terminating => exact .refl w

theorem later_signal (w : ChildWorld) (group : Bool) (signal : EndSignal) :
    w.Later (w.signal group signal) :=
  { Later.refl w with
    signalled := fun _ => rfl
    killed := fun hset => by
      show (w.killed || _) = true
      rw [hset, Bool.true_or] }

/-- Where the run is cancelled, a signal is no surprise. -/
theorem passes_signal (hcancelled : w.cancelled = true) (group : Bool) (signal : EndSignal) :
    w.Passes (w.signal group signal) :=
  ⟨later_signal w group signal, fun _ => .inr hcancelled, .inl, rfl⟩

theorem Dispatches.passes (h : w.Dispatches w') : w.Passes w' := by
  obtain rfl | ⟨hcancelled, rfl | rfl | rfl⟩ := h
  · exact .refl _
  · exact passes_signal hcancelled _ _
  · exact passes_signal hcancelled _ _
  · exact (passes_signal hcancelled _ _).trans (passes_supervisionFails _)

end ChildWorld

/-- The calls that only look on. -/
def ChildCall.IsQuiet : ChildCall → Prop
  | monotonicMsec | terminationRequested | terminationEscalated | dispatchTermination => True
  | collectPendingTermination | dupExecutable | openPipe _ | openStartGate => True
  | blockTermination | restoreMask | setProcessGroup _ | peek _ | poll _ => True
  | supervise type _ _ => type ≠ .register
  | fork | startChild | kill .. | wait _ | waitGroup _ | write _ | read .. | diagnostics _ => False
  | retainDescendants => False

/-- The calls that end a group, with those that look on. -/
def ChildCall.IsClosing : ChildCall → Prop
  | kill .. | wait _ | waitGroup _ => True
  | o => o.IsQuiet

namespace ChildWorld

variable {w w' : ChildWorld} {o : ChildCall}

theorem Does.passes {r : o.Reply} (h : w.Does o r w') (hquiet : o.IsQuiet) : w.Passes w' := by
  cases o with
  | monotonicMsec =>
    obtain ⟨-, rfl⟩ | ⟨-, rfl⟩ := h
    · exact .refl _
    · exact passes_clockFails w
  | terminationRequested | terminationEscalated =>
    obtain ⟨-, rfl⟩ := h
    exact .refl _
  | dispatchTermination | poll => exact Dispatches.passes h
  | supervise type child deadline =>
    obtain ⟨w₁, hdispatched, rfl⟩ := h
    refine hdispatched.passes.trans ?_
    split
    · exact passes_acknowledged w₁ hquiet
    · exact passes_supervisionFails w₁
  | peek child =>
    cases r with
    | running | ended =>
      obtain ⟨-, rfl⟩ := h
      exact .refl _
    | interrupted =>
      obtain rfl : w' = w := h
      exact .refl _
    | failed =>
      obtain rfl : w' = w.waitFails := h
      exact passes_waitFails w
  | collectPendingTermination | dupExecutable | openPipe | openStartGate | blockTermination
  | restoreMask | setProcessGroup =>
    obtain rfl : w' = w := h
    exact .refl _
  | fork | startChild | kill | wait | waitGroup | write | read | diagnostics
  | retainDescendants => exact hquiet.elim

theorem Does.later {r : o.Reply} (h : w.Does o r w') (hcloses : o.IsClosing) : w.Later w' := by
  cases o with
  | kill group child signal =>
    obtain rfl : w' = if w.child = some child then w.signal group signal else w := h
    split
    · exact later_signal w group signal
    · exact .refl w
  | wait child =>
    cases r with
    | running =>
      obtain ⟨-, rfl⟩ := h
      exact .refl _
    | reaped status =>
      by_cases hchild : w.child = some child
      · obtain ⟨-, rfl⟩ : _ ∧ w' = w.reap := (if_pos hchild).mp h
        exact { Later.refl w with reaped := fun _ => rfl }
      · obtain rfl : w' = w := (if_neg hchild).mp h
        exact .refl _
    | failed =>
      obtain rfl : w' = w.waitFails := h
      exact (passes_waitFails w).toLater
  | waitGroup child =>
    cases r with
    | running | reaped =>
      obtain rfl : w' = w := h
      exact .refl _
    | noChild =>
      obtain rfl : w' = if w.child = some child then w.empty else w := h
      split
      · exact { Later.refl w with }
      · exact .refl w
    | failed =>
      obtain rfl : w' = w.waitFails := h
      exact (passes_waitFails w).toLater
  | fork | startChild | write | read | diagnostics | retainDescendants => exact hcloses.elim
  | _ => exact (Does.passes h hcloses).toLater

end ChildWorld

/-! ## Rules -/

/-- What holds where a program that always ends has ended. -/
abbrev ChildSafe {α : Type} (p : ChildM α) (Q : α → ChildWorld → Prop) (w : ChildWorld) : Prop :=
  Safe childBehaviour (fun _ _ => True) p Q w

/-- What holds where a program has ended that may go on. -/
abbrev ChildEnds {α : Type} (p : ChildLoopM α) (Q : α → ChildWorld → Prop) (w : ChildWorld) :
    Prop :=
  Ends childBehaviour (fun _ _ => True) p Q w

section Rules

variable {α : Type} {w : ChildWorld} {o : ChildCall} {Q : α → ChildWorld → Prop}

theorem safe_childCall {f : o.Reply → ChildM α}
    (h : ∀ r w₁ w', w.Passes w₁ → w₁.Does o r w' → ChildSafe (f r) Q w') :
    ChildSafe (childCall o >>= f) Q w := by
  refine ⟨trivial, ?_⟩
  rintro r w' ⟨w₁, hdrifts, hdoes⟩
  exact h r w₁ w' hdrifts.passes hdoes

theorem ends_childCall {f : o.Reply → ChildLoopM α}
    (h : ∀ r w₁ w', w.Passes w₁ → w₁.Does o r w' → ChildEnds (f r) Q w') :
    ChildEnds ((liftM (childCall o) : ChildLoopM o.Reply) >>= f) Q w := by
  refine Safe.bindEnds (Q := fun r w' => ChildEnds (f r) Q w') ⟨trivial, ?_⟩ fun _ _ hs => hs
  rintro r w' ⟨w₁, hdrifts, hdoes⟩
  exact h r w₁ w' hdrifts.passes hdoes

/-- A call that only looks on. -/
theorem safe_quiet (ho : o.IsQuiet) {f : o.Reply → ChildM α}
    (h : ∀ r w', w.Passes w' → ChildSafe (f r) Q w') : ChildSafe (childCall o >>= f) Q w :=
  safe_childCall fun r _ w' hdrifts hdoes => h r w' (hdrifts.trans (hdoes.passes ho))

theorem ends_quiet (ho : o.IsQuiet) {f : o.Reply → ChildLoopM α}
    (h : ∀ r w', w.Passes w' → ChildEnds (f r) Q w') :
    ChildEnds ((liftM (childCall o) : ChildLoopM o.Reply) >>= f) Q w :=
  ends_childCall fun r _ w' hdrifts hdoes => h r w' (hdrifts.trans (hdoes.passes ho))

/-- The clock is read. -/
theorem ends_clock {f : ℤ → ChildLoopM α}
    (h : ∀ now w', w.Passes w' → (now = w'.now ∨ now < 0 ∧ w'.clockFailed = true) →
      ChildEnds (f now) Q w') :
    ChildEnds ((liftM (childCall .monotonicMsec) : ChildLoopM ℤ) >>= f) Q w := by
  refine ends_childCall fun now w₁ w' hdrifts hdoes => ?_
  have hpasses := hdrifts.trans (hdoes.passes trivial)
  obtain ⟨hnow, rfl⟩ | ⟨hnow, rfl⟩ := hdoes
  · exact h now _ hpasses (.inl hnow)
  · exact h now _ hpasses (.inr ⟨hnow, rfl⟩)

/-- A signal is sent to the child or its group. -/
theorem ends_kill {child : ℕ} (hchild : w.child = some child) (group : Bool) (signal : EndSignal)
    {f : Unit → ChildLoopM α}
    (h : ∀ w', w.Later w' → w'.emptied = w.emptied →
      (group = true ∧ signal = .kill → w'.killed = true) → ChildEnds (f ()) Q w') :
    ChildEnds ((liftM (childCall (.kill group child signal)) : ChildLoopM Unit) >>= f) Q w := by
  refine ends_childCall fun _ w₁ w' hdrifts hdoes => ?_
  obtain rfl : w' = if w₁.child = some child then w₁.signal group signal else w₁ := hdoes
  have hchild' := hdrifts.child.trans hchild
  rw [if_pos hchild']
  refine h _ (hdrifts.toLater.trans (w₁.later_signal group signal)) hdrifts.emptied ?_
  rintro ⟨rfl, rfl⟩
  exact Bool.or_true _

end Rules

/-! ## The group -/

theorem ProcessGroups.not_has_without (groups : ProcessGroups) (child : ℕ) :
    (groups.without child).has child = false := by
  unfold ProcessGroups.has ProcessGroups.without
  simp only [Bool.or_eq_false_iff, beq_eq_false_iff_ne, ne_eq]
  constructor
  · split
    · simp
    · assumption
  · split
    · simp
    · assumption

variable {w : ChildWorld} {groups : ProcessGroups} {child rounds : ℕ} {deadline : ℤ}

/-- Whether the service answers a request. -/
theorem safe_supervise {type : SupervisionType} (htype : type ≠ .register) :
    ChildSafe (childCall (.supervise type child deadline)) (fun ok w' => w.Passes w' ∧
      (ok = false → w'.supervisionFailed = true) ∧
      (ok = true → type = .unregister → w'.unregistered = true)) w := by
  refine ⟨trivial, ?_⟩
  rintro ok w' ⟨w₁, hdrifts, hdoes⟩
  refine ⟨hdrifts.passes.trans (ChildWorld.Does.passes hdoes htype), ?_⟩
  obtain ⟨w₂, -, rfl⟩ := hdoes
  cases ok with
  | true =>
    refine ⟨by simp, fun _ htype => ?_⟩
    subst htype
    rfl
  | false => exact ⟨fun _ => rfl, by simp⟩

theorem safe_beginGroupTermination :
    ChildSafe (beginGroupTermination groups child deadline) (fun ok w' => w.Passes w' ∧
      (ok = false → w'.supervisionFailed = true)) w := by
  unfold beginGroupTermination
  split
  · exact ⟨.refl w, by simp⟩
  · exact (safe_supervise (by simp)).mono fun _ _ hs => ⟨hs.1, hs.2.1⟩

/-- A group that the service knew is unregistered, unless the service does not answer. -/
theorem safe_unregisterGroup :
    ChildSafe (unregisterGroup groups child deadline) (fun removed w' => w.Passes w' ∧
      (removed.1 = false → w'.supervisionFailed = true) ∧
      (removed.1 = true → groups.has child = true → w'.unregistered = true) ∧
      removed.2.has child = false) w := by
  unfold unregisterGroup
  split
  · refine (safe_supervise (by simp)).bind fun removed w' hs => ?_
    exact ⟨hs.1, hs.2.1, fun hremoved _ => hs.2.2 hremoved rfl, groups.not_has_without child⟩
  · rename_i hother
    have hother := Bool.eq_false_iff.mpr hother
    exact ⟨.refl w, by simp, fun _ hhas => absurd (hother.symm.trans hhas) Bool.false_ne_true,
      hother⟩

/-- A group that is not among the groups is not retained. -/
theorem ProcessGroups.retained_ne (h : groups.has child = false) :
    groups.retained ≠ some child := by
  unfold ProcessGroups.has at h
  simpa using (Bool.or_eq_false_iff.mp h).2

/-! ## Reaping -/

/-- No child of the group is left exactly where that is returned. -/
theorem ends_reapDescendants (hchild : w.child = some child) (hleft : w.emptied = false)
    (graceMsec : ℕ) :
    ChildEnds (reapDescendants child graceMsec deadline rounds) (fun ok w' => w.Later w' ∧
      w'.emptied = ok) w := by
  unfold reapDescendants
  refine ends_quiet (by trivial) fun now w₁ hpasses => ?_
  have hleft' := hpasses.emptied.trans hleft
  split
  · exact ends_return.mpr ⟨hpasses.toLater, hleft'⟩
  refine Ends.loop (I := fun _ w' => w.Later w' ∧ w'.emptied = false) (fun _ w₂ hs => ?_) rounds
    ⟨hpasses.toLater, hleft'⟩
  obtain ⟨hlater, hleft⟩ := hs
  unfold reapDescendantsRound
  refine ends_quiet (by trivial) fun _ w₃ hpasses => ?_
  have hlater := hlater.trans hpasses.toLater
  have hleft := hpasses.emptied.trans hleft
  refine ends_childCall fun waited w₄ w₅ hdrifts hdoes => ?_
  have hlater := hlater.trans (hdrifts.toLater.trans (ChildWorld.Does.later hdoes trivial))
  have hleft := hdrifts.emptied.trans hleft
  cases waited with
  | reaped =>
    obtain rfl : w₅ = w₄ := hdoes
    exact ends_return.mpr ⟨fun _ _ => ⟨hlater, hleft⟩, by simp⟩
  | noChild =>
    obtain rfl : w₅ = if w₄.child = some child then w₄.empty else w₄ := hdoes
    refine ends_return.mpr ⟨by simp, fun ok hok => ?_⟩
    obtain rfl : true = ok := by simpa using hok
    refine ⟨hlater, ?_⟩
    have hchild := hlater.child.trans hchild
    split
    · rfl
    · rename_i hother
      rw [if_neg hother] at hchild
      exact absurd hchild hother
  | failed =>
    obtain rfl : w₅ = w₄.waitFails := hdoes
    refine ends_return.mpr ⟨by simp, fun ok hok => ?_⟩
    obtain rfl : false = ok := by simpa using hok
    exact ⟨hlater, hleft⟩
  | running =>
    obtain rfl : w₅ = w₄ := hdoes
    have hgivesUp {w' : ChildWorld} (hlater : w.Later w') (hleft : w'.emptied = false) :
        ChildEnds (return Round.done false : ChildLoopM (Round Unit Bool)) (fun round w' =>
          (∀ s', round = .again s' → w.Later w' ∧ w'.emptied = false) ∧
            ∀ a, round = .done a → w.Later w' ∧ w'.emptied = a) w' := by
      refine ends_return.mpr ⟨by simp, fun ok hok => ?_⟩
      obtain rfl : false = ok := by simpa using hok
      exact ⟨hlater, hleft⟩
    dsimp only
    split
    · exact hgivesUp hlater hleft
    refine ends_quiet (by trivial) fun now w₆ hpasses => ?_
    have hlater := hlater.trans hpasses.toLater
    have hleft := hpasses.emptied.trans hleft
    split
    · exact hgivesUp hlater hleft
    refine ends_quiet (by trivial) fun _ w₇ hpasses => ?_
    exact ends_return.mpr ⟨fun _ _ => ⟨hlater.trans hpasses.toLater,
      hpasses.emptied.trans hleft⟩, by simp⟩

/-- A call that waits could not tell that something has ended, or it is too late. -/
def ChildWorld.GaveUp (w : ChildWorld) (deadline : ℤ) : Prop :=
  w.clockFailed = true ∨ w.waitFailed = true ∨ deadline ≤ w.now

theorem ChildWorld.GaveUp.later {w w' : ChildWorld} (h : w.GaveUp deadline) (hlater : w.Later w') :
    w'.GaveUp deadline := by
  rcases h with hset | hset | hlate
  · exact .inl (hlater.clockFailed hset)
  · exact .inr (.inl (hlater.waitFailed hset))
  · exact .inr (.inr (hlate.trans hlater.now))

/-- A look at the clock finds that it is late, or fails. -/
theorem gaveUp_of_clock {w : ChildWorld} {now : ℤ} (h : now < 0 ∨ now ≥ deadline)
    (hclock : now = w.now ∨ now < 0 ∧ w.clockFailed = true) (hpositive : 0 ≤ w.now) :
    w.GaveUp deadline := by
  rcases hclock with rfl | ⟨-, hfailed⟩
  · rcases h with hnegative | hlate
    · exact absurd hpositive (not_le.mpr hnegative)
    · exact .inr (.inr hlate)
  · exact .inl hfailed

/-- A child that was reaped has ended with the status that is returned. -/
structure ChildReaped (status : ℕ) (w : ChildWorld) : Prop where
  reaped : w.reaped = true
  exit : ∃ how, w.exit = some how ∧ status = how.waitStatus

theorem ChildReaped.later {status : ℕ} {w w' : ChildWorld} (h : ChildReaped status w)
    (hlater : w.Later w') : ChildReaped status w' := by
  obtain ⟨how, hexit, hstatus⟩ := h.exit
  exact ⟨hlater.reaped h.reaped, how, (hlater.exit how hexit).1, hstatus⟩

/-- A child is reaped, or the wait is given up. -/
theorem ends_reapChild (hchild : w.child = some child) (hnow : 0 ≤ w.now) :
    ChildEnds (reapChild child deadline rounds) (fun status w' => w.Later w' ∧
      w'.emptied = w.emptied ∧ (∀ found, status = some found → ChildReaped found w') ∧
      (status = none → w'.GaveUp deadline)) w := by
  unfold reapChild
  refine Ends.loop (I := fun _ w' => w.Later w' ∧ w'.emptied = w.emptied) (fun _ w₁ hs => ?_)
    rounds ⟨.refl w, rfl⟩
  obtain ⟨hlater, hsame⟩ := hs
  unfold reapChildRound
  refine ends_quiet (by trivial) fun _ w₂ hpasses => ?_
  have hlater := hlater.trans hpasses.toLater
  have hsame := hpasses.emptied.trans hsame
  refine ends_childCall fun waited w₃ w₄ hdrifts hdoes => ?_
  have hlater₃ := hlater.trans hdrifts.toLater
  have hlater := hlater₃.trans (ChildWorld.Does.later hdoes trivial)
  have hsame := hdrifts.emptied.trans hsame
  cases waited with
  | reaped status =>
    obtain ⟨hexit, rfl⟩ := (if_pos (hlater₃.child.trans hchild)).mp hdoes
    refine ends_return.mpr ⟨by simp, fun found hfound => ?_⟩
    obtain rfl : some status = found := by simpa using hfound
    refine ⟨hlater, hsame, fun found hfound => ?_, by simp⟩
    obtain rfl := Option.some.inj hfound
    exact ⟨rfl, hexit⟩
  | failed =>
    obtain rfl : w₄ = w₃.waitFails := hdoes
    refine ends_return.mpr ⟨by simp, fun found hfound => ?_⟩
    obtain rfl : none = found := by simpa using hfound
    exact ⟨hlater, hsame, by simp, fun _ => .inr (.inl rfl)⟩
  | running =>
    obtain ⟨-, rfl⟩ := hdoes
    refine ends_clock fun now w₅ hpasses hclock => ?_
    have hlater := hlater.trans hpasses.toLater
    have hsame := hpasses.emptied.trans hsame
    split
    · rename_i hlate
      refine ends_return.mpr ⟨by simp, fun found hfound => ?_⟩
      obtain rfl : none = found := by simpa using hfound
      exact ⟨hlater, hsame, by simp,
        fun _ => gaveUp_of_clock hlate hclock (hnow.trans hlater.now)⟩
    refine ends_quiet (by trivial) fun _ w₆ hpasses => ?_
    exact ends_return.mpr ⟨fun _ _ => ⟨hlater.trans hpasses.toLater,
      hpasses.emptied.trans hsame⟩, by simp⟩

/-- What reaping a group comes to. -/
structure GroupReaped (deadline : ℤ) (reaped : Bool × Option ℕ) (w : ChildWorld) : Prop where
  emptied : w.emptied = reaped.1
  status : reaped.1 = true → ∃ status, reaped.2 = some status ∧ ChildReaped status w
  child : w.reaped = true ∨ w.GaveUp deadline

theorem ends_reapGroup (hchild : w.child = some child) (hnow : 0 ≤ w.now)
    (hleft : w.emptied = false) :
    ChildEnds (reapGroup child deadline rounds) (fun reaped w' => w.Later w' ∧
      GroupReaped deadline reaped w') w := by
  unfold reapGroup
  refine (ends_reapChild hchild hnow).bind fun status w₁ hs => ?_
  obtain ⟨hlater, hsame, hreaped, hgaveUp⟩ := hs
  cases status with
  | none => exact ends_return.mpr ⟨hlater, hsame.trans hleft, by simp, .inr (hgaveUp rfl)⟩
  | some status =>
    have hreaped := hreaped status rfl
    refine (ends_reapDescendants (hlater.child.trans hchild) (hsame.trans hleft) _).bind
      fun ok w₂ hs => ?_
    refine ends_return.mpr ⟨hlater.trans hs.1, hs.2, fun _ => ?_, ?_⟩
    · exact ⟨status, rfl, hreaped.later hs.1⟩
    · exact .inl (hs.1.reaped hreaped.reaped)

/-- The status of a child that has ended is found, or `waitid` fails. -/
theorem ends_peekStatus (hchild : w.child = some child) {how : ChildExit}
    (hexit : w.exit = some how) :
    ChildEnds (peekStatus child deadline rounds) (fun status w' => w.Passes w' ∧
      (status = some how.waitStatus ∨ status = none ∧ w'.waitFailed = true)) w := by
  unfold peekStatus
  refine Ends.loop (I := fun _ w' => w.Passes w') (fun _ w₁ hpasses => ?_) rounds (.refl w)
  unfold peekStatusRound
  refine ends_quiet (by trivial) fun _ w₂ hpasses' => ?_
  have hpasses := hpasses.trans hpasses'
  have hpeeked : ChildEnds (peekAgain child rounds) (fun reply w' => w.Passes w' ∧
      (reply = .ended how ∨ reply = .failed ∧ w'.waitFailed = true)) w₂ := by
    refine Ends.retry (I := fun w' => w.Passes w') (fun w₃ hpasses => ?_) rounds hpasses
    refine ⟨trivial, ?_⟩
    rintro reply w₅ ⟨w₄, hdrifts, hdoes⟩
    have hpasses₄ := hpasses.trans hdrifts.passes
    have hpasses := hpasses₄.trans (ChildWorld.Does.passes hdoes trivial)
    refine ⟨fun _ => hpasses, fun hgoes => ⟨hpasses, ?_⟩⟩
    have hexit' := (hpasses₄.exit how hexit).1
    have hchild' := hpasses₄.child.trans hchild
    cases reply with
    | running => exact absurd (hexit'.symm.trans (hdoes.1 hchild')) (by simp)
    | ended how' =>
      obtain rfl := Option.some.inj (hexit'.symm.trans (hdoes.1 hchild'))
      exact .inl rfl
    | interrupted => exact absurd hgoes (by simp)
    | failed =>
      obtain rfl : w₅ = w₄.waitFails := hdoes
      exact .inr ⟨rfl, rfl⟩
  refine hpeeked.bind fun reply w₃ hs => ?_
  obtain ⟨hpasses, rfl | ⟨rfl, hfailed⟩⟩ := hs
  · refine ends_return.mpr ⟨by simp, fun status hstatus => ⟨hpasses, .inl ?_⟩⟩
    simpa using hstatus.symm
  · refine ends_return.mpr ⟨by simp, fun status hstatus => ⟨hpasses, .inr ⟨?_, hfailed⟩⟩⟩
    simpa using hstatus.symm

/-! ## The end of a group -/

/-- What the end of a group with all its processes comes to. -/
structure GroupEnded (groups : ProcessGroups) (child : ℕ) (deadline : ℤ) (e : GroupEnd)
    (w : ChildWorld) : Prop where
  done : e.ok = true → w.killed = true ∧ w.emptied = true ∧
    (groups.has child = true → w.unregistered = true) ∧ e.groups.has child = false ∧
    ∃ status, e.status = some status ∧ ChildReaped status w
  killed : w.killed = true ∨ w.clockFailed = true
  reaped : w.reaped = true ∨ w.GaveUp deadline
  left : e.ok = true ∨ w.supervisionFailed = true ∨ w.clockFailed = true ∨ w.emptied = false
  groups : e.groups.retained = some child → groups.retained = some child

theorem safe_unregisterReaped {reaped : Bool × Option ℕ} {acknowledged : Bool}
    (hkilled : w.killed = true) (hreaped : GroupReaped deadline reaped w)
    (hacknowledged : acknowledged = false → w.supervisionFailed = true) :
    ChildSafe (unregisterReaped groups child deadline acknowledged reaped) (fun e w' =>
      w.Later w' ∧ GroupEnded groups child deadline e w') w := by
  unfold unregisterReaped
  split
  · rename_i hall
    refine safe_unregisterGroup.bind fun removed w' hs => ?_
    obtain ⟨hpasses, hfailed, hunregistered, hgroups⟩ := hs
    have hlater := hpasses.toLater
    refine ⟨hlater, fun hok => ?_, .inl (hlater.killed hkilled),
      hreaped.child.imp hlater.reaped fun hgave => hgave.later hlater, ?_,
      fun hretained => absurd hretained (ProcessGroups.retained_ne hgroups)⟩
    · obtain ⟨hremoved, -⟩ := Bool.and_eq_true_iff.mp hok
      obtain ⟨status, hstatus, hchild⟩ := hreaped.status hall
      exact ⟨hlater.killed hkilled, hpasses.emptied.trans (hreaped.emptied.trans hall),
        hunregistered hremoved, hgroups, status, hstatus, hchild.later hlater⟩
    · cases hremoved : removed.1 with
      | false => exact .inr (.inl (hfailed hremoved))
      | true =>
        cases acknowledged with
        | false => exact .inr (.inl (hlater.supervisionFailed (hacknowledged rfl)))
        | true => exact .inl rfl
  · rename_i hsome
    have hsome := Bool.eq_false_iff.mpr hsome
    refine ⟨.refl w, by simp, .inl hkilled, hreaped.child, .inr (.inr (.inr ?_)), id⟩
    exact hreaped.emptied.trans hsome

/-- A group that is finished with all its processes. -/
theorem ends_finishGroup (hchild : w.child = some child) (hnow : 0 ≤ w.now)
    (hleft : w.emptied = false) :
    ChildEnds (finishGroup groups child true deadline rounds) (fun e w' => w.Later w' ∧
      GroupEnded groups child deadline e w') w := by
  unfold finishGroup
  rw [if_pos rfl]
  refine safe_beginGroupTermination.bindEnds fun acknowledged w₁ hs => ?_
  obtain ⟨hpasses, hacknowledged⟩ := hs
  have hchild := hpasses.child.trans hchild
  refine ends_kill hchild true .term fun w₂ hlater₂ hsame₂ _ => ?_
  have hchild := hlater₂.child.trans hchild
  refine ends_kill hchild false .term fun w₃ hlater₃ hsame₃ _ => ?_
  have hchild := hlater₃.child.trans hchild
  refine ends_kill hchild true .kill fun w₄ hlater₄ hsame₄ hkilled => ?_
  have hchild := hlater₄.child.trans hchild
  refine ends_kill hchild false .kill fun w₅ hlater₅ hsame₅ _ => ?_
  have hchild := hlater₅.child.trans hchild
  have hlater := ((hlater₂.trans hlater₃).trans hlater₄).trans hlater₅
  have hleft : w₅.emptied = false :=
    hsame₅.trans (hsame₄.trans (hsame₃.trans (hsame₂.trans (hpasses.emptied.trans hleft))))
  refine (ends_reapGroup hchild (hnow.trans (hpasses.now.trans hlater.now)) hleft).bind
    fun reaped w₆ hs => ?_
  obtain ⟨hlater₆, hreaped⟩ := hs
  have hlater := hlater.trans hlater₆
  refine ends_lift.mpr ((safe_unregisterReaped ?_ hreaped fun hrefused => ?_).mono
    fun e w' hs => ⟨hpasses.toLater.trans (hlater.trans hs.1), hs.2⟩)
  · exact hlater₆.killed (hlater₅.killed (hkilled ⟨rfl, rfl⟩))
  · exact hlater.supervisionFailed (hacknowledged hrefused)

/-- A group that is retained: the child has ended and is still to be reaped. -/
theorem ends_retainGroup (hchild : w.child = some child) {how : ChildExit}
    (hexit : w.exit = some how) :
    ChildEnds (finishGroup groups child false deadline rounds) (fun e w' => w.Passes w' ∧
      (e = ⟨true, some how.waitStatus, retainGroup groups child⟩ ∨
        e = ⟨false, none, groups⟩ ∧ w'.waitFailed = true)) w := by
  unfold finishGroup
  rw [if_neg (by simp)]
  refine (ends_peekStatus hchild hexit).bind fun status w' hs => ?_
  obtain ⟨hpasses, rfl | ⟨rfl, hfailed⟩⟩ := hs
  · exact ends_return.mpr ⟨hpasses, .inl rfl⟩
  · exact ends_return.mpr ⟨hpasses, .inr ⟨rfl, hfailed⟩⟩

/-- A group that is terminated. -/
theorem ends_terminateGroup (hchild : w.child = some child) (hnow : 0 ≤ w.now)
    (hleft : w.emptied = false) (graceMsec : ℕ) :
    ChildEnds (terminateGroup groups child graceMsec deadline rounds) (fun e w' => w.Later w' ∧
      GroupEnded groups child deadline e w') w := by
  unfold terminateGroup
  refine safe_beginGroupTermination.bindEnds fun acknowledged w₁ hs => ?_
  obtain ⟨hpasses, hacknowledged⟩ := hs
  have hchild := hpasses.child.trans hchild
  refine ends_kill hchild true .term fun w₂ hlater₂ hsame₂ _ => ?_
  have hchild := hlater₂.child.trans hchild
  refine ends_kill hchild false .term fun w₃ hlater₃ hsame₃ _ => ?_
  have hchild := hlater₃.child.trans hchild
  refine ends_quiet (by trivial) fun escalated w₄ hpasses₄ => ?_
  have hlater₄ := (hpasses.toLater.trans (hlater₂.trans hlater₃)).trans hpasses₄.toLater
  refine ends_clock fun now w₅ hpasses₅ hclock => ?_
  have hlater := hlater₄.trans hpasses₅.toLater
  have hleft : w₅.emptied = false := hpasses₅.emptied.trans (hpasses₄.emptied.trans
    (hsame₃.trans (hsame₂.trans (hpasses.emptied.trans hleft))))
  split
  · rename_i hnegative
    have hfailed : w₅.clockFailed = true := by
      rcases hclock with rfl | ⟨-, hfailed⟩
      · exact absurd (hnow.trans hlater.now) (not_le.mpr hnegative)
      · exact hfailed
    exact ends_return.mpr ⟨hlater, by simp, .inr hfailed, .inr (.inl hfailed),
      .inr (.inr (.inl hfailed)), id⟩
  dsimp only
  have hgrace (limit : ℤ) : ChildEnds (Prog.loop (terminateGroupRound limit) rounds ())
      (fun _ w' => w₅.Passes w') w₅ := by
    refine Ends.loop (I := fun _ w' => w₅.Passes w') (fun _ w₆ hpasses => ?_) rounds (.refl w₅)
    unfold terminateGroupRound
    split
    · exact ends_return.mpr ⟨by simp, fun _ _ => hpasses⟩
    refine ends_quiet (by trivial) fun now w₇ hpasses₇ => ?_
    have hpasses := hpasses.trans hpasses₇
    split
    · exact ends_return.mpr ⟨by simp, fun _ _ => hpasses⟩
    refine ends_quiet (by trivial) fun escalated w₈ hpasses₈ => ?_
    have hpasses := hpasses.trans hpasses₈
    split
    · exact ends_return.mpr ⟨by simp, fun _ _ => hpasses⟩
    refine ends_quiet (by trivial) fun _ w₉ hpasses₉ => ?_
    exact ends_return.mpr ⟨fun _ _ => hpasses.trans hpasses₉, by simp⟩
  refine (hgrace _).bind fun _ w₆ hpasses₆ => ?_
  have hlater := hlater.trans hpasses₆.toLater
  have hchild := hlater.child.trans ‹w.child = some child›
  refine ends_kill hchild true .kill fun w₇ hlater₇ hsame₇ hkilled => ?_
  have hchild := hlater₇.child.trans hchild
  refine ends_kill hchild false .kill fun w₈ hlater₈ hsame₈ _ => ?_
  have hchild := hlater₈.child.trans hchild
  have hlater := hlater.trans (hlater₇.trans hlater₈)
  have hleft : w₈.emptied = false :=
    hsame₈.trans (hsame₇.trans (hpasses₆.emptied.trans hleft))
  refine (ends_reapGroup hchild (hnow.trans hlater.now) hleft).bind fun reaped w₉ hs => ?_
  obtain ⟨hlater₉, hreaped⟩ := hs
  refine ends_lift.mpr ((safe_unregisterReaped ?_ hreaped fun hrefused => ?_).mono
    fun e w' hs => ⟨(hlater.trans hlater₉).trans hs.1, hs.2⟩)
  · exact hlater₉.killed (hlater₈.killed (hkilled ⟨rfl, rfl⟩))
  · refine (((hlater₂.trans hlater₃).trans hpasses₄.toLater).trans (hpasses₅.toLater.trans
      (hpasses₆.toLater.trans (hlater₇.trans (hlater₈.trans hlater₉))))).supervisionFailed ?_
    exact hacknowledged hrefused

end NmSidebar
