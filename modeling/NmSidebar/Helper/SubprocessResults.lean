import NmSidebar.Helper.ChildRuns

/-!
# Results of a child are faithful

What `awg_subprocess_run` returns is what the child has done: its own status, its whole input, and
of its streams what was read, in order, and all there is where the end of the file was seen.
-/

namespace NmSidebar

open Text Effects

namespace ChildStream

variable {stream stream' : ChildStream} {bytes : Bytes} {limit : ℕ}

/-- The run has not read more than there is. -/
def Sound (stream : ChildStream) : Prop := stream.taken ≤ stream.sent.length

theorem got_prefix (stream : ChildStream) : stream.got <+: stream.sent :=
  List.take_prefix _ _

theorem Exhausted.got_eq (h : stream.Exhausted) : stream.got = stream.sent :=
  List.take_of_length_le (List.drop_eq_nil_iff.mp h.2)

theorem Grows.sound (h : stream.Grows stream') (hsound : stream.Sound) : stream'.Sound := by
  show stream'.taken ≤ _
  rw [h.taken]
  exact le_trans hsound h.sent.length_le

theorem Grows.got (h : stream.Grows stream') (hsound : stream.Sound) :
    stream'.got = stream.got := by
  unfold ChildStream.got
  obtain ⟨rest, hrest⟩ := h.sent
  rw [h.taken, ← hrest, List.take_append_of_le_length hsound]

theorem Grows.exhausted (h : stream.Grows stream') (hend : stream.Exhausted) :
    stream'.Exhausted := by
  rw [h.closed hend.1]
  exact hend

/-- What is read comes after what was read before. -/
theorem Reads.data (h : stream.Reads limit (.data bytes) stream') (hsound : stream.Sound) :
    stream'.Sound ∧ stream'.got = stream.got ++ bytes ∧ bytes.length ≤ limit := by
  obtain ⟨-, hlimit, hprefix, rfl⟩ := h
  refine ⟨?_, ?_, hlimit⟩
  · have hlength : bytes.length ≤ stream.sent.length - stream.taken := by
      simpa [pending] using hprefix.length_le
    unfold Sound at hsound ⊢
    show stream.taken + bytes.length ≤ stream.sent.length
    omega
  · show stream.sent.take (stream.taken + bytes.length) = _
    rw [List.take_add, List.prefix_iff_eq_take.mp hprefix]
    simp [got, pending]

end ChildStream

/-! ## What reading and writing keeps -/

namespace ChildWorld

variable {w w' w'' : ChildWorld}

/-- The world with the streams of another one. -/
def withStreams (w w' : ChildWorld) : ChildWorld :=
  { w with
    output := w'.output
    diagnostics := w'.diagnostics
    input := w'.input
    received := w'.received }

/-- But for the streams, the run only looks on. -/
def Trades (w w' : ChildWorld) : Prop := (w.withStreams w').Passes w'

theorem Passes.withStreams (h : w.Passes w') (streams : ChildWorld) :
    (w.withStreams streams).Passes (w'.withStreams streams) where
  now := h.now
  cancelled := h.cancelled
  child := h.child
  exit := h.exit
  output := .refl _
  diagnostics := .refl _
  clockFailed := h.clockFailed
  supervisionFailed := h.supervisionFailed
  waitFailed := h.waitFailed
  registered := h.registered
  started := h.started
  signalled := h.signalled
  killed := h.killed
  reaped := h.reaped
  unregistered := h.unregistered
  input := rfl
  received := rfl
  retained := h.retained
  signals := h.signals
  forces := h.forces
  emptied := h.emptied

theorem Passes.trades (h : w.Passes w') : w.Trades w' := h.withStreams w'

theorem Trades.refl (w : ChildWorld) : w.Trades w := (Passes.refl w).trades

theorem Trades.trans (h : w.Trades w') (h' : w'.Trades w'') : w.Trades w'' :=
  (Passes.withStreams h w'').trans h'

theorem trades_write (w : ChildWorld) (bytes : Bytes) : w.Trades (w.write bytes) :=
  Passes.refl (w.write bytes)

theorem trades_receive (w : ChildWorld) (bytes : Bytes) : w.Trades (w.receive bytes) :=
  Passes.refl (w.receive bytes)

theorem trades_output (w : ChildWorld) (output : ChildStream) :
    w.Trades { w with output := output } :=
  Passes.refl { w with output := output }

theorem trades_diagnostics (w : ChildWorld) (diagnostics : ChildStream) :
    w.Trades { w with diagnostics := diagnostics } :=
  Passes.refl { w with diagnostics := diagnostics }

end ChildWorld

/-! ## The streams of a run -/

/-- What was written and read is what the variables of the run say. -/
structure Exchanged (request : AwgSubprocessRequest) (capture : Bool) (io : ChildIo)
    (w : ChildWorld) : Prop where
  input : w.input = request.input.take io.written
  written : io.written ≤ request.input.length
  output : w.output.Sound
  buffer : capture = true → io.buffer = w.output.got
  outputEnd : capture = true → io.outputOpen = false → w.output.Exhausted
  diagnostics : w.diagnostics.Sound
  received : w.received = w.diagnostics.got
  diagnosticsEnd : request.diagnostics = true → io.diagnosticsOpen = false →
    w.diagnostics.Exhausted
  silent : capture = false → io.outputOpen = false
  unheard : request.diagnostics = false → io.diagnosticsOpen = false

section Exchanges

variable {request : AwgSubprocessRequest} {capture : Bool} {io : ChildIo} {w w' : ChildWorld}

theorem Exchanged.later (h : Exchanged request capture io w) (hlater : w.Later w') :
    Exchanged request capture io w' where
  input := hlater.input.trans h.input
  written := h.written
  output := hlater.output.sound h.output
  buffer hcapture := (h.buffer hcapture).trans (hlater.output.got h.output).symm
  outputEnd hcapture hclosed := hlater.output.exhausted (h.outputEnd hcapture hclosed)
  diagnostics := hlater.diagnostics.sound h.diagnostics
  received := hlater.received.trans
    (h.received.trans (hlater.diagnostics.got h.diagnostics).symm)
  diagnosticsEnd hasked hclosed := hlater.diagnostics.exhausted (h.diagnosticsEnd hasked hclosed)
  silent := h.silent
  unheard := h.unheard

/-- More of the input is written, or nothing. -/
theorem safe_writeInput (h : Exchanged request capture io w) :
    ChildSafe (writeInput request io) (fun r w' => w.Trades w' ∧
      Exchanged request capture r.2 w' ∧ ∃ written inputOpen,
        r.2 = { io with written := written, inputOpen := inputOpen }) w := by
  have hsame {ok : Bool} {w' : ChildWorld} (hpasses : w.Passes w') :
      w.Trades w' ∧ Exchanged request capture io w' ∧ ∃ written inputOpen,
        io = { io with written := written, inputOpen := inputOpen } :=
    ⟨hpasses.trades, h.later hpasses.toLater, io.written, io.inputOpen, rfl⟩
  unfold writeInput
  split
  · exact @hsame true w (.refl w)
  refine safe_childCall fun reply w₁ w' hdrifts hdoes => ?_
  cases reply with
  | wrote count =>
    obtain ⟨hcount, rfl⟩ := hdoes
    simp only [List.length_take, List.length_drop] at hcount
    have hwritten : io.written + count ≤ request.input.length := by
      have := h.written
      omega
    have h₁ := h.later hdrifts.toLater
    have htrades : w.Trades (w₁.write ((List.take ioChunkSize
        (request.input.drop io.written)).take count)) :=
      hdrifts.trades.trans (w₁.trades_write _)
    dsimp only
    split
    · rename_i hnone
      refine ⟨htrades, { h₁ with input := ?_ }, io.written, io.inputOpen, rfl⟩
      show w₁.input ++ _ = _
      rw [hnone, List.take_zero, List.append_nil]
      exact h₁.input
    have hinput : w₁.input ++ (List.take ioChunkSize (request.input.drop io.written)).take count =
        request.input.take (io.written + count) := by
      rw [h₁.input, List.take_add, List.take_take, min_eq_left (by omega)]
    exact ⟨htrades, { h₁ with input := hinput, written := hwritten }, _, _, rfl⟩
  | interrupted =>
    obtain rfl : w' = w₁ := hdoes
    exact @hsame true _ hdrifts
  | failed =>
    obtain rfl : w' = w₁ := hdoes
    exact @hsame false _ hdrifts

/-- More of the output is read, or nothing. What is too large is not accepted. -/
theorem safe_readOutput (h : Exchanged request capture io w)
    (hsized : io.buffer.length ≤ request.outputLimit) :
    ChildSafe (readOutput request io) (fun r w' => w.Trades w' ∧
      Exchanged request capture r.2 w' ∧
      (r.1 = .exited → r.2.buffer.length ≤ request.outputLimit) ∧ ∃ buffer outputOpen,
        r.2 = { io with buffer := buffer, outputOpen := outputOpen }) w := by
  unfold readOutput
  split
  · exact ⟨.refl w, h, fun _ => hsized, io.buffer, io.outputOpen, rfl⟩
  rename_i hopen
  have hcapture : capture = true := Bool.eq_true_of_not_eq_false fun hsilent =>
    hopen (h.silent hsilent)
  refine safe_childCall fun reply w₁ w' hdrifts hdoes => ?_
  have h₁ := h.later hdrifts.toLater
  obtain ⟨output, hreads, rfl⟩ := hdoes
  have htrades : w.Trades { w₁ with output := output } :=
    hdrifts.trades.trans (w₁.trades_output output)
  cases reply with
  | data bytes =>
    obtain ⟨hsound, hgot, -⟩ := hreads.data h₁.output
    refine ⟨htrades, { h₁ with
      output := hsound
      buffer := fun _ => ?_
      outputEnd := fun _ hclosed => absurd hclosed hopen }, fun hfits => ?_, _, _, rfl⟩
    · show io.buffer ++ bytes = output.got
      rw [hgot, h₁.buffer hcapture]
    · by_contra hlarge
      exact absurd ((if_pos (not_le.mp hlarge)).symm.trans hfits) (by simp)
  | ended =>
    obtain ⟨hend, rfl⟩ := hreads
    exact ⟨htrades, { h₁ with outputEnd := fun _ _ => hend, silent := fun _ => rfl },
      fun _ => hsized, _, _, rfl⟩
  | interrupted =>
    obtain rfl : output = w₁.output := hreads
    exact ⟨htrades, h₁, fun _ => hsized, io.buffer, io.outputOpen, rfl⟩
  | failed =>
    obtain rfl : output = w₁.output := hreads
    exact ⟨htrades, h₁, by simp, io.buffer, io.outputOpen, rfl⟩

/-- The callback is given what is read of the diagnostics. -/
theorem safe_readDiagnosticsUpTo (reads : ℕ) {io : ChildIo} {w : ChildWorld}
    (h : Exchanged request capture io w) :
    ChildSafe (readDiagnosticsUpTo reads io) (fun r w' => w.Trades w' ∧
      Exchanged request capture r.2 w' ∧ ∃ diagnosticsOpen,
        r.2 = { io with diagnosticsOpen := diagnosticsOpen }) w := by
  induction reads generalizing io w with
  | zero => exact ⟨.refl w, h, io.diagnosticsOpen, rfl⟩
  | succ reads ih =>
    unfold readDiagnosticsUpTo
    split
    · exact ⟨.refl w, h, io.diagnosticsOpen, rfl⟩
    rename_i hopen
    refine safe_childCall fun reply w₁ w' hdrifts hdoes => ?_
    have h₁ := h.later hdrifts.toLater
    obtain ⟨diagnostics, hreads, rfl⟩ := hdoes
    have htrades : w.Trades { w₁ with diagnostics := diagnostics } :=
      hdrifts.trades.trans (w₁.trades_diagnostics diagnostics)
    cases reply with
    | data bytes =>
      obtain ⟨hsound, hgot, -⟩ := hreads.data h₁.diagnostics
      refine safe_childCall fun _ w₂ w₃ hdrifts₂ hdoes₂ => ?_
      obtain rfl : w₃ = w₂.receive bytes := hdoes₂
      have hgrows := hdrifts₂.diagnostics
      have h₃ : Exchanged request capture io (w₂.receive bytes) :=
        { h₁ with
          input := hdrifts₂.input.trans h₁.input
          output := hdrifts₂.output.sound h₁.output
          buffer := fun hcapture => (h₁.buffer hcapture).trans (hdrifts₂.output.got h₁.output).symm
          outputEnd := fun hcapture hclosed =>
            hdrifts₂.output.exhausted (h₁.outputEnd hcapture hclosed)
          diagnostics := hgrows.sound hsound
          received := by
            show w₂.received ++ bytes = w₂.diagnostics.got
            rw [hgrows.got hsound, hgot, hdrifts₂.received]
            exact congrArg (· ++ bytes) h₁.received
          diagnosticsEnd := fun _ hclosed => absurd hclosed hopen }
      refine (ih h₃).mono fun r w' hs => ⟨?_, hs.2⟩
      exact htrades.trans (hdrifts₂.trades.trans ((w₂.trades_receive bytes).trans hs.1))
    | ended =>
      obtain ⟨hend, rfl⟩ := hreads
      have h₃ : Exchanged request capture { io with diagnosticsOpen := false } w₁ :=
        { h₁ with diagnosticsEnd := fun _ _ => hend, unheard := fun _ => rfl }
      exact (ih h₃).mono fun r w' hs => ⟨htrades.trans hs.1, hs.2⟩
    | interrupted =>
      obtain rfl : diagnostics = w₁.diagnostics := hreads
      exact ⟨htrades, h₁, io.diagnosticsOpen, rfl⟩
    | failed =>
      obtain rfl : diagnostics = w₁.diagnostics := hreads
      exact ⟨htrades, h₁, io.diagnosticsOpen, rfl⟩

/-! ## The loop -/

/-- The child of a run that has not been told to end it. -/
structure Attended (child : ℕ) (w : ChildWorld) : Prop where
  child : w.child = some child
  now : 0 ≤ w.now
  left : w.emptied = false
  signals : w.signalled = true → w.cancelled = true
  forces : w.forced = true → w.cancelled = true

/-- The child has been let go, and ended if the run says so. -/
structure Underway (request : AwgSubprocessRequest) (capture : Bool) (child : ℕ) (io : ChildIo)
    (w : ChildWorld) : Prop extends Exchanged request capture io w, Attended child w where
  registered : w.registered = true
  started : w.started = true
  sized : io.buffer.length ≤ request.outputLimit
  done : io.childDone = true → w.exit.isSome = true

/-- The loop has ended with a status. -/
structure Stopped (request : AwgSubprocessRequest) (capture : Bool) (child : ℕ)
    (status : SubprocessStatus) (io : ChildIo) (w : ChildWorld) : Prop
    extends Exchanged request capture io w, Attended child w where
  done : io.childDone = true → w.exit.isSome = true
  exited : status = .exited → io.childDone = true ∧ io.written = request.input.length ∧
    io.buffer.length ≤ request.outputLimit ∧ w.registered = true ∧ w.started = true ∧
    (request.completion = .waitForEof → io.outputOpen = false ∧ io.diagnosticsOpen = false)

variable {child : ℕ} {io' : ChildIo}

theorem Attended.trades (h : Attended child w) (htrades : w.Trades w') : Attended child w' where
  child := htrades.child.trans h.child
  now := h.now.trans htrades.now
  left := htrades.emptied.trans h.left
  signals hset := (htrades.signals hset).elim (fun hset => htrades.cancelled (h.signals hset)) id
  forces hset := by
    rcases htrades.forces hset with hset | hset | hcancelled
    · exact htrades.cancelled (h.forces hset)
    · exact htrades.cancelled (h.signals hset)
    · exact hcancelled

theorem isSome_exit_trades (htrades : w.Trades w') (hexit : w.exit.isSome = true) :
    w'.exit.isSome = true := by
  obtain ⟨how, hhow⟩ := Option.isSome_iff_exists.mp hexit
  rw [(htrades.exit how hhow).1]
  rfl

/-- What has been read and written since. -/
theorem Underway.next (h : Underway request capture child io w) (htrades : w.Trades w')
    (hexchanged : Exchanged request capture io' w')
    (hsized : io'.buffer.length ≤ request.outputLimit) (hdone : io'.childDone = io.childDone) :
    Underway request capture child io' w' where
  toExchanged := hexchanged
  toAttended := h.toAttended.trades htrades
  registered := htrades.registered.trans h.registered
  started := htrades.started.trans h.started
  sized := hsized
  done hset := isSome_exit_trades htrades (h.done (hdone.symm.trans hset))

theorem Underway.passes (h : Underway request capture child io w) (hpasses : w.Passes w') :
    Underway request capture child io w' :=
  h.next hpasses.trades (h.toExchanged.later hpasses.toLater) h.sized rfl

/-- A loop that fails. -/
theorem Underway.stop (h : Underway request capture child io w) {status : SubprocessStatus}
    (hstatus : status ≠ .exited) : Stopped request capture child status io w :=
  { h with exited := fun hexited => absurd hexited hstatus }

/-- The child of a round is done where it has ended. -/
theorem safe_childIsDone (h : Underway request capture child io w) :
    ChildSafe (childIsDone child io) (fun childDone w' => w.Passes w' ∧
      (childDone = some true → w'.exit.isSome = true)) w := by
  unfold childIsDone
  split
  · rename_i hdone
    exact ⟨.refl w, fun _ => h.done hdone⟩
  refine safe_childCall fun reply w₁ w' hdrifts hdoes => ?_
  have hpasses := hdrifts.trans (hdoes.passes trivial)
  cases reply with
  | ended how =>
    obtain ⟨hexit, rfl⟩ := hdoes
    refine ⟨hpasses, fun _ => ?_⟩
    rw [hexit (hdrifts.child.trans h.child)]
    rfl
  | running => exact ⟨hpasses, by simp⟩
  | interrupted => exact ⟨hpasses, by simp⟩
  | failed => exact ⟨hpasses, by simp⟩

/-- What a round of the loop comes to. -/
def RoundDone (request : AwgSubprocessRequest) (capture : Bool) (child : ℕ)
    (round : Round ChildIo (SubprocessStatus × ChildIo)) (w : ChildWorld) : Prop :=
  (∀ io, round = .again io → Underway request capture child io w) ∧
    ∀ stopped, round = .done stopped → Stopped request capture child stopped.1 stopped.2 w

theorem roundDone_again (h : Underway request capture child io w) :
    RoundDone request capture child (.again io) w := by
  refine ⟨fun io' hagain => ?_, by simp⟩
  obtain rfl : io = io' := by simpa using hagain
  exact h

theorem roundDone_done {status : SubprocessStatus}
    (h : Stopped request capture child status io w) :
    RoundDone request capture child (.done (status, io)) w := by
  refine ⟨by simp, fun stopped hstopped => ?_⟩
  obtain rfl : (status, io) = stopped := by simpa using hstopped
  exact h

theorem safe_awaitChild (h : Underway request capture child io w) (deadline now : ℤ) :
    ChildSafe (awaitChild deadline now io) (RoundDone request capture child) w := by
  unfold awaitChild
  refine safe_quiet (by trivial) fun reply w' hpasses => ?_
  cases reply with
  | polled => exact roundDone_again (h.passes hpasses)
  | interrupted => exact roundDone_again (h.passes hpasses)
  | failed => exact roundDone_done ((h.passes hpasses).stop (by simp))

theorem safe_concludeRound (h : Underway request capture child io w) (deadline now : ℤ) :
    ChildSafe (concludeRound request child deadline now io)
      (RoundDone request capture child) w := by
  unfold concludeRound
  refine (safe_childIsDone h).bind fun childDone w₁ hs => ?_
  obtain ⟨hpasses, hexit⟩ := hs
  have h₁ := h.passes hpasses
  cases childDone with
  | none => exact roundDone_done (h₁.stop (by simp))
  | some childDone =>
    dsimp only
    have h₂ : Underway request capture child { io with childDone := childDone } w₁ :=
      { h₁ with done := fun hdone => hexit (congrArg some hdone) }
    split
    · exact safe_awaitChild h₂ deadline now
    rename_i hdone
    have hdone : childDone = true := Bool.eq_true_of_not_eq_false hdone
    split
    · exact roundDone_done (h₂.stop (by simp))
    rename_i hwritten
    have hwritten := not_not.mp hwritten
    split
    · rename_i hclosed
      exact roundDone_done { h₂ with
        exited := fun _ => ⟨hdone, hwritten, h.sized, h₁.registered, h₁.started, fun _ => hclosed⟩ }
    split
    · rename_i hdrains
      split
      · refine roundDone_done { h₂ with
          exited := fun _ =>
            ⟨hdone, hwritten, h.sized, h₁.registered, h₁.started, fun hwaits => ?_⟩ }
        exact absurd (hdrains.symm.trans hwaits) (by simp)
      · exact roundDone_again { h₂ with }
    · exact safe_awaitChild h₂ deadline now

theorem safe_subprocessRound (h : Underway request capture child io w) (deadline : ℤ) :
    ChildSafe (subprocessRound request child deadline io) (RoundDone request capture child) w := by
  unfold subprocessRound
  refine safe_quiet (by trivial) fun now w₁ hpasses => ?_
  have h₁ := h.passes hpasses
  refine safe_quiet (by trivial) fun cancelled w₂ hpasses => ?_
  have h₂ := h₁.passes hpasses
  split
  · exact roundDone_done (h₂.stop (by simp))
  split
  · exact roundDone_done (h₂.stop (by simp))
  refine (safe_writeInput h₂.toExchanged).bind fun wrote w₃ hs => ?_
  obtain ⟨htrades, hexchanged, written, inputOpen, hio⟩ := hs
  have h₃ : Underway request capture child wrote.2 w₃ := by
    refine h₂.next htrades hexchanged ?_ ?_
    · rw [hio]
      exact h.sized
    · rw [hio]
  dsimp only
  split
  · exact roundDone_done (h₃.stop (by simp))
  refine (safe_readDiagnosticsUpTo _ h₃.toExchanged).bind fun heard w₄ hs => ?_
  obtain ⟨htrades, hexchanged, diagnosticsOpen, hio⟩ := hs
  have h₄ : Underway request capture child heard.2 w₄ := by
    refine h₃.next htrades hexchanged ?_ ?_
    · rw [hio]
      exact h₃.sized
    · rw [hio]
  dsimp only
  split
  · exact roundDone_done (h₄.stop (by simp))
  refine (safe_readOutput h₄.toExchanged h₄.sized).bind fun got w₅ hs => ?_
  obtain ⟨htrades, hexchanged, hsized, buffer, outputOpen, hio⟩ := hs
  dsimp only
  split
  · rename_i hfailed
    refine roundDone_done ⟨hexchanged, h₄.toAttended.trades htrades, fun hdone => ?_,
      fun hexited => absurd hexited hfailed⟩
    rw [hio] at hdone
    exact isSome_exit_trades htrades (h₄.done hdone)
  · rename_i hexited
    refine safe_concludeRound (h₄.next htrades hexchanged (hsized (not_not.mp hexited)) ?_)
      deadline now
    rw [hio]

/-! ## The end -/

variable {groups : ProcessGroups} {deadline outerDeadline : ℤ} {rounds : ℕ}
  {status : SubprocessStatus}

/-- A child that is registered is among the groups. -/
theorem safe_registerGroup (hexchanged : Exchanged request capture io w) (h : Attended child w)
    (hnew : w.registered = false) :
    ChildSafe (registerGroup groups child deadline) (fun r w' =>
      Exchanged request capture io w' ∧ Attended child w' ∧
      (r.1 = true → w'.registered = true ∧ w'.started = true) ∧
      (w'.registered = true → r.2.has child = true) ∧ r.2.retained = groups.retained) w := by
  have hactive : ProcessGroups.has { groups with active := some child } child = true := by
    simp [ProcessGroups.has]
  have hregistered : ChildSafe (registerChild groups child deadline) (fun r w' =>
      Exchanged request capture io w' ∧ Attended child w' ∧
      (r.1 = true → w'.registered = true ∧ w'.started = true) ∧
      (w'.registered = true → r.2.has child = true) ∧ r.2.retained = groups.retained) w := by
    unfold registerChild
    refine safe_quiet (by trivial) fun ingroup w₁ hpasses => ?_
    have hexchanged₁ := hexchanged.later hpasses.toLater
    have h₁ := h.trades hpasses.trades
    have hnew₁ := hpasses.registered.trans hnew
    split
    · exact ⟨hexchanged₁, h₁, by simp, fun hset => absurd (hnew₁.symm.trans hset) (by simp), rfl⟩
    refine safe_childCall fun ok w₂ w₃ hdrifts hdoes => ?_
    obtain ⟨w₄, hdispatched, rfl⟩ := hdoes
    have hpasses₄ := hdrifts.trans hdispatched.passes
    have hexchanged₄ := hexchanged₁.later hpasses₄.toLater
    have h₄ := h₁.trades hpasses₄.trades
    have hnew₄ := hpasses₄.registered.trans hnew₁
    cases ok with
    | false =>
      exact ⟨{ hexchanged₄ with }, { h₄ with }, by simp,
        fun hset => absurd (hnew₄.symm.trans hset) (by simp), rfl⟩
    | true =>
      have hexchanged₅ : Exchanged request capture io (w₄.acknowledged .register) :=
        { hexchanged₄ with }
      have h₅ : Attended child (w₄.acknowledged .register) := { h₄ with }
      refine safe_quiet (by trivial) fun _ w₆ hpasses₆ => ?_
      refine safe_quiet (by trivial) fun cancelled w₇ hpasses₇ => ?_
      have hpasses₇ := hpasses₆.trans hpasses₇
      have hexchanged₇ := hexchanged₅.later hpasses₇.toLater
      have h₇ := h₅.trades hpasses₇.trades
      split
      · exact ⟨hexchanged₇, h₇, by simp, fun _ => hactive, rfl⟩
      refine safe_childCall fun started w₈ w₉ hdrifts₈ hdoes₈ => ?_
      obtain rfl : w₉ = if started = true then w₈.letGo else w₈ := hdoes₈
      have hpasses₈ := hpasses₇.trans hdrifts₈
      have hexchanged₈ := hexchanged₅.later hpasses₈.toLater
      have h₈ := h₅.trades hpasses₈.trades
      cases started with
      | false => exact ⟨hexchanged₈, h₈, by simp, fun _ => hactive, rfl⟩
      | true => exact ⟨{ hexchanged₈ with }, { h₈ with }, fun _ => ⟨hpasses₈.registered, rfl⟩,
          fun _ => hactive, rfl⟩
  unfold registerGroup
  refine hregistered.bind fun r w₁ hs => ?_
  obtain ⟨hexchanged₁, h₁, hstarted, hhas, hretained⟩ := hs
  refine safe_quiet (by trivial) fun restored w₂ hpasses => ?_
  refine safe_quiet (by trivial) fun _ w₃ hpasses₃ => ?_
  have hpasses := hpasses.trans hpasses₃
  refine ⟨hexchanged₁.later hpasses.toLater, h₁.trades hpasses.trades, fun hok => ?_,
    fun hset => ?_,
    hretained⟩
  · obtain ⟨hregistered, hgoes⟩ := hstarted (Bool.and_eq_true_iff.mp hok).1
    exact ⟨hpasses.registered.trans hregistered, hpasses.started.trans hgoes⟩
  · exact hhas (hpasses.registered.symm.trans hset)

/-- The loop of a child that was registered ends, or was not begun. -/
theorem ends_exchangeWithChild (hexchanged : Exchanged request capture (request.io capture) w)
    (h : Attended child w) {registered : Bool}
    (hregistered : registered = true → w.registered = true ∧ w.started = true) :
    ChildEnds (exchangeWithChild request capture child deadline rounds registered)
      (fun stopped w' => Stopped request capture child stopped.1 stopped.2 w' ∧
        (w'.registered = true → w.registered = true)) w := by
  unfold exchangeWithChild
  split
  · rename_i hok
    obtain ⟨hset, hgoes⟩ := hregistered hok
    refine (Ends.loop (I := Underway request capture child) (fun io w₁ h₁ => ?_) rounds
      ⟨hexchanged, h, hset, hgoes, Nat.zero_le _, by simp [AwgSubprocessRequest.io]⟩).mono
      fun stopped w' hs => ⟨hs, fun _ => hset⟩
    exact ends_lift.mpr (safe_subprocessRound h₁ deadline)
  · exact ends_return.mpr ⟨⟨hexchanged, h, by simp [AwgSubprocessRequest.io], by simp⟩, id⟩

/-- A group is wanted where its launcher has succeeded and the caller says so. -/
theorem safe_wantsRetained (h : Stopped request capture child status io w) :
    ChildSafe (wantsRetained request child status) (fun retain w' =>
      Stopped request capture child status io w' ∧ w'.registered = w.registered ∧
      (retain = true → status = .exited ∧ w'.exit = some (.exited 0) ∧ w'.retained = true)) w := by
  have hkept {w' : ChildWorld} (htrades : w.Trades w')
      (hexchanged : Exchanged request capture io w') : Stopped request capture child status io w' :=
    { hexchanged, h.toAttended.trades htrades with
      done := fun hdone => isSome_exit_trades htrades (h.done hdone)
      exited := fun hexited => by
        obtain ⟨hdone, hwritten, hsized, hregistered, hstarted, hends⟩ := h.exited hexited
        exact ⟨hdone, hwritten, hsized, htrades.registered.trans hregistered,
          htrades.started.trans hstarted, hends⟩ }
  unfold wantsRetained
  split
  · exact ⟨h, rfl, by simp⟩
  rename_i hexited
  have hexited := not_not.mp hexited
  refine safe_childCall fun reply w₁ w₂ hdrifts hdoes => ?_
  have hpasses := hdrifts.trans (hdoes.passes trivial)
  have h₂ := hkept hpasses.trades (h.toExchanged.later hpasses.toLater)
  split
  · obtain ⟨hexit, rfl⟩ := hdoes
    have hexit := hexit (hdrifts.child.trans h.child)
    split
    · refine ⟨trivial, ?_⟩
      rintro answer w₄ ⟨w₃, hdrifts₃, rfl⟩
      have hpasses₃ := hpasses.trans hdrifts₃.passes
      have h₃ := hkept hpasses₃.trades (h.toExchanged.later hpasses₃.toLater)
      refine ⟨{ h₃ with }, hpasses₃.registered, fun hretain => ⟨hexited, ?_, hretain⟩⟩
      exact (hdrifts₃.passes.exit _ hexit).1
    · exact ⟨h₂, hpasses.registered, by simp⟩
  · exact ⟨h₂, hpasses.registered, by simp⟩

/-- What a run has made of the group of its child. -/
inductive GroupLeft (groups groups' : ProcessGroups) (child : ℕ) (outerDeadline : ℤ)
    (w : ChildWorld) : Prop
  | retained (hretained : groups'.retained = some child) (hexit : w.exit = some (.exited 0))
      (hanswer : w.retained = true)
  | unseen (hfailed : w.waitFailed = true)
      (hsame : groups'.retained = some child → groups.retained = some child)
  | closed (hkilled : w.killed = true ∨ w.clockFailed = true)
      (hreaped : w.reaped = true ∨ w.GaveUp outerDeadline)
      (hleft : (groups.has child = true → w.unregistered = true) ∨ w.supervisionFailed = true ∨
        w.clockFailed = true ∨ w.emptied = false)
      (hsame : groups'.retained = some child → groups.retained = some child)

/-- The child of a run has exited, and its group is retained, with no signal sent, or ended. -/
structure ExitSeen (request : AwgSubprocessRequest) (groups groups' : ProcessGroups) (child : ℕ)
    (io : ChildIo) (waitStatus : ℕ) (w : ChildWorld) : Prop where
  written : io.written = request.input.length
  sized : io.buffer.length ≤ request.outputLimit
  registered : w.registered = true
  started : w.started = true
  ends : request.completion = .waitForEof → io.outputOpen = false
  forces : w.forced = true → w.cancelled = true
  exit : ∃ how, w.exit = some how ∧ waitStatus = how.waitStatus
  group : groups'.retained = some child ∧ w.exit = some (.exited 0) ∧ w.retained = true ∧
      (w.signalled = true → w.cancelled = true) ∨
    w.killed = true ∧ w.reaped = true ∧ w.emptied = true ∧
      (groups.has child = true → w.unregistered = true) ∧ groups'.retained ≠ some child

/-- A run has ended its child. -/
structure ChildConcluded (request : AwgSubprocessRequest) (capture : Bool) (groups : ProcessGroups)
    (child : ℕ) (outerDeadline : ℤ) (e : ChildEnd) (w : ChildWorld) : Prop
    extends Exchanged request capture e.io w where
  forked : w.child = some child
  now : 0 ≤ w.now
  done : e.io.childDone = true → w.exit.isSome = true
  exited : e.status = .exited →
    ExitSeen request groups e.groups child e.io e.waitStatus w
  group : GroupLeft groups e.groups child outerDeadline w

theorem GroupEnded.groupLeft {e : GroupEnd} (h : GroupEnded groups child deadline e w) :
    GroupLeft groups e.groups child deadline w := by
  refine .closed h.killed h.reaped ?_ h.groups
  rcases h.left with hok | hfailed
  · exact .inl (h.done hok).2.2.1
  · exact .inr hfailed

theorem GroupLeft.later {groups' : ProcessGroups}
    (h : GroupLeft groups groups' child outerDeadline w)
    (hlater : w.Later w') (hemptied : w'.emptied = w.emptied) :
    GroupLeft groups groups' child outerDeadline w' := by
  cases h with
  | retained hretained hexit hanswer =>
    exact .retained hretained (hlater.exit _ hexit).1 (hlater.retained.trans hanswer)
  | unseen hfailed hsame => exact .unseen (hlater.waitFailed hfailed) hsame
  | closed hkilled hreaped hleft hsame =>
    refine .closed (hkilled.imp hlater.killed hlater.clockFailed)
      (hreaped.imp hlater.reaped fun hgave => hgave.later hlater) ?_ hsame
    rcases hleft with hunregistered | hfailed | hfailed | hsome
    · exact .inl fun hhas => hlater.unregistered (hunregistered hhas)
    · exact .inr (.inl (hlater.supervisionFailed hfailed))
    · exact .inr (.inr (.inl (hlater.clockFailed hfailed)))
    · exact .inr (.inr (.inr (hemptied.trans hsome)))

/-- Where a child that is done is finished, its group is ended or retained. -/
theorem ends_finishDone (h : Stopped request capture child status io w)
    (hdone : io.childDone = true) :
    ChildEnds (finishDone request groups child outerDeadline rounds status io)
      (fun e w' => ChildConcluded request capture groups child outerDeadline e w' ∧
        w'.registered = w.registered) w := by
  unfold finishDone
  refine (safe_wantsRetained h).bindEnds fun retain w₁ hs => ?_
  obtain ⟨h₁, hsame₁, hretain⟩ := hs
  obtain ⟨how, hexit⟩ := Option.isSome_iff_exists.mp (h₁.done hdone)
  cases retain with
  | true =>
    obtain ⟨hexited, hzero, hanswer⟩ := hretain rfl
    obtain ⟨-, hwritten, hsized, hregistered, hstarted, hends⟩ := h₁.exited hexited
    refine (ends_retainGroup h₁.child hzero).bind fun e w₂ hs => ?_
    obtain ⟨hpasses, hended⟩ := hs
    have h₂ := h₁.toAttended.trades hpasses.trades
    have hexchanged₂ := h₁.toExchanged.later hpasses.toLater
    have hzero₂ := (hpasses.exit _ hzero).1
    have hanswer₂ := hpasses.retained.trans hanswer
    have hsame₂ := hpasses.registered.trans hsame₁
    simp only [Bool.true_eq_false, false_and, if_false]
    refine ends_return.mpr ⟨⟨hexchanged₂, h₂.child, h₂.now, fun _ => ?_, fun hstatus => ?_, ?_⟩,
      hsame₂⟩
    · rw [hzero₂]
      rfl
    · obtain rfl | ⟨rfl, -⟩ := hended
      · exact ⟨hwritten, hsized, hpasses.registered.trans hregistered,
          hpasses.started.trans hstarted, fun hwaits => (hends hwaits).1, h₂.forces,
          ⟨_, hzero₂, rfl⟩, .inl ⟨rfl, hzero₂, hanswer₂, h₂.signals⟩⟩
      · simp [hexited] at hstatus
    · obtain rfl | ⟨rfl, hfailed⟩ := hended
      · exact .retained rfl hzero₂ hanswer₂
      · exact .unseen hfailed id
  | false =>
    refine (ends_finishGroup h₁.child h₁.now h₁.left).bind fun e w₂ hs => ?_
    obtain ⟨hlater, hended⟩ := hs
    have hexchanged₂ := h₁.toExchanged.later hlater
    obtain ⟨hexit₂, hforced₂⟩ := hlater.exit how hexit
    have hsame₂ := hlater.registered.trans hsame₁
    have hseen (hok : e.ok = true) (hexited : status = .exited) :
        ExitSeen request groups e.groups child io (e.status.getD 0) w₂ := by
      obtain ⟨-, hwritten, hsized, hregistered, hstarted, hends⟩ := h₁.exited hexited
      obtain ⟨hkilled, hemptied, hunregistered, hgone, found, hfound, hreaped⟩ := hended.done hok
      refine ⟨hwritten, hsized, hlater.registered.trans hregistered,
        hlater.started.trans hstarted, fun hwaits => (hends hwaits).1, fun hset => ?_, ?_, .inr ?_⟩
      · exact hlater.cancelled (h₁.forces (hforced₂.symm.trans hset))
      · rw [hfound]
        exact hreaped.exit
      · exact ⟨hkilled, hreaped.reaped, hemptied, hunregistered, ProcessGroups.retained_ne hgone⟩
    have hkept {status' : SubprocessStatus} {io' : ChildIo} {w' : ChildWorld}
        (htrades : w₂.Trades w') (hexchanged : Exchanged request capture io' w')
        (hio : io'.written = io.written ∧ io'.buffer = io.buffer ∧ io'.outputOpen = io.outputOpen)
        (hstatus : status' = .exited → e.ok = true ∧ status = .exited) :
        ChildConcluded request capture groups child outerDeadline
          ⟨status', e.status.getD 0, io', e.groups⟩ w' ∧ w'.registered = w.registered := by
      obtain ⟨hwritten, hbuffer, hopen⟩ := hio
      have hlater' : (w₂.withStreams w').Later w' := htrades.toLater
      refine ⟨⟨hexchanged, hlater'.child.trans (hlater.child.trans h₁.child),
        (h₁.now.trans hlater.now).trans hlater'.now, fun _ => ?_, fun hexited => ?_, ?_⟩,
        hlater'.registered.trans hsame₂⟩
      · exact isSome_exit_trades htrades (by rw [hexit₂]; rfl)
      · obtain ⟨hok, hexited⟩ := hstatus hexited
        have hseen := hseen hok hexited
        obtain ⟨found, hfound, hwait⟩ := hseen.exit
        obtain ⟨hfound', hforced'⟩ := hlater'.exit found hfound
        obtain ⟨hret, -⟩ | ⟨hkilled, hreaped, hemptied, hunregistered, hgone⟩ := hseen.group
        · exact absurd hret (ProcessGroups.retained_ne (hended.done hok).2.2.2.1)
        · refine ⟨hwritten.trans hseen.written, hbuffer.symm ▸ hseen.sized,
            hlater'.registered.trans hseen.registered, hlater'.started.trans hseen.started,
            fun hwaits => hopen.trans (hseen.ends hwaits), fun hset => ?_, ⟨found, hfound', hwait⟩,
            .inr ⟨hlater'.killed hkilled, hlater'.reaped hreaped,
              htrades.emptied.trans hemptied, fun hhas => hlater'.unregistered (hunregistered hhas),
              hgone⟩⟩
          exact hlater'.cancelled (hseen.forces (hforced'.symm.trans hset))
      · have hleft : GroupLeft groups e.groups child outerDeadline (w₂.withStreams w') :=
          match hended.groupLeft with
          | .retained hretained hexit hanswer => .retained hretained hexit hanswer
          | .unseen hfailed hsame => .unseen hfailed hsame
          | .closed hkilled hreaped hleft hsame => .closed hkilled hreaped hleft hsame
        exact hleft.later hlater' htrades.emptied
    have hok {status' : SubprocessStatus}
        (hstatus : (if e.ok = false ∧ status = .exited then .ioFailed else status) = status')
        (hexited : status' = .exited) : e.ok = true ∧ status = .exited := by
      subst hstatus
      split at hexited
      · exact absurd hexited (by simp)
      · rename_i hother
        exact ⟨Bool.eq_true_of_not_eq_false fun hnot => hother ⟨hnot, hexited⟩, hexited⟩
    dsimp only
    generalize hstatus : (if e.ok = false ∧ status = .exited then SubprocessStatus.ioFailed
      else status) = status'
    split
    · refine (safe_readDiagnosticsUpTo _ hexchanged₂).bindEnds fun heard w₃ hs => ?_
      obtain ⟨htrades, hexchanged₃, diagnosticsOpen, hio⟩ := hs
      refine ends_return.mpr (hkept htrades hexchanged₃ (by rw [hio]; simp) fun hexited => ?_)
      split at hexited
      · exact hok hstatus hexited
      · exact absurd hexited (by simp)
    · exact ends_return.mpr (hkept (.refl w₂) hexchanged₂ ⟨rfl, rfl, rfl⟩ (hok hstatus))

theorem ends_finishChild (h : Stopped request capture child status io w) :
    ChildEnds (finishChild request groups child outerDeadline rounds status io)
      (fun e w' => ChildConcluded request capture groups child outerDeadline e w' ∧
        w'.registered = w.registered) w := by
  unfold finishChild
  split
  · rename_i hdone
    exact ends_finishDone h hdone
  · rename_i hrunning
    refine (ends_terminateGroup h.child h.now h.left _).bind fun e w' hs => ?_
    obtain ⟨hlater, hended⟩ := hs
    refine ends_return.mpr ⟨⟨h.toExchanged.later hlater, hlater.child.trans h.child,
      h.now.trans hlater.now, fun hdone => absurd hdone hrunning, fun hexited => ?_,
      hended.groupLeft⟩, hlater.registered⟩
    exact absurd (h.exited hexited).1 hrunning

/-! ## The main result -/

/-- What a run has returned is what its child has done. A run that tells that its child has exited
is in time, and its child was registered, was given its whole input and has ended before the run
sent any signal, with the status that is returned. The output that is returned is what the child
has written, and all of it where the end of the file is waited for; the diagnostics came in order,
and all of them where they are complete. A group is retained only for a child that has exited with
0 and where the caller wants it. Any other is killed, and the child reaped, unless the clock, the
service or a wait has failed or it is too late; it is unregistered where no process of it is
left. -/
structure FaithfulResult (request : AwgSubprocessRequest) (capture : Bool) (outerDeadline : ℤ)
    (groups groups' : ProcessGroups) (result : AwgSubprocessResult) (w : ChildWorld) : Prop where
  ran : result.mayHaveRun = w.child.isSome
  exited : result.status = .exited → w.registered = true ∧ w.started = true ∧ w.forced = false ∧
    w.input = request.input ∧ w.now < outerDeadline ∧
    ∃ how, w.exit = some how ∧ result.waitStatus = how.waitStatus
  returned : result.output.isSome = true ↔ capture = true ∧ result.status = .exited
  captured : ∀ bytes ∈ result.output, bytes <+: w.output.sent ∧
    bytes.length ≤ request.outputLimit ∧
    (request.completion = .waitForEof → w.output.closed = true ∧ bytes = w.output.sent)
  received : w.received <+: w.diagnostics.sent
  complete : result.diagnosticsComplete = true → w.exit.isSome = true ∧
    w.diagnostics.closed = true ∧ w.received = w.diagnostics.sent
  retained : ∀ child ∈ w.child, groups'.retained = some child → groups.retained = some child ∨
    w.exit = some (.exited 0) ∧ w.retained = true
  finished : result.status = .exited → ∀ child ∈ w.child,
    groups'.retained = some child ∧ w.signalled = false ∨
      w.killed = true ∧ w.reaped = true ∧ w.emptied = true ∧ w.unregistered = true
  ended : ∀ child ∈ w.child, groups'.retained ≠ some child → w.clockFailed = false →
    w.supervisionFailed = false → w.waitFailed = false → w.now < outerDeadline →
    w.killed = true ∧ w.reaped = true ∧
      (w.registered = true → w.emptied = true → w.unregistered = true)

/-- The last status is the one of an exit only where the run is neither cancelled nor late. -/
theorem exited_of_lastStatus {cancelled : Bool} {now : ℤ}
    (h : lastStatus cancelled now outerDeadline status = .exited) :
    cancelled = false ∧ status = .exited ∧ 0 ≤ now ∧ now < outerDeadline := by
  unfold lastStatus at h
  cases cancelled with
  | true => simp at h
  | false =>
    simp only [Bool.false_eq_true, if_false] at h
    split at h
    · exact absurd h (by simp)
    · rename_i hintime
      have hintime : ¬(now < 0 ∨ now ≥ outerDeadline) := fun hlate => hintime ⟨h, hlate⟩
      exact ⟨rfl, h, by omega, by omega⟩

/-- Whether the run was cancelled is asked last but one, and then the time. -/
theorem safe_concludeRun {e : ChildEnd} {start : ProcessGroups}
    (h : ChildConcluded request capture groups child outerDeadline e w)
    (hhas : w.registered = true → groups.has child = true)
    (hstart : groups.retained = start.retained) :
    ChildSafe (concludeRun request capture outerDeadline e) (fun r w' =>
      FaithfulResult request capture outerDeadline start r.2 r.1 w') w := by
  unfold concludeRun
  refine safe_childCall fun cancelled w₀ w₁ hdrifts hdoes => ?_
  obtain ⟨hcancelled, rfl⟩ := hdoes
  refine ⟨trivial, ?_⟩
  rintro now w₃ ⟨w₂, hdrifts₂, hdoes⟩
  have hpasses₃ := hdrifts₂.passes.trans (ChildWorld.Does.passes hdoes trivial)
  have hlater := hdrifts.toLater.trans hpasses₃.toLater
  have hsignalled : w₃.signalled = w₁.signalled := by
    obtain ⟨-, rfl⟩ | ⟨-, rfl⟩ := hdoes
    · exact hdrifts₂.signalled
    · exact hdrifts₂.signalled
  have hexchanged := h.toExchanged.later hlater
  have hchild : w₃.child = some child := hlater.child.trans h.forked
  have hmine {child' : ℕ} (hmem : child' ∈ w₃.child) : child = child' :=
    Option.some.inj (hchild.symm.trans hmem)
  have hleft := h.group.later hlater (hpasses₃.emptied.trans hdrifts.emptied)
  show FaithfulResult request capture outerDeadline start e.groups
    ⟨lastStatus cancelled now outerDeadline e.status, true, e.waitStatus, _, _⟩ w₃
  generalize hlast : lastStatus cancelled now outerDeadline e.status = last
  -- a run that tells that its child has exited was not cancelled before it was asked
  have hseen (hexited : last = .exited) : w.cancelled = false ∧ w₁.cancelled = false ∧
      w₃.now < outerDeadline ∧
      ExitSeen request groups e.groups child e.io e.waitStatus w := by
    obtain ⟨hnot, hstatus, hpositive, hintime⟩ := exited_of_lastStatus (hlast.trans hexited)
    have hnot₁ : w₁.cancelled = false := hcancelled.symm.trans hnot
    refine ⟨?_, hnot₁, ?_, h.exited hstatus⟩
    · exact Bool.eq_false_iff.mpr fun hset =>
        Bool.false_ne_true (hnot₁.symm.trans (hdrifts.cancelled hset))
    · obtain ⟨rfl, rfl⟩ | ⟨hnegative, -⟩ := hdoes
      · exact hintime
      · exact absurd hpositive (not_le.mpr hnegative)
  refine ⟨?_, fun hexited => ?_, ?_, fun bytes hbytes => ?_, ?_, fun hcomplete => ?_,
    fun child' hmem hretained => ?_, fun hexited child' hmem => ?_,
    fun child' hmem hgone hclock hsupervision hwait hintime => ?_⟩
  · rw [hchild]
    rfl
  · obtain ⟨hnot, -, hintime, hseen⟩ := hseen hexited
    obtain ⟨how, hexit, hwait⟩ := hseen.exit
    obtain ⟨hexit', hforced⟩ := hlater.exit how hexit
    refine ⟨hlater.registered.trans hseen.registered, hlater.started.trans hseen.started, ?_, ?_,
      hintime, how, hexit', hwait⟩
    · exact hforced.trans (Bool.eq_false_iff.mpr fun hset =>
        Bool.false_ne_true (hnot.symm.trans (hseen.forces hset)))
    · rw [hexchanged.input, hseen.written, List.take_length]
  · show (if capture = true ∧ last = .exited then some e.io.buffer else none).isSome = true ↔ _
    split
    · rename_i hgiven
      exact iff_of_true rfl hgiven
    · rename_i hkept
      exact iff_of_false Bool.false_ne_true hkept
  · have hbytes : bytes ∈ (if capture = true ∧ last = .exited then some e.io.buffer else none) :=
      hbytes
    split at hbytes
    · rename_i hgiven
      obtain rfl : e.io.buffer = bytes := Option.some.inj hbytes
      obtain ⟨-, -, -, hseen⟩ := hseen hgiven.2
      rw [hexchanged.buffer hgiven.1]
      refine ⟨w₃.output.got_prefix, ?_, fun hwaits => ?_⟩
      · rw [← hexchanged.buffer hgiven.1]
        exact hseen.sized
      · have hend := hexchanged.outputEnd hgiven.1 (hseen.ends hwaits)
        exact ⟨hend.1, hend.got_eq⟩
    · exact absurd hbytes (by simp)
  · rw [hexchanged.received]
    exact w₃.diagnostics.got_prefix
  · have hcomplete : (request.diagnostics && !e.io.diagnosticsOpen && e.io.childDone) = true :=
      hcomplete
    simp only [Bool.and_eq_true, Bool.not_eq_true'] at hcomplete
    obtain ⟨⟨hasked, hclosed⟩, hdone⟩ := hcomplete
    have hend := hexchanged.diagnosticsEnd hasked hclosed
    refine ⟨?_, hend.1, hexchanged.received.trans hend.got_eq⟩
    obtain ⟨how, hexit⟩ := Option.isSome_iff_exists.mp (h.done hdone)
    rw [(hlater.exit how hexit).1]
    rfl
  · obtain rfl := hmine hmem
    cases hleft with
    | retained _ hexit hanswer => exact .inr ⟨hexit, hanswer⟩
    | unseen _ hsame => exact .inl (hstart ▸ hsame hretained)
    | closed _ _ _ hsame => exact .inl (hstart ▸ hsame hretained)
  · obtain rfl := hmine hmem
    obtain ⟨hnot, hnot₁, -, hseen⟩ := hseen hexited
    obtain ⟨hretained, -, -, hsignals⟩ | ⟨hkilled, hreaped, hemptied, hunregistered, -⟩ :=
      hseen.group
    · refine .inl ⟨hretained, hsignalled.trans (Bool.eq_false_iff.mpr fun hset => ?_)⟩
      rcases hdrifts.signals hset with hset | hset
      · exact Bool.false_ne_true (hnot.symm.trans (hsignals hset))
      · exact Bool.false_ne_true (hnot₁.symm.trans hset)
    · exact .inr ⟨hlater.killed hkilled, hlater.reaped hreaped,
        (hpasses₃.emptied.trans hdrifts.emptied).trans hemptied,
        hlater.unregistered (hunregistered (hhas hseen.registered))⟩
  · obtain rfl := hmine hmem
    cases hleft with
    | retained hretained => exact absurd hretained hgone
    | unseen hfailed => exact absurd (hwait.symm.trans hfailed) Bool.false_ne_true
    | closed hkilled hreaped hleft =>
      refine ⟨hkilled.resolve_right (by simp [hclock]), hreaped.resolve_right ?_,
        fun hregistered hemptied => ?_⟩
      · rintro (hset | hset | hlate)
        · exact absurd (hclock.symm.trans hset) Bool.false_ne_true
        · exact absurd (hwait.symm.trans hset) Bool.false_ne_true
        · exact absurd hintime (not_lt.mpr hlate)
      · rcases hleft with hunregistered | hset | hset | hsome
        · exact hunregistered (hhas (hlater.registered.symm.trans hregistered))
        · exact absurd (hsupervision.symm.trans hset) Bool.false_ne_true
        · exact absurd (hclock.symm.trans hset) Bool.false_ne_true
        · exact absurd (hsome.symm.trans hemptied) Bool.false_ne_true

/-! ## The start -/

/-- No child was forked yet. -/
structure Unborn (request : AwgSubprocessRequest) (capture : Bool) (w : ChildWorld) : Prop
    extends Exchanged request capture (request.io capture) w where
  child : w.child = none
  left : w.emptied = false
  registered : w.registered = false
  signals : w.signalled = true → w.cancelled = true
  forces : w.forced = true → w.cancelled = true

theorem unborn_fresh (request : AwgSubprocessRequest) (capture : Bool) (now : ℤ)
    (cancelled escalated : Bool) :
    Unborn request capture (.fresh now cancelled escalated) where
  input := rfl
  written := Nat.zero_le _
  output := Nat.zero_le _
  buffer _ := rfl
  outputEnd hcapture hclosed := absurd (hcapture.symm.trans hclosed) (by simp)
  diagnostics := Nat.zero_le _
  received := rfl
  diagnosticsEnd hasked hclosed := absurd (hasked.symm.trans hclosed) (by simp)
  silent := id
  unheard := id
  child := rfl
  left := rfl
  registered := rfl
  signals hset := absurd hset Bool.false_ne_true
  forces hset := absurd hset Bool.false_ne_true

theorem Unborn.passes (h : Unborn request capture w) (hpasses : w.Passes w') :
    Unborn request capture w' where
  toExchanged := h.toExchanged.later hpasses.toLater
  child := hpasses.child.trans h.child
  left := hpasses.emptied.trans h.left
  registered := hpasses.registered.trans h.registered
  signals hset := (hpasses.signals hset).elim (fun hset => hpasses.cancelled (h.signals hset)) id
  forces hset := by
    rcases hpasses.forces hset with hset | hset | hcancelled
    · exact hpasses.cancelled (h.forces hset)
    · exact hpasses.cancelled (h.signals hset)
    · exact hcancelled

/-- A run without a child has nothing to tell. -/
theorem Unborn.faithful (h : Unborn request capture w) (hstatus : status ≠ .exited) :
    FaithfulResult request capture outerDeadline groups groups (.notRun status) w where
  ran := by
    rw [h.child]
    rfl
  exited hexited := absurd hexited hstatus
  returned := iff_of_false (by simp [AwgSubprocessResult.notRun]) fun hexited =>
    hstatus hexited.2
  captured bytes hbytes := absurd hbytes (by simp [AwgSubprocessResult.notRun])
  received := by
    rw [h.received]
    exact w.diagnostics.got_prefix
  complete hcomplete := absurd hcomplete Bool.false_ne_true
  retained child hmem := absurd (h.child.symm.trans hmem) (by simp)
  finished hexited := absurd hexited hstatus
  ended child hmem := absurd (h.child.symm.trans hmem) (by simp)

theorem ends_runChild (hexchanged : Exchanged request capture (request.io capture) w)
    (h : Attended child w) (hnew : w.registered = false) :
    ChildEnds (runChild request capture groups child deadline outerDeadline rounds) (fun r w' =>
      FaithfulResult request capture outerDeadline groups r.2 r.1 w') w := by
  unfold runChild
  refine (safe_registerGroup hexchanged h hnew).bindEnds fun registered w₁ hs => ?_
  obtain ⟨hexchanged₁, h₁, hregistered, hhas, hretained⟩ := hs
  refine (ends_exchangeWithChild hexchanged₁ h₁ hregistered).bind fun stopped w₂ hs => ?_
  obtain ⟨h₂, hsame₂⟩ := hs
  refine (ends_finishChild h₂).bind fun e w₃ hs => ?_
  obtain ⟨h₃, hsame₃⟩ := hs
  exact ends_lift.mpr (safe_concludeRun h₃
    (fun hset => hhas (hsame₂ (hsame₃.symm.trans hset))) hretained)

theorem safe_openPipeIf (needed : Bool) (pipe : ChildPipe) :
    ChildSafe (openPipeIf needed pipe) (fun _ w' => w.Passes w') w := by
  unfold openPipeIf
  split
  · refine ⟨trivial, ?_⟩
    rintro opened w' ⟨w₁, hdrifts, hdoes⟩
    exact hdrifts.passes.trans (ChildWorld.Does.passes hdoes trivial)
  · exact .refl w

theorem safe_openDescriptors :
    ChildSafe (openDescriptors request capture) (fun _ w' => w.Passes w') w := by
  unfold openDescriptors
  refine safe_quiet (by trivial) fun duplicated w₁ hpasses => ?_
  split
  · exact hpasses
  refine (safe_openPipeIf _ _).bind fun input w₂ hpasses₂ => ?_
  have hpasses := hpasses.trans hpasses₂
  split
  · exact hpasses
  refine (safe_openPipeIf _ _).bind fun output w₃ hpasses₃ => ?_
  have hpasses := hpasses.trans hpasses₃
  split
  · exact hpasses
  refine (safe_openPipeIf _ _).bind fun diagnostics w₄ hpasses₄ => ?_
  have hpasses := hpasses.trans hpasses₄
  split
  · exact hpasses
  · refine ⟨trivial, ?_⟩
    rintro opened w' ⟨w₅, hdrifts, hdoes⟩
    exact hpasses.trans (hdrifts.passes.trans (ChildWorld.Does.passes hdoes trivial))

/-- A child that is forked is the run's own. -/
theorem safe_forkChild (h : Unborn request capture w) (hnow : 0 ≤ w.now) :
    ChildSafe forkChild (fun forked w' => (forked = none → Unborn request capture w') ∧
      ∀ child, forked = some child → Exchanged request capture (request.io capture) w' ∧
        Attended child w' ∧ w'.registered = false) w := by
  unfold forkChild
  refine safe_quiet (by trivial) fun blocked w₁ hpasses => ?_
  have h₁ := h.passes hpasses
  split
  · exact ⟨fun _ => h₁, by simp⟩
  refine safe_childCall fun forked w₂ w₃ hdrifts hdoes => ?_
  have h₂ := h₁.passes hdrifts
  have hnow₂ : 0 ≤ w₂.now := hnow.trans (hpasses.now.trans hdrifts.now)
  cases forked with
  | none =>
    obtain rfl : w₃ = w₂ := hdoes
    exact safe_quiet (by trivial) fun restored w₄ hpasses₄ => ⟨fun _ => h₂.passes hpasses₄, by simp⟩
  | some child =>
    obtain ⟨-, rfl⟩ := hdoes
    refine ⟨by simp, fun child' hchild => ?_⟩
    obtain rfl := Option.some.inj hchild
    exact ⟨{ h₂.toExchanged with }, ⟨rfl, hnow₂, h₂.left, h₂.signals, h₂.forces⟩, h₂.registered⟩

end Exchanges

/-- What `awg_subprocess_run` returns is faithful to its child, however the child, its pipes, the
clock, the signals and the service behave. -/
theorem subprocessRun_faithful {request : AwgSubprocessRequest} {outerDeadline now : ℤ}
    {output outputLength cancelled escalated : Bool} {groups groups' : ProcessGroups} {rounds : ℕ}
    {result : AwgSubprocessResult} {w : ChildWorld} {tr : List (Event childSig ChildWorld)}
    (hs : Steps childBehaviour
      (subprocessRun request outerDeadline output outputLength groups rounds).run
      (.fresh now cancelled escalated) tr (.pure (some (result, groups'))) w) :
    FaithfulResult request (output && outputLength) outerDeadline groups groups' result w := by
  have hunborn := unborn_fresh request (output && outputLength) now cancelled escalated
  have hends : ChildEnds (subprocessRun request outerDeadline output outputLength groups rounds)
      (fun r w' => FaithfulResult request (output && outputLength) outerDeadline groups r.2 r.1 w')
      (.fresh now cancelled escalated) := by
    unfold subprocessRun
    refine ends_clock fun now w₁ hpasses hclock => ?_
    have h₁ := hunborn.passes hpasses
    split
    · exact ends_return.mpr (h₁.faithful (by simp))
    dsimp only
    split
    · exact ends_return.mpr (h₁.faithful (by simp))
    rename_i hintime
    have hnow : 0 ≤ w₁.now := by
      rcases hclock with rfl | ⟨hnegative, -⟩
      · exact not_lt.mp (not_or.mp hintime).1
      · exact absurd (.inl hnegative) hintime
    refine ends_quiet (by trivial) fun cancelled w₂ hpasses₂ => ?_
    have h₂ := h₁.passes hpasses₂
    split
    · exact ends_return.mpr (h₂.faithful (by simp))
    refine safe_openDescriptors.bindEnds fun opened w₃ hpasses₃ => ?_
    have h₃ := h₂.passes hpasses₃
    split
    · exact ends_return.mpr (h₃.faithful (by simp))
    refine (safe_forkChild h₃ (hnow.trans (hpasses₂.now.trans hpasses₃.now))).bindEnds
      fun forked w₄ hs => ?_
    obtain ⟨hnone, hsome⟩ := hs
    cases forked with
    | none => exact ends_return.mpr ((hnone rfl).faithful (by simp))
    | some child =>
      obtain ⟨hexchanged, hattended, hnew⟩ := hsome child rfl
      exact ends_runChild hexchanged hattended hnew
  exact Safe.returned hends hs _ rfl

/-! ## A run -/

/-- The stream of the sample child, of which the run has read so much. -/
def sampleStream (taken : ℕ) : ChildStream := ⟨ascii "ok", taken, true⟩

/-- A child that writes at the first read of its output, and has exited when it is looked at. -/
def sampleChildAnswer : (o : ChildCall) → ChildWorld → o.Reply × ChildWorld
  | .monotonicMsec, w => (w.now, w)
  | .terminationRequested, w => (w.cancelled, w)
  | .terminationEscalated, w => (w.escalated, w)
  | .dispatchTermination, w | .collectPendingTermination, w => ((), w)
  | .supervise type _ _, w => (true, w.acknowledged type)
  | .dupExecutable, w | .openPipe _, w | .openStartGate, w => (true, w)
  | .blockTermination, w | .restoreMask, w | .setProcessGroup _, w => (true, w)
  | .fork, w => if w.child = none then (some 7, w.forked 7) else (none, w)
  | .startChild, w => (true, w.letGo)
  | .kill group child signal, w =>
    ((), if w.child = some child then w.signal group signal else w)
  | .peek child, w =>
    match w.exit with
    | some how => (.ended how, w)
    | none => if w.child = some child then (.ended (.exited 0), w.withExit (.exited 0))
      else (.running, w)
  | .wait child, w =>
    if w.child = some child then
      match w.exit with
      | some how => (.reaped how.waitStatus, w.reap)
      | none => (.running, w)
    else (.failed, w.waitFails)
  | .waitGroup child, w => (.noChild, if w.child = some child then w.empty else w)
  | .write _, w => (.interrupted, w)
  | .read .output limit, w =>
    if w.output = ⟨[], 0, false⟩ ∧ 2 ≤ limit then
      (.data (ascii "ok"), { w with output := sampleStream 2 })
    else if w.output = sampleStream 2 then (.ended, w)
    else (.interrupted, w)
  | .read _ _, w => (.interrupted, w)
  | .diagnostics data, w => ((), w.receive data)
  | .retainDescendants, w => (false, w.retain false)
  | .poll _, w => (.polled, w)

theorem sampleChildAnswer_allowed (o : ChildCall) (w : ChildWorld) :
    childBehaviour o w (sampleChildAnswer o w).1 (sampleChildAnswer o w).2 := by
  have hstill {r : o.Reply} {w' : ChildWorld} (h : w.Does o r w') : childBehaviour o w r w' :=
    ⟨w, .none w, h⟩
  cases o with
  | monotonicMsec => exact hstill (.inl ⟨rfl, rfl⟩)
  | terminationRequested => exact hstill ⟨rfl, rfl⟩
  | terminationEscalated => exact hstill ⟨rfl, rfl⟩
  | dispatchTermination => exact hstill (.inl rfl)
  | collectPendingTermination => exact hstill rfl
  | supervise type child deadline => exact hstill ⟨w, .inl rfl, rfl⟩
  | dupExecutable => exact hstill rfl
  | openPipe pipe => exact hstill rfl
  | openStartGate => exact hstill rfl
  | blockTermination => exact hstill rfl
  | restoreMask => exact hstill rfl
  | setProcessGroup child => exact hstill rfl
  | fork =>
    simp only [sampleChildAnswer]
    split
    · rename_i hnone
      exact hstill ⟨hnone, rfl⟩
    · exact hstill rfl
  | startChild => exact hstill rfl
  | kill group child signal => exact hstill rfl
  | peek child =>
    simp only [sampleChildAnswer]
    split
    · rename_i how hexit
      exact hstill ⟨fun _ => hexit, rfl⟩
    · rename_i hruns
      split
      · rename_i hchild
        exact ⟨_, .exit hchild hruns _, fun _ => rfl, rfl⟩
      · rename_i hother
        exact hstill ⟨fun hchild => absurd hchild hother, rfl⟩
  | wait child =>
    simp only [sampleChildAnswer]
    split
    · rename_i hchild
      split
      · rename_i how hexit
        refine hstill ?_
        show if w.child = some child then _ else _
        rw [if_pos hchild]
        exact ⟨⟨how, hexit, rfl⟩, rfl⟩
      · rename_i hruns
        exact hstill ⟨fun _ => hruns, rfl⟩
    · exact hstill rfl
  | waitGroup child => exact hstill rfl
  | write data => exact hstill rfl
  | read pipe limit =>
    cases pipe with
    | output =>
      simp only [sampleChildAnswer]
      split
      · rename_i hfirst
        have hgrows : w.output.Grows (sampleStream 0) := by
          rw [hfirst.1]
          exact ⟨rfl, List.nil_prefix, by simp⟩
        exact ⟨_, .output hgrows, _, ⟨by decide, hfirst.2, List.prefix_rfl, rfl⟩, rfl⟩
      · split
        · rename_i hread
          refine hstill ⟨_, ⟨?_, rfl⟩, rfl⟩
          rw [hread]
          exact ⟨rfl, rfl⟩
        · exact hstill ⟨_, rfl, rfl⟩
    | diagnostics => exact hstill ⟨_, rfl, rfl⟩
    | input => exact hstill rfl
  | diagnostics data => exact hstill rfl
  | retainDescendants => exact hstill rfl
  | poll timeout => exact hstill (.inl rfl)

/-- The sample child, its pipes and the service. -/
def sampleChild : Environment childBehaviour := ⟨sampleChildAnswer, sampleChildAnswer_allowed⟩

/-- A run that reads all the output of a program without input. -/
def sampleRequest : AwgSubprocessRequest where
  argv := [ascii "wg"]
  input := []
  outputLimit := 16
  timeoutMsec := 3000
  terminationGraceMsec := 100
  completion := .waitForEof
  diagnostics := false
  retainDescendants := false

/-- The run of the sample child. -/
def sampleSubprocess : List (Event childSig ChildWorld) ×
    ChildM (Option (AwgSubprocessResult × ProcessGroups)) × ChildWorld :=
  sampleChild.run 60 (subprocessRun sampleRequest 20000 true true ⟨none, none⟩ 9).run
    (.fresh 100 false false)

/-- What the run of the sample child returns. -/
def sampleSubprocessResult : AwgSubprocessResult := ⟨.exited, true, 0, false, some (ascii "ok")⟩

/-- The run of the sample child returns its output and its status. -/
theorem subprocessRun_faithful_sample :
    sampleSubprocess.2.1.result = some (some (sampleSubprocessResult, ⟨none, none⟩)) ∧
      sampleSubprocess.2.2.output.sent = ascii "ok" ∧
      FaithfulResult sampleRequest true 20000 ⟨none, none⟩ ⟨none, none⟩ sampleSubprocessResult
        sampleSubprocess.2.2 := by
  have hresult : sampleSubprocess.2.1.result =
      some (some (sampleSubprocessResult, ⟨none, none⟩)) := by decide +kernel
  have hs := sampleChild.steps 60
    (subprocessRun sampleRequest 20000 true true ⟨none, none⟩ 9).run (.fresh 100 false false)
  exact ⟨hresult, by decide +kernel, subprocessRun_faithful (hs.returned hresult)⟩

end NmSidebar
