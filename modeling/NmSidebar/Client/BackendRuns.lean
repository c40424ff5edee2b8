import NmSidebar.Client.BackendCalls

/-!
# Every call has one result

A call that was executed is sent to the service at most once and by its deadline, and its callback
is given one result: the service's own reply where there was one in time, and that it was cancelled
where its caller has cancelled or the backend has stopped, whoever calls the backend back in.
-/

namespace NmSidebar

open Text Effects

/-- Every operation has a budget. -/
theorem callBudgetMsec_pos (operation : BackendOperation) : 0 < callBudgetMsec operation := by
  cases operation <;> decide +kernel

/-- No time remains only after the deadline. -/
theorem deadline_le_of_remaining {now deadline : ℤ} (hnow : 0 ≤ now)
    (h : ¬deadlineRemainingMsec now deadline maxInt > 0) : deadline ≤ now := by
  unfold deadlineRemainingMsec maxInt at h
  split at h
  · omega
  · omega

/-! ## Calls -/

namespace BackendRequest

variable {call : BackendRequest} {delivery : CallDelivery} {running : Bool} {cancelled : List ℕ}

/-- When the call has to have its result. -/
def dueMsec (call : BackendRequest) : ℤ :=
  call.startedAtMsec + callBudgetMsec call.arguments.operation

/-- At most one method call was sent, the one that was asked for, while the backend was running and
the call was not cancelled, and with a timeout that ends by the deadline. -/
structure Sends (call : BackendRequest) : Prop where
  once : call.sent.length ≤ 1
  asked : ∀ sent ∈ call.sent, sent.method = call.arguments.method ∧ sent.admitted = true ∧
    0 < sent.timeoutMsec ∧ sent.sentAtMsec + sent.timeoutMsec ≤ call.dueMsec
  fresh : call.transport = .bus → call.sent = [] ∧ call.busReply = none
  awaits : call.transport = .service → call.sent ≠ [] ∧ call.answered = none
  answered : call.answered.isSome = true → call.sent ≠ []

/-- What a result is grounded on. -/
structure Grounds (call : BackendRequest) (delivery : CallDelivery) : Prop where
  admitted : delivery.result.kind ≠ .cancelled →
    delivery.running = true ∧ delivery.cancelled = false
  inTime : delivery.result.kind ≠ .cancelled → delivery.result.kind ≠ .timedOut →
    delivery.atMsec < call.dueMsec
  reply : delivery.result.kind = .reply → ∃ answer, call.answered = some (.ok answer) ∧
    delivery.result = resultOfAnswer call.arguments.operation answer
  cancelled : delivery.result.kind = .cancelled → delivery.running = false ∨
    delivery.cancelled = true ∨ ∃ error : BusError, error.code = .ioCancelled ∧
      (call.busReply = some (.error error) ∨ call.answered = some (.error error))
  timedOut : delivery.result.kind = .timedOut → call.dueMsec ≤ delivery.atMsec ∨
    ∃ error, call.answered = some (.error error) ∧ errorIsTimeout error = true
  notAuthorized : delivery.result.kind = .notAuthorized →
    ∃ error, call.answered = some (.error error) ∧ error.remote = some errorNotAuthorized
  busy : delivery.result.kind = .busy →
    ∃ error, call.answered = some (.error error) ∧ error.remote = some errorBusy
  busUnavailable : delivery.result.kind = .busUnavailable →
    ∃ error, call.busReply = some (.error error)
  failed : delivery.result.kind = .failed → ∃ error, call.answered = some (.error error)
  replied : delivery.result.serviceReplied = true → ∃ reply, call.answered = some reply ∧
    ∀ error, reply = .error error → error.isService = true

/-- A call that has not been completed still holds what it was made with. -/
structure Pending (call : BackendRequest) : Prop where
  incomplete : call.completed = false
  callback : call.callback = true
  backend : call.backend = true
  held : call.held = call.arguments
  undelivered : call.delivered = []

/-- The call is cancelled where the backend has stopped or its caller has cancelled, and follows
both. -/
structure Follows (call : BackendRequest) (running : Bool) (cancelled : List ℕ) : Prop where
  stopped : running = false → call.cancelled = true
  lifecycle : call.cancelled = false → call.lifecycleCancelHandler = true
  caller : ∀ caller ∈ call.callerCancellable, caller ∈ cancelled → call.cancelled = true
  handler : ∀ caller ∈ call.callerCancellable, call.cancelled = false →
    call.callerCancelHandler = true

/-- The timer of the call is attached, and the bus or the service has still to reply. -/
structure Attended (call : BackendRequest) : Prop where
  due : call.deadlineMsec = call.dueMsec
  timer : call.deadlineSource = true
  transport : call.transport ≠ .idle

/-- What is promised of a call wherever the backend is not in control: it has its one result, or it
is attended to. -/
structure Kept (call : BackendRequest) (running : Bool) (cancelled : List ℕ) : Prop where
  sends : call.Sends
  waits : call.completed = false → call.Pending ∧ call.Follows running cancelled ∧ call.Attended
  served : call.completed = true → ∃ delivery, call.delivered = [delivery] ∧ call.Grounds delivery
  timer : call.timerRan = true → call.completed = true
  answer : call.answered.isSome = true → call.completed = true

/-- The result of a call without a reply of the service. -/
theorem Grounds.of_kind {kind : BackendResultKind} (hresult : delivery.result = resultOfKind kind)
    (hadmitted : kind ≠ .cancelled → delivery.running = true ∧ delivery.cancelled = false)
    (hkind : kind = .cancelled ∧ (delivery.running = false ∨ delivery.cancelled = true ∨
        ∃ error : BusError, error.code = .ioCancelled ∧ call.busReply = some (.error error)) ∨
      kind = .timedOut ∧ call.dueMsec ≤ delivery.atMsec ∨
      kind = .busUnavailable ∧ delivery.atMsec < call.dueMsec ∧
        ∃ error, call.busReply = some (.error error)) : call.Grounds delivery := by
  have hkind' : delivery.result.kind = kind := by rw [hresult]; rfl
  have hreplied : delivery.result.serviceReplied = false := by rw [hresult]; rfl
  refine ⟨hkind' ▸ hadmitted, ?_, ?_, ?_, ?_, ?_, ?_, ?_, ?_, ?_⟩
  all_goals simp only [hkind', hreplied]
  all_goals obtain ⟨rfl, h⟩ | ⟨rfl, h⟩ | ⟨rfl, h⟩ := hkind
  all_goals simp
  · exact h.1
  · obtain h | h | ⟨error, hcode, herror⟩ := h
    · exact .inl h
    · exact .inr (.inl h)
    · exact .inr (.inr ⟨error, hcode, .inl herror⟩)
  · exact .inl h
  · exact h.2

/-- The result for the service's reply. -/
theorem Grounds.of_answer {answer : ServiceAnswer} (hanswer : call.answered = some (.ok answer))
    (hresult : delivery.result = resultOfAnswer call.arguments.operation answer)
    (hadmitted : delivery.running = true ∧ delivery.cancelled = false)
    (hintime : delivery.atMsec < call.dueMsec) : call.Grounds delivery := by
  have hkind : delivery.result.kind = .reply := by
    rw [hresult]
    unfold resultOfAnswer
    split <;> rfl
  refine ⟨fun _ => hadmitted, fun _ _ => hintime, fun _ => ⟨answer, hanswer, hresult⟩, ?_, ?_, ?_,
    ?_, ?_, ?_, fun _ => ⟨_, hanswer, by simp⟩⟩
  all_goals simp [hkind]

/-- The result for a method call that has failed. -/
theorem Grounds.of_error {error : BusError} (herror : call.answered = some (.error error))
    (hresult : delivery.result = resultOfError true error)
    (hadmitted : delivery.running = true ∧ delivery.cancelled = false)
    (hintime : delivery.atMsec < call.dueMsec) : call.Grounds delivery := by
  have hkind : delivery.result.kind = (resultOfError true error).kind := by rw [hresult]
  have hreplied : delivery.result.serviceReplied = error.isService := by rw [hresult]; rfl
  have hreplied' (h : delivery.result.serviceReplied = true) : ∃ reply,
      call.answered = some reply ∧ ∀ error, reply = .error error → error.isService = true := by
    refine ⟨_, herror, fun error' h' => ?_⟩
    obtain rfl := Except.error.inj h'
    exact hreplied.symm.trans h
  simp only [resultOfError, Bool.true_eq_false, false_or] at hkind
  refine ⟨fun _ => hadmitted, fun _ _ => hintime, ?_, ?_, ?_, ?_, ?_, ?_, ?_, hreplied'⟩
  all_goals intro h
  all_goals rw [hkind] at h
  all_goals split_ifs at h with hcancelled htimeout hauthorized hbusy
  · exact .inr (.inr ⟨error, hcancelled, .inr herror⟩)
  · exact .inr ⟨error, herror, htimeout⟩
  · exact ⟨error, herror, hauthorized⟩
  · exact ⟨error, herror, hbusy⟩
  · exact ⟨error, herror⟩

/-- A reply that comes after the result does not change what it is grounded on. -/
theorem Grounds.haveReply (h : call.Grounds delivery) (hnone : call.answered = none)
    (reply : Except BusError ServiceAnswer) : (call.haveReply reply).Grounds delivery where
  admitted := h.admitted
  inTime := h.inTime
  reply hkind := by
    obtain ⟨answer, hanswer, -⟩ := h.reply hkind
    simp [hnone] at hanswer
  cancelled hkind := by
    obtain h | h | ⟨error, hcode, herror | herror⟩ := h.cancelled hkind
    · exact .inl h
    · exact .inr (.inl h)
    · exact .inr (.inr ⟨error, hcode, .inl herror⟩)
    · simp [hnone] at herror
  timedOut hkind := by
    obtain h | ⟨error, herror, -⟩ := h.timedOut hkind
    · exact .inl h
    · simp [hnone] at herror
  notAuthorized hkind := by
    obtain ⟨error, herror, -⟩ := h.notAuthorized hkind
    simp [hnone] at herror
  busy hkind := by
    obtain ⟨error, herror, -⟩ := h.busy hkind
    simp [hnone] at herror
  busUnavailable := h.busUnavailable
  failed hkind := by
    obtain ⟨error, herror⟩ := h.failed hkind
    simp [hnone] at herror
  replied hreplied := by
    obtain ⟨reply, hreply, -⟩ := h.replied hreplied
    simp [hnone] at hreply

/-- Neither does one of the bus. -/
theorem Grounds.haveBus (h : call.Grounds delivery) (hnone : call.busReply = none)
    (reply : Except BusError Unit) : (call.haveBus reply).Grounds delivery where
  admitted := h.admitted
  inTime := h.inTime
  reply := h.reply
  cancelled hkind := by
    obtain h | h | ⟨error, hcode, herror | herror⟩ := h.cancelled hkind
    · exact .inl h
    · exact .inr (.inl h)
    · simp [hnone] at herror
    · exact .inr (.inr ⟨error, hcode, .inr herror⟩)
  timedOut := h.timedOut
  notAuthorized := h.notAuthorized
  busy := h.busy
  busUnavailable hkind := by
    obtain ⟨error, herror⟩ := h.busUnavailable hkind
    simp [hnone] at herror
  failed := h.failed
  replied := h.replied

/-! ## Steps of a call -/

theorem Sends.haveBus (h : call.Sends) (reply : Except BusError Unit) :
    (call.haveBus reply).Sends where
  once := h.once
  asked := h.asked
  fresh hidle := absurd hidle (by simp [BackendRequest.haveBus])
  awaits hidle := absurd hidle (by simp [BackendRequest.haveBus])
  answered := h.answered

theorem Sends.haveReply (h : call.Sends) (hservice : call.transport = .service)
    (reply : Except BusError ServiceAnswer) : (call.haveReply reply).Sends where
  once := h.once
  asked := h.asked
  fresh hidle := absurd hidle (by simp [BackendRequest.haveReply])
  awaits hidle := absurd hidle (by simp [BackendRequest.haveReply])
  answered _ := (h.awaits hservice).1

/-- A method call is sent for a call that was not sent before. -/
theorem Pending.send (hpending : call.Pending) (hunsent : call.sent = [])
    (hanswered : call.answered = none) {timeoutMsec sentAtMsec : ℤ} (htimeout : 0 < timeoutMsec)
    (hdue : sentAtMsec + timeoutMsec ≤ call.dueMsec) :
    (call.send timeoutMsec sentAtMsec true).Sends where
  once := by simp [BackendRequest.send, hunsent]
  asked sent hmem := by
    simp only [BackendRequest.send, hunsent, List.nil_append, List.mem_singleton] at hmem
    subst hmem
    exact ⟨congrArg CallArguments.method hpending.held, rfl, htimeout, hdue⟩
  fresh hservice := absurd hservice (by simp [BackendRequest.send])
  awaits _ := ⟨by simp [BackendRequest.send], hanswered⟩
  answered _ := by simp [BackendRequest.send]

/-- A pending call is completed by its result. -/
theorem Kept.complete (hsends : call.Sends) (hpending : call.Pending)
    (hgrounds : call.Grounds delivery) (result : BackendResult) :
    ((call.complete result).tell delivery).Kept running cancelled where
  sends := { hsends with }
  waits hincomplete := absurd hincomplete (by simp [tell, BackendRequest.complete])
  served _ := ⟨delivery, by simp [tell, BackendRequest.complete, hpending.undelivered],
    { hgrounds with }⟩
  timer _ := rfl
  answer _ := rfl

/-- Cancelling does not lose a call. -/
theorem Kept.cancel (h : call.Kept running cancelled) {running' : Bool} {cancelled' : List ℕ} :
    call.cancel.Kept running' cancelled' where
  sends := { h.sends with }
  waits hincomplete := by
    obtain ⟨hpending, hfollows, hattended⟩ := h.waits hincomplete
    exact ⟨{ hpending with }, ⟨fun _ => rfl, nofun, fun _ _ _ => rfl, fun _ _ => nofun⟩,
      { hattended with }⟩
  served hcompleted := by
    obtain ⟨delivery, hdelivered, hgrounds⟩ := h.served hcompleted
    exact ⟨delivery, hdelivered, { hgrounds with }⟩
  timer := h.timer
  answer := h.answer

/-- What a call keeps where it follows what has happened. -/
theorem Kept.follow (h : call.Kept running cancelled) {running' : Bool} {cancelled' : List ℕ}
    (hfollows : call.completed = false → call.Follows running cancelled →
      call.Follows running' cancelled') : call.Kept running' cancelled' :=
  { h with
    waits := fun hincomplete =>
      have hwaits := h.waits hincomplete
      ⟨hwaits.1, hfollows hincomplete hwaits.2.1, hwaits.2.2⟩ }

/-- A completed call may give up what it holds. -/
theorem Kept.release (h : call.Kept running cancelled) (hcompleted : call.completed = true) :
    call.release.Kept running cancelled where
  sends := { h.sends with }
  waits hincomplete := absurd (hincomplete.symm.trans hcompleted) Bool.false_ne_true
  served _ := by
    obtain ⟨delivery, hdelivered, hgrounds⟩ := h.served hcompleted
    exact ⟨delivery, hdelivered, { hgrounds with }⟩
  timer := h.timer
  answer := h.answer

/-- The timer of a completed call may go. -/
theorem Kept.timedOut (h : call.Kept running cancelled) (hcompleted : call.completed = true) :
    call.timedOut.Kept running cancelled where
  sends := { h.sends with }
  waits hincomplete := absurd (hincomplete.symm.trans hcompleted) Bool.false_ne_true
  served _ := by
    obtain ⟨delivery, hdelivered, hgrounds⟩ := h.served hcompleted
    exact ⟨delivery, hdelivered, { hgrounds with }⟩
  timer _ := hcompleted
  answer := h.answer

/-- The bus replies to a completed call. -/
theorem Kept.haveBus (h : call.Kept running cancelled) (hcompleted : call.completed = true)
    (hbus : call.transport = .bus) (reply : Except BusError Unit) :
    (call.haveBus reply).Kept running cancelled where
  sends := h.sends.haveBus reply
  waits hincomplete := absurd (hincomplete.symm.trans hcompleted) Bool.false_ne_true
  served _ := by
    obtain ⟨delivery, hdelivered, hgrounds⟩ := h.served hcompleted
    exact ⟨delivery, hdelivered, hgrounds.haveBus (h.sends.fresh hbus).2 reply⟩
  timer := h.timer
  answer := h.answer

/-- The service replies to a completed call. -/
theorem Kept.haveReply (h : call.Kept running cancelled) (hcompleted : call.completed = true)
    (hservice : call.transport = .service) (reply : Except BusError ServiceAnswer) :
    (call.haveReply reply).Kept running cancelled where
  sends := h.sends.haveReply hservice reply
  waits hincomplete := absurd (hincomplete.symm.trans hcompleted) Bool.false_ne_true
  served _ := by
    obtain ⟨delivery, hdelivered, hgrounds⟩ := h.served hcompleted
    exact ⟨delivery, hdelivered, hgrounds.haveReply (h.sends.awaits hservice).2 reply⟩
  timer := h.timer
  answer _ := hcompleted

/-- What becomes of a call: it stays the one that it is, and one that has its result keeps it. -/
structure Goes (call call' : BackendRequest) : Prop where
  arguments : call'.arguments = call.arguments
  started : call'.startedAtMsec = call.startedAtMsec
  completed : call.completed = true → call'.completed = true ∧ call'.delivered = call.delivered

theorem Goes.refl (call : BackendRequest) : call.Goes call := ⟨rfl, rfl, fun h => ⟨h, rfl⟩⟩

theorem Goes.trans {call' call'' : BackendRequest} (h : call.Goes call')
    (h' : call'.Goes call'') : call.Goes call'' where
  arguments := h'.arguments.trans h.arguments
  started := h'.started.trans h.started
  completed hcompleted := by
    obtain ⟨hcompleted', hdelivered⟩ := h.completed hcompleted
    obtain ⟨hcompleted'', hdelivered'⟩ := h'.completed hcompleted'
    exact ⟨hcompleted'', hdelivered'.trans hdelivered⟩

end BackendRequest

/-! ## The backend -/

namespace ServiceBackend

variable {backend backend' backend'' : ServiceBackend} {index other : ℕ} {call : BackendRequest}
  {f : BackendRequest → BackendRequest}

theorem calls_modify (backend : ServiceBackend) (h : backend.calls[index]? = some call) :
    (backend.modify index f).calls[index]? = some (f call) := by
  simp [modify, h]

theorem calls_modify_ne (backend : ServiceBackend) (hother : other ≠ index) :
    (backend.modify index f).calls[other]? = backend.calls[other]? := by
  simp [modify, hother.symm]

theorem modify_modify (backend : ServiceBackend) (index : ℕ)
    (f g : BackendRequest → BackendRequest) :
    (backend.modify index f).modify index g = backend.modify index fun call => g (f call) := by
  simp [modify, List.modify_modify_eq, Function.comp_def]

/-- Every call but one is kept. -/
structure KeptBut (backend : ServiceBackend) (index : ℕ) : Prop where
  lifecycle : backend.lifecycleCancellable = backend.isRunning
  others : ∀ other call, other ≠ index → backend.calls[other]? = some call →
    call.Kept backend.isRunning backend.cancelledCallers

/-- What is promised of the backend wherever it is not in control. -/
structure Kept (backend : ServiceBackend) : Prop where
  lifecycle : backend.lifecycleCancellable = backend.isRunning
  calls : ∀ (index : ℕ) (call : BackendRequest), backend.calls[index]? = some call →
    call.Kept backend.isRunning backend.cancelledCallers

/-- What the calls of the backend come to. -/
def Later (backend backend' : ServiceBackend) : Prop :=
  ∀ (index : ℕ) (call : BackendRequest), backend.calls[index]? = some call →
    ∃ call', backend'.calls[index]? = some call' ∧ call.Goes call'

theorem Later.refl (backend : ServiceBackend) : backend.Later backend :=
  fun _ call h => ⟨call, h, .refl call⟩

theorem Later.trans (h : backend.Later backend') (h' : backend'.Later backend'') :
    backend.Later backend'' := by
  intro index call hcall
  obtain ⟨call', hcall', hgoes⟩ := h index call hcall
  obtain ⟨call'', hcall'', hgoes'⟩ := h' index call' hcall'
  exact ⟨call'', hcall'', hgoes.trans hgoes'⟩

theorem Kept.but (h : backend.Kept) (index : ℕ) : backend.KeptBut index where
  lifecycle := h.lifecycle
  others other call _ hcall := h.calls other call hcall

theorem KeptBut.modify (h : backend.KeptBut index) : (backend.modify index f).KeptBut index where
  lifecycle := h.lifecycle
  others other call hother hcall :=
    h.others other call hother ((backend.calls_modify_ne hother).symm.trans hcall)

theorem KeptBut.pass (h : backend.KeptBut index) (usec : ℕ) :
    (backend.pass usec).KeptBut index where
  lifecycle := h.lifecycle
  others := h.others

/-- The one call is kept too. -/
theorem KeptBut.kept (h : backend.KeptBut index) (hcall : backend.calls[index]? = some call)
    (hkept : call.Kept backend.isRunning backend.cancelledCallers) : backend.Kept where
  lifecycle := h.lifecycle
  calls other call' hcall' := by
    by_cases hother : other = index
    · obtain rfl := hother
      obtain rfl := Option.some.inj (hcall.symm.trans hcall')
      exact hkept
    · exact h.others other call' hother hcall'

theorem KeptBut.modified (h : backend.KeptBut index) (hcall : backend.calls[index]? = some call)
    (hkept : (f call).Kept backend.isRunning backend.cancelledCallers) :
    (backend.modify index f).Kept :=
  KeptBut.kept h.modify (backend.calls_modify hcall) hkept

theorem later_modify (hcall : backend.calls[index]? = some call) (hgoes : call.Goes (f call)) :
    backend.Later (backend.modify index f) := by
  intro other call' hcall'
  by_cases hother : other = index
  · obtain rfl := hother
    obtain rfl := Option.some.inj (hcall.symm.trans hcall')
    exact ⟨f call, backend.calls_modify hcall, hgoes⟩
  · exact ⟨call', (backend.calls_modify_ne hother).trans hcall', .refl call'⟩

/-! ## Results -/

/-- The contract of the calls: a callback is given the one result that its call was completed
with. -/
def callContract : Contract ServiceBackend ServiceBackendNote where
  invariant := Kept
  rely := Later
  issues
    | .result index result, backend => ∃ call delivery, backend.calls[index]? = some call ∧
        call.completed = true ∧ call.delivered = [delivery] ∧ delivery.result = result
    | .authorization _, _ => True
  settled _ := True

/-- A function keeps the contract and leaves what satisfies `Q`. -/
def KeepsCalls {α : Type} (p : ServiceBackendM α) (Q : α → Prop) : Prop :=
  callContract.Maintains serviceBackend p Q

/-- The call is completed. -/
def HasResult (backend : ServiceBackend) (index : ℕ) : Prop :=
  ∃ call, backend.calls[index]? = some call ∧ call.completed = true

/-- Reading the clock lets time pass. -/
theorem keepsCalls_readClock {α : Type} {g : ServiceBackend → ServiceBackendM α} {Q : α → Prop}
    (hg : ∀ usec, KeepsCalls (g (backend.pass usec)) Q) :
    KeepsCalls (backend.readClock >>= g) Q :=
  Contract.maintains_sys.mpr fun usec _ => hg usec

/-- A pending call is delivered its result. -/
theorem keepsCalls_deliverResult (h : backend.KeptBut index)
    (hcall : backend.calls[index]? = some call) (hsends : call.Sends) (hpending : call.Pending)
    {result : BackendResult} (hgrounds : call.Grounds (backend.delivery call result)) :
    KeepsCalls (backend.deliverResult index result) fun backend' =>
      backend'.Kept ∧ backend.Later backend' ∧ backend'.HasResult index := by
  let told := fun call' : BackendRequest =>
    (call'.complete result).tell (backend.delivery call result)
  have htold : (backend.modify index told).calls[index]? = some (told call) :=
    backend.calls_modify hcall
  have hkept : (backend.modify index told).Kept :=
    h.modified hcall (.complete hsends hpending hgrounds result)
  have hlater : backend.Later (backend.modify index told) :=
    later_modify hcall ⟨rfl, rfl, fun hset => absurd (hpending.incomplete.symm.trans hset)
      Bool.false_ne_true⟩
  unfold deliverResult
  rw [hcall]
  dsimp only
  rw [if_neg (by simp [hpending.incomplete])]
  unfold callBack
  rw [if_pos hpending.callback, modify_modify]
  refine Contract.Maintains.bind (Contract.maintains_callout.mpr ⟨⟨hkept, ?_⟩, fun _ hs => hs⟩) ?_
  · refine ⟨told call, backend.delivery call result, htold, rfl, ?_, rfl⟩
    simp [told, BackendRequest.tell, BackendRequest.complete, hpending.undelivered]
  · rintro backend' ⟨hkept', hlater'⟩
    obtain ⟨call', hcall', hgoes⟩ := hlater' index _ htold
    have hset : call'.completed = true := (hgoes.completed rfl).1
    exact ⟨(hkept'.but index).modified hcall' ((hkept'.calls index call' hcall').release hset),
      (hlater.trans hlater').trans (later_modify hcall' ⟨rfl, rfl, fun h => ⟨h, rfl⟩⟩),
      _, calls_modify _ hcall', hset⟩

/-- `backend_call_remaining` delivers a result, or finds that time remains for a call that goes
on. -/
theorem keepsCalls_callRemaining (h : backend.KeptBut index)
    (hcall : backend.calls[index]? = some call)
    (hserved : call.completed = true → call.Kept backend.isRunning backend.cancelledCallers)
    (hwaits : call.completed = false →
      call.Sends ∧ call.Pending ∧ call.deadlineMsec = call.dueMsec) :
    KeepsCalls (backend.callRemaining index) fun r =>
      (r.1 = 0 ∧ r.2.Kept ∧ backend.Later r.2 ∧ r.2.HasResult index) ∨
      (0 < r.1 ∧ call.completed = false ∧ backend.isRunning = true ∧ call.cancelled = false ∧
        (∃ usec, r.2 = backend.pass usec) ∧ r.2.nowMsec + r.1 ≤ call.dueMsec) := by
  unfold callRemaining
  rw [hcall]
  dsimp only
  split
  · rename_i hcompleted
    exact .inl ⟨rfl, h.kept hcall (hserved hcompleted), .refl backend, call, hcall, hcompleted⟩
  rename_i hincomplete
  have hincomplete := Bool.eq_false_iff.mpr hincomplete
  obtain ⟨hsends, hpending, hdue⟩ := hwaits hincomplete
  rw [hpending.backend, Bool.true_and]
  split
  · rename_i hstops
    refine Contract.Maintains.bind (keepsCalls_deliverResult h hcall hsends hpending ?_)
      fun backend' hs => .inl ⟨rfl, hs⟩
    refine .of_kind rfl (fun hother => absurd rfl hother) (.inl ⟨rfl, ?_⟩)
    exact hstops.imp id .inl
  · rename_i hgoes
    simp only [not_or, Bool.not_eq_false, Bool.not_eq_true] at hgoes
    refine keepsCalls_readClock fun usec => ?_
    split
    · rename_i hremains
      refine .inr ⟨hremains, hincomplete, hgoes.1, hgoes.2, ⟨usec, rfl⟩, ?_⟩
      have hnow : (backend.pass usec).nowMsec < call.deadlineMsec := by
        by_contra hlate
        have hzero := (deadlineRemainingMsec_bounds (backend.pass usec).nowMsec call.deadlineMsec
          maxInt).2.2.2 (.inr (not_lt.mp hlate))
        omega
      rw [← hdue]
      exact (deadlineRemainingMsec_bounds _ _ _).2.2.1 hnow
    · rename_i hover
      have hnow : 0 ≤ (backend.pass usec).nowMsec :=
        Int.ediv_nonneg (Int.natCast_nonneg _) (by simp)
      have hlate := deadline_le_of_remaining hnow hover
      refine Contract.Maintains.bind (keepsCalls_deliverResult (h.pass usec) hcall hsends hpending
        ?_) fun backend' hs => .inl ⟨rfl, hs⟩
      exact .of_kind rfl (fun _ => ⟨hgoes.1, hgoes.2⟩) (.inr (.inl ⟨rfl, hdue ▸ hlate⟩))

/-- What a function leaves. -/
def Leaves (backend backend' : ServiceBackend) : Prop := backend'.Kept ∧ backend.Later backend'

/-- A timer that has come to its deadline completes its call. -/
theorem keepsCalls_callDeadline (h : backend.Kept) (hcall : backend.calls[index]? = some call)
    (htime : call.deadlineMsec * 1000 ≤ backend.nowUsec) :
    KeepsCalls (backend.callDeadline index) backend.Leaves := by
  have hkept := h.calls index call hcall
  unfold callDeadline
  refine Contract.Maintains.bind (keepsCalls_callRemaining (h.but index) hcall (fun _ => hkept)
    fun hincomplete => ⟨hkept.sends, (hkept.waits hincomplete).1,
      (hkept.waits hincomplete).2.2.due⟩) fun r hs => ?_
  obtain ⟨-, hkept', hlater, call', hcall', hcompleted⟩ |
    ⟨hremains, hincomplete, -, -, ⟨usec, hpassed⟩, hdue⟩ := hs
  · refine ⟨(hkept'.but index).modified hcall' ((hkept'.calls index call' hcall').timedOut
      hcompleted), hlater.trans (later_modify hcall' ⟨rfl, rfl, fun h => ⟨h, rfl⟩⟩)⟩
  · -- no time remains, since the timer does not run before the deadline
    rw [← (hkept.waits hincomplete).2.2.due, hpassed] at hdue
    have hnow : (backend.pass usec).nowMsec = ((backend.nowUsec + usec : ℕ) : ℤ) / 1000 := rfl
    omega

/-- What is done with a call that goes on. -/
theorem keepsCalls_whileRemaining (h : backend.KeptBut index)
    (hcall : backend.calls[index]? = some call)
    (hserved : call.completed = true → call.Kept backend.isRunning backend.cancelledCallers)
    (hwaits : call.completed = false →
      call.Sends ∧ call.Pending ∧ call.deadlineMsec = call.dueMsec)
    {next : ServiceBackend → BackendRequest → ℤ → ServiceBackendM ServiceBackend}
    (hnext : ∀ usec remaining, 0 < remaining → call.completed = false →
      backend.isRunning = true → call.cancelled = false →
      (backend.pass usec).nowMsec + remaining ≤ call.dueMsec →
      KeepsCalls (next (backend.pass usec) call remaining) backend.Leaves) :
    KeepsCalls (backend.whileRemaining index next) backend.Leaves := by
  unfold whileRemaining
  refine Contract.Maintains.bind (keepsCalls_callRemaining h hcall hserved hwaits) ?_
  rintro ⟨remaining, passed⟩ hs
  dsimp only at hs ⊢
  obtain ⟨rfl, hkept, hlater, -⟩ |
    ⟨hremains, hincomplete, hrunning, hgoes, ⟨usec, rfl⟩, hdue⟩ := hs
  · exact ⟨hkept, hlater⟩
  · rw [if_neg hremains.ne']
    have hpassed : (backend.pass usec).calls[index]? = some call := hcall
    rw [hpassed]
    exact hnext usec remaining hremains hincomplete hrunning hgoes hdue

/-- The bus completes a call or has its method call sent. -/
theorem keepsCalls_serviceBusReady (h : backend.Kept) (hcall : backend.calls[index]? = some call)
    (hbus : call.transport = .bus) (reply : Except BusError Unit) :
    KeepsCalls (backend.serviceBusReady index reply) backend.Leaves := by
  have hkept := h.calls index call hcall
  have hcall' := backend.calls_modify (f := (·.haveBus reply)) hcall
  have hlater : backend.Later (backend.modify index (·.haveBus reply)) :=
    later_modify hcall ⟨rfl, rfl, fun h => ⟨h, rfl⟩⟩
  have hpending (hincomplete : call.completed = false) : (call.haveBus reply).Pending :=
    { (hkept.waits hincomplete).1 with }
  unfold serviceBusReady
  refine Contract.Maintains.mono (keepsCalls_whileRemaining (h.but index).modify hcall'
    (fun hcompleted => hkept.haveBus hcompleted hbus reply) (fun hincomplete =>
      ⟨hkept.sends.haveBus reply, hpending hincomplete, (hkept.waits hincomplete).2.2.due⟩)
    fun usec remaining hremains hincomplete hrunning hgoes hdue => ?_)
    fun backend' hs => ⟨hs.1, hlater.trans hs.2⟩
  have hpending := hpending hincomplete
  obtain ⟨hunsent, -⟩ := hkept.sends.fresh hbus
  have hbut : ((backend.modify index (·.haveBus reply)).pass usec).KeptBut index :=
    ((h.but index).modify).pass usec
  unfold takeBus
  cases reply with
  | error error =>
    refine Contract.Maintains.mono (keepsCalls_deliverResult hbut hcall'
      (hkept.sends.haveBus _) hpending ?_) fun backend' hs => ⟨hs.1, hs.2.1⟩
    refine .of_kind rfl (fun _ => ⟨hrunning, hgoes⟩) ?_
    split
    · rename_i hcancelled
      refine .inl ⟨rfl, .inr (.inr ⟨error, ?_, rfl⟩)⟩
      refine hcancelled.resolve_left ?_
      rw [hpending.backend]
      exact fun hstopped => absurd (hstopped.symm.trans hrunning) Bool.false_ne_true
    · refine .inr (.inr ⟨rfl, ?_, error, rfl⟩)
      exact lt_of_lt_of_le (by unfold delivery; dsimp only; omega) hdue
  | ok value =>
    have hanswered : call.answered = none := by
      by_contra hsome
      exact hkept.sends.answered (Option.isSome_iff_ne_none.mpr hsome) hunsent
    obtain ⟨hpending', hfollows, hattended⟩ := hkept.waits hincomplete
    have hadmitted : (((backend.modify index (·.haveBus (.ok value))).pass usec).isRunning &&
        !(call.haveBus (.ok value)).cancelled) = true := by
      rw [hgoes]
      exact (Bool.and_true _).trans hrunning
    dsimp only
    rw [hadmitted]
    refine ⟨hbut.modified hcall' ⟨hpending.send hunsent hanswered hremains hdue, fun _ => ?_,
      fun hcompleted => absurd (hincomplete.symm.trans hcompleted) Bool.false_ne_true,
      hkept.timer, hkept.answer⟩, later_modify hcall' ⟨rfl, rfl, fun h => ⟨h, rfl⟩⟩⟩
    exact ⟨{ hpending with }, { hfollows with }, ⟨hattended.due, hattended.timer, nofun⟩⟩

/-- The service's reply completes a call. -/
theorem keepsCalls_serviceCall (h : backend.Kept) (hcall : backend.calls[index]? = some call)
    (hservice : call.transport = .service) (reply : Except BusError ServiceAnswer) :
    KeepsCalls (backend.serviceCall index reply) backend.Leaves := by
  have hkept := h.calls index call hcall
  have hcall' := backend.calls_modify (f := (·.haveReply reply)) hcall
  have hlater : backend.Later (backend.modify index (·.haveReply reply)) :=
    later_modify hcall ⟨rfl, rfl, fun h => ⟨h, rfl⟩⟩
  have hpending (hincomplete : call.completed = false) : (call.haveReply reply).Pending :=
    { (hkept.waits hincomplete).1 with }
  unfold serviceCall
  refine Contract.Maintains.mono (keepsCalls_whileRemaining (h.but index).modify hcall'
    (fun hcompleted => hkept.haveReply hcompleted hservice reply) (fun hincomplete =>
      ⟨hkept.sends.haveReply hservice reply, hpending hincomplete,
        (hkept.waits hincomplete).2.2.due⟩)
    fun usec remaining hremains hincomplete hrunning hgoes hdue => ?_)
    fun backend' hs => ⟨hs.1, hlater.trans hs.2⟩
  have hpending := hpending hincomplete
  have hbut : ((backend.modify index (·.haveReply reply)).pass usec).KeptBut index :=
    ((h.but index).modify).pass usec
  have hintime : ((backend.modify index (·.haveReply reply)).pass usec).nowMsec <
      (call.haveReply reply).dueMsec := by
    omega
  unfold takeReply
  cases reply with
  | error error =>
    have hruns : ((call.haveReply (.error error)).backend &&
        ((backend.modify index (·.haveReply (.error error))).pass usec).isRunning) = true := by
      rw [hpending.backend]
      exact hrunning
    dsimp only
    rw [hruns]
    exact Contract.Maintains.mono (keepsCalls_deliverResult hbut hcall'
      (hkept.sends.haveReply hservice _) hpending
      (.of_error rfl rfl ⟨hrunning, hgoes⟩ hintime)) fun backend' hs => ⟨hs.1, hs.2.1⟩
  | ok answer =>
    have hoperation : call.operation = call.arguments.operation :=
      congrArg CallArguments.operation hpending.held
    refine Contract.Maintains.mono (keepsCalls_deliverResult hbut hcall'
      (hkept.sends.haveReply hservice _) hpending
      (.of_answer rfl ?_ ⟨hrunning, hgoes⟩ hintime)) fun backend' hs => ⟨hs.1, hs.2.1⟩
    exact congrArg (resultOfAnswer · answer) hoperation

/-! ## New calls -/

theorem callNew_pending (backend : ServiceBackend) (arguments : CallArguments)
    (caller : Option ℕ) : (backend.callNew arguments caller).Pending where
  incomplete := rfl
  callback := rfl
  backend := rfl
  held := rfl
  undelivered := rfl

/-- Nothing was sent for a new call. -/
theorem callNew_sends (backend : ServiceBackend) (arguments : CallArguments)
    (caller : Option ℕ) : (backend.callNew arguments caller).Sends where
  once := Nat.zero_le 1
  asked _ hmem := absurd hmem List.not_mem_nil
  fresh _ := ⟨rfl, rfl⟩
  awaits hservice := absurd hservice (by simp [callNew])
  answered hanswered := absurd hanswered (by simp [callNew])

/-- A new call that is not cancelled follows its caller and the backend. -/
theorem callNew_follows {arguments : CallArguments} {caller : Option ℕ}
    (hlifecycle : backend.lifecycleCancellable = backend.isRunning)
    (hrunning : backend.isRunning = true)
    (hgoes : (backend.callNew arguments caller).cancelled = false) :
    (backend.callNew arguments caller).Follows backend.isRunning backend.cancelledCallers where
  stopped hstopped := absurd (hstopped.symm.trans hrunning) Bool.false_ne_true
  lifecycle _ := hlifecycle.trans hrunning
  caller caller' hcaller hmem := by
    obtain rfl : caller = some caller' := hcaller
    simpa [callNew] using hmem
  handler caller' hcaller _ := by
    obtain rfl : caller = some caller' := hcaller
    have hgoes : caller' ∉ backend.cancelledCallers := by simpa [callNew] using hgoes
    simpa [callNew] using hgoes

theorem calls_enlist (backend : ServiceBackend) (call : BackendRequest) :
    (backend.enlist call).calls[backend.calls.length]? = some call := by
  simp [enlist]

theorem Kept.enlist (h : backend.Kept) (call : BackendRequest) :
    (backend.enlist call).KeptBut backend.calls.length where
  lifecycle := h.lifecycle
  others other call' hother hcall' := by
    refine h.calls other call' ?_
    have hlt : other < (backend.calls ++ [call]).length := (List.getElem?_eq_some_iff.mp hcall').1
    rw [List.length_append, List.length_singleton] at hlt
    rw [← hcall']
    exact (List.getElem?_append_left (by omega)).symm

theorem later_enlist (backend : ServiceBackend) (call : BackendRequest) :
    backend.Later (backend.enlist call) := by
  intro other call' hcall'
  refine ⟨call', ?_, .refl call'⟩
  rw [← hcall']
  exact List.getElem?_append_left (List.getElem?_eq_some_iff.mp hcall').1

/-- A new call is completed at once or attended to. -/
theorem keepsCalls_execute (h : backend.Kept) (arguments : CallArguments) (caller : Option ℕ) :
    KeepsCalls (backend.execute arguments caller) backend.Leaves := by
  unfold execute
  refine keepsCalls_readClock fun usec => ?_
  have hpassed : (backend.pass usec).Kept := ⟨h.lifecycle, h.calls⟩
  have hlater : backend.Later (backend.pass usec) := fun _ call hcall => ⟨call, hcall, .refl call⟩
  refine Contract.Maintains.mono (?_ : KeepsCalls _ (backend.pass usec).Leaves)
    fun backend' hs => ⟨hs.1, hlater.trans hs.2⟩
  generalize backend.pass usec = backend at hpassed
  dsimp only
  have hbut := hpassed.enlist (backend.callNew arguments caller)
  have hcall := backend.calls_enlist (backend.callNew arguments caller)
  have hlater := backend.later_enlist (backend.callNew arguments caller)
  have hpending := backend.callNew_pending arguments caller
  have hsends := backend.callNew_sends arguments caller
  split
  · rename_i hstops
    refine Contract.Maintains.mono (keepsCalls_deliverResult hbut hcall hsends hpending ?_)
      fun backend' hs => ⟨hs.1, hlater.trans hs.2.1⟩
    exact .of_kind rfl (fun hother => absurd rfl hother) (.inl ⟨rfl, hstops.imp id .inl⟩)
  · rename_i hgoes
    simp only [not_or, Bool.not_eq_false, Bool.not_eq_true] at hgoes
    have hfollows := callNew_follows hpassed.lifecycle hgoes.1 hgoes.2
    rw [if_neg (callBudgetMsec_pos arguments.operation).ne']
    unfold beginCall
    have hcall' := calls_modify _ (f := (·.expire ((backend.callNew arguments caller).startedAtMsec
      + callBudgetMsec arguments.operation))) hcall
    refine Contract.Maintains.mono (keepsCalls_whileRemaining hbut.modify hcall'
      (fun hcompleted => absurd hcompleted Bool.false_ne_true)
      (fun _ => ⟨{ hsends with }, { hpending with }, rfl⟩) fun usec remaining _ _ _ _ _ => ?_)
      fun backend' hs => ⟨hs.1, hlater.trans
        ((later_modify hcall ⟨rfl, rfl, fun h => ⟨h, rfl⟩⟩).trans hs.2)⟩
    refine ⟨(hbut.modify.pass usec).modified hcall' ⟨?_, fun _ => ⟨{ hpending with },
      { hfollows with }, ⟨rfl, rfl, nofun⟩⟩, nofun, nofun, nofun⟩,
      later_modify hcall' ⟨rfl, rfl, fun h => ⟨h, rfl⟩⟩⟩
    exact ⟨hsends.once, hsends.asked, fun _ => ⟨rfl, rfl⟩, nofun, hsends.answered⟩

/-! ## The life cycle -/

theorem calls_mapCalls (backend : ServiceBackend)
    (h : (backend.mapCalls f).calls[index]? = some call) :
    ∃ call', backend.calls[index]? = some call' ∧ call = f call' := by
  simp only [mapCalls, List.getElem?_map, Option.map_eq_some_iff] at h
  obtain ⟨call', hcall', rfl⟩ := h
  exact ⟨call', hcall', rfl⟩

theorem later_mapCalls (backend : ServiceBackend)
    (h : ∀ call : BackendRequest, call.Goes (f call)) :
    backend.Later (backend.mapCalls f) := by
  intro index call hcall
  exact ⟨f call, by simp [mapCalls, hcall], h call⟩

/-- A call is cancelled or stays as it is. -/
theorem goes_cancelIf (p : Prop) [Decidable p] (call : BackendRequest) :
    call.Goes (if p then call.cancel else call) := by
  split
  · exact ⟨rfl, rfl, fun h => ⟨h, rfl⟩⟩
  · exact .refl call

theorem leaves_pass (h : backend.Kept) (usec : ℕ) : backend.Leaves (backend.pass usec) :=
  ⟨⟨h.lifecycle, h.calls⟩, fun _ call hcall => ⟨call, hcall, .refl call⟩⟩

/-- No call waits for a result before the start, unless it is cancelled. -/
theorem leaves_startBackend (h : backend.Kept) : backend.Leaves backend.startBackend := by
  unfold startBackend
  split
  · exact ⟨h, .refl backend⟩
  rename_i hfirst
  simp only [not_or, Bool.not_eq_true] at hfirst
  have hstopped : backend.isRunning = false := by simp [Backend.isRunning, hfirst.1]
  have hrunning : backend.toBackend.start.isRunning = true := by
    unfold Backend.start Backend.requestAuthority
    rw [if_neg (by simp [hfirst])]
    split <;> simp [Backend.isRunning, hfirst.2]
  refine ⟨⟨hrunning.symm, fun index call hcall => ?_⟩,
    fun _ call hcall => ⟨call, hcall, .refl call⟩⟩
  refine (h.calls index call hcall).follow fun hincomplete hfollows => ?_
  have hcancelled := hfollows.stopped hstopped
  exact ⟨fun _ => hcancelled, fun hgoes => absurd (hgoes.symm.trans hcancelled) Bool.false_ne_true,
    hfollows.caller, hfollows.handler⟩

/-- Every call that waits for a result is cancelled when the backend stops. -/
theorem leaves_stopBackend (h : backend.Kept) : backend.Leaves backend.stopBackend := by
  unfold stopBackend
  split
  · exact ⟨h, .refl backend⟩
  have hstopped : backend.toBackend.stopInternal.isRunning = false := by
    unfold Backend.stopInternal
    rename_i hfirst
    rw [if_neg hfirst]
    dsimp only
    split <;> rfl
  refine ⟨⟨hstopped.symm, fun index call hcall => ?_⟩, ?_⟩
  · obtain ⟨call', hcall', rfl⟩ := calls_mapCalls _ hcall
    have hkept := h.calls index call' hcall'
    split
    · exact hkept.cancel
    · rename_i hhandler
      refine hkept.follow fun hincomplete hfollows => ?_
      have hcancelled : call'.cancelled = true := by
        by_contra hgoes
        exact hhandler (hfollows.lifecycle (Bool.eq_false_iff.mpr hgoes))
      exact ⟨fun _ => hcancelled, hfollows.lifecycle, hfollows.caller, hfollows.handler⟩
  · exact later_mapCalls { backend with
      toBackend := backend.toBackend.stopInternal, lifecycleCancellable := false }
      fun call => goes_cancelIf _ call

/-- Every call that waits for a result is cancelled with its caller. -/
theorem leaves_cancelCaller (h : backend.Kept) (caller : ℕ) :
    backend.Leaves (backend.cancelCaller caller) := by
  unfold cancelCaller
  split
  · exact ⟨h, .refl backend⟩
  refine ⟨⟨h.lifecycle, fun index call hcall => ?_⟩, ?_⟩
  · obtain ⟨call', hcall', rfl⟩ := calls_mapCalls _ hcall
    have hkept := h.calls index call' hcall'
    split
    · exact hkept.cancel
    · rename_i hother
      refine hkept.follow fun hincomplete hfollows => ?_
      refine ⟨hfollows.stopped, hfollows.lifecycle, fun caller' hcaller hmem => ?_,
        hfollows.handler⟩
      obtain rfl | hmem := List.mem_cons.mp hmem
      · by_contra hgoes
        exact hother ⟨hfollows.handler caller' hcaller (Bool.eq_false_iff.mpr hgoes), hcaller⟩
      · exact hfollows.caller caller' hcaller hmem
  · exact later_mapCalls { backend with
      cancelledCallers := caller :: backend.cancelledCallers } fun call => goes_cancelIf _ call

end ServiceBackend

/-! ## The authorization -/

namespace Backend

variable {backend : Backend}

/-- Nobody starts or stops the backend. -/
structure Stays (backend backend' : Backend) : Prop where
  started : backend'.started = backend.started
  stopping : backend'.stopping = backend.stopping

theorem Stays.refl (backend : Backend) : backend.Stays backend := ⟨rfl, rfl⟩

theorem Stays.trans (backend backend' backend'' : Backend) (h : backend.Stays backend')
    (h' : backend'.Stays backend'') : backend.Stays backend'' :=
  ⟨h'.started.trans h.started, h'.stopping.trans h.stopping⟩

theorem Stays.after {backend' backend'' : Backend} (h : backend'.Stays backend'')
    (h' : backend.Stays backend') : backend.Stays backend'' :=
  .trans _ _ _ h' h

/-- A function of the authorization neither starts nor stops the backend. -/
abbrev StaysBy (backend : Backend) (p : BackendM Backend) : Prop :=
  backendComponent.Frames Stays id backend p

theorem stays_startAuthorizationCheck (backend : Backend) :
    backend.Stays backend.startAuthorizationCheck := by
  unfold startAuthorizationCheck
  split
  · exact .refl backend
  · exact ⟨rfl, rfl⟩

theorem stays_scheduleAuthorizationRetry (backend : Backend) :
    backend.Stays backend.scheduleAuthorizationRetry := by
  unfold scheduleAuthorizationRetry
  split
  · exact .refl backend
  · exact ⟨rfl, rfl⟩

theorem stays_requestAuthority (backend : Backend) : backend.Stays backend.requestAuthority := by
  unfold requestAuthority
  split
  · exact .refl backend
  · exact ⟨rfl, rfl⟩

theorem stays_recheck (backend : Backend) : backend.Stays backend.recheck := by
  unfold recheck
  split
  · exact .refl backend
  split
  · exact ⟨rfl, rfl⟩
  · exact stays_startAuthorizationCheck backend

theorem stays_notifyAuthorization (backend : Backend) (authorized : Bool)
    (ground : Option (AuthorizationCheck × CheckReply)) :
    backend.StaysBy (backend.notifyAuthorization authorized ground) := by
  have hnotified (backend' : Backend) (h : backend.Stays backend') :
      backend.StaysBy (if backend'.authorizationChanged then
        callout (.authorizationChanged authorized ground) backend' else return backend') := by
    split
    · exact ⟨h, fun backend'' => .refl backend''⟩
    · exact h
  unfold notifyAuthorization
  split
  · refine hnotified _ ?_
    split
    · exact ⟨rfl, rfl⟩
    · exact .refl backend
  · exact .refl backend

theorem stays_invalidateAuthorization (backend : Backend) :
    backend.StaysBy backend.invalidateAuthorization := by
  have hcounted : backend.Stays { backend with invalidations := backend.invalidations + 1 } :=
    ⟨rfl, rfl⟩
  unfold invalidateAuthorization
  dsimp only
  split
  · exact hcounted
  · exact Component.Frames.head Stays.trans hcounted ((stays_notifyAuthorization _ _ _).bind
      Stays.trans fun notified => stays_recheck notified)

theorem stays_finishAuthorizationCheck (backend : Backend) (check : AuthorizationCheck)
    (reply : CheckReply) : backend.StaysBy (backend.finishAuthorizationCheck check reply) := by
  have hdone : backend.Stays { backend with authorizationCheckPending := false } := ⟨rfl, rfl⟩
  unfold finishAuthorizationCheck
  dsimp only
  split
  · exact ⟨rfl, rfl⟩
  split
  · exact Component.Frames.head Stays.trans
      (⟨rfl, rfl⟩ : backend.Stays { backend with
        authorizationCheckPending := false, authorizationRecheck := false })
      ((stays_notifyAuthorization _ _ _).bind Stays.trans fun notified =>
        stays_startAuthorizationCheck notified)
  · exact Component.Frames.head Stays.trans hdone (stays_notifyAuthorization _ _ _)

theorem stays_authorizationCheck (backend : Backend) (check : AuthorizationCheck)
    (reply : CheckReply) : backend.StaysBy (backend.authorizationCheck check reply) := by
  unfold authorizationCheck
  split
  · refine (stays_finishAuthorizationCheck backend check reply).bind Stays.trans fun finished => ?_
    cases reply with
    | result isAuthorized temporary => exact .refl finished
    | error => exact stays_scheduleAuthorizationRetry finished
  · exact ⟨rfl, rfl⟩

theorem stays_authorizationRetry (backend : Backend) :
    backend.Stays backend.authorizationRetry := by
  unfold authorizationRetry
  dsimp only
  split
  · exact ⟨rfl, rfl⟩
  split
  · exact (stays_requestAuthority _).after ⟨rfl, rfl⟩
  · exact (stays_startAuthorizationCheck _).after ⟨rfl, rfl⟩

theorem stays_authorityReady (backend : Backend) (reply : AuthorityReply) :
    backend.Stays (backend.authorityReady reply) := by
  unfold authorityReady
  dsimp only
  split
  · cases reply with
    | authority => exact (stays_startAuthorizationCheck _).after ⟨rfl, rfl⟩
    | cancelled => exact ⟨rfl, rfl⟩
    | failed => exact (stays_scheduleAuthorizationRetry _).after ⟨rfl, rfl⟩
  · exact ⟨rfl, rfl⟩

/-- Only the start and the stop tell whether the backend is running. -/
theorem stays_run {e : BackendEntry} (he : ¬e.IsLifecycle) (backend : Backend) :
    backend.StaysBy (e.run backend) := by
  cases e with
  | start => exact absurd trivial he
  | stop => exact absurd trivial he
  | invalidateAuthorization => exact stays_invalidateAuthorization backend
  | authorityReady reply =>
    exact (stays_authorityReady _ reply).after ⟨rfl, rfl⟩
  | authorityChanged => exact stays_invalidateAuthorization backend
  | authorityOwnerChanged => exact stays_invalidateAuthorization backend
  | authorizationCheck check reply =>
    simp only [BackendEntry.run]
    split
    · have htaken : backend.Stays { backend with checks := backend.checks.eraseIdx check } :=
        ⟨rfl, rfl⟩
      exact Component.Frames.head Stays.trans htaken (stays_authorizationCheck _ _ reply)
    · exact .refl backend
  | authorizationRetry id =>
    exact (stays_authorizationRetry _).after ⟨rfl, rfl⟩

end Backend

namespace ServiceBackend

variable {backend : ServiceBackend}

theorem Kept.stays (h : backend.Kept) {auth : Backend} (hstays : backend.toBackend.Stays auth) :
    backend.Leaves { backend with toBackend := auth } := by
  have hrunning : auth.isRunning = backend.isRunning := by
    unfold Backend.isRunning
    rw [hstays.started, hstays.stopping]
  refine ⟨⟨h.lifecycle.trans hrunning.symm, fun index call hcall => ?_⟩,
    fun _ call hcall => ⟨call, hcall, .refl call⟩⟩
  show call.Kept auth.isRunning _
  rw [hrunning]
  exact h.calls index call hcall

/-- The authorization does not touch the calls, but whoever it calls back may. -/
theorem keepsCalls_authorize (h : backend.Kept) {p : BackendM Backend}
    (hp : backend.toBackend.StaysBy p) :
    KeepsCalls (backend.authorize p) backend.Leaves := by
  induction p generalizing backend with
  | pure auth => exact h.stays hp
  | call o k ih =>
    cases o with
    | note note auth =>
      obtain ⟨hkept, hlater⟩ := h.stays hp.1
      refine Contract.maintains_note.mpr ⟨⟨hkept, trivial⟩, fun backend' hs => ?_⟩
      exact Contract.Maintains.mono (ih _ hs.1 (hp.2 backend'.toBackend)) fun backend'' hs' =>
        ⟨hs'.1, hlater.trans (Later.trans hs.2 hs'.2)⟩
    | sys o => exact o.elim

/-! ## Every run -/

/-- Every entry keeps the contract. -/
theorem keepsCalls_run (h : backend.Kept) {e : ServiceBackendEntry} (henabled : e.Enabled backend) :
    KeepsCalls (e.run backend) backend.Leaves := by
  cases e with
  | start => exact leaves_startBackend h
  | stop => exact leaves_stopBackend h
  | execute arguments caller => exact keepsCalls_execute h arguments caller
  | cancelCaller caller => exact leaves_cancelCaller h caller
  | authorization e => exact keepsCalls_authorize h (Backend.stays_run henabled.1 _)
  | wait usec => exact leaves_pass h usec
  | busReady index reply =>
    obtain ⟨call, hcall, hbus⟩ := henabled
    exact keepsCalls_serviceBusReady h hcall hbus reply
  | serviceCall index reply =>
    obtain ⟨call, hcall, hservice⟩ := henabled
    exact keepsCalls_serviceCall h hcall hservice reply
  | callDeadline index =>
    obtain ⟨call, hcall, -, htime⟩ := henabled
    exact keepsCalls_callDeadline h hcall htime

/-- The component keeps the contract of its calls. -/
theorem calls_keptBy : callContract.KeptBy serviceBackend where
  refl := Later.refl
  trans _ _ _ := Later.trans
  init := by
    rintro _ ⟨authorizationChanged, nowUsec, rfl⟩
    exact ⟨⟨rfl, fun index call hcall => absurd hcall (by simp [new])⟩, trivial⟩
  nested _ _ _ henabled h := keepsCalls_run h henabled
  settled _ _ henabled h _ := Contract.Maintains.mono (keepsCalls_run h henabled)
    fun _ hs => ⟨hs.1, trivial⟩

end ServiceBackend

/-- In every run, whoever calls the backend from within its callbacks: each call was sent at most
once and in time, and was either given one result, which has its ground, or is attended to and will
be cancelled with its caller and the backend. -/
theorem backendCall_oneResult {backend : ServiceBackend}
    {stack : List (ServiceBackend → ServiceBackendM ServiceBackend)}
    (hreachable : serviceBackend.Reachable ⟨.waiting backend, stack⟩) {index : ℕ}
    {call : BackendRequest} (hcall : backend.calls[index]? = some call) :
    call.Kept backend.isRunning backend.cancelledCallers :=
  (ServiceBackend.calls_keptBy.waiting hreachable).calls index call hcall

/-! ## A run -/

/-- An entry in which no time passes and nobody calls back. -/
def calmService (backend : ServiceBackend) (e : ServiceBackendEntry) : ServiceBackend :=
  Component.quietly (S := clockSig) (fun _ => (0 : ℕ)) (e.run backend)

theorem reachable_calmService {backend : ServiceBackend}
    (hs : serviceBackend.Reachable (.idle backend)) (e : ServiceBackendEntry)
    (henabled : e.Enabled backend) : serviceBackend.Reachable (.idle (calmService backend e)) :=
  Component.Reachable.quietly (fun _ => trivial) hs henabled

/-- A call that has asked for the bus. -/
def sampleExecuted : ServiceBackend :=
  calmService (calmService (.new true 5000) .start)
    (.execute ⟨.up, some (ascii "home"), none⟩ (some 1))

/-- The service has replied to the call. -/
def sampleReplied : ServiceBackend :=
  calmService (calmService sampleExecuted (.busReady 0 (.ok ())))
    (.serviceCall 0 (.ok ⟨0, 0, [], false⟩))

theorem sampleReplied_reachable : serviceBackend.Reachable (.idle sampleReplied) := by
  have hnew : serviceBackend.Reachable (.idle (.new true 5000)) := .start ⟨true, 5000, rfl⟩
  have hexecuted := reachable_calmService (reachable_calmService hnew .start trivial)
    (.execute ⟨.up, some (ascii "home"), none⟩ (some 1)) trivial
  have hbus : ∃ call, sampleExecuted.calls[0]? = some call ∧ call.transport = .bus := by
    have htransport : sampleExecuted.calls[0]?.map (·.transport) = some .bus := by decide +kernel
    exact Option.map_eq_some_iff.mp htransport
  have hsent := reachable_calmService hexecuted (.busReady 0 (.ok ())) hbus
  refine reachable_calmService hsent (.serviceCall 0 (.ok ⟨0, 0, [], false⟩)) ?_
  have htransport : (calmService sampleExecuted (.busReady 0 (.ok ()))).calls[0]?.map
      (·.transport) = some .service := by decide +kernel
  exact Option.map_eq_some_iff.mp htransport

/-- The call is given the service's reply. -/
theorem backendCall_oneResult_sample : ∃ call, sampleReplied.calls[0]? = some call ∧
    call.delivered.map (·.result.kind) = [.reply] ∧
    call.Kept sampleReplied.isRunning sampleReplied.cancelledCallers := by
  have hdelivered : sampleReplied.calls[0]?.map (fun call =>
      call.delivered.map (·.result.kind)) = some [.reply] := by decide +kernel
  obtain ⟨call, hcall, hkinds⟩ := Option.map_eq_some_iff.mp hdelivered
  exact ⟨call, hcall, hkinds, backendCall_oneResult sampleReplied_reachable hcall⟩

end NmSidebar
