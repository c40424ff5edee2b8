import NmSidebar.AmneziaWG.ProfileReport
import NmSidebar.Client.ActionOffers
import NmSidebar.Client.Authorization
import NmSidebar.Client.ProfileInventory
import NmSidebar.Helper.DeadlineArithmetic
import NmSidebar.Service.AwgService

/-!
# The calls of the client's backend

The part of `backend.c` that calls the service. A call waits for the bus and then for the service's
reply, until its deadline, the cancellation of its caller or the stop of the backend, and its owner
may execute further calls, cancel or stop from within the callback that it is given the result with.
-/

namespace NmSidebar

open Text Effects

/-! ## Data -/

/-- The errors of GIO and of the bus that `backend.c` tells apart. -/
inductive BusErrorCode where
  | ioCancelled
  | ioTimedOut
  | dbusTimeout
  | dbusTimedOut
  | dbusNoReply
  | other
  deriving DecidableEq

/-- An error, with the name that `g_dbus_error_get_remote_error` finds. -/
structure BusError where
  code : BusErrorCode
  remote : Option Bytes
  deriving DecidableEq

/-- The reply to a method call. That to `Execute` has the status only. -/
structure ServiceAnswer where
  status : ℕ
  capabilities : ℕ
  profiles : List ProfileRecord
  inventoryComplete : Bool

/-- A method call of the service: `ListProfiles`, or `Execute` with its arguments. -/
inductive ServiceMethod where
  | listProfiles
  | execute (verb : Bytes) (name : Option Name) (config : Bytes)

/-- What a call has under way. -/
inductive CallTransport where
  | idle
  | bus
  | service
  deriving DecidableEq

/-- `operation_verb`. -/
def operationVerb : BackendOperation → Bytes
  | .import => ascii "import"
  | .replace => ascii "replace"
  | .up => ascii "up"
  | .down => ascii "down"
  | .delete => ascii "delete"
  | .listProfiles => ascii "list-profiles"

/-- What a call was made with. -/
structure CallArguments where
  operation : BackendOperation
  name : Option Name
  config : Option Bytes

/-- The method call that is asked for. -/
def CallArguments.method (arguments : CallArguments) : ServiceMethod :=
  if arguments.operation = .listProfiles then .listProfiles
  else .execute (operationVerb arguments.operation) arguments.name (arguments.config.getD [])

/-- A method call that was sent, with the timeout that it was given, and when. `admitted` tells
whether the backend was running and the call not cancelled. -/
structure SentCall where
  method : ServiceMethod
  timeoutMsec : ℤ
  sentAtMsec : ℤ
  admitted : Bool

/-- A result that the callback was given, when, and whether the backend was running and the call was
cancelled. -/
structure CallDelivery where
  result : BackendResult
  atMsec : ℤ
  running : Bool
  cancelled : Bool

/-- `BackendCall`. `callerCancelHandler` and `lifecycleCancelHandler` tell which cancellables it
follows, `deadlineSource` whether its timer is attached, and `backend` whether it refers to the
backend. The fields from `arguments` on are not in the source: what the call was made with and when,
whether the timer has run, what the bus and the service have replied, what was sent and what was
delivered. -/
structure BackendRequest where
  operation : BackendOperation
  name : Option Name
  config : Option Bytes
  cancelled : Bool
  callerCancellable : Option ℕ
  callerCancelHandler : Bool
  lifecycleCancelHandler : Bool
  deadlineMsec : ℤ
  deadlineSource : Bool
  completed : Bool
  callback : Bool
  backend : Bool
  transport : CallTransport
  arguments : CallArguments
  startedAtMsec : ℤ
  timerRan : Bool
  busReply : Option (Except BusError Unit)
  answered : Option (Except BusError ServiceAnswer)
  sent : List SentCall
  delivered : List CallDelivery

/-- `NetworkSidebarAwgBackend` with its calls. The cancellables of the callers are numbered. -/
structure ServiceBackend extends Backend where
  lifecycleCancellable : Bool
  cancelledCallers : List ℕ
  nowUsec : ℕ
  calls : List BackendRequest

/-- The callbacks of the backend. -/
inductive ServiceBackendNote where
  | authorization (note : BackendNote)
  | result (call : ℕ) (result : BackendResult)

/-- The clock: the time that has passed since it was last read. -/
inductive ClockCall where
  | elapsed

/-- The signature of the clock. -/
abbrev clockSig : Signature := ⟨ClockCall, fun _ => ℕ⟩

/-- A function of the backend. -/
abbrev ServiceBackendM := Prog (calloutSig ServiceBackend ServiceBackendNote clockSig)

/-- The budget of a call, which is 0 for an operation without one. -/
def callBudgetMsec (operation : BackendOperation) : ℕ :=
  ((clientTimeoutMsec (some (operationVerb operation))).getD 0).toNat

/-- `error_is_timeout`. -/
def errorIsTimeout (error : BusError) : Bool :=
  error.code == .ioTimedOut || error.code == .dbusTimeout || error.code == .dbusTimedOut ||
    error.code == .dbusNoReply

/-- `profiles_from_variant`, for a value of its type. -/
def profilesFromVariant (profiles : List ProfileRecord) : Option (List ProfileRecord) :=
  if profiles.length > profileReportMaxRecords then none else some profiles

/-- A result of `network_sidebar_awg_backend_execute` without a reply. -/
def resultOfKind (kind : BackendResultKind) : BackendResult := ⟨kind, false, 0, 0, false, none⟩

/-- The result for a reply of the service. -/
def resultOfAnswer (operation : BackendOperation) (answer : ServiceAnswer) : BackendResult :=
  if operation = .listProfiles then
    ⟨.reply, true, answer.status, answer.capabilities, answer.inventoryComplete,
      profilesFromVariant answer.profiles⟩
  else ⟨.reply, true, answer.status, 0, false, none⟩

/-- The error is one of the service's own. -/
def BusError.isService (error : BusError) : Bool :=
  match error.remote with
  | none => false
  | some remote => (dbusInterface ++ ascii ".Error.").isPrefixOf remote

/-- The result for a method call that has failed, where `running` tells whether the backend is. -/
def resultOfError (running : Bool) (error : BusError) : BackendResult where
  kind :=
    if running = false ∨ error.code = .ioCancelled then .cancelled
    else if errorIsTimeout error then .timedOut
    else if error.remote = some errorNotAuthorized then .notAuthorized
    else if error.remote = some errorBusy then .busy
    else .failed
  serviceReplied := error.isService
  status := 0
  capabilities := 0
  inventoryComplete := false
  profiles := none

namespace BackendRequest

/-- `cancel_call`. -/
def cancel (call : BackendRequest) : BackendRequest := { call with cancelled := true }

/-- What the call still holds of its arguments. -/
def held (call : BackendRequest) : CallArguments := ⟨call.operation, call.name, call.config⟩

/-- A call that has its result: it follows nothing any more and its timer is gone. -/
def complete (call : BackendRequest) (result : BackendResult) : BackendRequest :=
  { call with
    completed := true
    callback := false
    deadlineSource := false
    callerCancelHandler := false
    lifecycleCancelHandler := false
    cancelled := call.cancelled || result.kind == .timedOut }

/-- The callback is given a result. -/
def tell (call : BackendRequest) (delivery : CallDelivery) : BackendRequest :=
  { call with delivered := call.delivered ++ [delivery] }

/-- What a completed call gives up. -/
def release (call : BackendRequest) : BackendRequest :=
  { call with callerCancellable := none, config := none, name := none, backend := false }

/-- The timer has run and is removed. -/
def timedOut (call : BackendRequest) : BackendRequest :=
  { call with deadlineSource := false, timerRan := true }

/-- `g_bus_get` has completed. -/
def haveBus (call : BackendRequest) (reply : Except BusError Unit) : BackendRequest :=
  { call with transport := .idle, busReply := some reply }

/-- The method call has completed. -/
def haveReply (call : BackendRequest) (reply : Except BusError ServiceAnswer) : BackendRequest :=
  { call with transport := .idle, answered := some reply }

/-- The method call is sent. -/
def send (call : BackendRequest) (timeoutMsec sentAtMsec : ℤ) (admitted : Bool) : BackendRequest :=
  { call with
    transport := .service
    sent := call.sent ++ [⟨call.held.method, timeoutMsec, sentAtMsec, admitted⟩] }

/-- The deadline is set. -/
def expire (call : BackendRequest) (deadlineMsec : ℤ) : BackendRequest :=
  { call with deadlineMsec }

/-- The timer is attached and the bus is asked for. -/
def begin (call : BackendRequest) : BackendRequest :=
  { call with deadlineSource := true, transport := .bus }

end BackendRequest

namespace ServiceBackend

/-- `network_sidebar_awg_backend_new`. -/
def new (authorizationChanged : Bool) (nowUsec : ℕ) : ServiceBackend where
  toBackend := .new authorizationChanged
  lifecycleCancellable := false
  cancelledCallers := []
  nowUsec
  calls := []

/-- Time passes. -/
def pass (backend : ServiceBackend) (usec : ℕ) : ServiceBackend :=
  { backend with nowUsec := backend.nowUsec + usec }

/-- The time in milliseconds, as it was last read. -/
def nowMsec (backend : ServiceBackend) : ℤ := backend.nowUsec / 1000

/-- `g_get_monotonic_time`. -/
def readClock (backend : ServiceBackend) : ServiceBackendM ServiceBackend := do
  let usec ← system (S := clockSig) .elapsed
  return backend.pass usec

/-- One call changes. -/
def modify (backend : ServiceBackend) (index : ℕ) (f : BackendRequest → BackendRequest) :
    ServiceBackend :=
  { backend with calls := backend.calls.modify index f }

/-- Every call changes. -/
def mapCalls (backend : ServiceBackend) (f : BackendRequest → BackendRequest) : ServiceBackend :=
  { backend with calls := backend.calls.map f }

/-! ## The life cycle -/

/-- `network_sidebar_awg_backend_start`. -/
def startBackend (backend : ServiceBackend) : ServiceBackend :=
  if backend.started ∨ backend.stopping then backend
  else { backend with toBackend := backend.toBackend.start, lifecycleCancellable := true }

/-- `backend_stop_internal`. -/
def stopBackend (backend : ServiceBackend) : ServiceBackend :=
  if backend.stopping then backend
  else
    { backend with
      toBackend := backend.toBackend.stopInternal
      lifecycleCancellable := false }.mapCalls fun call =>
        if call.lifecycleCancelHandler then call.cancel else call

/-- A caller cancels. -/
def cancelCaller (backend : ServiceBackend) (caller : ℕ) : ServiceBackend :=
  if caller ∈ backend.cancelledCallers then backend
  else
    { backend with cancelledCallers := caller :: backend.cancelledCallers }.mapCalls fun call =>
      if call.callerCancelHandler ∧ call.callerCancellable = some caller then call.cancel else call

/-! ## Calls -/

/-- `backend_call_new`: a call whose caller has cancelled is cancelled at once. -/
def callNew (backend : ServiceBackend) (arguments : CallArguments) (caller : Option ℕ) :
    BackendRequest :=
  let callerCancelled := caller.any fun caller => decide (caller ∈ backend.cancelledCallers)
  { operation := arguments.operation
    name := arguments.name
    config := arguments.config
    cancelled := callerCancelled
    callerCancellable := caller
    callerCancelHandler := caller.isSome && !callerCancelled
    lifecycleCancelHandler := backend.lifecycleCancellable
    deadlineMsec := 0
    deadlineSource := false
    completed := false
    callback := true
    backend := true
    transport := .idle
    arguments
    startedAtMsec := backend.nowMsec
    timerRan := false
    busReply := none
    answered := none
    sent := []
    delivered := [] }

/-- What a result is delivered with. -/
def delivery (backend : ServiceBackend) (call : BackendRequest) (result : BackendResult) :
    CallDelivery :=
  ⟨result, backend.nowMsec, backend.isRunning, call.cancelled⟩

/-- The callback of a call, if it has one. -/
def callBack (backend : ServiceBackend) (index : ℕ) (call : BackendRequest)
    (delivery : CallDelivery) : ServiceBackendM ServiceBackend :=
  if call.callback then
    callout (.result index delivery.result) (backend.modify index (·.tell delivery))
  else return backend

/-- `deliver_result`. -/
def deliverResult (backend : ServiceBackend) (index : ℕ) (result : BackendResult) :
    ServiceBackendM ServiceBackend :=
  match backend.calls[index]? with
  | none => return backend
  | some call =>
    if call.completed then return backend
    else do
      let delivery := backend.delivery call result
      let backend ← (backend.modify index (·.complete result)).callBack index call delivery
      return backend.modify index BackendRequest.release

/-- `backend_call_remaining`. -/
def callRemaining (backend : ServiceBackend) (index : ℕ) :
    ServiceBackendM (ℤ × ServiceBackend) :=
  match backend.calls[index]? with
  | none => return (0, backend)
  | some call =>
    if call.completed then return (0, backend)
    else if (call.backend && backend.isRunning) = false ∨ call.cancelled then do
      let backend ← backend.deliverResult index (resultOfKind .cancelled)
      return (0, backend)
    else do
      let backend ← backend.readClock
      let remaining := deadlineRemainingMsec backend.nowMsec call.deadlineMsec maxInt
      if remaining > 0 then return (remaining, backend)
      else
        let backend ← backend.deliverResult index (resultOfKind .timedOut)
        return (0, backend)

/-- `call_deadline_cb`. -/
def callDeadline (backend : ServiceBackend) (index : ℕ) : ServiceBackendM ServiceBackend := do
  let (_, backend) ← backend.callRemaining index
  return backend.modify index BackendRequest.timedOut

/-- What is done with a call for which `backend_call_remaining` finds that time remains. -/
def whileRemaining (backend : ServiceBackend) (index : ℕ)
    (next : ServiceBackend → BackendRequest → ℤ → ServiceBackendM ServiceBackend) :
    ServiceBackendM ServiceBackend := do
  let (remaining, backend) ← backend.callRemaining index
  if remaining = 0 then return backend
  else
    match backend.calls[index]? with
    | none => return backend
    | some call => next backend call remaining

/-- The end of `service_call_cb`, for a call that goes on. -/
def takeReply (backend : ServiceBackend) (index : ℕ) (call : BackendRequest)
    (reply : Except BusError ServiceAnswer) : ServiceBackendM ServiceBackend :=
  match reply with
  | .error error =>
    backend.deliverResult index (resultOfError (call.backend && backend.isRunning) error)
  | .ok answer => backend.deliverResult index (resultOfAnswer call.operation answer)

/-- `service_call_cb`. -/
def serviceCall (backend : ServiceBackend) (index : ℕ) (reply : Except BusError ServiceAnswer) :
    ServiceBackendM ServiceBackend :=
  (backend.modify index (·.haveReply reply)).whileRemaining index fun backend call _ =>
    backend.takeReply index call reply

/-- The end of `service_bus_ready_cb`, for a call that goes on. -/
def takeBus (backend : ServiceBackend) (index : ℕ) (call : BackendRequest) (remaining : ℤ)
    (reply : Except BusError Unit) : ServiceBackendM ServiceBackend :=
  match reply with
  | .error error =>
    backend.deliverResult index (resultOfKind
      (if (call.backend && backend.isRunning) = false ∨ error.code = .ioCancelled then .cancelled
        else .busUnavailable))
  | .ok () =>
    let admitted := backend.isRunning && !call.cancelled
    return backend.modify index (·.send remaining backend.nowMsec admitted)

/-- `service_bus_ready_cb`. -/
def serviceBusReady (backend : ServiceBackend) (index : ℕ) (reply : Except BusError Unit) :
    ServiceBackendM ServiceBackend :=
  (backend.modify index (·.haveBus reply)).whileRemaining index fun backend call remaining =>
    backend.takeBus index call remaining reply

/-- The end of `network_sidebar_awg_backend_execute`, for a call with a budget. -/
def beginCall (backend : ServiceBackend) (index : ℕ) : ServiceBackendM ServiceBackend :=
  backend.whileRemaining index fun backend _ _ =>
    return backend.modify index BackendRequest.begin

/-- The backend with one more call. -/
def enlist (backend : ServiceBackend) (call : BackendRequest) : ServiceBackend :=
  { backend with calls := backend.calls ++ [call] }

/-- `network_sidebar_awg_backend_execute`, with a backend and a callback. -/
def execute (backend : ServiceBackend) (arguments : CallArguments) (caller : Option ℕ) :
    ServiceBackendM ServiceBackend := do
  let backend ← backend.readClock
  let call := backend.callNew arguments caller
  let index := backend.calls.length
  let backend := backend.enlist call
  if backend.isRunning = false ∨ call.cancelled then
    backend.deliverResult index (resultOfKind .cancelled)
  else
    let budget := callBudgetMsec arguments.operation
    if budget = 0 then backend.deliverResult index (resultOfKind .failed)
    else (backend.modify index (·.expire (call.startedAtMsec + budget))).beginCall index

/-! ## The authorization -/

/-- A function of the part that asks for the authorization. -/
def authorize : BackendM Backend → ServiceBackend → ServiceBackendM ServiceBackend
  | .pure auth, backend => return { backend with toBackend := auth }
  | .call (.note note auth) k, backend =>
    .call (.note (.authorization note) { backend with toBackend := auth }) fun backend =>
      authorize (k backend.toBackend) backend
  | .call (.sys o) _, _ => o.elim

end ServiceBackend

/-! ## The component -/

/-- What may be called of a backend, and what may happen to it. -/
inductive ServiceBackendEntry where
  | start
  | stop
  | execute (arguments : CallArguments) (caller : Option ℕ)
  | cancelCaller (caller : ℕ)
  | authorization (e : BackendEntry)
  | wait (usec : ℕ)
  | busReady (call : ℕ) (reply : Except BusError Unit)
  | serviceCall (call : ℕ) (reply : Except BusError ServiceAnswer)
  | callDeadline (call : ℕ)

/-- The entry starts or stops the backend. -/
def BackendEntry.IsLifecycle : BackendEntry → Prop
  | start | stop => True
  | invalidateAuthorization | authorityReady _ | authorityChanged | authorityOwnerChanged => False
  | authorizationCheck .. | authorizationRetry _ => False

namespace ServiceBackendEntry

/-- The entry is a function of the backend's owner or of a caller, or time that passes. -/
def IsCall : ServiceBackendEntry → Prop
  | start | stop | execute .. | cancelCaller _ | wait _ => True
  | authorization e => e.IsCall
  | busReady .. | serviceCall .. | callDeadline _ => False

/-- When it can occur. A timer runs when its time has come. -/
def Enabled : ServiceBackendEntry → ServiceBackend → Prop
  | start, _ | stop, _ | execute .., _ | cancelCaller _, _ | wait _, _ => True
  | authorization e, backend => ¬e.IsLifecycle ∧ e.Enabled backend.toBackend
  | busReady index _, backend => ∃ call ∈ backend.calls[index]?, call.transport = .bus
  | serviceCall index _, backend => ∃ call ∈ backend.calls[index]?, call.transport = .service
  | callDeadline index, backend => ∃ call ∈ backend.calls[index]?,
      call.deadlineSource = true ∧ call.deadlineMsec * 1000 ≤ backend.nowUsec

/-- What it does. -/
def run : ServiceBackendEntry → ServiceBackend → ServiceBackendM ServiceBackend
  | start, backend => return backend.startBackend
  | stop, backend => return backend.stopBackend
  | execute arguments caller, backend => backend.execute arguments caller
  | cancelCaller caller, backend => return backend.cancelCaller caller
  | authorization e, backend => backend.authorize (e.run backend.toBackend)
  | wait usec, backend => return backend.pass usec
  | busReady index reply, backend => backend.serviceBusReady index reply
  | serviceCall index reply, backend => backend.serviceCall index reply
  | callDeadline index, backend => backend.callDeadline index

end ServiceBackendEntry

/-- The backend in its environment. -/
def serviceBackend : Component ServiceBackend ServiceBackendNote clockSig where
  Entry := ServiceBackendEntry
  run := ServiceBackendEntry.run
  enabled := ServiceBackendEntry.Enabled
  nested := ServiceBackendEntry.IsCall
  answers _ _ := True
  init backend := ∃ authorizationChanged nowUsec, backend = .new authorizationChanged nowUsec

end NmSidebar
