import NmSidebar.Program.Pool
import NmSidebar.Text.Bytes

/-!
# The command server's socket

The start and the end of the command server (`gui/command_server.c`) with the probe of
`core/command_socket.c`, as programs over the calls they make, and what the calls do to the
socket's path when any number of processes make them.
-/

namespace NmSidebar

open Text Effects

/-! ## Calls -/

/-- `st_dev` and `st_ino`. -/
structure FileId where
  dev : ℕ
  ino : ℕ
  deriving DecidableEq

/-- What `lstat` says about the path: whether it is a socket, and which file. -/
structure FileNode where
  isSocket : Bool
  id : FileId
  deriving DecidableEq

/-- The outcome of `lstat`. -/
inductive PathStat where
  | found (node : FileNode)
  | missing
  | failed
  deriving DecidableEq

/-- What is checked of the socket's directory. -/
structure DirectoryStat where
  isLink : Bool
  isDirectory : Bool
  isOwned : Bool
  permissions : ℕ

/-- What is checked of the lock file. -/
structure LockStat where
  isRegular : Bool
  isOwned : Bool

/-- The outcome of `flock`: `held` is a lock that another process has. -/
inductive LockOutcome where
  | locked
  | held
  | failed
  deriving DecidableEq

/-- The outcome of `connect`, with the two error codes that are looked at. -/
inductive ConnectOutcome where
  | connected
  | refused
  | missing
  | failed
  deriving DecidableEq

/-- The outcome of `unlink`. -/
inductive UnlinkOutcome where
  | removed
  | missing
  | failed
  deriving DecidableEq

/-- The calls of the command server. `setBoundSocketId` and `free` are what it writes to its
own memory about the file it has bound; `serve` lasts from the return of the constructor to the
call that closes the server. -/
inductive SocketCall where
  | runtimeSocketPath
  | socket
  | lstatDirectory
  | openStartupLock
  | fstatStartupLock
  | flock
  | monotonicTime
  | sleep
  | lstatPath
  | unlinkPath
  | bind
  | setBoundSocketId (id : FileId)
  | chmod
  | listen
  | setAcceptTimeout
  | unlock
  | closeLock
  | startThread
  | serve
  | shutdown
  | closeSocket
  | joinThread
  | free
  -- the probe
  | openProbe
  | connect
  | sendPing
  | receive (size : ℕ)
  | closeProbe
  deriving DecidableEq

/-- The reply to each call. -/
@[reducible] def SocketCall.Reply : SocketCall → Type
  | runtimeSocketPath | socket | openStartupLock | bind | chmod | listen | openProbe
  | sendPing => Bool
  | lstatDirectory => Option DirectoryStat
  | fstatStartupLock => Option LockStat
  | flock => LockOutcome
  | monotonicTime => ℤ
  | lstatPath => PathStat
  | unlinkPath => UnlinkOutcome
  | connect => ConnectOutcome
  | receive _ => Option Bytes
  | _ => Unit

/-- The signature of the command server. -/
@[reducible] def socketSig : Signature := ⟨SocketCall, SocketCall.Reply⟩

/-- Programs of the command server. -/
abbrev SocketM := Prog socketSig

/-- Makes a call. -/
abbrev perform (o : SocketCall) : SocketM o.Reply := Prog.request (S := socketSig) o

/-! ## The probe -/

/-- The size of `sun_path`. -/
def sunPathSize : ℕ := 108

/-- `network_sidebar_success_response` to a ping. -/
def pingResponse : Bytes := ascii "nm-sidebar-ipc-v1 ok ping\n"

/-- `NetworkSidebarSocketProbeStatus`. -/
inductive ProbeStatus where
  | acknowledged
  | unacknowledged
  | notConnectable
  deriving DecidableEq

/-- The loop of `network_sidebar_probe_socket` that reads the response, with what was read. Every
turn but the last reads a byte at least, so there are no more turns than bytes expected. -/
def probeReceive : ℕ → Bytes → SocketM (Option Bytes)
  | 0, response => return some response
  | turns + 1, response => do
    if response.length ≥ pingResponse.length then return some response
    else
      match ← perform (.receive (pingResponse.length - response.length)) with
      | none | some [] => return none
      | some received =>
        if received.contains 0x0a then return some (response ++ received)
        else probeReceive turns (response ++ received)

/-- `network_sidebar_probe_socket` before its descriptor is closed. -/
def probeConnected (path : Bytes) : SocketM ProbeStatus := do
  if path.length ≥ sunPathSize then return .unacknowledged
  else
    match ← perform .connect with
    | .refused | .missing => return .notConnectable
    | .failed => return .unacknowledged
    | .connected =>
      if ← perform .sendPing then
        match ← probeReceive pingResponse.length [] with
        | none => return .unacknowledged
        | some response =>
          -- the response is compared as a C string
          return if response.takeWhile (· ≠ 0) = pingResponse then .acknowledged
            else .unacknowledged
      else return .unacknowledged

/-- `network_sidebar_probe_socket`. -/
def probeSocket (path : Bytes) : SocketM ProbeStatus := do
  if ← perform .openProbe then
    let status ← probeConnected path
    perform .closeProbe
    return status
  else return .unacknowledged

/-! ## The command server -/

/-- The codes of the constructor's errors; `errno` is the code of a failed call. -/
inductive ServerError where
  | errno
  | failed
  | busy
  | exists
  | filenameTooLong
  deriving DecidableEq

/-- `NetworkSidebarCommandServer`: whether its descriptors and its thread are there, and the file
it has bound. -/
structure CommandServer where
  fd : Bool
  startupLockFd : Bool
  boundId : Option FileId
  thread : Bool

/-- The structure as it is allocated. -/
def CommandServer.allocated : CommandServer := ⟨false, false, none, false⟩

/-- `validate_socket_directory`. -/
def validateSocketDirectory : SocketM (Except ServerError Unit) := do
  match ← perform .lstatDirectory with
  | none => return .error .errno
  | some stat =>
    return if stat.isLink then .error .failed
      else if stat.isDirectory = false then .error .failed
      else if stat.isOwned = false then .error .failed
      else if stat.permissions &&& 0o077 ≠ 0 then .error .failed
      else .ok ()

/-- `NETWORK_SIDEBAR_STARTUP_LOCK_TIMEOUT_SECONDS` in microseconds. -/
def startupLockTimeout : ℤ := 3000000

/-- The loop of `wait_for_startup_lock`. The source goes on until the deadline; `attempts` bounds
the attempts that are still made. -/
def waitForLockLoop (deadline : ℤ) (attempts : ℕ) : SocketM (Except ServerError Unit) := do
  match ← perform .flock with
  | .locked => return .ok ()
  | .failed => return .error .errno
  | .held =>
    let now ← perform .monotonicTime
    if now ≥ deadline then return .error .busy
    else
      match attempts with
      | 0 => return .error .busy
      | attempts + 1 =>
        perform .sleep
        waitForLockLoop deadline attempts

/-- `wait_for_startup_lock`. -/
def waitForStartupLock (attempts : ℕ) : SocketM (Except ServerError Unit) := do
  let now ← perform .monotonicTime
  waitForLockLoop (now + startupLockTimeout) attempts

/-- `acquire_startup_lock`, with the server it leaves. -/
def acquireStartupLock (attempts : ℕ) (server : CommandServer) :
    SocketM (Except ServerError Unit × CommandServer) := do
  if ← perform .openStartupLock then
    let server := { server with startupLockFd := true }
    match ← perform .fstatStartupLock with
    | none => return (.error .errno, server)
    | some stat =>
      if stat.isRegular = false then return (.error .failed, server)
      else if stat.isOwned = false then return (.error .failed, server)
      else
        let locked ← waitForStartupLock attempts
        return (locked, server)
  else return (.error .errno, { server with startupLockFd := false })

/-- The outcome of `socket_path_is_unchanged`. -/
inductive PathCheck where
  | unchanged
  | disappeared
  | refused (error : ServerError)

/-- `socket_path_is_unchanged`. -/
def socketPathIsUnchanged (existing : FileId) : SocketM PathCheck := do
  match ← perform .lstatPath with
  | .missing => return .disappeared
  | .failed => return .refused .errno
  | .found current =>
    return if current.isSocket = false ∨ current.id ≠ existing then .refused .failed
      else .unchanged

/-- `remove_stale_socket_path`. -/
def removeStaleSocketPath (path : Bytes) : SocketM (Except ServerError Unit) := do
  match ← perform .lstatPath with
  | .missing => return .ok ()
  | .failed => return .error .errno
  | .found existing =>
    if existing.isSocket = false then return .error .failed
    else
      match ← probeSocket path with
      | .acknowledged => return .error .exists
      | .unacknowledged => return .error .busy
      | .notConnectable =>
        match ← socketPathIsUnchanged existing.id with
        | .disappeared => return .ok ()
        | .refused error => return .error error
        | .unchanged =>
          match ← perform .unlinkPath with
          | .failed => return .error .errno
          | .removed | .missing => return .ok ()

/-- `release_startup_lock`. -/
def releaseStartupLock (server : CommandServer) : SocketM CommandServer := do
  if server.startupLockFd = false then return server
  else
    perform .unlock
    perform .closeLock
    return { server with startupLockFd := false }

/-- The part of `bind_command_socket` that notes which file was bound. -/
def noteBoundSocket (server : CommandServer) : SocketM CommandServer := do
  match ← perform .lstatPath with
  | .found node =>
    perform (.setBoundSocketId node.id)
    return { server with boundId := some node.id }
  | .missing | .failed => return server

/-- `bind_command_socket` once the path is free. -/
def bindFreePath (path : Bytes) (server : CommandServer) :
    SocketM (Except ServerError Unit × CommandServer) := do
  if path.length ≥ sunPathSize then return (.error .filenameTooLong, server)
  else if ← perform .bind then
    let server ← noteBoundSocket server
    if ← perform .chmod then
      if ← perform .listen then
        perform .setAcceptTimeout
        let server ← releaseStartupLock server
        return (.ok (), server)
      else return (.error .errno, server)
    else return (.error .errno, server)
  else return (.error .errno, server)

/-- `bind_command_socket`, with the server it leaves. -/
def bindCommandSocket (path : Bytes) (attempts : ℕ) (server : CommandServer) :
    SocketM (Except ServerError Unit × CommandServer) := do
  match ← validateSocketDirectory with
  | .error error => return (.error error, server)
  | .ok () =>
    match ← acquireStartupLock attempts server with
    | (.error error, server) => return (.error error, server)
    | (.ok (), server) =>
      match ← removeStaleSocketPath path with
      | .error error => return (.error error, server)
      | .ok () => bindFreePath path server

/-- `path_matches_bound_socket`. -/
def pathMatchesBoundSocket (server : CommandServer) : SocketM Bool := do
  match server.boundId with
  | none => return false
  | some bound =>
    match ← perform .lstatPath with
    | .missing | .failed => return false
    | .found current => return current.isSocket && decide (current.id = bound)

/-- The part of `unlink_bound_socket_path` that runs with the lock held. -/
def unlinkLockedSocketPath (server : CommandServer) : SocketM Unit := do
  if ← pathMatchesBoundSocket server then
    let _ ← perform .unlinkPath
    return ()
  else return ()

/-- `unlink_bound_socket_path`, with the server it leaves. -/
def unlinkBoundSocketPath (attempts : ℕ) (server : CommandServer) : SocketM CommandServer := do
  if server.boundId = none then return server
  else if server.startupLockFd = false then
    match ← acquireStartupLock attempts server with
    | (.error _, server) => return server
    | (.ok (), server) =>
      unlinkLockedSocketPath server
      releaseStartupLock server
  else
    unlinkLockedSocketPath server
    return server

/-- The part of `network_sidebar_command_server_close` that closes the socket. -/
def closeServerSocket (server : CommandServer) : SocketM CommandServer := do
  if server.fd = false then return server
  else
    perform .shutdown
    perform .closeSocket
    return { server with fd := false }

/-- The part of `network_sidebar_command_server_close` that waits for the thread. -/
def joinServerThread (server : CommandServer) : SocketM CommandServer := do
  if server.thread = false then return server
  else
    perform .joinThread
    return { server with thread := false }

/-- `network_sidebar_command_server_close`. -/
def commandServerClose (attempts : ℕ) (server : CommandServer) : SocketM Unit := do
  let server ← closeServerSocket server
  let server ← joinServerThread server
  let server ← unlinkBoundSocketPath attempts server
  let _ ← releaseStartupLock server
  perform .free

/-- `network_sidebar_command_server_new`. -/
def commandServerNew (path : Bytes) (attempts : ℕ) : SocketM (Option CommandServer) := do
  let server := CommandServer.allocated
  if ← perform .runtimeSocketPath then
    if ← perform .socket then
      match ← bindCommandSocket path attempts { server with fd := true } with
      | (.error _, server) =>
        commandServerClose attempts server
        return none
      | (.ok (), server) =>
        perform .startThread
        return some { server with thread := true }
    else
      commandServerClose attempts server
      return none
  else
    commandServerClose attempts server
    return none

/-- A process: it starts command servers one after the other, `servers` at most, each once the
last one is closed. -/
def serverProcess (path : Bytes) (attempts : ℕ) : ℕ → SocketM Unit
  | 0 => return ()
  | servers + 1 => do
    match ← commandServerNew path attempts with
    | none => serverProcess path attempts servers
    | some server =>
      perform .serve
      commandServerClose attempts server
      serverProcess path attempts servers

/-! ## What the calls do -/

/-- What has become of a process's socket. A socket that is shut down is `opened`: nobody can
connect to it any more. -/
inductive SocketState where
  | closed
  | opened
  | bound (id : FileId)
  | listening (id : FileId)
  deriving DecidableEq

/-- The file a socket has at the path. -/
def SocketState.file : SocketState → Option FileId
  | closed | opened => none
  | bound id | listening id => some id

/-- The socket's path, who has the startup lock, and of every process its socket and the file that
it remembers as bound. -/
structure SocketWorld (ι : Type) where
  path : Option FileNode
  lock : Option ι
  sock : ι → SocketState
  remembered : ι → Option FileId

variable {ι : Type} [DecidableEq ι]

/-- A process's socket has changed. -/
def SocketWorld.setSock (w : SocketWorld ι) (i : ι) (s : SocketState) : SocketWorld ι :=
  { w with sock := Function.update w.sock i s }

/-- A process remembers another file. -/
def SocketWorld.remember (w : SocketWorld ι) (i : ι) (id : Option FileId) : SocketWorld ι :=
  { w with remembered := Function.update w.remembered i id }

/-- A process gives up the lock where it has it. -/
def SocketWorld.release (w : SocketWorld ι) (i : ι) : SocketWorld ι :=
  { w with lock := if w.lock = some i then none else w.lock }

/-- A process listens on the socket that the path refers to. -/
def SocketWorld.Serves (w : SocketWorld ι) (i : ι) : Prop :=
  ∃ id, w.sock i = .listening id ∧ w.path = some ⟨true, id⟩

/-- What a call of process `i` may reply, and the world it leaves. The lock is exclusive; a
connection to a listening socket is not refused; a file that is made is none that a process
remembers. -/
def SocketCall.Outcome (i : ι) :
    (o : SocketCall) → SocketWorld ι → o.Reply → SocketWorld ι → Prop
  | .socket, w, r, w' => (r = true ∧ w' = w.setSock i .opened) ∨ (r = false ∧ w' = w)
  | .flock, w, r, w' =>
    (r = .locked ∧ w.lock = none ∧ w' = { w with lock := some i }) ∨ (r ≠ .locked ∧ w' = w)
  | .unlock, w, _, w' | .closeLock, w, _, w' => w' = w.release i
  | .lstatPath, w, r, w' =>
    w' = w ∧
      match r with
      | .found node => w.path = some node
      | .missing => w.path = none
      | .failed => True
  | .connect, w, r, w' => w' = w ∧ (r = .refused ∨ r = .missing → ∀ j, ¬w.Serves j)
  | .unlinkPath, w, r, w' =>
    (r = .removed ∧ w' = { w with path := none }) ∨ (r ≠ .removed ∧ w' = w)
  | .bind, w, r, w' =>
    (r = true ∧ w.path = none ∧ ∃ id, (∀ j, w.remembered j ≠ some id) ∧
      w' = { w.setSock i (.bound id) with path := some ⟨true, id⟩ }) ∨ (r = false ∧ w' = w)
  | .setBoundSocketId id, w, _, w' => w' = w.remember i (some id)
  | .listen, w, r, w' =>
    (r = true ∧ ∃ id, w.sock i = .bound id ∧ w' = w.setSock i (.listening id)) ∨
      (r = false ∧ w' = w)
  | .shutdown, w, _, w' => w' = w.setSock i .opened
  | .closeSocket, w, _, w' => w' = w.setSock i .closed
  | .free, w, _, w' => w' = w.remember i none
  | _, w, _, w' => w' = w

/-- The death of a process: its descriptors are closed, its lock is released and its memory is
gone. -/
def SocketWorld.Crash (i : ι) (w w' : SocketWorld ι) : Prop :=
  w' = ((w.setSock i .closed).remember i none).release i

/-- A world before any process has made a call: there may be anything at the path. -/
structure SocketWorld.Initial (w : SocketWorld ι) : Prop where
  lock : w.lock = none
  sock : ∀ i, w.sock i = .closed
  remembered : ∀ i, w.remembered i = none

/-- Any number of processes at their start, each with its own bounds. -/
def serverPool (path : Bytes) (attempts servers : ι → ℕ) (w : SocketWorld ι) :
    Pool socketSig ι Unit (SocketWorld ι) :=
  ⟨fun i => some (serverProcess path (attempts i) (servers i)), w⟩

end NmSidebar
