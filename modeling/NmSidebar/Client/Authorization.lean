import NmSidebar.Program.Reentrant

/-!
# The authorization of the client

The part of `backend.c` that asks polkit whether the user may use the service. A check may complete
after the policy has changed, and an owner that is told of a result may invalidate it from within
its callback. A grant is reported only for a check that was started after the last invalidation.
-/

namespace NmSidebar

open Effects

/-! ## State -/

/-- A check under way. `startedAt` is not in the source: it counts the invalidations before it. -/
structure AuthorizationCheck where
  startedAt : ℕ

/-- What `polkit_authority_check_authorization_finish` gives. -/
inductive CheckReply where
  | result (isAuthorized temporary : Bool)
  | error

/-- What `polkit_authority_get_finish` gives. -/
inductive AuthorityReply where
  | authority
  | cancelled
  | failed

/-- `NetworkSidebarAwgBackend`, as far as it is about the authorization. `sources` are its sources of
the main loop, `gets` and `checks` the calls to polkit under way. `invalidations` is not in the
source: it counts the calls of `invalidate_authorization`. -/
structure Backend where
  authorizationChanged : Bool
  authority : Bool
  authorityGetPending : Bool
  authorizationCheckPending : Bool
  authorizationRecheck : Bool
  authorizationRetrySource : ℕ
  started : Bool
  stopping : Bool
  nextSource : ℕ
  sources : List ℕ
  gets : ℕ
  checks : List AuthorizationCheck
  invalidations : ℕ

/-- The callback of the backend's owner. `ground` is not in the source: the check that the callback
is about, with its result. -/
inductive BackendNote where
  | authorizationChanged (authorized : Bool) (ground : Option (AuthorizationCheck × CheckReply))

/-- The calls to polkit return at once, so that no reply is awaited. -/
abbrev backendSig : Signature := ⟨Empty, fun _ => Empty⟩

/-- A function of the backend. -/
abbrev BackendM := Prog (calloutSig Backend BackendNote backendSig)

/-- The user is authorized, and not only for a while. -/
def CheckReply.grants : CheckReply → Bool
  | result isAuthorized temporary => isAuthorized && !temporary
  | error => false

namespace Backend

/-- `network_sidebar_awg_backend_new`. -/
def new (authorizationChanged : Bool) : Backend where
  authorizationChanged
  authority := false
  authorityGetPending := false
  authorizationCheckPending := false
  authorizationRecheck := false
  authorizationRetrySource := 0
  started := false
  stopping := false
  nextSource := 0
  sources := []
  gets := 0
  checks := []
  invalidations := 0

/-- `backend_is_running`. -/
def isRunning (backend : Backend) : Bool := backend.started && !backend.stopping

/-- The retry timer is removed. -/
def removeRetry (backend : Backend) : Backend :=
  { backend with
    sources := backend.sources.filter (· ≠ backend.authorizationRetrySource)
    authorizationRetrySource := 0 }

/-! ## Checks -/

/-- `notify_authorization`. -/
def notifyAuthorization (backend : Backend) (authorized : Bool)
    (ground : Option (AuthorizationCheck × CheckReply)) : BackendM Backend :=
  if backend.isRunning then
    let backend :=
      if authorized ∧ backend.authorizationRetrySource ≠ 0 then backend.removeRetry else backend
    if backend.authorizationChanged then callout (.authorizationChanged authorized ground) backend
    else return backend
  else return backend

/-- `start_authorization_check`. -/
def startAuthorizationCheck (backend : Backend) : Backend :=
  if backend.isRunning = false ∨ backend.authority = false ∨ backend.authorizationCheckPending then
    backend
  else
    { backend with
      authorizationCheckPending := true
      checks := ⟨backend.invalidations⟩ :: backend.checks }

/-- `finish_authorization_check`. -/
def finishAuthorizationCheck (backend : Backend) (check : AuthorizationCheck)
    (reply : CheckReply) : BackendM Backend := do
  let backend := { backend with authorizationCheckPending := false }
  if backend.isRunning = false then return { backend with authorizationRecheck := false }
  else if backend.authorizationRecheck then
    -- the result is dropped, since the policy has changed
    let backend ← { backend with authorizationRecheck := false }.notifyAuthorization false none
    return backend.startAuthorizationCheck
  else backend.notifyAuthorization reply.grants (some (check, reply))

/-- `schedule_authorization_retry`. -/
def scheduleAuthorizationRetry (backend : Backend) : Backend :=
  if backend.isRunning = false ∨ backend.authorizationRetrySource ≠ 0 then backend
  else
    { backend with
      nextSource := backend.nextSource + 1
      sources := (backend.nextSource + 1) :: backend.sources
      authorizationRetrySource := backend.nextSource + 1 }

/-- A retry is scheduled where the check has failed. -/
def retryAfter (backend : Backend) : CheckReply → Backend
  | .result .. => backend
  | .error => backend.scheduleAuthorizationRetry

/-- `authorization_check_cb`. -/
def authorizationCheck (backend : Backend) (check : AuthorizationCheck) (reply : CheckReply) :
    BackendM Backend := do
  if backend.isRunning then
    let backend ← backend.finishAuthorizationCheck check reply
    return backend.retryAfter reply
  else return { backend with authorizationCheckPending := false }

/-- The end of `network_sidebar_awg_backend_invalidate_authorization`. -/
def recheck (backend : Backend) : Backend :=
  if backend.isRunning = false then backend
  else if backend.authorizationCheckPending then { backend with authorizationRecheck := true }
  else backend.startAuthorizationCheck

/-- `network_sidebar_awg_backend_invalidate_authorization`. -/
def invalidateAuthorization (backend : Backend) : BackendM Backend := do
  let backend := { backend with invalidations := backend.invalidations + 1 }
  if backend.isRunning = false then return backend
  else
    let backend ← backend.notifyAuthorization false none
    return backend.recheck

/-! ## The authority -/

/-- `request_authority`. -/
def requestAuthority (backend : Backend) : Backend :=
  if backend.isRunning = false ∨ backend.authority ∨ backend.authorityGetPending then backend
  else { backend with authorityGetPending := true, gets := backend.gets + 1 }

/-- `authorization_retry_cb`. -/
def authorizationRetry (backend : Backend) : Backend :=
  let backend := { backend with authorizationRetrySource := 0 }
  if backend.isRunning = false then backend
  else if backend.authority = false then backend.requestAuthority
  else backend.startAuthorizationCheck

/-- `authority_ready_cb`. -/
def authorityReady (backend : Backend) (reply : AuthorityReply) : Backend :=
  let backend := { backend with authorityGetPending := false }
  if backend.isRunning then
    match reply with
    | .authority => { backend with authority := true }.startAuthorizationCheck
    | .cancelled => { backend with authority := false }
    | .failed => { backend with authority := false }.scheduleAuthorizationRetry
  else backend

/-- `network_sidebar_awg_backend_start`. -/
def start (backend : Backend) : Backend :=
  if backend.started ∨ backend.stopping then backend
  else { backend with started := true }.requestAuthority

/-- `backend_stop_internal`. -/
def stopInternal (backend : Backend) : Backend :=
  if backend.stopping then backend
  else
    let backend := { backend with stopping := true, started := false }
    let backend :=
      if backend.authorizationRetrySource ≠ 0 then backend.removeRetry else backend
    { backend with
      authority := false
      authorizationChanged := false
      authorizationRecheck := false }

end Backend

/-! ## The component -/

/-- What may be called of a backend, and what may happen to it. -/
inductive BackendEntry where
  | start
  | stop
  | invalidateAuthorization
  | authorityReady (reply : AuthorityReply)
  | authorityChanged
  | authorityOwnerChanged
  | authorizationCheck (check : ℕ) (reply : CheckReply)
  | authorizationRetry (id : ℕ)

namespace BackendEntry

/-- The entry is a function of the backend's owner. -/
def IsCall : BackendEntry → Prop
  | start | stop | invalidateAuthorization => True
  | authorityReady _ | authorityChanged | authorityOwnerChanged | authorizationCheck ..
  | authorizationRetry _ => False

/-- When it can occur. -/
def Enabled : BackendEntry → Backend → Prop
  | authorityReady _, backend => 0 < backend.gets
  | authorityChanged, backend | authorityOwnerChanged, backend => backend.authority = true
  | authorizationCheck check _, backend => check < backend.checks.length
  | authorizationRetry id, backend => id ∈ backend.sources
  | _, _ => True

/-- What it does. -/
def run : BackendEntry → Backend → BackendM Backend
  | start, backend => return backend.start
  | stop, backend => return backend.stopInternal
  | invalidateAuthorization, backend => backend.invalidateAuthorization
  | authorityReady reply, backend =>
    return { backend with gets := backend.gets - 1 }.authorityReady reply
  | authorityChanged, backend => backend.invalidateAuthorization
  | authorityOwnerChanged, backend => backend.invalidateAuthorization
  | authorizationCheck check reply, backend =>
    match backend.checks[check]? with
    | some completed =>
      { backend with checks := backend.checks.eraseIdx check }.authorizationCheck completed reply
    | none => return backend
  | authorizationRetry id, backend =>
    return { backend with sources := backend.sources.filter (· ≠ id) }.authorizationRetry

end BackendEntry

/-- The backend in its environment. Its owner may call it from within its callback. -/
def backendComponent : Component Backend BackendNote backendSig where
  Entry := BackendEntry
  run := BackendEntry.run
  enabled := BackendEntry.Enabled
  nested := BackendEntry.IsCall
  answers _ _ := True
  init backend := ∃ authorizationChanged, backend = .new authorizationChanged

namespace Backend

/-! ## Grants are not older than the last invalidation -/

/-- At most one check is under way, since the start, and the flag tells of it. -/
def Tracks (backend : Backend) : Prop :=
  backend.checks.length = backend.authorizationCheckPending.toNat ∧
    (backend.checks ≠ [] → backend.started = true ∨ backend.stopping = true)

/-- The check under way is repeated, or nothing was invalidated since it was started. -/
def Current (backend : Backend) : Prop :=
  backend.isRunning = true → backend.authorizationRecheck = false →
    ∀ check ∈ backend.checks, check.startedAt = backend.invalidations

/-- The contract of the backend's grants. -/
def grantContract : Contract Backend BackendNote where
  invariant := Tracks
  rely backend backend' := backend.Current → backend'.Current
  issues
    | .authorizationChanged authorized ground, backend => authorized = true →
      ∃ check reply, ground = some (check, reply) ∧ reply.grants = true ∧
        check.startedAt = backend.invalidations
  settled := Current

/-- A function keeps the contract and leaves the check under way current if it was. -/
def KeepsGrants (p : BackendM Backend) (Q : Prop) : Prop :=
  grantContract.Maintains backendComponent p fun backend =>
    backend.Tracks ∧ (Q → backend.Current)

variable {backend : Backend} {Q : Prop}

theorem current_of_stopped (h : backend.isRunning = false) : backend.Current :=
  fun hrunning => absurd (h.symm.trans hrunning) Bool.false_ne_true

theorem keepsGrants_notifyAuthorization (h : backend.Tracks) {authorized : Bool}
    {ground : Option (AuthorizationCheck × CheckReply)}
    (hground : authorized = true → ∃ check reply, ground = some (check, reply) ∧
      reply.grants = true ∧ check.startedAt = backend.invalidations) :
    KeepsGrants (backend.notifyAuthorization authorized ground) backend.Current := by
  have hnotified (backend' : Backend) (hsame : backend'.Tracks ∧
      (backend.Current → backend'.Current) ∧ backend'.invalidations = backend.invalidations) :
      KeepsGrants (if backend'.authorizationChanged then
        callout (.authorizationChanged authorized ground) backend' else return backend')
        backend.Current := by
    obtain ⟨htracks, hcurrent, hinvalidations⟩ := hsame
    split
    · refine Contract.maintains_callout.mpr ⟨⟨htracks, fun hauthorized => ?_⟩, ?_⟩
      · exact hinvalidations ▸ hground hauthorized
      · exact fun backend'' h'' => ⟨h''.1, fun hold => h''.2 (hcurrent hold)⟩
    · exact ⟨htracks, hcurrent⟩
  unfold notifyAuthorization
  split
  · refine hnotified _ ?_
    split
    · exact ⟨h, id, rfl⟩
    · exact ⟨h, id, rfl⟩
  · exact ⟨h, id⟩

/-- A check that is started is current. -/
theorem startAuthorizationCheck_tracks (h : backend.Tracks) :
    backend.startAuthorizationCheck.Tracks ∧
      (backend.authorizationCheckPending = true → backend.Current →
        backend.startAuthorizationCheck.Current) ∧
      (backend.authorizationCheckPending = false → backend.startAuthorizationCheck.Current) := by
  have hempty (hidle : backend.authorizationCheckPending = false) : backend.checks = [] := by
    refine List.length_eq_zero_iff.mp ?_
    rw [h.1, hidle]
    rfl
  unfold startAuthorizationCheck
  split
  · refine ⟨h, fun _ hcurrent => hcurrent, fun hidle _ _ check hmem => ?_⟩
    rw [hempty hidle] at hmem
    cases hmem
  · rename_i hstarts
    have hidle : backend.authorizationCheckPending = false := by
      simp only [not_or, Bool.not_eq_true] at hstarts
      exact hstarts.2.2
    have hstarted : backend.started = true := by
      simp only [not_or, Bool.not_eq_false, isRunning, Bool.and_eq_true] at hstarts
      exact hstarts.1.1
    rw [hempty hidle]
    refine ⟨⟨rfl, fun _ => .inl hstarted⟩, fun hpending => ?_, fun _ _ _ check hmem => ?_⟩
    · exact absurd (hidle.symm.trans hpending) Bool.false_ne_true
    · rw [List.mem_singleton.mp hmem]

theorem startAuthorizationCheck_keeps (h : backend.Tracks) (hcurrent : backend.Current) :
    backend.startAuthorizationCheck.Tracks ∧ backend.startAuthorizationCheck.Current := by
  obtain ⟨htracks, hpending, hidle⟩ := startAuthorizationCheck_tracks h
  cases hcase : backend.authorizationCheckPending with
  | false => exact ⟨htracks, hidle hcase⟩
  | true => exact ⟨htracks, hpending hcase hcurrent⟩

/-- The invalidation leaves no check that is older than it and not repeated. -/
theorem recheck_current (h : backend.Tracks) : backend.recheck.Tracks ∧ backend.recheck.Current := by
  unfold recheck
  split
  · rename_i hstopped
    exact ⟨h, current_of_stopped hstopped⟩
  split
  · exact ⟨h, fun _ hrecheck => absurd hrecheck.symm Bool.false_ne_true⟩
  · rename_i hidle
    obtain ⟨htracks, -, hcurrent⟩ := startAuthorizationCheck_tracks h
    exact ⟨htracks, hcurrent (Bool.eq_false_iff.mpr hidle)⟩

theorem keepsGrants_invalidateAuthorization (h : backend.Tracks) :
    KeepsGrants backend.invalidateAuthorization True := by
  have hcounted : { backend with invalidations := backend.invalidations + 1 }.Tracks := h
  unfold invalidateAuthorization
  dsimp only
  split
  · rename_i hstopped
    exact ⟨hcounted, fun _ => current_of_stopped hstopped⟩
  · refine Contract.Maintains.bind (keepsGrants_notifyAuthorization hcounted
      fun h => absurd h Bool.false_ne_true) fun notified hnotified => ?_
    obtain ⟨htracks, hcurrent⟩ := recheck_current hnotified.1
    exact ⟨htracks, fun _ => hcurrent⟩

/-- A grant of a check that is not repeated is current. -/
theorem keepsGrants_finishAuthorizationCheck {check : AuthorizationCheck}
    (hidle : backend.checks = []) (hcurrent : backend.isRunning = true →
      backend.authorizationRecheck = false → check.startedAt = backend.invalidations)
    (reply : CheckReply) : KeepsGrants (backend.finishAuthorizationCheck check reply) True := by
  have hnone {recheck : Bool} : { backend with
      authorizationCheckPending := false, authorizationRecheck := recheck }.Tracks ∧ { backend with
      authorizationCheckPending := false, authorizationRecheck := recheck }.Current := by
    refine ⟨⟨List.length_eq_zero_iff.mpr hidle, fun h => absurd hidle h⟩, fun _ _ check hmem => ?_⟩
    have hmem : check ∈ backend.checks := hmem
    rw [hidle] at hmem
    cases hmem
  unfold finishAuthorizationCheck
  dsimp only
  split
  · exact ⟨hnone.1, fun _ => hnone.2⟩
  rename_i hrunning
  have hrunning : backend.isRunning = true := Bool.of_not_eq_false hrunning
  split
  · refine Contract.Maintains.bind (keepsGrants_notifyAuthorization hnone.1
      fun h => absurd h Bool.false_ne_true) fun notified hnotified => ?_
    obtain ⟨htracks, hstarted⟩ := startAuthorizationCheck_keeps hnotified.1 (hnotified.2 hnone.2)
    exact ⟨htracks, fun _ => hstarted⟩
  · rename_i hsettled
    have hsettled : backend.authorizationRecheck = false := Bool.eq_false_iff.mpr hsettled
    refine Contract.Maintains.mono (keepsGrants_notifyAuthorization hnone.1 fun hgrants => ?_)
      fun notified hnotified => ⟨hnotified.1, fun _ => hnotified.2 hnone.2⟩
    exact ⟨check, reply, rfl, hgrants, hcurrent hrunning hsettled⟩

theorem scheduleAuthorizationRetry_keeps (h : backend.Tracks) :
    backend.scheduleAuthorizationRetry.Tracks ∧
      (backend.Current → backend.scheduleAuthorizationRetry.Current) := by
  unfold scheduleAuthorizationRetry
  split
  · exact ⟨h, id⟩
  · exact ⟨h, id⟩

theorem keepsGrants_authorizationCheck {check : AuthorizationCheck}
    (hidle : backend.checks = []) (hcurrent : backend.isRunning = true →
      backend.authorizationRecheck = false → check.startedAt = backend.invalidations)
    (reply : CheckReply) : KeepsGrants (backend.authorizationCheck check reply) True := by
  unfold authorizationCheck
  split
  · refine Contract.Maintains.bind (keepsGrants_finishAuthorizationCheck hidle hcurrent reply) ?_
    intro finished hfinished
    cases reply with
    | result isAuthorized temporary => exact hfinished
    | error =>
      obtain ⟨htracks, hkeeps⟩ := scheduleAuthorizationRetry_keeps hfinished.1
      exact ⟨htracks, fun _ => hkeeps (hfinished.2 trivial)⟩
  · rename_i hstopped
    refine ⟨⟨List.length_eq_zero_iff.mpr hidle, fun h => absurd hidle h⟩,
      fun _ => current_of_stopped ?_⟩
    exact Bool.eq_false_iff.mpr hstopped

theorem requestAuthority_keeps (h : backend.Tracks) :
    backend.requestAuthority.Tracks ∧ (backend.Current → backend.requestAuthority.Current) := by
  unfold requestAuthority
  split
  · exact ⟨h, id⟩
  · exact ⟨h, id⟩

theorem authorizationRetry_keeps (h : backend.Tracks) (hcurrent : backend.Current) :
    backend.authorizationRetry.Tracks ∧ backend.authorizationRetry.Current := by
  have hcleared : { backend with authorizationRetrySource := 0 }.Tracks := h
  have hcurrent : { backend with authorizationRetrySource := 0 }.Current := hcurrent
  unfold authorizationRetry
  dsimp only
  split
  · exact ⟨hcleared, hcurrent⟩
  split
  · obtain ⟨htracks, hkeeps⟩ := requestAuthority_keeps hcleared
    exact ⟨htracks, hkeeps hcurrent⟩
  · exact startAuthorizationCheck_keeps hcleared hcurrent

theorem authorityReady_keeps (h : backend.Tracks) (hcurrent : backend.Current)
    (reply : AuthorityReply) :
    (backend.authorityReady reply).Tracks ∧ (backend.authorityReady reply).Current := by
  have hset {authority : Bool} : { backend with
      authorityGetPending := false, authority := authority }.Tracks ∧ { backend with
      authorityGetPending := false, authority := authority }.Current := ⟨h, hcurrent⟩
  unfold authorityReady
  dsimp only
  split
  · cases reply with
    | authority => exact startAuthorizationCheck_keeps hset.1 hset.2
    | cancelled => exact hset
    | failed =>
      obtain ⟨htracks, hkeeps⟩ := scheduleAuthorizationRetry_keeps
        (@hset false).1
      exact ⟨htracks, hkeeps hset.2⟩
  · exact ⟨h, hcurrent⟩

/-- No check is under way before the start. -/
theorem start_keeps (h : backend.Tracks) :
    backend.start.Tracks ∧ (backend.Current → backend.start.Current) := by
  unfold start
  split
  · exact ⟨h, id⟩
  · rename_i hfirst
    have hidle : backend.checks = [] := by
      by_contra hchecks
      exact hfirst (h.2 hchecks)
    have hstarted : { backend with started := true }.Tracks := ⟨h.1, fun _ => .inl rfl⟩
    obtain ⟨htracks, hkeeps⟩ := requestAuthority_keeps hstarted
    refine ⟨htracks, fun _ => hkeeps fun _ _ check hmem => ?_⟩
    have hmem : check ∈ backend.checks := hmem
    rw [hidle] at hmem
    cases hmem

theorem stopInternal_keeps (h : backend.Tracks) :
    backend.stopInternal.Tracks ∧ (backend.Current → backend.stopInternal.Current) := by
  unfold stopInternal
  split
  · exact ⟨h, id⟩
  dsimp only
  split
  · exact ⟨⟨h.1, fun _ => .inr rfl⟩, fun _ => current_of_stopped rfl⟩
  · exact ⟨⟨h.1, fun _ => .inr rfl⟩, fun _ => current_of_stopped rfl⟩

/-! ## Every run -/

/-- Every function of the owner keeps the contract. -/
theorem keepsGrants_call (h : backend.Tracks) {e : BackendEntry} (hcall : e.IsCall) :
    KeepsGrants (e.run backend) backend.Current := by
  cases e with
  | start => exact start_keeps h
  | stop => exact stopInternal_keeps h
  | invalidateAuthorization =>
    exact Contract.Maintains.mono (keepsGrants_invalidateAuthorization h) fun _ hs =>
      ⟨hs.1, fun _ => hs.2 trivial⟩
  | authorityReady | authorityChanged | authorityOwnerChanged | authorizationCheck
  | authorizationRetry => exact hcall.elim

/-- Every entry between callbacks keeps the contract. -/
theorem keepsGrants_run (h : backend.Tracks) (hcurrent : backend.Current) {e : BackendEntry}
    (henabled : e.Enabled backend) : KeepsGrants (e.run backend) True := by
  cases e with
  | authorityReady reply =>
    have hgot : { backend with gets := backend.gets - 1 }.Tracks := h
    obtain ⟨htracks, hready⟩ := authorityReady_keeps hgot hcurrent reply
    exact ⟨htracks, fun _ => hready⟩
  | authorityChanged => exact keepsGrants_invalidateAuthorization h
  | authorityOwnerChanged => exact keepsGrants_invalidateAuthorization h
  | authorizationCheck check reply =>
    have hsingle : backend.checks.length ≤ 1 := h.1 ▸ Bool.toNat_le _
    have hlt : check < backend.checks.length := henabled
    obtain ⟨completed, hchecks⟩ := List.length_eq_one_iff.mp (by omega : backend.checks.length = 1)
    have hfirst : check = 0 := by omega
    have hcurrent : backend.isRunning = true → backend.authorizationRecheck = false →
        completed.startedAt = backend.invalidations := fun hrunning hsettled =>
      hcurrent hrunning hsettled completed (hchecks ▸ List.mem_singleton.mpr rfl)
    have hrest : backend.checks.eraseIdx check = [] := by rw [hchecks, hfirst]; rfl
    have hcompleted : backend.checks[check]? = some completed := by rw [hchecks, hfirst]; rfl
    simp only [BackendEntry.run, hcompleted]
    exact @keepsGrants_authorizationCheck
      { backend with checks := backend.checks.eraseIdx check } completed hrest hcurrent reply
  | authorizationRetry id =>
    have hfired : { backend with sources := backend.sources.filter (· ≠ id) }.Tracks := h
    obtain ⟨htracks, hretried⟩ := authorizationRetry_keeps hfired hcurrent
    exact ⟨htracks, fun _ => hretried⟩
  | start | stop | invalidateAuthorization =>
    exact Contract.Maintains.mono (keepsGrants_call h trivial) fun _ hs =>
      ⟨hs.1, fun _ => hs.2 hcurrent⟩

/-- The component keeps the contract of its grants. -/
theorem grant_keptBy : grantContract.KeptBy backendComponent where
  refl _ := id
  trans _ _ _ h h' := fun hcurrent => h' (h hcurrent)
  init := by
    rintro _ ⟨authorizationChanged, rfl⟩
    exact ⟨⟨rfl, fun h => absurd rfl h⟩, current_of_stopped rfl⟩
  nested _ _ hcall _ h := keepsGrants_call h hcall
  settled _ _ henabled h hcurrent := Contract.Maintains.mono (keepsGrants_run h hcurrent henabled)
    fun _ hs => ⟨hs.1, hs.2 trivial⟩

end Backend

/-- In every run, whoever invalidates at whatever point: where the owner is told that it is
authorized, this is the result of a check that was started after the last invalidation. -/
theorem authorizationGrant_current {backend : Backend} {k : Backend → BackendM Backend}
    {stack : List (Backend → BackendM Backend)}
    {ground : Option (AuthorizationCheck × CheckReply)}
    (hreachable : backendComponent.Reachable
      ⟨.running (.call (.note (.authorizationChanged true ground) backend) k), stack⟩) :
    ∃ check reply, ground = some (check, reply) ∧ reply.grants = true ∧
      check.startedAt = backend.invalidations :=
  Backend.grant_keptBy.callout hreachable rfl

/-! ## A run -/

/-- An entry whose callouts return at once. -/
def calmBackend (backend : Backend) (e : BackendEntry) : Backend :=
  Component.quietly (S := backendSig) (fun o => o.elim) (e.run backend)

/-- A backend with a check under way, after one invalidation. -/
def sampleChecking : Backend :=
  calmBackend (calmBackend (calmBackend (.new true) .invalidateAuthorization) .start)
    (.authorityReady .authority)

theorem reachable_calmBackend {backend : Backend}
    (hs : backendComponent.Reachable (.idle backend)) (e : BackendEntry)
    (henabled : e.Enabled backend) : backendComponent.Reachable (.idle (calmBackend backend e)) :=
  Component.Reachable.quietly (fun o : Empty => o.elim) hs henabled

theorem sampleChecking_reachable : backendComponent.Reachable (.idle sampleChecking) := by
  have hnew : backendComponent.Reachable (.idle (.new true)) := .start ⟨true, rfl⟩
  have hinvalidated := reachable_calmBackend hnew .invalidateAuthorization trivial
  have hstarted := reachable_calmBackend hinvalidated .start trivial
  exact reachable_calmBackend hstarted (.authorityReady .authority)
    (show 0 < _ by decide)

/-- The grant of the first check is reported. -/
theorem authorizationGrant_current_sample : ∃ check reply,
    some ((⟨1⟩ : AuthorizationCheck), CheckReply.result true false) = some (check, reply) ∧
      reply.grants = true ∧ check.startedAt = 1 := by
  obtain ⟨s, hinit, hsteps⟩ := sampleChecking_reachable
  have henter : backendComponent.Reachable
      ⟨.running (.call (.note (.authorizationChanged true (some (⟨1⟩, .result true false)))
        { sampleChecking with checks := [], authorizationCheckPending := false })
        Prog.pure), []⟩ :=
    ⟨s, hinit, hsteps.tail (@Component.Step.enter _ _ _ backendComponent
      (.authorizationCheck 0 (.result true false)) sampleChecking []
      (show 0 < _ by decide)
      fun h => absurd rfl h)⟩
  exact authorizationGrant_current henter

end NmSidebar
