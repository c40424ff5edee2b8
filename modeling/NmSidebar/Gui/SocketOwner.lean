import NmSidebar.Gui.CommandServer
import NmSidebar.Program.Environment

/-!
# The command socket has one owner

The startup lock guards every change of the socket's path. A process removes what is at the path
only where the file is nobody's socket: it was refused a connection, or it is the file that the
process itself has bound.
-/

namespace NmSidebar

open Text Effects

variable {ι : Type}

/-! ## The invariant -/

/-- What holds of the socket's path at every time. -/
structure SocketInvariant (w : SocketWorld ι) : Prop where
  /-- A socket that has a file has it at the path. -/
  placed : ∀ i id, (w.sock i).file = some id → w.path = some ⟨true, id⟩
  /-- A socket does not listen yet only as long as its process has the lock. -/
  binding : ∀ i id, w.sock i = .bound id → w.lock = some i
  /-- One socket at most has a file. -/
  unique : ∀ i j, (w.sock i).file ≠ none → (w.sock j).file ≠ none → i = j
  /-- A remembered file is no other process's. -/
  remembered : ∀ i j id, w.remembered i = some id → (w.sock j).file = some id → j = i

/-- What a process relies on the others for. -/
structure SocketRely (i : ι) (w w' : SocketWorld ι) : Prop where
  sock : w'.sock i = w.sock i
  remembered : w'.remembered i = w.remembered i
  lock : w'.lock = some i ↔ w.lock = some i
  path : w.lock = some i → w'.path = w.path
  quiet : w.lock = some i → ∀ j id, w'.sock j = .listening id → w.sock j = .listening id

theorem SocketRely.refl (i : ι) (w : SocketWorld ι) : SocketRely i w w :=
  ⟨rfl, rfl, Iff.rfl, fun _ => rfl, fun _ _ _ h => h⟩

theorem SocketRely.trans {i : ι} {w₁ w₂ w₃ : SocketWorld ι} (h : SocketRely i w₁ w₂)
    (h' : SocketRely i w₂ w₃) : SocketRely i w₁ w₃ where
  sock := h'.sock.trans h.sock
  remembered := h'.remembered.trans h.remembered
  lock := h'.lock.trans h.lock
  path := fun hlock => (h'.path (h.lock.mpr hlock)).trans (h.path hlock)
  quiet := fun hlock j id hlistens =>
    h.quiet hlock j id (h'.quiet (h.lock.mpr hlock) j id hlistens)

/-- Where a process may make a call. -/
def SocketCall.Issue (i : ι) : SocketCall → SocketWorld ι → Prop
  | .unlinkPath, w => w.lock = some i ∧ ∀ j, (w.sock j).file = none
  | .bind, w | .listen, w => w.lock = some i
  | .setBoundSocketId id, w => (w.sock i).file = some id
  | .unlock, w | .closeLock, w => ∀ id, w.sock i ≠ .bound id
  | .serve, w => w.Serves i
  | _, _ => True

/-! ## Changes of the world -/

section Changes

variable [DecidableEq ι] {w : SocketWorld ι} {i j : ι} {s : SocketState}

@[simp] theorem sock_setSock_self : (w.setSock i s).sock i = s := Function.update_self ..

theorem sock_setSock_ne (h : j ≠ i) : (w.setSock i s).sock j = w.sock j :=
  Function.update_of_ne h ..

@[simp] theorem sock_remember {id : Option FileId} : (w.remember i id).sock = w.sock := rfl

@[simp] theorem sock_release : (w.release i).sock = w.sock := rfl

theorem remembered_remember_ne {id : Option FileId} (h : j ≠ i) :
    (w.remember i id).remembered j = w.remembered j := Function.update_of_ne h ..

/-- A process that gives up its lock gives up no other's. -/
theorem lock_release_ne (h : j ≠ i) : (w.release i).lock = some j ↔ w.lock = some j := by
  show (if w.lock = some i then none else w.lock) = some j ↔ _
  split
  · rename_i hlock
    rw [hlock]
    exact ⟨fun h => (nomatch h), fun hij => absurd (Option.some.inj hij).symm h⟩
  · exact Iff.rfl

theorem lock_release_self : (w.release i).lock ≠ some i := by
  show (if w.lock = some i then none else w.lock) ≠ some i
  split
  · exact nofun
  · assumption

/-- A socket that gives up its file, or never had one, breaks nothing. -/
theorem SocketInvariant.setSock (h : SocketInvariant w) (hs : s.file = none) :
    SocketInvariant (w.setSock i s) where
  placed := fun j id hfile => by
    rcases eq_or_ne j i with rfl | hne
    · rw [sock_setSock_self, hs] at hfile
      cases hfile
    · rw [sock_setSock_ne hne] at hfile
      exact h.placed j id hfile
  binding := fun j id hbound => by
    rcases eq_or_ne j i with rfl | hne
    · rw [sock_setSock_self] at hbound
      rw [hbound] at hs
      cases hs
    · rw [sock_setSock_ne hne] at hbound
      exact h.binding j id hbound
  unique := fun j k hj hk => by
    rcases eq_or_ne j i with rfl | hji
    · rw [sock_setSock_self] at hj
      exact absurd hs hj
    rcases eq_or_ne k i with rfl | hki
    · rw [sock_setSock_self] at hk
      exact absurd hs hk
    rw [sock_setSock_ne hji] at hj
    rw [sock_setSock_ne hki] at hk
    exact h.unique j k hj hk
  remembered := fun j k id hremembered hfile => by
    rcases eq_or_ne k i with rfl | hki
    · rw [sock_setSock_self, hs] at hfile
      cases hfile
    · rw [sock_setSock_ne hki] at hfile
      exact h.remembered j k id hremembered hfile

/-- What the others rely on where a socket does not come to listen. -/
theorem rely_setSock (hne : j ≠ i) (hs : ∀ id, s ≠ .listening id) :
    SocketRely j w (w.setSock i s) where
  sock := sock_setSock_ne hne
  remembered := rfl
  lock := Iff.rfl
  path := fun _ => rfl
  quiet := fun _ k id hlistens => by
    rcases eq_or_ne k i with rfl | hki
    · rw [sock_setSock_self] at hlistens
      exact absurd hlistens (hs id)
    · rwa [sock_setSock_ne hki] at hlistens

/-- A process may forget, and may remember the file of its own socket. -/
theorem SocketInvariant.remember (h : SocketInvariant w) {id : Option FileId}
    (hid : ∀ id', id = some id' → (w.sock i).file = some id') :
    SocketInvariant (w.remember i id) where
  placed := h.placed
  binding := h.binding
  unique := h.unique
  remembered := fun j k id' hremembered hfile => by
    rcases eq_or_ne j i with rfl | hne
    · rw [show (w.remember j id).remembered j = id from Function.update_self ..] at hremembered
      have hown := hid id' hremembered
      rw [sock_remember] at hfile
      exact h.unique k j (by simp [hfile]) (by simp [hown])
    · rw [remembered_remember_ne hne] at hremembered
      exact h.remembered j k id' hremembered hfile

theorem rely_remember (hne : j ≠ i) {id : Option FileId} : SocketRely j w (w.remember i id) :=
  ⟨rfl, remembered_remember_ne hne, Iff.rfl, fun _ => rfl, fun _ _ _ h => h⟩

/-- The lock may be given up by a process whose socket is not half made. -/
theorem SocketInvariant.release (h : SocketInvariant w) (hbound : ∀ id, w.sock i ≠ .bound id) :
    SocketInvariant (w.release i) where
  placed := h.placed
  binding := fun j id hj => by
    have hne : j ≠ i := by
      rintro rfl
      exact hbound id hj
    exact (lock_release_ne hne).mpr (h.binding j id hj)
  unique := h.unique
  remembered := h.remembered

theorem rely_release (hne : j ≠ i) : SocketRely j w (w.release i) :=
  ⟨rfl, rfl, lock_release_ne hne, fun _ => rfl, fun _ _ _ h => h⟩

end Changes

/-! ## Every call keeps the invariant -/

section Calls

variable {w w' : SocketWorld ι} {i : ι}

/-- Nothing has changed. -/
theorem kept_refl (h : SocketInvariant w) : SocketInvariant w ∧ ∀ j, j ≠ i → SocketRely j w w :=
  ⟨h, fun j _ => .refl j w⟩

theorem kept_flock (h : SocketInvariant w) (hfree : w.lock = none) :
    SocketInvariant { w with lock := some i } ∧
      ∀ j, j ≠ i → SocketRely j w { w with lock := some i } := by
  refine ⟨⟨h.placed, fun j id hbound => ?_, h.unique, h.remembered⟩, fun j hne => ?_⟩
  · rw [h.binding j id hbound] at hfree
    cases hfree
  · have hnot : w.lock ≠ some j := by
      rw [hfree]
      exact nofun
    refine ⟨rfl, rfl, ⟨fun hlock => ?_, fun hlock => absurd hlock hnot⟩,
      fun _ => rfl, fun _ _ _ h => h⟩
    exact absurd (Option.some.inj hlock).symm hne

theorem kept_unlinkPath (h : SocketInvariant w) (hlock : w.lock = some i)
    (hnobody : ∀ j, (w.sock j).file = none) :
    SocketInvariant { w with path := none } ∧
      ∀ j, j ≠ i → SocketRely j w { w with path := none } := by
  refine ⟨⟨fun j id hfile => ?_, h.binding, h.unique, h.remembered⟩, fun j hne => ?_⟩
  · rw [hnobody j] at hfile
    cases hfile
  · refine ⟨rfl, rfl, Iff.rfl, fun hj => ?_, fun _ _ _ h => h⟩
    exact absurd (Option.some.inj (hlock.symm.trans hj)).symm hne

variable [DecidableEq ι]

theorem kept_bind (h : SocketInvariant w) (hlock : w.lock = some i) (hpath : w.path = none)
    {id : FileId} (hfresh : ∀ j, w.remembered j ≠ some id) :
    SocketInvariant { w.setSock i (.bound id) with path := some ⟨true, id⟩ } ∧
      ∀ j, j ≠ i → SocketRely j w { w.setSock i (.bound id) with path := some ⟨true, id⟩ } := by
  -- the path was free, so no socket had a file
  have hnobody : ∀ j, (w.sock j).file = none := by
    intro j
    cases hfile : (w.sock j).file with
    | none => rfl
    | some id' =>
      rw [h.placed j id' hfile] at hpath
      cases hpath
  have hown : ∀ j id', ((w.setSock i (.bound id)).sock j).file = some id' → j = i ∧ id' = id := by
    intro j id' hfile
    rcases eq_or_ne j i with rfl | hne
    · rw [sock_setSock_self] at hfile
      exact ⟨rfl, (Option.some.inj hfile).symm⟩
    · rw [sock_setSock_ne hne, hnobody j] at hfile
      cases hfile
  have howns : ∀ j, ((w.setSock i (.bound id)).sock j).file ≠ none → j = i := by
    intro j hfile
    obtain ⟨id', hid'⟩ := Option.ne_none_iff_exists'.mp hfile
    exact (hown j id' hid').1
  refine ⟨⟨fun j id' hfile => ?_, fun j id' hbound => ?_, fun j k hj hk => ?_,
    fun j k id' hremembered hfile => ?_⟩, fun j hne => ?_⟩
  · rw [(hown j id' hfile).2]
  · obtain ⟨rfl, -⟩ := hown j id' (by rw [show (w.setSock i (.bound id)).sock j = _ from hbound]; rfl)
    exact hlock
  · rw [howns j hj, howns k hk]
  · rw [(hown k id' hfile).2] at hremembered
    exact absurd hremembered (hfresh j)
  · refine ⟨sock_setSock_ne hne, rfl, Iff.rfl, fun hj => ?_, fun hj => ?_⟩
    · exact absurd (Option.some.inj (hlock.symm.trans hj)).symm hne
    · exact absurd (Option.some.inj (hlock.symm.trans hj)).symm hne

theorem kept_listen (h : SocketInvariant w) (hlock : w.lock = some i) {id : FileId}
    (hbound : w.sock i = .bound id) :
    SocketInvariant (w.setSock i (.listening id)) ∧
      ∀ j, j ≠ i → SocketRely j w (w.setSock i (.listening id)) := by
  -- the files of the sockets stay what they were
  have hfiles : ∀ j, ((w.setSock i (.listening id)).sock j).file = (w.sock j).file := by
    intro j
    rcases eq_or_ne j i with rfl | hne
    · rw [sock_setSock_self, hbound]
      rfl
    · rw [sock_setSock_ne hne]
  refine ⟨⟨fun j id' hfile => ?_, fun j id' hj => ?_, fun j k hj hk => ?_,
    fun j k id' hremembered hfile => ?_⟩, fun j hne => ?_⟩
  · rw [hfiles] at hfile
    exact h.placed j id' hfile
  · rcases eq_or_ne j i with rfl | hne
    · exact hlock
    · rw [sock_setSock_ne hne] at hj
      exact h.binding j id' hj
  · rw [hfiles] at hj hk
    exact h.unique j k hj hk
  · rw [hfiles] at hfile
    exact h.remembered j k id' hremembered hfile
  · refine ⟨sock_setSock_ne hne, rfl, Iff.rfl, fun _ => rfl, fun hj => ?_⟩
    exact absurd (Option.some.inj (hlock.symm.trans hj)).symm hne

/-- A call made where it may be keeps the invariant, and what the others rely on. -/
theorem kept_of_issue {o : SocketCall} {r : o.Reply} (ho : o.Issue i w) (h : SocketInvariant w)
    (hb : o.Outcome i w r w') :
    SocketInvariant w' ∧ ∀ j, j ≠ i → SocketRely j w w' := by
  cases o with
  | socket =>
    rcases hb with ⟨-, rfl⟩ | ⟨-, rfl⟩
    · exact ⟨h.setSock rfl, fun j hne => rely_setSock hne fun _ => SocketState.noConfusion⟩
    · exact kept_refl h
  | flock =>
    rcases hb with ⟨-, hfree, rfl⟩ | ⟨-, rfl⟩
    · exact kept_flock h hfree
    · exact kept_refl h
  | unlock | closeLock =>
    rw [show w' = w.release i from hb]
    exact ⟨h.release ho, fun j hne => rely_release hne⟩
  | unlinkPath =>
    rcases hb with ⟨-, rfl⟩ | ⟨-, rfl⟩
    · exact kept_unlinkPath h ho.1 ho.2
    · exact kept_refl h
  | bind =>
    rcases hb with ⟨-, hpath, id, hfresh, rfl⟩ | ⟨-, rfl⟩
    · exact kept_bind h ho hpath hfresh
    · exact kept_refl h
  | setBoundSocketId id =>
    rw [show w' = w.remember i (some id) from hb]
    refine ⟨h.remember fun id' hid => ?_, fun j hne => rely_remember hne⟩
    rw [← Option.some.inj hid]
    exact ho
  | listen =>
    rcases hb with ⟨-, id, hbound, rfl⟩ | ⟨-, rfl⟩
    · exact kept_listen h ho hbound
    · exact kept_refl h
  | shutdown | closeSocket =>
    rw [show w' = w.setSock i _ from hb]
    exact ⟨h.setSock rfl, fun j hne => rely_setSock hne fun _ => SocketState.noConfusion⟩
  | free =>
    rw [show w' = w.remember i none from hb]
    exact ⟨h.remember fun _ hid => (nomatch hid), fun j hne => rely_remember hne⟩
  | lstatPath | connect =>
    rw [hb.1]
    exact kept_refl h
  | _ =>
    rw [show w' = w from hb]
    exact kept_refl h

/-- The death of a process keeps them too. -/
theorem kept_of_crash (h : SocketInvariant w) (hc : SocketWorld.Crash i w w') :
    SocketInvariant w' ∧ ∀ j, j ≠ i → SocketRely j w w' := by
  rw [show w' = ((w.setSock i .closed).remember i none).release i from hc]
  constructor
  · have hclosed : SocketInvariant ((w.setSock i .closed).remember i none) :=
      (h.setSock rfl).remember fun _ hid => nomatch hid
    apply hclosed.release
    intro id hbound
    rw [sock_remember, sock_setSock_self] at hbound
    cases hbound
  · intro j hne
    exact ((rely_setSock hne fun _ => SocketState.noConfusion).trans (rely_remember hne)).trans
      (rely_release hne)

end Calls

/-- The discipline of the processes that start and close command servers. -/
def socketDiscipline (ι : Type) [DecidableEq ι] : Discipline socketSig ι (SocketWorld ι) where
  behaves := SocketCall.Outcome
  crash := SocketWorld.Crash
  invariant := SocketInvariant
  rely := SocketRely
  issue := SocketCall.Issue
  rely_refl := SocketRely.refl
  rely_trans := SocketRely.trans
  keeps := kept_of_issue
  survives := kept_of_crash

/-! ## What a process knows -/

/-- A process's own socket, the file it remembers, and whether it has the lock. -/
structure Own (i : ι) (s : SocketState) (b : Option FileId) (l : Bool) (w : SocketWorld ι) :
    Prop where
  sock : w.sock i = s
  remembered : w.remembered i = b
  lock : w.lock = some i ↔ l = true

/-- Nobody listens. -/
def Unserved (w : SocketWorld ι) : Prop := ∀ j id, w.sock j ≠ .listening id

/-- The calls that change nothing and may be made anywhere. -/
def SocketCall.isLook : SocketCall → Bool
  | socket | flock | unlock | closeLock | unlinkPath | bind | setBoundSocketId _ | listen | serve
  | shutdown | closeSocket | free => false
  | _ => true

theorem issue_of_isLook {w : SocketWorld ι} {i : ι} {o : SocketCall} (h : o.isLook = true) :
    o.Issue i w := by
  cases o with
  | socket | flock | unlock | closeLock | unlinkPath | bind | setBoundSocketId | listen | serve
  | shutdown | closeSocket | free => cases h
  | _ => trivial

/-- With the lock held, nobody listening and no file of its own, a process finds that the path is
nobody's. -/
theorem file_of_unserved {w : SocketWorld ι} {i : ι} {s : SocketState} {b : Option FileId}
    (hinv : SocketInvariant w) (hw : Own i s b true w) (hs : s.file = none) (hunserved : Unserved w)
    (j : ι) : (w.sock j).file = none := by
  cases hj : w.sock j with
  | closed | opened => rfl
  | listening id => exact absurd hj (hunserved j id)
  | bound id =>
    -- whoever has bound its socket and does not listen has the lock
    obtain rfl := Option.some.inj ((hinv.binding j id hj).symm.trans (hw.lock.mpr rfl))
    rw [← hj, hw.sock]
    exact hs

variable [DecidableEq ι] {w : SocketWorld ι} {i : ι} {s : SocketState} {b : Option FileId}
  {l : Bool} {server : CommandServer}

theorem stable_own : (socketDiscipline ι).Stable i (Own i s b l) := fun _ _ h hrely =>
  ⟨hrely.sock.trans h.sock, hrely.remembered.trans h.remembered, hrely.lock.trans h.lock⟩

/-- What is at the path stays there while the process has the lock. -/
theorem stable_path {node : Option FileNode} :
    (socketDiscipline ι).Stable i fun w => Own i s b true w ∧ w.path = node := by
  rintro w w' ⟨hown, hpath⟩ hrely
  exact ⟨stable_own w w' hown hrely, (hrely.path (hown.lock.mpr rfl)).trans hpath⟩

/-- Nobody begins to listen meanwhile either. -/
theorem stable_unserved :
    (socketDiscipline ι).Stable i fun w => Own i s b true w ∧ Unserved w := by
  rintro w w' ⟨hown, hunserved⟩ hrely
  exact ⟨stable_own w w' hown hrely, fun j id hlistens =>
    hunserved j id (hrely.quiet (hown.lock.mpr rfl) j id hlistens)⟩

/-- The rule of one call. -/
theorem holds_perform (o : SocketCall) {P : SocketWorld ι → Prop}
    {R : o.Reply → SocketWorld ι → Prop} (hP : (socketDiscipline ι).Stable i P) (hw : P w)
    (hissue : ∀ w, P w → SocketInvariant w → o.Issue i w)
    (houtcome : ∀ w r w', P w → SocketInvariant w → o.Outcome i w r w' → R r w')
    (hR : ∀ r, (socketDiscipline ι).Stable i (R r)) :
    (socketDiscipline ι).Holds i (perform o) R w :=
  .call hP hw fun w hw hinv => ⟨hissue w hw hinv, fun r w' hb =>
    .pure (hR r) (houtcome w r w' hw hinv hb) fun _ h => h⟩

theorem same_of_isLook {o : SocketCall} {r : o.Reply} {w' : SocketWorld ι} (h : o.isLook = true)
    (hb : o.Outcome i w r w') : w' = w := by
  cases o with
  | socket | flock | unlock | closeLock | unlinkPath | bind | setBoundSocketId | listen | serve
  | shutdown | closeSocket | free => cases h
  | lstatPath | connect => exact hb.1
  | _ => exact hb

/-- The rule of a call that changes nothing. -/
theorem holds_look (o : SocketCall) (ho : o.isLook = true) {P : SocketWorld ι → Prop}
    (hP : (socketDiscipline ι).Stable i P) (hw : P w) :
    (socketDiscipline ι).Holds i (perform o) (fun _ => P) w :=
  holds_perform o hP hw (fun _ _ _ => issue_of_isLook ho)
    (fun w r w' hw _ hb => by rw [same_of_isLook ho hb]; exact hw) fun _ => hP

/-- The rule of a return. -/
theorem holds_return {α : Type} {P : SocketWorld ι → Prop} {a : α} {Q : α → SocketWorld ι → Prop}
    (hP : (socketDiscipline ι).Stable i P) (hw : P w) (hQ : ∀ w, P w → Q a w) :
    (socketDiscipline ι).Holds i (Prog.pure a : SocketM α) Q w :=
  .pure hP hw hQ

/-! ## The startup lock -/

/-- `flock` gives the lock where it says so. -/
theorem holds_flock (hw : Own i s b false w) :
    (socketDiscipline ι).Holds i (perform .flock)
      (fun r => Own i s b (decide (r = .locked))) w := by
  refine holds_perform .flock stable_own hw (fun _ _ _ => trivial) (fun w r w' hw _ hb => ?_)
    fun _ => stable_own
  rcases hb with ⟨rfl, -, rfl⟩ | ⟨hr, rfl⟩
  · exact ⟨hw.sock, hw.remembered, by simp⟩
  · rw [decide_eq_false hr]
    exact hw

/-- `wait_for_startup_lock` succeeds with the lock and fails without it. -/
theorem holds_waitForLockLoop {deadline : ℤ} {attempts : ℕ} (hw : Own i s b false w) :
    (socketDiscipline ι).Holds i (waitForLockLoop deadline attempts)
      (fun r => Own i s b r.isOk) w := by
  induction attempts generalizing w with
  | zero =>
    rw [waitForLockLoop]
    refine (holds_flock hw).bind fun outcome w₁ hw₁ => ?_
    cases outcome with
    | locked | failed => exact holds_return stable_own hw₁ fun _ h => h
    | held =>
      refine (holds_look .monotonicTime rfl stable_own hw₁).bind fun now w₂ hw₂ => ?_
      split <;> exact holds_return stable_own hw₂ fun _ h => h
  | succ attempts ih =>
    rw [waitForLockLoop]
    refine (holds_flock hw).bind fun outcome w₁ hw₁ => ?_
    cases outcome with
    | locked | failed => exact holds_return stable_own hw₁ fun _ h => h
    | held =>
      refine (holds_look .monotonicTime rfl stable_own hw₁).bind fun now w₂ hw₂ => ?_
      split
      · exact holds_return stable_own hw₂ fun _ h => h
      · exact (holds_look .sleep rfl stable_own hw₂).bind fun _ w₃ hw₃ => ih hw₃

/-- What `acquire_startup_lock` leaves: the lock where it succeeds, and the rest as it was. -/
structure Acquired (i : ι) (s : SocketState) (server : CommandServer)
    (r : Except ServerError Unit × CommandServer) (w : SocketWorld ι) : Prop where
  own : Own i s server.boundId r.1.isOk w
  fd : r.2.fd = server.fd
  boundId : r.2.boundId = server.boundId
  startupLockFd : r.1.isOk = true → r.2.startupLockFd = true

theorem holds_acquireStartupLock {attempts : ℕ} (hw : Own i s server.boundId false w) :
    (socketDiscipline ι).Holds i (acquireStartupLock attempts server) (Acquired i s server) w := by
  refine (holds_look .openStartupLock rfl stable_own hw).bind fun opened w₁ hw₁ => ?_
  cases opened with
  | false => exact holds_return stable_own hw₁ fun _ h => ⟨h, rfl, rfl, fun h => nomatch h⟩
  | true =>
    refine (holds_look .fstatStartupLock rfl stable_own hw₁).bind fun stat w₂ hw₂ => ?_
    have hfailed : ∀ error, (socketDiscipline ι).Holds i
        (Prog.pure (.error error, { server with startupLockFd := true }) :
          SocketM (Except ServerError Unit × CommandServer)) (Acquired i s server) w₂ :=
      fun error => holds_return stable_own hw₂ fun _ h => ⟨h, rfl, rfl, fun h => nomatch h⟩
    cases stat with
    | none => exact hfailed .errno
    | some stat =>
      dsimp only
      split
      · exact hfailed .failed
      split
      · exact hfailed .failed
      have hwaits : (socketDiscipline ι).Holds i (waitForStartupLock attempts)
          (fun r => Own i s server.boundId r.isOk) w₂ :=
        (holds_look .monotonicTime rfl stable_own hw₂).bind fun _ _ => holds_waitForLockLoop
      refine hwaits.bind fun locked w₃ hw₃ => ?_
      exact holds_return stable_own hw₃ fun _ h => ⟨h, rfl, rfl, fun _ => rfl⟩

/-- `release_startup_lock` gives the lock up. -/
theorem holds_releaseStartupLock (hw : Own i s b l w) (hs : ∀ id, s ≠ .bound id)
    (hfd : l = true → server.startupLockFd = true) :
    (socketDiscipline ι).Holds i (releaseStartupLock server)
      (fun r w => Own i s b false w ∧ r = { server with startupLockFd := false }) w := by
  unfold releaseStartupLock
  split
  · rename_i hclosed
    have hl : l = false := by
      cases l with
      | false => rfl
      | true => exact absurd (hfd rfl) (by rw [hclosed]; exact Bool.false_ne_true)
    subst hl
    refine holds_return stable_own hw fun _ h => ⟨h, ?_⟩
    rw [← hclosed]
  · have hreleases : ∀ (w w' : SocketWorld ι) l, Own i s b l w → w' = w.release i →
        Own i s b false w' := by
      rintro w _ l hw rfl
      exact ⟨hw.sock, hw.remembered, ⟨fun h => absurd h lock_release_self, fun h => nomatch h⟩⟩
    have hissue : ∀ (w : SocketWorld ι) l, Own i s b l w → ∀ id, w.sock i ≠ .bound id :=
      fun w l hw id => hw.sock ▸ hs id
    refine (holds_perform .unlock stable_own hw (fun w hw _ => hissue w l hw)
      (fun w _ w' hw _ hb => hreleases w w' l hw hb) fun _ => stable_own).bind fun _ w₁ hw₁ => ?_
    refine (holds_perform .closeLock stable_own hw₁ (fun w hw _ => hissue w false hw)
      (fun w _ w' hw _ hb => hreleases w w' false hw hb) fun _ => stable_own).bind ?_
    exact fun _ w₂ hw₂ => holds_return stable_own hw₂ fun _ h => ⟨h, rfl⟩

/-! ## The removal of what is stale -/

/-- A path that is looked at with the lock held stays what it was seen to be. -/
theorem holds_lstatPath_locked (hw : Own i s b true w) :
    (socketDiscipline ι).Holds i (perform .lstatPath) (fun r w => Own i s b true w ∧
      ∀ node, r = .found node → w.path = some node) w := by
  refine holds_perform .lstatPath stable_own hw (fun _ _ _ => trivial) (fun w r w' hw _ hb => ?_)
    fun r w w' h hrely => ⟨stable_own w w' h.1 hrely, fun node hr => ?_⟩
  · obtain ⟨rfl, hpath⟩ := hb
    refine ⟨hw, fun node hr => ?_⟩
    subst hr
    exact hpath
  · rw [hrely.path (h.1.lock.mpr rfl)]
    exact h.2 node hr

/-- Where a connection is refused, nobody listens. -/
theorem unserved_of_connect {r : ConnectOutcome} {w' : SocketWorld ι} (hinv : SocketInvariant w)
    (hb : SocketCall.Outcome i .connect w r w') (hr : r = .refused ∨ r = .missing) :
    Unserved w := by
  intro j id hlistens
  exact hb.2 hr j ⟨id, hlistens, hinv.placed j id (by rw [hlistens]; rfl)⟩

/-- The reading of the response changes nothing. -/
theorem holds_probeReceive {P : SocketWorld ι → Prop} (hP : (socketDiscipline ι).Stable i P)
    {turns : ℕ} {response : Bytes} (hw : P w) :
    (socketDiscipline ι).Holds i (probeReceive turns response) (fun _ => P) w := by
  induction turns generalizing response w with
  | zero => exact holds_return hP hw fun _ h => h
  | succ turns ih =>
    rw [probeReceive]
    split
    · exact holds_return hP hw fun _ h => h
    refine (holds_look (.receive _) rfl hP hw).bind fun received w₁ hw₁ => ?_
    split
    · exact holds_return hP hw₁ fun _ h => h
    · exact holds_return hP hw₁ fun _ h => h
    · split
      · exact holds_return hP hw₁ fun _ h => h
      · exact ih hw₁

/-- What `network_sidebar_probe_socket` says of the path, asked with the lock held. -/
def Probed (i : ι) (s : SocketState) (b : Option FileId) (status : ProbeStatus)
    (w : SocketWorld ι) : Prop :=
  Own i s b true w ∧ (status = .notConnectable → Unserved w)

theorem stable_probed {status : ProbeStatus} :
    (socketDiscipline ι).Stable i (Probed i s b status) := by
  rintro w w' ⟨hown, hunserved⟩ hrely
  exact ⟨stable_own w w' hown hrely, fun hstatus =>
    (stable_unserved w w' ⟨hown, hunserved hstatus⟩ hrely).2⟩

/-- A connection that is refused tells that nobody listens. -/
theorem holds_connect (hw : Own i s b true w) :
    (socketDiscipline ι).Holds i (perform .connect) (fun r w => Own i s b true w ∧
      (r = .refused ∨ r = .missing → Unserved w)) w := by
  refine holds_perform .connect stable_own hw (fun _ _ _ => trivial)
    (fun w r w' hw hinv hb => ?_) fun r w w' h hrely => ⟨stable_own w w' h.1 hrely, fun hr => ?_⟩
  · obtain ⟨rfl, -⟩ := id hb
    exact ⟨hw, unserved_of_connect hinv hb⟩
  · exact (stable_unserved w w' ⟨h.1, h.2 hr⟩ hrely).2

theorem holds_probeConnected {path : Bytes} (hw : Own i s b true w) :
    (socketDiscipline ι).Holds i (probeConnected path) (Probed i s b) w := by
  have hother : ∀ {status : ProbeStatus} {w : SocketWorld ι}, status ≠ .notConnectable →
      Own i s b true w → (socketDiscipline ι).Holds i (Prog.pure status : SocketM ProbeStatus)
        (Probed i s b) w :=
    fun hstatus hw => holds_return stable_own hw fun _ h => ⟨h, fun heq => absurd heq hstatus⟩
  unfold probeConnected
  split
  · exact hother ProbeStatus.noConfusion hw
  refine (holds_connect hw).bind fun outcome w₁ hw₁ => ?_
  obtain ⟨hown, hrefused⟩ := hw₁
  cases outcome with
  | refused =>
    exact holds_return stable_unserved ⟨hown, hrefused (.inl rfl)⟩ fun _ h => ⟨h.1, fun _ => h.2⟩
  | missing =>
    exact holds_return stable_unserved ⟨hown, hrefused (.inr rfl)⟩ fun _ h => ⟨h.1, fun _ => h.2⟩
  | failed => exact hother ProbeStatus.noConfusion hown
  | connected =>
    refine (holds_look .sendPing rfl stable_own hown).bind fun sent w₂ hw₂ => ?_
    cases sent with
    | false => exact hother ProbeStatus.noConfusion hw₂
    | true =>
      refine (holds_probeReceive stable_own hw₂).bind fun response w₃ hw₃ => ?_
      cases response with
      | none => exact hother ProbeStatus.noConfusion hw₃
      | some response =>
        refine hother ?_ hw₃
        split <;> exact ProbeStatus.noConfusion

/-- `network_sidebar_probe_socket`, made with the lock held. -/
theorem holds_probeSocket {path : Bytes} (hw : Own i s b true w) :
    (socketDiscipline ι).Holds i (probeSocket path) (Probed i s b) w := by
  refine (holds_look .openProbe rfl stable_own hw).bind fun opened w₁ hw₁ => ?_
  cases opened with
  | false =>
    exact holds_return stable_own hw₁ fun _ h => ⟨h, fun h => nomatch h⟩
  | true =>
    refine (holds_probeConnected hw₁).bind fun status w₂ hw₂ => ?_
    refine (holds_look .closeProbe rfl stable_probed hw₂).bind fun _ w₃ hw₃ => ?_
    exact holds_return stable_probed hw₃ fun _ h => h

/-- `remove_stale_socket_path` removes nobody's socket. -/
theorem holds_removeStaleSocketPath {path : Bytes} (hw : Own i s b true w)
    (hs : s.file = none) :
    (socketDiscipline ι).Holds i (removeStaleSocketPath path) (fun _ => Own i s b true) w := by
  have hreturn : ∀ {r : Except ServerError Unit} {w : SocketWorld ι}, Own i s b true w →
      (socketDiscipline ι).Holds i (Prog.pure r : SocketM (Except ServerError Unit))
        (fun _ => Own i s b true) w :=
    fun hw => holds_return stable_own hw fun _ h => h
  refine (holds_look .lstatPath rfl stable_own hw).bind fun seen w₁ hw₁ => ?_
  cases seen with
  | missing | failed => exact hreturn hw₁
  | found existing =>
    dsimp only
    split
    · exact hreturn hw₁
    refine (holds_probeSocket hw₁).bind fun status w₂ hw₂ => ?_
    cases status with
    | acknowledged | unacknowledged => exact hreturn hw₂.1
    | notConnectable =>
      have hunserved : Own i s b true w₂ ∧ Unserved w₂ := ⟨hw₂.1, hw₂.2 rfl⟩
      have hcheck : (socketDiscipline ι).Holds i (socketPathIsUnchanged existing.id)
          (fun _ w => Own i s b true w ∧ Unserved w) w₂ := by
        refine (holds_look .lstatPath rfl stable_unserved hunserved).bind fun seen w₃ hw₃ => ?_
        cases seen <;> exact holds_return stable_unserved hw₃ fun _ h => h
      refine hcheck.bind fun check w₃ hw₃ => ?_
      cases check with
      | disappeared | refused => exact hreturn hw₃.1
      | unchanged =>
        refine (holds_perform .unlinkPath (R := fun _ => Own i s b true) stable_unserved hw₃
          (fun w hw hinv => ⟨hw.1.lock.mpr rfl, file_of_unserved hinv hw.1 hs hw.2⟩)
          (fun w r w' hw _ hb => ?_) fun _ => stable_own).bind fun outcome w₄ hw₄ => ?_
        · rcases hb with ⟨-, rfl⟩ | ⟨-, rfl⟩
          · exact ⟨hw.1.sock, hw.1.remembered, hw.1.lock⟩
          · exact hw.1
        · cases outcome <;> exact hreturn hw₄

/-! ## Binding -/

/-- `bind` makes a socket at the path. -/
theorem holds_bind (hw : Own i .opened b true w) :
    (socketDiscipline ι).Holds i (perform .bind)
      (fun r w => ∃ s, Own i s b true w ∧ if r then ∃ id, s = .bound id else s = .opened) w := by
  refine holds_perform .bind stable_own hw (fun w hw _ => hw.lock.mpr rfl)
    (fun w r w' hw _ hb => ?_) fun r w w' h hrely => ?_
  · rcases hb with ⟨rfl, -, id, -, rfl⟩ | ⟨rfl, rfl⟩
    · exact ⟨.bound id, ⟨sock_setSock_self, hw.remembered, hw.lock⟩, id, rfl⟩
    · exact ⟨.opened, hw, rfl⟩
  · obtain ⟨s, hown, hs⟩ := h
    exact ⟨s, stable_own w w' hown hrely, hs⟩

/-- What is found at the path after `bind` is the file that was bound. -/
theorem holds_noteBoundSocket {id : FileId}
    (hw : Own i (.bound id) server.boundId true w) :
    (socketDiscipline ι).Holds i (noteBoundSocket server)
      (fun r w => Own i (.bound id) r.boundId true w ∧ r.fd = server.fd ∧
        r.startupLockFd = server.startupLockFd) w := by
  refine (holds_lstatPath_locked hw).bind fun seen w₁ hw₁ => ?_
  cases seen with
  | missing | failed => exact holds_return stable_own hw₁.1 fun _ h => ⟨h, rfl, rfl⟩
  | found node =>
    have hstable : (socketDiscipline ι).Stable i fun w =>
        Own i (.bound id) server.boundId true w ∧ w.path = some node := stable_path
    have hsees : Own i (.bound id) server.boundId true w₁ ∧ w₁.path = some node :=
      ⟨hw₁.1, hw₁.2 node rfl⟩
    refine (holds_perform (.setBoundSocketId node.id)
      (R := fun _ => Own i (.bound id) (some node.id) true) hstable hsees
      (fun w hw hinv => ?_) (fun w _ w' hw _ hb => ?_) fun _ => stable_own).bind
      fun _ w₂ hw₂ => holds_return stable_own hw₂ fun _ h => ⟨h, rfl, rfl⟩
    · -- the path refers to the process's own socket
      have hfile : (w.sock i).file = some id := by
        rw [hw.1.sock]
        rfl
      have hplaced := hinv.placed i id hfile
      rw [hw.2] at hplaced
      rw [Option.some.inj hplaced]
      exact hfile
    · rw [show w' = w.remember i (some node.id) from hb]
      exact ⟨hw.1.sock, Function.update_self .., hw.1.lock⟩

/-- What the constructor has come to with a server: it can be closed. -/
structure Closable (i : ι) (server : CommandServer) (s : SocketState) (l : Bool)
    (w : SocketWorld ι) : Prop where
  own : Own i s server.boundId l w
  fd : server.fd = false → s = .closed
  startupLockFd : l = true → server.startupLockFd = true
  locked : server.boundId ≠ none → server.startupLockFd = true → l = true

theorem stable_closable : (socketDiscipline ι).Stable i (Closable i server s l) :=
  fun w w' h hrely => { h with own := stable_own w w' h.own hrely }

/-- What `bind_command_socket` leaves: a socket that listens at the path, with the lock given up,
or a server that can be closed. -/
def Bound (i : ι) (r : Except ServerError Unit × CommandServer) (w : SocketWorld ι) : Prop :=
  r.2.fd = true ∧
    match r.1 with
    | .ok () => r.2.startupLockFd = false ∧
        ∃ id, Own i (.listening id) r.2.boundId false w
    | .error _ => ∃ s l, Closable i r.2 s l w

theorem holds_bindFreePath {path : Bytes} (hw : Own i .opened server.boundId true w)
    (hfd : server.fd = true) (hlock : server.startupLockFd = true) :
    (socketDiscipline ι).Holds i (bindFreePath path server) (Bound i) w := by
  have hfails : ∀ {error : ServerError} {server : CommandServer} {s : SocketState}
      {w : SocketWorld ι}, Own i s server.boundId true w → server.fd = true →
      server.startupLockFd = true → (socketDiscipline ι).Holds i
        (Prog.pure (.error error, server) : SocketM (Except ServerError Unit × CommandServer))
        (Bound i) w := by
    intro error server s w hw hfd hlock
    refine holds_return stable_own hw fun w hw => ⟨hfd, s, true, hw, ?_, fun _ => hlock, ?_⟩
    · intro h
      rw [show server.fd = true from hfd] at h
      cases h
    · exact fun _ _ => rfl
  unfold bindFreePath
  split
  · exact hfails hw hfd hlock
  refine (holds_bind hw).bind fun made w₁ hw₁ => ?_
  obtain ⟨s, hown, hs⟩ := hw₁
  cases made with
  | false => exact hfails hown hfd hlock
  | true =>
    obtain ⟨id, rfl⟩ := hs
    refine (holds_noteBoundSocket hown).bind fun server' w₂ hw₂ => ?_
    obtain ⟨hown₂, hfd₂, hlock₂⟩ := hw₂
    rw [hfd] at hfd₂
    rw [hlock] at hlock₂
    refine (holds_look .chmod rfl stable_own hown₂).bind fun changed w₃ hw₃ => ?_
    cases changed with
    | false => exact hfails hw₃ hfd₂ hlock₂
    | true =>
      have hlistens : (socketDiscipline ι).Holds i (perform .listen) (fun r w => Own i
          (if r then .listening id else .bound id) server'.boundId true w) w₃ := by
        refine holds_perform .listen stable_own hw₃ (fun w hw _ => hw.lock.mpr rfl)
          (fun w r w' hw _ hb => ?_) fun r => stable_own
        rcases hb with ⟨rfl, id', hbound, rfl⟩ | ⟨rfl, rfl⟩
        · obtain rfl : id' = id := SocketState.bound.inj (hbound.symm.trans hw.sock)
          exact ⟨sock_setSock_self, hw.remembered, hw.lock⟩
        · exact hw
      refine hlistens.bind fun listened w₄ hw₄ => ?_
      cases listened with
      | false => exact hfails hw₄ hfd₂ hlock₂
      | true =>
        refine (holds_look .setAcceptTimeout rfl stable_own hw₄).bind fun _ w₅ hw₅ => ?_
        refine (holds_releaseStartupLock hw₅ (fun _ => SocketState.noConfusion)
          fun _ => hlock₂).bind fun server'' w₆ hw₆ => ?_
        obtain ⟨hown₆, rfl⟩ := hw₆
        exact holds_return stable_own hown₆ fun _ h => ⟨hfd₂, rfl, id, h⟩

/-- `bind_command_socket` of a new server. -/
theorem holds_bindCommandSocket {path : Bytes} {attempts : ℕ}
    (hw : Own i .opened server.boundId false w) (hnone : server.boundId = none)
    (hfd : server.fd = true) :
    (socketDiscipline ι).Holds i (bindCommandSocket path attempts server) (Bound i) w := by
  have hfails : ∀ {error : ServerError} {server : CommandServer} {l : Bool}
      {w : SocketWorld ι}, Own i .opened server.boundId l w → server.boundId = none →
      server.fd = true → (l = true → server.startupLockFd = true) →
      (socketDiscipline ι).Holds i
        (Prog.pure (.error error, server) : SocketM (Except ServerError Unit × CommandServer))
        (Bound i) w := by
    intro error server l w hw hnone hfd hlock
    refine holds_return stable_own hw fun w hw => ⟨hfd, .opened, l, hw, ?_, hlock, ?_⟩
    · intro h
      rw [show server.fd = true from hfd] at h
      cases h
    · exact fun h => absurd hnone h
  have hvalidates : (socketDiscipline ι).Holds i validateSocketDirectory
      (fun _ => Own i .opened server.boundId false) w := by
    refine (holds_look .lstatDirectory rfl stable_own hw).bind fun stat w₁ hw₁ => ?_
    cases stat <;> exact holds_return stable_own hw₁ fun _ h => h
  refine hvalidates.bind fun valid w₁ hw₁ => ?_
  cases valid with
  | error error => exact hfails hw₁ hnone hfd fun h => nomatch h
  | ok _ =>
    refine (holds_acquireStartupLock hw₁).bind fun acquired w₂ hw₂ => ?_
    obtain ⟨result, server'⟩ := acquired
    obtain ⟨hown, hfd', hid, hlock⟩ := hw₂
    dsimp only at hown hfd' hid hlock
    rw [hfd] at hfd'
    rw [← hid] at hown hnone
    cases result with
    | error error => exact hfails hown hnone hfd' fun h => nomatch h
    | ok _ =>
      refine (holds_removeStaleSocketPath hown rfl).bind fun removed w₃ hw₃ => ?_
      cases removed with
      | error error => exact hfails hw₃ hnone hfd' hlock
      | ok _ => exact holds_bindFreePath hw₃ hfd' (hlock rfl)

/-! ## Closing -/

/-- The closing of the socket. -/
theorem holds_closeServerSocket (hw : Closable i server s l w) :
    (socketDiscipline ι).Holds i (closeServerSocket server)
      (fun r w => Closable i r .closed l w) w := by
  unfold closeServerSocket
  split
  · rename_i hfd
    obtain rfl := hw.fd hfd
    exact holds_return stable_closable hw fun _ h => h
  · have hsets : ∀ {w w' : SocketWorld ι} {s s' : SocketState}, Own i s server.boundId l w →
        w' = w.setSock i s' → Own i s' server.boundId l w' := by
      rintro w _ s s' hw rfl
      exact ⟨sock_setSock_self, hw.remembered, hw.lock⟩
    refine (holds_perform .shutdown (R := fun _ => Own i .opened server.boundId l) stable_own
      hw.own (fun _ _ _ => trivial) (fun _ _ _ hw _ hb => hsets hw hb) fun _ => stable_own).bind ?_
    intro _ w₁ hw₁
    refine (holds_perform .closeSocket (R := fun _ => Own i .closed server.boundId l) stable_own
      hw₁ (fun _ _ _ => trivial) (fun _ _ _ hw _ hb => hsets hw hb) fun _ => stable_own).bind ?_
    intro _ w₂ hw₂
    exact holds_return stable_own hw₂ fun _ h =>
      ⟨h, fun _ => rfl, hw.startupLockFd, hw.locked⟩

theorem holds_joinServerThread (hw : Closable i server s l w) :
    (socketDiscipline ι).Holds i (joinServerThread server)
      (fun r w => Closable i r s l w) w := by
  unfold joinServerThread
  split
  · exact holds_return stable_closable hw fun _ h => h
  · refine (holds_look .joinThread rfl stable_closable hw).bind fun _ w₁ hw₁ => ?_
    exact holds_return stable_closable hw₁ fun _ h =>
      ⟨h.own, h.fd, h.startupLockFd, h.locked⟩

/-- The path is removed only where it refers to the file that the process remembers, which is
nobody's once its own socket is closed. -/
theorem holds_unlinkLockedSocketPath (hw : Own i .closed server.boundId true w) :
    (socketDiscipline ι).Holds i (unlinkLockedSocketPath server)
      (fun _ => Own i .closed server.boundId true) w := by
  have hreturn : ∀ {w : SocketWorld ι}, Own i .closed server.boundId true w →
      (socketDiscipline ι).Holds i (Prog.pure () : SocketM Unit)
        (fun _ => Own i .closed server.boundId true) w :=
    fun hw => holds_return stable_own hw fun _ h => h
  have hmatches : (socketDiscipline ι).Holds i (pathMatchesBoundSocket server)
      (fun r w => Own i .closed server.boundId true w ∧ (r = true →
        ∃ id, server.boundId = some id ∧ w.path = some ⟨true, id⟩)) w := by
    unfold pathMatchesBoundSocket
    cases hid : server.boundId with
    | none =>
      rw [hid] at hw
      exact holds_return stable_own hw fun _ h => ⟨h, fun h => nomatch h⟩
    | some bound =>
      rw [hid] at hw
      refine (holds_lstatPath_locked hw).bind fun seen w₁ hw₁ => ?_
      cases seen with
      | missing | failed =>
        exact holds_return stable_own hw₁.1 fun _ h => ⟨h, fun h => nomatch h⟩
      | found node =>
        have hsees : Own i .closed (some bound) true w₁ ∧ w₁.path = some node :=
          ⟨hw₁.1, hw₁.2 node rfl⟩
        refine holds_return stable_path hsees fun w h => ⟨h.1, fun hmatch => ⟨bound, rfl, ?_⟩⟩
        rw [h.2]
        obtain ⟨isSocket, id⟩ := node
        rw [Bool.and_eq_true, decide_eq_true_eq] at hmatch
        obtain ⟨rfl, rfl⟩ := hmatch
        rfl
  refine hmatches.bind fun matched w₁ hw₁ => ?_
  obtain ⟨hown, hpath⟩ := hw₁
  cases matched with
  | false => exact hreturn hown
  | true =>
    obtain ⟨id, hid, hpath⟩ := hpath rfl
    refine (holds_perform .unlinkPath (R := fun _ => Own i .closed server.boundId true)
      stable_path ⟨hown, hpath⟩ (fun w hw hinv => ⟨hw.1.lock.mpr rfl, fun j => ?_⟩)
      (fun w r w' hw _ hb => ?_) fun _ => stable_own).bind fun _ w₂ hw₂ => hreturn hw₂
    · cases hfile : (w.sock j).file with
      | none => rfl
      | some id' =>
        -- whoever has a file has it at the path, and this one is remembered by the process
        have hplaced := hinv.placed j id' hfile
        rw [hw.2] at hplaced
        obtain rfl : id = id' := congrArg FileNode.id (Option.some.inj hplaced)
        have hj := hinv.remembered i j id (hw.1.remembered.trans hid) hfile
        rw [hj, hw.1.sock] at hfile
        cases hfile
    · rcases hb with ⟨-, rfl⟩ | ⟨-, rfl⟩
      · exact ⟨hw.1.sock, hw.1.remembered, hw.1.lock⟩
      · exact hw.1

/-- The process's socket is closed; the lock is given up by the last call of the closing at the
latest. -/
def Closed (i : ι) (server : CommandServer) (w : SocketWorld ι) : Prop :=
  ∃ b l, Own i .closed b l w ∧ (l = true → server.startupLockFd = true)

theorem holds_unlinkBoundSocketPath {attempts : ℕ} (hw : Closable i server .closed l w) :
    (socketDiscipline ι).Holds i (unlinkBoundSocketPath attempts server) (Closed i) w := by
  unfold unlinkBoundSocketPath
  split
  · exact holds_return stable_closable hw fun _ h => ⟨_, l, h.own, h.startupLockFd⟩
  rename_i hid
  split
  · rename_i hclosed
    have hl : l = false := by
      cases l with
      | false => rfl
      | true => exact absurd (hw.startupLockFd rfl) (by rw [hclosed]; exact Bool.false_ne_true)
    subst hl
    refine (holds_acquireStartupLock hw.own).bind fun acquired w₁ hw₁ => ?_
    obtain ⟨result, server'⟩ := acquired
    obtain ⟨hown, -, hid', hlock⟩ := hw₁
    dsimp only at hown hid' hlock
    cases result with
    | error error =>
      exact holds_return stable_own hown fun _ h => ⟨_, false, h, fun h => nomatch h⟩
    | ok _ =>
      rw [← hid'] at hown
      refine (holds_unlinkLockedSocketPath hown).bind fun _ w₂ hw₂ => ?_
      refine (holds_releaseStartupLock hw₂ (fun _ => SocketState.noConfusion)
        fun _ => hlock rfl).mono fun r w h => ⟨_, false, h.1, fun h => nomatch h⟩
  · rename_i hopen
    obtain rfl : l = true := hw.locked hid (Bool.of_not_eq_false hopen)
    refine (holds_unlinkLockedSocketPath hw.own).bind fun _ w₁ hw₁ => ?_
    exact holds_return stable_own hw₁ fun _ h =>
      ⟨_, true, h, fun _ => Bool.of_not_eq_false hopen⟩

/-- `network_sidebar_command_server_close` leaves nothing of the server. -/
theorem holds_commandServerClose {attempts : ℕ} (hw : Closable i server s l w) :
    (socketDiscipline ι).Holds i (commandServerClose attempts server)
      (fun _ => Own i .closed none false) w := by
  refine (holds_closeServerSocket hw).bind fun server₁ w₁ hw₁ => ?_
  refine (holds_joinServerThread hw₁).bind fun server₂ w₂ hw₂ => ?_
  refine (holds_unlinkBoundSocketPath hw₂).bind fun server₃ w₃ hw₃ => ?_
  obtain ⟨b, l', hown, hlock⟩ := hw₃
  refine (holds_releaseStartupLock hown (fun _ => SocketState.noConfusion) hlock).bind ?_
  rintro server₄ w₄ ⟨hown, -⟩
  refine holds_perform .free stable_own hown (fun _ _ _ => trivial) (fun w _ w' hw _ hb => ?_)
    fun _ => stable_own
  rw [show w' = w.remember i none from hb]
  exact ⟨hw.sock, Function.update_self .., hw.lock⟩

/-! ## A process -/

/-- What the constructor has come to: a server that listens, or nothing. -/
def Constructed (i : ι) (r : Option CommandServer) (w : SocketWorld ι) : Prop :=
  match r with
  | none => Own i .closed none false w
  | some server => server.fd = true ∧ server.startupLockFd = false ∧
      ∃ id, Own i (.listening id) server.boundId false w

theorem holds_commandServerNew {path : Bytes} {attempts : ℕ} (hw : Own i .closed none false w) :
    (socketDiscipline ι).Holds i (commandServerNew path attempts) (Constructed i) w := by
  have hgives : ∀ {server : CommandServer} {s : SocketState} {l : Bool} {w : SocketWorld ι},
      Closable i server s l w → (socketDiscipline ι).Holds i
        (do commandServerClose attempts server; return none) (Constructed i) w :=
    fun hw => (holds_commandServerClose hw).bind fun _ _ hw =>
      holds_return stable_own hw fun _ h => h
  have hallocated : ∀ {w : SocketWorld ι}, Own i .closed none false w →
      Closable i .allocated .closed false w :=
    fun hw => ⟨hw, fun _ => rfl, fun h => (nomatch h), fun h => absurd rfl h⟩
  refine (holds_look .runtimeSocketPath rfl stable_own hw).bind fun found w₁ hw₁ => ?_
  cases found with
  | false => exact hgives (hallocated hw₁)
  | true =>
    have hmade : (socketDiscipline ι).Holds i (perform .socket)
        (fun r => Own i (if r then .opened else .closed) none false) w₁ := by
      refine holds_perform .socket stable_own hw₁ (fun _ _ _ => trivial)
        (fun w r w' hw _ hb => ?_) fun r => stable_own
      rcases hb with ⟨rfl, rfl⟩ | ⟨rfl, rfl⟩
      · exact ⟨sock_setSock_self, hw.remembered, hw.lock⟩
      · exact hw
    refine hmade.bind fun made w₂ hw₂ => ?_
    cases made with
    | false => exact hgives (hallocated hw₂)
    | true =>
      refine (@holds_bindCommandSocket ι _ w₂ i { CommandServer.allocated with fd := true } path
        attempts hw₂ rfl rfl).bind fun bound w₃ hw₃ => ?_
      obtain ⟨result, server⟩ := bound
      obtain ⟨hfd, hresult⟩ := hw₃
      cases result with
      | error error =>
        obtain ⟨s, l, hclosable⟩ := hresult
        exact hgives hclosable
      | ok _ =>
        obtain ⟨hlock, id, hown⟩ := hresult
        refine (holds_look .startThread rfl stable_own hown).bind fun _ w₄ hw₄ => ?_
        exact holds_return stable_own hw₄ fun _ h => ⟨hfd, hlock, id, h⟩

/-- A process holds to the discipline. -/
theorem holds_serverProcess {path : Bytes} {attempts servers : ℕ}
    (hw : Own i .closed none false w) :
    (socketDiscipline ι).Holds i (serverProcess path attempts servers) (fun _ _ => True) w := by
  induction servers generalizing w with
  | zero => exact holds_return stable_own hw fun _ _ => trivial
  | succ servers ih =>
    refine (holds_commandServerNew hw).bind fun constructed w₁ hw₁ => ?_
    cases constructed with
    | none => exact ih hw₁
    | some server =>
      obtain ⟨hfd, hlock, id, hown⟩ := hw₁
      -- the server is live until the call that closes it
      refine (holds_perform .serve (R := fun _ => Own i (.listening id) server.boundId false)
        stable_own hown (fun w hw hinv => ⟨id, hw.sock, ?_⟩) (fun w _ w' hw _ hb => ?_)
        fun _ => stable_own).bind fun _ w₂ hw₂ => ?_
      · exact hinv.placed i id (by rw [hw.sock]; rfl)
      · rw [show w' = w from hb]
        exact hw
      · have hclosable : Closable i server (.listening id) false w₂ :=
          ⟨hw₂, fun h => absurd (hfd.symm.trans h) Bool.noConfusion, fun h => (nomatch h),
            fun _ h => absurd (hlock.symm.trans h) Bool.noConfusion⟩
        exact (holds_commandServerClose hclosable).bind fun _ w₃ hw₃ => ih hw₃

/-! ## The owner of the path -/

/-- A command server of the process is live: its constructor has returned it, and its closing has
not begun. -/
def Live (c : Pool socketSig ι Unit (SocketWorld ι)) (i : ι) : Prop :=
  ∃ k, c.program i = some (.call .serve k)

/-- The command socket has one owner. Whatever processes start and close command servers and die
in whatever order, the path refers to the socket of every live server, which listens on it; there
is one live server at most; and no process is about to unlink the path while a server is live. -/
theorem commandSocket_oneOwner {path : Bytes} {attempts servers : ι → ℕ} {w : SocketWorld ι}
    {c : Pool socketSig ι Unit (SocketWorld ι)} (hw : w.Initial)
    (hc : Pool.Reaches SocketCall.Outcome SocketWorld.Crash
      (serverPool path attempts servers w) c) :
    (∀ i, Live c i → c.world.Serves i) ∧
    (∀ i j, Live c i → Live c j → i = j) ∧
    ∀ i k, c.program i = some (.call .unlinkPath k) → ∀ j, ¬Live c j := by
  have hown : ∀ i, Own i .closed none false w := fun i =>
    ⟨hw.sock i, hw.remembered i, by rw [hw.lock]; exact ⟨nofun, nofun⟩⟩
  have hstart : (socketDiscipline ι).Disciplined (fun _ _ _ => True)
      (serverPool path attempts servers w) := by
    refine ⟨⟨fun i id h => ?_, fun i id h => ?_, fun i j h => ?_, fun i j id h => ?_⟩, ?_⟩
    · rw [show (serverPool path attempts servers w).world.sock i = _ from hw.sock i] at h
      cases h
    · rw [show (serverPool path attempts servers w).world.sock i = _ from hw.sock i] at h
      cases h
    · rw [show (serverPool path attempts servers w).world.sock i = _ from hw.sock i] at h
      exact absurd rfl h
    · rw [show (serverPool path attempts servers w).world.remembered i = _ from
        hw.remembered i] at h
      cases h
    · intro i p hp
      obtain rfl := Option.some.inj hp
      exact holds_serverProcess (hown i)
  have hdisciplined := hstart.reaches hc
  have hserves : ∀ i, Live c i → c.world.Serves i := by
    rintro i ⟨k, hk⟩
    exact hdisciplined.issued hk
  refine ⟨hserves, fun i j hi hj => ?_, fun i k hk j hj => ?_⟩
  · obtain ⟨id, hlistens, -⟩ := hserves i hi
    obtain ⟨id', hlistens', -⟩ := hserves j hj
    exact hdisciplined.invariant.unique i j (by rw [hlistens]; exact nofun)
      (by rw [hlistens']; exact nofun)
  · obtain ⟨-, hnobody⟩ := hdisciplined.issued hk
    obtain ⟨id, hlistens, -⟩ := hserves j hj
    have hfile := hnobody j
    rw [hlistens] at hfile
    cases hfile

/-! ## A live server -/

/-- The file that a calm machine makes. -/
def sampleFile : FileId := ⟨1, 1⟩

/-- A machine on which calls succeed, for two processes. -/
def calmSocketAnswer (i : Bool) : (o : SocketCall) → SocketWorld Bool → o.Reply × SocketWorld Bool
  | .socket, w => (true, w.setSock i .opened)
  | .flock, w => if w.lock = none then (.locked, { w with lock := some i }) else (.held, w)
  | .unlock, w | .closeLock, w => ((), w.release i)
  | .lstatPath, w =>
    match w.path with
    | some node => (.found node, w)
    | none => (.missing, w)
  | .connect, w => (.connected, w)
  | .unlinkPath, w => (.removed, { w with path := none })
  | .bind, w =>
    if w.path = none ∧ w.remembered true ≠ some sampleFile ∧
        w.remembered false ≠ some sampleFile then
      (true, { w.setSock i (.bound sampleFile) with path := some ⟨true, sampleFile⟩ })
    else (false, w)
  | .setBoundSocketId id, w => ((), w.remember i (some id))
  | .listen, w =>
    match w.sock i with
    | .bound id => (true, w.setSock i (.listening id))
    | _ => (false, w)
  | .shutdown, w => ((), w.setSock i .opened)
  | .closeSocket, w => ((), w.setSock i .closed)
  | .free, w => ((), w.remember i none)
  | .runtimeSocketPath, w | .openStartupLock, w | .chmod, w | .openProbe, w
  | .sendPing, w => (true, w)
  | .lstatDirectory, w => (some ⟨false, true, true, 0o700⟩, w)
  | .fstatStartupLock, w => (some ⟨true, true⟩, w)
  | .monotonicTime, w => ((0 : ℤ), w)
  | .receive _, w => (some pingResponse, w)
  | .sleep, w | .setAcceptTimeout, w | .startThread, w | .serve, w | .joinThread, w
  | .closeProbe, w => ((), w)

/-- A calm machine answers as the calls may. -/
def calmSocket (i : Bool) :
    Environment (S := socketSig) (W := SocketWorld Bool) (SocketCall.Outcome i) where
  answer := calmSocketAnswer i
  allowed := by
    intro o w
    cases o with
    | socket => exact .inl ⟨rfl, rfl⟩
    | flock =>
      simp only [calmSocketAnswer]
      split
      · exact .inl ⟨rfl, ‹_›, rfl⟩
      · exact .inr ⟨nofun, rfl⟩
    | lstatPath =>
      simp only [calmSocketAnswer]
      split
      · exact ⟨rfl, ‹_›⟩
      · exact ⟨rfl, ‹_›⟩
    | connect => exact ⟨rfl, fun h => by cases h <;> contradiction⟩
    | unlinkPath => exact .inl ⟨rfl, rfl⟩
    | bind =>
      simp only [calmSocketAnswer]
      split
      · rename_i hfree
        refine .inl ⟨rfl, hfree.1, sampleFile, fun j => ?_, rfl⟩
        cases j
        · exact hfree.2.2
        · exact hfree.2.1
      · exact .inr ⟨rfl, rfl⟩
    | listen =>
      simp only [calmSocketAnswer]
      split
      · exact .inl ⟨rfl, _, ‹_›, rfl⟩
      · exact .inr ⟨rfl, rfl⟩
    | _ => rfl

/-- A path with nothing at it. -/
def freePath : SocketWorld Bool := ⟨none, none, fun _ => .closed, fun _ => none⟩

/-- One of two processes has started its server. -/
def liveRun : List (Event socketSig (SocketWorld Bool)) × SocketM Unit × SocketWorld Bool :=
  (calmSocket true).run 17 (serverProcess [] 0 1) freePath

/-- Its server is live and owns the path. -/
theorem commandSocket_oneOwner_sample : liveRun.2.2.Serves true := by
  have hreach : Pool.Reaches SocketCall.Outcome SocketWorld.Crash
      (serverPool [] (fun _ => 0) (fun _ => 1) freePath) _ :=
    Pool.reaches_of_steps ((calmSocket true).steps 17 (serverProcess [] 0 1) freePath) rfl
  have hpending : liveRun.2.1.pending = some .serve := by decide +kernel
  obtain ⟨k, hk⟩ := Prog.eq_call_of_pending hpending
  exact (commandSocket_oneOwner ⟨rfl, fun _ => rfl, fun _ => rfl⟩ hreach).1 true
    ⟨k, congrArg some hk⟩

end NmSidebar
