import Mathlib.Data.Nat.Notation
import Mathlib.Tactic.Common

/-!
# The session of an external editor

`editor_session.c`. An editor is started, its exit is awaited, and where it may have forwarded its
command to an editor that already runs, so is the end of that one's bus name. Every process carries
the generation it was started in, and only the process of the current generation counts.
-/

namespace NmSidebar

/-! ## The state -/

/-- What a process of the editor waits for: its exit, the session bus or the owner of the name. -/
inductive EditorStage where
  | exit | bus | owner
  deriving DecidableEq

/-- `EditorProcess`, with the callback that will free it. -/
structure EditorProcess where
  generation : ℕ
  stage : EditorStage
  deriving DecidableEq

/-- `EditorOwnerWatch`. -/
structure EditorOwnerWatch where
  generation : ℕ
  owner : String

/-- `NetworkSidebarEditorSession`, with the processes that refer to it. -/
structure ExternalEditorSession where
  generation : ℕ
  pending : Bool
  stopping : Bool
  /-- There is a `wait`. -/
  wait : Bool
  ownerWatch : Option EditorOwnerWatch
  processes : List EditorProcess

namespace ExternalEditorSession

/-- `network_sidebar_editor_session_new`. -/
def new : ExternalEditorSession := ⟨0, false, false, false, none, []⟩

/-- `network_sidebar_editor_session_cancel`. -/
def cancel (session : ExternalEditorSession) : ExternalEditorSession :=
  { session with
    generation := session.generation + 1
    pending := false
    wait := false
    ownerWatch := none }

/-- `network_sidebar_editor_session_stop`. -/
def stop (session : ExternalEditorSession) : ExternalEditorSession :=
  if session.stopping then session else { session with stopping := true }.cancel

/-- `editor_session_is_current`. -/
def isCurrent (session : ExternalEditorSession) (generation : ℕ) : Bool :=
  !session.stopping && session.pending && session.generation = generation

/-- `finish_editor_session`, and whether `completed` is called. -/
def finish (session : ExternalEditorSession) (generation : ℕ) : ExternalEditorSession × Bool :=
  if session.isCurrent generation then (session.cancel, true) else (session, false)

/-- `editor_process_free`, when the process has come to the given stage. -/
def free (session : ExternalEditorSession) (generation : ℕ) (stage : EditorStage) :
    ExternalEditorSession :=
  { session with processes := session.processes.erase ⟨generation, stage⟩ }

/-- The process waits for something else. -/
def proceed (session : ExternalEditorSession) (generation : ℕ) (stage next : EditorStage) :
    ExternalEditorSession :=
  { session with
    processes := ⟨generation, next⟩ :: session.processes.erase ⟨generation, stage⟩ }

/-- `editor_exited_cb`, and the message with which `completed` is called. -/
def exited (session : ExternalEditorSession) (generation : ℕ) (failure : Option String) :
    ExternalEditorSession × Option (Option String) :=
  match failure with
  | some error =>
    let finished := session.finish generation
    (finished.1.free generation .exit, if finished.2 then
      some (some ("nm-connection-editor exited unexpectedly: " ++ error)) else none)
  | none =>
    if session.isCurrent generation then
      ({ session with wait := true }.proceed generation .exit .bus, none)
    else (session.free generation .exit, none)

/-- `editor_bus_ready_cb`. Remote command forwarding can exit before the editor window. -/
def busReady (session : ExternalEditorSession) (generation : ℕ) (connected : Bool) :
    ExternalEditorSession × Option (Option String) :=
  if session.isCurrent generation && connected then
    (session.proceed generation .bus .owner, none)
  else
    let finished := session.finish generation
    (finished.1.free generation .bus, if finished.2 then some none else none)

/-- `editor_owner_query_cb`. -/
def ownerReply (session : ExternalEditorSession) (generation : ℕ) (reply : Option String) :
    ExternalEditorSession × Option (Option String) :=
  if session.isCurrent generation then
    let session := { session with wait := false }
    match reply with
    | some owner =>
      ({ session with ownerWatch := some ⟨generation, owner⟩ }.free generation .owner, none)
    | none =>
      -- no running editor remains, or the session bus is unavailable
      let finished := session.finish generation
      (finished.1.free generation .owner, if finished.2 then some none else none)
  else (session.free generation .owner, none)

/-- `editor_owner_appeared_cb`. A replacement editor does not own the completed session. -/
def ownerAppeared (session : ExternalEditorSession) (watch : EditorOwnerWatch) (owner : String) :
    ExternalEditorSession × Option (Option String) :=
  if owner ≠ watch.owner then
    let finished := session.finish watch.generation
    (finished.1, if finished.2 then some none else none)
  else (session, none)

/-- `editor_owner_vanished_cb`. -/
def ownerVanished (session : ExternalEditorSession) (watch : EditorOwnerWatch) :
    ExternalEditorSession × Option (Option String) :=
  let finished := session.finish watch.generation
  (finished.1, if finished.2 then some none else none)

/-- `network_sidebar_editor_session_open`, with the error of `g_spawn_async` where it fails. -/
def openEditor (session : ExternalEditorSession) (spawn : Option String) :
    ExternalEditorSession × Option String :=
  if session.stopping then (session, some "Editor session is stopped")
  else
    let session := session.cancel
    match spawn with
    | some error => (session, some error)
    | none =>
      ({ session with
        pending := true
        processes := ⟨session.generation, .exit⟩ :: session.processes }, none)

/-! ## Continuations -/

/-- How many callbacks that are still to come belong to a generation: of processes, and of the
watched name. -/
def continuations (session : ExternalEditorSession) (generation : ℕ) : ℕ :=
  session.processes.countP (·.generation = generation) +
    (session.ownerWatch.toList.countP (·.generation = generation))

/-- A process of a generation waits at a stage. -/
def Waits (session : ExternalEditorSession) (generation : ℕ) (stage : EditorStage) : Prop :=
  ⟨generation, stage⟩ ∈ session.processes

theorem continuations_free {session : ExternalEditorSession} {generation : ℕ} {stage : EditorStage}
    (h : session.Waits generation stage) (n : ℕ) :
    (session.free generation stage).continuations n + (if generation = n then 1 else 0) =
      session.continuations n := by
  have hperm := List.perm_cons_erase h
  have hcount := hperm.countP_eq fun process => decide (process.generation = n)
  rw [List.countP_cons] at hcount
  simp only [decide_eq_true_eq] at hcount
  unfold continuations free
  dsimp only
  omega

theorem continuations_proceed {session : ExternalEditorSession} {generation : ℕ} {stage : EditorStage}
    (h : session.Waits generation stage) (next : EditorStage) (n : ℕ) :
    (session.proceed generation stage next).continuations n = session.continuations n := by
  rw [← continuations_free h n]
  unfold continuations proceed free
  dsimp only
  rw [List.countP_cons]
  simp only [decide_eq_true_eq]
  omega

/-- A pending session has exactly one continuation of its generation, one that is not has none, and
no continuation is of a later generation. -/
structure Tracked (session : ExternalEditorSession) : Prop where
  current : session.continuations session.generation = if session.pending then 1 else 0
  generations : ∀ process ∈ session.processes, process.generation ≤ session.generation
  watched : session.ownerWatch.isSome → session.pending = true
  watch : ∀ watch ∈ session.ownerWatch, watch.generation = session.generation

theorem tracked_new : new.Tracked := by
  constructor <;> simp [new, continuations]

theorem tracked_cancel {session : ExternalEditorSession} (h : session.Tracked) :
    session.cancel.Tracked where
  current := by
    have hnone : session.processes.countP (·.generation = session.generation + 1) = 0 := by
      rw [List.countP_eq_zero]
      intro process hmem
      have hle := h.generations process hmem
      rw [decide_eq_true_eq]
      omega
    exact hnone
  generations := fun process hmem => Nat.le_succ_of_le (h.generations process hmem)
  watched := fun h => absurd h Bool.false_ne_true
  watch := fun _ h => absurd h (Option.not_mem_none _)

/-- A process that waits is of the current generation exactly when its session is pending for it. -/
theorem isCurrent_iff {session : ExternalEditorSession} {generation : ℕ} {stage : EditorStage}
    (h : session.Tracked) (hopen : session.stopping = false)
    (hwaits : session.Waits generation stage) :
    session.isCurrent generation = true ↔ generation = session.generation := by
  unfold isCurrent
  simp only [hopen, Bool.not_false, Bool.true_and, Bool.and_eq_true, decide_eq_true_eq]
  refine ⟨fun hcurrent => hcurrent.2.symm, fun heq => ⟨?_, heq.symm⟩⟩
  by_contra hpending
  have hcount := h.current
  rw [if_neg hpending, ← continuations_free hwaits, if_pos heq] at hcount
  omega

/-! ## Callbacks -/

/-- The `wait` does not count. -/
theorem Tracked.wait {session : ExternalEditorSession} (h : session.Tracked) (wait : Bool) :
    { session with wait := wait }.Tracked :=
  ⟨h.current, h.generations, h.watched, h.watch⟩

/-- A process of an earlier generation is freed. -/
theorem tracked_free {session : ExternalEditorSession} {generation : ℕ} {stage : EditorStage}
    (h : session.Tracked) (hwaits : session.Waits generation stage)
    (hstale : generation ≠ session.generation) : (session.free generation stage).Tracked where
  current := by
    have hcount := continuations_free hwaits session.generation
    rw [if_neg hstale, Nat.add_zero] at hcount
    exact hcount.trans h.current
  generations := fun process hmem => h.generations process (List.mem_of_mem_erase hmem)
  watched := h.watched
  watch := h.watch

/-- A process waits for something else. -/
theorem tracked_proceed {session : ExternalEditorSession} {generation : ℕ} {stage : EditorStage}
    (h : session.Tracked) (hwaits : session.Waits generation stage) (next : EditorStage) :
    (session.proceed generation stage next).Tracked where
  current := (continuations_proceed hwaits next session.generation).trans h.current
  generations := by
    intro process hmem
    rcases List.mem_cons.mp hmem with rfl | hmem
    · exact h.generations ⟨generation, stage⟩ hwaits
    · exact h.generations process (List.mem_of_mem_erase hmem)
  watched := h.watched
  watch := h.watch

/-- What a callback does to a session: it goes on, or it is completed and no longer pending. -/
structure Outcome (session : ExternalEditorSession)
    (result : ExternalEditorSession × Option (Option String)) : Prop where
  tracked : result.1.Tracked
  stopping : result.1.stopping = session.stopping
  kept : result.2 = none →
    result.1.pending = session.pending ∧ result.1.generation = session.generation
  ended : result.2 ≠ none → session.pending = true ∧ result.1.pending = false ∧
    result.1.generation = session.generation + 1

/-- `finish_editor_session` before a process is freed. -/
theorem outcome_finish {session : ExternalEditorSession} {generation : ℕ} {stage : EditorStage}
    (h : session.Tracked) (hopen : session.stopping = false)
    (hwaits : session.Waits generation stage) (message : Option String) :
    session.Outcome ((session.finish generation).1.free generation stage,
      if (session.finish generation).2 then some message else none) := by
  unfold finish
  by_cases hcurrent : session.isCurrent generation = true
  · rw [if_pos hcurrent]
    have heq := (isCurrent_iff h hopen hwaits).mp hcurrent
    have hpending : session.pending = true := by
      unfold isCurrent at hcurrent
      simp only [Bool.and_eq_true] at hcurrent
      exact hcurrent.1.2
    refine ⟨tracked_free (tracked_cancel h) hwaits ?_, rfl,
      fun hnone => absurd hnone (Option.some_ne_none _), fun _ => ⟨hpending, rfl, rfl⟩⟩
    show generation ≠ session.generation + 1
    omega
  · rw [if_neg hcurrent]
    rw [isCurrent_iff h hopen hwaits] at hcurrent
    exact ⟨tracked_free h hwaits hcurrent, rfl, fun _ => ⟨rfl, rfl⟩, fun hne => absurd rfl hne⟩

theorem outcome_exited {session : ExternalEditorSession} {generation : ℕ} (failure : Option String)
    (h : session.Tracked) (hopen : session.stopping = false)
    (hwaits : session.Waits generation .exit) :
    session.Outcome (session.exited generation failure) := by
  unfold exited
  cases failure with
  | some error => exact outcome_finish h hopen hwaits _
  | none =>
    dsimp only
    split
    · exact ⟨tracked_proceed (h.wait true) hwaits .bus, rfl, fun _ => ⟨rfl, rfl⟩,
        fun hne => absurd rfl hne⟩
    · next hcurrent =>
      rw [isCurrent_iff h hopen hwaits] at hcurrent
      exact ⟨tracked_free h hwaits hcurrent, rfl, fun _ => ⟨rfl, rfl⟩, fun hne => absurd rfl hne⟩

theorem outcome_busReady {session : ExternalEditorSession} {generation : ℕ} (connected : Bool)
    (h : session.Tracked) (hopen : session.stopping = false)
    (hwaits : session.Waits generation .bus) :
    session.Outcome (session.busReady generation connected) := by
  unfold busReady
  split
  · exact ⟨tracked_proceed h hwaits .owner, rfl, fun _ => ⟨rfl, rfl⟩, fun hne => absurd rfl hne⟩
  · exact outcome_finish h hopen hwaits _

/-- Where the name has an owner, the watch of it is the continuation in place of the process. -/
theorem tracked_watch {session : ExternalEditorSession} {generation : ℕ} (owner : String)
    (h : session.Tracked) (hwaits : session.Waits generation .owner)
    (heq : generation = session.generation) (hpending : session.pending = true) :
    ({ session with ownerWatch := some ⟨generation, owner⟩ }.free generation .owner).Tracked where
  current := by
    have hcount := continuations_free hwaits session.generation
    have hcurrent := h.current
    rw [if_pos hpending] at hcurrent
    rw [if_pos heq, hcurrent] at hcount
    unfold continuations free at hcount ⊢
    dsimp only at hcount ⊢
    rw [if_pos hpending]
    simp only [Option.toList_some, List.countP_cons, List.countP_nil, heq, decide_true, if_true]
    rw [heq] at hcount
    omega
  generations := fun process hmem => h.generations process (List.mem_of_mem_erase hmem)
  watched := fun _ => hpending
  watch := by
    intro watch hwatch
    rw [← Option.mem_some_iff.mp hwatch]
    exact heq

theorem outcome_ownerReply {session : ExternalEditorSession} {generation : ℕ} (reply : Option String)
    (h : session.Tracked) (hopen : session.stopping = false)
    (hwaits : session.Waits generation .owner) :
    session.Outcome (session.ownerReply generation reply) := by
  unfold ownerReply
  by_cases hcurrent : session.isCurrent generation = true
  · rw [if_pos hcurrent]
    have heq := (isCurrent_iff h hopen hwaits).mp hcurrent
    cases reply with
    | none =>
      obtain ⟨htracked, hstopping, hkept, hended⟩ :=
        @outcome_finish { session with wait := false } generation .owner (h.wait false) hopen
          hwaits none
      exact ⟨htracked, hstopping, hkept, hended⟩
    | some owner =>
      have hpending : session.pending = true := by
        unfold isCurrent at hcurrent
        simp only [Bool.and_eq_true] at hcurrent
        exact hcurrent.1.2
      exact ⟨tracked_watch owner (h.wait false) hwaits heq hpending, rfl, fun _ => ⟨rfl, rfl⟩,
        fun hne => absurd rfl hne⟩
  · rw [if_neg hcurrent]
    rw [isCurrent_iff h hopen hwaits] at hcurrent
    exact ⟨tracked_free h hwaits hcurrent, rfl, fun _ => ⟨rfl, rfl⟩, fun hne => absurd rfl hne⟩

/-- The watch of a name is of a pending session. -/
theorem isCurrent_watch {session : ExternalEditorSession} {watch : EditorOwnerWatch}
    (h : session.Tracked) (hopen : session.stopping = false) (hwatch : watch ∈ session.ownerWatch) :
    session.isCurrent watch.generation = true := by
  have hpending : session.pending = true :=
    h.watched (Option.isSome_iff_exists.mpr ⟨watch, hwatch⟩)
  unfold isCurrent
  simp [hopen, hpending, h.watch watch hwatch]

/-- The end of the watched owner completes the session. -/
theorem outcome_ownerVanished {session : ExternalEditorSession} {watch : EditorOwnerWatch}
    (h : session.Tracked) (hopen : session.stopping = false)
    (hwatch : watch ∈ session.ownerWatch) : session.Outcome (session.ownerVanished watch) := by
  have hpending : session.pending = true :=
    h.watched (Option.isSome_iff_exists.mpr ⟨watch, hwatch⟩)
  unfold ownerVanished finish
  rw [if_pos (isCurrent_watch h hopen hwatch)]
  exact ⟨tracked_cancel h, rfl, fun hnone => absurd hnone (Option.some_ne_none _),
    fun _ => ⟨hpending, rfl, rfl⟩⟩

theorem outcome_ownerAppeared {session : ExternalEditorSession} {watch : EditorOwnerWatch}
    (owner : String) (h : session.Tracked) (hopen : session.stopping = false)
    (hwatch : watch ∈ session.ownerWatch) :
    session.Outcome (session.ownerAppeared watch owner) := by
  unfold ownerAppeared
  split
  · exact outcome_ownerVanished h hopen hwatch
  · exact ⟨h, rfl, fun _ => ⟨rfl, rfl⟩, fun hne => absurd rfl hne⟩

/-- A session that is opened is pending, one that could not start an editor is not. -/
theorem openEditor_cases {session : ExternalEditorSession} (spawn : Option String) (h : session.Tracked)
    (hopen : session.stopping = false) :
    (session.openEditor spawn).1.Tracked ∧ (session.openEditor spawn).1.stopping = false ∧
    (session.openEditor spawn).2 = spawn ∧
    ((session.openEditor spawn).1.pending = true ↔ spawn = none) := by
  unfold openEditor
  rw [if_neg (by rw [hopen]; exact Bool.false_ne_true)]
  have hcancel := tracked_cancel h
  cases spawn with
  | some error => exact ⟨hcancel, hopen, rfl, by simp [cancel]⟩
  | none =>
    refine ⟨⟨?_, ?_, fun hwatch => absurd hwatch Bool.false_ne_true, hcancel.watch⟩, hopen, rfl,
      by simp⟩
    · have hcount := hcancel.current
      unfold continuations at hcount ⊢
      simp only [List.countP_cons, decide_true, if_true] at hcount ⊢
      rw [show session.cancel.pending = false from rfl, if_neg Bool.false_ne_true] at hcount
      omega
    · intro process hmem
      rcases List.mem_cons.mp hmem with rfl | hmem
      · exact Nat.le_refl _
      · exact hcancel.generations process hmem

end ExternalEditorSession
end NmSidebar
