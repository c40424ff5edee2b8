import Mathlib.Data.List.Forall2
import NmSidebar.Program.Runs
import NmSidebar.Program.Loops

/-!
# Programs in place of operations

An operation of one level may stand for a program of the level below. A run of such a program can
be stopped in the middle of what is one operation above; a simulation says that even then the run
is one of the upper level, which has taken the operation or has not.
-/

namespace Effects

variable {S T : Signature} {α β V W L : Type}

/-- Runs a program by replacing every operation with a program that may go on for ever. -/
def Prog.implement (impl : (o : S.Op) → OptionT (Prog T) (S.Reply o)) :
    Prog S α → OptionT (Prog T) α
  | .pure a => pure a
  | .call o k => do
    let r ← impl o
    (k r).implement impl

/-- A run of a sequence is still in the first part or has passed it. -/
theorem Steps.bind_split {B : Behaviour S W} {p : Prog S α} {f : α → Prog S β} {q : Prog S β}
    {w w' : W} {tr : List (Event S W)} (hs : Steps B (p >>= f) w tr q w') :
    (∃ o k, Steps B p w tr (.call o k) w' ∧ q = .call o fun r => k r >>= f) ∨
      ∃ a w₁ tr₁ tr₂, tr = tr₁ ++ tr₂ ∧ Steps B p w tr₁ (.pure a) w₁ ∧
        Steps B (f a) w₁ tr₂ q w' := by
  induction p generalizing w tr with
  | pure a => exact .inr ⟨a, w, [], tr, rfl, .here _ w, hs⟩
  | call o k ih =>
    rw [Prog.call_bind] at hs
    cases hs with
    | here => exact .inl ⟨o, k, .here _ _, rfl⟩
    | step hb hs =>
      rcases ih _ hs with ⟨o', k', hp, rfl⟩ | ⟨a, w₁, tr₁, tr₂, rfl, hp, hf⟩
      · exact .inl ⟨o', k', .step hb hp, rfl⟩
      · exact .inr ⟨a, w₁, _ :: tr₁, tr₂, rfl, .step hb hp, hf⟩

/-! ## Two levels -/

/-- Two levels of one system: what their operations do, how their worlds are related, and the
operations that both have. -/
structure Levels (T S : Signature) (V W : Type) where
  /-- What the operations of the lower level do. -/
  low : Behaviour T V
  /-- What the operations of the upper level do. -/
  high : Behaviour S W
  /-- The upper worlds that a lower world stands for. -/
  related : V → W → Prop
  /-- The operations of the lower level that the upper level has too. -/
  shown : T.Op → Bool
  /-- The operations of the upper level that the lower level has too. -/
  direct : S.Op → Bool
  /-- An event of the lower level that is the event of the upper level. -/
  same : Event T V → Event S W → Prop

namespace Levels

variable {M : Levels T S V W}

/-- Two runs have the same events of the operations that both levels have, in the same order. -/
def Mirrored (M : Levels T S V W) (tr : List (Event T V)) (tr' : List (Event S W)) : Prop :=
  List.Forall₂ M.same (tr.filter (M.shown ·.op)) (tr'.filter (M.direct ·.op))

theorem Mirrored.append {tr₁ tr₂ : List (Event T V)} {tr₁' tr₂' : List (Event S W)}
    (h₁ : M.Mirrored tr₁ tr₁') (h₂ : M.Mirrored tr₂ tr₂') :
    M.Mirrored (tr₁ ++ tr₂) (tr₁' ++ tr₂') := by
  unfold Mirrored
  rw [List.filter_append, List.filter_append]
  exact List.rel_append h₁ h₂

/-- Events that are of one level only leave nothing to compare. -/
theorem mirrored_of_hidden {tr : List (Event T V)} {tr' : List (Event S W)}
    (h : ∀ e ∈ tr, M.shown e.op = false) (h' : ∀ e ∈ tr', M.direct e.op = false) :
    M.Mirrored tr tr' := by
  unfold Mirrored
  rw [List.filter_eq_nil_iff.mpr fun e he => by simp [h e he],
    List.filter_eq_nil_iff.mpr fun e he => by simp [h' e he]]
  exact .nil

/-- Every run of the lower program, wherever it is stopped, is one of the upper program: the worlds
are related, the common operations are the same, and so is what is returned. -/
def Simulates (M : Levels T S V W) (p' : OptionT (Prog T) α) (p : Prog S α) (v : V) (w : W) :
    Prop :=
  ∀ tr q v', Steps M.low p'.run v tr q v' → q ≠ .pure none →
    ∃ tr' q' w', Steps M.high p w tr' q' w' ∧ M.related v' w' ∧ M.Mirrored tr tr' ∧
      ∀ a, q = .pure (some a) → q' = .pure a

theorem simulates_pure {a : α} {v : V} {w : W} (h : M.related v w) :
    M.Simulates (pure a) (.pure a) v w := by
  intro tr q v' hs _
  obtain ⟨rfl, rfl, rfl⟩ := Steps.of_pure hs
  refine ⟨[], .pure a, w, .here _ _, h, .nil, fun b hb => ?_⟩
  cases hb
  rfl

/-- The rule of sequence. -/
theorem Simulates.bind {p' : OptionT (Prog T) α} {p : Prog S α} {f' : α → OptionT (Prog T) β}
    {f : α → Prog S β} {v : V} {w : W} (hp : M.Simulates p' p v w)
    (hf : ∀ a v' w' tr, Steps M.high p w tr (.pure a) w' → M.related v' w' →
      M.Simulates (f' a) (f a) v' w') :
    M.Simulates (p' >>= f') (p >>= f) v w := by
  intro tr q v' hs hq
  rw [OptionT.run_bind, Option.elimM] at hs
  rcases hs.bind_split with ⟨o, k, hfirst, rfl⟩ | ⟨a, v₁, tr₁, tr₂, rfl, hs₁, hs₂⟩
  · -- the run is stopped in the first part
    obtain ⟨tr', q', w', hs', hrelated, hmirrored, -⟩ := hp _ _ _ hfirst (by simp)
    exact ⟨tr', q' >>= f, w', hs'.bind_append f, hrelated, hmirrored, fun a ha => by cases ha⟩
  · cases a with
    | none =>
      obtain ⟨-, rfl, -⟩ := Steps.of_pure hs₂
      exact absurd rfl hq
    | some a =>
      obtain ⟨tr₁', q₁', w₁, hs₁', hrelated, hmirrored, hreturn⟩ := hp _ _ _ hs₁ (by simp)
      obtain rfl := hreturn a rfl
      obtain ⟨tr₂', q', w', hs₂', hrelated', hmirrored', hreturn'⟩ :=
        hf a v₁ w₁ tr₁' hs₁' hrelated _ _ _ hs₂ hq
      exact ⟨tr₁' ++ tr₂', q', w', (hs₁'.bind_append f).append hs₂', hrelated',
        hmirrored.append hmirrored', hreturn'⟩

/-- A program over operations that are simulated is simulated. -/
theorem simulates_implement {impl : (o : S.Op) → OptionT (Prog T) (S.Reply o)}
    (himpl : ∀ o v w, M.related v w → M.Simulates (impl o) (Prog.request o) v w)
    {p : Prog S α} {v : V} {w : W} (h : M.related v w) :
    M.Simulates (p.implement impl) p v w := by
  induction p generalizing v w with
  | pure a => exact simulates_pure h
  | call o k ih =>
    exact (himpl o v w h).bind (f := k) fun r v' w' _ _ h' => ih r h'

/-! ## Operations of the upper level -/

/-- From `w`, the operation has not been taken yet or has been taken: the worlds that a lower world
may stand for while the operation is under way. -/
def Underway (M : Levels T S V W) (o : S.Op) (w : W) (v : V) : Prop :=
  M.related v w ∨ ∃ r w', M.high o w r w' ∧ M.related v w'

/-- A program that only uses operations of its own level stands for an operation, if it is under
way wherever it is stopped and has been taken when the program returns. -/
theorem simulates_of_ends {o : S.Op} {p' : OptionT (Prog T) (S.Reply o)} {v : V} {w : W}
    (hdirect : M.direct o = false)
    (h : Ends M.low (fun o' v' => M.shown o' = false ∧ M.Underway o w v') p'
      (fun r v' => ∃ w', M.high o w r w' ∧ M.related v' w') v) :
    M.Simulates p' (Prog.request o) v w := by
  intro tr q v' hs hq
  have hhidden : ∀ e ∈ tr, M.shown e.op = false := fun e he => (h.issued hs e he).1
  have hrest := h.rest hs
  have htaken : ∀ r w', M.high o w r w' →
      Steps M.high (Prog.request o) w [⟨o, w, r, w'⟩] (.pure r) w' :=
    fun r w' hr => .step hr (.here _ _)
  have hmirrored : ∀ r w', M.Mirrored tr [⟨o, w, r, w'⟩] := fun r w' =>
    mirrored_of_hidden hhidden fun e he => by rw [List.mem_singleton.mp he]; exact hdirect
  cases q with
  | pure a =>
    cases a with
    | none => exact absurd rfl hq
    | some r =>
      obtain ⟨w', hr, hrelated⟩ := hrest r rfl
      refine ⟨_, _, w', htaken r w' hr, hrelated, hmirrored r w', fun a ha => ?_⟩
      cases ha
      rfl
  | call o' k =>
    -- it is stopped before the operation has been taken, or after
    rcases hrest.1.2 with hrelated | ⟨r, w', hr, hrelated⟩
    · refine ⟨[], _, w, .here _ _, hrelated, mirrored_of_hidden hhidden (by simp), ?_⟩
      exact fun a ha => by cases ha
    · exact ⟨_, _, w', htaken r w' hr, hrelated, hmirrored r w', fun a ha => by cases ha⟩

end Levels

/-! ## Ledgers -/

/-- A run that carries a ledger along is a run without it, and the ledger is that of its events. -/
theorem Steps.unmonitor {B : Behaviour S W} {upd : L → Event S W → L} {p q : Prog S α} {w w' : W}
    {l l' : L} {tr : List (Event S (W × L))}
    (hs : Steps (B.monitor upd) p (w, l) tr q (w', l')) :
    ∃ tr', Steps B p w tr' q w' ∧ l' = tr'.foldl upd l ∧
      tr' = tr.map fun e => ⟨e.op, e.before.1, e.reply, e.after.1⟩ := by
  generalize hs₀ : (w, l) = s at hs
  generalize hs₁ : (w', l') = s' at hs
  induction hs generalizing w l with
  | here =>
    obtain ⟨rfl, rfl⟩ := Prod.mk.inj (hs₀.trans hs₁.symm)
    exact ⟨[], .here _ _, rfl, rfl⟩
  | @step o k s s₁ s' r tr q hb _ ih =>
    subst hs₀
    obtain ⟨tr', hs', hl, rfl⟩ := ih rfl hs₁
    refine ⟨_, .step hb.1 hs', ?_, rfl⟩
    rw [hl, List.foldl_cons]
    exact congrArg (fun l => List.foldl upd l _) hb.2

end Effects
