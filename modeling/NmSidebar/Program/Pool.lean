import NmSidebar.Program.Safety
import Mathlib.Logic.Function.Basic
import Mathlib.Logic.Relation

/-!
# Processes over a shared world

Any number of processes run programs over one world, an operation at a time in any order, and may
crash at any time. A discipline says what every process relies on the others for, and where it may
issue which operation; a process that holds to it keeps the invariant, and keeps what the others
rely on.
-/

namespace Effects

variable {S : Signature} {ι α β W : Type}

/-- The operation a program waits for the reply to. -/
def Prog.pending : Prog S α → Option S.Op
  | .pure _ => none
  | .call o _ => some o

theorem Prog.eq_call_of_pending {p : Prog S α} {o : S.Op} (h : p.pending = some o) :
    ∃ k, p = .call o k := by
  cases p with
  | pure a => cases h
  | call o' k =>
    obtain rfl : o' = o := Option.some.inj h
    exact ⟨k, rfl⟩

/-! ## Runs of a pool -/

/-- What is left of the program of every process, nothing where it has crashed, and the world. -/
structure Pool (S : Signature) (ι α W : Type) where
  program : ι → Option (Prog S α)
  world : W

/-- One step of a pool: a process has an operation answered, or crashes. -/
inductive Pool.Step [DecidableEq ι] (B : ι → Behaviour S W) (crash : ι → W → W → Prop) :
    Pool S ι α W → Pool S ι α W → Prop
  | run {c : Pool S ι α W} {i : ι} {o : S.Op} {k : S.Reply o → Prog S α} {r : S.Reply o} {w : W}
      (hp : c.program i = some (.call o k)) (hb : B i o c.world r w) :
      Step B crash c ⟨Function.update c.program i (some (k r)), w⟩
  | crash {c : Pool S ι α W} {i : ι} {w : W} (hc : crash i c.world w) :
      Step B crash c ⟨Function.update c.program i none, w⟩

/-- The pools that a pool comes to. -/
def Pool.Reaches [DecidableEq ι] (B : ι → Behaviour S W) (crash : ι → W → W → Prop) :
    Pool S ι α W → Pool S ι α W → Prop :=
  Relation.ReflTransGen (Pool.Step B crash)

/-- A pool comes to wherever one of its processes comes to on its own. -/
theorem Pool.reaches_of_steps [DecidableEq ι] {B : ι → Behaviour S W} {crash : ι → W → W → Prop}
    {i : ι} {p q : Prog S α} {w w' : W} {tr : List (Event S W)} (hs : Steps (B i) p w tr q w')
    {program : ι → Option (Prog S α)} (hp : program i = some p) :
    Pool.Reaches B crash ⟨program, w⟩ ⟨Function.update program i (some q), w'⟩ := by
  induction hs generalizing program with
  | here p w =>
    rw [← hp, Function.update_eq_self]
    exact .refl
  | @step o k w w₁ w' r tr q hb _ ih =>
    have hfirst : Pool.Step B crash ⟨program, w⟩
        ⟨Function.update program i (some (k r)), w₁⟩ := .run hp hb
    have hrest := ih (Function.update_self i (some (k r)) program)
    rw [Function.update_idem] at hrest
    exact .head hfirst hrest

/-! ## Disciplines -/

/-- What the processes of a pool keep to. -/
structure Discipline (S : Signature) (ι W : Type) where
  /-- What an operation of a process may reply and change. -/
  behaves : ι → Behaviour S W
  /-- What the crash of a process may change. -/
  crash : ι → W → W → Prop
  /-- What holds of the world at every time. -/
  invariant : W → Prop
  /-- What a process relies on the others for, whatever they do from one world to the next. -/
  rely : ι → W → W → Prop
  /-- Where a process may issue an operation. -/
  issue : ι → S.Op → W → Prop
  rely_refl : ∀ i w, rely i w w
  rely_trans : ∀ {i w₁ w₂ w₃}, rely i w₁ w₂ → rely i w₂ w₃ → rely i w₁ w₃
  /-- An operation issued where it may be keeps the invariant and what the others rely on. -/
  keeps : ∀ {i o w r w'}, issue i o w → invariant w → behaves i o w r w' →
    invariant w' ∧ ∀ j, j ≠ i → rely j w w'
  /-- So does a crash. -/
  survives : ∀ {i w w'}, invariant w → crash i w w' →
    invariant w' ∧ ∀ j, j ≠ i → rely j w w'

namespace Discipline

variable {D : Discipline S ι W} {i : ι}

/-- From `w` on, whatever the others do, the process issues its operations where it may, and
returns where `Q` holds. -/
def Holds (D : Discipline S ι W) (i : ι) : Prog S α → (α → W → Prop) → W → Prop
  | .pure a, Q, w => ∀ w', D.rely i w w' → D.invariant w' → Q a w'
  | .call o k, Q, w => ∀ w', D.rely i w w' → D.invariant w' → D.issue i o w' ∧
      ∀ r w'', D.behaves i o w' r w'' → D.Holds i (k r) Q w''

/-- What a process relies on keeps what it holds to. -/
theorem Holds.later {p : Prog S α} {Q : α → W → Prop} {w w' : W} (h : D.Holds i p Q w)
    (hrely : D.rely i w w') : D.Holds i p Q w' := by
  cases p with
  | pure a => exact fun w₁ h₁ hinv => h w₁ (D.rely_trans hrely h₁) hinv
  | call o k => exact fun w₁ h₁ hinv => h w₁ (D.rely_trans hrely h₁) hinv

/-- What holds from every later world on which the invariant holds does so from now on. -/
theorem Holds.of_later {p : Prog S α} {Q : α → W → Prop} {w : W}
    (h : ∀ w', D.rely i w w' → D.invariant w' → D.Holds i p Q w') : D.Holds i p Q w := by
  cases p with
  | pure a => exact fun w' hrely hinv => h w' hrely hinv w' (D.rely_refl i w') hinv
  | call o k => exact fun w' hrely hinv => h w' hrely hinv w' (D.rely_refl i w') hinv

/-- The rule of sequence. -/
theorem Holds.bind {p : Prog S α} {f : α → Prog S β} {R : α → W → Prop} {Q : β → W → Prop}
    {w : W} (hp : D.Holds i p R w) (hf : ∀ a w', R a w' → D.Holds i (f a) Q w') :
    D.Holds i (p >>= f) Q w := by
  induction p generalizing w with
  | pure a => exact Holds.of_later fun w' hrely hinv => hf a w' (hp w' hrely hinv)
  | call o k ih =>
    intro w' hrely hinv
    obtain ⟨hissue, hk⟩ := hp w' hrely hinv
    exact ⟨hissue, fun r w'' hb => ih r (hk r w'' hb)⟩

/-- Weakening of the postcondition. -/
theorem Holds.mono {p : Prog S α} {Q Q' : α → W → Prop} {w : W} (h : D.Holds i p Q w)
    (hQ : ∀ a w', Q a w' → Q' a w') : D.Holds i p Q' w := by
  induction p generalizing w with
  | pure a => exact fun w' hrely hinv => hQ a w' (h w' hrely hinv)
  | call o k ih =>
    intro w' hrely hinv
    obtain ⟨hissue, hk⟩ := h w' hrely hinv
    exact ⟨hissue, fun r w'' hb => ih r (hk r w'' hb)⟩

/-- An assertion that the others cannot make false. -/
def Stable (D : Discipline S ι W) (i : ι) (P : W → Prop) : Prop :=
  ∀ w w', P w → D.rely i w w' → P w'

theorem Holds.pure {P : W → Prop} {a : α} {Q : α → W → Prop} {w : W} (hP : D.Stable i P)
    (hw : P w) (hQ : ∀ w', P w' → Q a w') : D.Holds i (.pure a) Q w :=
  fun w' hrely _ => hQ w' (hP w w' hw hrely)

/-- The rule of one operation, with what is asserted before it. -/
theorem Holds.call {P : W → Prop} {o : S.Op} {k : S.Reply o → Prog S α} {Q : α → W → Prop} {w : W}
    (hP : D.Stable i P) (hw : P w)
    (hstep : ∀ w', P w' → D.invariant w' → D.issue i o w' ∧
      ∀ r w'', D.behaves i o w' r w'' → D.Holds i (k r) Q w'') :
    D.Holds i (.call o k) Q w :=
  fun w' hrely hinv => hstep w' (hP w w' hw hrely) hinv

/-! ## The rule of pools -/

/-- Every process holds to the discipline from the present world on. -/
structure Disciplined (D : Discipline S ι W) (Q : ι → α → W → Prop) (c : Pool S ι α W) :
    Prop where
  invariant : D.invariant c.world
  holds : ∀ i p, c.program i = some p → D.Holds i p (Q i) c.world

variable {Q : ι → α → W → Prop} {c c' : Pool S ι α W}

/-- An operation that is about to be answered was issued where it may be. -/
theorem Disciplined.issued (h : D.Disciplined Q c) {o : S.Op} {k : S.Reply o → Prog S α}
    (hp : c.program i = some (.call o k)) : D.issue i o c.world :=
  (h.holds i _ hp c.world (D.rely_refl i _) h.invariant).1

variable [DecidableEq ι]

/-- Where a process takes the place of another's program, the others go on. -/
theorem holds_update {program : ι → Option (Prog S α)} {q : Option (Prog S α)} {w w' : W}
    (h : ∀ j p, program j = some p → D.Holds j p (Q j) w)
    (hothers : ∀ j, j ≠ i → D.rely j w w') (hself : ∀ p, q = some p → D.Holds i p (Q i) w') :
    ∀ j p, Function.update program i q j = some p → D.Holds j p (Q j) w' := by
  intro j p hp
  rcases eq_or_ne j i with rfl | hne
  · rw [Function.update_self] at hp
    exact hself p hp
  · rw [Function.update_of_ne hne] at hp
    exact (h j p hp).later (hothers j hne)

theorem Disciplined.step (h : D.Disciplined Q c) (hs : Pool.Step D.behaves D.crash c c') :
    D.Disciplined Q c' := by
  cases hs with
  | @run i o k r w hp hb =>
    obtain ⟨hissue, hk⟩ := h.holds i _ hp c.world (D.rely_refl i _) h.invariant
    obtain ⟨hinv, hothers⟩ := D.keeps hissue h.invariant hb
    refine ⟨hinv, holds_update h.holds hothers fun p hself => ?_⟩
    obtain rfl := Option.some.inj hself
    exact hk r w hb
  | @crash i w hc =>
    obtain ⟨hinv, hothers⟩ := D.survives h.invariant hc
    exact ⟨hinv, holds_update h.holds hothers fun p hself => nomatch hself⟩

/-- A pool whose processes hold to the discipline does so wherever it comes to. -/
theorem Disciplined.reaches (h : D.Disciplined Q c) (hs : Pool.Reaches D.behaves D.crash c c') :
    D.Disciplined Q c' := by
  induction hs with
  | refl => exact h
  | tail _ hs ih => exact ih.step hs

end Discipline

end Effects
