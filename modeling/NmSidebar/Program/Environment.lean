import NmSidebar.Program.Safety

/-!
# Environments

An environment answers every operation in one way that the behaviour allows. Running a program
against it gives one of the program's runs, which can be computed.
-/

namespace Effects

variable {S : Signature} {α W : Type} {B : Behaviour S W}

/-- One way to answer every operation in every world. -/
structure Environment (B : Behaviour S W) where
  /-- The reply and the world it leaves. -/
  answer : (o : S.Op) → W → S.Reply o × W
  /-- The behaviour allows the answer. -/
  allowed : ∀ o w, B o w (answer o w).1 (answer o w).2

/-- What the first `n` operations of a program come to: the events, what is left of the program
and the world. -/
def Environment.run (env : Environment B) : ℕ → Prog S α → W → List (Event S W) × Prog S α × W
  | 0, p, w => ([], p, w)
  | _ + 1, .pure a, w => ([], .pure a, w)
  | n + 1, .call o k, w =>
    let rest := env.run n (k (env.answer o w).1) (env.answer o w).2
    (⟨o, w, (env.answer o w).1, (env.answer o w).2⟩ :: rest.1, rest.2)

/-- Running against an environment is a run of the program. -/
theorem Environment.steps (env : Environment B) (n : ℕ) (p : Prog S α) (w : W) :
    Steps B p w (env.run n p w).1 (env.run n p w).2.1 (env.run n p w).2.2 := by
  induction n generalizing p w with
  | zero => exact .here p w
  | succ n ih =>
    cases p with
    | pure a => exact .here (.pure a) w
    | call o k => exact .step (env.allowed o w) (ih _ _)

/-- The environment with some of its answers replaced by others that the behaviour allows. -/
def Environment.override (env : Environment B)
    (own : (o : S.Op) → W → Option (S.Reply o × W))
    (allowed : ∀ o w a, own o w = some a → B o w a.1 a.2) : Environment B where
  answer o w := (own o w).getD (env.answer o w)
  allowed o w := by
    cases h : own o w with
    | none => exact env.allowed o w
    | some a => exact allowed o w a h

/-- Runs against several environments, one after the other, each for some operations. -/
def Environment.runAll : List (ℕ × Environment B) → Prog S α → W → List (Event S W) × Prog S α × W
  | [], p, w => ([], p, w)
  | (n, env) :: rest, p, w =>
    let first := env.run n p w
    let later := runAll rest first.2.1 first.2.2
    (first.1 ++ later.1, later.2)

theorem Environment.steps_runAll (phases : List (ℕ × Environment B)) (p : Prog S α) (w : W) :
    Steps B p w (runAll phases p w).1 (runAll phases p w).2.1 (runAll phases p w).2.2 := by
  induction phases generalizing p w with
  | nil => exact .here p w
  | cons phase rest ih => exact (phase.2.steps phase.1 p w).append (ih _ _)

/-- A run in a world that a larger one is a picture of. -/
theorem Steps.image {W' : Type} {f : W' → W} {p q : Prog S α} {c c' : W'}
    {tr : List (Event S W')} (hs : Steps (fun o c r c' => B o (f c) r (f c')) p c tr q c') :
    Steps B p (f c) (tr.map fun e => ⟨e.op, f e.before, e.reply, f e.after⟩) q (f c') := by
  induction hs with
  | here => exact .here _ _
  | step hb _ ih => exact .step hb ih

/-- The program returned, with what it returned. -/
def Prog.result : Prog S α → Option α
  | .pure a => some a
  | .call _ _ => none

theorem Prog.eq_pure_of_result {p : Prog S α} {a : α} (h : p.result = some a) : p = .pure a := by
  cases p with
  | pure b => rw [Option.some.inj h]
  | call o k => cases h

/-- A run whose program has a result has returned it. -/
theorem Steps.returned {p q : Prog S α} {w w' : W} {tr : List (Event S W)} {a : α}
    (hs : Steps B p w tr q w') (h : q.result = some a) : Steps B p w tr (.pure a) w' :=
  Prog.eq_pure_of_result h ▸ hs

theorem Prog.outcome_evaluate (answer : (o : S.Op) → S.Reply o) (p : Prog S α) :
    p.Outcome (p.evaluate answer) := by
  induction p with
  | pure a => exact .pure a
  | call o k ih => exact .call (ih _)

end Effects
