import Mathlib.Tactic.Common
import Mathlib.Data.Nat.Notation

/-!
# Programs that issue operations

A program over a signature either returns a value or issues one operation and continues with
the reply. What an operation does is not part of the program: it is given later, by a
behaviour (`Program/Safety.lean`) or by an interpretation into another signature.
-/

namespace Effects

/-- The operations a program may issue, and the type of the reply to each. -/
structure Signature where
  /-- The operations. -/
  Op : Type
  /-- The reply an operation is answered with. -/
  Reply : Op → Type

/-- A program over `S` that returns an `α`. -/
inductive Prog (S : Signature) (α : Type) : Type where
  | pure (a : α)
  | call (o : S.Op) (k : S.Reply o → Prog S α)

variable {S T : Signature} {α β γ : Type}

namespace Prog

/-- Sequencing: the continuation takes over where the first program returns. -/
protected def bind : Prog S α → (α → Prog S β) → Prog S β
  | .pure a, f => f a
  | .call o k, f => .call o fun r => (k r).bind f

instance : Monad (Prog S) where
  pure := Prog.pure
  bind := Prog.bind

@[simp] theorem pure_eq (a : α) : (Pure.pure a : Prog S α) = Prog.pure a := rfl

@[simp] theorem pure_bind (a : α) (f : α → Prog S β) : (Prog.pure a >>= f) = f a := rfl

@[simp] theorem call_bind (o : S.Op) (k : S.Reply o → Prog S α) (f : α → Prog S β) :
    (Prog.call o k >>= f) = Prog.call o fun r => k r >>= f := rfl

/-- Returning the value unchanged is no step at all. -/
theorem bind_pure_id (p : Prog S α) : p.bind Prog.pure = p := by
  induction p with
  | pure a => rfl
  | call o k ih => simp only [Prog.bind, ih]

/-- Sequencing is associative. -/
theorem bind_assoc' (p : Prog S α) (f : α → Prog S β) (g : β → Prog S γ) :
    (p.bind f).bind g = p.bind fun a => (f a).bind g := by
  induction p with
  | pure a => rfl
  | call o k ih => simp only [Prog.bind, ih]

instance : LawfulMonad (Prog S) :=
  LawfulMonad.mk' (Prog S) (fun p => bind_pure_id p) (fun _ _ => rfl) bind_assoc'

/-- The program that issues one operation and returns its reply. -/
def request (o : S.Op) : Prog S (S.Reply o) := .call o .pure

/-- Runs a program by replacing every operation with a program over another signature. -/
def interpret (h : (o : S.Op) → Prog T (S.Reply o)) : Prog S α → Prog T α
  | .pure a => .pure a
  | .call o k => h o >>= fun r => (k r).interpret h

/-! ## The operations a program can issue -/

/-- Every operation the program can issue, on any replies, satisfies `P`. -/
def Uses (P : S.Op → Prop) : Prog S α → Prop
  | .pure _ => True
  | .call o k => P o ∧ ∀ r, (k r).Uses P

@[simp] theorem uses_pure {P : S.Op → Prop} (a : α) : (Prog.pure a : Prog S α).Uses P := trivial

@[simp] theorem uses_request {P : S.Op → Prop} (o : S.Op) : (request o).Uses P ↔ P o :=
  ⟨fun h => h.1, fun h => ⟨h, fun _ => trivial⟩⟩

/-- A sequence issues only what its two parts issue. -/
theorem Uses.bind {P : S.Op → Prop} {p : Prog S α} {f : α → Prog S β}
    (hp : p.Uses P) (hf : ∀ a, (f a).Uses P) : (p >>= f).Uses P := by
  induction p with
  | pure a => exact hf a
  | call o k ih => exact ⟨hp.1, fun r => ih r (hp.2 r)⟩

/-- A larger set of operations may be used in place of a smaller one. -/
theorem Uses.mono {P P' : S.Op → Prop} {p : Prog S α} (hp : p.Uses P) (h : ∀ o, P o → P' o) :
    p.Uses P' := by
  induction p with
  | pure a => trivial
  | call o k ih => exact ⟨h o hp.1, fun r => ih r (hp.2 r)⟩

/-! ## The values a program can return -/

/-- Every value the program can return, on any replies, satisfies `Q`. -/
def Returns (Q : α → Prop) : Prog S α → Prop
  | .pure a => Q a
  | .call _ k => ∀ r, (k r).Returns Q

/-- Every program returns something. -/
theorem returns_any (p : Prog S α) : p.Returns fun _ => True := by
  induction p with
  | pure a => trivial
  | call o k ih => exact ih

/-- A sequence returns what its second part returns after the first. -/
theorem Returns.bind {Q : α → Prop} {R : β → Prop} {p : Prog S α} {f : α → Prog S β}
    (hp : p.Returns Q) (hf : ∀ a, Q a → (f a).Returns R) : (p >>= f).Returns R := by
  induction p with
  | pure a => exact hf a hp
  | call o k ih => exact fun r => ih r (hp r)

/-- What a sequence returns is what its second part returns after the first. -/
theorem returns_bind {Q : β → Prop} {p : Prog S α} {f : α → Prog S β} :
    (p >>= f).Returns Q ↔ p.Returns fun a => (f a).Returns Q := by
  induction p with
  | pure a => rfl
  | call o k ih => exact forall_congr' ih

@[simp] theorem returns_pure {Q : α → Prop} (a : α) : (Prog.pure a : Prog S α).Returns Q ↔ Q a :=
  Iff.rfl

@[simp] theorem returns_request {o : S.Op} {Q : S.Reply o → Prop} :
    (request o).Returns Q ↔ ∀ r, Q r := Iff.rfl

/-- A sequence issues only what its two parts issue, the second after what the first returns. -/
theorem Uses.bindReturns {P : S.Op → Prop} {Q : α → Prop} {p : Prog S α} {f : α → Prog S β}
    (hp : p.Uses P) (hq : p.Returns Q) (hf : ∀ a, Q a → (f a).Uses P) : (p >>= f).Uses P := by
  induction p with
  | pure a => exact hf a hq
  | call o k ih => exact ⟨hp.1, fun r => ih r (hp.2 r) (hq r)⟩

/-- Weakening of what is returned. -/
theorem Returns.mono {Q Q' : α → Prop} {p : Prog S α} (hp : p.Returns Q) (h : ∀ a, Q a → Q' a) :
    p.Returns Q' := by
  induction p with
  | pure a => exact h a hp
  | call o k ih => exact fun r => ih r (hp r)

/-- What a program returns satisfies both of two conditions that it satisfies. -/
theorem Returns.and {Q Q' : α → Prop} {p : Prog S α} (hp : p.Returns Q) (hp' : p.Returns Q') :
    p.Returns fun a => Q a ∧ Q' a := by
  induction p with
  | pure a => exact ⟨hp, hp'⟩
  | call o k ih => exact fun r => ih r (hp r) (hp' r)

/-- Every value the program can return, on replies that satisfy `R`, satisfies `Q`. -/
def ReturnsOn (R : (o : S.Op) → S.Reply o → Prop) (Q : α → Prop) : Prog S α → Prop
  | .pure a => Q a
  | .call o k => ∀ r, R o r → (k r).ReturnsOn R Q

/-- What holds on all replies holds on some. -/
theorem Returns.on {R : (o : S.Op) → S.Reply o → Prop} {Q : α → Prop} {p : Prog S α}
    (hp : p.Returns Q) : p.ReturnsOn R Q := by
  induction p with
  | pure a => exact hp
  | call o k ih => exact fun r _ => ih r (hp r)

/-- The rule of sequence on some replies. -/
theorem ReturnsOn.bind {R : (o : S.Op) → S.Reply o → Prop} {Q : α → Prop} {Q' : β → Prop}
    {p : Prog S α} {f : α → Prog S β} (hp : p.ReturnsOn R Q)
    (hf : ∀ a, Q a → (f a).ReturnsOn R Q') : (p >>= f).ReturnsOn R Q' := by
  induction p with
  | pure a => exact hf a hp
  | call o k ih => exact fun r hr => ih r (hp r hr)

/-- Weakening of what is returned on some replies. -/
theorem ReturnsOn.mono {R : (o : S.Op) → S.Reply o → Prop} {Q Q' : α → Prop} {p : Prog S α}
    (hp : p.ReturnsOn R Q) (h : ∀ a, Q a → Q' a) : p.ReturnsOn R Q' := by
  induction p with
  | pure a => exact h a hp
  | call o k ih => exact fun r hr => ih r (hp r hr)

/-- The values a program returns on replies that satisfy `R`. -/
inductive OutcomeOn (R : (o : S.Op) → S.Reply o → Prop) : Prog S α → α → Prop
  | pure (a : α) : OutcomeOn R (.pure a) a
  | call {o : S.Op} {k : S.Reply o → Prog S α} {r : S.Reply o} {a : α} (hr : R o r)
      (h : OutcomeOn R (k r) a) : OutcomeOn R (.call o k) a

/-- Such an outcome is one of the values the program returns on these replies. -/
theorem ReturnsOn.outcome {R : (o : S.Op) → S.Reply o → Prop} {Q : α → Prop} {p : Prog S α} {a : α}
    (hp : p.ReturnsOn R Q) (h : p.OutcomeOn R a) : Q a := by
  induction h with
  | pure a => exact hp
  | call hr _ ih => exact ih (hp _ hr)

/-- The value a program returns where every operation gets one fixed reply. -/
def evaluate (answer : (o : S.Op) → S.Reply o) : Prog S α → α
  | .pure a => a
  | .call o k => (k (answer o)).evaluate answer

theorem outcomeOn_evaluate {R : (o : S.Op) → S.Reply o → Prop} {answer : (o : S.Op) → S.Reply o}
    (hanswer : ∀ o, R o (answer o)) (p : Prog S α) : p.OutcomeOn R (p.evaluate answer) := by
  induction p with
  | pure a => exact .pure a
  | call o k ih => exact .call (hanswer o) (ih _)

/-- The values a program returns on some replies. -/
inductive Outcome : Prog S α → α → Prop
  | pure (a : α) : Outcome (.pure a) a
  | call {o : S.Op} {k : S.Reply o → Prog S α} {r : S.Reply o} {a : α} (h : Outcome (k r) a) :
      Outcome (.call o k) a

/-- An outcome is one of the values the program can return. -/
theorem Returns.outcome {Q : α → Prop} {p : Prog S α} {a : α} (hp : p.Returns Q)
    (h : p.Outcome a) : Q a := by
  induction h with
  | pure a => exact hp
  | call _ ih => exact ih (hp _)

end Prog

end Effects
