import NmSidebar.Program.Safety

/-!
# Loops

A loop repeats its body until a round ends it. It is looked at for a number of rounds, and has no
result where it would still go on; what is shown for every number of rounds holds of a loop that
may go on for ever.
-/

namespace Effects

variable {S : Signature} {α β σ W : Type}

/-- What a round of a loop comes to. -/
inductive Round (σ α : Type) where
  | again (s : σ)
  | done (a : α)

/-- Repeats the body until a round ends the loop, for so many rounds. -/
def Prog.loop (body : σ → OptionT (Prog S) (Round σ α)) : ℕ → σ → OptionT (Prog S) α
  | 0, _ => failure
  | rounds + 1, s => do
    match ← body s with
    | .again s => Prog.loop body rounds s
    | .done a => return a

/-- Repeats a call as long as it is interrupted. -/
def Prog.retry (interrupted : α → Bool) (p : Prog S α) (rounds : ℕ) : OptionT (Prog S) α :=
  Prog.loop (fun _ : Unit => do
    let a ← p
    if interrupted a then return .again () else return .done a) rounds ()

/-! ## What holds where a program ends -/

variable {B : Behaviour S W} {A : S.Op → W → Prop}

/-- From `w`, every operation is issued where `A` allows it, and if the program ends, then with a
value that satisfies the postcondition. -/
def Ends (B : Behaviour S W) (A : S.Op → W → Prop) (p : OptionT (Prog S) α) (Q : α → W → Prop)
    (w : W) : Prop :=
  Safe B A p.run (fun a w' => ∀ b ∈ a, Q b w') w

@[simp] theorem ends_return {a : α} {Q : α → W → Prop} {w : W} :
    Ends B A (Pure.pure a) Q w ↔ Q a w := by
  show (∀ b ∈ some a, Q b w) ↔ Q a w
  simp

@[simp] theorem ends_failure {Q : α → W → Prop} {w : W} : Ends B A failure Q w := by
  intro b hb
  exact absurd hb (by simp)

theorem ends_bind {p : OptionT (Prog S) α} {f : α → OptionT (Prog S) β} {Q : β → W → Prop}
    {w : W} : Ends B A (p >>= f) Q w ↔ Ends B A p (fun a w' => Ends B A (f a) Q w') w := by
  unfold Ends
  rw [OptionT.run_bind, Option.elimM, safe_bind]
  constructor
  · refine fun h => h.mono fun a w' ha b hb => ?_
    obtain rfl : a = some b := hb
    exact ha
  · refine fun h => h.mono fun a w' ha => ?_
    cases a with
    | none => exact fun b hb => absurd hb (by simp)
    | some b => exact ha b rfl

theorem ends_lift {p : Prog S α} {Q : α → W → Prop} {w : W} :
    Ends B A (liftM p : OptionT (Prog S) α) Q w ↔ Safe B A p Q w := by
  show Safe B A (p >>= fun a => pure (some a)) _ w ↔ _
  rw [safe_bind]
  constructor
  · exact fun h => h.mono fun a w' ha => ha a rfl
  · refine fun h => h.mono fun a w' ha b hb => ?_
    obtain rfl : a = b := Option.some.inj hb
    exact ha

variable {p : OptionT (Prog S) α} {Q Q' : α → W → Prop} {w : W}

theorem Ends.mono (h : Ends B A p Q w) (hQ : ∀ a w', Q a w' → Q' a w') : Ends B A p Q' w :=
  Safe.mono h fun _ _ hs b hb => hQ b _ (hs b hb)

/-- The rule of sequence, with the first part's postcondition named. -/
theorem Ends.bind {f : α → OptionT (Prog S) β} {R : β → W → Prop} (hp : Ends B A p Q w)
    (hf : ∀ a w', Q a w' → Ends B A (f a) R w') : Ends B A (p >>= f) R w :=
  ends_bind.mpr (hp.mono hf)

/-- A program that always ends, and then another one. -/
theorem Safe.bindEnds {p : Prog S α} {f : α → OptionT (Prog S) β} {R : β → W → Prop}
    (hp : Safe B A p Q w) (hf : ∀ a w', Q a w' → Ends B A (f a) R w') :
    Ends B A ((liftM p : OptionT (Prog S) α) >>= f) R w :=
  (ends_lift.mpr hp).bind hf

theorem Ends.and (h : Ends B A p Q w) (h' : Ends B A p Q' w) :
    Ends B A p (fun a w' => Q a w' ∧ Q' a w') w :=
  ((Safe.and h h').mono fun _ _ hs b hb => ⟨hs.1 b hb, hs.2 b hb⟩).weaken fun _ _ ha => ha.1

/-! ## Loops -/

/-- The rule of invariants. Where every round keeps the invariant or ends the loop with the
postcondition, the loop ends with it. -/
theorem Ends.loop {body : σ → OptionT (Prog S) (Round σ α)} {I : σ → W → Prop}
    (hbody : ∀ s w, I s w → Ends B A (body s) (fun round w' =>
      (∀ s', round = .again s' → I s' w') ∧ ∀ a, round = .done a → Q a w') w)
    (rounds : ℕ) {s : σ} (h : I s w) : Ends B A (Prog.loop body rounds s) Q w := by
  induction rounds generalizing s w with
  | zero => exact ends_failure
  | succ rounds ih =>
    refine (hbody s w h).bind fun round w' hround => ?_
    cases round with
    | again s' => exact ih (hround.1 s' rfl)
    | done a => exact ends_return.mpr (hround.2 a rfl)

/-- A call that is repeated ends where it is not interrupted, if what is promised before it still
holds after an interruption. -/
theorem Ends.retry {interrupted : α → Bool} {p : Prog S α} {I : W → Prop}
    (hp : ∀ w, I w → Safe B A p (fun a w' =>
      (interrupted a = true → I w') ∧ (interrupted a = false → Q a w')) w)
    (rounds : ℕ) (h : I w) : Ends B A (Prog.retry interrupted p rounds) Q w := by
  refine Ends.loop (I := fun _ => I) (fun _ w h => ?_) rounds h
  refine (hp w h).bindEnds fun a w' ha => ?_
  split
  · rename_i hagain
    refine ends_return.mpr ⟨fun _ _ => ha.1 hagain, fun _ hdone => absurd hdone (by simp)⟩
  · rename_i hdone
    refine ends_return.mpr ⟨fun _ hagain => absurd hagain (by simp), fun b hb => ?_⟩
    cases hb
    exact ha.2 (Bool.eq_false_iff.mpr hdone)

end Effects
