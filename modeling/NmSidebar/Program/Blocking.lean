import Mathlib.Data.Finset.Insert
import Mathlib.Data.Finset.Erase

/-!
# Wishes that owners may block

Something is wished to be seen, and owners may block it for a time. An owner may also defer: the
wish is taken back, and the owner owes it until its release. A wish that was dismissed stays
dismissed, and an owner that defers gives the wish back.
-/

namespace Blocking

variable {ω : Type*} [DecidableEq ω]

/-- What is wished, who blocks it, and who owes it. -/
structure Wish (ω : Type*) where
  owners : Finset ω
  requested : Bool
  deferred : Finset ω

/-- What happens to a wish. -/
inductive Act (ω : Type*) where
  | request
  | dismiss
  | block (owner : ω)
  | defer (owner : ω)
  | release (owner : ω)
  | abandon (owner : ω)

/-- The acts that an owner's debt outlives. -/
def Act.Spares (o : ω) : Act ω → Prop
  | .request => False
  | .dismiss => False
  | .block o' => o' ≠ o
  | .defer _ => True
  | .release o' => o' ≠ o
  | .abandon o' => o' ≠ o

/-- The acts that do not take a wish back. -/
def Act.Grants : Act ω → Prop
  | .dismiss => False
  | .defer _ => False
  | _ => True

namespace Wish

/-- The wish is granted. -/
def Shown (w : Wish ω) : Prop := w.requested = true ∧ w.owners = ∅

instance (w : Wish ω) : Decidable w.Shown := inferInstanceAs (Decidable (_ ∧ _))

/-- One act. -/
def step (w : Wish ω) : Act ω → Wish ω
  | .request => { w with requested := true, deferred := ∅ }
  | .dismiss => { w with requested := false, deferred := ∅ }
  | .block o => { w with owners := insert o w.owners, deferred := w.deferred.erase o }
  | .defer o =>
    { owners := w.owners.erase o
      requested := false
      deferred := if w.requested then insert o w.deferred else w.deferred }
  | .release o =>
    { owners := w.owners.erase o
      requested := w.requested || decide (o ∈ w.deferred)
      deferred := w.deferred.erase o }
  | .abandon o => { w with owners := w.owners.erase o, deferred := w.deferred.erase o }

/-- Acts one after the other. -/
def run (w : Wish ω) (acts : List (Act ω)) : Wish ω := acts.foldl step w

@[simp]
theorem run_nil (w : Wish ω) : w.run [] = w := rfl

@[simp]
theorem run_cons (w : Wish ω) (a : Act ω) (acts : List (Act ω)) :
    w.run (a :: acts) = (w.step a).run acts := rfl

/-- What every act keeps is kept by all of them. -/
theorem run_induction {P : Wish ω → Prop} {acts : List (Act ω)} {w : Wish ω}
    (hstep : ∀ w, ∀ a ∈ acts, P w → P (w.step a)) (hw : P w) : P (w.run acts) := by
  induction acts generalizing w with
  | nil => exact hw
  | cons a acts ih =>
    rw [run_cons]
    apply ih
    · intro w b hb
      exact hstep w b (List.mem_cons_of_mem _ hb)
    · exact hstep w a List.mem_cons_self hw

/-! ## A dismissed wish -/

/-- Nothing is wished, and nobody owes a wish. -/
def Dismissed (w : Wish ω) : Prop := w.requested = false ∧ w.deferred = ∅

theorem dismissed_dismiss (w : Wish ω) : (w.step .dismiss).Dismissed := ⟨rfl, rfl⟩

/-- Only a request ends the dismissal. -/
theorem dismissed_step {w : Wish ω} {a : Act ω} (hw : w.Dismissed) (ha : a ≠ .request) :
    (w.step a).Dismissed := by
  obtain ⟨hrequested, hdeferred⟩ := hw
  cases a with
  | request => exact absurd rfl ha
  | dismiss => exact ⟨rfl, rfl⟩
  | block o => exact ⟨hrequested, by simp [step, hdeferred]⟩
  | defer o => exact ⟨rfl, by simp [step, hrequested, hdeferred]⟩
  | release o => exact ⟨by simp [step, hrequested, hdeferred], by simp [step, hdeferred]⟩
  | abandon o => exact ⟨hrequested, by simp [step, hdeferred]⟩

/-! ## A wish that is owed -/

/-- The owner goes on to owe the wish. -/
theorem owed_step {w : Wish ω} {o : ω} {a : Act ω} (ho : o ∈ w.deferred) (ha : a.Spares o) :
    o ∈ (w.step a).deferred := by
  cases a with
  | request => exact absurd ha id
  | dismiss => exact absurd ha id
  | block o' => exact Finset.mem_erase.2 ⟨Ne.symm ha, ho⟩
  | defer o' =>
    cases hr : w.requested with
    | false => simpa [step, hr] using ho
    | true => simpa [step, hr] using Or.inr ho
  | release o' => exact Finset.mem_erase.2 ⟨Ne.symm ha, ho⟩
  | abandon o' => exact Finset.mem_erase.2 ⟨Ne.symm ha, ho⟩

/-- With its release the owner gives the wish back. -/
theorem requested_release {w : Wish ω} {o : ω} (ho : o ∈ w.deferred) :
    (w.step (.release o)).requested = true := by
  simp [step, ho]

/-! ## A wish that is held -/

/-- The wish is held. -/
theorem requested_step {w : Wish ω} {a : Act ω} (hw : w.requested = true) (ha : a.Grants) :
    (w.step a).requested = true := by
  cases a with
  | request => rfl
  | dismiss => exact absurd ha id
  | block o => exact hw
  | defer o => exact absurd ha id
  | release o => simp [step, hw]
  | abandon o => exact hw

end Wish

end Blocking
