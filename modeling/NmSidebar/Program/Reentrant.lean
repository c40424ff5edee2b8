import Mathlib.Logic.Relation
import NmSidebar.Program.Safety

/-!
# Components that are called back into

A component calls out to its owner in the middle of its functions, and the owner may call the
component again before it returns. So a function goes on from a state that its callout has given
back and that may differ from the one it called out in. What the owner and the main loop do is not
determined: every interleaving is a run of the machine below.
-/

namespace Effects

/-- A callout with the component's state, or an operation of the system. -/
inductive Callout (σ Note : Type) (S : Signature) where
  | note (n : Note) (s : σ)
  | sys (o : S.Op)

/-- The operation is one of the system. -/
def Callout.IsSystem {σ Note : Type} {S : Signature} : Callout σ Note S → Prop
  | .note .. => False
  | .sys _ => True

/-- A callout gives the state back that the owner's calls have left. -/
abbrev calloutSig (σ Note : Type) (S : Signature) : Signature where
  Op := Callout σ Note S
  Reply
    | .note _ _ => σ
    | .sys o => S.Reply o

/-- What may be called and what may happen. -/
structure Component (σ Note : Type) (S : Signature) where
  /-- The component's functions that are entered from outside. -/
  Entry : Type
  /-- What they do. -/
  run : Entry → σ → Prog (calloutSig σ Note S) σ
  /-- The states in which an entry can occur. -/
  enabled : Entry → σ → Prop
  /-- The owner may make the entry from within a callout. The others occur in the main loop. -/
  nested : Entry → Prop
  /-- The replies the system gives. -/
  answers : (o : S.Op) → S.Reply o → Prop
  /-- The states a component is made in. -/
  init : σ → Prop

variable {σ Note α β : Type} {S : Signature}

/-- A callout. -/
def callout (n : Note) (s : σ) : Prog (calloutSig σ Note S) σ := .call (.note n s) .pure

/-- An operation of the system. -/
def system (o : S.Op) : Prog (calloutSig σ Note S) (S.Reply o) := .call (.sys o) .pure

namespace Component

/-! ## Runs -/

/-- Who is in control: the component's environment, or one of its functions. -/
inductive Control (σ Note : Type) (S : Signature) where
  | waiting (s : σ)
  | running (p : Prog (calloutSig σ Note S) σ)

/-- A state of the machine: below the control, the functions that wait for a callout to return. -/
structure Config (σ Note : Type) (S : Signature) where
  control : Control σ Note S
  stack : List (σ → Prog (calloutSig σ Note S) σ)

/-- The component in the state `s`, between callbacks. -/
def Config.idle (s : σ) : Config σ Note S := ⟨.waiting s, []⟩

variable (C : Component σ Note S)

/-- One step of the component or of its environment. -/
inductive Step : Config σ Note S → Config σ Note S → Prop
  | enter {e : C.Entry} {s : σ} {stack} (henabled : C.enabled e s)
      (hnested : stack ≠ [] → C.nested e) :
      Step ⟨.waiting s, stack⟩ ⟨.running (C.run e s), stack⟩
  | callout {n : Note} {s : σ} {k : σ → Prog (calloutSig σ Note S) σ} {stack} :
      Step ⟨.running (.call (.note n s) k), stack⟩ ⟨.waiting s, k :: stack⟩
  | answer {o : S.Op} {r : S.Reply o} {k : S.Reply o → Prog (calloutSig σ Note S) σ} {stack}
      (hanswers : C.answers o r) :
      Step ⟨.running (.call (.sys o) k), stack⟩ ⟨.running (k r), stack⟩
  | finish {s : σ} {stack} : Step ⟨.running (.pure s), stack⟩ ⟨.waiting s, stack⟩
  | resume {s : σ} {k : σ → Prog (calloutSig σ Note S) σ} {stack} :
      Step ⟨.waiting s, k :: stack⟩ ⟨.running (k s), stack⟩

/-- The states the machine can come to. -/
def Reachable (c : Config σ Note S) : Prop :=
  ∃ s, C.init s ∧ Relation.ReflTransGen C.Step (.idle s) c

/-! ## What a function does by itself -/

/-- Between its callouts a function relates the states by `R`. -/
def Frames (R : σ → σ → Prop) (state : α → σ) (s : σ) : Prog (calloutSig σ Note S) α → Prop
  | .pure a => R s (state a)
  | .call (.note _ s') k => R s s' ∧ ∀ s'', Frames R state s'' (k s'')
  | .call (.sys o) k => ∀ r, C.answers o r → Frames R state s (k r)

/-- A function makes no callout and returns what satisfies `Q`, whatever the system replies. -/
def Completes (p : Prog (calloutSig σ Note S) α) (Q : α → Prop) : Prop :=
  match p with
  | .pure a => Q a
  | .call (.note ..) _ => False
  | .call (.sys o) k => ∀ r, C.answers o r → Completes (k r) Q

variable {C}

theorem Completes.mono {p : Prog (calloutSig σ Note S) α} {Q Q' : α → Prop} (hp : C.Completes p Q)
    (h : ∀ a, Q a → Q' a) : C.Completes p Q' := by
  induction p with
  | pure a => exact h a hp
  | call o k ih =>
    cases o with
    | note n s => exact hp
    | sys o => exact fun r hr => ih r (hp r hr)

theorem Completes.bind {p : Prog (calloutSig σ Note S) α} {f : α → Prog (calloutSig σ Note S) β}
    {Q : α → Prop} {Q' : β → Prop} (hp : C.Completes p Q) (hf : ∀ a, Q a → C.Completes (f a) Q') :
    C.Completes (p >>= f) Q' := by
  induction p with
  | pure a => exact hf a hp
  | call o k ih =>
    cases o with
    | note n s => exact hp.elim
    | sys o => exact fun r hr => ih r (hp r hr)

variable {R : σ → σ → Prop} {state : α → σ} {state' : β → σ} {s s' : σ}
  {p : Prog (calloutSig σ Note S) α}

theorem Frames.head (htrans : ∀ s s' s'', R s s' → R s' s'' → R s s'') (hs : R s s')
    (hp : C.Frames R state s' p) : C.Frames R state s p := by
  induction p with
  | pure a => exact htrans _ _ _ hs hp
  | call o k ih =>
    cases o with
    | note n t => exact ⟨htrans _ _ _ hs hp.1, hp.2⟩
    | sys o => exact fun r hr => ih r (hp r hr)

/-- The rule of sequence for what a function does by itself. -/
theorem Frames.bind (htrans : ∀ s s' s'', R s s' → R s' s'' → R s s'')
    {f : α → Prog (calloutSig σ Note S) β} (hp : C.Frames R state s p)
    (hf : ∀ a, C.Frames R state' (state a) (f a)) : C.Frames R state' s (p >>= f) := by
  induction p generalizing s with
  | pure a => exact (hf a).head htrans hp
  | call o k ih =>
    cases o with
    | note n t => exact ⟨hp.1, fun s'' => ih s'' (hp.2 s'')⟩
    | sys o => exact fun r hr => ih r (hp r hr)

theorem Completes.frames (hp : C.Completes p fun a => R s (state a)) : C.Frames R state s p := by
  induction p with
  | pure a => exact hp
  | call o k ih =>
    cases o with
    | note n t => exact hp.elim
    | sys o => exact fun r hr => ih r (hp r hr)

/-! ## Runs in which nobody calls back -/

/-- What a function comes to where its callouts return at once and each operation of the system gets
one fixed reply. -/
def quietly (answer : (o : S.Op) → S.Reply o) : Prog (calloutSig σ Note S) α → α
  | .pure a => a
  | .call (.note _ s) k => quietly answer (k s)
  | .call (.sys o) k => quietly answer (k (answer o))

theorem quietly_steps {answer : (o : S.Op) → S.Reply o} (hanswer : ∀ o, C.answers o (answer o))
    (p : Prog (calloutSig σ Note S) σ) (stack : List (σ → Prog (calloutSig σ Note S) σ)) :
    Relation.ReflTransGen C.Step ⟨.running p, stack⟩ ⟨.waiting (quietly answer p), stack⟩ := by
  induction p with
  | pure s => exact .single .finish
  | call o k ih =>
    cases o with
    | note n s => exact .head .callout (.head .resume (ih s))
    | sys o => exact .head (.answer (hanswer o)) (ih (answer o))

/-- An entry in which nobody calls back. -/
theorem Reachable.quietly {answer : (o : S.Op) → S.Reply o} (hanswer : ∀ o, C.answers o (answer o))
    {s : σ} (hs : C.Reachable (.idle s)) {e : C.Entry} (henabled : C.enabled e s) :
    C.Reachable (.idle (quietly answer (C.run e s))) := by
  obtain ⟨s₀, hinit, hsteps⟩ := hs
  refine ⟨s₀, hinit, hsteps.trans (.head (.enter henabled fun h => absurd rfl h) ?_)⟩
  exact quietly_steps hanswer _ _

/-- How far a function comes without a callout, where the system replies to some operations. -/
def approach (answer : (o : S.Op) → Option (S.Reply o)) :
    Prog (calloutSig σ Note S) α → Prog (calloutSig σ Note S) α
  | .pure a => .pure a
  | .call (.note n s) k => .call (.note n s) k
  | .call (.sys o) k =>
    match answer o with
    | none => .call (.sys o) k
    | some r => approach answer (k r)

/-- What a function has returned. -/
def returned : Prog (calloutSig σ Note S) α → Option α
  | .pure a => some a
  | .call .. => none

/-- How far a function comes after a callout that returns at once. -/
def past (answer : (o : S.Op) → Option (S.Reply o)) :
    Prog (calloutSig σ Note S) α → Prog (calloutSig σ Note S) α
  | .pure a => .pure a
  | .call (.note _ s) k => approach answer (k s)
  | .call (.sys o) k => .call (.sys o) k

/-- The callout that a function makes. -/
def noted : Prog (calloutSig σ Note S) α → Option Note
  | .call (.note n _) _ => some n
  | .call (.sys _) _ | .pure _ => none

/-- The function stands at the callout. -/
theorem exists_of_noted {p : Prog (calloutSig σ Note S) α} {n : Note} (hp : noted p = some n) :
    ∃ s k, p = .call (.note n s) k := by
  cases p with
  | pure a => cases hp
  | call o k =>
    cases o with
    | note n' s =>
      obtain rfl : n' = n := Option.some.inj hp
      exact ⟨s, k, rfl⟩
    | sys o => cases hp

theorem approach_steps {answer : (o : S.Op) → Option (S.Reply o)}
    (hanswer : ∀ o r, answer o = some r → C.answers o r) (p : Prog (calloutSig σ Note S) σ)
    (stack : List (σ → Prog (calloutSig σ Note S) σ)) :
    Relation.ReflTransGen C.Step ⟨.running p, stack⟩ ⟨.running (approach answer p), stack⟩ := by
  induction p with
  | pure s => exact .refl
  | call o k ih =>
    cases o with
    | note n s => exact .refl
    | sys o =>
      unfold approach
      split
      · exact .refl
      · rename_i r hr
        exact .head (.answer (hanswer o r hr)) (ih r)

/-- An entry that comes to a point. -/
theorem Reachable.approach {answer : (o : S.Op) → Option (S.Reply o)}
    (hanswer : ∀ o r, answer o = some r → C.answers o r) {s : σ} (hs : C.Reachable (.idle s))
    {e : C.Entry} (henabled : C.enabled e s) :
    C.Reachable ⟨.running (Component.approach answer (C.run e s)), []⟩ := by
  obtain ⟨s₀, hinit, hsteps⟩ := hs
  refine ⟨s₀, hinit, hsteps.trans (.head (.enter henabled fun h => absurd rfl h) ?_)⟩
  exact approach_steps hanswer _ _

/-- A callout that returns at once. -/
theorem Reachable.past {answer : (o : S.Op) → Option (S.Reply o)}
    (hanswer : ∀ o r, answer o = some r → C.answers o r) {p : Prog (calloutSig σ Note S) σ}
    {stack : List (σ → Prog (calloutSig σ Note S) σ)} (hp : C.Reachable ⟨.running p, stack⟩) :
    C.Reachable ⟨.running (Component.past answer p), stack⟩ := by
  cases p with
  | pure a => exact hp
  | call o k =>
    cases o with
    | note n s =>
      obtain ⟨s₀, hinit, hsteps⟩ := hp
      refine ⟨s₀, hinit, ((hsteps.tail .callout).tail .resume).trans ?_⟩
      exact approach_steps hanswer _ _
    | sys o => exact hp

/-- An entry that has returned, or has not been made. -/
theorem Reachable.returned {answer : (o : S.Op) → Option (S.Reply o)}
    (hanswer : ∀ o r, answer o = some r → C.answers o r) {s : σ} (hs : C.Reachable (.idle s))
    {e : C.Entry} (henabled : C.enabled e s) : C.Reachable
      (.idle ((Component.returned (Component.approach answer (C.run e s))).getD s)) := by
  have hran := hs.approach hanswer henabled
  cases hp : Component.approach answer (C.run e s) with
  | pure s' =>
    rw [hp] at hran
    obtain ⟨s₀, hinit, hsteps⟩ := hran
    exact ⟨s₀, hinit, hsteps.tail .finish⟩
  | call o k => exact hs

/-- A component as it is made. -/
theorem Reachable.start {s : σ} (hs : C.init s) : C.Reachable (.idle s) := ⟨s, hs, .refl⟩

end Component

/-! ## The rule for invariants -/

/-- What is promised of a component. -/
structure Contract (σ Note : Type) where
  /-- Holds wherever the environment is in control. -/
  invariant : σ → Prop
  /-- What the owner's calls from within a callout do to the state. -/
  rely : σ → σ → Prop
  /-- Holds where a callout is made. -/
  issues : Note → σ → Prop
  /-- Holds between callbacks too. -/
  settled : σ → Prop

namespace Contract

/-- What a callout gives back, and what the system replies. -/
def replies (K : Contract σ Note) (C : Component σ Note S) : Behaviour (calloutSig σ Note S) Unit
  | .note _ s, _, s', _ => K.invariant s' ∧ K.rely s s'
  | .sys o, _, r, _ => C.answers o r

/-- Where a callout may be made. -/
def permits (K : Contract σ Note) : Callout σ Note S → Unit → Prop
  | .note n s, _ => K.invariant s ∧ K.issues n s
  | .sys _, _ => True

/-- A function calls out only where the contract allows it and leaves what satisfies `Q`. -/
def Maintains (K : Contract σ Note) (C : Component σ Note S) (p : Prog (calloutSig σ Note S) α)
    (Q : α → Prop) : Prop :=
  Safe (K.replies C) K.permits p (fun a _ => Q a) ()

variable {K : Contract σ Note} {C : Component σ Note S} {p : Prog (calloutSig σ Note S) α}
  {Q Q' : α → Prop}

@[simp] theorem maintains_pure {a : α} :
    K.Maintains C (.pure a : Prog (calloutSig σ Note S) α) Q ↔ Q a := Iff.rfl

theorem maintains_note {n : Note} {s : σ} {k : σ → Prog (calloutSig σ Note S) α} :
    K.Maintains C (.call (.note n s) k) Q ↔ (K.invariant s ∧ K.issues n s) ∧
      ∀ s', K.invariant s' ∧ K.rely s s' → K.Maintains C (k s') Q :=
  and_congr_right fun _ => ⟨fun h s' hs' => h s' () hs', fun h s' _ hs' => h s' hs'⟩

theorem maintains_sys {o : S.Op} {k : S.Reply o → Prog (calloutSig σ Note S) α} :
    K.Maintains C (.call (.sys o) k) Q ↔ ∀ r, C.answers o r → K.Maintains C (k r) Q :=
  ⟨fun h r hr => h.2 r () hr, fun h => ⟨trivial, fun r _ hr => h r hr⟩⟩

theorem maintains_callout {n : Note} {s : σ} {Q : σ → Prop} :
    K.Maintains C (callout n s) Q ↔ (K.invariant s ∧ K.issues n s) ∧
      ∀ s', K.invariant s' ∧ K.rely s s' → Q s' :=
  maintains_note

theorem maintains_system {o : S.Op} {Q : S.Reply o → Prop} :
    K.Maintains C (system o) Q ↔ ∀ r, C.answers o r → Q r :=
  maintains_sys

theorem Maintains.mono (hp : K.Maintains C p Q) (h : ∀ a, Q a → Q' a) : K.Maintains C p Q' :=
  Safe.mono hp fun a _ => h a

/-- The rule of sequence. -/
theorem Maintains.bind {Q' : β → Prop} {f : α → Prog (calloutSig σ Note S) β}
    (hp : K.Maintains C p Q) (hf : ∀ a, Q a → K.Maintains C (f a) Q') :
    K.Maintains C (p >>= f) Q' :=
  Safe.bind hp fun a _ => hf a

/-- A function that makes no callout keeps every contract. -/
theorem maintains_of_completes (hp : C.Completes p Q) : K.Maintains C p Q := by
  induction p with
  | pure a => exact hp
  | call o k ih =>
    cases o with
    | note n s => exact hp.elim
    | sys o => exact maintains_sys.mpr fun r hr => ih r (hp r hr)

/-- A function that makes no callout leaves what it returns. -/
theorem maintains_of_returns (hp : p.Returns Q) (hquiet : p.Uses Callout.IsSystem) :
    K.Maintains C p Q := by
  induction p with
  | pure a => exact hp
  | call o k ih =>
    cases o with
    | note n s => exact hquiet.1.elim
    | sys o => exact maintains_sys.mpr fun r _ => ih r (hp r) (hquiet.2 r)

/-! ## Runs keep the contract -/

/-- Every entry keeps the contract: one that is nested goes on from any state the invariant holds
in and leaves what its owner relies on, and one between callbacks leaves a settled state. -/
structure KeptBy (K : Contract σ Note) (C : Component σ Note S) : Prop where
  refl : ∀ s, K.rely s s
  trans : ∀ s s' s'', K.rely s s' → K.rely s' s'' → K.rely s s''
  init : ∀ s, C.init s → K.invariant s ∧ K.settled s
  nested : ∀ e s, C.nested e → C.enabled e s → K.invariant s →
    K.Maintains C (C.run e s) fun s' => K.invariant s' ∧ K.rely s s'
  settled : ∀ e s, C.enabled e s → K.invariant s → K.settled s →
    K.Maintains C (C.run e s) fun s' => K.invariant s' ∧ K.settled s'

/-- The functions that wait can go on from the state `s`. -/
def Resumes (K : Contract σ Note) (C : Component σ Note S) :
    List (σ → Prog (calloutSig σ Note S) σ) → σ → Prop
  | [], s => K.settled s
  | k :: stack, s => ∃ (s₀ : σ) (Q : σ → Prop), K.rely s₀ s ∧
      (∀ s', K.invariant s' ∧ K.rely s₀ s' → K.Maintains C (k s') Q) ∧
      ∀ s', Q s' → K.invariant s' ∧ K.Resumes C stack s'

/-- The machine is in a state the contract allows. -/
def Allows (K : Contract σ Note) (C : Component σ Note S) : Component.Config σ Note S → Prop
  | ⟨.waiting s, stack⟩ => K.invariant s ∧ K.Resumes C stack s
  | ⟨.running p, stack⟩ => ∃ Q : σ → Prop, K.Maintains C p Q ∧
      ∀ s, Q s → K.invariant s ∧ K.Resumes C stack s

/-- One step of the machine keeps the contract. -/
theorem KeptBy.step (h : K.KeptBy C) {c c' : Component.Config σ Note S} (hstep : C.Step c c')
    (hc : K.Allows C c) : K.Allows C c' := by
  cases hstep with
  | @enter e s stack henabled hnested =>
    obtain ⟨hinvariant, hresumes⟩ := hc
    cases stack with
    | nil => exact ⟨_, h.settled e s henabled hinvariant hresumes, fun s' hs' => hs'⟩
    | cons k stack =>
      have hentry := h.nested e s (hnested (List.cons_ne_nil k stack)) henabled hinvariant
      refine ⟨_, hentry, ?_⟩
      rintro s' ⟨hs', hrely⟩
      obtain ⟨s₀, Q, hrely₀, hk, hQ⟩ := hresumes
      exact ⟨hs', s₀, Q, h.trans s₀ s s' hrely₀ hrely, hk, hQ⟩
  | @callout n s k stack =>
    obtain ⟨Q, hp, hQ⟩ := hc
    obtain ⟨⟨hinvariant, -⟩, hk⟩ := maintains_note.mp hp
    exact ⟨hinvariant, s, Q, h.refl s, hk, hQ⟩
  | @answer o r k stack hanswers =>
    obtain ⟨Q, hp, hQ⟩ := hc
    exact ⟨Q, maintains_sys.mp hp r hanswers, hQ⟩
  | finish =>
    obtain ⟨Q, hp, hQ⟩ := hc
    exact hQ _ hp
  | @resume s k stack =>
    obtain ⟨hinvariant, s₀, Q, hrely, hk, hQ⟩ := hc
    exact ⟨Q, hk s ⟨hinvariant, hrely⟩, hQ⟩

/-- Every run keeps the contract. -/
theorem KeptBy.reachable (h : K.KeptBy C) {c : Component.Config σ Note S} (hc : C.Reachable c) :
    K.Allows C c := by
  obtain ⟨s, hinit, hsteps⟩ := hc
  induction hsteps with
  | refl => exact h.init s hinit
  | tail _ hstep ih => exact h.step hstep ih

/-- Wherever the environment is in control the invariant holds. -/
theorem KeptBy.waiting (h : K.KeptBy C) {s : σ} {stack : List (σ → Prog (calloutSig σ Note S) σ)}
    (hc : C.Reachable ⟨.waiting s, stack⟩) : K.invariant s :=
  (h.reachable hc).1

/-- Between callbacks the component is settled. -/
theorem KeptBy.idle (h : K.KeptBy C) {s : σ} (hc : C.Reachable (.idle s)) :
    K.invariant s ∧ K.settled s :=
  h.reachable hc

/-- A callout is made only where the contract allows it. -/
theorem KeptBy.callout (h : K.KeptBy C) {n : Note} {s : σ}
    {k : σ → Prog (calloutSig σ Note S) σ} {stack : List (σ → Prog (calloutSig σ Note S) σ)}
    (hc : C.Reachable ⟨.running (.call (.note n s) k), stack⟩) : K.issues n s := by
  obtain ⟨Q, hp, -⟩ := h.reachable hc
  exact (maintains_note.mp hp).1.2

end Contract

end Effects
