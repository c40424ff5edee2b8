import NmSidebar.Program.Reentrant

/-!
# Contracts that rest on others

A component that keeps one contract may owe a second one that speaks of less. The proof of the second
then takes the first for granted at every callout.
-/

namespace Effects

namespace Contract

variable {σ Note α β : Type} {S : Signature} {K K' : Contract σ Note} {C : Component σ Note S}
  {p : Prog (calloutSig σ Note S) α} {Q Q' : α → Prop}

/-- What two contracts promise together. -/
def and (K K' : Contract σ Note) : Contract σ Note where
  invariant s := K.invariant s ∧ K'.invariant s
  rely s s' := K.rely s s' ∧ K'.rely s s'
  issues n s := K.issues n s ∧ K'.issues n s
  settled s := K.settled s ∧ K'.settled s

/-- Where the second contract allows an operation, provided that the first does. -/
def permitsUnder (K K' : Contract σ Note) : Callout σ Note S → Unit → Prop
  | .note n s, _ => K.invariant s → K'.invariant s ∧ K'.issues n s
  | .sys _, _ => True

/-- A function calls out only where the second contract allows it and leaves what satisfies `Q`,
provided that the first contract is kept. -/
def MaintainsUnder (K K' : Contract σ Note) (C : Component σ Note S)
    (p : Prog (calloutSig σ Note S) α) (Q : α → Prop) : Prop :=
  Safe ((K.and K').replies C) (K.permitsUnder K') p (fun a _ => Q a) ()

@[simp] theorem maintainsUnder_pure {a : α} :
    K.MaintainsUnder K' C (.pure a : Prog (calloutSig σ Note S) α) Q ↔ Q a := Iff.rfl

theorem maintainsUnder_note {n : Note} {s : σ} {k : σ → Prog (calloutSig σ Note S) α} :
    K.MaintainsUnder K' C (.call (.note n s) k) Q ↔
      (K.invariant s → K'.invariant s ∧ K'.issues n s) ∧
      ∀ s', (K.and K').invariant s' ∧ (K.and K').rely s s' → K.MaintainsUnder K' C (k s') Q :=
  and_congr_right fun _ => ⟨fun h s' hs' => h s' () hs', fun h s' _ hs' => h s' hs'⟩

theorem maintainsUnder_sys {o : S.Op} {k : S.Reply o → Prog (calloutSig σ Note S) α} :
    K.MaintainsUnder K' C (.call (.sys o) k) Q ↔
      ∀ r, C.answers o r → K.MaintainsUnder K' C (k r) Q :=
  ⟨fun h r hr => h.2 r () hr, fun h => ⟨trivial, fun r _ hr => h r hr⟩⟩

theorem maintainsUnder_callout {n : Note} {s : σ} {Q : σ → Prop} :
    K.MaintainsUnder K' C (callout n s) Q ↔
      (K.invariant s → K'.invariant s ∧ K'.issues n s) ∧
      ∀ s', (K.and K').invariant s' ∧ (K.and K').rely s s' → Q s' :=
  maintainsUnder_note

theorem MaintainsUnder.mono (hp : K.MaintainsUnder K' C p Q) (h : ∀ a, Q a → Q' a) :
    K.MaintainsUnder K' C p Q' :=
  Safe.mono hp fun a _ => h a

/-- The rule of sequence. -/
theorem MaintainsUnder.bind {Q' : β → Prop} {f : α → Prog (calloutSig σ Note S) β}
    (hp : K.MaintainsUnder K' C p Q) (hf : ∀ a, Q a → K.MaintainsUnder K' C (f a) Q') :
    K.MaintainsUnder K' C (p >>= f) Q' :=
  Safe.bind hp fun a _ => hf a

/-- A function that keeps the first contract, and the second under it, keeps both. -/
theorem Maintains.and (hp : K.Maintains C p Q)
    (hp' : K.MaintainsUnder K' C p fun a => Q a → Q' a) :
    (K.and K').Maintains C p fun a => Q a ∧ Q' a := by
  induction p with
  | pure a => exact ⟨hp, hp' hp⟩
  | call o k ih =>
    cases o with
    | note n s =>
      obtain ⟨⟨hinvariant, hissues⟩, hk⟩ := maintains_note.mp hp
      obtain ⟨hcallout, hk'⟩ := maintainsUnder_note.mp hp'
      obtain ⟨hinvariant', hissues'⟩ := hcallout hinvariant
      refine maintains_note.mpr ⟨⟨⟨hinvariant, hinvariant'⟩, hissues, hissues'⟩, ?_⟩
      exact fun s' hs' => ih s' (hk s' ⟨hs'.1.1, hs'.2.1⟩) (hk' s' hs')
    | sys o =>
      exact maintains_sys.mpr fun r hr =>
        ih r (maintains_sys.mp hp r hr) (maintainsUnder_sys.mp hp' r hr)

/-- Every entry keeps the second contract where the first is kept. -/
structure KeptUnder (K K' : Contract σ Note) (C : Component σ Note S) : Prop where
  refl : ∀ s, K'.rely s s
  trans : ∀ s s' s'', K'.rely s s' → K'.rely s' s'' → K'.rely s s''
  init : ∀ s, C.init s → K'.invariant s ∧ K'.settled s
  nested : ∀ e s, C.nested e → C.enabled e s → K.invariant s → K'.invariant s →
    K.MaintainsUnder K' C (C.run e s) fun s' => K.invariant s' → K'.invariant s' ∧ K'.rely s s'
  settled : ∀ e s, C.enabled e s → K.invariant s → K'.invariant s → K.settled s → K'.settled s →
    K.MaintainsUnder K' C (C.run e s) fun s' => K.invariant s' → K'.invariant s' ∧ K'.settled s'

/-- A component that keeps a contract, and a second one under it, keeps both. -/
theorem KeptBy.and (h : K.KeptBy C) (h' : K.KeptUnder K' C) : (K.and K').KeptBy C where
  refl s := ⟨h.refl s, h'.refl s⟩
  trans s s' s'' hs hs' := ⟨h.trans s s' s'' hs.1 hs'.1, h'.trans s s' s'' hs.2 hs'.2⟩
  init s hs := ⟨⟨(h.init s hs).1, (h'.init s hs).1⟩, (h.init s hs).2, (h'.init s hs).2⟩
  nested e s he henabled hs := by
    have hfirst := h.nested e s he henabled hs.1
    have hsecond := h'.nested e s he henabled hs.1 hs.2
    refine (hfirst.and (hsecond.mono fun s' hs' hkept => hs' hkept.1)).mono fun s' hs' => ?_
    exact ⟨⟨hs'.1.1, hs'.2.1⟩, hs'.1.2, hs'.2.2⟩
  settled e s henabled hs hsettled := by
    have hfirst := h.settled e s henabled hs.1 hsettled.1
    have hsecond := h'.settled e s henabled hs.1 hs.2 hsettled.1 hsettled.2
    refine (hfirst.and (hsecond.mono fun s' hs' hkept => hs' hkept.1)).mono fun s' hs' => ?_
    exact ⟨⟨hs'.1.1, hs'.2.1⟩, hs'.1.2, hs'.2.2⟩

end Contract

end Effects
