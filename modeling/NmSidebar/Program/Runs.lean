import NmSidebar.Program.Safety

/-!
# Runs that can be looked back on

A run of a sequence whose first part could not have issued some operation has passed the first
part when the operation is issued. A program that is safe with the events so far as its ledger
may speak of them in its postcondition.
-/

namespace Effects

variable {S : Signature} {α β W : Type} {B : Behaviour S W} {A : S.Op → W → Prop}

/-! ## Passing the first part of a sequence -/

/-- An operation that the first part may not issue is issued by the second: the first part has
returned before, with its postcondition. -/
theorem Steps.passed {p : Prog S α} {f : α → Prog S β} {Q : α → W → Prop} {w w' : W}
    {pre post : List (Event S W)} {e : Event S W} {q : Prog S β}
    (hs : Steps B (p >>= f) w (pre ++ e :: post) q w') (hp : Safe B A p Q w)
    (he : ¬A e.op e.before) :
    ∃ a w₁ first rest, pre = first ++ rest ∧ Steps B p w first (.pure a) w₁ ∧ Q a w₁ ∧
      Steps B (f a) w₁ (rest ++ e :: post) q w' := by
  induction p generalizing w pre with
  | pure a => exact ⟨a, w, [], pre, rfl, .here _ w, hp, hs⟩
  | call o k ih =>
    rw [Prog.call_bind] at hs
    cases pre with
    | nil =>
      -- the first event is the first part's own
      cases hs
      exact absurd hp.1 he
    | cons e' pre =>
      cases hs with
      | step hb hs =>
        obtain ⟨a, w₁, first, rest, rfl, hfirst, hq, hrest⟩ := ih _ hs (hp.2 _ _ hb)
        exact ⟨a, w₁, _ :: first, rest, rfl, .step hb hfirst, hq, hrest⟩

/-- A program that returned has issued nothing more. -/
theorem Steps.of_pure {a : α} {w w' : W} {tr : List (Event S W)} {q : Prog S α}
    (hs : Steps B (.pure a) w tr q w') : tr = [] ∧ q = .pure a ∧ w' = w := by
  cases hs
  exact ⟨rfl, rfl, rfl⟩

/-- A program that returned at once returned its value. -/
theorem Steps.of_return {a b : α} {w w' : W} {tr : List (Event S W)}
    (hs : Steps B (Pure.pure a) w tr (.pure b) w') : tr = [] ∧ b = a ∧ w' = w := by
  obtain ⟨rfl, heq, rfl⟩ := Steps.of_pure hs
  cases heq
  exact ⟨rfl, rfl, rfl⟩

/-- A run of one request is its one event. -/
theorem Steps.of_request {o : S.Op} {r : S.Reply o} {w w' : W} {tr : List (Event S W)}
    (hs : Steps B (Prog.request o) w tr (.pure r) w') : tr = [⟨o, w, r, w'⟩] ∧ B o w r w' := by
  cases hs with
  | step hb hs =>
    obtain ⟨rfl, heq, rfl⟩ := hs.of_pure
    cases heq
    exact ⟨rfl, hb⟩

/-- A run that begins with a request begins with its event. -/
theorem Steps.request_inv {o : S.Op} {f : S.Reply o → Prog S β} {w w' : W}
    {tr : List (Event S W)} {b : β} (hs : Steps B (Prog.request o >>= f) w tr (.pure b) w') :
    ∃ r w₁ tr', tr = ⟨o, w, r, w₁⟩ :: tr' ∧ B o w r w₁ ∧ Steps B (f r) w₁ tr' (.pure b) w' := by
  cases hs with
  | step hb hs => exact ⟨_, _, _, rfl, hb, hs⟩

/-- A run of a program that stands for another one, operation by operation: what each operation
stands for gives the events `emb` of one event of the other program. -/
theorem Steps.of_interpret {T : Signature} {C : Behaviour T W}
    {h : (o : T.Op) → Prog S (T.Reply o)} (emb : Event T W → List (Event S W))
    (hrun : ∀ o w tr r w', Steps B (h o) w tr (.pure r) w' → tr = emb ⟨o, w, r, w'⟩ ∧ C o w r w')
    {p : Prog T α} {w w' : W} {tr : List (Event S W)} {a : α}
    (hs : Steps B (p.interpret h) w tr (.pure a) w') :
    ∃ tr', tr = tr'.flatMap emb ∧ Steps C p w tr' (.pure a) w' := by
  induction p generalizing w tr with
  | pure b =>
    obtain ⟨rfl, heq, rfl⟩ := hs.of_pure
    cases heq
    exact ⟨[], rfl, .here _ _⟩
  | call o k ih =>
    obtain ⟨r, w₁, tr₁, tr₂, rfl, hfirst, hrest⟩ := hs.bind_inv
    obtain ⟨rfl, hb⟩ := hrun o w tr₁ r w₁ hfirst
    obtain ⟨tr', rfl, hs'⟩ := ih r hrest
    exact ⟨_, rfl, .step hb hs'⟩

/-- Nothing that is kept by every event of a run is changed by the run. -/
theorem Steps.kept {γ : Type} {g : W → γ} {p q : Prog S α} {w w' : W} {tr : List (Event S W)}
    (hs : Steps B p w tr q w') (hkeep : ∀ e ∈ tr, g e.after = g e.before) : g w' = g w := by
  induction hs with
  | here => rfl
  | step hb _ ih =>
    rw [ih fun e he => hkeep e (List.mem_cons_of_mem _ he)]
    exact hkeep _ List.mem_cons_self

/-! ## The events so far -/

/-- The behaviour over worlds with the events that led to them. -/
abbrev Behaviour.logged (B : Behaviour S W) : Behaviour S (W × List (Event S W)) :=
  B.monitor fun tr e => tr ++ [e]

/-- The log of a run that returned is the run's events. -/
theorem Safe.logged {A : S.Op → W × List (Event S W) → Prop} {p : Prog S α}
    {Q : α → W × List (Event S W) → Prop} {w w' : W} {tr : List (Event S W)} {a : α}
    (h : Safe B.logged A p Q (w, [])) (hs : Steps B p w tr (.pure a) w') : Q a (w', tr) := by
  have hlog := (h.monitored hs).2 a rfl
  rw [List.foldl_append_eq_append, List.nil_append, ← List.flatMap_def,
    List.flatMap_singleton'] at hlog
  exact hlog

/-- A condition that holds wherever an operation is issued, and of every return, holds wherever
a run is stopped. The log of the run is its events. -/
theorem Safe.anywhere {I : W × List (Event S W) → Prop} {p q : Prog S α}
    {Q : α → W × List (Event S W) → Prop} {w w' : W} {tr : List (Event S W)}
    (h : Safe B.logged (fun _ s => I s) p Q (w, [])) (hQ : ∀ a s, Q a s → I s)
    (hs : Steps B p w tr q w') : I (w', tr) := by
  obtain ⟨tr', hs'⟩ := hs.monitor (fun tr e => tr ++ [e]) []
  rw [List.foldl_append_eq_append, List.nil_append, ← List.flatMap_def,
    List.flatMap_singleton'] at hs'
  have hrest := h.rest hs'
  cases q with
  | pure a => exact hQ a _ hrest
  | call o k => exact hrest.1

end Effects
