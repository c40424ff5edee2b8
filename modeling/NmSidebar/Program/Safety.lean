import NmSidebar.Program.Basic

/-!
# Runs of programs and safety at every step

A behaviour says which replies an operation may get in a world and which world it leaves.
`Steps` are the runs of a program up to any point, so a crash is a run that is not continued.
`Safe` is the matching proof rule: every operation is issued only where its issue condition
holds, and a returned value satisfies the postcondition.
-/

namespace Effects

variable {S : Signature} {α β W L : Type}

/-- `B o w r w'`: in world `w` the operation `o` may reply `r` and leave the world `w'`. -/
abbrev Behaviour (S : Signature) (W : Type) := (o : S.Op) → W → S.Reply o → W → Prop

/-- One answered operation. -/
structure Event (S : Signature) (W : Type) where
  /-- The operation issued. -/
  op : S.Op
  /-- The world it was issued in. -/
  before : W
  /-- The reply it got. -/
  reply : S.Reply op
  /-- The world it left. -/
  after : W

/-- `Steps B p w tr q w'`: from `w`, the program `p` ran the operations `tr` and reached the
world `w'` with `q` still to be run. -/
inductive Steps (B : Behaviour S W) : Prog S α → W → List (Event S W) → Prog S α → W → Prop
  | here (p : Prog S α) (w : W) : Steps B p w [] p w
  | step {o : S.Op} {k : S.Reply o → Prog S α} {w w₁ w' : W} {r : S.Reply o}
      {tr : List (Event S W)} {q : Prog S α} (hb : B o w r w₁) (hs : Steps B (k r) w₁ tr q w') :
      Steps B (.call o k) w (⟨o, w, r, w₁⟩ :: tr) q w'

/-! ## Safety -/

/-- From `w`, every operation of the program is issued where `A` allows it, and a return value
satisfies `Q`. -/
def Safe (B : Behaviour S W) (A : S.Op → W → Prop) : Prog S α → (α → W → Prop) → W → Prop
  | .pure a, Q, w => Q a w
  | .call o k, Q, w => A o w ∧ ∀ r w', B o w r w' → Safe B A (k r) Q w'

variable {B : Behaviour S W} {A A' : S.Op → W → Prop}

@[simp] theorem safe_pure {a : α} {Q : α → W → Prop} {w : W} :
    Safe B A (.pure a) Q w ↔ Q a w := Iff.rfl

@[simp] theorem safe_return {a : α} {Q : α → W → Prop} {w : W} :
    Safe B A (Pure.pure a) Q w ↔ Q a w := Iff.rfl

theorem safe_call {o : S.Op} {k : S.Reply o → Prog S α} {Q : α → W → Prop} {w : W} :
    Safe B A (.call o k) Q w ↔ A o w ∧ ∀ r w', B o w r w' → Safe B A (k r) Q w' := Iff.rfl

theorem safe_request {o : S.Op} {Q : S.Reply o → W → Prop} {w : W} :
    Safe B A (Prog.request o) Q w ↔ A o w ∧ ∀ r w', B o w r w' → Q r w' := Iff.rfl

/-- A sequence is safe when its first part is, with the safety of the rest as postcondition. -/
theorem safe_bind {p : Prog S α} {f : α → Prog S β} {Q : β → W → Prop} {w : W} :
    Safe B A (p >>= f) Q w ↔ Safe B A p (fun a w' => Safe B A (f a) Q w') w := by
  induction p generalizing w with
  | pure a => rfl
  | call o k ih =>
    rw [Prog.call_bind, safe_call, safe_call]
    simp only [ih]

/-- Weakening of the postcondition. -/
theorem Safe.mono {p : Prog S α} {Q Q' : α → W → Prop} {w : W} (h : Safe B A p Q w)
    (hQ : ∀ a w', Q a w' → Q' a w') : Safe B A p Q' w := by
  induction p generalizing w with
  | pure a => exact hQ a w h
  | call o k ih => exact ⟨h.1, fun r w' hb => ih r (h.2 r w' hb)⟩

/-- Weakening of the issue condition. -/
theorem Safe.weaken {p : Prog S α} {Q : α → W → Prop} {w : W} (h : Safe B A p Q w)
    (hA : ∀ o w', A o w' → A' o w') : Safe B A' p Q w := by
  induction p generalizing w with
  | pure a => exact h
  | call o k ih => exact ⟨hA o w h.1, fun r w' hb => ih r (h.2 r w' hb)⟩

/-- Two safety statements about one program hold together. -/
theorem Safe.and {p : Prog S α} {Q Q' : α → W → Prop} {w : W} (h : Safe B A p Q w)
    (h' : Safe B A' p Q' w) :
    Safe B (fun o w => A o w ∧ A' o w) p (fun a w' => Q a w' ∧ Q' a w') w := by
  induction p generalizing w with
  | pure a => exact ⟨h, h'⟩
  | call o k ih =>
    exact ⟨⟨h.1, h'.1⟩, fun r w' hb => ih r (h.2 r w' hb) (h'.2 r w' hb)⟩

/-- The rule of sequence, with the first part's postcondition named. -/
theorem Safe.bind {p : Prog S α} {f : α → Prog S β} {R : α → W → Prop} {Q : β → W → Prop}
    {w : W} (hp : Safe B A p R w) (hf : ∀ a w', R a w' → Safe B A (f a) Q w') :
    Safe B A (p >>= f) Q w :=
  safe_bind.mpr (hp.mono hf)

/-- A program whose operations all keep `I`, and may be issued wherever `I` holds, is safe with
`I` as postcondition. -/
theorem Safe.of_uses {P : S.Op → Prop} {I : W → Prop} {p : Prog S α} {w : W} (hp : p.Uses P)
    (hw : I w) (hA : ∀ o w, P o → I w → A o w)
    (hI : ∀ o w r w', P o → I w → B o w r w' → I w') :
    Safe B A p (fun _ w' => I w') w := by
  induction p generalizing w with
  | pure a => exact hw
  | call o k ih =>
    exact ⟨hA o w hp.1 hw, fun r w' hb => ih r (hp.2 r) (hI o w r w' hp.1 hw hb)⟩

/-- What a program returns on the replies of a behaviour holds of its runs. -/
theorem Safe.of_returnsOn {R : (o : S.Op) → S.Reply o → Prop} {Q : α → Prop} {p : Prog S α} {w : W}
    (hp : p.ReturnsOn R Q) (hA : ∀ o w, A o w) (hB : ∀ o w r w', B o w r w' → R o r) :
    Safe B A p (fun a _ => Q a) w := by
  induction p generalizing w with
  | pure a => exact hp
  | call o k ih => exact ⟨hA o w, fun r w' hb => ih r (hp r (hB o w r w' hb))⟩

/-- Adds to a postcondition an invariant that every permitted operation keeps. -/
theorem Safe.keep {I : W → Prop} {p : Prog S α} {Q : α → W → Prop} {w : W}
    (h : Safe B A p Q w) (hw : I w) (hI : ∀ o w r w', A o w → I w → B o w r w' → I w') :
    Safe B (fun o w => A o w ∧ I w) p (fun a w' => Q a w' ∧ I w') w := by
  induction p generalizing w with
  | pure a => exact ⟨h, hw⟩
  | call o k ih =>
    exact ⟨⟨h.1, hw⟩, fun r w' hb => ih r (h.2 r w' hb) (hI o w r w' h.1 hw hb)⟩

/-- The rule of contracts. Where every function `h o` keeps the contract `C` of its name `o`, a
program that is safe with the contracts is safe with the functions in their place. -/
theorem Safe.interpret {T : Signature} {C : Behaviour T W} {P : T.Op → W → Prop}
    {h : (o : T.Op) → Prog S (T.Reply o)}
    (hspec : ∀ o w, P o w → Safe B A (h o) (fun r w' => C o w r w') w)
    {p : Prog T α} {Q : α → W → Prop} {w : W} (hp : Safe C P p Q w) :
    Safe B A (p.interpret h) Q w := by
  induction p generalizing w with
  | pure a => exact hp
  | call o k ih => exact (hspec o w hp.1).bind fun r w' hc => ih r (hp.2 r w' hc)

/-! ## What safety says about runs -/

/-- Every operation of a run was issued where the issue condition holds. -/
theorem Safe.issued {p q : Prog S α} {Q : α → W → Prop} {w w' : W} {tr : List (Event S W)}
    (h : Safe B A p Q w) (hs : Steps B p w tr q w') : ∀ e ∈ tr, A e.op e.before := by
  induction hs with
  | here p w => simp
  | step hb _ ih =>
    intro e he
    rcases List.mem_cons.mp he with rfl | he
    · exact h.1
    · exact ih (h.2 _ _ hb) e he

/-- What is left of a safe program is safe from the world it reached. -/
theorem Safe.rest {p q : Prog S α} {Q : α → W → Prop} {w w' : W} {tr : List (Event S W)}
    (h : Safe B A p Q w) (hs : Steps B p w tr q w') : Safe B A q Q w' := by
  induction hs with
  | here p w => exact h
  | step hb _ ih => exact ih (h.2 _ _ hb)

/-- A run that returned satisfies the postcondition. -/
theorem Safe.returned {p : Prog S α} {Q : α → W → Prop} {w w' : W} {tr : List (Event S W)}
    {a : α} (h : Safe B A p Q w) (hs : Steps B p w tr (.pure a) w') : Q a w' :=
  h.rest hs

/-- An invariant that every permitted operation keeps holds wherever a run is stopped. -/
theorem Safe.invariant {I : W → Prop} {p q : Prog S α} {Q : α → W → Prop} {w w' : W}
    {tr : List (Event S W)} (h : Safe B A p Q w) (hw : I w)
    (hI : ∀ o w r w', A o w → I w → B o w r w' → I w') (hs : Steps B p w tr q w') : I w' := by
  induction hs with
  | here p w => exact hw
  | step hb _ ih => exact ih (h.2 _ _ hb) (hI _ _ _ _ h.1 hw hb)

/-! ## Ledgers

A ledger is computed from the events of a run. It constrains nothing: it only gives later
statements a name for what has happened so far. -/

/-- The behaviour over worlds paired with a ledger that `upd` advances at every event. -/
def Behaviour.monitor (B : Behaviour S W) (upd : L → Event S W → L) : Behaviour S (W × L) :=
  fun o s r s' => B o s.1 r s'.1 ∧ s'.2 = upd s.2 ⟨o, s.1, r, s'.1⟩

/-- Every run carries any ledger along. -/
theorem Steps.monitor (upd : L → Event S W → L) (l : L) {p q : Prog S α} {w w' : W}
    {tr : List (Event S W)} (hs : Steps B p w tr q w') :
    ∃ tr', Steps (B.monitor upd) p (w, l) tr' q (w', tr.foldl upd l) := by
  induction hs generalizing l with
  | here p w => exact ⟨[], .here p (w, l)⟩
  | @step o k w w₁ w' r tr q hb _ ih =>
    obtain ⟨tr', hs'⟩ := ih (upd l ⟨o, w, r, w₁⟩)
    exact ⟨_, .step ⟨hb, rfl⟩ hs'⟩

/-- Safety over a ledger, read on the plain run: each operation was issued where the issue
condition holds of its world and of the ledger of the events before it. -/
theorem Safe.monitored {upd : L → Event S W → L} {A : S.Op → W × L → Prop} {p q : Prog S α}
    {Q : α → W × L → Prop} {w w' : W} {l : L} {tr : List (Event S W)}
    (h : Safe (B.monitor upd) A p Q (w, l)) (hs : Steps B p w tr q w') :
    (∀ pre e post, tr = pre ++ e :: post → A e.op (e.before, pre.foldl upd l)) ∧
      ∀ a, q = .pure a → Q a (w', tr.foldl upd l) := by
  induction hs generalizing l with
  | here p w =>
    refine ⟨fun pre e post hpre => by simp at hpre, ?_⟩
    rintro a rfl
    exact h
  | @step o k w w₁ w' r tr q hb _ ih =>
    obtain ⟨hev, hret⟩ := ih (h.2 r (w₁, upd l ⟨o, w, r, w₁⟩) ⟨hb, rfl⟩)
    refine ⟨fun pre e post hpre => ?_, hret⟩
    cases pre with
    | nil =>
      obtain ⟨rfl, rfl⟩ := List.cons.inj hpre
      exact h.1
    | cons e' pre =>
      obtain ⟨rfl, rfl⟩ := List.cons.inj hpre
      exact hev pre e post rfl

/-- Safety over a ledger says as much without it. -/
theorem Safe.unmonitor {upd : L → Event S W → L} {A : S.Op → W × L → Prop}
    {A' : S.Op → W → Prop} {p : Prog S α} {Q : α → W × L → Prop} {Q' : α → W → Prop} {w : W} {l : L}
    (h : Safe (B.monitor upd) A p Q (w, l)) (hA : ∀ o s, A o s → A' o s.1)
    (hQ : ∀ a s, Q a s → Q' a s.1) : Safe B A' p Q' w := by
  induction p generalizing w l with
  | pure a => exact hQ a (w, l) h
  | call o k ih =>
    exact ⟨hA o (w, l) h.1, fun r w' hb => ih r (h.2 r (w', upd l ⟨o, w, r, w'⟩) ⟨hb, rfl⟩)⟩

/-- Safety without a ledger holds with any. -/
theorem Safe.monitor {upd : L → Event S W → L} {p : Prog S α} {Q : α → W → Prop} {w : W}
    (h : Safe B A p Q w) (l : L) :
    Safe (B.monitor upd) (fun o s => A o s.1) p (fun a s => Q a s.1) (w, l) := by
  induction p generalizing w l with
  | pure a => exact h
  | call o k ih => exact ⟨h.1, fun r s hb => ih r (h.2 r s.1 hb.1) s.2⟩

/-- Every operation of a safe program is also one of those the program can issue. -/
theorem Safe.uses {P : S.Op → Prop} {p : Prog S α} {Q : α → W → Prop} {w : W}
    (h : Safe B A p Q w) (hp : p.Uses P) : Safe B (fun o w => A o w ∧ P o) p Q w := by
  induction p generalizing w with
  | pure a => exact h
  | call o k ih => exact ⟨⟨h.1, hp.1⟩, fun r w' hb => ih r (h.2 r w' hb) (hp.2 r)⟩

/-- A run of what another run has left continues it. -/
theorem Steps.append {p q q' : Prog S α} {w w' w'' : W} {tr tr' : List (Event S W)}
    (hs : Steps B p w tr q w') (hs' : Steps B q w' tr' q' w'') :
    Steps B p w (tr ++ tr') q' w'' := by
  induction hs with
  | here => exact hs'
  | step hb _ ih => exact .step hb (ih hs')

/-- A run of the first part of a sequence is a run of the sequence. -/
theorem Steps.bind_append {p q : Prog S α} {w w' : W} {tr : List (Event S W)}
    (hs : Steps B p w tr q w') (f : α → Prog S β) : Steps B (p >>= f) w tr (q >>= f) w' := by
  induction hs with
  | here => exact .here _ _
  | step hb _ ih => exact .step hb ih

/-- A run of a sequence that returned is a run of its first part and one of the rest. -/
theorem Steps.bind_inv {p : Prog S α} {f : α → Prog S β} {w w' : W} {tr : List (Event S W)} {b : β}
    (hs : Steps B (p >>= f) w tr (.pure b) w') :
    ∃ a w₁ tr₁ tr₂, tr = tr₁ ++ tr₂ ∧ Steps B p w tr₁ (.pure a) w₁ ∧
      Steps B (f a) w₁ tr₂ (.pure b) w' := by
  induction p generalizing w tr with
  | pure a => exact ⟨a, w, [], tr, rfl, .here _ w, hs⟩
  | call o k ih =>
    rw [Prog.call_bind] at hs
    cases hs with
    | step hb hs =>
      obtain ⟨a, w₁, tr₁, tr₂, rfl, hp, hf⟩ := ih _ hs
      exact ⟨a, w₁, _ :: tr₁, tr₂, rfl, .step hb hp, hf⟩

/-- A run issues only what the program can issue. -/
theorem Prog.Uses.issued {P : S.Op → Prop} {p q : Prog S α} {w w' : W} {tr : List (Event S W)}
    (hp : p.Uses P) (hs : Steps B p w tr q w') : ∀ e ∈ tr, P e.op := by
  have hsafe := @Safe.of_uses S α W B (fun o _ => P o) P (fun _ => True) p w hp trivial
    (fun _ _ ho _ => ho) fun _ _ _ _ _ _ _ => trivial
  exact hsafe.issued hs

/-- A run in which every reply satisfies `R` is one of the behaviour that replies so. -/
theorem Steps.restrict {R : (o : S.Op) → S.Reply o → Prop} {p q : Prog S α} {w w' : W}
    {tr : List (Event S W)} (hs : Steps B p w tr q w') (hR : ∀ e ∈ tr, R e.op e.reply) :
    Steps (fun o w r w' => B o w r w' ∧ R o r) p w tr q w' := by
  induction hs with
  | here p w => exact .here p w
  | step hb _ ih =>
    exact .step ⟨hb, hR _ List.mem_cons_self⟩ (ih fun e he => hR e (List.mem_cons_of_mem _ he))

/-- A run returns only what the program can return. -/
theorem Prog.Returns.returned {Q : α → Prop} {p q : Prog S α} {w w' : W} {tr : List (Event S W)}
    (hp : p.Returns Q) (hs : Steps B p w tr q w') : q.Returns Q := by
  induction hs with
  | here => exact hp
  | step _ _ ih => exact ih (hp _)

/-- A run whose replies satisfy `R` returns only what the program can return on them. -/
theorem Prog.ReturnsOn.returned {R : (o : S.Op) → S.Reply o → Prop} {Q : α → Prop}
    {p q : Prog S α} {w w' : W} {tr : List (Event S W)} (hp : p.ReturnsOn R Q)
    (hs : Steps B p w tr q w') (hR : ∀ e ∈ tr, R e.op e.reply) : q.ReturnsOn R Q := by
  induction hs with
  | here => exact hp
  | step _ _ ih =>
    exact ih (hp _ (hR _ List.mem_cons_self)) fun e he => hR e (List.mem_cons_of_mem _ he)

/-- Every event of a run is one that the behaviour allows. -/
theorem Steps.behaved {p q : Prog S α} {w w' : W} {tr : List (Event S W)}
    (hs : Steps B p w tr q w') : ∀ e ∈ tr, B e.op e.before e.reply e.after := by
  induction hs with
  | here => simp
  | step hb _ ih =>
    intro e he
    rcases List.mem_cons.mp he with rfl | he
    · exact hb
    · exact ih e he

/-! ## Histories of commands -/

/-- A history: commands run one after the other, each stopped anywhere, each after `boot` reset
what does not outlive a command. The list holds each command's events. -/
inductive History (B : Behaviour S W) (boot : W → W → Prop) (C : Prog S α → Prop) :
    W → List (List (Event S W)) → W → Prop
  | start (w : W) : History B boot C w [] w
  | command {w w₁ w₂ w₃ : W} {runs : List (List (Event S W))} {p q : Prog S α}
      {tr : List (Event S W)} (hh : History B boot C w runs w₁) (hb : boot w₁ w₂) (hp : C p)
      (hs : Steps B p w₂ tr q w₃) : History B boot C w (runs ++ [tr]) w₃

/-- The rule for histories: an invariant that `boot` keeps, from which every command is safe,
and that every permitted operation keeps, holds at the end of every history, and every
operation of it was issued where the issue condition and the invariant hold. -/
theorem History.invariant {boot : W → W → Prop} {C : Prog S α → Prop} {I : W → Prop}
    (hboot : ∀ w w', I w → boot w w' → I w')
    (hsafe : ∀ p w, C p → I w → Safe B A p (fun _ _ => True) w)
    (hkeep : ∀ o w r w', A o w → I w → B o w r w' → I w')
    {w w' : W} {runs : List (List (Event S W))} (hh : History B boot C w runs w') (hw : I w) :
    I w' ∧ ∀ tr ∈ runs, ∀ e ∈ tr, A e.op e.before ∧ I e.before := by
  induction hh with
  | start => exact ⟨hw, by simp⟩
  | @command w₁ w₂ w₃ runs p q tr _ hb hp hs ih =>
    obtain ⟨hw₁, hold⟩ := ih
    have hw₂ := hboot _ _ hw₁ hb
    have hp' := hsafe p _ hp hw₂
    refine ⟨hp'.invariant hw₂ hkeep hs, fun t ht e he => ?_⟩
    rcases List.mem_append.mp ht with ht | ht
    · exact hold t ht e he
    · obtain rfl := List.mem_singleton.mp ht
      exact (hp'.keep hw₂ hkeep).issued hs e he

/-- A history's ledger: `reset` at the start of every command and `upd` at every event. -/
def ledgerAfter (upd : L → Event S W → L) (reset : L → L) (l : L)
    (runs : List (List (Event S W))) : L :=
  runs.foldl (fun l tr => tr.foldl upd (reset l)) l

theorem ledgerAfter_concat (upd : L → Event S W → L) (reset : L → L) (l : L)
    (runs : List (List (Event S W))) (tr : List (Event S W)) :
    ledgerAfter upd reset l (runs ++ [tr]) = tr.foldl upd (reset (ledgerAfter upd reset l runs)) := by
  simp only [ledgerAfter, List.foldl_append, List.foldl_cons, List.foldl_nil]

/-- The rule for histories with a ledger. At every event `e` of a history, with the commands
`before` it and the events `pre` of its own command, the issue condition and the invariant hold
of the world and the ledger that the event found. -/
theorem History.monitored {boot : W → W → Prop} {C : Prog S α → Prop}
    {upd : L → Event S W → L} {reset : L → L} {A : S.Op → W × L → Prop} {I J : W × L → Prop}
    (hboot : ∀ w w' l, I (w, l) → boot w w' → J (w', reset l)) (hJ : ∀ s, J s → I s)
    (hsafe : ∀ p s, C p → J s → Safe (B.monitor upd) A p (fun _ _ => True) s)
    (hkeep : ∀ o s r s', A o s → I s → B.monitor upd o s r s' → I s')
    {w w' : W} {l : L} {runs : List (List (Event S W))} (hh : History B boot C w runs w')
    (hw : I (w, l)) :
    I (w', ledgerAfter upd reset l runs) ∧
      ∀ before tr after pre e post, runs = before ++ tr :: after → tr = pre ++ e :: post →
        let s := (e.before, pre.foldl upd (reset (ledgerAfter upd reset l before)))
        (A e.op s ∧ I s) ∧ B e.op e.before e.reply e.after := by
  induction hh with
  | start => exact ⟨hw, fun before tr after _ _ _ hruns => by simp at hruns⟩
  | @command w₁ w₂ w₃ runs p q tr _ hb hp hs ih =>
    obtain ⟨hw₁, hold⟩ := ih
    have hw₂ := hboot _ _ _ hw₁ hb
    have hp' := (hsafe p _ hp hw₂).keep (hJ _ hw₂) hkeep
    obtain ⟨tr', hs'⟩ := hs.monitor upd (reset (ledgerAfter upd reset l runs))
    refine ⟨?_, fun before tr₁ after pre e post hruns htr => ?_⟩
    · rw [ledgerAfter_concat]
      exact hp'.invariant (hJ _ hw₂) (fun o s r s' h => hkeep o s r s' h.1) hs'
    · rcases List.eq_nil_or_concat after with rfl | ⟨after, last, rfl⟩
      · -- the event belongs to the last command
        obtain ⟨rfl, rfl⟩ := List.append_inj' hruns rfl |>.imp id fun h => (List.cons.inj h).1
        refine ⟨(hp'.monitored hs).1 pre e post htr, hs.behaved e ?_⟩
        rw [htr]
        simp
      · refine hold before tr₁ after pre e post ?_ htr
        rw [List.concat_eq_append, ← List.cons_append, ← List.append_assoc] at hruns
        exact (List.append_inj' hruns rfl).1

end Effects
