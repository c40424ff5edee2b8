import NmSidebar.Program.Safety

/-!
# Ledgers

A ledger notes what the replies to a program's operations tell. `Records` is the proof rule for
what a program returns together with what its ledger then says, on any replies; it needs no world.
-/

namespace Effects

variable {S : Signature} {α β W L : Type}

namespace Prog

/-- Whatever the replies, the program returns a value and leaves a ledger that satisfy `Q`. -/
def Records (upd : L → (o : S.Op) → S.Reply o → L) : Prog S α → (α → L → Prop) → L → Prop
  | .pure a, Q, l => Q a l
  | .call o k, Q, l => ∀ r, (k r).Records upd Q (upd l o r)

variable {upd : L → (o : S.Op) → S.Reply o → L} {p : Prog S α} {l : L}

@[simp] theorem records_pure {a : α} {Q : α → L → Prop} :
    (Prog.pure a : Prog S α).Records upd Q l ↔ Q a l := Iff.rfl

@[simp] theorem records_request {o : S.Op} {Q : S.Reply o → L → Prop} :
    (request o).Records upd Q l ↔ ∀ r, Q r (upd l o r) := Iff.rfl

/-- What a sequence records is what its second part records after the first. -/
theorem records_bind {f : α → Prog S β} {Q : β → L → Prop} :
    (p >>= f).Records upd Q l ↔ p.Records upd (fun a l => (f a).Records upd Q l) l := by
  induction p generalizing l with
  | pure a => rfl
  | call o k ih => exact forall_congr' fun r => ih r

/-- Weakening of what is recorded. -/
theorem Records.mono {Q Q' : α → L → Prop} (hp : p.Records upd Q l) (h : ∀ a l, Q a l → Q' a l) :
    p.Records upd Q' l := by
  induction p generalizing l with
  | pure a => exact h a l hp
  | call o k ih => exact fun r => ih r (hp r)

/-- The rule of sequence. -/
theorem Records.bind {R : α → L → Prop} {Q : β → L → Prop} {f : α → Prog S β}
    (hp : p.Records upd R l) (hf : ∀ a l, R a l → (f a).Records upd Q l) :
    (p >>= f).Records upd Q l :=
  records_bind.mpr (hp.mono hf)

/-- Two things recorded of one program. -/
theorem Records.and {Q Q' : α → L → Prop} (hp : p.Records upd Q l) (hp' : p.Records upd Q' l) :
    p.Records upd (fun a l => Q a l ∧ Q' a l) l := by
  induction p generalizing l with
  | pure a => exact ⟨hp, hp'⟩
  | call o k ih => exact fun r => ih r (hp r) (hp' r)

/-- What a program returns holds whatever is recorded. -/
theorem Returns.records {Q : α → Prop} (hp : p.Returns Q) : p.Records upd (fun a _ => Q a) l := by
  induction p generalizing l with
  | pure a => exact hp
  | call o k ih => exact fun r => ih r (hp r)

/-- Operations that the ledger has no entries for leave it as it is. -/
theorem Uses.records {P : S.Op → Prop} (hp : p.Uses P) (hP : ∀ o, P o → ∀ l r, upd l o r = l) :
    p.Records upd (fun _ l' => l' = l) l := by
  induction p with
  | pure a => rfl
  | call o k ih =>
    intro r
    rw [hP o hp.1]
    exact ih r (hp.2 r)

/-- The ledger of a run, from one that was kept before it. -/
def entries (upd : L → (o : S.Op) → S.Reply o → L) (l : L) (tr : List (Event S W)) : L :=
  tr.foldl (fun l e => upd l e.op e.reply) l

@[simp] theorem entries_cons (e : Event S W) (tr : List (Event S W)) :
    entries upd l (e :: tr) = entries upd (upd l e.op e.reply) tr := rfl

@[simp] theorem entries_append (tr tr' : List (Event S W)) :
    entries upd l (tr ++ tr') = entries upd (entries upd l tr) tr' :=
  List.foldl_append

/-- What a program records holds of the ledger of its runs. -/
theorem Records.returned {Q : α → L → Prop} {B : Behaviour S W} {q : Prog S α} {w w' : W}
    {tr : List (Event S W)} (hp : p.Records upd Q l) (hs : Steps B p w tr q w') :
    q.Records upd Q (entries upd l tr) := by
  induction hs generalizing l with
  | here => exact hp
  | step _ _ ih => exact ih (hp _)

end Prog

/-- The behaviour that gives only replies that satisfy `R` and keeps the ledger. -/
def ledgerOf (R : (o : S.Op) → S.Reply o → Prop) (upd : L → (o : S.Op) → S.Reply o → L) :
    Behaviour S L :=
  fun o l r l' => R o r ∧ l' = upd l o r

/-- What a program records on any replies it records on some. -/
theorem Prog.Records.safe {R : (o : S.Op) → S.Reply o → Prop}
    {upd : L → (o : S.Op) → S.Reply o → L} {p : Prog S α} {Q : α → L → Prop} {l : L}
    (hp : p.Records upd Q l) : Safe (ledgerOf R upd) (fun _ _ => True) p Q l := by
  induction p generalizing l with
  | pure a => exact hp
  | call o k ih =>
    refine ⟨trivial, ?_⟩
    rintro r l' ⟨-, rfl⟩
    exact ih r (hp r)

/-- What a program returns on some replies. -/
theorem Prog.ReturnsOn.safe {R : (o : S.Op) → S.Reply o → Prop}
    {upd : L → (o : S.Op) → S.Reply o → L} {p : Prog S α} {Q : α → Prop} {l : L}
    (hp : p.ReturnsOn R Q) : Safe (ledgerOf R upd) (fun _ _ => True) p (fun a _ => Q a) l :=
  Safe.of_returnsOn hp (fun _ _ => trivial) fun _ _ _ _ h => h.1

/-- What a program records, with what it returns on some replies. -/
theorem Prog.Records.safeOn {R : (o : S.Op) → S.Reply o → Prop}
    {upd : L → (o : S.Op) → S.Reply o → L} {p : Prog S α} {Q : α → L → Prop} {Q' : α → Prop} {l : L}
    (hp : p.Records upd Q l) (hp' : p.ReturnsOn R Q') :
    Safe (ledgerOf R upd) (fun _ _ => True) p (fun a l => Q a l ∧ Q' a) l :=
  (hp.safe.and hp'.safe).weaken fun _ _ h => h.1

/-- A run whose replies satisfy `R`, as one of its ledger. -/
theorem Steps.toLedger {R D : (o : S.Op) → S.Reply o → Prop}
    {upd : L → (o : S.Op) → S.Reply o → L} {B : Behaviour S W} {I : W → Prop}
    (hkeep : ∀ o w r w', I w → D o r → B o w r w' → R o r ∧ I w') {p q : Prog S α} {w w' : W}
    {tr : List (Event S W)} (l : L) (hs : Steps B p w tr q w') (hw : I w)
    (hD : ∀ e ∈ tr, D e.op e.reply) :
    ∃ tr', Steps (ledgerOf R upd) p l tr' q (Prog.entries upd l tr) := by
  induction hs generalizing l with
  | here => exact ⟨[], .here _ _⟩
  | @step o k w w₁ _ r tr _ hb _ ih =>
    obtain ⟨hr, hw₁⟩ := hkeep o w r w₁ hw (hD _ List.mem_cons_self) hb
    obtain ⟨tr', hs'⟩ := ih (upd l o r) hw₁ fun e he => hD e (List.mem_cons_of_mem _ he)
    exact ⟨_, .step ⟨hr, rfl⟩ hs'⟩

/-- What every reply keeps of the ledger and the world holds of a run. -/
theorem Steps.ledger {upd : L → (o : S.Op) → S.Reply o → L} {B : Behaviour S W} {I : L → W → Prop}
    (hkeep : ∀ o l w r w', I l w → B o w r w' → I (upd l o r) w') {p q : Prog S α} {w w' : W}
    {tr : List (Event S W)} {l : L} (hs : Steps B p w tr q w') (h : I l w) :
    I (Prog.entries upd l tr) w' := by
  induction hs generalizing l with
  | here => exact h
  | step hb _ ih => exact ih (hkeep _ _ _ _ _ h hb)

end Effects
