import NmSidebar.Client.SingleFlight
import NmSidebar.Program.Contracts

/-!
# What a client keeps while it is called back

The functions that only tell the others something keep whatever a part of the client is promised,
where the calls from within a callout do. They are proved here once for every such part.
-/

namespace NmSidebar

open Effects

/-- A part of the client and what is promised of it: what holds wherever the client calls out, what
the calls from within a callout do, and what holds between callbacks. Telling the others does not
touch it. -/
structure Aspect (V : Type) where
  view : AwgClient → V
  Kept : V → Prop
  Tends : V → V → Prop
  Settled : V → Prop
  refl : ∀ v, Tends v v
  trans : ∀ {v v' v''}, Tends v v' → Tends v' v'' → Tends v v''
  view_nextGeneration : ∀ client, view client.nextGeneration = view client
  view_markExternal : ∀ client active, view (client.markExternal active) = view client
  view_showNotice : ∀ client event, view (client.showNotice event) = view client

/-- What a function leaves, in a client that keeps its flight. -/
def Leaves {α : Type} (K : Contract AwgClient ClientNote) (p : ClientM α) (Q : α → Prop) : Prop :=
  flightContract.MaintainsUnder K (clientComponent ClientEntry.IsCallback) p Q

section Leaves

variable {K : Contract AwgClient ClientNote} {α β : Type} {p : ClientM α} {Q Q' : α → Prop}

theorem Leaves.mono (hp : Leaves K p Q) (h : ∀ a, Q a → Q' a) : Leaves K p Q' :=
  Contract.MaintainsUnder.mono hp h

theorem Leaves.bind {f : α → ClientM β} {Q' : β → Prop} (hp : Leaves K p Q)
    (hf : ∀ a, Q a → Leaves K (f a) Q') : Leaves K (p >>= f) Q' :=
  Contract.MaintainsUnder.bind hp hf

/-- A call that nobody calls back in. -/
theorem leaves_clientCall {o : ClientCall} {f : o.Reply → ClientM α}
    (hf : ∀ r, Leaves K (f r) Q) : Leaves K (clientCall o >>= f) Q :=
  Contract.maintainsUnder_sys.mpr fun r _ => hf r

/-- A call that nobody calls back in, and no reply is awaited. -/
theorem leaves_tell {n : ClientNote} {q : ClientM α} (hq : Leaves K q Q) :
    Leaves K (tell n >>= fun _ => q) Q :=
  Contract.maintainsUnder_sys.mpr fun _ _ => hq

theorem leaves_tellIf {called : Bool} {n : ClientNote} {q : ClientM α} (hq : Leaves K q Q) :
    Leaves K (tellIf called n >>= fun _ => q) Q := by
  unfold tellIf
  cases called with
  | true => exact leaves_tell hq
  | false => exact hq

end Leaves

namespace Aspect

variable {V : Type} (A : Aspect V) {client client' : AwgClient}

/-- The contract about the part. -/
def contract : Contract AwgClient ClientNote where
  invariant client := A.Kept (A.view client)
  rely client client' := A.Tends (A.view client) (A.view client')
  issues _ _ := True
  settled client := A.Settled (A.view client)

/-- A function keeps the contract, and its owner may be called from within a callout. -/
def Keeps (client : AwgClient) (p : ClientM AwgClient) : Prop :=
  Leaves A.contract p fun client' =>
    A.Kept (A.view client') ∧ A.Tends (A.view client) (A.view client')

variable {A} {p : ClientM AwgClient}

/-- What a function does after a step. -/
theorem Keeps.after (h : A.Keeps client' p) (htends : A.Tends (A.view client) (A.view client')) :
    A.Keeps client p :=
  Leaves.mono h fun _ hs => ⟨hs.1, A.trans htends hs.2⟩

theorem Keeps.same (h : A.Keeps client' p) (hview : A.view client' = A.view client) :
    A.Keeps client p :=
  h.after (hview ▸ A.refl _)

theorem Keeps.bind {f : AwgClient → ClientM AwgClient} (h : A.Keeps client p)
    (hf : ∀ client', A.Kept (A.view client') → A.Tends (A.view client) (A.view client') →
      A.Keeps client' (f client')) : A.Keeps client (p >>= f) :=
  Leaves.bind h fun client' hs => (hf client' hs.1 hs.2).after hs.2

theorem keeps_pure (h : A.Kept (A.view client)) : A.Keeps client (return client) :=
  ⟨h, A.refl _⟩

/-- A callout gives a client back that has kept both contracts. -/
theorem leaves_callout (h : A.Kept (A.view client)) (n : ClientNote) :
    Leaves A.contract (callout n client) fun client' => client'.flight.Sound ∧
      A.Kept (A.view client') ∧ A.Tends (A.view client) (A.view client') :=
  Contract.maintainsUnder_callout.mpr
    ⟨fun _ => ⟨h, trivial⟩, fun _ hs => ⟨hs.1.1, hs.1.2, hs.2.2⟩⟩

theorem keeps_callout (h : A.Kept (A.view client)) (n : ClientNote) :
    A.Keeps client (callout n client) :=
  (leaves_callout h n).mono fun _ hs => hs.2

/-! ## What only tells the others -/

theorem view_emitNotice (client : AwgClient) (event : NoticeEvent) :
    A.view (client.emitNotice event) = A.view client := by
  unfold AwgClient.emitNotice
  split
  · exact A.view_showNotice client event
  · rfl

theorem view_explain (client : AwgClient) (operation : BackendOperation) (name : Option Name)
    (notice : AdmissionNotice) :
    A.view (client.explain operation name notice) = A.view client := by
  unfold AwgClient.explain
  split
  · rfl
  · exact view_emitNotice client _

theorem keeps_emitChanged (h : A.Kept (A.view client)) (delayMs : ℕ) :
    A.Keeps client (client.emitChanged delayMs) := by
  unfold AwgClient.emitChanged AwgClient.forwardChanged
  have hnext := A.view_nextGeneration client
  split
  · refine Keeps.same ?_ hnext
    split
    · exact keeps_pure (hnext ▸ h)
    · exact keeps_callout (hnext ▸ h) _
  · exact keeps_pure h

theorem keeps_requestInventory (h : A.Kept (A.view client)) (force : Bool) :
    A.Keeps client (client.requestInventory force) := by
  unfold AwgClient.requestInventory
  split
  · exact keeps_pure h
  · exact (keeps_callout h _).bind fun _ hs _ => keeps_callout hs _

theorem keeps_setExternalInteraction (h : A.Kept (A.view client)) (active : Bool) :
    A.Keeps client (client.setExternalInteraction active) := by
  unfold AwgClient.setExternalInteraction
  have hmarked := A.view_markExternal client active
  split
  · exact keeps_pure h
  · refine @Keeps.same V A client (client.markExternal active) _ ?_ hmarked
    split
    · exact keeps_pure (hmarked ▸ h)
    · exact keeps_callout (hmarked ▸ h) _

theorem keeps_respond (h : A.Kept (A.view client)) (operation : BackendOperation)
    (name : Option Name) (response : AdmissionResponse) :
    A.Keeps client (client.respond operation name response) := by
  unfold AwgClient.respond AwgClient.refresh
  have hview := view_explain (A := A) client operation name response.notice
  refine Keeps.same (Keeps.bind ?_ fun _ hs _ => ?_) hview
  · split
    · exact keeps_requestInventory (hview ▸ h) true
    split
    · exact keeps_callout (hview ▸ h) _
    · exact keeps_pure (hview ▸ h)
  · split
    · exact keeps_emitChanged hs 1
    · exact keeps_pure hs

theorem keeps_authorizationSettled (h : A.Kept (A.view client)) (changed authorized : Bool) :
    A.Keeps client (client.authorizationSettled changed authorized) := by
  unfold AwgClient.authorizationSettled
  split
  · exact keeps_pure h
  · refine (keeps_emitChanged h 1).bind fun told hs _ => ?_
    split
    · exact keeps_pure hs
    · exact (keeps_callout hs _).bind fun _ hs _ => keeps_requestInventory hs true

theorem keeps_inventoryChanged (h : A.Kept (A.view client)) (change : InventoryChange)
    (purpose : RefreshPurpose) : A.Keeps client (client.inventoryChanged change purpose) := by
  unfold AwgClient.inventoryChanged AwgClient.tellRuntime
  split
  · exact keeps_pure h
  · refine Keeps.bind ?_ fun _ hs _ => keeps_emitChanged hs 1
    split
    · exact keeps_callout h _
    · exact keeps_callout h _
    · exact keeps_pure h

theorem keeps_setInventoryEnabled (h : A.Kept (A.view client)) (enabled : Bool) :
    A.Keeps client (client.setInventoryEnabled enabled) := by
  unfold AwgClient.setInventoryEnabled
  split
  · exact keeps_pure h
  · exact leaves_tell (keeps_pure h)

end Aspect

/-! ## Admission -/

/-- Nothing is admitted without the authorization. -/
theorem authorized_of_allowed {action : AwgAction} {context : AdmissionContext}
    {target : Option AdmissionTarget} (h : (actionEvaluate action context target).allowed = true) :
    context.authorized = true := by
  by_contra hlost
  unfold actionEvaluate actionBlockedReason at h
  dsimp only at h
  rw [if_pos (Bool.eq_false_iff.mpr hlost)] at h
  exact absurd h (by decide)

/-- Where an operation is admitted the user is authorized, and nobody has been told anything. -/
theorem Aspect.leaves_operationIsAllowed {V : Type} {A : Aspect V} {client : AwgClient}
    (h : A.Kept (A.view client)) (operation : BackendOperation) (name : Option Name)
    (continuingActivity : Bool) :
    Leaves A.contract (client.operationIsAllowed operation name continuingActivity) fun reply =>
      A.Kept (A.view reply.client) ∧ A.Tends (A.view client) (A.view reply.client) ∧
        (reply.allowed = true → reply.client = client ∧ client.authorized = true) := by
  unfold AwgClient.operationIsAllowed
  refine leaves_clientCall fun facts => ?_
  split
  · exact ⟨h, A.refl _, by simp⟩
  · dsimp only
    split
    · rename_i hallowed
      have hauthorized : (client.isRunning && client.authorized) = true :=
        authorized_of_allowed hallowed
      exact ⟨h, A.refl _, fun _ => ⟨rfl, (Bool.and_eq_true_iff.mp hauthorized).2⟩⟩
    · exact Leaves.bind (keeps_respond h operation name _) fun _ hs => ⟨hs.1, hs.2, by simp⟩

end NmSidebar
