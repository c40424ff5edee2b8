import NmSidebar.Supervision.HandOut

/-!
# The supervision channel

The helper waits for the response to each request before it does anything else, and the service
responds to each message once. So there is never more than one message on the channel, and none is
left when a helper with an open channel exits with success.
-/

namespace NmSidebar

open Effects Account HelperProcess

namespace HelperProcess

/-- How many messages may be under way. -/
def slots (h : HelperProcess) : ℕ := h.exchange.toList.length

/-- An operation that is answered leaves the channel alone. -/
theorem channel_of_answers {h h' : HelperProcess} {o : HelperCall} {r : o.Reply}
    (hanswer : h.Answers o r h') : h'.exchange = h.exchange ∧ h'.channelOpen = h.channelOpen := by
  cases o with
  | terminationRequested | terminationIsPending | retainedProcessGroup | activeProcessGroup
  | isCommitted | readConfig =>
    obtain ⟨-, rfl⟩ := hanswer
    exact ⟨rfl, rfl⟩
  | setCleanupMode enabled =>
    obtain rfl := hanswer
    exact ⟨rfl, rfl⟩
  | compareExchangeCommitted =>
    simp only [Answers] at hanswer
    split at hanswer <;> obtain ⟨-, rfl⟩ := hanswer <;> exact ⟨rfl, rfl⟩
  | superviseRelease | superviseWithdrawRelease => exact hanswer.elim
  | beginGroupTermination | unregisterGroup =>
    obtain ⟨-, -, rfl⟩ := hanswer
    exact ⟨rfl, rfl⟩
  | _ =>
    obtain rfl := hanswer
    exact ⟨rfl, rfl⟩

theorem concluded_exchange (h : HelperProcess) (purpose : Purpose) (type : SupervisionType)
    (child : ℕ) (ok : Bool) : (h.concluded purpose type child ok).exchange = none ∧
      (h.concluded purpose type child ok).channelOpen = h.channelOpen := by
  cases purpose with
  | operation => exact ⟨rfl, rfl⟩
  | tool =>
    unfold concluded
    dsimp only
    split <;> exact ⟨rfl, rfl⟩
  | escalation => exact ⟨rfl, rfl⟩

end HelperProcess

/-- What the account says of the channel while the helper's end is open, and of a helper that exited
with success. A message the service works on counts as one on the channel. -/
structure InSync (told : HelperAccount) (w : Supervision) : Prop where
  count : told.unasked = false → w.helper.channelOpen = true →
    w.requests.length + w.replies.length + told.waiting.toNat ≤ w.helper.slots
  idle : w.helper.exit = some (.exited HelperExit.success.code) → w.helper.exchange = none

/-- A helper that has closed its end says nothing of the channel. -/
theorem InSync.of_closed {told : HelperAccount} {w : Supervision} (halive : w.helper.exit = none)
    (hclosed : w.helper.channelOpen = false) : InSync told w :=
  ⟨fun _ hopen => absurd (hclosed.symm.trans hopen) Bool.noConfusion,
    fun hexit => nomatch halive.symm.trans hexit⟩

/-- A reply that is taken was the only message under way. -/
theorem InSync.concluded {told : HelperAccount} {w : Supervision} (h : InSync told w)
    {e : Exchange} (hexchange : w.helper.exchange = some e)
    {response : SupervisionMessage} {rest : List SupervisionMessage}
    (hreplies : w.replies = response :: rest) (ok : Bool) :
    InSync told { w with
      helper := w.helper.concluded e.purpose e.type e.child ok, replies := rest } := by
  obtain ⟨hnone, hopen⟩ := w.helper.concluded_exchange e.purpose e.type e.child ok
  obtain ⟨-, hexit, -⟩ := w.helper.concluded_same e.purpose e.type e.child ok
  refine ⟨fun hasked hisOpen => ?_, fun _ => hnone⟩
  have hcount := h.count hasked (hopen.symm.trans hisOpen)
  rw [slots, hexchange, hreplies, List.length_cons] at hcount
  have hslots : (w.helper.concluded e.purpose e.type e.child ok).slots = 0 := by
    rw [slots, hnone]
    rfl
  have hone : (some e).toList.length = 1 := rfl
  show w.requests.length + rest.length + _ ≤ slots _
  omega

/-- One step of the helper keeps the count. -/
theorem HelperStep.inSync {told : HelperAccount} {w w' : Supervision} (hstep : HelperStep w w')
    (h : InSync told w) : InSync told w' := by
  have hcount := h.count
  have hfailed {h' : HelperProcess} (purpose : Purpose) (type : SupervisionType) (child : ℕ)
      (requests replies : List SupervisionMessage) (halive : h'.exit = none) :
      InSync told ⟨h'.failed purpose type child, requests, replies, w.serviceOpen⟩ :=
    .of_closed ((h'.concluded_same purpose type child false).2.1.trans halive) rfl
  cases hstep with
  | @operate o k r h' halive hidle hp hanswer =>
    obtain ⟨hexchange, hopen⟩ := channel_of_answers hanswer
    have hexit : h'.exit = none := (exit_of_answers hanswer).trans halive
    refine ⟨fun hasked hisOpen => ?_, fun hended => nomatch hexit.symm.trans hended⟩
    have hkept := hcount hasked (hopen.symm.trans hisOpen)
    have hslots : slots { h' with program := k r } = w.helper.slots := by
      rw [slots, slots, hexchange]
    exact hslots ▸ hkept
  | retain halive hidle => exact ⟨hcount, h.idle⟩
  | @send purpose type child h' halive hidle hasks hopen =>
    have hexit := ((h'.takeBack_same type child).2.2.trans hasks.same.2.2).trans halive
    refine ⟨fun hasked _ => ?_, fun hended => nomatch hexit.symm.trans hended⟩
    have hkept := hcount hasked hopen
    rw [slots, hidle] at hkept
    have hnone : (none : Option Exchange).toList.length = 0 := rfl
    show (w.requests ++ [h'.request type child]).length + w.replies.length + _ ≤ 1
    rw [List.length_append, List.length_singleton]
    omega
  | sendFails halive _ hasks => exact hfailed _ _ _ _ _ (hasks.same.2.2.trans halive)
  | acknowledge _ hexchange hreplies => exact h.concluded hexchange hreplies true
  | refuse _ hexchange hreplies => exact h.concluded hexchange hreplies false
  | acknowledgeLate halive | reject halive | giveUp halive => exact hfailed _ _ _ _ _ halive
  | signal => exact ⟨hcount, h.idle⟩
  | exit halive hidle => exact ⟨hcount, fun _ => hidle⟩
  | die wait _ hwait => exact ⟨hcount, fun hexit => absurd (Option.some.inj hexit) hwait⟩

theorem HelperSteps.inSync {told : HelperAccount} {w w' : Supervision}
    (hsteps : HelperSteps w w') (h : InSync told w) : InSync told w' := by
  induction hsteps with
  | refl => exact h
  | tail _ hstep ih => exact hstep.inSync ih

/-- Every call of the service keeps the count. -/
theorem inSync_serves {l : Account} {o : ServiceCall} {w w' : Supervision} {r : o.Reply}
    (h : InSync l.helper w) (hserves : serves o w r w') : InSync (l.after o r).helper w' := by
  obtain ⟨w₁, hsteps, heffect⟩ := hserves
  replace h := HelperSteps.inSync hsteps h
  have hhelper := heffect.helper
  -- a call that tells nothing of the helper and leaves both queues alone
  have hsame {told : HelperAccount} (htold : told.waiting = l.helper.waiting)
      (hasked : told.unasked = l.helper.unasked) (hrequests : w'.requests = w₁.requests)
      (hreplies : w'.replies = w₁.replies) : InSync told w' := by
    refine ⟨fun hquiet => ?_, ?_⟩
    · rw [hhelper, hrequests, hreplies, htold]
      exact h.count (hasked.symm.trans hquiet)
    · rw [hhelper]
      exact h.idle
  cases o with
  | receive =>
    cases r with
    | message message =>
      obtain ⟨hrequests, hw'⟩ := heffect
      have hreplies : w'.replies = w₁.replies := by rw [hw']
      refine ⟨fun hasked hopen => ?_, hhelper ▸ h.idle⟩
      have hcount := h.count hasked (hhelper ▸ hopen)
      have hslots : w₁.helper.slots ≤ 1 := Option.length_toList_le
      rw [hrequests, List.length_cons] at hcount
      rw [hhelper, hreplies]
      show _ + _ + 1 ≤ _
      omega
    | wouldBlock | closed =>
      obtain ⟨-, -, rfl⟩ := heffect
      exact hsame rfl rfl rfl rfl
    | malformed =>
      obtain rfl := heffect
      exact hsame rfl rfl rfl rfl
  | send message =>
    refine ⟨fun hasked hopen => ?_, hhelper ▸ h.idle⟩
    obtain ⟨hasked, hwaiting⟩ : l.helper.unasked = false ∧ l.helper.waiting = true := by
      simpa [after, HelperAccount.respond] using hasked
    have hcount := h.count hasked (hhelper ▸ hopen)
    rw [hwaiting] at hcount
    rw [hhelper]
    show _ + _ + 0 ≤ _
    replace hcount : _ + _ + 1 ≤ _ := hcount
    rcases heffect with ⟨-, rfl⟩ | ⟨-, rfl⟩
    · rw [List.length_append, List.length_singleton]
      omega
    · omega
  | peekHelper =>
    obtain ⟨-, -, rfl⟩ := heffect
    exact hsame rfl rfl rfl rfl
  | reapHelper | reapHelperNow =>
    obtain ⟨-, rfl⟩ := heffect
    cases r <;> exact hsame rfl rfl rfl rfl
  | scanProcessGroup | spawnSentinel =>
    obtain rfl := heffect
    cases r <;> exact hsame rfl rfl rfl rfl
  | killGroup processGroup signal =>
    obtain rfl := heffect
    cases signal <;> cases r <;> exact hsame rfl rfl rfl rfl
  | closeChannel =>
    obtain rfl := heffect
    exact hsame rfl rfl rfl rfl
  | _ =>
    obtain rfl := heffect
    exact hsame rfl rfl rfl rfl

end NmSidebar
