import NmSidebar.Helper.Operations
import NmSidebar.Program.Runs
import NmSidebar.Supervision.Protocol

/-!
# The input of a helper

`write_helper_input` writes the rest of a configuration to the helper's pipe in pieces, as far as
the pipe takes them, and gives it up once everything was taken.
-/

namespace NmSidebar

open Text Effects

/-- What `write` returns: how many bytes it took, if any, or how it fails. -/
inductive WriteResult where
  | took (count : ℕ)
  | interrupted
  | again
  | failed

/-- The call of `write_helper_input`: the bytes that are left to be written. -/
structure InputWrite where
  rest : Bytes

/-- The signature of the writes. -/
@[reducible] def inputSig : Signature := ⟨InputWrite, fun _ => WriteResult⟩

/-- The loop of `write_helper_input` from an offset: the result with the offset it leaves. There is
no outcome where more than `rounds` writes are needed. -/
def writeInputFrom (config : Bytes) : ℕ → ℕ → Prog inputSig (Option (PipeResult × ℕ))
  | 0, _ => return none
  | rounds + 1, offset => do
    if offset < config.length then
      match ← Prog.request (S := inputSig) ⟨config.drop offset⟩ with
      | .took count =>
        if count > 0 then writeInputFrom config rounds (offset + count)
        else return some (.failed, offset)
      | .interrupted => writeInputFrom config rounds offset
      | .again => return some (.open, offset)
      | .failed => return some (.failed, offset)
    else return some (.done, offset)

/-- A pipe takes a part of what it is given; the world is what it has taken. -/
def pipeBehaviour : Behaviour inputSig Bytes := fun o taken reply taken' =>
  match reply with
  | .took count => count ≤ o.rest.length ∧ taken' = taken ++ o.rest.take count
  | .interrupted | .again | .failed => taken' = taken

/-- The offset tells what the pipe has taken. It does not go back, and it is at the end once the
writing is done. -/
theorem steps_writeInputFrom {config : Bytes} {rounds offset offset' : ℕ} {taken taken' : Bytes}
    {result : PipeResult} {tr : List (Event inputSig Bytes)} (hoffset : offset ≤ config.length)
    (htaken : taken = config.take offset)
    (hs : Steps pipeBehaviour (writeInputFrom config rounds offset) taken tr
      (.pure (some (result, offset'))) taken') :
    offset ≤ offset' ∧ offset' ≤ config.length ∧ taken' = config.take offset' ∧
      (result = .done → offset' = config.length) := by
  induction rounds generalizing offset taken tr with
  | zero =>
    obtain ⟨-, h, -⟩ := hs.of_return
    exact absurd h (Option.some_ne_none _)
  | succ rounds ih =>
    unfold writeInputFrom at hs
    split at hs
    · obtain ⟨reply, taken₁, tr, rfl, hb, hnext⟩ := hs.request_inv
      clear hs
      cases reply with
      | took count =>
        obtain ⟨hcount, rfl⟩ := hb
        rw [List.length_drop] at hcount
        dsimp only at hnext
        split at hnext
        · obtain ⟨hle, hrest⟩ := ih (by omega) (by rw [htaken, List.take_add]) hnext
          exact ⟨by omega, hrest⟩
        · obtain ⟨-, h, hsame⟩ := hnext.of_return
          obtain ⟨rfl, rfl⟩ := Prod.mk.inj (Option.some.inj h)
          have hzero : count = 0 := by omega
          rw [hsame, hzero, List.take_zero, List.append_nil]
          exact ⟨le_rfl, hoffset, htaken, fun h => absurd h (by decide)⟩
      | interrupted =>
        obtain rfl : taken₁ = taken := hb
        exact ih hoffset htaken hnext
      | again | failed =>
        obtain rfl : taken₁ = taken := hb
        obtain ⟨-, h, rfl⟩ := hnext.of_return
        obtain ⟨rfl, rfl⟩ := Prod.mk.inj (Option.some.inj h)
        exact ⟨le_rfl, hoffset, htaken, fun h => absurd h (by decide)⟩
    · obtain ⟨-, h, rfl⟩ := hs.of_return
      obtain ⟨rfl, rfl⟩ := Prod.mk.inj (Option.some.inj h)
      exact ⟨le_rfl, hoffset, htaken, fun _ => by omega⟩

/-- What is left to be written of a configuration, and what the helper's pipe has taken of it. -/
structure HelperInput where
  offset : ℕ
  taken : Bytes

/-- The helper's calls where its input is written as above; what else is answered is left open. -/
def inputBehaviour (config : Bytes) : Behaviour serviceSig HelperInput := fun o w reply w' =>
  match o with
  | .writeHelperInput => ∃ rounds tr, Steps pipeBehaviour (writeInputFrom config rounds w.offset)
      w.taken tr (.pure (some (reply, w'.offset))) w'.taken
  | _ => w' = w

/-- What the pipe has taken is the configuration up to the offset. -/
structure HelperInput.Feeds (config : Bytes) (w : HelperInput) : Prop where
  offset_le : w.offset ≤ config.length
  taken : w.taken = config.take w.offset

/-- Before the first write. -/
def HelperInput.start : HelperInput := ⟨0, []⟩

theorem HelperInput.feeds_start (config : Bytes) : HelperInput.start.Feeds config :=
  ⟨Nat.zero_le _, rfl⟩

/-- A call of the service keeps the offset in step with the pipe, and does not take it back. -/
theorem HelperInput.Feeds.behaves {config : Bytes} {w w' : HelperInput} {o : ServiceCall}
    {reply : o.Reply} (h : w.Feeds config) (hb : inputBehaviour config o w reply w') :
    w'.Feeds config ∧ w.offset ≤ w'.offset ∧
      ((⟨o, reply⟩ : (o : ServiceCall) × o.Reply) = ⟨.writeHelperInput, .done⟩ →
        w'.offset = config.length) := by
  cases o with
  | writeHelperInput =>
    obtain ⟨rounds, tr, hs⟩ := hb
    obtain ⟨hle, hlength, htaken, hdone⟩ := steps_writeInputFrom h.offset_le h.taken hs
    refine ⟨⟨hlength, htaken⟩, hle, fun hreply => hdone ?_⟩
    cases hreply
    rfl
  | _ =>
    obtain rfl : w' = w := hb
    exact ⟨h, le_rfl, fun hreply => by cases hreply⟩

end NmSidebar
