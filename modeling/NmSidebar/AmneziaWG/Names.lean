import NmSidebar.Text.Bytes

/-!
# Names, tokens and exit statuses

The limits and the two validity checks of `amneziawg.c`, and the exit statuses of the helper.
-/

namespace NmSidebar

open Text

/-- `NETWORK_SIDEBAR_AMNEZIAWG_MAX_INTERFACE_LENGTH`. -/
def maxInterfaceLength : ℕ := 15

/-- `NETWORK_SIDEBAR_AMNEZIAWG_LINK_TOKEN_LENGTH`. -/
def linkTokenLength : ℕ := 32

/-- `NETWORK_SIDEBAR_AMNEZIAWG_MAX_CONFIG_SIZE`. -/
def maxConfigSize : ℕ := 1024 * 1024

/-- An interface name, or the name of a file in one of the helper's directories. -/
abbrev Name := Bytes

/-- `network_sidebar_amneziawg_name_is_valid`. -/
def nameIsValid (name : Name) : Bool :=
  match name with
  | [] => false
  | first :: rest =>
    decide (rest.length + 1 ≤ maxInterfaceLength) && isAlnum first &&
      rest.all fun b => isAlnum b || b == 0x5f || b == 0x2d || b == 0x2e

/-- `network_sidebar_amneziawg_link_token_is_valid`: lower-case hexadecimal digits. -/
def linkTokenIsValid (token : Bytes) : Bool :=
  token.length == linkTokenLength &&
    token.all fun b => isDigit b || (decide (0x61 ≤ b) && decide (b ≤ 0x66))

/-- `NetworkSidebarAmneziaWGHelperExit`: the helper's exit statuses. -/
inductive HelperExit where
  | success
  | usage
  | notRoot
  | invalidName
  | inputTooLarge
  | invalidConfig
  | replaceConfirmationRequired
  | notFound
  | active
  | interfaceConflict
  | awgQuickUnavailable
  | awgQuickFailed
  | filesystemFailed
  | runtimeFailed
  | rollbackFailed
  | inputFailed
  | childSetupFailed
  | interfaceCreationFailed
  | userspaceFailed
  | setconfFailed
  | addressFailed
  | mtuFailed
  | dnsFailed
  | routeFailed
  | firewallFailed
  | childSignaled
  | dnsBackendUnavailable
  | dnsApplyFailed
  | dnsRevertFailed
  | dnsRollbackFailed
  | inventoryPartial
  | timedOut
  | firewallCleanupFailed
  | switchCleanupFailed
  deriving DecidableEq

/-- A valid name is short, starts with an alphanumeric byte and holds no newline and no slash. -/
theorem nameIsValid_iff {name : Name} :
    nameIsValid name = true ↔ ∃ first rest, name = first :: rest ∧ name.length ≤ 15 ∧
      isAlnum first = true ∧ ∀ b ∈ rest, isAlnum b = true ∨ b = 0x5f ∨ b = 0x2d ∨ b = 0x2e := by
  cases name with
  | nil => simp [nameIsValid]
  | cons first rest =>
    simp [nameIsValid, maxInterfaceLength, and_assoc, or_assoc]

theorem length_le_of_nameIsValid {name : Name} (h : nameIsValid name = true) :
    name.length ≤ 15 := by
  obtain ⟨_, _, _, hlen, _⟩ := nameIsValid_iff.mp h
  exact hlen

theorem length_of_linkTokenIsValid {token : Bytes} (h : linkTokenIsValid token = true) :
    token.length = 32 := by
  simp only [linkTokenIsValid, linkTokenLength, Bool.and_eq_true, beq_iff_eq] at h
  exact h.1

/-- A valid token holds no newline. -/
theorem newline_notMem_of_linkTokenIsValid {token : Bytes} (h : linkTokenIsValid token = true) :
    0x0a ∉ token := by
  intro hmem
  simp only [linkTokenIsValid, Bool.and_eq_true, List.all_eq_true] at h
  exact absurd (h.2 _ hmem) (by decide)

/-- `strcmp` of two names is at most zero. -/
def nameLe : Name → Name → Bool
  | [], _ => true
  | _ :: _, [] => false
  | a :: as, b :: bs => a < b || (a == b && nameLe as bs)

theorem nameLe_total (a b : Name) : (nameLe a b || nameLe b a) = true := by
  induction a generalizing b with
  | nil => rfl
  | cons x xs ih =>
    cases b with
    | nil => rfl
    | cons y ys =>
      have hxs := ih ys
      simp only [nameLe, Bool.or_eq_true, decide_eq_true_eq, Bool.and_eq_true, beq_iff_eq] at hxs ⊢
      rcases Nat.lt_trichotomy x.toNat y.toNat with h | h | h
      · exact .inl (.inl h)
      · have h := UInt8.toNat_inj.mp h
        exact hxs.imp (fun hle => .inr ⟨h, hle⟩) fun hle => .inr ⟨h.symm, hle⟩
      · exact .inr (.inl h)

theorem nameLe_trans {a b c : Name} (hab : nameLe a b = true) (hbc : nameLe b c = true) :
    nameLe a c = true := by
  induction a generalizing b c with
  | nil => rfl
  | cons x xs ih =>
    cases b with
    | nil => cases hab
    | cons y ys =>
      cases c with
      | nil => cases hbc
      | cons z zs =>
        simp only [nameLe, Bool.or_eq_true, decide_eq_true_eq, Bool.and_eq_true,
          beq_iff_eq] at hab hbc ⊢
        rcases hab with hxy | ⟨rfl, hxs⟩
        · rcases hbc with hyz | ⟨rfl, -⟩
          · exact .inl (UInt8.lt_trans hxy hyz)
          · exact .inl hxy
        · rcases hbc with hyz | ⟨rfl, hys⟩
          · exact .inl hyz
          · exact .inr ⟨rfl, ih hxs hys⟩

end NmSidebar
