import NmSidebar.Program.Checked
import NmSidebar.Helper.Resolved

/-!
# The arithmetic of deadlines

The functions of `deadline.c` on the machine's integers. A sum or a difference that does not fit has
no value, so that a function that has one has not overflowed, whatever it is called with.
-/

namespace NmSidebar

open Text

/-! ## The functions -/

/-- `NetworkSidebarAmneziaWGDeadlines`, in the machine's integers. -/
structure MachineDeadlines where
  forwardAt : Int64
  cleanupAt : Int64
  hardAt : Int64
  deriving DecidableEq

/-- `IMPORT_FORWARD_TIMEOUT_MSEC`. -/
def importForwardTimeoutMsec : UInt32 := 30 * 1000

/-- `DELETE_PROFILE_TIMEOUT_MSEC`. -/
def deleteProfileTimeoutMsec : UInt32 := 15 * 1000

/-- `LIST_FORWARD_TIMEOUT_MSEC`. -/
def listForwardTimeoutMsec : UInt32 := 120 * 1000

/-- `TUNNEL_FORWARD_TIMEOUT_MSEC`. -/
def tunnelForwardTimeoutMsec : UInt32 := 180 * 1000

/-- `SWITCH_FORWARD_TIMEOUT_MSEC`. -/
def switchForwardTimeoutMsec : UInt32 := 360 * 1000

/-- `TUNNEL_CLEANUP_RESERVE_MSEC`. -/
def tunnelCleanupReserveMsec : UInt32 := 150 * 1000

/-- `HARD_ENFORCEMENT_TIMEOUT_MSEC`. -/
def hardEnforcementTimeoutMsec : UInt32 := 5 * 1000

/-- `CLIENT_TIMEOUT_MARGIN_MSEC`. -/
def clientTimeoutMarginMsec : UInt32 := 20 * 1000

/-- `NETWORK_SIDEBAR_AMNEZIAWG_PREEMPT_TIMEOUT_MSEC`, as the client adds it. -/
def clientPreemptTimeoutMsec : UInt32 := 5000

/-- `checked_add_msec`. The outer option is the arithmetic's, the inner one the function's. -/
def checkedAddMsec (start : Int64) (duration : UInt32) : Option (Option Int64) := do
  if start < 0 then return none
  else
    let limit ← Checked.sub Int64.maxValue (Checked.widen duration)
    if start > limit then return none
    else
      let result ← Checked.add start (Checked.widen duration)
      return some result

/-- `operation_budgets`: the forward budget, and that of the cleanup. -/
def operationBudgets (operation : Option Bytes) : Option (UInt32 × UInt32) :=
  if operation = some (ascii "import") ∨ operation = some (ascii "replace") then
    some (importForwardTimeoutMsec, 0)
  else if operation = some (ascii "delete") then
    some (tunnelForwardTimeoutMsec + deleteProfileTimeoutMsec, tunnelCleanupReserveMsec)
  else if operation = some (ascii "list-profiles") then some (listForwardTimeoutMsec, 0)
  else if operation = some (ascii "up") then
    some (switchForwardTimeoutMsec, tunnelCleanupReserveMsec)
  else if operation = some (ascii "down") then
    some (tunnelForwardTimeoutMsec, tunnelCleanupReserveMsec)
  else none

/-- `network_sidebar_amneziawg_deadlines_init`, with a place for the deadlines. -/
def deadlinesInit (operation : Option Bytes) (startMsec : Int64) :
    Option (Option MachineDeadlines) :=
  match operationBudgets operation with
  | none => return none
  | some (forwardMsec, cleanupMsec) => do
    match ← checkedAddMsec startMsec forwardMsec with
    | none => return none
    | some forwardAt =>
      match ← checkedAddMsec forwardAt cleanupMsec with
      | none => return none
      | some cleanupAt =>
        match ← checkedAddMsec cleanupAt hardEnforcementTimeoutMsec with
        | none => return none
        | some hardAt => return some ⟨forwardAt, cleanupAt, hardAt⟩

/-- `network_sidebar_amneziawg_deadline_cap`, in the machine's integers. -/
def machineDeadlineCap (nowMsec outerDeadlineMsec : Int64) (localBudgetMsec : UInt32) :
    Option Int64 := do
  if nowMsec < 0 ∨ outerDeadlineMsec < 0 ∨ nowMsec ≥ outerDeadlineMsec then
    return outerDeadlineMsec
  else
    match ← checkedAddMsec nowMsec localBudgetMsec with
    | none => return outerDeadlineMsec
    | some localDeadline => return min localDeadline outerDeadlineMsec

/-- `network_sidebar_amneziawg_deadline_remaining_msec`, in the machine's integers. -/
def machineDeadlineRemainingMsec (nowMsec deadlineMsec : Int64) (maximumMsec : UInt32) :
    Option Int32 := do
  if nowMsec < 0 ∨ deadlineMsec ≤ nowMsec ∨ maximumMsec = 0 then return 0
  else
    let difference ← Checked.sub deadlineMsec nowMsec
    let remaining := min difference (Checked.widen maximumMsec)
    return (min remaining (Int64.ofInt maxInt)).toInt32

/-- `network_sidebar_amneziawg_service_timeout_msec`. -/
def serviceTimeoutMsec (operation : Option Bytes) : Option UInt32 := do
  match ← deadlinesInit operation 0 with
  | none => return 0
  | some deadlines => return deadlines.hardAt.toUInt64.toUInt32

/-- `network_sidebar_amneziawg_client_timeout_msec`. Its sums are unsigned. -/
def clientTimeoutMsec (operation : Option Bytes) : Option UInt32 := do
  let serviceTimeout ← serviceTimeoutMsec operation
  let margin := if operation ≠ some (ascii "list-profiles") then
    clientTimeoutMarginMsec + clientPreemptTimeoutMsec else clientTimeoutMarginMsec
  return if serviceTimeout = 0 ∨ serviceTimeout > 0xffffffff - margin then 0
    else serviceTimeout + margin

/-! ## What they compute -/

/-- A sum is made exactly where it is one of times and fits. -/
theorem checkedAddMsec_value (start : Int64) (duration : UInt32) :
    ∃ result, checkedAddMsec start duration = some result ∧
      ((∃ sum, result = some sum ∧ 0 ≤ start.toInt ∧ sum.toInt = start.toInt + duration.toNat) ∨
        (result = none ∧ (start.toInt < 0 ∨ maxInt64 < start.toInt + duration.toNat))) := by
  have hduration : duration.toNat < 2 ^ 32 := duration.toNat_lt
  have hbounds := Checked.toInt_bounds start
  unfold checkedAddMsec
  split
  · rename_i hnegative
    exact ⟨none, rfl, .inr ⟨rfl, .inl (Int64.lt_iff_toInt_lt.mp hnegative)⟩⟩
  rename_i hnonnegative
  have hstart : 0 ≤ start.toInt := not_lt.mp fun hlt => hnonnegative (Int64.lt_iff_toInt_lt.mpr hlt)
  obtain ⟨limit, hlimit, hvalue⟩ := Checked.exists_fit
    (i := Int64.maxValue.toInt - (Checked.widen duration).toInt)
    (by rw [Checked.toInt_maxValue, Checked.toInt_widen]; omega)
    (by rw [Checked.toInt_maxValue, Checked.toInt_widen]; omega)
  rw [Checked.toInt_maxValue, Checked.toInt_widen] at hvalue
  have hsub : Checked.sub Int64.maxValue (Checked.widen duration) = some limit := hlimit
  rw [hsub]
  dsimp only [Option.bind_eq_bind, Option.bind_some]
  split
  · rename_i hlarge
    have hlt := Int64.lt_iff_toInt_lt.mp hlarge
    refine ⟨none, rfl, .inr ⟨rfl, .inr ?_⟩⟩
    unfold maxInt64
    omega
  · rename_i hsmall
    have hle : start.toInt ≤ limit.toInt :=
      not_lt.mp fun hlt => hsmall (Int64.lt_iff_toInt_lt.mpr hlt)
    obtain ⟨sum, hsum, hvalue'⟩ := Checked.exists_fit
      (i := start.toInt + (Checked.widen duration).toInt)
      (by rw [Checked.toInt_widen]; omega) (by rw [Checked.toInt_widen]; omega)
    have hadd : Checked.add start (Checked.widen duration) = some sum := hsum
    rw [hadd]
    rw [Checked.toInt_widen] at hvalue'
    exact ⟨some sum, rfl, .inl ⟨sum, rfl, hstart, hvalue'⟩⟩

/-- The operations that have a budget. -/
def knownOperations : List Bytes :=
  [ascii "import", ascii "replace", ascii "delete", ascii "list-profiles", ascii "up", ascii "down"]

/-- A known operation has a forward budget, and no other one has. -/
theorem operationBudgets_known (operation : Option Bytes) :
    (operationBudgets operation).isSome = true ↔
      ∃ name ∈ knownOperations, operation = some name := by
  constructor
  · intro h
    unfold operationBudgets at h
    simp only [knownOperations, List.mem_cons, List.not_mem_nil, or_false]
    grind
  · rintro ⟨name, hname, rfl⟩
    have hall : ∀ name ∈ knownOperations, (operationBudgets (some name)).isSome = true := by
      decide +kernel
    exact hall name hname

theorem operationBudgets_positive {operation : Option Bytes} {budgets : UInt32 × UInt32}
    (h : operationBudgets operation = some budgets) : 0 < budgets.1.toNat := by
  unfold operationBudgets at h
  split at h
  · cases h; decide
  split at h
  · cases h; decide
  split at h
  · cases h; decide
  split at h
  · cases h; decide
  split at h
  · cases h; decide
  · cases h

/-- What the deadlines of an operation are. -/
structure DeadlinesOf (start : ℤ) (budgets : UInt32 × UInt32) (deadlines : MachineDeadlines) :
    Prop where
  forward : deadlines.forwardAt.toInt = start + budgets.1.toNat
  cleanup : deadlines.cleanupAt.toInt = start + budgets.1.toNat + budgets.2.toNat
  hard : deadlines.hardAt.toInt =
    start + budgets.1.toNat + budgets.2.toNat + hardEnforcementTimeoutMsec.toNat

/-- The deadlines fit exactly where the last one does. -/
theorem deadlinesInit_value {operation : Option Bytes} {budgets : UInt32 × UInt32}
    (hbudgets : operationBudgets operation = some budgets) (start : Int64) :
    ∃ result, deadlinesInit operation start = some result ∧
      ((∃ deadlines, result = some deadlines ∧ 0 ≤ start.toInt ∧
          DeadlinesOf start.toInt budgets deadlines) ∨
        (result = none ∧ (start.toInt < 0 ∨ maxInt64 < start.toInt + budgets.1.toNat +
          budgets.2.toNat + hardEnforcementTimeoutMsec.toNat))) := by
  obtain ⟨forwardMsec, cleanupMsec⟩ := budgets
  unfold deadlinesInit
  rw [hbudgets]
  dsimp only
  obtain ⟨first, hfirst, hforward⟩ := checkedAddMsec_value start forwardMsec
  rw [hfirst]
  rcases hforward with ⟨forwardAt, rfl, hstart, hforwardAt⟩ | ⟨rfl, hfailed⟩
  swap
  · refine ⟨none, rfl, .inr ⟨rfl, hfailed.imp_right fun hlarge => ?_⟩⟩
    omega
  obtain ⟨second, hsecond, hcleanup⟩ := checkedAddMsec_value forwardAt cleanupMsec
  dsimp only [Option.bind_eq_bind, Option.bind_some]
  rw [hsecond]
  rcases hcleanup with ⟨cleanupAt, rfl, -, hcleanupAt⟩ | ⟨rfl, hfailed⟩
  swap
  · refine ⟨none, rfl, .inr ⟨rfl, .inr ?_⟩⟩
    omega
  obtain ⟨third, hthird, hhard⟩ := checkedAddMsec_value cleanupAt hardEnforcementTimeoutMsec
  dsimp only [Option.bind_some]
  rw [hthird]
  rcases hhard with ⟨hardAt, rfl, -, hhardAt⟩ | ⟨rfl, hfailed⟩
  swap
  · refine ⟨none, rfl, .inr ⟨rfl, .inr ?_⟩⟩
    omega
  refine ⟨_, rfl, .inl ⟨_, rfl, hstart, hforwardAt, ?_, ?_⟩⟩
  · dsimp only
    omega
  · dsimp only
    omega

/-! ## The functions on integers -/

/-- The cap of the machine is that of the integers. -/
theorem machineDeadlineCap_value (now outer : Int64) (budget : UInt32) :
    ∃ cap, machineDeadlineCap now outer budget = some cap ∧
      cap.toInt = deadlineCap now.toInt outer.toInt budget.toNat := by
  unfold machineDeadlineCap deadlineCap
  have hzero : (0 : Int64).toInt = 0 := by decide
  have hwhen : (now < 0 ∨ outer < 0 ∨ now ≥ outer) ↔
      (now.toInt < 0 ∨ outer.toInt < 0 ∨ now.toInt ≥ outer.toInt) := by
    rw [Int64.lt_iff_toInt_lt, Int64.lt_iff_toInt_lt, hzero]
    exact or_congr_right (or_congr_right Int64.le_iff_toInt_le)
  split
  · rename_i hexpired
    rw [if_pos (hwhen.mp hexpired)]
    exact ⟨outer, rfl, rfl⟩
  rename_i hopen
  rw [if_neg fun hexpired => hopen (hwhen.mpr hexpired)]
  have hnow : 0 ≤ now.toInt := by
    rw [hwhen] at hopen
    omega
  obtain ⟨result, hresult, hvalue⟩ := checkedAddMsec_value now budget
  rw [hresult]
  dsimp only [Option.bind_eq_bind, Option.bind_some]
  rcases hvalue with ⟨sum, rfl, -, hsum⟩ | ⟨rfl, hfailed⟩
  · have hfits := Checked.toInt_bounds sum
    rw [if_neg (by unfold maxInt64; omega)]
    refine ⟨_, rfl, ?_⟩
    rw [← hsum]
    exact Checked.toInt_min sum outer
  · rw [if_pos (by omega)]
    exact ⟨outer, rfl, rfl⟩

/-- What remains is what remains in the integers. -/
theorem machineDeadlineRemainingMsec_value (now deadline : Int64) (maximum : UInt32) :
    ∃ remaining, machineDeadlineRemainingMsec now deadline maximum = some remaining ∧
      remaining.toInt = deadlineRemainingMsec now.toInt deadline.toInt maximum.toNat := by
  unfold machineDeadlineRemainingMsec deadlineRemainingMsec
  have hzero : (0 : Int64).toInt = 0 := by decide
  have hmaximum : maximum = 0 ↔ maximum.toNat = 0 := by
    rw [← UInt32.toNat_inj]
    exact Iff.rfl
  have hwhen : (now < 0 ∨ deadline ≤ now ∨ maximum = 0) ↔
      (now.toInt < 0 ∨ deadline.toInt ≤ now.toInt ∨ maximum.toNat = 0) := by
    rw [Int64.lt_iff_toInt_lt, Int64.le_iff_toInt_le, hzero, hmaximum]
  split
  · rename_i hexpired
    rw [if_pos (hwhen.mp hexpired)]
    exact ⟨0, rfl, rfl⟩
  rename_i hopen
  rw [if_neg fun hexpired => hopen (hwhen.mpr hexpired)]
  rw [hwhen] at hopen
  have hnow := Checked.toInt_bounds now
  have hdeadline := Checked.toInt_bounds deadline
  obtain ⟨difference, hdifference, hvalue⟩ := Checked.exists_fit
    (i := deadline.toInt - now.toInt) (by omega) (by omega)
  have hsub : Checked.sub deadline now = some difference := hdifference
  rw [hsub]
  refine ⟨_, rfl, ?_⟩
  have hmaxInt : (Int64.ofInt maxInt).toInt = maxInt := by decide
  rw [Int64.toInt_toInt32, Checked.toInt_min, Checked.toInt_min, hvalue, Checked.toInt_widen,
    hmaxInt]
  refine Int.bmod_eq_of_le ?_ ?_
  · unfold maxInt
    omega
  · unfold maxInt
    omega

/-- The cap never exceeds the outer deadline. -/
theorem deadlineCap_le (now outer : ℤ) (budget : ℕ) : deadlineCap now outer budget ≤ outer := by
  unfold deadlineCap
  split
  · exact le_rfl
  split
  · exact le_rfl
  · exact min_le_right _ _

/-- A deadline that has not passed is capped within the budget. -/
theorem deadlineCap_within {now outer : ℤ} (hnow : 0 ≤ now) (hopen : now < outer)
    (houter : outer ≤ maxInt64) (budget : ℕ) :
    now ≤ deadlineCap now outer budget ∧ deadlineCap now outer budget ≤ now + budget := by
  unfold deadlineCap
  split
  · omega
  split
  · omega
  · exact ⟨le_min (by omega) hopen.le, min_le_left _ _⟩

theorem deadlineRemainingMsec_bounds (now deadline : ℤ) (maximum : ℕ) :
    0 ≤ deadlineRemainingMsec now deadline maximum ∧
      deadlineRemainingMsec now deadline maximum ≤ maximum ∧
        (now < deadline → now + deadlineRemainingMsec now deadline maximum ≤ deadline) ∧
          (now < 0 ∨ deadline ≤ now → deadlineRemainingMsec now deadline maximum = 0) := by
  unfold deadlineRemainingMsec maxInt
  split
  · omega
  · omega

/-! ## Safety -/

/-- A chain of deadlines, each capped by a budget at the time it is made. -/
def capChain (outer : Int64) (steps : List (Int64 × UInt32)) : Option Int64 :=
  steps.foldlM (fun deadline step => machineDeadlineCap step.1 deadline step.2) outer

/-- A chain never exceeds the deadline it begins with. -/
theorem capChain_le (outer : Int64) (steps : List (Int64 × UInt32)) :
    ∃ deadline, capChain outer steps = some deadline ∧ deadline ≤ outer := by
  induction steps generalizing outer with
  | nil => exact ⟨outer, rfl, Int64.le_refl outer⟩
  | cons step steps ih =>
    obtain ⟨cap, hcap, hvalue⟩ := machineDeadlineCap_value step.1 outer step.2
    obtain ⟨deadline, hdeadline, hle⟩ := ih cap
    refine ⟨deadline, ?_, Int64.le_trans hle ?_⟩
    · unfold capChain
      rw [List.foldlM_cons, hcap]
      exact hdeadline
    · rw [Int64.le_iff_toInt_le, hvalue]
      exact deadlineCap_le _ _ _

theorem capChain_append (outer : Int64) (steps more : List (Int64 × UInt32)) :
    capChain outer (steps ++ more) = (capChain outer steps).bind fun deadline =>
      capChain deadline more := by
  unfold capChain
  rw [List.foldlM_append]
  rfl

/-- The deadlines of an operation follow each other, and are made exactly where they fit. -/
theorem deadlinesInit_safe (operation : Option Bytes) (start : Int64) :
    ∃ result, deadlinesInit operation start = some result ∧
      (result.isSome = true ↔ ∃ name ∈ knownOperations, operation = some name ∧ 0 ≤ start.toInt ∧
        ∃ budgets, operationBudgets operation = some budgets ∧ start.toInt + budgets.1.toNat +
          budgets.2.toNat + hardEnforcementTimeoutMsec.toNat ≤ maxInt64) ∧
      ∀ deadlines, result = some deadlines → start < deadlines.forwardAt ∧
        deadlines.forwardAt ≤ deadlines.cleanupAt ∧ deadlines.cleanupAt < deadlines.hardAt := by
  cases hbudgets : operationBudgets operation with
  | none =>
    refine ⟨none, ?_, ⟨fun hno => absurd hno Bool.false_ne_true, ?_⟩, fun deadlines hno =>
      absurd hno (Option.some_ne_none _).symm⟩
    · unfold deadlinesInit
      rw [hbudgets]
      rfl
    · rintro ⟨-, -, -, -, budgets, hsome, -⟩
      exact absurd hsome (Option.some_ne_none _).symm
  | some budgets =>
    have hknown := (operationBudgets_known operation).mp (by rw [hbudgets]; rfl)
    have hpositive := operationBudgets_positive hbudgets
    have hgrace : 0 < hardEnforcementTimeoutMsec.toNat := by decide
    obtain ⟨result, hresult, ⟨deadlines, rfl, hstart, hvalues⟩ | ⟨rfl, hfailed⟩⟩ :=
      deadlinesInit_value hbudgets start
    · have hforward := hvalues.forward
      have hcleanup := hvalues.cleanup
      have hhard := hvalues.hard
      have hfits := Checked.toInt_bounds deadlines.hardAt
      refine ⟨_, hresult, ⟨fun _ => ?_, fun _ => rfl⟩, ?_⟩
      · obtain ⟨name, hname, heq⟩ := hknown
        exact ⟨name, hname, heq, hstart, budgets, rfl, by unfold maxInt64; omega⟩
      · rintro _ ⟨⟩
        rw [Int64.lt_iff_toInt_lt, Int64.le_iff_toInt_le, Int64.lt_iff_toInt_lt]
        omega
    · refine ⟨none, hresult, ⟨fun hno => absurd hno Bool.false_ne_true, ?_⟩, fun deadlines hno =>
        absurd hno (Option.some_ne_none _).symm⟩
      rintro ⟨name, -, -, hstart, _, ⟨⟩, hfits⟩
      omega

/-- A client waits longer for an operation than the service works on it. -/
theorem serviceTimeoutMsec_lt_client {name : Bytes} (hname : name ∈ knownOperations) :
    ∃ service client, serviceTimeoutMsec (some name) = some service ∧
      clientTimeoutMsec (some name) = some client ∧ service < client := by
  have hall : ∀ name ∈ knownOperations, ((serviceTimeoutMsec (some name)).bind fun service =>
      (clientTimeoutMsec (some name)).map fun client => decide (service < client)) = some true := by
    decide +kernel
  obtain ⟨service, hservice, hrest⟩ := Option.bind_eq_some_iff.mp (hall name hname)
  obtain ⟨client, hclient, hlt⟩ := Option.map_eq_some_iff.mp hrest
  exact ⟨service, client, hservice, hclient, of_decide_eq_true hlt⟩

/-- Nothing overflows, and no deadline that is made within another one exceeds it. -/
theorem deadlines_safe :
    (∀ operation start, ∃ result, deadlinesInit operation start = some result ∧
      (result.isSome = true ↔ ∃ name ∈ knownOperations, operation = some name ∧ 0 ≤ start.toInt ∧
        ∃ budgets, operationBudgets operation = some budgets ∧ start.toInt + budgets.1.toNat +
          budgets.2.toNat + hardEnforcementTimeoutMsec.toNat ≤ maxInt64) ∧
      ∀ deadlines, result = some deadlines → start < deadlines.forwardAt ∧
        deadlines.forwardAt ≤ deadlines.cleanupAt ∧ deadlines.cleanupAt < deadlines.hardAt) ∧
    (∀ now outer budget, ∃ cap, machineDeadlineCap now outer budget = some cap ∧ cap ≤ outer ∧
      (0 ≤ now → now < outer → now ≤ cap ∧ cap.toInt ≤ now.toInt + budget.toNat)) ∧
    (∀ outer steps more, ∃ enclosing deadline, capChain outer steps = some enclosing ∧
      capChain outer (steps ++ more) = some deadline ∧ deadline ≤ enclosing ∧ enclosing ≤ outer) ∧
    (∀ now deadline maximum, ∃ remaining,
      machineDeadlineRemainingMsec now deadline maximum = some remaining ∧
        0 ≤ remaining.toInt ∧ remaining.toInt ≤ maximum.toNat ∧
          (now < deadline → now.toInt + remaining.toInt ≤ deadline.toInt) ∧
            (now < 0 ∨ deadline ≤ now → remaining = 0)) ∧
    ∀ name ∈ knownOperations, ∃ service client, serviceTimeoutMsec (some name) = some service ∧
      clientTimeoutMsec (some name) = some client ∧ service < client := by
  refine ⟨deadlinesInit_safe, fun now outer budget => ?_, fun outer steps more => ?_,
    fun now deadline maximum => ?_, fun name hname => serviceTimeoutMsec_lt_client hname⟩
  · obtain ⟨cap, hcap, hvalue⟩ := machineDeadlineCap_value now outer budget
    refine ⟨cap, hcap, ?_, fun hnow hopen => ?_⟩
    · rw [Int64.le_iff_toInt_le, hvalue]
      exact deadlineCap_le _ _ _
    · have hbounds := Checked.toInt_bounds outer
      rw [Int64.le_iff_toInt_le, hvalue]
      exact deadlineCap_within (Int64.le_iff_toInt_le.mp hnow) (Int64.lt_iff_toInt_lt.mp hopen)
        hbounds.2 _
  · obtain ⟨enclosing, henclosing, houter⟩ := capChain_le outer steps
    obtain ⟨deadline, hdeadline, hle⟩ := capChain_le enclosing more
    refine ⟨enclosing, deadline, henclosing, ?_, hle, houter⟩
    rw [capChain_append, henclosing]
    exact hdeadline
  · obtain ⟨remaining, hremaining, hvalue⟩ :=
      machineDeadlineRemainingMsec_value now deadline maximum
    obtain ⟨hlow, hhigh, hopen, hexpired⟩ := deadlineRemainingMsec_bounds now.toInt deadline.toInt
      maximum.toNat
    rw [← hvalue] at hlow hhigh hopen hexpired
    refine ⟨remaining, hremaining, hlow, hhigh, fun hlt => hopen (Int64.lt_iff_toInt_lt.mp hlt),
      fun hover => Int32.toInt_inj.mp (hexpired ?_)⟩
    exact hover.imp Int64.lt_iff_toInt_lt.mp Int64.le_iff_toInt_le.mp

/-- An operation that is started after one second, and a cap within its deadlines. -/
theorem deadlines_safe_sample :
    (∃ result, deadlinesInit (some (ascii "up")) 1000 = some result ∧
      ∀ deadlines, result = some deadlines → (1000 : Int64) < deadlines.forwardAt ∧
        deadlines.forwardAt ≤ deadlines.cleanupAt ∧ deadlines.cleanupAt < deadlines.hardAt) ∧
    (∃ cap, machineDeadlineCap 10 20 5 = some cap ∧ 10 ≤ cap ∧ cap.toInt ≤ 15) ∧
    (∃ remaining, machineDeadlineRemainingMsec 10 20 100 = some remaining ∧
      (10 : Int64).toInt + remaining.toInt ≤ (20 : Int64).toInt) ∧
    ∃ service client, serviceTimeoutMsec (some (ascii "down")) = some service ∧
      clientTimeoutMsec (some (ascii "down")) = some client ∧ service < client := by
  obtain ⟨hinit, hcap, -, hremaining, htimeouts⟩ := deadlines_safe
  obtain ⟨result, hresult, -, hnested⟩ := hinit (some (ascii "up")) 1000
  obtain ⟨cap, hvalue, -, hwithin⟩ := hcap 10 20 5
  obtain ⟨hlow, hhigh⟩ := hwithin (by decide) (by decide)
  obtain ⟨remaining, hrest, -, -, hopen, -⟩ := hremaining 10 20 100
  exact ⟨⟨result, hresult, hnested⟩, ⟨cap, hvalue, hlow, hhigh⟩,
    ⟨remaining, hrest, hopen (by decide)⟩, htimeouts (ascii "down") (by decide +kernel)⟩

/-- A deadline that has passed is behind whatever is waited for. -/
theorem deadlineRemaining_expired : ∃ remaining,
    machineDeadlineRemainingMsec 10 5 1 = some remaining ∧
      (5 : Int64).toInt < (10 : Int64).toInt + remaining.toInt :=
  ⟨0, by decide, by decide⟩

end NmSidebar
