import NmSidebar.Helper.Tools
import NmSidebar.Text.Lines

/-!
# Diagnostics of `awg-quick`

What the helper learns from the error stream of a run (`amneziawg_quick_diagnostics.c`). The script
echoes each command before it runs it. A failed run counts as one that has not touched the routing
only where the whole stream was understood; the last theorem says what the stream then was.
-/

namespace NmSidebar

open Text

/-! ## Lines -/

/-- `line_has_prefix`. -/
def lineHasPrefix (line : Bytes) (text : String) : Bool := (ascii text).isPrefixOf line

/-- `line_is_teardown_command`. -/
def lineIsTeardownCommand (line : Bytes) : Bool :=
  lineHasPrefix line "[#] resolvconf -d " || lineHasPrefix line "[#] ip -4 rule delete " ||
    lineHasPrefix line "[#] ip -6 rule delete " || lineHasPrefix line "[#] ip -4 route delete " ||
    lineHasPrefix line "[#] ip -6 route delete " || lineHasPrefix line "[#] ip link delete dev "

/-- What stands between the name and the token of a claim. -/
def claimAlias : Bytes := ascii " alias nm-sidebar-awg-"

/-- `line_is_link_claim`. -/
def lineIsLinkClaim (line : Bytes) : Bool :=
  if lineHasPrefix line "[#] ip link set dev " = false then false
  else
    let rest := line.drop (ascii "[#] ip link set dev ").length
    match splitFirst 0x20 rest with
    | none => false
    | some (name, _) =>
      let tail := rest.drop name.length
      if name.length ≥ maxInterfaceLength + 1 ∨
          tail.length ≠ claimAlias.length + linkTokenLength ∨
          tail.take claimAlias.length ≠ claimAlias then false
      else
        nameIsValid (cString name) &&
          linkTokenIsValid (cString ((tail.drop claimAlias.length).take linkTokenLength))

/-- A command that `classify_line` knows: how its echo starts, its stage, and whether it is a
change of the firewall that a cleanup makes too. -/
structure KnownCommand where
  text : String
  stage : QuickStage
  cleanupCapable : Bool

/-- The commands in the order in which `classify_line` looks for them. -/
def knownCommands : List KnownCommand :=
  [⟨"[#] ip link add ", .interface, false⟩,
    ⟨"[#] amneziawg-go ", .userspace, false⟩,
    ⟨"[#] awg setconf ", .setconf, false⟩,
    ⟨"[#] ip -4 address add ", .address, false⟩,
    ⟨"[#] ip -6 address add ", .address, false⟩,
    ⟨"[#] ip link set mtu ", .mtu, false⟩,
    ⟨"[#] resolvconf -a ", .dns, false⟩,
    ⟨"[#] awg set ", .route, false⟩,
    ⟨"[#] ip -4 rule add ", .route, false⟩,
    ⟨"[#] ip -6 rule add ", .route, false⟩,
    ⟨"[#] ip -4 route add ", .route, false⟩,
    ⟨"[#] ip -6 route add ", .route, false⟩,
    ⟨"[#] sysctl -q net.ipv4.conf.all.src_valid_mark=1", .firewall, false⟩,
    ⟨"[#] nft -f ", .firewall, true⟩,
    ⟨"[#] iptables-restore -n", .firewall, true⟩,
    ⟨"[#] ip6tables-restore -n", .firewall, true⟩]

/-- The known command of a line. -/
def commandOf (line : Bytes) : Option KnownCommand :=
  knownCommands.find? fun command => lineHasPrefix line command.text

/-- The fixed text that says the kernel has no module. -/
def fallbackMarker : Bytes :=
  ascii ("[!] Missing WireGuard (Amnezia VPN) kernel module. Falling back to slow " ++
    "userspace implementation.")

/-! ## One line -/

namespace QuickDiagnostics

/-- `observe_stage`. -/
def observeStage (diagnostics : QuickDiagnostics) (stage : QuickStage) : QuickDiagnostics :=
  { diagnostics with
    recoveryBlocked := diagnostics.recoveryBlocked ||
      decide (stage.index ≥ QuickStage.dns.index) ||
      decide (stage.index < diagnostics.currentStage.index) || diagnostics.teardownSeen
    interfaceSeen := diagnostics.interfaceSeen || decide (stage = .interface) }

/-- `classify_line` on the fallback marker. -/
def classifyMarker (diagnostics : QuickDiagnostics) : QuickDiagnostics :=
  let observed := diagnostics.observeStage .userspace
  { observed with
    failureCandidate :=
      if observed.failureCandidate = .interface then .none else observed.failureCandidate
    currentStage := .userspace
    userspaceStarted := true }

/-- `classify_line` on a command that it knows. -/
def classifyCommand (diagnostics : QuickDiagnostics) (command : KnownCommand) : QuickDiagnostics :=
  let started := { diagnostics with
    userspaceStarted :=
      diagnostics.userspaceStarted || decide (command.stage = QuickStage.userspace) }
  let observed := started.observeStage command.stage
  if command.cleanupCapable ∧ observed.failureCandidate ≠ .none then observed
  else { observed with currentStage := command.stage, failureCandidate := .none }

/-- `classify_line` on any other line. -/
def classifyOther (diagnostics : QuickDiagnostics) (line : Bytes) : QuickDiagnostics :=
  { diagnostics with
    recoveryBlocked := diagnostics.recoveryBlocked ||
      (lineHasPrefix line "[#]" &&
        (!lineIsLinkClaim line || diagnostics.teardownSeen ||
          decide (diagnostics.currentStage.index > QuickStage.userspace.index)))
    failureCandidate :=
      if line.length > 0 ∧ diagnostics.currentStage ≠ .none ∧ diagnostics.failureCandidate = .none
      then diagnostics.currentStage else diagnostics.failureCandidate }

/-- `classify_line`. -/
def classifyLine (diagnostics : QuickDiagnostics) (line : Bytes) : QuickDiagnostics :=
  if line = fallbackMarker then diagnostics.classifyMarker
  else if lineIsTeardownCommand line then
    if lineHasPrefix line "[#] ip link delete dev " then { diagnostics with teardownSeen := true }
    else { diagnostics with recoveryBlocked := true }
  else
    match commandOf line with
    | some command => diagnostics.classifyCommand command
    | none => diagnostics.classifyOther line

/-- A note that what was seen is no evidence. -/
def blockRecovery (diagnostics : QuickDiagnostics) : QuickDiagnostics :=
  { diagnostics with recoveryBlocked := true }

end QuickDiagnostics

/-! ## The stream -/

/-- `AWG_QUICK_DIAGNOSTIC_LINE_LIMIT`. -/
def diagnosticLineLimit : ℕ := 16 * 1024

/-- `AwgQuickDiagnostics` while it is fed: the line so far, and what was seen. -/
structure DiagnosticsReader where
  line : Bytes
  discarding : Bool
  seen : QuickDiagnostics

namespace DiagnosticsReader

/-- A zero-initialized reader. -/
def fresh : DiagnosticsReader := ⟨[], false, ⟨false, .none, .none, false, false, false⟩⟩

/-- One byte of `awg_quick_diagnostics_consume`. -/
def consumeByte (reader : DiagnosticsReader) (b : UInt8) : DiagnosticsReader :=
  if b = newline then
    { line := []
      discarding := false
      seen := if reader.discarding then reader.seen else reader.seen.classifyLine reader.line }
  else if reader.discarding then reader
  else
    let seen := if b = 0 ∨ b = 0x0d then reader.seen.blockRecovery else reader.seen
    if reader.line.length < diagnosticLineLimit then
      { reader with line := reader.line ++ [b], seen }
    else ⟨[], true, seen.blockRecovery.classifyLine reader.line⟩

/-- `awg_quick_diagnostics_consume`. -/
def consume (reader : DiagnosticsReader) (data : Bytes) : DiagnosticsReader :=
  data.foldl consumeByte reader

/-- `awg_quick_diagnostics_finish`. -/
def finish (reader : DiagnosticsReader) : DiagnosticsReader :=
  { reader with
    line := []
    seen :=
      if reader.discarding = false ∧ reader.line.length > 0 then
        reader.seen.blockRecovery.classifyLine reader.line
      else reader.seen }

end DiagnosticsReader

/-! ## What the evidence stands for -/

/-- The echoes of commands that set up a tunnel without touching the routing. -/
def settingUp : List String :=
  ["[#] ip link add ", "[#] amneziawg-go ", "[#] awg setconf ", "[#] ip -4 address add ",
    "[#] ip -6 address add ", "[#] ip link set mtu "]

/-- The echoes of commands of the resolver, the routing and the firewall. -/
def reachingOut : List String :=
  ["[#] resolvconf ", "[#] ip -4 rule ", "[#] ip -6 rule ", "[#] ip -4 route ",
    "[#] ip -6 route ", "[#] awg set ", "[#] sysctl ", "[#] nft ", "[#] iptables", "[#] ip6tables"]

/-- The line echoes a command. -/
def IsCommandEcho (line : Bytes) : Prop := lineHasPrefix line "[#]" = true

/-- The line echoes the deletion of a link. -/
def IsLinkDeletion (line : Bytes) : Prop := lineHasPrefix line "[#] ip link delete dev " = true

/-- The line echoes the claim of a link by a session. -/
def IsLinkClaim (line : Bytes) : Prop :=
  ∃ name linkToken, nameIsValid name = true ∧ linkTokenIsValid linkToken = true ∧
    line = ascii "[#] ip link set dev " ++ name ++ claimAlias ++ linkToken

/-- The stage of a line that has one. -/
def stageOf (line : Bytes) : Option QuickStage :=
  if line = fallbackMarker then some .userspace else (commandOf line).map KnownCommand.stage

/-- A line that the evidence may stand on: not too long, no zero byte and no carriage return, and
where it echoes a command, one that sets up the tunnel, a claim or a deletion of a link. -/
structure EvidentLine (line : Bytes) : Prop where
  length : line.length ≤ diagnosticLineLimit
  bytes : newline ∉ line ∧ 0 ∉ line ∧ 0x0d ∉ line
  command : IsCommandEcho line →
    (∃ text ∈ settingUp, lineHasPrefix line text = true) ∨ IsLinkClaim line ∨ IsLinkDeletion line
  harmless : ∀ text ∈ reachingOut, lineHasPrefix line text = false

/-- The lines of a run that has not touched the routing: the stages never go backwards, a link was
added and one was deleted, and after the first deletion no other command was run. -/
structure RecoveryEvidence (lines : List Bytes) : Prop where
  line : ∀ line ∈ lines, EvidentLine line
  stages : (lines.filterMap stageOf).Pairwise fun first second => first.index ≤ second.index
  added : ∃ line ∈ lines, lineHasPrefix line "[#] ip link add " = true
  deleted : ∃ line ∈ lines, IsLinkDeletion line
  last : ∀ before deletion after, lines = before ++ deletion :: after → IsLinkDeletion deletion →
    ∀ line ∈ after, IsCommandEcho line → IsLinkDeletion line

/-! ## One line of the evidence -/

theorem lineHasPrefix_iff {line : Bytes} {text : String} :
    lineHasPrefix line text = true ↔ ascii text <+: line :=
  List.isPrefixOf_iff_prefix

/-- A line starts with one of two texts that are no starts of each other. -/
theorem lineHasPrefix_disjoint {line : Bytes} {text text' : String}
    (h : lineHasPrefix line text = true)
    (hdisjoint : ¬ascii text <+: ascii text' ∧ ¬ascii text' <+: ascii text) :
    lineHasPrefix line text' = false := by
  by_contra h'
  rcases List.prefix_or_prefix_of_prefix (lineHasPrefix_iff.mp h)
    (lineHasPrefix_iff.mp (by simpa using h')) with hle | hle
  · exact hdisjoint.1 hle
  · exact hdisjoint.2 hle

/-- A claim that is recognized in a line without zero bytes is one. -/
theorem isLinkClaim_of_line {line : Bytes} (h : lineIsLinkClaim line = true) (hzero : 0 ∉ line) :
    IsLinkClaim line := by
  unfold lineIsLinkClaim at h
  split at h
  · exact absurd h Bool.false_ne_true
  rename_i hstart
  dsimp only at h
  split at h
  · exact absurd h Bool.false_ne_true
  rename_i name post hsplit
  split at h
  · exact absurd h Bool.false_ne_true
  rename_i hshape
  obtain ⟨-, hlength, halias⟩ := by simpa only [not_or, not_not] using hshape
  obtain ⟨hrest, -⟩ := splitFirst_eq_some.mp hsplit
  obtain ⟨rest, rfl⟩ := lineHasPrefix_iff.mp (by simpa using hstart)
  rw [List.drop_left] at hrest hlength halias h
  subst hrest
  rw [List.drop_left] at hlength halias h
  have htail : (0x20 :: post) = claimAlias ++ (0x20 :: post).drop claimAlias.length := by
    rw [← halias, List.length_take, hlength]
    conv_lhs => rw [← List.take_append_drop claimAlias.length (0x20 :: post)]
    rw [Nat.min_eq_left (by omega)]
  have hsame : ∀ part : Bytes, 0 ∉ part → cString part = part := by
    intro part hpart
    rw [cString, List.takeWhile_eq_self_iff]
    intro b hb
    simpa using fun hzero : b = 0 => hpart (hzero ▸ hb)
  have htoken : ((0x20 :: post).drop claimAlias.length).take linkTokenLength =
      (0x20 :: post).drop claimAlias.length := by
    rw [List.take_of_length_le]
    rw [List.length_drop, hlength]
    omega
  rw [htoken, Bool.and_eq_true, hsame name fun hmem => hzero (by simp [hmem]),
    hsame _ fun hmem => hzero (by
      rw [List.mem_append, List.mem_append]
      exact .inr (.inr (List.mem_of_mem_drop hmem)))] at h
  refine ⟨name, (0x20 :: post).drop claimAlias.length, h.1, h.2, ?_⟩
  conv_lhs => rw [htail]
  simp only [List.append_assoc]

/-- No deletion of a link is a line with a stage. -/
theorem stageOf_of_deletion {line : Bytes} (h : IsLinkDeletion line) : stageOf line = none := by
  have hmarker : line ≠ fallbackMarker := by
    rintro rfl
    exact absurd h (by unfold IsLinkDeletion; decide +kernel)
  have hdisjoint : ∀ command ∈ knownCommands,
      ¬ascii "[#] ip link delete dev " <+: ascii command.text ∧
        ¬ascii command.text <+: ascii "[#] ip link delete dev " := by
    decide +kernel
  have hnone : commandOf line = none := by
    rw [commandOf, List.find?_eq_none]
    intro command hcommand
    rw [lineHasPrefix_disjoint h (hdisjoint command hcommand)]
    exact Bool.false_ne_true
  rw [stageOf, if_neg hmarker, hnone]
  rfl

/-- What a line that does not block the evidence is, and what it changes. -/
inductive LineEffect (diagnostics : QuickDiagnostics) (line : Bytes) (after : QuickDiagnostics) :
    Prop
  | stage {stage : QuickStage} (hstage : stageOf line = some stage)
      (hevident : IsCommandEcho line → ∃ text ∈ settingUp, lineHasPrefix line text = true)
      (hgoing : diagnostics.teardownSeen = false)
      (hforward : diagnostics.currentStage.index ≤ stage.index)
      (hafter : after.currentStage = stage ∧ after.teardownSeen = false)
      (hadded : after.interfaceSeen = true → diagnostics.interfaceSeen = true ∨
        lineHasPrefix line "[#] ip link add " = true)
  | deletion (hdeletion : IsLinkDeletion line) (hstage : stageOf line = none)
      (hafter : after = { diagnostics with teardownSeen := true })
  | other (hevident : IsCommandEcho line →
        lineIsLinkClaim line = true ∧ diagnostics.teardownSeen = false)
      (hstage : stageOf line = none) (hnoDeletion : ¬IsLinkDeletion line)
      (hafter : after.currentStage = diagnostics.currentStage ∧
        after.teardownSeen = diagnostics.teardownSeen ∧
        after.interfaceSeen = diagnostics.interfaceSeen)

/-- A known command of a stage before the resolver is one of those that set up the tunnel. -/
theorem settingUp_of_known {command : KnownCommand} (h : command ∈ knownCommands)
    (hstage : command.stage.index < QuickStage.dns.index) :
    command.text ∈ settingUp ∧ command.cleanupCapable = false ∧
      (command.stage = .interface → command.text = "[#] ip link add ") := by
  have hall : ∀ command ∈ knownCommands, command.stage.index < QuickStage.dns.index →
      command.text ∈ settingUp ∧ command.cleanupCapable = false ∧
        (command.stage = .interface → command.text = "[#] ip link add ") := by
    decide +kernel
  exact hall command h hstage

/-- Where a stage does not block the evidence, it is one of setting up, not before the stage so
far, and no link was deleted. -/
theorem observeStage_unblocked {diagnostics : QuickDiagnostics} {stage : QuickStage}
    (h : (diagnostics.observeStage stage).recoveryBlocked = false) :
    diagnostics.recoveryBlocked = false ∧ stage.index < QuickStage.dns.index ∧
      diagnostics.currentStage.index ≤ stage.index ∧ diagnostics.teardownSeen = false := by
  simp only [QuickDiagnostics.observeStage, Bool.or_eq_false_iff, decide_eq_false_iff_not] at h
  obtain ⟨⟨⟨hblocked, hdns⟩, hforward⟩, hteardown⟩ := h
  exact ⟨hblocked, not_le.mp hdns, not_lt.mp hforward, hteardown⟩

/-- A line that does not block the evidence has one of the three effects. -/
theorem lineEffect_of_unblocked {diagnostics : QuickDiagnostics} {line : Bytes}
    (h : (diagnostics.classifyLine line).recoveryBlocked = false) :
    diagnostics.recoveryBlocked = false ∧
      LineEffect diagnostics line (diagnostics.classifyLine line) := by
  unfold QuickDiagnostics.classifyLine at h ⊢
  split at h
  · rename_i hmarker
    rw [if_pos hmarker]
    have hobserved : (diagnostics.observeStage .userspace).recoveryBlocked = false := h
    obtain ⟨hblocked, -, hforward, hteardown⟩ := observeStage_unblocked hobserved
    have hstage : stageOf line = some .userspace := by rw [stageOf, if_pos hmarker]
    refine ⟨hblocked, .stage hstage (fun hcommand => ?_) hteardown hforward ⟨rfl, hteardown⟩
      fun hadded => .inl ?_⟩
    · rw [hmarker] at hcommand
      exact absurd hcommand (by unfold IsCommandEcho; decide +kernel)
    · simpa [QuickDiagnostics.classifyMarker, QuickDiagnostics.observeStage] using hadded
  rename_i hmarker
  rw [if_neg hmarker]
  split at h
  · rename_i hteardown
    rw [if_pos hteardown]
    split at h
    · rename_i hdeletion
      rw [if_pos hdeletion]
      exact ⟨h, .deletion hdeletion (stageOf_of_deletion hdeletion) rfl⟩
    · exact absurd h.symm Bool.false_ne_true
  rename_i hteardown
  rw [if_neg hteardown]
  split at h
  · rename_i command hcommand
    have hfound := hcommand
    unfold commandOf at hfound
    have hmem := List.mem_of_find?_eq_some hfound
    have hprefix := List.find?_some hfound
    have hobserved : (diagnostics.observeStage command.stage).recoveryBlocked = false := by
      unfold QuickDiagnostics.classifyCommand at h
      dsimp only at h
      split at h <;> exact h
    obtain ⟨hblocked, hstage, hforward, hgoing⟩ := observeStage_unblocked hobserved
    obtain ⟨htext, hcapable, hinterface⟩ := settingUp_of_known hmem hstage
    have hstageOf : stageOf line = some command.stage := by
      rw [stageOf, if_neg hmarker, hcommand]
      rfl
    refine ⟨hblocked, .stage hstageOf (fun _ => ⟨_, htext, hprefix⟩) hgoing hforward ?_
      fun hadded => ?_⟩
    · simp [QuickDiagnostics.classifyCommand, hcapable, QuickDiagnostics.observeStage, hgoing]
    · have hadded : diagnostics.interfaceSeen = true ∨ command.stage = .interface := by
        simpa [QuickDiagnostics.classifyCommand, hcapable, QuickDiagnostics.observeStage]
          using hadded
      rcases hadded with hadded | hadded
      · exact .inl hadded
      · rw [hinterface hadded] at hprefix
        exact .inr hprefix
  · rename_i hcommand
    simp only [QuickDiagnostics.classifyOther, Bool.or_eq_false_iff, Bool.and_eq_false_iff] at h
    obtain ⟨hblocked, hline⟩ := h
    refine ⟨hblocked, .other (fun hecho => ?_) ?_ (fun hdeletion => hteardown ?_) ⟨rfl, rfl, rfl⟩⟩
    · rcases hline with hnoEcho | ⟨⟨hclaim, hgoing⟩, -⟩
      · exact absurd (hnoEcho.symm.trans hecho) Bool.false_ne_true
      · exact ⟨by simpa using hclaim, hgoing⟩
    · rw [stageOf, if_neg hmarker, hcommand]
      rfl
    · simp only [lineIsTeardownCommand, Bool.or_eq_true]
      exact .inr hdeletion

/-! ## The lines so far -/

/-- The lines that were read and what was seen of them, while the evidence is not blocked. -/
structure Observed (lines : List Bytes) (seen : QuickDiagnostics) : Prop where
  line : ∀ line ∈ lines, EvidentLine line
  stages : (lines.filterMap stageOf).Pairwise fun first second => first.index ≤ second.index
  reached : ∀ stage ∈ lines.filterMap stageOf, stage.index ≤ seen.currentStage.index
  added : seen.interfaceSeen = true →
    ∃ line ∈ lines, lineHasPrefix line "[#] ip link add " = true
  deleted : seen.teardownSeen = true ↔ ∃ line ∈ lines, IsLinkDeletion line
  last : ∀ before deletion after, lines = before ++ deletion :: after → IsLinkDeletion deletion →
    ∀ line ∈ after, IsCommandEcho line → IsLinkDeletion line

/-- Lines that a line is to be added to: after a deletion it may only be another one. -/
theorem last_concat {lines : List Bytes} {line : Bytes}
    (hlast : ∀ before deletion after, lines = before ++ deletion :: after →
      IsLinkDeletion deletion → ∀ line ∈ after, IsCommandEcho line → IsLinkDeletion line)
    (hline : (∃ deletion ∈ lines, IsLinkDeletion deletion) → IsCommandEcho line →
      IsLinkDeletion line) :
    ∀ before deletion after, lines ++ [line] = before ++ deletion :: after →
      IsLinkDeletion deletion → ∀ line ∈ after, IsCommandEcho line → IsLinkDeletion line := by
  intro before deletion after hlines hdeletion other hother hecho
  rcases List.eq_nil_or_concat after with rfl | ⟨others, final, rfl⟩
  · exact absurd hother List.not_mem_nil
  rw [List.concat_eq_append] at hother
  rw [List.concat_eq_append, ← List.cons_append, ← List.append_assoc] at hlines
  obtain ⟨rfl, hfinal⟩ := List.append_inj' hlines rfl
  obtain rfl := (List.cons.inj hfinal).1
  rcases List.mem_append.mp hother with hother | hother
  · exact hlast before deletion others rfl hdeletion other hother hecho
  · obtain rfl := List.mem_singleton.mp hother
    exact hline ⟨deletion, by simp, hdeletion⟩ hecho

/-- A line that echoes a command that sets up a tunnel, a claim or a deletion is none that reaches
out. -/
theorem harmless_of_command {line : Bytes}
    (h : IsCommandEcho line → (∃ text ∈ settingUp, lineHasPrefix line text = true) ∨
      IsLinkClaim line ∨ IsLinkDeletion line) :
    ∀ text ∈ reachingOut, lineHasPrefix line text = false := by
  have hdisjoint : ∀ text ∈ "[#] ip link set dev " :: "[#] ip link delete dev " :: settingUp,
      ∀ text' ∈ reachingOut,
        ¬ascii text <+: ascii text' ∧ ¬ascii text' <+: ascii text := by
    decide +kernel
  have hecho : ∀ text ∈ reachingOut, ascii "[#]" <+: ascii text := by decide +kernel
  intro text htext
  by_contra hline
  have hline : lineHasPrefix line text = true := by simpa using hline
  have hcommand : IsCommandEcho line :=
    lineHasPrefix_iff.mpr ((hecho text htext).trans (lineHasPrefix_iff.mp hline))
  have hnot : ∀ text' ∈ "[#] ip link set dev " :: "[#] ip link delete dev " :: settingUp,
      lineHasPrefix line text' = true → False := by
    intro text' htext' hline'
    rw [lineHasPrefix_disjoint hline' (hdisjoint text' htext' text htext)] at hline
    exact Bool.false_ne_true hline
  rcases h hcommand with ⟨text', htext', hline'⟩ | ⟨name, linkToken, -, -, hclaim⟩ | hdeletion
  · exact hnot text' (by simp [htext']) hline'
  · refine hnot "[#] ip link set dev " (by simp) (lineHasPrefix_iff.mpr ?_)
    rw [hclaim, List.append_assoc, List.append_assoc]
    exact List.prefix_append _ _
  · exact hnot "[#] ip link delete dev " (by simp) hdeletion

/-- A line that does not block the evidence is added to the lines. -/
theorem Observed.concat {lines : List Bytes} {seen : QuickDiagnostics} {line : Bytes}
    (h : Observed lines seen) (hlength : line.length ≤ diagnosticLineLimit)
    (hbytes : newline ∉ line ∧ 0 ∉ line ∧ 0x0d ∉ line)
    (hunblocked : (seen.classifyLine line).recoveryBlocked = false) :
    Observed (lines ++ [line]) (seen.classifyLine line) := by
  obtain ⟨-, heffect⟩ := lineEffect_of_unblocked hunblocked
  have hevident (hcommand : IsCommandEcho line →
      (∃ text ∈ settingUp, lineHasPrefix line text = true) ∨ IsLinkClaim line ∨
        IsLinkDeletion line) : ∀ other ∈ lines ++ [line], EvidentLine other := by
    intro other hother
    rcases List.mem_append.mp hother with hother | hother
    · exact h.line other hother
    · obtain rfl := List.mem_singleton.mp hother
      exact ⟨hlength, hbytes, hcommand, harmless_of_command hcommand⟩
  have hsnoc : (lines ++ [line]).filterMap stageOf =
      lines.filterMap stageOf ++ (stageOf line).toList := by
    rw [List.filterMap_append]
    cases hstage : stageOf line <;> simp [hstage]
  generalize seen.classifyLine line = after at *
  cases heffect with
  | @stage stage hstage hcommand hgoing hforward hafter hadded =>
    have hnone : ¬∃ line ∈ lines, IsLinkDeletion line := by
      rw [← h.deleted, hgoing]
      exact Bool.false_ne_true
    have hnoDeletion : ¬IsLinkDeletion line := by
      intro hdeletion
      rw [stageOf_of_deletion hdeletion] at hstage
      exact Option.some_ne_none _ hstage.symm
    rw [hstage, Option.toList_some] at hsnoc
    refine ⟨hevident fun hecho => .inl (hcommand hecho), ?_, ?_, fun hseen => ?_, ?_, ?_⟩
    · rw [hsnoc, List.pairwise_append]
      refine ⟨h.stages, List.pairwise_singleton _ _, fun first hfirst second hsecond => ?_⟩
      obtain rfl := List.mem_singleton.mp hsecond
      exact (h.reached first hfirst).trans hforward
    · intro reached hreached
      rw [hafter.1]
      rw [hsnoc] at hreached
      rcases List.mem_append.mp hreached with hreached | hreached
      · exact (h.reached reached hreached).trans hforward
      · obtain rfl := List.mem_singleton.mp hreached
        exact le_rfl
    · rcases hadded hseen with hbefore | hnow
      · obtain ⟨other, hother, hadd⟩ := h.added hbefore
        exact ⟨other, List.mem_append_left _ hother, hadd⟩
      · exact ⟨line, by simp, hnow⟩
    · rw [hafter.2]
      refine iff_of_false Bool.false_ne_true ?_
      rintro ⟨other, hother, hdeletion⟩
      rcases List.mem_append.mp hother with hother | hother
      · exact hnone ⟨other, hother, hdeletion⟩
      · obtain rfl := List.mem_singleton.mp hother
        exact hnoDeletion hdeletion
    · exact last_concat h.last fun hdeleted => absurd hdeleted hnone
  | deletion hdeletion hstage hafter =>
    rw [hstage, Option.toList_none, List.append_nil] at hsnoc
    rw [hafter]
    refine ⟨hevident fun _ => .inr (.inr hdeletion), by rw [hsnoc]; exact h.stages,
      by rw [hsnoc]; exact h.reached, fun hseen => ?_, iff_of_true rfl ⟨line, by simp, hdeletion⟩,
      last_concat h.last fun _ _ => hdeletion⟩
    obtain ⟨other, hother, hadd⟩ := h.added hseen
    exact ⟨other, List.mem_append_left _ hother, hadd⟩
  | other hcommand hstage hnoDeletion hafter =>
    obtain ⟨hcurrent, hteardown, hinterface⟩ := hafter
    rw [hstage, Option.toList_none, List.append_nil] at hsnoc
    refine ⟨hevident fun hecho => .inr (.inl (isLinkClaim_of_line (hcommand hecho).1 hbytes.2.1)),
      by rw [hsnoc]; exact h.stages, by rw [hsnoc, hcurrent]; exact h.reached, fun hseen => ?_, ?_,
      last_concat h.last fun hdeleted hecho => ?_⟩
    · obtain ⟨other, hother, hadd⟩ := h.added (hinterface ▸ hseen)
      exact ⟨other, List.mem_append_left _ hother, hadd⟩
    · rw [hteardown, h.deleted]
      refine ⟨fun ⟨other, hother, hdeletion⟩ => ⟨other, List.mem_append_left _ hother, hdeletion⟩,
        fun ⟨other, hother, hdeletion⟩ => ?_⟩
      rcases List.mem_append.mp hother with hother | hother
      · exact ⟨other, hother, hdeletion⟩
      · obtain rfl := List.mem_singleton.mp hother
        exact absurd hdeletion hnoDeletion
    · have hgoing := (hcommand hecho).2
      rw [h.deleted.mpr hdeleted] at hgoing
      exact absurd hgoing.symm Bool.false_ne_true

/-! ## The whole stream -/

/-- A stream as lines that have ended and the bytes after them. -/
def streamOf (lines : List Bytes) (rest : Bytes) : Bytes :=
  (lines.map fun line => line ++ [newline]).flatten ++ rest

/-- While the evidence is not blocked, the reader holds the bytes after the last line. -/
def DiagnosticsReader.Reads (reader : DiagnosticsReader) (data : Bytes) : Prop :=
  reader.seen.recoveryBlocked = false → reader.discarding = false ∧ ∃ lines,
    data = streamOf lines reader.line ∧ Observed lines reader.seen ∧
      reader.line.length ≤ diagnosticLineLimit ∧
      newline ∉ reader.line ∧ 0 ∉ reader.line ∧ 0x0d ∉ reader.line

/-- A byte more. -/
theorem reads_consumeByte {reader : DiagnosticsReader} {data : Bytes} (h : reader.Reads data)
    (b : UInt8) : (reader.consumeByte b).Reads (data ++ [b]) := by
  intro hblocked
  unfold DiagnosticsReader.consumeByte at hblocked ⊢
  split at hblocked
  · rename_i hnewline
    rw [if_pos hnewline]
    cases hdiscarding : reader.discarding with
    | true =>
      rw [hdiscarding] at hblocked
      exact absurd (hdiscarding.symm.trans (h hblocked).1) (Ne.symm Bool.false_ne_true)
    | false =>
      rw [hdiscarding] at hblocked
      have hclassified : (reader.seen.classifyLine reader.line).recoveryBlocked = false := hblocked
      obtain ⟨-, lines, hdata, hobserved, hlength, hbytes⟩ :=
        h (lineEffect_of_unblocked hclassified).1
      refine ⟨rfl, lines ++ [reader.line], ?_, hobserved.concat hlength hbytes hclassified,
        Nat.zero_le _, List.not_mem_nil, List.not_mem_nil, List.not_mem_nil⟩
      rw [hdata, hnewline]
      simp [streamOf]
  rename_i hnewline
  rw [if_neg hnewline]
  split at hblocked
  · rename_i hdiscarding
    rw [if_pos hdiscarding]
    rw [(h hblocked).1] at hdiscarding
    exact absurd hdiscarding Bool.false_ne_true
  rename_i hdiscarding
  rw [if_neg hdiscarding]
  dsimp only at hblocked ⊢
  split at hblocked
  · rename_i hroom
    rw [if_pos hroom]
    have hb : ¬(b = 0 ∨ b = 0x0d) := by
      intro hb
      rw [if_pos hb] at hblocked
      exact Bool.false_ne_true hblocked.symm
    rw [if_neg hb] at hblocked ⊢
    obtain ⟨hzero, hreturn⟩ := not_or.mp hb
    obtain ⟨hkept, lines, hdata, hobserved, hlength, hbytes⟩ := h hblocked
    refine ⟨hkept, lines, ?_, hobserved, ?_, ?_⟩
    · rw [hdata]
      simp [streamOf]
    · rw [List.length_append, List.length_singleton]
      exact hroom
    · simp only [List.mem_append, List.mem_singleton, not_or]
      exact ⟨⟨hbytes.1, Ne.symm hnewline⟩, ⟨hbytes.2.1, Ne.symm hzero⟩, hbytes.2.2,
        Ne.symm hreturn⟩
  · -- a line that is too long blocks the evidence before it is classified
    exact absurd (lineEffect_of_unblocked hblocked).1.symm Bool.false_ne_true

/-- The reader of a whole stream, by induction on its chunks. -/
theorem reads_consume {reader : DiagnosticsReader} {data : Bytes} (h : reader.Reads data)
    (more : Bytes) : (reader.consume more).Reads (data ++ more) := by
  induction more generalizing reader data with
  | nil => rwa [List.append_nil]
  | cons b more ih =>
    have hstep := ih (reads_consumeByte h b)
    rwa [List.append_assoc] at hstep

theorem reads_chunks {reader : DiagnosticsReader} {data : Bytes} (h : reader.Reads data)
    (chunks : List Bytes) :
    (chunks.foldl DiagnosticsReader.consume reader).Reads (data ++ chunks.flatten) := by
  induction chunks generalizing reader data with
  | nil => simpa using h
  | cons chunk chunks ih =>
    rw [List.flatten_cons, ← List.append_assoc]
    exact ih (reads_consume h chunk)

theorem reads_fresh : DiagnosticsReader.fresh.Reads [] := by
  refine fun _ => ⟨rfl, [], rfl, ⟨by simp, by simp, by simp, fun h => ?_, ?_, ?_⟩,
    by simp [DiagnosticsReader.fresh]⟩
  · exact absurd h Bool.false_ne_true
  · simp [DiagnosticsReader.fresh]
  · intro before deletion after hlines
    simp at hlines

/-- A stream that a reader has finished without a block consists of whole lines. -/
theorem observed_finish {reader : DiagnosticsReader} {data : Bytes} (h : reader.Reads data)
    (hblocked : reader.finish.seen.recoveryBlocked = false) :
    ∃ lines, data = streamOf lines [] ∧ Observed lines reader.finish.seen := by
  unfold DiagnosticsReader.finish at hblocked ⊢
  dsimp only at hblocked ⊢
  split at hblocked
  · exact absurd (lineEffect_of_unblocked hblocked).1.symm Bool.false_ne_true
  rename_i hdone
  rw [if_neg hdone]
  obtain ⟨hkept, lines, hdata, hobserved, -⟩ := h hblocked
  have hline : reader.line = [] := by
    by_contra hne
    exact hdone ⟨hkept, List.length_pos_iff.mpr hne⟩
  rw [hline] at hdata
  exact ⟨lines, hdata, hobserved⟩

/-- Where a run counts as one that failed before it touched the routing, its error stream, however
it came in chunks, consists of whole lines that are evidence of that. -/
theorem failedBeforeRoutes_evidence (chunks : List Bytes) (child : SubprocessResult)
    (hdiagnostics : child.diagnostics =
      (chunks.foldl DiagnosticsReader.consume .fresh).finish.seen)
    (hfailed : child.failedBeforeRoutes = true) :
    ∃ lines, chunks.flatten = (lines.map fun line => line ++ [newline]).flatten ∧
      RecoveryEvidence lines := by
  simp only [SubprocessResult.failedBeforeRoutes, Bool.and_eq_true, Bool.not_eq_true'] at hfailed
  obtain ⟨⟨⟨⟨⟨-, hadded⟩, hdeleted⟩, hblocked⟩, -⟩, -⟩ := hfailed
  rw [hdiagnostics] at hadded hdeleted hblocked
  obtain ⟨lines, hdata, hobserved⟩ := observed_finish (reads_chunks reads_fresh chunks) hblocked
  refine ⟨lines, ?_, hobserved.line, hobserved.stages, hobserved.added hadded,
    hobserved.deleted.mp hdeleted, hobserved.last⟩
  rwa [List.nil_append, streamOf, List.append_nil] at hdata

/-- A run whose `setconf` failed and that deleted its link again, read in three chunks. -/
def failedSetconf : List Bytes :=
  [ascii "[#] ip link add dev a type amneziawg\n[#] awg set",
    ascii "conf a /dev/fd/63\nUnable to modify interface\n",
    ascii "[#] ip link delete dev a\n"]

/-- Such a run counts as one that failed before it touched the routing. -/
theorem failedBeforeRoutes_evidence_setconf :
    ∃ lines, failedSetconf.flatten = (lines.map fun line => line ++ [newline]).flatten ∧
      RecoveryEvidence lines :=
  failedBeforeRoutes_evidence failedSetconf
    ⟨.exited, true, .exited 1, true,
      (failedSetconf.foldl DiagnosticsReader.consume .fresh).finish.seen, []⟩ rfl
    (by decide +kernel)

end NmSidebar
