import NmSidebar.AmneziaWG.Config

/-!
# What one line of a configuration is

`readConfigLine` says what the scanner makes of a line from the section it stands in alone, and
`ConfigLine.run` what that does to the scanner's variables. `scanConfigLine_eq_ok` joins them:
the later results about whole configurations use this description and never the scanner's text.
-/

namespace NmSidebar

open Text

/-- What the scanner makes of a line it accepts. -/
inductive ConfigLine where
  | blank
  | interface
  | other
  | dns (value : Bytes)
  | quick (name value : Bytes)
  | ignored
  deriving DecidableEq

/-- What the scanner makes of a directive; `text` is trimmed. -/
def readDirective (current : ConfigSection) (text : Bytes) : Option ConfigLine :=
  match splitFirst 0x3d text with
  | none => none
  | some (before, after) =>
    if current = .none ∨ tokenIsSafe (trim before) = false ∨ isUnsafeDirective (trim before) then
      none
    else if current = .interface then
      if spanEqual (trim before) "DNS" then some (.dns (trim after))
      else
        match safeQuickDirective (trim before) with
        | some name => some (.quick name (trim after))
        | none => some .ignored
    else some .ignored

/-- What the scanner makes of a section line; `text` is trimmed. -/
def readSection (current : ConfigSection) (seen : Bool) (text : Bytes) : Option ConfigLine :=
  let name := (text.drop 1).take (text.length - 2)
  if text.getLast? ≠ some 0x5d ∨ tokenIsSafe name = false then none
  else if spanEqual name "Interface" then
    if seen ∨ current ≠ .none then none else some .interface
  else if ¬seen then none
  else some .other

/-- What the scanner makes of a line, `none` where it rejects it whatever was read before. -/
def readConfigLine (current : ConfigSection) (seen : Bool) (line : Bytes) : Option ConfigLine :=
  if (uncomment line).any isUnsupported then none
  else if trim (uncomment line) = [] then some .blank
  else if (trim (uncomment line)).head? = some 0x5b then
    readSection current seen (trim (uncomment line))
  else readDirective current (trim (uncomment line))

/-- The effect of a line, `none` where its value is not accepted or does not fit. -/
def ConfigLine.run : ConfigLine → ConfigScan → Option ConfigScan
  | .blank, scan => some scan
  | .interface, scan =>
    some { scan with
      interfaceSeen := true, configSection := .interface, interfaceLineEnd := scan.offset }
  | .other, scan => some { scan with configSection := .other }
  | .dns value, scan => (dnsConfigAddValue scan.dns value).map fun dns => { scan with dns }
  | .quick name value, scan =>
    if scan.quickConfig.length + name.length + value.length + 4 ≤ maxConfigSize then
      some { scan with
        quickConfig := scan.quickConfig ++ name ++ ascii " = " ++ value ++ [newline] }
    else none
  | .ignored, scan => some scan

/-- Where a line of each kind can stand. -/
def ConfigLine.Stands (current : ConfigSection) (seen : Bool) : ConfigLine → Prop
  | .blank => True
  | .interface => seen = false ∧ current = .none
  | .other => seen = true
  | .dns _ => current = .interface
  | .quick _ _ => current = .interface
  | .ignored => current ≠ .none

theorem stands_of_readConfigLine {current : ConfigSection} {seen : Bool} {line : Bytes}
    {kind : ConfigLine} (h : readConfigLine current seen line = some kind) :
    kind.Stands current seen := by
  unfold readConfigLine at h
  split at h
  · cases h
  split at h
  · obtain rfl := Option.some.inj h
    trivial
  split at h
  · simp only [readSection] at h
    split_ifs at h with _ _ hfirst hseen
    · obtain rfl := Option.some.inj h
      obtain ⟨hseen, hcurrent⟩ := not_or.mp hfirst
      exact ⟨by simpa using hseen, not_not.mp hcurrent⟩
    · obtain rfl := Option.some.inj h
      show seen = true
      simpa using hseen
  · unfold readDirective at h
    split at h
    · cases h
    split at h
    · cases h
    rename_i hok
    split at h
    · rename_i hcurrent
      split at h
      · obtain rfl := Option.some.inj h
        exact hcurrent
      · split at h
        · obtain rfl := Option.some.inj h
          exact hcurrent
        · obtain rfl := Option.some.inj h
          exact (not_or.mp hok).1
    · obtain rfl := Option.some.inj h
      exact (not_or.mp hok).1

/-! ## The scanner's line functions -/

theorem checkedSub_of_le {a b : ℕ} (h : b ≤ a) : checkedSub a b = .ok (a - b) :=
  if_pos h

private theorem setParseError_ne_underflow {α : Type} {code : ConfigErrorCode} {line : ℕ}
    {message : String} : (setParseError code line message : Except ConfigFailure α) ≠
      .error .underflow := by
  simp [setParseError]

/-- A name of the four directives is short. -/
theorem length_safeQuickDirective {key name : Bytes} (h : safeQuickDirective key = some name) :
    name.length ≤ 10 ∧ safeQuickDirective name = some name := by
  obtain ⟨text, hfind, rfl⟩ := Option.map_eq_some_iff.mp h
  have hmem := List.mem_of_find?_eq_some hfind
  simp only [List.mem_cons, List.not_mem_nil, or_false] at hmem
  rcases hmem with rfl | rfl | rfl | rfl <;> decide

/-- The outcome of a line function agrees with a description of the line: it is accepted exactly
where the description runs, and then with the same variables, and it never wraps around. -/
def Agrees (result : Except ConfigFailure ConfigScan) (expected : Option ConfigScan) : Prop :=
  (∀ scan, result = .ok scan ↔ expected = some scan) ∧ result ≠ .error .underflow

private theorem agrees_ok (scan : ConfigScan) : Agrees (.ok scan) (some scan) :=
  ⟨fun _ => by simp, by simp⟩

private theorem agrees_error {code : ConfigErrorCode} {line : ℕ} {message : String} :
    Agrees (setParseError code line message) none :=
  ⟨fun _ => by simp [setParseError], setParseError_ne_underflow⟩

private theorem scanQuickDirective_agrees (scan : ConfigScan) {name : Bytes} (value : Bytes)
    (h : name.length ≤ 10) :
    Agrees (scanQuickDirective scan name value) (ConfigLine.run (.quick name value) scan) := by
  have hsep : (ascii " = ").length = 3 := by decide
  have hmax : maxConfigSize = 1048576 := rfl
  unfold scanQuickDirective ConfigLine.run
  simp only [bind, Except.bind]
  rw [checkedSub_of_le (by omega)]
  simp only
  rw [checkedSub_of_le (by omega)]
  simp only [hsep]
  split
  · rw [if_neg (by omega)]
    exact agrees_error
  · rw [checkedSub_of_le (by omega)]
    simp only
    split
    · rw [if_neg (by omega)]
      exact agrees_error
    · rw [if_pos (by omega)]
      exact agrees_ok _

private theorem scanDirective_agrees (scan : ConfigScan) (text : Bytes) :
    Agrees (scanDirective scan text)
      ((readDirective scan.configSection text).bind fun kind => kind.run scan) := by
  unfold scanDirective readDirective
  cases splitFirst 0x3d text with
  | none => exact agrees_error
  | some parts =>
    obtain ⟨before, after⟩ := parts
    dsimp only
    by_cases hnone : scan.configSection = .none
    · rw [if_pos hnone, if_pos (.inl hnone)]
      exact agrees_error
    by_cases hsafe : tokenIsSafe (trim before) = false
    · rw [if_neg hnone, if_pos hsafe, if_pos (.inr (.inl hsafe))]
      exact agrees_error
    by_cases hhook : isUnsafeDirective (trim before) = true
    · rw [if_neg hnone, if_neg hsafe, if_pos hhook, if_pos (.inr (.inr hhook))]
      exact agrees_error
    have hread : ¬(scan.configSection = .none ∨ tokenIsSafe (trim before) = false ∨
        isUnsafeDirective (trim before) = true) := by
      rintro (h | h | h)
      exacts [hnone h, hsafe h, hhook h]
    rw [if_neg hnone, if_neg hsafe, if_neg hhook, if_neg hread]
    split
    · split
      · simp only [Option.bind_some, ConfigLine.run]
        cases dnsConfigAddValue scan.dns (trim after) with
        | none => exact agrees_error
        | some dns => exact agrees_ok _
      · cases hquick : safeQuickDirective (trim before) with
        | none => exact agrees_ok _
        | some name => exact scanQuickDirective_agrees scan _ (length_safeQuickDirective hquick).1
    · exact agrees_ok _

private theorem scanSection_agrees (scan : ConfigScan) (text : Bytes)
    (hhead : text.head? = some 0x5b) :
    Agrees (scanSection scan text)
      ((readSection scan.configSection scan.interfaceSeen text).bind fun kind =>
        kind.run scan) := by
  unfold scanSection readSection
  by_cases hlast : text.getLast? ≠ some 0x5d
  · rw [if_pos hlast, if_pos (.inl hlast)]
    exact agrees_error
  -- a bracket at each end: the text has at least two bytes
  have hlen : 2 ≤ text.length := by
    match text, hhead with
    | [b], hhead =>
      simp only [List.head?_cons, Option.some.injEq] at hhead
      subst hhead
      exact absurd (by decide) hlast
    | _ :: _ :: _, _ => simp
  rw [if_neg hlast, checkedSub_of_le hlen]
  simp only [bind, Except.bind]
  by_cases hsafe : tokenIsSafe ((text.drop 1).take (text.length - 2)) = false
  · rw [if_pos hsafe, if_pos (.inr hsafe)]
    exact agrees_error
  rw [if_neg hsafe, if_neg (not_or.mpr ⟨hlast, hsafe⟩)]
  split
  · split
    · exact agrees_error
    · exact agrees_ok _
  · split
    · exact agrees_error
    · exact agrees_ok _

/-- One turn of the scanner: the line is what `readConfigLine` says, with its effect, and no size
wraps around as long as the line starts inside the data. -/
theorem scanConfigLine_agrees {length : ℕ} {scan : ConfigScan} (line : Bytes)
    (h : scan.offset ≤ length) :
    Agrees (scanConfigLine length scan line)
      ((readConfigLine scan.configSection scan.interfaceSeen line).bind fun kind =>
        kind.run (scan.advance line)) := by
  unfold scanConfigLine readConfigLine
  rw [checkedSub_of_le h]
  simp only [bind, Except.bind]
  split
  · exact agrees_error
  split
  · exact agrees_ok _
  split
  · rename_i hhead
    exact scanSection_agrees (scan.advance line) _ hhead
  · exact scanDirective_agrees (scan.advance line) _

/-- A line that is accepted, in terms of what it is. -/
theorem scanConfigLine_eq_ok {length : ℕ} {scan scan' : ConfigScan} {line : Bytes}
    (h : scan.offset ≤ length) :
    scanConfigLine length scan line = .ok scan' ↔
      ∃ kind, readConfigLine scan.configSection scan.interfaceSeen line = some kind ∧
        kind.run (scan.advance line) = some scan' := by
  rw [(scanConfigLine_agrees line h).1 scan', Option.bind_eq_some_iff]

/-- Only the counting of a line changes the offset. -/
theorem ConfigLine.run_offset {kind : ConfigLine} {scan scan' : ConfigScan}
    (h : kind.run scan = some scan') : scan'.offset = scan.offset := by
  cases kind with
  | dns value =>
    obtain ⟨dns, -, rfl⟩ := Option.map_eq_some_iff.mp h
    rfl
  | quick name value =>
    simp only [ConfigLine.run] at h
    split at h
    · obtain rfl := Option.some.inj h
      rfl
    · cases h
  | _ =>
    obtain rfl := Option.some.inj h
    rfl

/-! ## Runs over many lines -/

/-- The lines as they are read one after the other. -/
inductive ScanRun : ConfigScan → List Bytes → ConfigScan → Prop
  | nil (scan : ConfigScan) : ScanRun scan [] scan
  | cons {scan scan' scan'' : ConfigScan} {line : Bytes} {lines : List Bytes} {kind : ConfigLine}
      (hkind : readConfigLine scan.configSection scan.interfaceSeen line = some kind)
      (hrun : kind.run (scan.advance line) = some scan') (hrest : ScanRun scan' lines scan'') :
      ScanRun scan (line :: lines) scan''

/-- The scanner's loop, as long as its lines lie inside the data. -/
theorem foldlM_scanConfigLine {length : ℕ} {lines : List Bytes} {scan scan' : ConfigScan}
    (h : scan.offset + lines.flatten.length ≤ length) :
    lines.foldlM (scanConfigLine length) scan = .ok scan' ↔ ScanRun scan lines scan' := by
  induction lines generalizing scan with
  | nil =>
    constructor
    · intro heq
      obtain rfl : scan = scan' := by simpa [pure, Except.pure] using heq
      exact .nil scan
    · rintro ⟨⟩
      rfl
  | cons line lines ih =>
    simp only [List.flatten_cons, List.length_append] at h
    simp only [List.foldlM_cons, bind, Except.bind]
    constructor
    · intro heq
      cases hline : scanConfigLine length scan line with
      | error failure =>
        rw [hline] at heq
        cases heq
      | ok next =>
        rw [hline] at heq
        obtain ⟨kind, hkind, hrun⟩ := (scanConfigLine_eq_ok (by omega)).mp hline
        have hoffset := ConfigLine.run_offset hrun
        simp only [ConfigScan.advance] at hoffset
        exact .cons hkind hrun ((ih (by omega)).mp heq)
    · rintro (_ | ⟨hkind, hrun, hrest⟩)
      have hoffset := ConfigLine.run_offset hrun
      simp only [ConfigScan.advance] at hoffset
      rw [(scanConfigLine_eq_ok (by omega)).mpr ⟨_, hkind, hrun⟩]
      exact (ih (by omega)).mpr hrest

/-- The scanner's loop never wraps a size around. -/
theorem foldlM_scanConfigLine_ne_underflow {length : ℕ} {lines : List Bytes} {scan : ConfigScan}
    (h : scan.offset + lines.flatten.length ≤ length) :
    lines.foldlM (scanConfigLine length) scan ≠ .error .underflow := by
  induction lines generalizing scan with
  | nil => simp [pure, Except.pure]
  | cons line lines ih =>
    simp only [List.flatten_cons, List.length_append] at h
    simp only [List.foldlM_cons, bind, Except.bind]
    have hinside : scan.offset ≤ length := by omega
    have hstep := scanConfigLine_agrees line hinside
    cases hline : scanConfigLine length scan line with
    | error failure =>
      rw [hline] at hstep
      exact fun heq => hstep.2 heq
    | ok next =>
      obtain ⟨kind, -, hrun⟩ := (scanConfigLine_eq_ok (by omega)).mp hline
      have hoffset := ConfigLine.run_offset hrun
      simp only [ConfigScan.advance] at hoffset
      exact ih (by omega)

/-- Two stretches of lines are read one after the other. -/
theorem scanRun_append {scan scan'' : ConfigScan} {lines lines' : List Bytes} :
    ScanRun scan (lines ++ lines') scan'' ↔
      ∃ scan', ScanRun scan lines scan' ∧ ScanRun scan' lines' scan'' := by
  induction lines generalizing scan with
  | nil =>
    constructor
    · exact fun h => ⟨scan, .nil scan, h⟩
    · rintro ⟨scan', ⟨⟩, h⟩
      exact h
  | cons line lines ih =>
    constructor
    · rintro (_ | ⟨hkind, hrun, hrest⟩)
      obtain ⟨scan', h, h'⟩ := ih.mp hrest
      exact ⟨scan', .cons hkind hrun h, h'⟩
    · rintro ⟨scan', _ | ⟨hkind, hrun, hrest⟩, h'⟩
      exact .cons hkind hrun (ih.mpr ⟨scan', hrest, h'⟩)

/-- A configuration the scanner accepts, in terms of its lines. -/
theorem scanConfigEnvelope_eq_ok {data : Bytes} {scan : ConfigScan} :
    scanConfigEnvelope data = .ok scan ↔
      data.length ≤ maxConfigSize ∧ data ≠ [] ∧ 0 ∉ data ∧
        ScanRun .init (physicalLines data) scan ∧ scan.interfaceSeen = true ∧
        ¬(scan.dns.domains ≠ [] ∧ scan.dns.servers = []) := by
  have hflat : ConfigScan.init.offset + (physicalLines data).flatten.length ≤ data.length := by
    rw [flatten_physicalLines]
    simp [ConfigScan.init]
  unfold scanConfigEnvelope
  by_cases hlen : data.length > maxConfigSize
  · simp only [hlen, if_true, reduceCtorEq, false_iff]
    omega
  by_cases hnil : data = []
  · simp [hnil, maxConfigSize]
  by_cases hzero : 0 ∈ data
  · simp [hlen, hnil, hzero]
  rw [if_neg hlen, if_neg hnil, if_neg hzero]
  cases hfold : (physicalLines data).foldlM (scanConfigLine data.length) .init with
  | error failure =>
    constructor
    · intro h
      cases h
    · rintro ⟨-, -, -, hrun, -⟩
      rw [(foldlM_scanConfigLine hflat).mpr hrun] at hfold
      cases hfold
  | ok last =>
    have hlast := (foldlM_scanConfigLine hflat).mp hfold
    constructor
    · intro h
      dsimp only at h
      split at h
      · cases h
      rename_i hseen
      split at h
      · cases h
      rename_i hdns
      cases h
      exact ⟨by omega, hnil, hzero, hlast, by simpa using hseen, hdns⟩
    · rintro ⟨-, -, -, hrun, hseen, hdns⟩
      have := (foldlM_scanConfigLine hflat).mpr hrun
      rw [hfold] at this
      cases this
      dsimp only
      rw [if_neg (by simp [hseen]), if_neg hdns]

/-- A scan never wraps a size around. -/
theorem scanConfigEnvelope_ne_underflow (data : Bytes) :
    scanConfigEnvelope data ≠ .error .underflow := by
  have hflat : ConfigScan.init.offset + (physicalLines data).flatten.length ≤ data.length := by
    rw [flatten_physicalLines]
    simp [ConfigScan.init]
  have hfold := foldlM_scanConfigLine_ne_underflow hflat
  unfold scanConfigEnvelope
  split
  · simp
  split
  · simp
  split
  · simp
  cases h : (physicalLines data).foldlM (scanConfigLine data.length) .init with
  | error failure =>
    rw [h] at hfold
    exact hfold
  | ok scan =>
    dsimp only
    split
    · simp
    · split <;> simp

/-- An envelope is what a scan has gathered. -/
theorem exists_scan_of_configParseEnvelope {data : Bytes} {envelope : ConfigEnvelope}
    (h : configParseEnvelope data = .ok envelope) :
    ∃ scan, scanConfigEnvelope data = .ok scan ∧
      envelope = ⟨scan.quickConfig, scan.dns, scan.interfaceLineEnd⟩ := by
  unfold configParseEnvelope at h
  split at h
  · cases h
  rename_i scan hscan
  split at h
  · cases h
  · cases h
  · cases h
    exact ⟨scan, hscan, rfl⟩

end NmSidebar
