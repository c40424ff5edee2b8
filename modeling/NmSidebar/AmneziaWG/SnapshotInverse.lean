import NmSidebar.AmneziaWG.ConfigLines

/-!
# Snapshots and envelopes

A snapshot puts the quick-only directives of an envelope back behind the interface header of the
text `awg-quick strip` printed. Reading the snapshot gives the same directives, and taking them
out gives the stripped text. The lines of the snapshot are the lines of the stripped text with
the lines `Name = value` between them: `run_of_quiet` reads the former, `exists_quickLines` the
latter.
-/

namespace NmSidebar

open Text

/-! ## Lines that leave the envelope empty -/

/-- A stretch of lines, none of which adds to the envelope, read from the section `current`. -/
inductive QuietLines : ConfigSection → List Bytes → Prop
  | nil (current : ConfigSection) : QuietLines current []
  | blank {current : ConfigSection} {line : Bytes} {lines : List Bytes}
      (h : readConfigLine current true line = some .blank) (hrest : QuietLines current lines) :
      QuietLines current (line :: lines)
  | ignored {current : ConfigSection} {line : Bytes} {lines : List Bytes}
      (h : readConfigLine current true line = some .ignored) (hrest : QuietLines current lines) :
      QuietLines current (line :: lines)
  | other {current : ConfigSection} {line : Bytes} {lines : List Bytes}
      (h : readConfigLine current true line = some .other) (hrest : QuietLines .other lines) :
      QuietLines current (line :: lines)

/-- A `DNS` value adds a server or a domain. -/
theorem dnsConfigAddValue_ne_empty {dns dns' : DnsConfig} {value : Bytes}
    (h : dnsConfigAddValue dns value = some dns') :
    dns.servers.length + dns.domains.length < dns'.servers.length + dns'.domains.length := by
  have hfold (items : List Bytes) (start : DnsConfig) :
      (items.foldl dnsConfigAddItem start).servers.length +
        (items.foldl dnsConfigAddItem start).domains.length =
          start.servers.length + start.domains.length + items.length := by
    induction items generalizing start with
    | nil => rfl
    | cons item items ih =>
      rw [List.foldl_cons, ih, List.length_cons]
      unfold dnsConfigAddItem
      split <;> simp only [List.length_append, List.length_singleton] <;> omega
  have hitems : 0 < (dnsItems value).length := by
    rw [dnsItems, List.length_map, List.length_pos_iff]
    exact List.splitOn_ne_nil _ _
  unfold dnsConfigAddValue at h
  split at h
  · cases h
  · obtain rfl := Option.some.inj h
    rw [hfold]
    omega

/-- An envelope that stays empty was read from quiet lines. -/
theorem quietLines_of_run {scan scan' : ConfigScan} {lines : List Bytes}
    (h : ScanRun scan lines scan') (hseen : scan.interfaceSeen = true)
    (hquick : scan'.quickConfig = []) (hdns : scan'.dns = .empty) :
    QuietLines scan.configSection lines ∧ scan.quickConfig = [] ∧ scan.dns = .empty := by
  induction h with
  | nil scan => exact ⟨.nil _, hquick, hdns⟩
  | @cons scan scan₁ scan₂ line lines kind hkind hrun hrest ih =>
    rw [hseen] at hkind
    cases kind with
    | blank =>
      obtain rfl := Option.some.inj hrun
      obtain ⟨hlines, hquick, hdns⟩ := ih hseen hquick hdns
      exact ⟨.blank hkind hlines, hquick, hdns⟩
    | ignored =>
      obtain rfl := Option.some.inj hrun
      obtain ⟨hlines, hquick, hdns⟩ := ih hseen hquick hdns
      exact ⟨.ignored hkind hlines, hquick, hdns⟩
    | other =>
      obtain rfl := Option.some.inj hrun
      obtain ⟨hlines, hquick, hdns⟩ := ih hseen hquick hdns
      exact ⟨.other hkind hlines, hquick, hdns⟩
    | interface =>
      -- a second interface section is rejected
      exact absurd (stands_of_readConfigLine hkind).1 (by decide)
    | dns value =>
      obtain ⟨dns, hadd, rfl⟩ := Option.map_eq_some_iff.mp hrun
      obtain ⟨-, -, hempty⟩ := ih hseen hquick hdns
      have := dnsConfigAddValue_ne_empty hadd
      dsimp only at hempty
      subst hempty
      simp [DnsConfig.empty] at this
    | quick name value =>
      simp only [ConfigLine.run] at hrun
      split at hrun
      · obtain rfl := Option.some.inj hrun
        obtain ⟨-, hempty, -⟩ := ih hseen hquick hdns
        simp at hempty
      · cases hrun

/-- Quiet lines are read whatever the envelope holds, and leave it. -/
theorem run_of_quiet {current : ConfigSection} {lines : List Bytes}
    (h : QuietLines current lines) {scan : ConfigScan} (hcurrent : scan.configSection = current)
    (hseen : scan.interfaceSeen = true) :
    ∃ scan', ScanRun scan lines scan' ∧ scan'.quickConfig = scan.quickConfig ∧
      scan'.dns = scan.dns ∧ scan'.interfaceSeen = true ∧
      scan'.interfaceLineEnd = scan.interfaceLineEnd := by
  induction h generalizing scan with
  | nil => exact ⟨scan, .nil scan, rfl, rfl, hseen, rfl⟩
  | blank hkind _ ih =>
    obtain ⟨scan', hrun, hrest⟩ := @ih (scan.advance _) hcurrent hseen
    exact ⟨scan', .cons (by rw [hcurrent, hseen]; exact hkind) rfl hrun, hrest⟩
  | ignored hkind _ ih =>
    obtain ⟨scan', hrun, hrest⟩ := @ih (scan.advance _) hcurrent hseen
    exact ⟨scan', .cons (by rw [hcurrent, hseen]; exact hkind) rfl hrun, hrest⟩
  | other hkind _ ih =>
    obtain ⟨scan', hrun, hrest⟩ :=
      @ih { scan.advance _ with configSection := .other } rfl hseen
    exact ⟨scan', .cons (by rw [hcurrent, hseen]; exact hkind) rfl hrun, hrest⟩

/-! ## Lines that the envelope is made of -/

/-- A kept directive, as it stands in the envelope. -/
def quickDirectiveLine (name value : Bytes) : Bytes := name ++ ascii " = " ++ value ++ [newline]

/-- The bytes a value can hold: those of a line before its comment. -/
def IsPlain (xs : Bytes) : Prop :=
  ∀ b ∈ xs, isUnsupported b = false ∧ b ≠ newline ∧ b ≠ 0x23

theorem isPlain_uncomment {line : Bytes} (h : (uncomment line).any isUnsupported = false) :
    IsPlain (uncomment line) := by
  intro b hb
  refine ⟨by simpa using List.any_eq_false.mp h b hb, ?_, ?_⟩
  · rintro rfl
    exact newline_notMem_lineContent line ((List.takeWhile_sublist _).mem hb)
  · rintro rfl
    simpa using List.mem_takeWhile_imp hb

/-- The name and the value of a kept directive. -/
theorem plain_of_quick {current : ConfigSection} {seen : Bool} {line name value : Bytes}
    (h : readConfigLine current seen line = some (.quick name value)) :
    safeQuickDirective name = some name ∧ name.length ≤ 10 ∧ IsPlain value ∧
      trim value = value := by
  unfold readConfigLine at h
  split at h
  · cases h
  rename_i hsupported
  have hplain := isPlain_uncomment (by simpa using hsupported)
  split at h
  · cases h
  split at h
  · simp only [readSection] at h
    split_ifs at h <;> cases h
  · unfold readDirective at h
    split at h
    · cases h
    rename_i before after hsplit
    obtain ⟨htext, -⟩ := splitFirst_eq_some.mp hsplit
    split_ifs at h
    · cases h
    · split at h
      · rename_i hname
        simp only [Option.some.injEq, ConfigLine.quick.injEq] at h
        obtain ⟨rfl, rfl⟩ := h
        obtain ⟨hlen, hself⟩ := length_safeQuickDirective hname
        refine ⟨hself, hlen, fun b hb => ?_, trim_trim after⟩
        refine hplain b (mem_of_mem_trim ?_)
        rw [htext]
        exact List.mem_append_right _ (List.mem_cons_of_mem _ (mem_of_mem_trim hb))
      · cases h
    · cases h

/-- A name that a directive can have: no white space and nothing that ends it. -/
def IsDirectiveName (name : Bytes) : Prop :=
  name ≠ [] ∧ ∀ b ∈ name, isUnsupported b = false ∧ b ≠ newline ∧ b ≠ 0x23 ∧ b ≠ 0x3d ∧
    b ≠ 0x5b ∧ isSpace b = false

instance (name : Bytes) : Decidable (IsDirectiveName name) :=
  inferInstanceAs (Decidable (_ ∧ _))

/-- The name of a kept directive is a name, and that of no hook. -/
theorem isDirectiveName_of_safe {name : Bytes} (h : safeQuickDirective name = some name) :
    IsDirectiveName name ∧ tokenIsSafe name = true ∧ isUnsafeDirective name = false ∧
      spanEqual name "DNS" = false := by
  obtain ⟨text, hfind, rfl⟩ := Option.map_eq_some_iff.mp h
  have hmem := List.mem_of_find?_eq_some hfind
  simp only [List.mem_cons, List.not_mem_nil, or_false] at hmem
  rcases hmem with rfl | rfl | rfl | rfl <;> decide +kernel

section WrittenLine

variable {name value : Bytes} (hname : IsDirectiveName name) (hplain : IsPlain value)
include hname hplain

/-- A directive that is written out has no comment. -/
theorem uncomment_quickDirectiveLine :
    uncomment (quickDirectiveLine name value) = name ++ ascii " = " ++ value ∧
      (uncomment (quickDirectiveLine name value)).any isUnsupported = false := by
  have hsep : ∀ b ∈ ascii " = ", isUnsupported b = false ∧ b ≠ newline ∧ b ≠ 0x23 := by decide +kernel
  have hall : ∀ b ∈ name ++ ascii " = " ++ value, isUnsupported b = false ∧ b ≠ newline ∧
      b ≠ 0x23 := by
    intro b hb
    rcases List.mem_append.mp hb with hb | hb
    · rcases List.mem_append.mp hb with hb | hb
      · obtain ⟨hsupported, hnewline, hcomment, -⟩ := hname.2 b hb
        exact ⟨hsupported, hnewline, hcomment⟩
      · exact hsep b hb
    · exact hplain b hb
  have htext : uncomment (quickDirectiveLine name value) = name ++ ascii " = " ++ value := by
    rw [uncomment, quickDirectiveLine, lineContent_line fun h => (hall _ h).2.1 rfl,
      List.takeWhile_eq_self_iff]
    intro b hb
    simpa using (hall b hb).2.2
  refine ⟨htext, ?_⟩
  rw [htext, List.any_eq_false]
  intro b hb
  rw [(hall b hb).1]
  exact Bool.false_ne_true

/-- The parts of a directive that is written out. -/
theorem trim_quickDirectiveLine :
    trim (uncomment (quickDirectiveLine name value)) =
      (name ++ [0x20]) ++ 0x3d :: (0x20 :: value).rdropWhile isSpace := by
  have hself : trim name = name := trim_of_no_space fun b hb => (hname.2 b hb).2.2.2.2.2
  have hsplit : name ++ ascii " = " ++ value = name ++ (0x20 :: 0x3d :: 0x20 :: value) := by
    simp [ascii]
  have hrest : (0x20 :: 0x3d :: 0x20 :: value).rdropWhile isSpace =
      0x20 :: 0x3d :: (0x20 :: value).rdropWhile isSpace := by
    have hend : [0x20, 0x3d].rdropWhile isSpace = [0x20, 0x3d] := by decide
    exact rdropWhile_append hend (0x20 :: value)
  rw [(uncomment_quickDirectiveLine hname hplain).1, hsplit, trim_append hname.1 hself, hrest]
  simp

omit hplain in
/-- The name in front of the separator. -/
theorem trim_directiveName : trim (name ++ [0x20]) = name ∧ (0x3d : UInt8) ∉ name ++ [0x20] := by
  refine ⟨?_, fun h => ?_⟩
  · rw [trim_append hname.1 (trim_of_no_space fun b hb => (hname.2 b hb).2.2.2.2.2)]
    simp [List.rdropWhile_singleton, isSpace]
  · rcases List.mem_append.mp h with h | h
    · exact (hname.2 _ h).2.2.2.1 rfl
    · exact absurd h (by decide)

/-- A directive that is written out is no section line. -/
theorem head_quickDirectiveLine :
    trim (uncomment (quickDirectiveLine name value)) ≠ [] ∧
      (trim (uncomment (quickDirectiveLine name value))).head? ≠ some 0x5b := by
  rw [trim_quickDirectiveLine hname hplain]
  obtain ⟨b, rest, hb⟩ := List.exists_cons_of_ne_nil hname.1
  refine ⟨by simp, ?_⟩
  rw [hb]
  simpa using (hname.2 b (by simp [hb])).2.2.2.2.1

end WrittenLine

/-- A kept directive is read back as itself. -/
theorem readConfigLine_quickDirectiveLine {name value : Bytes}
    (hname : safeQuickDirective name = some name) (hplain : IsPlain value)
    (htrim : trim value = value) :
    readConfigLine .interface true (quickDirectiveLine name value) =
      some (.quick name value) := by
  obtain ⟨hword, hsafe, hhook, hdns⟩ := isDirectiveName_of_safe hname
  obtain ⟨htrimName, hequals⟩ := trim_directiveName hword
  obtain ⟨hsome, hhead⟩ := head_quickDirectiveLine hword hplain
  unfold readConfigLine
  rw [if_neg (Bool.eq_false_iff.mp (uncomment_quickDirectiveLine hword hplain).2), if_neg hsome,
    if_neg hhead, trim_quickDirectiveLine hword hplain]
  unfold readDirective
  rw [splitFirst_append hequals]
  simp only [htrimName, trim_rdropWhile_space (b := 0x20) rfl htrim, hsafe, hhook, hdns, hname]
  simp

/-- A line that the scanner has put into the envelope. -/
def IsQuickDirectiveLine (line : Bytes) : Prop :=
  ∃ name value, line = quickDirectiveLine name value ∧ safeQuickDirective name = some name ∧
    IsPlain value ∧ trim value = value

theorem IsQuickDirectiveLine.shape {line : Bytes} (h : IsQuickDirectiveLine line) :
    (∃ pre, line = pre ++ [newline] ∧ newline ∉ pre) ∧ 0 ∉ line := by
  obtain ⟨name, value, rfl, hname, hplain, -⟩ := h
  have hkey : ∀ b ∈ name, b ≠ newline ∧ b ≠ 0 := by
    obtain ⟨text, hfind, rfl⟩ := Option.map_eq_some_iff.mp hname
    have hmem := List.mem_of_find?_eq_some hfind
    simp only [List.mem_cons, List.not_mem_nil, or_false] at hmem
    rcases hmem with rfl | rfl | rfl | rfl <;> decide +kernel
  have hsep : ∀ b ∈ ascii " = ", b ≠ newline ∧ b ≠ 0 := by decide +kernel
  have hall : ∀ b ∈ name ++ ascii " = " ++ value, b ≠ newline ∧ b ≠ 0 := by
    intro b hb
    rcases List.mem_append.mp hb with hb | hb
    · rcases List.mem_append.mp hb with hb | hb
      · exact hkey b hb
      · exact hsep b hb
    · refine ⟨(hplain b hb).2.1, ?_⟩
      rintro rfl
      exact absurd (hplain 0 hb).1 (by decide)
  refine ⟨⟨_, rfl, fun h => (hall _ h).1 rfl⟩, fun h => ?_⟩
  rcases List.mem_append.mp h with h | h
  · exact (hall _ h).2 rfl
  · exact absurd h (by decide)

/-- The kept directives of a run, as lines: wherever the envelope stands where it stood, reading
them in the interface section makes it grow in the same way. -/
theorem exists_quickLines {scan scan' : ConfigScan} {lines : List Bytes}
    (h : ScanRun scan lines scan') :
    ∃ directives : List Bytes, scan'.quickConfig = scan.quickConfig ++ directives.flatten ∧
      (∀ line ∈ directives, IsQuickDirectiveLine line) ∧
      ∀ start : ConfigScan, start.configSection = .interface → start.interfaceSeen = true →
        start.quickConfig = scan.quickConfig →
        ∃ last, ScanRun start directives last ∧ last.configSection = .interface ∧
          last.interfaceSeen = true ∧ last.quickConfig = scan'.quickConfig ∧
          last.dns = start.dns ∧ last.interfaceLineEnd = start.interfaceLineEnd := by
  induction h with
  | nil scan =>
    exact ⟨[], by simp, by simp, fun start hcurrent hseen hquick =>
      ⟨start, .nil start, hcurrent, hseen, hquick, rfl, rfl⟩⟩
  | @cons scan scan₁ scan₂ line lines kind hkind hrun hrest ih =>
    obtain ⟨directives, hquick, hlines, hread⟩ := ih
    cases kind with
    | quick name value =>
      obtain ⟨hname, hlen, hplain, htrim⟩ := plain_of_quick hkind
      simp only [ConfigLine.run] at hrun
      split at hrun
      · rename_i hfits
        obtain rfl := Option.some.inj hrun
        refine ⟨quickDirectiveLine name value :: directives, ?_, ?_, ?_⟩
        · rw [hquick]
          simp [quickDirectiveLine, ConfigScan.advance]
        · intro l hl
          rcases List.mem_cons.mp hl with rfl | hl
          · exact ⟨name, value, rfl, hname, hplain, htrim⟩
          · exact hlines l hl
        · intro start hcurrent hseen hstart
          have hline := readConfigLine_quickDirectiveLine hname hplain htrim
          obtain ⟨last, hlast, hrest⟩ := hread
            { start.advance (quickDirectiveLine name value) with
              quickConfig := start.quickConfig ++ name ++ ascii " = " ++ value ++ [newline] }
            hcurrent hseen (by rw [hstart]; rfl)
          refine ⟨last, .cons (by rw [hcurrent, hseen]; exact hline) ?_ hlast, hrest⟩
          have hroom : (start.advance (quickDirectiveLine name value)).quickConfig.length +
              name.length + value.length + 4 ≤ maxConfigSize := by
            rw [show (start.advance _).quickConfig = start.quickConfig from rfl, hstart]
            exact hfits
          exact if_pos hroom
      · cases hrun
    | dns value =>
      obtain ⟨dns, -, rfl⟩ := Option.map_eq_some_iff.mp hrun
      exact ⟨directives, hquick, hlines, hread⟩
    | _ =>
      obtain rfl := Option.some.inj hrun
      exact ⟨directives, hquick, hlines, hread⟩

/-! ## The interface header -/

/-- Reading lines moves the offset by their lengths. -/
theorem ScanRun.offset_eq {scan scan' : ConfigScan} {lines : List Bytes}
    (h : ScanRun scan lines scan') : scan'.offset = scan.offset + lines.flatten.length := by
  induction h with
  | nil scan => simp
  | cons hkind hrun hrest ih =>
    rw [ih, ConfigLine.run_offset hrun]
    simp only [ConfigScan.advance, List.flatten_cons, List.length_append]
    omega

/-- The position of the header is settled once it has been read. -/
theorem ScanRun.interfaceLineEnd_eq {scan scan' : ConfigScan} {lines : List Bytes}
    (h : ScanRun scan lines scan') (hseen : scan.interfaceSeen = true) :
    scan'.interfaceLineEnd = scan.interfaceLineEnd := by
  induction h with
  | nil scan => rfl
  | @cons scan scan₁ scan₂ line lines kind hkind hrun hrest ih =>
    cases kind with
    | interface =>
      have := (stands_of_readConfigLine hkind).1
      rw [hseen] at this
      cases this
    | dns value =>
      obtain ⟨dns, -, rfl⟩ := Option.map_eq_some_iff.mp hrun
      exact ih hseen
    | quick name value =>
      simp only [ConfigLine.run] at hrun
      split at hrun
      · obtain rfl := Option.some.inj hrun
        exact ih hseen
      · cases hrun
    | _ =>
      obtain rfl := Option.some.inj hrun
      exact ih hseen

/-- The variables right after the header. -/
def ConfigScan.enterInterface (scan : ConfigScan) (header : Bytes) : ConfigScan :=
  { scan.advance header with
    interfaceSeen := true, configSection := .interface
    interfaceLineEnd := (scan.advance header).offset }

/-- A run that comes across the interface header: before it there is nothing to keep. -/
theorem exists_header_of_run {scan scan' : ConfigScan} {lines : List Bytes}
    (h : ScanRun scan lines scan') (hcurrent : scan.configSection = .none)
    (hunseen : scan.interfaceSeen = false) (hseen : scan'.interfaceSeen = true) :
    ∃ before header after pre, lines = before ++ header :: after ∧ ScanRun scan before pre ∧
      pre.configSection = .none ∧ pre.interfaceSeen = false ∧
      pre.quickConfig = scan.quickConfig ∧ pre.dns = scan.dns ∧
      readConfigLine .none false header = some .interface ∧
      ScanRun (pre.enterInterface header) after scan' := by
  induction h with
  | nil scan =>
    rw [hunseen] at hseen
    cases hseen
  | @cons scan scan₁ scan₂ line lines kind hkind hrun hrest ih =>
    have hstands := stands_of_readConfigLine hkind
    cases kind with
    | blank =>
      obtain rfl := Option.some.inj hrun
      obtain ⟨before, header, after, pre, rfl, hbefore, hpre⟩ := ih hcurrent hunseen hseen
      exact ⟨line :: before, header, after, pre, rfl, .cons hkind rfl hbefore, hpre⟩
    | interface =>
      obtain rfl := Option.some.inj hrun
      rw [hcurrent, hunseen] at hkind
      exact ⟨[], line, lines, scan, rfl, .nil scan, hcurrent, hunseen, rfl, rfl, hkind, hrest⟩
    | other =>
      have : scan.interfaceSeen = true := hstands
      rw [hunseen] at this
      cases this
    | dns value =>
      have : scan.configSection = .interface := hstands
      rw [hcurrent] at this
      cases this
    | quick name value =>
      have : scan.configSection = .interface := hstands
      rw [hcurrent] at this
      cases this
    | ignored => exact absurd hcurrent hstands

/-- An accepted configuration around its interface header, where the insertion point is. -/
theorem exists_header_of_scan {data : Bytes} {scan : ConfigScan}
    (h : scanConfigEnvelope data = .ok scan) :
    ∃ before header after pre, physicalLines data = before ++ header :: after ∧
      ScanRun .init before pre ∧ pre.configSection = .none ∧ pre.interfaceSeen = false ∧
      pre.quickConfig = [] ∧ pre.dns = .empty ∧
      readConfigLine .none false header = some .interface ∧
      ScanRun (pre.enterInterface header) after scan ∧
      scan.interfaceLineEnd = (before.flatten ++ header).length := by
  obtain ⟨-, -, -, hrun, hseen, -⟩ := scanConfigEnvelope_eq_ok.mp h
  obtain ⟨before, header, after, pre, hlines, hbefore, hcurrent, hunseen, hquick, hdns, hheader,
    hafter⟩ := exists_header_of_run hrun rfl rfl hseen
  refine ⟨before, header, after, pre, hlines, hbefore, hcurrent, hunseen, hquick, hdns, hheader,
    hafter, ?_⟩
  rw [hafter.interfaceLineEnd_eq rfl]
  simp [ConfigScan.enterInterface, ConfigScan.advance, hbefore.offset_eq, ConfigScan.init]

/-- The insertion point lies inside the text it was read from. -/
theorem interfaceLineEnd_le {data : Bytes} {scan : ConfigScan}
    (h : scanConfigEnvelope data = .ok scan) : scan.interfaceLineEnd ≤ data.length := by
  obtain ⟨before, header, after, -, hlines, -, -, -, -, -, -, -, hend⟩ := exists_header_of_scan h
  have hflat := flatten_physicalLines data
  rw [hlines, List.flatten_append, List.flatten_cons] at hflat
  rw [hend, ← hflat]
  simp only [List.length_append]
  omega

/-! ## The sizes of a snapshot -/

/-- A newline where something is inserted behind a byte that is none. -/
def separatorAt (protocolConfig quickConfig : Bytes) (lineEnd : ℕ) : Bytes :=
  if quickConfig ≠ [] ∧ lineEnd > 0 ∧ protocolConfig[lineEnd - 1]? ≠ some newline then [newline]
  else []

theorem snapshotSeparator_eq (protocolConfig : Bytes) (envelope : ConfigEnvelope) (lineEnd : ℕ) :
    snapshotSeparator protocolConfig envelope lineEnd =
      .ok (separatorAt protocolConfig envelope.quickConfig lineEnd) := by
  unfold snapshotSeparator separatorAt
  simp only [gt_iff_lt, List.length_pos_iff]
  by_cases h : envelope.quickConfig ≠ [] ∧ lineEnd > 0
  · have hone : 1 ≤ lineEnd := h.2
    rw [if_pos h, checkedSub, if_pos hone]
    simp only [bind, Except.bind]
    by_cases hlast : protocolConfig[lineEnd - 1]? ≠ some newline
    · rw [if_pos hlast, if_pos ⟨h.1, h.2, hlast⟩]
    · rw [if_neg hlast, if_neg fun hall => hlast hall.2.2]
  · rw [if_neg h, if_neg fun hall => h ⟨hall.1, hall.2.1⟩]

/-- The chained comparisons say that the sum of the sizes is within the limit. -/
theorem runtimeSnapshotFits_eq (protocol quick separator reserve : ℕ) :
    runtimeSnapshotFits protocol quick separator reserve =
      .ok (decide (protocol + separator + quick + reserve ≤ maxConfigSize)) := by
  unfold runtimeSnapshotFits
  split
  · rw [decide_eq_false (by omega)]
  · rw [checkedSub, if_pos (by omega)]
    simp only [bind, Except.bind]
    split
    · rw [decide_eq_false (by omega)]
    · rw [checkedSub, if_pos (by omega)]
      simp only
      split
      · rw [decide_eq_false (by omega)]
      · rw [checkedSub, if_pos (by omega)]
        simp only [Except.ok.injEq, decide_eq_decide]
        omega

/-- What building a snapshot does, without its intermediate sizes. -/
theorem runtimeSnapshotBuild_eq {protocolConfig : Bytes} {unexpected : ConfigScan}
    (h : scanConfigEnvelope protocolConfig = .ok unexpected) (envelope : ConfigEnvelope)
    (sizeReserve : ℕ) :
    runtimeSnapshotBuild protocolConfig envelope sizeReserve =
      if unexpected.quickConfig ≠ [] ∨ unexpected.dns.servers ≠ [] ∨
          unexpected.dns.domains ≠ [] then
        .error (.rejected .invalidData "awg-quick strip output contains quick-only directives")
      else
        let lineEnd := unexpected.interfaceLineEnd
        let separator := separatorAt protocolConfig envelope.quickConfig lineEnd
        if protocolConfig.length + separator.length + envelope.quickConfig.length + sizeReserve ≤
            maxConfigSize then
          .ok (protocolConfig.take lineEnd ++ separator ++ envelope.quickConfig ++
            protocolConfig.drop lineEnd)
        else .error (.rejected .tooLarge "runtime configuration exceeds the size limit") := by
  unfold runtimeSnapshotBuild
  rw [h]
  simp only [bind, Except.bind, snapshotSeparator_eq, runtimeSnapshotFits_eq,
    decide_eq_false_iff_not]
  split
  · rfl
  · rw [checkedSub, if_pos (interfaceLineEnd_le h)]
    exact ite_not ..

/-- Building a snapshot never wraps a size around. -/
theorem runtimeSnapshotBuild_ne_underflow (protocolConfig : Bytes) (envelope : ConfigEnvelope)
    (sizeReserve : ℕ) :
    runtimeSnapshotBuild protocolConfig envelope sizeReserve ≠ .error .underflow := by
  cases h : scanConfigEnvelope protocolConfig with
  | error failure =>
    have := scanConfigEnvelope_ne_underflow protocolConfig
    rw [h] at this
    unfold runtimeSnapshotBuild
    rw [h]
    simpa [bind, Except.bind] using this
  | ok unexpected =>
    rw [runtimeSnapshotBuild_eq h]
    dsimp only
    split
    · exact fun heq => nomatch heq
    · split
      · exact fun heq => nomatch heq
      · exact fun heq => nomatch heq

/-- Parsing an envelope never wraps a size around. -/
theorem configParseEnvelope_ne_underflow (data : Bytes) :
    configParseEnvelope data ≠ .error .underflow := by
  have hscan := scanConfigEnvelope_ne_underflow data
  unfold configParseEnvelope
  split
  · rename_i failure hfailure
    rw [hfailure] at hscan
    simpa using hscan
  · split <;> simp

/-! ## Reading a snapshot -/

/-- The text in front of and behind the insertion point. -/
theorem take_drop_header {data : Bytes} {before after : List Bytes} {header : Bytes}
    (h : physicalLines data = before ++ header :: after) :
    data.take (before.flatten ++ header).length = before.flatten ++ header ∧
      data.drop (before.flatten ++ header).length = after.flatten := by
  have hdata : data = (before.flatten ++ header) ++ after.flatten := by
    rw [← flatten_physicalLines data, h, List.flatten_append, List.flatten_cons,
      List.append_assoc]
  rw [hdata]
  exact ⟨List.take_left, List.drop_left⟩

/-- The separator stands behind a header line that has no newline of its own. -/
theorem separatorAt_header {data header : Bytes} (quick : Bytes)
    {before after : List Bytes} (hlines : physicalLines data = before ++ header :: after)
    (hne : header ≠ []) :
    separatorAt data quick (before.flatten ++ header).length =
      if quick ≠ [] ∧ header.getLast? ≠ some newline then [newline] else [] := by
  have hpos : 0 < header.length := List.length_pos_iff.mpr hne
  have hlt : (before.flatten ++ header).length - 1 < (before.flatten ++ header).length := by
    simp only [List.length_append]
    omega
  have hlast : data[(before.flatten ++ header).length - 1]? = header.getLast? := by
    obtain ⟨htake, -⟩ := take_drop_header hlines
    rw [← List.getElem?_take_of_lt hlt, htake, ← List.getLast?_eq_getElem?,
      List.getLast?_append_of_ne_nil _ hne]
  rw [separatorAt, hlast]
  refine if_congr ⟨fun h => ⟨h.1, h.2.2⟩, fun h => ⟨h.1, by omega, h.2⟩⟩ rfl rfl

/-- With the separator the header is a whole line, of the same content. -/
theorem header_separatorAt {data quick header : Bytes} {before after : List Bytes}
    (hlines : physicalLines data = before ++ header :: after) (hne : header ≠ [])
    (hquick : quick ≠ []) :
    ∃ pre, header ++ separatorAt data quick (before.flatten ++ header).length = pre ++ [newline] ∧
      newline ∉ pre ∧ lineContent header = pre := by
  rw [separatorAt_header quick hlines hne]
  rcases (physicalLines_shape hlines).2 with ⟨pre, rfl, hpre⟩ | ⟨hheader, -⟩
  · refine ⟨pre, ?_, hpre, lineContent_line hpre⟩
    rw [if_neg fun h => h.2 (by simp), List.append_nil]
  · refine ⟨header, ?_, hheader, lineContent_last hheader⟩
    rw [if_pos ⟨hquick, fun h => hheader (List.mem_of_getLast? h)⟩]

/-- Whole lines in the place of one line of a text are lines of the result. -/
theorem physicalLines_insert {data line : Bytes} {before after lines : List Bytes}
    (hdata : physicalLines data = before ++ line :: after)
    (hlines : ∀ line ∈ lines, ∃ pre, line = pre ++ [newline] ∧ newline ∉ pre)
    (hne : lines ≠ []) :
    physicalLines ((before ++ lines).flatten ++ after.flatten) = before ++ lines ++ after := by
  have hwhole : ∀ line ∈ before ++ lines, ∃ pre, line = pre ++ [newline] ∧ newline ∉ pre := by
    intro other hother
    rcases List.mem_append.mp hother with hother | hother
    · exact (physicalLines_shape hdata).1 other hother
    · exact hlines other hother
  have hlast : (before ++ lines).flatten.getLast? = some newline := by
    have hsome : before ++ lines ≠ [] := by simp [hne]
    obtain ⟨pre, hpre, -⟩ := hwhole _ (List.getLast_mem hsome)
    rw [← List.dropLast_append_getLast hsome, hpre]
    simp
  have hdata' : physicalLines data = (before ++ [line]) ++ after := by
    rw [hdata, List.append_assoc]
    rfl
  rw [physicalLines_append (.inr hlast), physicalLines_flatten hwhole, physicalLines_drop hdata']

/-- Directives kept from one configuration, inserted behind the header of a text that keeps
none, are what the scanner keeps of the result. -/
theorem scanConfigEnvelope_insert {data protocolConfig : Bytes} {scan unexpected : ConfigScan}
    (hscan : scanConfigEnvelope data = .ok scan)
    (hprotocol : scanConfigEnvelope protocolConfig = .ok unexpected)
    (hquick : unexpected.quickConfig = []) (hdns : unexpected.dns = .empty)
    {lineEnd : ℕ} (hend : lineEnd = unexpected.interfaceLineEnd) {separator snapshot : Bytes}
    (hsep : separator = separatorAt protocolConfig scan.quickConfig lineEnd)
    (hsnapshot : snapshot = protocolConfig.take lineEnd ++ separator ++ scan.quickConfig ++
      protocolConfig.drop lineEnd) (hlen : snapshot.length ≤ maxConfigSize) :
    ∃ last, scanConfigEnvelope snapshot = .ok last ∧ last.quickConfig = scan.quickConfig ∧
      last.dns = .empty ∧ last.interfaceLineEnd = lineEnd + separator.length := by
  by_cases hnil : scan.quickConfig = []
  · -- nothing is inserted: the snapshot is the stripped text
    have hsep' : separator = [] := by
      rw [hsep, separatorAt, if_neg fun h => h.1 hnil]
    rw [hsep', hnil, List.append_nil, List.append_nil, List.take_append_drop] at hsnapshot
    subst hsnapshot
    exact ⟨unexpected, hprotocol, hquick.trans hnil.symm, hdns, by simp [hend, hsep']⟩
  obtain ⟨before, header, after, pre, hlines, hbefore, hcurrent, hunseen, hprequick, hpredns,
    hheader, hafter, hlineEnd⟩ := exists_header_of_scan hprotocol
  have hheaderne : header ≠ [] := by
    rintro rfl
    exact absurd hheader (by decide)
  obtain ⟨directives, hdirectives, hshape, hread⟩ :=
    exists_quickLines (scanConfigEnvelope_eq_ok.mp hscan).2.2.2.1
  obtain ⟨headerPre, hheaderLine, hheaderPre, hcontent⟩ :=
    header_separatorAt hlines hheaderne hnil
  rw [hend, hlineEnd] at hsep
  rw [hend, hlineEnd] at hsnapshot ⊢
  obtain ⟨htake, hdrop⟩ := take_drop_header hlines
  rw [← hsep] at hheaderLine
  -- the lines of the snapshot
  have hflat : snapshot =
      (before ++ (header ++ separator) :: directives).flatten ++ after.flatten := by
    rw [hsnapshot, htake, hdrop, hdirectives]
    simp [ConfigScan.init]
  have hwhole : ∀ line ∈ (header ++ separator) :: directives, ∃ pre,
      line = pre ++ [newline] ∧ newline ∉ pre := by
    intro line hline
    rcases List.mem_cons.mp hline with rfl | hline
    · exact ⟨headerPre, hheaderLine, hheaderPre⟩
    · exact (hshape line hline).shape.1
  have hphysical : physicalLines snapshot =
      before ++ (header ++ separator) :: directives ++ after := by
    rw [hflat]
    exact physicalLines_insert hlines hwhole (by simp)
  -- reading them one after the other
  have hmid : readConfigLine .none false (header ++ separator) = some .interface := by
    have hsame : uncomment (header ++ separator) = uncomment header := by
      rw [uncomment, uncomment, hheaderLine, lineContent_line hheaderPre, hcontent]
    rw [readConfigLine, hsame]
    exact hheader
  obtain ⟨quiet, -, -⟩ := quietLines_of_run hafter rfl hquick hdns
  obtain ⟨mid, hmidrun, hmidcurrent, hmidseen, hmidquick, hmiddns, hmidend⟩ :=
    hread (pre.enterInterface (header ++ separator)) rfl rfl hprequick
  obtain ⟨last, hlastrun, hlastquick, hlastdns, hlastseen, hlastend⟩ :=
    run_of_quiet quiet hmidcurrent hmidseen
  have hrun : ScanRun .init (physicalLines snapshot) last := by
    rw [hphysical, List.append_assoc, scanRun_append]
    refine ⟨pre, hbefore, .cons (by rw [hcurrent, hunseen]; exact hmid) rfl ?_⟩
    exact scanRun_append.mpr ⟨mid, hmidrun, hlastrun⟩
  have hdnsEmpty : last.dns = .empty := by
    rw [hlastdns, hmiddns]
    exact hpredns
  refine ⟨last, ?_, by rw [hlastquick, hmidquick], hdnsEmpty, ?_⟩
  · refine scanConfigEnvelope_eq_ok.mpr ⟨hlen, ?_, ?_, hrun, hlastseen, ?_⟩
    · rw [hflat]
      simp [hheaderne]
    · obtain ⟨-, -, hzero, -⟩ := scanConfigEnvelope_eq_ok.mp hprotocol
      rw [← flatten_physicalLines protocolConfig, hlines] at hzero
      simp only [List.flatten_append, List.flatten_cons, List.mem_append, not_or] at hzero
      have hline : 0 ∉ header ++ separator := by
        rw [hheaderLine]
        intro h
        rcases List.mem_append.mp h with h | h
        · rw [← hcontent] at h
          exact hzero.2.1 ((List.takeWhile_sublist _).mem h)
        · exact absurd h (by decide)
      have hkept : 0 ∉ directives.flatten := by
        intro h
        obtain ⟨line, hline, h⟩ := List.mem_flatten.mp h
        exact (hshape line hline).shape.2 h
      rw [hflat]
      simp only [List.flatten_append, List.flatten_cons, List.mem_append, not_or] at hline ⊢
      exact ⟨⟨hzero.1, hline, hkept⟩, hzero.2.2⟩
    · rw [hdnsEmpty]
      simp [DnsConfig.empty]
  · rw [hlastend, hmidend]
    simp [ConfigScan.enterInterface, ConfigScan.advance, hbefore.offset_eq, ConfigScan.init]
    omega

/-- A text without the `count` bytes from `start` on. -/
def deleteAt (xs : Bytes) (start count : ℕ) : Bytes := xs.take start ++ xs.drop (start + count)

private theorem deleteAt_insert {pre mid post : Bytes} :
    deleteAt (pre ++ mid ++ post) pre.length mid.length = pre ++ post := by
  rw [deleteAt, List.append_assoc, List.take_left, ← List.append_assoc, ← List.length_append,
    List.drop_left]

/-- Building a snapshot and parsing an envelope are inverse to each other on the envelope. No
size wraps around; a snapshot that is built leaves room for the reserve, has the same quick-only
directives as the configuration they come from and no DNS values, and without the inserted
directives, and the newline in front of them where the header line had none, it is the text that
they were inserted into. -/
theorem runtimeSnapshot_inverse :
    (∀ data, configParseEnvelope data ≠ .error .underflow) ∧
    (∀ protocolConfig envelope sizeReserve,
      runtimeSnapshotBuild protocolConfig envelope sizeReserve ≠ .error .underflow) ∧
    ∀ data envelope protocolConfig sizeReserve snapshot,
      configParseEnvelope data = .ok envelope →
      runtimeSnapshotBuild protocolConfig envelope sizeReserve = .ok snapshot →
      snapshot.length + sizeReserve ≤ maxConfigSize ∧
      (∃ parsed, configParseEnvelope snapshot = .ok parsed ∧
        parsed.quickConfig = envelope.quickConfig ∧
        parsed.dns.servers = [] ∧ parsed.dns.domains = []) ∧
      ∃ before header after,
        physicalLines protocolConfig = before ++ header :: after ∧
        readConfigLine .none false header = some .interface ∧
        ∃ separator,
          separator = (if envelope.quickConfig ≠ [] ∧ header.getLast? ≠ some newline then
            [newline] else []) ∧
          snapshot = before.flatten ++ header ++ (separator ++ envelope.quickConfig) ++
            after.flatten ∧
          deleteAt snapshot (before.flatten ++ header).length
            (separator ++ envelope.quickConfig).length = protocolConfig := by
  refine ⟨configParseEnvelope_ne_underflow, runtimeSnapshotBuild_ne_underflow, ?_⟩
  intro data envelope protocolConfig sizeReserve snapshot hparse hbuild
  obtain ⟨scan, hscan, rfl⟩ := exists_scan_of_configParseEnvelope hparse
  cases hprotocol : scanConfigEnvelope protocolConfig with
  | error failure =>
    rw [runtimeSnapshotBuild, hprotocol] at hbuild
    cases hbuild
  | ok unexpected =>
    rw [runtimeSnapshotBuild_eq hprotocol] at hbuild
    dsimp only at hbuild
    split at hbuild
    · cases hbuild
    rename_i hnothing
    obtain ⟨hquick, hservers, hdomains⟩ : unexpected.quickConfig = [] ∧
        unexpected.dns.servers = [] ∧ unexpected.dns.domains = [] := by
      simpa only [not_or, ne_eq, not_not] using hnothing
    have hdns : unexpected.dns = .empty := by
      rw [DnsConfig.empty, ← hservers, ← hdomains]
    split at hbuild
    · rename_i hfits
      have hsnapshot := (Except.ok.inj hbuild).symm
      have hlen : snapshot.length + sizeReserve ≤ maxConfigSize := by
        have hsplit := congrArg List.length
          (List.take_append_drop unexpected.interfaceLineEnd protocolConfig)
        rw [hsnapshot]
        simp only [List.length_append] at hsplit ⊢
        omega
      refine ⟨hlen, ?_, ?_⟩
      · obtain ⟨last, hlast, hlastquick, hlastdns, -⟩ := scanConfigEnvelope_insert hscan hprotocol
          hquick hdns rfl rfl hsnapshot (by omega)
        refine ⟨⟨last.quickConfig, last.dns, last.interfaceLineEnd⟩, ?_, hlastquick, ?_⟩
        · obtain ⟨size, hsize⟩ : ∃ size, dnsConfigMeasure .empty = .ok size := ⟨_, rfl⟩
          rw [configParseEnvelope, hlast]
          simp only [hlastdns, hsize]
        · rw [hlastdns]
          exact ⟨rfl, rfl⟩
      · obtain ⟨before, header, after, -, hlines, -, -, -, -, -, hheader, -, hend⟩ :=
          exists_header_of_scan hprotocol
        have hne : header ≠ [] := by
          rintro rfl
          exact absurd hheader (by decide)
        obtain ⟨htake, hdrop⟩ := take_drop_header hlines
        refine ⟨before, header, after, hlines, hheader, _,
          separatorAt_header scan.quickConfig hlines hne, ?_⟩
        rw [hend, htake, hdrop] at hsnapshot
        have hassoc : snapshot = before.flatten ++ header ++
            (separatorAt protocolConfig scan.quickConfig (before.flatten ++ header).length ++
              scan.quickConfig) ++ after.flatten := by
          rw [hsnapshot]
          simp only [List.append_assoc]
        refine ⟨hassoc, ?_⟩
        rw [hassoc, deleteAt_insert, ← htake, ← hdrop]
        exact List.take_append_drop ..
    · cases hbuild

/-- A header without a newline, and a directive that is written out. -/
theorem runtimeSnapshot_inverse_mtu :
    ∃ parsed, configParseEnvelope (ascii "[Interface]\nMTU = 1400\n") = .ok parsed ∧
      parsed.quickConfig = ascii "MTU = 1400\n" :=
  have h := (runtimeSnapshot_inverse.2.2 (ascii "[Interface]\nMTU=1400\n")
    ⟨ascii "MTU = 1400\n", .empty, 12⟩ (ascii "[Interface]") 256
    (ascii "[Interface]\nMTU = 1400\n") (by decide) (by decide)).2.1
  h.imp fun _ h => ⟨h.1, h.2.1⟩

end NmSidebar
