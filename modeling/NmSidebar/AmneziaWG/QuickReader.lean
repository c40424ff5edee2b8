import NmSidebar.AmneziaWG.ConfigLines

/-!
# The line reader of `awg-quick`

How the shell script reads a configuration: it splits it at the newlines, drops every line's
comment, trims white space and takes what stands before the first `=` as the key, which it
compares without regard to case. An accepted configuration holds no hook for this reader, and
the scanner kept exactly the directives this reader finds in the interface section.
-/

namespace NmSidebar

open Text

/-! ## The reader -/

/-- White space of the shell, `[[:space:]]`. -/
def isShellSpace (b : UInt8) : Bool := isSpace b || b == 0x0b

/-- A text without the white space around it. -/
def shellTrim (xs : Bytes) : Bytes := (xs.dropWhile isShellSpace).rdropWhile isShellSpace

/-- Equality without regard to the case of ASCII letters. -/
def equalIgnoringCase (xs ys : Bytes) : Bool := xs.map toLower == ys.map toLower

/-- A line as the script reads it. -/
structure QuickLine where
  key : Bytes
  value : Bytes

/-- Reads one line. -/
def quickLine (line : Bytes) : QuickLine :=
  let stripped := shellTrim (line.takeWhile fun b => b != 0x23)
  { key := shellTrim (stripped.takeWhile fun b => b != 0x3d)
    value := shellTrim ((stripped.dropWhile fun b => b != 0x3d).drop 1) }

/-- Reads a configuration. -/
def quickLines (data : Bytes) : List QuickLine := (data.splitOn newline).map quickLine

/-- The line is a command the script would run as root. -/
def QuickLine.isHook (line : QuickLine) : Bool :=
  ["PreUp", "PostUp", "PreDown", "PostDown"].any fun name =>
    equalIgnoringCase line.key (ascii name)

/-- The line opens a section. -/
def QuickLine.isHeader (line : QuickLine) : Bool := line.key.head? == some 0x5b

/-- The line opens the interface section. -/
def QuickLine.isInterface (line : QuickLine) : Bool :=
  equalIgnoringCase line.key (ascii "[Interface]")

/-- The usual spelling of a directive that only `awg-quick` understands. -/
def quickName (key : Bytes) : Option Bytes :=
  (["Address", "MTU", "Table", "SaveConfig"].find? fun name =>
    equalIgnoringCase key (ascii name)).map ascii

/-- The quick-only directives of the interface section, in order; `inside` says whether the
first line stands in that section. -/
def quickDirectives (inside : Bool) : List QuickLine → Bytes
  | [] => []
  | line :: lines =>
    if line.isHeader then quickDirectives line.isInterface lines
    else
      (match inside, quickName line.key with
        | true, some name => name ++ ascii " = " ++ line.value ++ [newline]
        | _, _ => []) ++ quickDirectives inside lines

/-! ## The scanner's view of a line and the reader's -/

/-- The scanner's comparison is the reader's. -/
theorem spanEqual_eq (span : Bytes) (text : String) :
    spanEqual span text = equalIgnoringCase span (ascii text) := by
  unfold spanEqual equalIgnoringCase
  by_cases h : span.map toLower = (ascii text).map toLower
  · have hlen : span.length = (ascii text).length := by
      simpa using congrArg List.length h
    simp [h, hlen]
  · simp [h]

theorem isUnsafeDirective_eq (key : Bytes) (value : Bytes) :
    isUnsafeDirective key = QuickLine.isHook ⟨key, value⟩ := by
  simp only [isUnsafeDirective, QuickLine.isHook, List.any_cons, List.any_nil, spanEqual_eq]

theorem safeQuickDirective_eq (key : Bytes) : safeQuickDirective key = quickName key := by
  have h : spanEqual key = fun name => equalIgnoringCase key (ascii name) :=
    funext fun name => spanEqual_eq key name
  rw [safeQuickDirective, quickName, h]

/-- Where there is no vertical tab the two notions of white space agree. -/
theorem shellTrim_eq {xs : Bytes} (h : 0x0b ∉ xs) : shellTrim xs = trim xs := by
  have hsame : ∀ b ∈ xs, isShellSpace b = isSpace b := fun b hb => by
    have hne : b ≠ 0x0b := fun heq => h (heq ▸ hb)
    simp [isShellSpace, hne]
  have hdrop : xs.dropWhile isShellSpace = xs.dropWhile isSpace := by
    clear h
    induction xs with
    | nil => rfl
    | cons b xs ih =>
      simp only [List.dropWhile_cons, hsame b (List.mem_cons_self ..)]
      rw [ih fun c hc => hsame c (List.mem_cons_of_mem _ hc)]
  rw [shellTrim, hdrop, trim, List.rdropWhile, List.rdropWhile]
  congr 1
  have hrev : ∀ b ∈ (xs.dropWhile isSpace).reverse, isShellSpace b = isSpace b := fun b hb =>
    hsame b ((List.dropWhile_sublist isSpace).mem (List.mem_reverse.mp hb))
  generalize (xs.dropWhile isSpace).reverse = ys at hrev
  induction ys with
  | nil => rfl
  | cons b ys ih =>
    simp only [List.dropWhile_cons, hrev b (List.mem_cons_self ..)]
    rw [ih fun c hc => hrev c (List.mem_cons_of_mem _ hc)]

/-- A line the scanner lets pass holds no vertical tab before its comment. -/
theorem verticalTab_notMem {text : Bytes} (h : text.any isUnsupported = false) :
    0x0b ∉ text := by
  intro hmem
  have := List.any_eq_false.mp h _ hmem
  exact this (by decide)

/-- A section line, read by the script: the key is the whole text. -/
private theorem quickLine_section {line text : Bytes} (htext : text = trim (uncomment line))
    (hclean : 0x0b ∉ uncomment line) (hequals : 0x3d ∉ text) :
    (quickLine (lineContent line)).key = text := by
  have hstrip : shellTrim ((lineContent line).takeWhile fun b => b != 0x23) = text := by
    rw [htext, ← shellTrim_eq hclean]
    rfl
  have htab : 0x0b ∉ text := fun hmem => hclean (mem_of_mem_trim (htext ▸ hmem))
  have hkey : text.takeWhile (fun b => b != 0x3d) = text :=
    List.takeWhile_eq_self_iff.mpr fun b hb => by
      simpa using fun heq : b = 0x3d => hequals (heq ▸ hb)
  simp only [quickLine, hstrip, hkey]
  rw [shellTrim_eq htab, htext, trim_trim]

/-- A directive line, read by the script: key and value are the scanner's. -/
theorem quickLine_directive {line before after : Bytes}
    (htext : trim (uncomment line) = before ++ 0x3d :: after) (hbefore : 0x3d ∉ before)
    (hclean : 0x0b ∉ uncomment line) :
    quickLine (lineContent line) = ⟨trim before, trim after⟩ := by
  have hstrip : shellTrim ((lineContent line).takeWhile fun b => b != 0x23) =
      before ++ 0x3d :: after := by
    rw [← htext, ← shellTrim_eq hclean]
    rfl
  have htab : 0x0b ∉ before ++ 0x3d :: after := fun hmem =>
    hclean (mem_of_mem_trim (htext ▸ hmem))
  have hall : ∀ b ∈ before, (b != 0x3d) = true := fun b hb => by
    simpa using fun heq : b = 0x3d => hbefore (heq ▸ hb)
  have htake : (before ++ 0x3d :: after).takeWhile (fun b => b != 0x3d) = before := by
    rw [List.takeWhile_append_of_pos hall]
    simp
  have hdrop : (before ++ 0x3d :: after).dropWhile (fun b => b != 0x3d) = 0x3d :: after := by
    rw [List.dropWhile_append_of_pos hall]
    simp
  simp only [quickLine, hstrip, htake, hdrop, List.drop_succ_cons, List.drop_zero]
  rw [shellTrim_eq fun h => htab (List.mem_append_left _ h),
    shellTrim_eq fun h => htab (List.mem_append_right _ (List.mem_cons_of_mem _ h))]

/-- What a line the scanner accepts is to the script. -/
inductive SameLine (current : ConfigSection) (seen : Bool) (line : QuickLine) : ConfigLine → Prop
  | blank (h : line.key = []) : SameLine current seen line .blank
  | interface (hheader : line.isHeader = true) (h : line.isInterface = true)
      (hseen : seen = false) : SameLine current seen line .interface
  | other (hheader : line.isHeader = true) (h : line.isInterface = false) (hseen : seen = true) :
      SameLine current seen line .other
  | dns {value : Bytes} (hheader : line.isHeader = false) (h : quickName line.key = none) :
      SameLine current seen line (.dns value)
  | quick {name : Bytes} (hheader : line.isHeader = false) (h : quickName line.key = some name)
      (hcurrent : current = .interface) : SameLine current seen line (.quick name line.value)
  | ignored (hheader : line.isHeader = false)
      (h : current = .interface → quickName line.key = none) :
      SameLine current seen line .ignored

/-- Two texts that differ in their first byte, whatever its case, are not equal. -/
private theorem not_equalIgnoringCase_bracket {key : Bytes} (hkey : key.head? = some 0x5b)
    {name : Bytes} (hname : name.head? ≠ some 0x5b) (hname' : name.all (toLower · != 0x5b)) :
    equalIgnoringCase key name = false := by
  match key, hkey with
  | b :: key, hkey =>
    obtain rfl := Option.some.inj hkey
    unfold equalIgnoringCase
    cases name with
    | nil => simp
    | cons c name =>
      simp only [List.all_cons, Bool.and_eq_true, bne_iff_ne] at hname'
      simp only [List.map_cons, beq_eq_false_iff_ne, ne_eq, List.cons.injEq, not_and]
      intro heq
      exact absurd (heq.symm.trans (by decide)) hname'.1

/-- A line that opens a section is no hook. -/
private theorem not_isHook_of_isHeader {line : QuickLine} (h : line.isHeader = true) :
    line.isHook = false := by
  have hhead : line.key.head? = some 0x5b := by simpa [QuickLine.isHeader] using h
  simp only [QuickLine.isHook, List.any_cons, List.any_nil]
  rw [not_equalIgnoringCase_bracket hhead (by decide) (by decide),
    not_equalIgnoringCase_bracket hhead (by decide) (by decide),
    not_equalIgnoringCase_bracket hhead (by decide) (by decide),
    not_equalIgnoringCase_bracket hhead (by decide) (by decide)]
  rfl

/-- A text with a bracket at each end, and what stands between them. -/
private theorem exists_bracketed {text : Bytes} (hhead : text.head? = some 0x5b)
    (hlast : text.getLast? = some 0x5d) :
    ∃ name, text = 0x5b :: (name ++ [0x5d]) ∧ (text.drop 1).take (text.length - 2) = name := by
  match text, hhead with
  | b :: rest, hhead =>
    obtain rfl := Option.some.inj hhead
    have hne : rest ≠ [] := by
      rintro rfl
      exact absurd hlast (by decide)
    have hrest : rest = rest.dropLast ++ [0x5d] := by
      rw [List.getLast?_cons, List.getLast?_eq_getLast_of_ne_nil hne, Option.getD_some] at hlast
      conv_lhs => rw [← List.dropLast_append_getLast hne, Option.some.inj hlast]
    refine ⟨rest.dropLast, by rw [← hrest], ?_⟩
    generalize rest.dropLast = name at hrest
    subst hrest
    simp

/-- A bracketed text names the interface section when the text between the brackets does. -/
private theorem isInterface_bracket (name value : Bytes) :
    QuickLine.isInterface ⟨0x5b :: (name ++ [0x5d]), value⟩ = spanEqual name "Interface" := by
  have htext : ascii "[Interface]" = 0x5b :: (ascii "Interface" ++ [0x5d]) := by decide
  rw [spanEqual_eq, QuickLine.isInterface, htext, equalIgnoringCase, equalIgnoringCase]
  simp [List.map_cons, List.map_append, toLower]

/-- A line the scanner accepts is no hook, and the script sees it as the scanner does. -/
theorem sameLine_of_readConfigLine {current : ConfigSection} {seen : Bool} {line : Bytes}
    {kind : ConfigLine} (h : readConfigLine current seen line = some kind) :
    (quickLine (lineContent line)).isHook = false ∧
      SameLine current seen (quickLine (lineContent line)) kind := by
  unfold readConfigLine at h
  split at h
  · cases h
  rename_i hsupported
  have hclean : 0x0b ∉ uncomment line := verticalTab_notMem (by simpa using hsupported)
  split at h
  · rename_i hblank
    obtain rfl := Option.some.inj h
    have hkey : (quickLine (lineContent line)).key = [] :=
      quickLine_section hblank.symm hclean (by simp)
    refine ⟨?_, .blank hkey⟩
    rw [QuickLine.isHook, hkey]
    decide
  split at h
  · rename_i hhead
    unfold readSection at h
    dsimp only at h
    split at h
    · cases h
    rename_i hname
    obtain ⟨hlast, hsafe⟩ := not_or.mp hname
    have hlast := not_not.mp hlast
    obtain ⟨name, htext, hbetween⟩ := exists_bracketed hhead hlast
    rw [hbetween] at h hsafe
    have hequals : 0x3d ∉ trim (uncomment line) := by
      simp only [Bool.not_eq_false, tokenIsSafe, Bool.and_eq_true, List.all_eq_true] at hsafe
      rw [htext]
      simp only [List.mem_cons, List.mem_append, List.not_mem_nil, or_false, not_or]
      exact ⟨by decide, fun hmem => absurd (hsafe.2 _ hmem) (by decide), by decide⟩
    have hkey := quickLine_section rfl hclean hequals
    have hheader : (quickLine (lineContent line)).isHeader = true := by
      rw [QuickLine.isHeader, hkey, hhead]
      decide
    have hinterface : (quickLine (lineContent line)).isInterface = spanEqual name "Interface" := by
      rw [← isInterface_bracket name (quickLine (lineContent line)).value, ← htext, ← hkey]
    refine ⟨not_isHook_of_isHeader hheader, ?_⟩
    split at h
    · rename_i hname
      split at h
      · cases h
      · rename_i hfirst
        obtain rfl := Option.some.inj h
        exact .interface hheader (hinterface.trans hname) (by simpa using (not_or.mp hfirst).1)
    · rename_i hname
      split at h
      · cases h
      · rename_i hseen
        obtain rfl := Option.some.inj h
        exact .other hheader (hinterface.trans (by simpa using hname)) (by simpa using hseen)
  · unfold readDirective at h
    split at h
    · cases h
    rename_i before after hsplit
    obtain ⟨htext, hbefore⟩ := splitFirst_eq_some.mp hsplit
    have hline := quickLine_directive htext hbefore hclean
    split at h
    · cases h
    rename_i hok
    obtain ⟨-, hok⟩ := not_or.mp hok
    obtain ⟨hsafe, hhook⟩ := not_or.mp hok
    have hheader : (quickLine (lineContent line)).isHeader = false := by
      rw [hline]
      simp only [QuickLine.isHeader, beq_eq_false_iff_ne]
      intro hhead
      simp only [Bool.not_eq_false, tokenIsSafe, Bool.and_eq_true, List.all_eq_true] at hsafe
      exact absurd (hsafe.2 _ (List.mem_of_mem_head? hhead)) (by decide)
    refine ⟨?_, ?_⟩
    · rw [hline, ← isUnsafeDirective_eq]
      simpa using hhook
    have hquick : quickName (quickLine (lineContent line)).key = safeQuickDirective (trim before) := by
      rw [hline, safeQuickDirective_eq]
    split at h
    · rename_i hcurrent
      split at h
      · rename_i hdns
        obtain rfl := Option.some.inj h
        refine .dns hheader ?_
        -- a key that is `DNS` is none of the four names
        rw [hquick, safeQuickDirective_eq, quickName]
        have hlower : (trim before).map toLower = (ascii "DNS").map toLower := by
          simpa [spanEqual_eq, equalIgnoringCase] using hdns
        simp only [equalIgnoringCase, hlower]
        decide
      · split at h
        · rename_i name hname
          obtain rfl := Option.some.inj h
          have hvalue : trim after = (quickLine (lineContent line)).value := by rw [hline]
          rw [hvalue]
          exact .quick hheader (hquick.trans hname) hcurrent
        · rename_i hname
          obtain rfl := Option.some.inj h
          exact .ignored hheader fun _ => hquick.trans hname
    · rename_i hcurrent
      obtain rfl := Option.some.inj h
      exact .ignored hheader fun hin => absurd hin hcurrent

/-! ## Whole configurations -/

/-- The reader's lines for the scanner's lines. -/
def readLines (lines : List Bytes) : List QuickLine :=
  lines.map fun line => quickLine (lineContent line)

/-- No line of a run is a hook. -/
theorem ScanRun.not_isHook {scan scan' : ConfigScan} {lines : List Bytes}
    (h : ScanRun scan lines scan') : ∀ line ∈ readLines lines, line.isHook = false := by
  induction h with
  | nil => simp [readLines]
  | cons hkind _ _ ih =>
    intro line hline
    rcases List.mem_cons.mp hline with rfl | hline
    · exact (sameLine_of_readConfigLine hkind).1
    · exact ih line hline

/-- The scanner stands in the interface section. -/
def ConfigSection.isInterface : ConfigSection → Bool
  | .interface => true
  | _ => false

/-- A run keeps the quick-only directives the reader finds. -/
theorem ScanRun.quickConfig_eq {scan scan' : ConfigScan} {lines : List Bytes}
    (h : ScanRun scan lines scan') :
    scan'.quickConfig = scan.quickConfig ++
      quickDirectives scan.configSection.isInterface (readLines lines) := by
  induction h with
  | nil => simp [readLines, quickDirectives]
  | @cons scan scan₁ scan₂ line lines kind hkind hrun hrest ih =>
    have hsame := (sameLine_of_readConfigLine hkind).2
    rw [ih]
    simp only [readLines, List.map_cons, quickDirectives]
    generalize quickLine (lineContent line) = q at hsame
    cases hsame with
    | blank hkey =>
      obtain rfl := Option.some.inj hrun
      have hheader : q.isHeader = false := by simp [QuickLine.isHeader, hkey]
      have hname : quickName q.key = none := by rw [hkey]; decide
      simp [hheader, hname, ConfigScan.advance]
    | interface hheader hinterface =>
      obtain rfl := Option.some.inj hrun
      simp [hheader, hinterface, ConfigScan.advance, ConfigSection.isInterface]
    | other hheader hinterface =>
      obtain rfl := Option.some.inj hrun
      simp [hheader, hinterface, ConfigScan.advance, ConfigSection.isInterface]
    | dns hheader hname =>
      obtain ⟨dns, -, rfl⟩ := Option.map_eq_some_iff.mp hrun
      simp [hheader, hname, ConfigScan.advance]
    | quick hheader hname hcurrent =>
      simp only [ConfigLine.run] at hrun
      split at hrun
      · obtain rfl := Option.some.inj hrun
        simp [hheader, hname, ConfigScan.advance, hcurrent, ConfigSection.isInterface]
      · cases hrun
    | ignored hheader hname =>
      obtain rfl := Option.some.inj hrun
      cases hcurrent : scan.configSection with
      | interface =>
        simp [hheader, hname hcurrent, ConfigScan.advance, hcurrent, ConfigSection.isInterface]
      | _ => simp [hheader, ConfigScan.advance, hcurrent, ConfigSection.isInterface]

/-- The headers among the lines, where `seen` says whether the interface section was opened
before them and `seen'` whether it was after them. -/
def HeadersFollow (seen seen' : Bool) (lines : List QuickLine) : Prop :=
  if seen then ∀ line ∈ lines.filter QuickLine.isHeader, line.isInterface = false
  else seen' = true → ∃ header rest, lines.filter QuickLine.isHeader = header :: rest ∧
    header.isInterface = true ∧ ∀ line ∈ rest, line.isInterface = false

/-- The headers of a run: one interface section, before every other section. -/
theorem ScanRun.headers {scan scan' : ConfigScan} {lines : List Bytes}
    (h : ScanRun scan lines scan') :
    HeadersFollow scan.interfaceSeen scan'.interfaceSeen (readLines lines) := by
  induction h with
  | nil scan => cases h : scan.interfaceSeen <;> simp [readLines, HeadersFollow]
  | @cons scan scan₁ scan₂ line lines kind hkind hrun hrest ih =>
    have hsame := (sameLine_of_readConfigLine hkind).2
    simp only [readLines, List.map_cons]
    generalize quickLine (lineContent line) = q at hsame
    -- a line that is no header changes neither the headers nor what was seen
    have hskip (hheader : q.isHeader = false) (hseen : scan₁.interfaceSeen = scan.interfaceSeen) :
        HeadersFollow scan.interfaceSeen scan₂.interfaceSeen (q :: readLines lines) := by
      rw [HeadersFollow, List.filter_cons_of_neg (by simp [hheader]), ← hseen]
      exact ih
    cases hsame with
    | blank hkey =>
      obtain rfl := Option.some.inj hrun
      exact hskip (by simp [QuickLine.isHeader, hkey]) rfl
    | interface hheader hinterface hseen =>
      obtain rfl := Option.some.inj hrun
      rw [HeadersFollow, List.filter_cons_of_pos hheader, hseen, if_neg (by simp)]
      exact fun _ => ⟨q, _, rfl, hinterface, by simpa [HeadersFollow, readLines] using ih⟩
    | other hheader hinterface hseen =>
      obtain rfl := Option.some.inj hrun
      rw [HeadersFollow, List.filter_cons_of_pos hheader, if_pos hseen]
      simp only [HeadersFollow, ConfigScan.advance, hseen, if_true] at ih
      intro line hline
      rcases List.mem_cons.mp hline with rfl | hline
      · exact hinterface
      · exact ih line hline
    | dns hheader hname =>
      obtain ⟨dns, -, rfl⟩ := Option.map_eq_some_iff.mp hrun
      exact hskip hheader rfl
    | quick hheader hname hcurrent =>
      simp only [ConfigLine.run] at hrun
      split at hrun
      · obtain rfl := Option.some.inj hrun
        exact hskip hheader rfl
      · cases hrun
    | ignored hheader hname =>
      obtain rfl := Option.some.inj hrun
      exact hskip hheader rfl

/-- An empty piece after the last newline adds nothing to the quick-only directives. -/
private theorem quickDirectives_append_blank (inside : Bool) (lines : List QuickLine) :
    quickDirectives inside (lines ++ [quickLine []]) = quickDirectives inside lines := by
  induction lines generalizing inside with
  | nil => cases inside <;> decide
  | cons line lines ih =>
    simp only [List.cons_append, quickDirectives]
    split
    · exact ih line.isInterface
    · rw [ih inside]

/-- The script's lines are the lines of the scanner, and maybe an empty one. -/
theorem quickLines_eq (data : Bytes) :
    quickLines data = readLines (physicalLines data) ∨
      quickLines data = readLines (physicalLines data) ++ [quickLine []] := by
  obtain ⟨tail, hsplit, rfl | rfl⟩ := splitOn_newline data
  · left
    simp [quickLines, hsplit, readLines]
  · right
    simp [quickLines, hsplit, readLines]

/-- What `awg-quick` finds in an accepted configuration: no hook in any section, one interface
section before all others, and the quick-only directives of that section that the envelope
keeps. Validation accepts exactly the configurations that have an envelope. -/
theorem configEnvelope_quickLines (data : Bytes) :
    (configValidate data = true ↔ ∃ envelope, configParseEnvelope data = .ok envelope) ∧
    ∀ envelope, configParseEnvelope data = .ok envelope →
      (∀ line ∈ quickLines data, line.isHook = false) ∧
      (∃ header rest, (quickLines data).filter QuickLine.isHeader = header :: rest ∧
        header.isInterface = true ∧ ∀ line ∈ rest, line.isInterface = false) ∧
      envelope.quickConfig = quickDirectives false (quickLines data) := by
  constructor
  · unfold configValidate
    cases configParseEnvelope data with
    | error failure => simp [Except.isOk, Except.toBool]
    | ok envelope => simp [Except.isOk, Except.toBool]
  intro envelope h
  obtain ⟨scan, hscan, rfl⟩ := exists_scan_of_configParseEnvelope h
  obtain ⟨-, -, -, hrun, hseen, -⟩ := scanConfigEnvelope_eq_ok.mp hscan
  have hhooks := hrun.not_isHook
  have hquick := hrun.quickConfig_eq
  have hheaders : ∃ header rest, (readLines (physicalLines data)).filter QuickLine.isHeader =
      header :: rest ∧ header.isInterface = true ∧ ∀ line ∈ rest, line.isInterface = false :=
    hrun.headers hseen
  obtain hlines | hlines := quickLines_eq data
  · rw [hlines]
    exact ⟨hhooks, hheaders, hquick⟩
  · rw [hlines]
    refine ⟨fun line hline => ?_, ?_, ?_⟩
    · rcases List.mem_append.mp hline with hline | hline
      · exact hhooks line hline
      · obtain rfl := List.mem_singleton.mp hline
        decide
    · rw [List.filter_append, show [quickLine []].filter QuickLine.isHeader = [] by decide,
        List.append_nil]
      exact hheaders
    · rw [quickDirectives_append_blank]
      exact hquick

/-- A configuration with one kept directive. -/
theorem configEnvelope_quickLines_mtu :
    ∀ line ∈ quickLines (ascii "[Interface]\nMTU=1400\n"), line.isHook = false :=
  ((configEnvelope_quickLines (ascii "[Interface]\nMTU=1400\n")).2
    ⟨ascii "MTU = 1400\n", .empty, 12⟩ (by decide)).1

end NmSidebar
