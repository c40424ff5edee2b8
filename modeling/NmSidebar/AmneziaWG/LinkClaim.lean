import NmSidebar.AmneziaWG.SnapshotInverse
import NmSidebar.AmneziaWG.QuickReader

/-!
# Link claims

Before a tunnel is brought up the helper inserts two hooks of its own into the snapshot: one that
gives the link the session's alias, and one that checks the alias before the link is taken down.
The reserve that a snapshot leaves is enough for them, they are the only hooks that `awg-quick`
finds, and a snapshot with them is no configuration that a user could have stored.
-/

namespace NmSidebar

open Text

/-! ## The two hooks -/

/-- The command that claims the link. -/
def preUpCommand (linkToken : Bytes) : Bytes :=
  ascii "ip link set dev %i alias nm-sidebar-awg-" ++ linkToken

/-- The command that looks for the claim. -/
def preDownCommand (linkToken : Bytes) : Bytes :=
  ascii "grep -Fxq nm-sidebar-awg-" ++ linkToken ++ ascii " /sys/class/net/%i/ifalias"

/-- The hooks as lines. -/
def linkClaims (linkToken : Bytes) : List Bytes :=
  [quickDirectiveLine (ascii "PreUp") (preUpCommand linkToken),
    quickDirectiveLine (ascii "PreDown") (preDownCommand linkToken)]

/-- The text that is inserted is the two hooks. -/
theorem linkClaimLines_eq (linkToken : Bytes) :
    linkClaimLines linkToken = (linkClaims linkToken).flatten := by
  have hup : ascii "PreUp = ip link set dev %i alias nm-sidebar-awg-" =
      ascii "PreUp" ++ ascii " = " ++ ascii "ip link set dev %i alias nm-sidebar-awg-" := by
    decide +kernel
  have hdown : ascii "PreDown = grep -Fxq nm-sidebar-awg-" =
      ascii "PreDown" ++ ascii " = " ++ ascii "grep -Fxq nm-sidebar-awg-" := by
    decide +kernel
  simp only [linkClaimLines, linkClaims, quickDirectiveLine, preUpCommand, preDownCommand, hup,
    hdown, List.flatten_cons, List.flatten_nil, List.append_assoc, List.append_nil]

/-- The two hooks fit into the reserve, with a newline before them. -/
theorem length_linkClaimLines {linkToken : Bytes} (h : linkTokenIsValid linkToken = true) :
    (linkClaimLines linkToken).length + 1 ≤ awgQuickLinkHookReserve := by
  have htoken := length_of_linkTokenIsValid h
  simp only [linkClaimLines, List.length_append, htoken]
  decide +kernel

/-- The bytes of a token stand for themselves in a line. -/
theorem plain_of_linkTokenIsValid {linkToken : Bytes} (h : linkTokenIsValid linkToken = true)
    {b : UInt8} (hb : b ∈ linkToken) :
    (isUnsupported b = false ∧ b ≠ newline ∧ b ≠ 0x23) ∧ isSpace b = false ∧ b ≠ 0 := by
  simp only [linkTokenIsValid, Bool.and_eq_true, List.all_eq_true] at h
  have hbyte := h.2 b hb
  have hrange : 0x30 ≤ b.toNat := by
    simp only [isDigit, Bool.or_eq_true, Bool.and_eq_true, decide_eq_true_eq,
      UInt8.le_iff_toNat_le] at hbyte
    rcases hbyte with ⟨hlow, -⟩ | ⟨hlow, -⟩
    · exact hlow
    · exact le_trans (by decide) hlow
  have hne : ∀ c : UInt8, c.toNat < 0x30 → b ≠ c := by
    rintro c hc rfl
    omega
  refine ⟨⟨?_, hne _ (by decide), hne _ (by decide)⟩, ?_, hne _ (by decide)⟩
  · have hlarge : ¬b < 0x20 := by
      rw [UInt8.lt_iff_toNat_lt]
      exact not_lt.mpr (le_trans (by decide) hrange)
    simp [isUnsupported, hlarge]
  · by_contra hspace
    simp only [Bool.not_eq_false, isSpace, Bool.or_eq_true, beq_iff_eq] at hspace
    rcases hspace with (((h | h) | h) | h) | h <;> exact hne _ (by decide) h

/-- A command of tokens and of bytes that stand for themselves has nothing to trim. -/
theorem trim_command {first rest : Bytes} (hne : first ≠ []) (hfirst : trim first = first)
    (hlast : ∀ b ∈ rest.getLast?, isSpace b = false) : trim (first ++ rest) = first ++ rest := by
  rw [trim_append hne hfirst]
  congr 1
  rw [List.rdropWhile_eq_self_iff]
  intro hrest
  simpa using hlast _ (List.getLast?_eq_some_getLast hrest)

/-- The commands of the hooks are values that a line can have. -/
theorem plain_commands {linkToken : Bytes} (h : linkTokenIsValid linkToken = true) :
    (IsPlain (preUpCommand linkToken) ∧ trim (preUpCommand linkToken) = preUpCommand linkToken) ∧
      IsPlain (preDownCommand linkToken) ∧
        trim (preDownCommand linkToken) = preDownCommand linkToken := by
  have hup : IsPlain (ascii "ip link set dev %i alias nm-sidebar-awg-") := by
    unfold IsPlain
    decide +kernel
  have hgrep : IsPlain (ascii "grep -Fxq nm-sidebar-awg-") := by
    unfold IsPlain
    decide +kernel
  have hpath : IsPlain (ascii " /sys/class/net/%i/ifalias") := by
    unfold IsPlain
    decide +kernel
  refine ⟨⟨fun b hb => ?_, trim_command (by decide) (by decide +kernel) fun b hb => ?_⟩,
    fun b hb => ?_, ?_⟩
  · rcases List.mem_append.mp hb with hb | hb
    · exact hup b hb
    · exact (plain_of_linkTokenIsValid h hb).1
  · exact (plain_of_linkTokenIsValid h (List.mem_of_getLast? hb)).2.1
  · rcases List.mem_append.mp hb with hb | hb
    · rcases List.mem_append.mp hb with hb | hb
      · exact hgrep b hb
      · exact (plain_of_linkTokenIsValid h hb).1
    · exact hpath b hb
  · unfold preDownCommand
    rw [List.append_assoc]
    refine trim_command (by decide) (by decide +kernel) fun b hb => ?_
    rw [List.getLast?_append_of_ne_nil _ (by decide)] at hb
    have hlast : (ascii " /sys/class/net/%i/ifalias").getLast? = some 0x73 := by decide +kernel
    rw [hlast] at hb
    obtain rfl := Option.some.inj hb
    decide

/-! ## A hook as a line -/

section Hook

variable {name value : Bytes} (hname : IsDirectiveName name) (hplain : IsPlain value)
  (htrim : trim value = value)
include hname hplain htrim

/-- The reader of `awg-quick` finds the name and the command. -/
theorem quickLine_quickDirectiveLine :
    quickLine (lineContent (quickDirectiveLine name value)) = ⟨name, value⟩ := by
  have hclean := verticalTab_notMem (uncomment_quickDirectiveLine hname hplain).2
  obtain ⟨htrimName, hequals⟩ := trim_directiveName hname
  rw [quickLine_directive (trim_quickDirectiveLine hname hplain) hequals hclean, htrimName,
    trim_rdropWhile_space (b := 0x20) rfl htrim]

omit htrim in
/-- The scanner rejects a hook wherever a directive may stand. -/
theorem scanConfigLine_hook {length : ℕ} {scan : ConfigScan} (hoffset : scan.offset ≤ length)
    (hsection : scan.configSection ≠ .none) (hsafe : tokenIsSafe name = true)
    (hhook : isUnsafeDirective name = true) :
    scanConfigLine length scan (quickDirectiveLine name value) =
      setParseError .unsafeDirective (scan.lineNumber + 1)
        "uses a prohibited command directive" := by
  obtain ⟨hsome, hhead⟩ := head_quickDirectiveLine hname hplain
  obtain ⟨htrimName, hequals⟩ := trim_directiveName hname
  have hsection : (scan.advance (quickDirectiveLine name value)).configSection ≠ .none := hsection
  unfold scanConfigLine
  rw [checkedSub_of_le hoffset]
  dsimp only [bind, Except.bind]
  rw [if_neg (Bool.eq_false_iff.mp (uncomment_quickDirectiveLine hname hplain).2), if_neg hsome,
    if_neg hhead, trim_quickDirectiveLine hname hplain]
  unfold scanDirective
  rw [splitFirst_append hequals]
  dsimp only
  rw [htrimName, hsafe, if_neg hsection, if_neg (Ne.symm Bool.false_ne_true), if_pos hhook]
  rfl

end Hook

/-! ## A snapshot with its claim -/

/-- The claim is inserted behind the header line of a snapshot that leaves room for it. -/
theorem quickConfigAddLinkClaim_eq {snapshot linkToken : Bytes} {envelope : ConfigEnvelope}
    (htoken : linkTokenIsValid linkToken = true)
    (hparse : configParseEnvelope snapshot = .ok envelope)
    (hroom : snapshot.length + awgQuickLinkHookReserve ≤ maxConfigSize) :
    quickConfigAddLinkClaim snapshot linkToken = .ok
      (snapshot.take envelope.interfaceLineEnd ++
        separatorAt snapshot (linkClaimLines linkToken) envelope.interfaceLineEnd ++
        linkClaimLines linkToken ++ snapshot.drop envelope.interfaceLineEnd) := by
  have hclaim := length_linkClaimLines htoken
  have hsome : linkClaimLines linkToken ≠ [] := by
    simp [linkClaimLines]
  unfold quickConfigAddLinkClaim separatorAt
  rw [htoken, if_neg (Ne.symm Bool.false_ne_true), hparse]
  dsimp only [bind, Except.bind]
  rw [if_neg (by omega)]
  -- the separator first, then the sizes, which are the same with and without it
  by_cases hpos : envelope.interfaceLineEnd > 0
  · rw [if_pos hpos, checkedSub_of_le hpos]
    dsimp only
    by_cases hlast : snapshot[envelope.interfaceLineEnd - 1]? ≠ some newline
    · have hall : linkClaimLines linkToken ≠ [] ∧ envelope.interfaceLineEnd > 0 ∧
          snapshot[envelope.interfaceLineEnd - 1]? ≠ some newline := ⟨hsome, hpos, hlast⟩
      rw [if_pos hlast, if_pos hall, checkedSub_of_le (by decide)]
      dsimp only
      rw [if_neg (by simp only [List.length_singleton]; omega),
        checkedSub_of_le (by simp only [List.length_singleton]; omega)]
      dsimp only
      rw [if_neg (by simp only [List.length_singleton]; omega)]
    · have hnone : ¬(linkClaimLines linkToken ≠ [] ∧ envelope.interfaceLineEnd > 0 ∧
          snapshot[envelope.interfaceLineEnd - 1]? ≠ some newline) := fun h => hlast h.2.2
      rw [if_neg hlast, if_neg hnone, checkedSub_of_le (by decide)]
      dsimp only
      rw [if_neg (by simp only [List.length_nil]; omega),
        checkedSub_of_le (by simp only [List.length_nil]; omega)]
      dsimp only
      rw [if_neg (by simp only [List.length_nil]; omega)]
  · have hnone : ¬(linkClaimLines linkToken ≠ [] ∧ envelope.interfaceLineEnd > 0 ∧
        snapshot[envelope.interfaceLineEnd - 1]? ≠ some newline) := fun h => hpos h.2.1
    rw [if_neg hpos, if_neg hnone, checkedSub_of_le (by decide)]
    dsimp only
    rw [if_neg (by simp only [List.length_nil]; omega),
      checkedSub_of_le (by simp only [List.length_nil]; omega)]
    dsimp only
    rw [if_neg (by simp only [List.length_nil]; omega)]

/-- The hooks of the claim. -/
def claimedHooks (linkToken : Bytes) : List QuickLine :=
  [⟨ascii "PreUp", preUpCommand linkToken⟩, ⟨ascii "PreDown", preDownCommand linkToken⟩]

theorem isDirectiveName_preUp : IsDirectiveName (ascii "PreUp") := by decide +kernel

theorem isDirectiveName_preDown : IsDirectiveName (ascii "PreDown") := by decide +kernel

theorem readLines_linkClaims {linkToken : Bytes} (h : linkTokenIsValid linkToken = true) :
    readLines (linkClaims linkToken) = claimedHooks linkToken := by
  obtain ⟨⟨hup, htrimUp⟩, hdown, htrimDown⟩ := plain_commands h
  have hfirst := quickLine_quickDirectiveLine isDirectiveName_preUp hup htrimUp
  have hsecond := quickLine_quickDirectiveLine isDirectiveName_preDown hdown htrimDown
  simp only [readLines, linkClaims, List.map_cons, List.map_nil, hfirst, hsecond, claimedHooks]

/-- A directive that is written out is a whole line. -/
theorem quickDirectiveLine_shape {name value : Bytes} (hname : IsDirectiveName name)
    (hplain : IsPlain value) :
    ∃ pre, quickDirectiveLine name value = pre ++ [newline] ∧ newline ∉ pre := by
  refine ⟨name ++ ascii " = " ++ value, rfl, fun hmem => ?_⟩
  rcases List.mem_append.mp hmem with hmem | hmem
  · rcases List.mem_append.mp hmem with hmem | hmem
    · exact (hname.2 _ hmem).2.1 rfl
    · exact absurd hmem (by decide)
  · exact (hplain _ hmem).2.1 rfl

theorem linkClaims_shape {linkToken : Bytes} (h : linkTokenIsValid linkToken = true) :
    ∀ line ∈ linkClaims linkToken, ∃ pre, line = pre ++ [newline] ∧ newline ∉ pre := by
  obtain ⟨⟨hup, -⟩, hdown, -⟩ := plain_commands h
  intro line hline
  simp only [linkClaims, List.mem_cons, List.not_mem_nil, or_false] at hline
  rcases hline with rfl | rfl
  · exact quickDirectiveLine_shape isDirectiveName_preUp hup
  · exact quickDirectiveLine_shape isDirectiveName_preDown hdown

/-- A claim holds no zero byte. -/
theorem zero_notMem_linkClaimLines {linkToken : Bytes} (h : linkTokenIsValid linkToken = true) :
    0 ∉ linkClaimLines linkToken := by
  intro hmem
  simp only [linkClaimLines, List.mem_append] at hmem
  have htoken : 0 ∉ linkToken := fun hmem => (plain_of_linkTokenIsValid h hmem).2.2 rfl
  rcases hmem with (((((hmem | hmem) | hmem) | hmem) | hmem) | hmem) | hmem
  · exact absurd hmem (by decide +kernel)
  · exact htoken hmem
  · exact absurd hmem (by decide)
  · exact absurd hmem (by decide +kernel)
  · exact htoken hmem
  · exact absurd hmem (by decide +kernel)
  · exact absurd hmem (by decide)

/-- The scanner rejects a text at the first hook behind the header. -/
theorem scanConfigEnvelope_hook {data header name value : Bytes} {before after : List Bytes}
    {pre : ConfigScan} (hlength : data.length ≤ maxConfigSize) (hzero : 0 ∉ data)
    (hlines : physicalLines data =
      (before ++ [header]) ++ quickDirectiveLine name value :: after)
    (hbefore : ScanRun .init before pre) (hcurrent : pre.configSection = .none)
    (hunseen : pre.interfaceSeen = false)
    (hheader : readConfigLine .none false header = some .interface)
    (hname : IsDirectiveName name) (hplain : IsPlain value) (hsafe : tokenIsSafe name = true)
    (hhook : isUnsafeDirective name = true) :
    ∃ line, scanConfigEnvelope data =
      setParseError .unsafeDirective line "uses a prohibited command directive" := by
  have hflat : data = (before ++ [header]).flatten ++
      (quickDirectiveLine name value :: after).flatten := by
    rw [← List.flatten_append, ← hlines, flatten_physicalLines]
  have hne : data ≠ [] := by
    rw [hflat]
    simp [quickDirectiveLine]
  have hstart : ConfigScan.init.offset + (before ++ [header]).flatten.length ≤ data.length := by
    rw [hflat, List.length_append]
    simp [ConfigScan.init]
  have hrun : ScanRun .init (before ++ [header]) (pre.enterInterface header) := by
    rw [scanRun_append]
    exact ⟨pre, hbefore, .cons (by rw [hcurrent, hunseen]; exact hheader) rfl (.nil _)⟩
  have hoffset : (pre.enterInterface header).offset ≤ data.length := by
    rw [hrun.offset_eq]
    exact hstart
  have hfold := (foldlM_scanConfigLine hstart).mpr hrun
  have hrejected := scanConfigLine_hook hname hplain hoffset
    (by simp [ConfigScan.enterInterface]) hsafe hhook
  refine ⟨(pre.enterInterface header).lineNumber + 1, ?_⟩
  unfold scanConfigEnvelope
  rw [if_neg (not_lt.mpr hlength), if_neg hne, if_neg hzero, hlines, List.foldlM_append, hfold]
  dsimp only [bind, Except.bind]
  rw [List.foldlM_cons, hrejected]
  rfl

/-- Every snapshot that is built from an accepted configuration, with every valid token: adding
the claim succeeds and stays within the size limit; the result is the snapshot with the two hooks
behind the line of the interface section, and a newline before them where that line has none;
`awg-quick` finds these two hooks in it and no other; and validation rejects it for a prohibited
directive. -/
theorem linkClaim_minimal {data protocolConfig snapshot linkToken : Bytes}
    {envelope : ConfigEnvelope} (hparse : configParseEnvelope data = .ok envelope)
    (hbuild : quickConfigBuildSnapshot protocolConfig envelope = .ok snapshot)
    (htoken : linkTokenIsValid linkToken = true) :
    ∃ claimed, quickConfigAddLinkClaim snapshot linkToken = .ok claimed ∧
      claimed.length ≤ maxConfigSize ∧
      (∃ before header after separator, physicalLines snapshot = before ++ header :: after ∧
        readConfigLine .none false header = some .interface ∧
        separator = (if header.getLast? ≠ some newline then [newline] else []) ∧
        claimed = before.flatten ++ header ++ separator ++
          quickDirectiveLine (ascii "PreUp") (preUpCommand linkToken) ++
          quickDirectiveLine (ascii "PreDown") (preDownCommand linkToken) ++ after.flatten) ∧
      (quickLines claimed).filter QuickLine.isHook = claimedHooks linkToken ∧
      configValidate claimed = false ∧ ∃ line, configParseEnvelope claimed =
        setParseError .unsafeDirective line "uses a prohibited command directive" := by
  obtain ⟨hlength, ⟨parsed, hparsed, -⟩, -⟩ :=
    runtimeSnapshot_inverse.2.2 data envelope protocolConfig _ snapshot hparse hbuild
  obtain ⟨scan, hscan, rfl⟩ := exists_scan_of_configParseEnvelope hparsed
  obtain ⟨before, header, after, pre, hlines, hbefore, hcurrent, hunseen, -, -, hheader, hafter,
    hend⟩ := exists_header_of_scan hscan
  have hne : header ≠ [] := by
    rintro rfl
    exact absurd hheader (by decide)
  have hsome : linkClaimLines linkToken ≠ [] := by simp [linkClaimLines]
  obtain ⟨htake, hdrop⟩ := take_drop_header hlines
  have hseparator := separatorAt_header (linkClaimLines linkToken) hlines hne
  obtain ⟨headerPre, hheaderLine, hheaderPre, hcontent⟩ := header_separatorAt hlines hne hsome
  have hadd := quickConfigAddLinkClaim_eq htoken hparsed hlength
  dsimp only at hadd
  rw [hend, htake, hdrop] at hadd
  generalize separatorAt snapshot (linkClaimLines linkToken) (before.flatten ++ header).length =
    separator at *
  -- the lines of the result
  have hclaimed : before.flatten ++ header ++ separator ++ linkClaimLines linkToken ++
      after.flatten = (before ++ (header ++ separator) :: linkClaims linkToken).flatten ++
        after.flatten := by
    rw [linkClaimLines_eq]
    simp
  have hwhole : ∀ line ∈ (header ++ separator) :: linkClaims linkToken, ∃ pre,
      line = pre ++ [newline] ∧ newline ∉ pre := by
    intro line hline
    rcases List.mem_cons.mp hline with rfl | hline
    · exact ⟨headerPre, hheaderLine, hheaderPre⟩
    · exact linkClaims_shape htoken line hline
  have hphysical := physicalLines_insert hlines hwhole (by simp)
  have hmid : readConfigLine .none false (header ++ separator) = some .interface := by
    have hsame : uncomment (header ++ separator) = uncomment header := by
      rw [uncomment, uncomment, hheaderLine, lineContent_line hheaderPre, hcontent]
    rw [readConfigLine, hsame]
    exact hheader
  have hfits : (before.flatten ++ header ++ separator ++ linkClaimLines linkToken ++
      after.flatten).length ≤ maxConfigSize := by
    have hclaim := length_linkClaimLines htoken
    have hsplit := congrArg List.length (List.take_append_drop (before.flatten ++ header).length
      snapshot)
    rw [htake, hdrop] at hsplit
    have hone : separator.length ≤ 1 := by
      rw [hseparator]
      split <;> simp
    simp only [List.length_append] at hsplit ⊢
    omega
  refine ⟨_, hadd, hfits, ⟨before, header, after, separator, hlines, hheader, ?_, ?_⟩, ?_, ?_⟩
  · rw [hseparator]
    exact if_congr (and_iff_right hsome) rfl rfl
  · rw [linkClaimLines_eq]
    simp [linkClaims]
  · -- the hooks of the lines, part by part
    have hread : (readLines (before ++ (header ++ separator) :: linkClaims linkToken ++ after)).filter
        QuickLine.isHook = claimedHooks linkToken := by
      have hnone : ∀ lines : List Bytes, (∀ line ∈ readLines lines, line.isHook = false) →
          (readLines lines).filter QuickLine.isHook = [] := by
        intro lines hlines
        rw [List.filter_eq_nil_iff]
        intro line hline
        rw [hlines line hline]
        exact Bool.false_ne_true
      have hhead : ∀ line ∈ readLines [header ++ separator], line.isHook = false := by
        intro line hline
        obtain rfl := List.mem_singleton.mp hline
        exact (sameLine_of_readConfigLine hmid).1
      have hhooks : (claimedHooks linkToken).filter QuickLine.isHook = claimedHooks linkToken := by
        rw [List.filter_eq_self]
        intro line hline
        simp only [claimedHooks, List.mem_cons, List.not_mem_nil, or_false] at hline
        rcases hline with rfl | rfl <;> rfl
      have hsplit : readLines (before ++ (header ++ separator) :: linkClaims linkToken ++ after) =
          readLines before ++ readLines [header ++ separator] ++
            readLines (linkClaims linkToken) ++ readLines after := by
        simp [readLines]
      rw [hsplit, List.filter_append, List.filter_append, List.filter_append,
        hnone _ hbefore.not_isHook, hnone _ hhead, hnone _ hafter.not_isHook,
        readLines_linkClaims htoken, hhooks]
      rfl
    rw [hclaimed]
    obtain hquick | hquick := quickLines_eq
      ((before ++ (header ++ separator) :: linkClaims linkToken).flatten ++ after.flatten)
    · rw [hquick, hphysical, hread]
    · rw [hquick, hphysical, List.filter_append, hread]
      rfl
  · have hzero : 0 ∉ before.flatten ++ header ++ separator ++ linkClaimLines linkToken ++
        after.flatten := by
      obtain ⟨-, -, hzero, -⟩ := scanConfigEnvelope_eq_ok.mp hscan
      rw [← List.take_append_drop (before.flatten ++ header).length snapshot, htake, hdrop,
        List.mem_append, not_or] at hzero
      have hseparatorZero : 0 ∉ separator := by
        rw [hseparator]
        split <;> decide
      simp only [List.mem_append, not_or] at hzero ⊢
      exact ⟨⟨⟨hzero.1, hseparatorZero⟩, zero_notMem_linkClaimLines htoken⟩, hzero.2⟩
    obtain ⟨⟨hup, -⟩, -⟩ := plain_commands htoken
    have hlinesClaimed : physicalLines (before.flatten ++ header ++ separator ++
        linkClaimLines linkToken ++ after.flatten) = (before ++ [header ++ separator]) ++
          quickDirectiveLine (ascii "PreUp") (preUpCommand linkToken) ::
          quickDirectiveLine (ascii "PreDown") (preDownCommand linkToken) :: after := by
      rw [hclaimed, hphysical]
      simp [linkClaims]
    obtain ⟨line, hscanned⟩ := scanConfigEnvelope_hook hfits hzero hlinesClaimed hbefore hcurrent
      hunseen hmid isDirectiveName_preUp hup (by decide +kernel) (by decide +kernel)
    have hrejected : configParseEnvelope (before.flatten ++ header ++ separator ++
        linkClaimLines linkToken ++ after.flatten) =
          setParseError .unsafeDirective line "uses a prohibited command directive" := by
      rw [configParseEnvelope, hscanned]
      rfl
    refine ⟨?_, line, hrejected⟩
    rw [configValidate, hrejected]
    rfl

/-- The claim of a snapshot with one directive. -/
theorem linkClaim_minimal_mtu : ∃ claimed, quickConfigAddLinkClaim
    (ascii "[Interface]\nMTU = 1400\n") (List.replicate 32 0x30) = .ok claimed ∧
      (quickLines claimed).filter QuickLine.isHook = claimedHooks (List.replicate 32 0x30) := by
  have hclaim := @linkClaim_minimal (ascii "[Interface]\nMTU=1400\n") (ascii "[Interface]")
    (ascii "[Interface]\nMTU = 1400\n") (List.replicate 32 0x30) ⟨ascii "MTU = 1400\n", .empty, 12⟩
    (by decide) (by decide) (by decide)
  exact hclaim.imp fun claimed h => ⟨h.1, h.2.2.2.1⟩

end NmSidebar
