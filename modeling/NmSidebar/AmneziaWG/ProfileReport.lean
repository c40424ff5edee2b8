import NmSidebar.AmneziaWG.Names
import NmSidebar.Text.Lines

/-!
# Profile reports

The report on the saved profiles that the helper writes and the service reads
(`profile_report.c`). A report that is well formed is read back, and every report that is read
is well formed.
-/

namespace NmSidebar

open Text

/-! ## Reports -/

/-- `NetworkSidebarAmneziaWGProfileStatus`. -/
inductive ProfileStatus where
  | available
  | fileSecurity
  | invalidConfiguration
  | incompatibleConfiguration
  | changedOrUnreadable
  deriving DecidableEq

/-- The number of a status in a report. -/
def ProfileStatus.number : ProfileStatus → ℕ
  | .available => 0
  | .fileSecurity => 1
  | .invalidConfiguration => 2
  | .incompatibleConfiguration => 3
  | .changedOrUnreadable => 4

/-- `NETWORK_SIDEBAR_AMNEZIAWG_PROFILE_REPORT_MAX_RECORDS`. -/
def profileReportMaxRecords : ℕ := 256

/-- `NETWORK_SIDEBAR_AMNEZIAWG_PROFILE_REPORT_MAX_SIZE`. -/
def profileReportMaxSize : ℕ := 8192

/-- `NetworkSidebarAwgProfileReport`. -/
structure ProfileReport where
  records : List (Name × ProfileStatus)
  complete : Bool

/-- `network_sidebar_awg_profile_report_add`. -/
def ProfileReport.add (report : ProfileReport) (name : Name) (status : ProfileStatus) :
    Option ProfileReport :=
  if report.records.length ≥ profileReportMaxRecords ∨ nameIsValid name = false ∨
      name ∈ report.records.map Prod.fst then
    none
  else some { report with records := report.records ++ [(name, status)] }

/-- `network_sidebar_awg_profile_report_encode`. -/
def ProfileReport.encode (report : ProfileReport) : Option Bytes :=
  let header := ascii "NM-SIDEBAR-AWG-PROFILES\t1\t" ++ decimal report.records.length ++
    ascii "\t" ++ decimal (if report.complete then 1 else 0) ++ [newline]
  let output := header ++ report.records.flatMap fun record =>
    decimal record.2.number ++ ascii "\t" ++ record.1 ++ [newline]
  if report.records.length > profileReportMaxRecords ∨
      ¬(∀ record ∈ report.records, nameIsValid record.1 = true) ∨
      ¬(report.records.map Prod.fst).Nodup ∨ output.length > profileReportMaxSize then
    none
  else some output

/-! ## Decoding -/

/-- The status of a number that `network_sidebar_amneziawg_profile_status_is_valid` accepts. -/
def ProfileStatus.ofNumber : ℕ → Option ProfileStatus
  | 0 => some .available
  | 1 => some .fileSecurity
  | 2 => some .invalidConfiguration
  | 3 => some .incompatibleConfiguration
  | 4 => some .changedOrUnreadable
  | _ => none

/-- The ranges of the bytes that follow the first byte of a UTF-8 sequence. -/
def utf8Follow (lead : UInt8) : Option (List (UInt8 × UInt8)) :=
  if lead < 0x80 then some []
  else if lead < 0xc2 then none
  else if lead < 0xe0 then some [(0x80, 0xbf)]
  else if lead = 0xe0 then some [(0xa0, 0xbf), (0x80, 0xbf)]
  else if lead = 0xed then some [(0x80, 0x9f), (0x80, 0xbf)]
  else if lead < 0xf0 then some [(0x80, 0xbf), (0x80, 0xbf)]
  else if lead = 0xf0 then some [(0x90, 0xbf), (0x80, 0xbf), (0x80, 0xbf)]
  else if lead < 0xf4 then some [(0x80, 0xbf), (0x80, 0xbf), (0x80, 0xbf)]
  else if lead = 0xf4 then some [(0x80, 0x8f), (0x80, 0xbf), (0x80, 0xbf)]
  else none

/-- The scan of `g_utf8_validate`, with the ranges of the bytes a sequence still needs. -/
def utf8Scan : List (UInt8 × UInt8) → Bytes → Bool
  | [], [] => true
  | _ :: _, [] => false
  | [], lead :: rest =>
    match utf8Follow lead with
    | none => false
    | some pending => utf8Scan pending rest
  | (first, last) :: pending, b :: rest =>
    decide (first ≤ b) && decide (b ≤ last) && utf8Scan pending rest

/-- `g_utf8_validate`. -/
def utf8Validate (text : Bytes) : Bool := utf8Scan [] text

/-- `g_strsplit`: the empty string has no parts. -/
def strsplit (delimiter : UInt8) (text : Bytes) : List Bytes :=
  if text = [] then [] else text.splitOn delimiter

/-- `G_MAXUINT`. -/
def maxUint : ℕ := 4294967295

/-- `parse_uint`. -/
def parseUint (text : Bytes) (maximum : ℕ) : Option ℕ :=
  if text = [] ∨ text.all isDigit = false ∨ readFrom 0 text > maximum then none
  else some (readFrom 0 text)

/-- `NETWORK_SIDEBAR_AMNEZIAWG_PROFILE_REPORT_MAGIC`. -/
def profileReportMagic : Bytes := ascii "NM-SIDEBAR-AWG-PROFILES"

/-- One line of `network_sidebar_awg_profile_report_decode`. -/
def ProfileReport.addLine (report : ProfileReport) (line : Bytes) : Option ProfileReport :=
  match strsplit 0x09 line with
  | [number, name] => (parseUint number maxUint).bind fun number =>
      (ProfileStatus.ofNumber number).bind fun status => report.add name status
  | _ => none

/-- The header of `network_sidebar_awg_profile_report_decode`: the number of records and the
complete flag. -/
def profileReportHeader (line : Bytes) : Option (ℕ × ℕ) :=
  match strsplit 0x09 line with
  | [magic, version, count, complete] =>
    if magic ≠ profileReportMagic then none
    else
      match parseUint version maxUint, parseUint count profileReportMaxRecords,
        parseUint complete 1 with
      | some version, some count, some complete =>
        if version ≠ 1 then none else some (count, complete)
      | _, _, _ => none
  | _ => none

/-- `network_sidebar_awg_profile_report_decode`. -/
def profileReportDecode (data : Bytes) (status : HelperExit) : Option ProfileReport :=
  if (status ≠ .success ∧ status ≠ .inventoryPartial) ∨ data = [] ∨
      data.length > profileReportMaxSize ∨ data.getLast? ≠ some newline ∨ 0 ∈ data ∨
      utf8Validate data = false then
    none
  else
    let lines := strsplit newline data
    match profileReportHeader (lines.headD []) with
    | none => none
    | some (count, complete) =>
      if lines.length ≠ count + 2 ∨ lines.getD (count + 1) [] ≠ [] ∨
          decide (status = .success) ≠ decide (complete ≠ 0) then
        none
      else ((lines.drop 1).take count).foldlM ProfileReport.addLine ⟨[], decide (complete ≠ 0)⟩

/-! ## Well-formed reports -/

/-- What every report satisfies that is built by adding records. -/
structure ProfileReport.WellFormed (report : ProfileReport) : Prop where
  bounded : report.records.length ≤ profileReportMaxRecords
  valid : ∀ record ∈ report.records, nameIsValid record.1 = true
  nodup : (report.records.map Prod.fst).Nodup

theorem wellFormed_nil (complete : Bool) : (⟨[], complete⟩ : ProfileReport).WellFormed :=
  ⟨Nat.zero_le _, by simp, List.nodup_nil⟩

/-- Adding a record keeps a report well formed. -/
theorem wellFormed_add {report report' : ProfileReport} {name : Name} {status : ProfileStatus}
    (h : report.WellFormed) (hadd : report.add name status = some report') :
    report'.WellFormed ∧ report'.complete = report.complete := by
  unfold ProfileReport.add at hadd
  split at hadd
  · cases hadd
  rename_i hrefused
  obtain ⟨hbounded, hvalid, hnew⟩ := by simpa only [not_or] using hrefused
  cases hadd
  refine ⟨⟨?_, fun record hmem => ?_, ?_⟩, rfl⟩
  · rw [List.length_append, List.length_singleton]
    exact not_le.mp hbounded
  · rcases List.mem_append.mp hmem with hmem | hmem
    · exact h.valid record hmem
    · obtain rfl := List.mem_singleton.mp hmem
      simpa using hvalid
  · rw [List.map_append, List.map_singleton, ← List.concat_eq_append]
    exact h.nodup.concat hnew

/-- Lines keep a report well formed. -/
theorem wellFormed_addLines {lines : List Bytes} {report report' : ProfileReport}
    (h : report.WellFormed) (hadd : lines.foldlM ProfileReport.addLine report = some report') :
    report'.WellFormed ∧ report'.complete = report.complete := by
  induction lines generalizing report with
  | nil =>
    obtain rfl := Option.some.inj hadd
    exact ⟨h, rfl⟩
  | cons line lines ih =>
    obtain ⟨next, hline, hrest⟩ := Option.bind_eq_some_iff.mp hadd
    have hnext : next.WellFormed ∧ next.complete = report.complete := by
      unfold ProfileReport.addLine at hline
      split at hline
      · obtain ⟨number, -, hline⟩ := Option.bind_eq_some_iff.mp hline
        obtain ⟨status, -, hline⟩ := Option.bind_eq_some_iff.mp hline
        exact wellFormed_add h hline
      · cases hline
    obtain ⟨hreport', hcomplete⟩ := ih hnext.1 hrest
    exact ⟨hreport', hcomplete.trans hnext.2⟩

/-- Every report that is read is well formed, and complete exactly with a success. -/
theorem wellFormed_of_decode {data : Bytes} {status : HelperExit} {report : ProfileReport}
    (h : profileReportDecode data status = some report) :
    report.WellFormed ∧ (status = .success ∨ status = .inventoryPartial) ∧
      (report.complete = true ↔ status = .success) := by
  unfold profileReportDecode at h
  split at h
  · cases h
  rename_i hrefused
  obtain ⟨hstatus, -⟩ := not_or.mp hrefused
  have hstatus : status = .success ∨ status = .inventoryPartial := by
    by_contra hother
    exact hstatus (not_or.mp hother)
  dsimp only at h
  split at h
  · cases h
  rename_i count complete hheader
  split at h
  · cases h
  rename_i hcoupled
  obtain ⟨-, -, hcoupled⟩ := by simpa only [not_or, not_not] using hcoupled
  obtain ⟨hreport, hcomplete⟩ := wellFormed_addLines (wellFormed_nil _) h
  refine ⟨hreport, hstatus, ?_⟩
  rw [hcomplete]
  show decide (complete ≠ 0) = true ↔ _
  rw [← hcoupled, decide_eq_true_iff]

/-! ## Reading what was written -/

theorem parseUint_decimal {n maximum : ℕ} (h : n ≤ maximum) :
    parseUint (decimal n) maximum = some n := by
  unfold parseUint
  rw [readFrom_decimal, if_neg]
  rw [not_or, not_or]
  refine ⟨decimal_ne_nil n, ?_, not_lt.mpr h⟩
  rw [Bool.not_eq_false, List.all_eq_true]
  exact fun b hb => isDigit_of_mem_decimal hb

theorem ofNumber_number (status : ProfileStatus) :
    ProfileStatus.ofNumber status.number = some status := by
  cases status <;> rfl

theorem number_le (status : ProfileStatus) : status.number ≤ 4 := by
  cases status <;> decide

/-- The bytes of names and numbers: no control characters, nothing beyond ASCII. -/
def isPlain (b : UInt8) : Bool := decide (0x20 < b) && decide (b < 0x80)

theorem isPlain_of_isAlnum {b : UInt8} (h : isAlnum b = true) : isPlain b = true := by
  simp only [isAlnum, isDigit, isPlain, Bool.or_eq_true, Bool.and_eq_true, decide_eq_true_eq,
    UInt8.lt_iff_toNat_lt, UInt8.le_iff_toNat_le, UInt8.reduceToNat] at h ⊢
  omega

theorem isPlain_of_mem_decimal {n : ℕ} {b : UInt8} (h : b ∈ decimal n) : isPlain b = true := by
  refine isPlain_of_isAlnum ?_
  rw [isAlnum, isDigit_of_mem_decimal h]
  rfl

theorem isPlain_of_mem_name {name : Name} (h : nameIsValid name = true) {b : UInt8}
    (hb : b ∈ name) : isPlain b = true := by
  obtain ⟨first, rest, rfl, -, hfirst, hrest⟩ := nameIsValid_iff.mp h
  rcases List.mem_cons.mp hb with rfl | hb
  · exact isPlain_of_isAlnum hfirst
  · rcases hrest b hb with h | rfl | rfl | rfl
    · exact isPlain_of_isAlnum h
    all_goals decide

/-- A byte that a report may have between its tabs and newlines is none of them. -/
theorem notMem_of_plain {text : Bytes} (h : ∀ b ∈ text, isPlain b = true) {b : UInt8}
    (hb : isPlain b = false) : b ∉ text := by
  intro hmem
  rw [h b hmem] at hb
  cases hb

/-- ASCII text is valid. -/
theorem utf8Validate_ascii {text : Bytes} (h : ∀ b ∈ text, b < 0x80) :
    utf8Validate text = true := by
  unfold utf8Validate
  induction text with
  | nil => rfl
  | cons b rest ih =>
    rw [utf8Scan, utf8Follow, if_pos (h b List.mem_cons_self)]
    exact ih fun other hmem => h other (List.mem_cons_of_mem _ hmem)

/-- A field, and the fields after its delimiter. -/
theorem strsplit_append {delimiter : UInt8} {field rest : Bytes} (h : delimiter ∉ field) :
    strsplit delimiter (field ++ delimiter :: rest) = field :: rest.splitOn delimiter := by
  rw [strsplit, if_neg (by simp)]
  exact List.splitOn_append_cons_self_of_not_mem h rest

/-- The line of a record. -/
def recordLine (record : Name × ProfileStatus) : Bytes :=
  decimal record.2.number ++ ascii "\t" ++ record.1

/-- The line of a header. -/
def headerLine (report : ProfileReport) : Bytes :=
  ascii "NM-SIDEBAR-AWG-PROFILES\t1\t" ++ decimal report.records.length ++ ascii "\t" ++
    decimal (if report.complete then 1 else 0)

/-- The lines of a report. -/
def encodeReport (report : ProfileReport) : Bytes :=
  headerLine report ++ [newline] ++
    report.records.flatMap fun record => recordLine record ++ [newline]

/-- A record that was written is added again. -/
theorem addLine_recordLine {report : ProfileReport} {record : Name × ProfileStatus}
    (h : nameIsValid record.1 = true) :
    report.addLine (recordLine record) = report.add record.1 record.2 := by
  have htab : (0x09 : UInt8) ∉ decimal record.2.number :=
    notMem_of_plain (fun b hb => isPlain_of_mem_decimal hb) (by decide)
  have hname : (0x09 : UInt8) ∉ record.1 :=
    notMem_of_plain (fun b hb => isPlain_of_mem_name h hb) (by decide)
  have hsplit : strsplit 0x09 (recordLine record) = [decimal record.2.number, record.1] := by
    have hline : recordLine record = decimal record.2.number ++ 0x09 :: record.1 := by
      rw [recordLine, List.append_assoc]
      rfl
    rw [hline, strsplit_append htab, List.splitOn_eq_singleton hname]
  have hnumber : record.2.number ≤ maxUint :=
    (number_le record.2).trans (by decide)
  rw [ProfileReport.addLine, hsplit]
  dsimp only
  rw [parseUint_decimal hnumber, Option.bind_some, ofNumber_number, Option.bind_some]

/-- The header is read as it was written. -/
theorem profileReportHeader_headerLine {report : ProfileReport}
    (h : report.records.length ≤ profileReportMaxRecords) :
    profileReportHeader (headerLine report) =
      some (report.records.length, if report.complete then 1 else 0) := by
  have htab : ∀ n, (0x09 : UInt8) ∉ decimal n :=
    fun n => notMem_of_plain (fun b hb => isPlain_of_mem_decimal hb) (by decide)
  have hsplit : strsplit 0x09 (headerLine report) = [profileReportMagic, decimal 1,
      decimal report.records.length, decimal (if report.complete then 1 else 0)] := by
    have hline : headerLine report = profileReportMagic ++ 0x09 :: (decimal 1 ++ 0x09 ::
        (decimal report.records.length ++ 0x09 ::
          decimal (if report.complete then 1 else 0))) := by
      rw [headerLine, show ascii "NM-SIDEBAR-AWG-PROFILES\t1\t" =
        profileReportMagic ++ 0x09 :: (decimal 1 ++ [0x09]) by decide +kernel]
      simp [ascii]
    rw [hline, strsplit_append (by decide), List.splitOn_append_cons_self_of_not_mem (htab _),
      List.splitOn_append_cons_self_of_not_mem (htab _), List.splitOn_eq_singleton (htab _)]
  have hcomplete : (if report.complete then 1 else 0) ≤ 1 := by
    split <;> decide
  unfold profileReportHeader
  rw [hsplit]
  dsimp only
  rw [if_neg (fun h => h rfl), parseUint_decimal (by decide), parseUint_decimal h,
    parseUint_decimal hcomplete]
  rfl

/-- The lines of a report, each without its newline. -/
def reportLines (report : ProfileReport) : List Bytes :=
  headerLine report :: report.records.map recordLine

theorem encodeReport_eq (report : ProfileReport) :
    encodeReport report = (reportLines report).flatMap fun line => line ++ [newline] := by
  rw [encodeReport, reportLines, List.flatMap_cons, List.flatMap_map]

/-- Lines that end in newlines are split again, and nothing is left after the last newline. -/
theorem splitOn_lines {lines : List Bytes} (h : ∀ line ∈ lines, newline ∉ line) :
    (lines.flatMap fun line => line ++ [newline]).splitOn newline = lines ++ [[]] := by
  induction lines with
  | nil => rfl
  | cons line lines ih =>
    have ih := ih fun other hmem => h other (List.mem_cons_of_mem _ hmem)
    rw [List.flatMap_cons, List.append_assoc, List.singleton_append,
      List.splitOn_append_cons_self_of_not_mem (h line List.mem_cons_self), ih, List.cons_append]

/-- The bytes of a line: plain ones and tabs. -/
theorem plain_of_mem_line {report : ProfileReport} (h : report.WellFormed) {line : Bytes}
    (hline : line ∈ reportLines report) {b : UInt8} (hb : b ∈ line) :
    isPlain b = true ∨ b = 0x09 := by
  have hdecimal : ∀ {n}, b ∈ decimal n → isPlain b = true ∨ b = 0x09 :=
    fun hb => .inl (isPlain_of_mem_decimal hb)
  have hconstant : ∀ text : Bytes, (text.all fun b => isPlain b || b == 0x09) = true →
      b ∈ text → isPlain b = true ∨ b = 0x09 := by
    intro text hall hmem
    simpa using List.all_eq_true.mp hall b hmem
  rcases List.mem_cons.mp hline with rfl | hline
  · simp only [headerLine, List.mem_append] at hb
    rcases hb with ((hb | hb) | hb) | hb
    · exact hconstant _ (by decide +kernel) hb
    · exact hdecimal hb
    · exact hconstant _ (by decide +kernel) hb
    · exact hdecimal hb
  · obtain ⟨record, hrecord, rfl⟩ := List.mem_map.mp hline
    simp only [recordLine, List.mem_append] at hb
    rcases hb with (hb | hb) | hb
    · exact hdecimal hb
    · exact hconstant _ (by decide +kernel) hb
    · exact .inl (isPlain_of_mem_name (h.valid record hrecord) hb)

/-- A report of a line for each of at most 256 records fits. -/
theorem length_encodeReport {report : ProfileReport} (h : report.WellFormed) :
    (encodeReport report).length ≤ profileReportMaxSize := by
  have hbounded : report.records.length ≤ 256 := h.bounded
  have hrecords : (report.records.flatMap fun record => recordLine record ++ [newline]).length ≤
      18 * report.records.length := by
    refine length_flatMap_le_mul fun record hmem => ?_
    have hname := length_le_of_nameIsValid (h.valid record hmem)
    have hnumber : (decimal record.2.number).length ≤ 1 :=
      length_decimal_le (by decide) (lt_of_le_of_lt (number_le _) (by decide))
    have htab : (ascii "\t").length = 1 := rfl
    simp only [recordLine, List.length_append, List.length_singleton, htab]
    omega
  have hheader : (headerLine report).length ≤ 31 := by
    have hcount : (decimal report.records.length).length ≤ 3 :=
      length_decimal_le (by decide) (by omega)
    have hcomplete : (decimal (if report.complete then 1 else 0)).length ≤ 1 := by
      refine length_decimal_le (by decide) ?_
      split <;> decide
    have hmagic : (ascii "NM-SIDEBAR-AWG-PROFILES\t1\t").length = 26 := by decide +kernel
    have htab : (ascii "\t").length = 1 := rfl
    simp only [headerLine, List.length_append, hmagic, htab]
    omega
  simp only [encodeReport, List.length_append, List.length_singleton, profileReportMaxSize]
  omega

/-- A well-formed report is written. -/
theorem encode_of_wellFormed {report : ProfileReport} (h : report.WellFormed) :
    report.encode = some (encodeReport report) := by
  have hlength := length_encodeReport h
  unfold ProfileReport.encode
  refine if_neg ?_
  rw [not_or, not_or, not_or]
  exact ⟨not_lt.mpr h.bounded, fun hvalid => hvalid h.valid, fun hnodup => hnodup h.nodup,
    not_lt.mpr hlength⟩

/-- Adding the records of a report one by one. -/
theorem addLines_recordLines {records : List (Name × ProfileStatus)} {report : ProfileReport}
    (h : ProfileReport.WellFormed ⟨report.records ++ records, report.complete⟩) :
    (records.map recordLine).foldlM ProfileReport.addLine report =
      some ⟨report.records ++ records, report.complete⟩ := by
  induction records generalizing report with
  | nil => rw [List.append_nil]; rfl
  | cons record records ih =>
    have hvalid : nameIsValid record.1 = true :=
      h.valid record (List.mem_append_right _ List.mem_cons_self)
    have hbounded := h.bounded
    have hnodup := h.nodup
    simp only [List.length_append, List.length_cons, List.map_append, List.map_cons] at hbounded hnodup
    have hnew : record.1 ∉ report.records.map Prod.fst := by
      intro hmem
      exact (List.disjoint_of_nodup_append hnodup) hmem List.mem_cons_self
    have hadd : report.add record.1 record.2 =
        some ⟨report.records ++ [record], report.complete⟩ := by
      refine if_neg ?_
      rw [not_or, not_or]
      exact ⟨by omega, by simp [hvalid], hnew⟩
    rw [List.map_cons, List.foldlM_cons, addLine_recordLine hvalid, hadd]
    have hrest : report.records ++ record :: records = report.records ++ [record] ++ records := by
      rw [List.append_assoc, List.singleton_append]
    rw [hrest] at h ⊢
    exact ih h

/-- A well-formed report is read back with the exit status that goes with it. -/
theorem decode_encodeReport {report : ProfileReport} (h : report.WellFormed) {status : HelperExit}
    (hstatus : status = .success ∨ status = .inventoryPartial)
    (hcomplete : report.complete = true ↔ status = .success) :
    profileReportDecode (encodeReport report) status = some report := by
  have hbytes : ∀ b ∈ encodeReport report, (isPlain b = true ∨ b = 0x09) ∨ b = newline := by
    intro b hb
    rw [encodeReport_eq] at hb
    obtain ⟨line, hline, hb⟩ := List.mem_flatMap.mp hb
    rcases List.mem_append.mp hb with hb | hb
    · exact .inl (plain_of_mem_line h hline hb)
    · exact .inr (List.mem_singleton.mp hb)
  have hnewline : ∀ line ∈ reportLines report, newline ∉ line := by
    intro line hline hmem
    exact (plain_of_mem_line h hline hmem).elim (by decide) (by decide)
  have hlines : strsplit newline (encodeReport report) = reportLines report ++ [[]] := by
    rw [strsplit, if_neg, encodeReport_eq, splitOn_lines hnewline]
    simp [encodeReport]
  have hlast : (encodeReport report).getLast? = some newline := by
    rw [encodeReport_eq, reportLines]
    rcases List.eq_nil_or_concat (report.records.map recordLine) with hnil | ⟨lines, line, hline⟩
    · rw [hnil]
      simp
    · rw [hline, List.concat_eq_append, ← List.cons_append, List.flatMap_append,
        List.flatMap_singleton, ← List.append_assoc, List.getLast?_concat]
  have hzero : (0 : UInt8) ∉ encodeReport report := by
    intro hmem
    exact (hbytes 0 hmem).elim (fun h => h.elim (by decide) (by decide)) (by decide)
  have hascii : ∀ b ∈ encodeReport report, b < 0x80 := by
    intro b hb
    rcases hbytes b hb with (h | rfl) | rfl
    · simp only [isPlain, Bool.and_eq_true, decide_eq_true_eq] at h
      exact h.2
    · decide
    · decide
  unfold profileReportDecode
  rw [if_neg, hlines]
  · dsimp only
    rw [reportLines, List.cons_append, List.headD_cons, profileReportHeader_headerLine h.bounded]
    dsimp only
    rw [if_neg]
    · -- the records, without the empty part after the last newline
      have htake : (((headerLine report :: (report.records.map recordLine ++ [[]])).drop 1).take
          report.records.length) = report.records.map recordLine := by
        rw [List.drop_one, List.tail_cons]
        exact List.take_left' (List.length_map _)
      have hflag : decide ((if report.complete = true then 1 else 0) ≠ 0) = report.complete := by
        cases report.complete <;> rfl
      rw [htake, hflag]
      exact addLines_recordLines h
    · have hend : (headerLine report :: (report.records.map recordLine ++ [[]])).getD
          (report.records.length + 1) [] = [] := by
        rw [List.getD_cons_succ, List.getD_eq_getElem?_getD,
          List.getElem?_append_right (by rw [List.length_map])]
        simp
      rw [not_or, not_or, not_not, not_not]
      refine ⟨by simp, hend, ?_⟩
      cases hflag : report.complete with
      | true => simp [hcomplete.mp hflag]
      | false =>
        have hne : status ≠ .success := fun h => by simp [hcomplete.mpr h] at hflag
        simp [hne]
  · rw [not_or, not_or, not_or, not_or, not_or]
    refine ⟨fun hother => hstatus.elim hother.1 hother.2, by simp [encodeReport],
      not_lt.mpr (length_encodeReport h), fun hne => hne hlast, hzero, ?_⟩
    rw [utf8Validate_ascii hascii]
    simp

end NmSidebar
