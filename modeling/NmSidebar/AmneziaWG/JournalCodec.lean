import NmSidebar.AmneziaWG.RuntimeJournal

/-!
# The marker codec

The text form of a marker is read back to the marker, and a text that is read is the text form
of what it is read as. Both directions go line by line: `journalField_line` reads the line that
`journalLine` writes, `eq_of_journalField` says that nothing else is read.
-/

namespace NmSidebar

open Text

/-! ## One line -/

/-- A line that was written is read back, with what follows it. -/
theorem journalField_line {minimum : ℕ} {key : String} {value rest : Bytes}
    (hlen : minimum ≤ (ascii key).length + value.length + 1) (hvalue : 0x0a ∉ value) :
    journalField minimum key (journalLine key value ++ rest) = some (value, rest) := by
  have htext : journalLine key value ++ rest = ascii key ++ (value ++ 0x0a :: rest) := by
    simp [journalLine]
  have hmin : ¬(journalLine key value ++ rest).length < minimum := by
    simp only [journalLine, List.length_append, List.length_singleton]
    omega
  rw [journalField, if_neg hmin, htext, stripPrefix_eq_some.mpr rfl, Option.bind_some,
    splitFirst_append hvalue]

/-- A line that is read was written. -/
theorem eq_of_journalField {minimum : ℕ} {key : String} {text value rest : Bytes}
    (h : journalField minimum key text = some (value, rest)) :
    text = journalLine key value ++ rest ∧ 0x0a ∉ value := by
  unfold journalField at h
  split at h
  · cases h
  obtain ⟨after, hkey, hsplit⟩ := Option.bind_eq_some_iff.mp h
  obtain ⟨rfl, hvalue⟩ := splitFirst_eq_some.mp hsplit
  obtain rfl := stripPrefix_eq_some.mp hkey
  exact ⟨by simp [journalLine], hvalue⟩

/-! ## The values -/

theorem journalStateOfName_name (state : JournalState) :
    journalStateOfName (journalStateName state) = some state := by
  cases state <;> decide

theorem name_of_journalStateOfName {text : Bytes} {state : JournalState}
    (h : journalStateOfName text = some state) : text = journalStateName state := by
  unfold journalStateOfName at h
  split_ifs at h <;> cases h <;> assumption

theorem dnsBackendOfName_name (backend : DnsBackend) :
    dnsBackendOfName (dnsBackendName backend) = some backend := by
  cases backend <;> decide

theorem name_of_dnsBackendOfName {text : Bytes} {backend : DnsBackend}
    (h : dnsBackendOfName text = some backend) : text = dnsBackendName backend := by
  unfold dnsBackendOfName at h
  split_ifs at h <;> cases h <;> assumption

theorem journalDnsStateOfName_name (state : JournalDnsState) :
    journalDnsStateOfName (journalDnsStateName state) = some state := by
  cases state <;> decide

theorem name_of_journalDnsStateOfName {text : Bytes} {state : JournalDnsState}
    (h : journalDnsStateOfName text = some state) : text = journalDnsStateName state := by
  unfold journalDnsStateOfName at h
  split_ifs at h <;> cases h <;> assumption

theorem journalWasActive_decimal (wasActive : Bool) :
    journalWasActive (decimal (if wasActive then 1 else 0)) = some wasActive := by
  cases wasActive <;> decide

theorem decimal_of_journalWasActive {text : Bytes} {wasActive : Bool}
    (h : journalWasActive text = some wasActive) :
    text = decimal (if wasActive then 1 else 0) := by
  unfold journalWasActive at h
  split_ifs at h with h0 h1
  · obtain rfl := Option.some.inj h
    subst h0
    decide
  · obtain rfl := Option.some.inj h
    subst h1
    decide

/-! ## The interface index -/

/-- The digits of an index read as far as the number fits the field. -/
theorem ifindexDigits_eq {value : ℕ} {text : Bytes} (hdigit : ∀ b ∈ text, isDigit b = true) :
    ifindexDigits value text =
      if readFrom value text ≤ 4294967295 ∨ text = [] then some (readFrom value text) else none := by
  induction text generalizing value with
  | nil => simp [ifindexDigits, readFrom]
  | cons b text ih =>
    have hb := hdigit b (List.mem_cons_self ..)
    have hlt := digitValue_lt hb
    have hread : readFrom value (b :: text) = readFrom (value * 10 + digitValue b) text := rfl
    have hle := le_readFrom (value * 10 + digitValue b) text
    rw [ifindexDigits, if_neg (by simp [hb]), hread]
    split
    · -- the number is already too large, and more digits only make it larger
      rw [if_neg]
      simp only [reduceCtorEq, or_false]
      omega
    · rw [ih fun c hc => hdigit c (List.mem_cons_of_mem _ hc)]
      cases text with
      | nil =>
        simp only [readFrom, List.foldl_nil, or_true, if_true, reduceCtorEq, or_false]
        rw [if_pos (by omega)]
      | cons c text => simp only [reduceCtorEq, or_false]

/-- Where every byte is a digit there is nothing to trim. -/
private theorem trim_of_digits {text : Bytes} (hdigit : ∀ b ∈ text, isDigit b = true) :
    trim text = text :=
  trim_of_no_space fun b hb => isSpace_of_isDigit (hdigit b hb)

theorem journalIfindex_decimal (ifindex : UInt32) :
    journalIfindex (decimal ifindex.toNat) = some ifindex := by
  by_cases h0 : ifindex.toNat = 0
  · have : ifindex = 0 := by
      apply UInt32.toNat_inj.mp
      simpa using h0
    subst this
    decide
  · have hdigit : ∀ b ∈ decimal ifindex.toNat, isDigit b = true :=
      fun b hb => isDigit_of_mem_decimal hb
    have hall : ¬(decimal ifindex.toNat).all isDigit = false := by
      simpa using hdigit
    have hone : decimal ifindex.toNat ≠ [0x30] := by
      intro h
      exact head_decimal h0 (by rw [h]; rfl)
    have hlt := ifindex.toNat_lt
    rw [journalIfindex, if_neg (decimal_ne_nil _), if_neg hone, if_neg (head_decimal h0),
      if_neg hall, ifindexParse, trim_of_digits hdigit, if_neg (decimal_ne_nil _),
      ifindexDigits_eq hdigit, readFrom_decimal, if_pos (Or.inl (by omega))]
    simp only [h0, if_false]
    rw [UInt32.ofNat_toNat]

theorem decimal_of_journalIfindex {text : Bytes} {ifindex : UInt32}
    (h : journalIfindex text = some ifindex) : text = decimal ifindex.toNat := by
  unfold journalIfindex at h
  split at h
  · cases h
  split at h
  · rename_i _ hzero
    obtain rfl := Option.some.inj h
    subst hzero
    decide
  split at h
  · cases h
  split at h
  · cases h
  rename_i hne hone hhead hall
  have hdigit : ∀ b ∈ text, isDigit b = true := by simpa using hall
  rw [ifindexParse, trim_of_digits hdigit, if_neg hne, ifindexDigits_eq hdigit] at h
  split at h
  · cases h
  rename_i value hvalue
  split at hvalue
  · rename_i hle
    obtain rfl := Option.some.inj hvalue
    have hle : readFrom 0 text ≤ 4294967295 := hle.resolve_right hne
    split at h
    · cases h
    · obtain rfl := Option.some.inj h
      rw [UInt32.toNat_ofNat', Nat.mod_eq_of_lt (by omega), decimal_readFrom hne hdigit (.inr hhead)]
  · cases hvalue

/-! ## The firewall scope -/

/-- A valid scope is below 32. -/
theorem firewallScope_lt {scope : UInt32} (h : scope &&& ~~~firewallAll = 0) :
    scope.toNat < 32 := by
  have hand : scope.toBitVec &&& ~~~(31#32) = 0#32 := congrArg UInt32.toBitVec h
  have hbits : scope.toBitVec = scope.toBitVec &&& 31#32 := by
    ext i hi
    have hi' := congrArg (fun v : BitVec 32 => v[i]) hand
    simp only [BitVec.getElem_and, BitVec.getElem_not, BitVec.getElem_zero] at hi' ⊢
    cases hs : scope.toBitVec[i] <;> simp_all
  have hnat := congrArg BitVec.toNat hbits
  rw [BitVec.toNat_and] at hnat
  have hle : scope.toBitVec.toNat &&& (31#32).toNat ≤ 31 := Nat.and_le_right
  have : scope.toBitVec.toNat ≤ 31 := by omega
  rw [← UInt32.toNat_toBitVec]
  omega

theorem journalFirewallScope_line {scope : UInt32} (h : scope.toNat < 32) :
    journalFirewallScope (journalLine "firewall-scope=" (decimal scope.toNat)) = some scope := by
  have hdigit : ∀ b ∈ decimal scope.toNat, isDigit b = true := fun b hb => isDigit_of_mem_decimal hb
  have hlen : (decimal scope.toNat).length ≤ 2 := length_decimal_le (by norm_num) (by omega)
  have hpos : 0 < (decimal scope.toNat).length := List.length_pos_iff.mpr (decimal_ne_nil _)
  have hkey : (ascii "firewall-scope=").length = 15 := by decide
  have hguard : ¬(journalLine "firewall-scope=" (decimal scope.toNat)).length < 17 := by
    simp only [journalLine, List.length_append, List.length_singleton, hkey]
    omega
  have hstrip : stripPrefix (ascii "firewall-scope=")
      (journalLine "firewall-scope=" (decimal scope.toNat)) =
        some (decimal scope.toNat ++ [0x0a]) :=
    stripPrefix_eq_some.mpr (by simp [journalLine])
  rw [journalFirewallScope, if_neg hguard, hstrip]
  simp only [List.dropLast_concat]
  have hzero : ¬((decimal scope.toNat).length > 2 ∨
      ((decimal scope.toNat).length > 1 ∧ (decimal scope.toNat).head? = some 0x30)) := by
    rintro (hlong | ⟨hlong, hhead⟩)
    · omega
    · by_cases h0 : scope.toNat = 0
      · rw [h0] at hlong
        exact absurd hlong (by decide)
      · exact head_decimal h0 hhead
  have hall : ¬(decimal scope.toNat).all isDigit = false := by simpa using hdigit
  rw [if_neg hzero, if_neg hall, readFrom_decimal, UInt32.ofNat_toNat]

theorem line_of_journalFirewallScope {rest : Bytes} {scope : UInt32}
    (h : journalFirewallScope rest = some scope) (hlast : rest.getLast? = some 0x0a) :
    rest = journalLine "firewall-scope=" (decimal scope.toNat) := by
  have hkey : (ascii "firewall-scope=").length = 15 := by decide
  unfold journalFirewallScope at h
  split at h
  · cases h
  rename_i hguard
  split at h
  · cases h
  rename_i value hstrip
  obtain rfl := stripPrefix_eq_some.mp hstrip
  rw [List.length_append, hkey] at hguard
  have hne : value ≠ [] := by
    rintro rfl
    simp at hguard
  have hvalue : value = value.dropLast ++ [0x0a] := by
    rw [List.getLast?_append_of_ne_nil _ hne, List.getLast?_eq_getLast_of_ne_nil hne] at hlast
    conv_lhs => rw [← List.dropLast_append_getLast hne, Option.some.inj hlast]
  dsimp only at h
  generalize value.dropLast = text at h hvalue
  subst hvalue
  simp only [List.length_append, List.length_singleton] at hguard
  have htext : text ≠ [] := by
    rintro rfl
    simp at hguard
  split at h
  · cases h
  rename_i hlong
  split at h
  · cases h
  rename_i hall
  obtain rfl := Option.some.inj h
  have hdigit : ∀ b ∈ text, isDigit b = true := by simpa using hall
  have hhead : text = [0x30] ∨ text.head? ≠ some 0x30 := by
    by_cases hhead : text.head? = some 0x30
    · left
      have hlen : ¬text.length > 1 := fun hlen => hlong (.inr ⟨hlen, hhead⟩)
      match text, htext with
      | [b], _ => simpa using hhead
      | b :: c :: more, _ => simp at hlen
    · exact .inr hhead
  have hcanon := decimal_readFrom htext hdigit hhead
  have hsmall : readFrom 0 text < 4294967296 := by
    match text, htext, not_or.mp hlong with
    | [b], _, _ =>
      have := digitValue_lt (hdigit b (by simp))
      simp only [readFrom, List.foldl_cons, List.foldl_nil]
      omega
    | [b, c], _, _ =>
      have := digitValue_lt (hdigit b (by simp))
      have := digitValue_lt (hdigit c (by simp))
      simp only [readFrom, List.foldl_cons, List.foldl_nil]
      omega
    | _ :: _ :: _ :: _, _, hlong => simp at hlong
  rw [UInt32.toNat_ofNat', Nat.mod_eq_of_lt hsmall, hcanon]
  simp [journalLine]

/-! ## The whole marker -/

/-- The values that stand on a line of their own hold no newline. -/
theorem newline_notMem_name (state : JournalState) (backend : DnsBackend)
    (dnsState : JournalDnsState) (wasActive : Bool) :
    0x0a ∉ journalStateName state ∧ 0x0a ∉ dnsBackendName backend ∧
      0x0a ∉ journalDnsStateName dnsState ∧ 0x0a ∉ decimal (if wasActive then 1 else 0) := by
  refine ⟨?_, ?_, ?_, ?_⟩
  · cases state <;> decide
  · cases backend <;> decide
  · cases dnsState <;> decide
  · cases wasActive <;> decide

theorem newline_notMem_decimal (n : ℕ) : 0x0a ∉ decimal n := by
  intro h
  exact absurd (isDigit_of_mem_decimal h) (by decide)

/-- The text of a marker with valid fields fits the buffer. -/
theorem length_runtimeMarkerText {marker : RuntimeMarker}
    (h : runtimeMarkerFieldsAreValid marker) :
    6 < (runtimeMarkerText marker).length ∧ (runtimeMarkerText marker).length < 256 := by
  have htoken := length_of_linkTokenIsValid h.2.1
  have hifindex : (decimal marker.ifindex.toNat).length ≤ 10 :=
    length_decimal_le (by norm_num) (by have := marker.ifindex.toNat_lt; omega)
  have hscope : (decimal marker.firewallScope.toNat).length ≤ 2 :=
    length_decimal_le (by norm_num) (by have := firewallScope_lt h.1; omega)
  have hstate : (journalStateName marker.state).length ≤ 29 := by
    cases marker.state <;> decide
  have hdns : (dnsBackendName marker.dnsBackend).length ≤ 10 := by
    cases marker.dnsBackend <;> decide
  have hdnsState : (journalDnsStateName marker.dnsState).length ≤ 7 := by
    cases marker.dnsState <;> decide
  have hactive : (decimal (if marker.wasActive then 1 else 0)).length = 1 := by
    cases marker.wasActive <;> decide
  have hkeys : (ascii "state=").length = 6 ∧ (ascii "token=").length = 6 ∧
      (ascii "ifindex=").length = 8 ∧ (ascii "dns=").length = 4 ∧
      (ascii "was-active=").length = 11 ∧ (ascii "dns-state=").length = 10 ∧
      (ascii "firewall-scope=").length = 15 := by decide
  simp only [runtimeMarkerText, journalLine, List.length_append, List.length_singleton]
  omega

/-- A marker with valid fields is serialized to its text. -/
theorem serialize_of_valid {marker : RuntimeMarker} (h : runtimeMarkerFieldsAreValid marker) :
    runtimeMarkerSerialize marker = some (runtimeMarkerText marker) := by
  have hlen := (length_runtimeMarkerText h).2
  rw [runtimeMarkerSerialize, if_neg (not_not.mpr h), if_neg]
  simp only [maxRuntimeMarkerSize]
  omega

/-- What was serialized has valid fields and is the marker's text. -/
theorem serialize_eq_some {marker : RuntimeMarker} {data : Bytes} :
    runtimeMarkerSerialize marker = some data ↔
      runtimeMarkerFieldsAreValid marker ∧ data = runtimeMarkerText marker := by
  constructor
  · intro h
    unfold runtimeMarkerSerialize at h
    split at h
    · cases h
    rename_i hvalid
    split at h
    · cases h
    · exact ⟨not_not.mp hvalid, (Option.some.inj h).symm⟩
  · rintro ⟨hvalid, rfl⟩
    exact serialize_of_valid hvalid

/-- Reading the text of a marker with valid fields gives the marker. -/
theorem parse_runtimeMarkerText {marker : RuntimeMarker}
    (h : runtimeMarkerFieldsAreValid marker) :
    runtimeMarkerParse (runtimeMarkerText marker) = some marker := by
  obtain ⟨hlong, -⟩ := length_runtimeMarkerText h
  obtain ⟨hstate, hdns, hdnsState, hactive⟩ := newline_notMem_name marker.state marker.dnsBackend
    marker.dnsState marker.wasActive
  have htoken := length_of_linkTokenIsValid h.2.1
  have hifindex : 0 < (decimal marker.ifindex.toNat).length :=
    List.length_pos_iff.mpr (decimal_ne_nil _)
  have hdnsLen : 0 < (dnsBackendName marker.dnsBackend).length := by
    cases marker.dnsBackend <;> decide
  have hactiveLen : (decimal (if marker.wasActive then 1 else 0)).length = 1 := by
    cases marker.wasActive <;> decide
  have hdnsStateLen : 0 < (journalDnsStateName marker.dnsState).length := by
    cases marker.dnsState <;> decide
  have hkeys : (ascii "token=").length = 6 ∧ (ascii "ifindex=").length = 8 ∧
      (ascii "dns=").length = 4 ∧ (ascii "was-active=").length = 11 ∧
      (ascii "dns-state=").length = 10 := by decide
  have hlast : (runtimeMarkerText marker).getLast? = some 0x0a := by
    rw [runtimeMarkerText, List.getLast?_append_of_ne_nil _ (by simp [journalLine])]
    simp [journalLine]
  have hguard : ¬((runtimeMarkerText marker).length ≤ 6 ∨
      (runtimeMarkerText marker).getLast? ≠ some 0x0a) := by
    rintro (hshort | hnot)
    · omega
    · exact hnot hlast
  have hlines : runtimeMarkerText marker =
      journalLine "state=" (journalStateName marker.state) ++
      (journalLine "token=" marker.linkToken ++
      (journalLine "ifindex=" (decimal marker.ifindex.toNat) ++
      (journalLine "dns=" (dnsBackendName marker.dnsBackend) ++
      (journalLine "was-active=" (decimal (if marker.wasActive then 1 else 0)) ++
      (journalLine "dns-state=" (journalDnsStateName marker.dnsState) ++
      journalLine "firewall-scope=" (decimal marker.firewallScope.toNat)))))) := by
    simp only [runtimeMarkerText, List.append_assoc]
  rw [runtimeMarkerParse, if_neg hguard, hlines, journalField_line (by omega) hstate, Option.bind_some,
    journalStateOfName_name,
    Option.bind_some,
    journalField_line (by omega) (newline_notMem_of_linkTokenIsValid h.2.1), Option.bind_some,
    if_neg (by simp [h.2.1]),
    journalField_line (by omega) (newline_notMem_decimal _), Option.bind_some,
    journalIfindex_decimal, Option.bind_some,
    journalField_line (by omega) hdns, Option.bind_some, dnsBackendOfName_name, Option.bind_some,
    journalField_line (by omega) hactive, Option.bind_some, journalWasActive_decimal,
    Option.bind_some,
    journalField_line (by omega) hdnsState, Option.bind_some, journalDnsStateOfName_name,
    Option.bind_some, journalFirewallScope_line (firewallScope_lt h.1), Option.bind_some,
    if_neg (not_not.mpr h)]

/-- A text that is read is the text of the marker it is read as. -/
theorem text_of_parse {data : Bytes} {marker : RuntimeMarker}
    (h : runtimeMarkerParse data = some marker) : data = runtimeMarkerText marker := by
  obtain ⟨stateText, rest₁, rest₂, ifindexText, rest₃, dnsText, rest₄, wasActiveText, rest₅,
    dnsStateText, rest₆, hlast, hstate, hstate', htoken, hifindex, hifindex', hdns, hdns',
    hactive, hactive', hdnsState, hdnsState', hscope, -⟩ := runtimeMarkerParse_eq_some h
  obtain ⟨rfl, -⟩ := eq_of_journalField hstate
  obtain ⟨rfl, -⟩ := eq_of_journalField htoken
  obtain ⟨rfl, -⟩ := eq_of_journalField hifindex
  obtain ⟨rfl, -⟩ := eq_of_journalField hdns
  obtain ⟨rfl, -⟩ := eq_of_journalField hactive
  obtain ⟨rfl, -⟩ := eq_of_journalField hdnsState
  have hne : rest₆ ≠ [] := by
    rintro rfl
    simp [journalFirewallScope] at hscope
  have hrest : rest₆.getLast? = some 0x0a := by
    simpa [List.getLast?_append_of_ne_nil _ hne, hne] using hlast
  rw [name_of_journalStateOfName hstate', decimal_of_journalIfindex hifindex',
    name_of_dnsBackendOfName hdns', decimal_of_journalWasActive hactive',
    name_of_journalDnsStateOfName hdnsState', line_of_journalFirewallScope hscope hrest]
  simp only [runtimeMarkerText, List.append_assoc]

/-- The codec is a bijection between the markers with valid fields and the texts that are read:
a serialized marker fits the buffer and is read back, and a text that is read is what its marker
is serialized to. -/
theorem runtimeMarker_codec :
    (∀ marker, runtimeMarkerFieldsAreValid marker →
      ∃ data, runtimeMarkerSerialize marker = some data ∧ data.length ≤ 256 ∧
        runtimeMarkerParse data = some marker) ∧
    ∀ data marker, runtimeMarkerParse data = some marker →
      runtimeMarkerFieldsAreValid marker ∧ runtimeMarkerSerialize marker = some data := by
  constructor
  · intro marker h
    exact ⟨runtimeMarkerText marker, serialize_of_valid h, (length_runtimeMarkerText h).2.le,
      parse_runtimeMarkerText h⟩
  · intro data marker h
    have hvalid := fieldsAreValid_of_parse h
    exact ⟨hvalid, serialize_eq_some.mpr ⟨hvalid, text_of_parse h⟩⟩

/-- A marker of a session that runs. -/
theorem runtimeMarker_codec_active :
    let marker : RuntimeMarker :=
      ⟨ascii "0123456789abcdef0123456789abcdef", 7, .resolved, .active, .applied, true, 31⟩
    ∃ data, runtimeMarkerSerialize marker = some data ∧ data.length ≤ 256 ∧
      runtimeMarkerParse data = some marker :=
  runtimeMarker_codec.1 _ (by decide)

end NmSidebar
