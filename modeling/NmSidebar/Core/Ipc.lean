import NmSidebar.Text.LineReader
import NmSidebar.Text.Utf8

/-!
# Commands over the socket

`ipc.c`, `target_output.c` and `command_socket.c`: a command goes to the running sidebar as a line,
with the name of an output behind a tab, and is acknowledged with another line. Both ends normalize
what they send and read.
-/

namespace NmSidebar

open Text

/-! ## What depends on the locale -/

/-- The lower case of an ASCII letter. In Turkish and in Azerbaijani that of `I` has no dot. -/
def lowerCase (turkic : Bool) (c : Char) : Char :=
  if turkic ∧ c = 'I' then 'ı' else c.toLower

/-- GLib's functions for Unicode text, as they are in a locale. -/
structure Locale where
  /-- The language is Turkish or Azerbaijani. -/
  turkic : Bool
  /-- `g_unichar_isspace`. -/
  isSpace : Char → Bool
  /-- `g_utf8_strdown`. -/
  strdown : List Char → List Char
  isSpace_word : ∀ c : Char, c.isAlpha = true ∨ c = '-' ∨ c = 'ı' → isSpace c = false
  isSpace_nul : ∀ c : Char, c.toNat = 0 → isSpace c = false
  strdown_word : ∀ text : List Char, (∀ c ∈ text, c.isAlpha = true ∨ c = '-' ∨ c = 'ı') →
    strdown text = text.map (lowerCase turkic)

/-! ## Normalization -/

/-- `utf8_strip_copy`, where the string is valid. -/
def utf8StripCopy (locale : Locale) (value : Bytes) : Option (List Char) :=
  (utf8Decode (cString value)).map (strip locale.isSpace)

/-- `network_sidebar_normalize_command`. -/
def normalizeCommand (locale : Locale) (command : Bytes) : Bytes :=
  utf8Encode (locale.strdown ((utf8StripCopy locale command).getD []))

/-- `NETWORK_SIDEBAR_TARGET_OUTPUT_MAX_CHARS`. -/
def targetOutputMaxChars : ℕ := 128

/-- `network_sidebar_normalize_target_output`. -/
def normalizeTargetOutput (locale : Locale) (outputName : Option Bytes) : Option Bytes := do
  let trimmed ← utf8StripCopy locale (← outputName)
  if trimmed = [] then none
  else if '\n' ∈ trimmed ∨ '\t' ∈ trimmed then none
  else if trimmed.length > targetOutputMaxChars then none
  else some (utf8Encode trimmed)

/-! ## The wire -/

/-- The byte between a command and the name of an output. -/
def commandSeparator : UInt8 := 0x09

/-- `network_sidebar_encode_command`. -/
def encodeCommand (locale : Locale) (command : Bytes) (targetOutputName : Option Bytes) : Bytes :=
  match normalizeTargetOutput locale targetOutputName with
  | none => normalizeCommand locale command ++ [newline]
  | some output => normalizeCommand locale command ++ commandSeparator :: output ++ [newline]

/-- `network_sidebar_parse_command_line`: the command and the name of an output. -/
def parseCommandLine (locale : Locale) (commandLine : Bytes) : Bytes × Option Bytes :=
  match splitFirst commandSeparator commandLine with
  | none => (normalizeCommand locale commandLine, none)
  | some (rawCommand, output) =>
    (normalizeCommand locale rawCommand, normalizeTargetOutput locale (some output))

/-- The commands of `network_sidebar_command_is_socket`. -/
def socketCommands : List String := ["toggle", "show", "hide", "quit", "reload-css", "ping"]

/-- `network_sidebar_command_is_socket`. -/
def commandIsSocket (command : Bytes) : Bool := (socketCommands.map ascii).contains command

/-- `NETWORK_SIDEBAR_COMMAND_MAX_BYTES`. -/
def commandMaxBytes : ℕ := 192

/-- `network_sidebar_read_command`: the command and the name of an output, where it returns `TRUE`. -/
def readCommand (locale : Locale) (arrivals : List Arrival) : Option (Bytes × Option Bytes) := do
  let data ← readLine commandMaxBytes arrivals []
  -- the newline is replaced by a zero byte
  let commandLine := cString (lineContent data)
  let _ ← utf8Decode commandLine
  let parsed := parseCommandLine locale commandLine
  if commandIsSocket parsed.1 then some parsed else none

/-- `network_sidebar_success_response`. -/
def successResponse (locale : Locale) (command : Bytes) : Bytes :=
  ascii "nm-sidebar-ipc-v1 ok " ++ normalizeCommand locale command ++ [newline]

/-- `NetworkSidebarIPCCommandStatus`. -/
inductive IpcCommandStatus where
  | notDelivered
  | delivered
  | acknowledged
  deriving DecidableEq

/-- `NETWORK_SIDEBAR_IPC_MAX_RESPONSE_BYTES`. -/
def ipcMaxResponseBytes : ℕ := 128

/-- `read_response_status`. -/
def readResponseStatus (locale : Locale) (command : Bytes) (arrivals : List Arrival) :
    IpcCommandStatus :=
  match readLine ipcMaxResponseBytes arrivals [] with
  | none => .delivered
  | some response =>
    if cString response = successResponse locale command then .acknowledged else .delivered

/-! ## Commands -/

/-- A character of a command, in any letter case, or the letter that Turkish makes of one. -/
def IsWordChar (c : Char) : Prop := c.isAlpha = true ∨ c = '-' ∨ c = 'ı'

instance (c : Char) : Decidable (IsWordChar c) := inferInstanceAs (Decidable (_ ∨ _))

/-- A letter whose lower case is one of a command. -/
theorem isWordChar_of_toLower {c : Char} (h : c.toLower.isLower = true ∨ c.toLower = '-') :
    IsWordChar c := by
  unfold Char.toLower at h
  split at h
  · rename_i hupper
    have halpha : c.isUpper = true := decide_eq_true hupper
    exact .inl (Bool.or_eq_true_iff.mpr (.inl halpha))
  · exact h.imp (fun hlower => Bool.or_eq_true_iff.mpr (.inr hlower)) .inl

variable {locale : Locale} {before spelling after : List Char} {word : String}

/-- A command that consists of such characters is put into lower case. -/
theorem normalizeCommand_spelled (hbefore : ∀ c ∈ before, locale.isSpace c = true)
    (hspelling : ∀ c ∈ spelling, IsWordChar c) (hafter : ∀ c ∈ after, locale.isSpace c = true) :
    normalizeCommand locale (utf8Encode (before ++ spelling ++ after)) =
      utf8Encode (spelling.map (lowerCase locale.turkic)) := by
  have hnul : ∀ c ∈ before ++ spelling ++ after, c.toNat ≠ 0 := by
    intro c hc hzero
    have hnospace := locale.isSpace_nul c hzero
    rcases List.mem_append.mp hc with hc | hc
    · rcases List.mem_append.mp hc with hc | hc
      · exact Bool.false_ne_true (hnospace.symm.trans (hbefore c hc))
      · have hc0 : c = Char.ofNat 0 := by rw [← hzero, Char.ofNat_toNat]
        subst hc0
        rcases hspelling _ hc with h | h | h <;> exact absurd h (by decide)
    · exact Bool.false_ne_true (hnospace.symm.trans (hafter c hc))
  have hstring : cString (utf8Encode (before ++ spelling ++ after)) =
      utf8Encode (before ++ spelling ++ after) := by
    apply cString_of_notMem
    intro hmem
    obtain ⟨c, hc, hzero⟩ := (mem_utf8Encode (by decide)).mp hmem
    exact hnul c hc hzero
  have hstrip : utf8StripCopy locale (utf8Encode (before ++ spelling ++ after)) = some spelling := by
    unfold utf8StripCopy
    rw [hstring, utf8Decode_utf8Encode, Option.map_some,
      strip_padded hbefore (fun c hc => locale.isSpace_word c (hspelling c hc)) hafter]
  rw [normalizeCommand, hstrip, Option.getD_some, locale.strdown_word spelling hspelling]

/-- The commands are ASCII texts of lower-case letters and hyphens. -/
theorem socketCommand_text : ∀ word ∈ socketCommands,
    ascii word = utf8Encode word.toList ∧ (ascii word).length ≤ 10 ∧
    (∀ c ∈ word.toList, c.isLower = true ∨ c = '-') ∧
    ∀ turkic, word.toList.map (lowerCase turkic) = word.toList := by
  have htext : ∀ word ∈ socketCommands, ascii word = utf8Encode word.toList ∧
      (ascii word).length ≤ 10 ∧
      word.toList.all (fun c => decide (c.isLower = true ∨ c = '-')) = true ∧
      ∀ turkic, word.toList.map (lowerCase turkic) = word.toList := by
    decide +kernel
  intro word hword
  obtain ⟨hascii, hlength, hlower, hsame⟩ := htext word hword
  exact ⟨hascii, hlength, forall_char hlower, hsame⟩

theorem isWordChar_of_spelling (hword : word ∈ socketCommands)
    (hspelling : spelling.map Char.toLower = word.toList) : ∀ c ∈ spelling, IsWordChar c := by
  obtain ⟨-, -, hlower, -⟩ := socketCommand_text word hword
  intro c hc
  have hmem : c.toLower ∈ word.toList := hspelling ▸ List.mem_map_of_mem hc
  exact isWordChar_of_toLower (hlower _ hmem)

/-- The lower case of a spelling is the command, if no letter loses its dot. -/
theorem map_lowerCase_spelling {turkic : Bool} (hword : word ∈ socketCommands)
    (hspelling : spelling.map Char.toLower = word.toList) :
    spelling.map (lowerCase turkic) = word.toList ↔ (turkic = true → 'I' ∉ spelling) := by
  constructor
  · intro hlower hturkic hmem
    have hdotless : 'ı' ∈ word.toList := by
      rw [← hlower]
      refine List.mem_map.mpr ⟨'I', hmem, ?_⟩
      rw [lowerCase, if_pos ⟨hturkic, rfl⟩]
    obtain ⟨-, -, hletters, -⟩ := socketCommand_text word hword
    exact absurd (hletters 'ı' hdotless) (by decide)
  · intro hdotted
    rw [← hspelling]
    apply List.map_congr_left
    intro c hc
    rw [lowerCase, if_neg]
    rintro ⟨hturkic, rfl⟩
    exact hdotted hturkic hc

/-- A lower case is not changed by another one. -/
theorem lowerCase_lowerCase (turkic : Bool) {c : Char} (hc : IsWordChar c) :
    IsWordChar (lowerCase turkic c) ∧ lowerCase turkic (lowerCase turkic c) = lowerCase turkic c := by
  have hascii : ∀ n < 128, ∀ turkic, IsWordChar (Char.ofNat n) →
      IsWordChar (lowerCase turkic (Char.ofNat n)) ∧
        lowerCase turkic (lowerCase turkic (Char.ofNat n)) = lowerCase turkic (Char.ofNat n) := by
    decide +kernel
  rcases hc with halpha | rfl | rfl
  · have hsmall : c.toNat < 128 := by
      have hval : c.toNat = c.val.toNat := rfl
      rcases Bool.or_eq_true_iff.mp halpha with hupper | hlower
      · have hrange : 'A'.val ≤ c.val ∧ c.val ≤ 'Z'.val := of_decide_eq_true hupper
        have hlast : c.val.toNat ≤ 90 := UInt32.le_iff_toNat_le.mp hrange.2
        omega
      · have hrange : c.val ≤ 'z'.val := of_decide_eq_true (Bool.and_eq_true_iff.mp hlower).2
        have hlast : c.val.toNat ≤ 122 := UInt32.le_iff_toNat_le.mp hrange
        omega
    have hsame : Char.ofNat c.toNat = c := Char.ofNat_toNat c
    exact hsame ▸ hascii c.toNat hsmall turkic (hsame.symm ▸ .inl halpha)
  · exact hascii 45 (by decide) turkic (by decide)
  · cases turkic <;> decide +kernel

/-- A normalized command is not changed by another normalization. -/
theorem normalizeCommand_normalized (hspelling : ∀ c ∈ spelling, IsWordChar c) :
    normalizeCommand locale (utf8Encode (spelling.map (lowerCase locale.turkic))) =
      utf8Encode (spelling.map (lowerCase locale.turkic)) := by
  have hword : ∀ c ∈ spelling.map (lowerCase locale.turkic), IsWordChar c := by
    intro lower hlower
    obtain ⟨c, hc, rfl⟩ := List.mem_map.mp hlower
    exact (lowerCase_lowerCase _ (hspelling c hc)).1
  have hnormalized := @normalizeCommand_spelled locale [] _ [] (fun _ h => absurd h List.not_mem_nil)
    hword fun _ h => absurd h List.not_mem_nil
  rw [List.nil_append, List.append_nil, List.map_map] at hnormalized
  rw [hnormalized]
  apply congrArg utf8Encode
  apply List.map_congr_left
  intro c hc
  exact (lowerCase_lowerCase _ (hspelling c hc)).2

/-! ## Output names -/

/-- A plain text without white space at its ends is accepted as it is. -/
theorem normalizeTargetOutput_text {text : List Char} (hstrip : strip locale.isSpace text = text)
    (hnul : ∀ c ∈ text, c.toNat ≠ 0) (hne : text ≠ []) (hplain : ¬('\n' ∈ text ∨ '\t' ∈ text))
    (hshort : ¬text.length > targetOutputMaxChars) :
    normalizeTargetOutput locale (some (utf8Encode text)) = some (utf8Encode text) := by
  have hstring : cString (utf8Encode text) = utf8Encode text := by
    apply cString_of_notMem
    intro hmem
    obtain ⟨c, hc, hzero⟩ := (mem_utf8Encode (by decide)).mp hmem
    exact hnul c hc hzero
  have hstripped : utf8StripCopy locale (utf8Encode text) = some text := by
    rw [utf8StripCopy, hstring, utf8Decode_utf8Encode, Option.map_some, hstrip]
  unfold normalizeTargetOutput
  rw [Option.bind_eq_bind, Option.bind_some, hstripped, Option.bind_eq_bind, Option.bind_some,
    if_neg hne, if_neg hplain, if_neg hshort]

/-- The name of an output that is accepted is accepted again as it is. -/
theorem normalizeTargetOutput_normalized {output : Option Bytes} {name : Bytes}
    (h : normalizeTargetOutput locale output = some name) :
    ∃ text : List Char, name = utf8Encode text ∧ '\n' ∉ text ∧ '\t' ∉ text ∧
      (∀ c ∈ text, c.toNat ≠ 0) ∧ normalizeTargetOutput locale (some name) = some name := by
  obtain ⟨given, -, h⟩ := Option.bind_eq_some_iff.mp h
  obtain ⟨text, hstripped, h⟩ := Option.bind_eq_some_iff.mp h
  split at h
  · exact absurd h.symm (Option.some_ne_none name)
  split at h
  · exact absurd h.symm (Option.some_ne_none name)
  split at h
  · exact absurd h.symm (Option.some_ne_none name)
  rename_i hne hplain hshort
  obtain rfl := Option.some.inj h
  obtain ⟨hnewline, htab⟩ := not_or.mp hplain
  obtain ⟨decoded, hdecoded, rfl⟩ := Option.map_eq_some_iff.mp hstripped
  have hnul : ∀ c ∈ strip locale.isSpace decoded, c.toNat ≠ 0 := by
    intro c hc hzero
    have hmem : c ∈ decoded :=
      (List.dropWhile_sublist _).mem ((List.rdropWhile_prefix _ _).sublist.mem hc)
    have hbyte : (0 : UInt8) ∈ cString given := by
      rw [← utf8Encode_of_utf8Decode hdecoded]
      exact (mem_utf8Encode (by decide)).mpr ⟨c, hmem, hzero⟩
    exact absurd (List.mem_takeWhile_imp hbyte) (by decide)
  exact ⟨_, rfl, hnewline, htab, hnul,
    normalizeTargetOutput_text (strip_strip _ _) hnul hne hplain hshort⟩

/-! ## The line of a command -/

/-- The line of a command, without its newline. -/
def lineOfCommand (command : Bytes) (name : Option Bytes) : Bytes :=
  command ++ name.elim [] (commandSeparator :: ·)

theorem encodeCommand_eq (locale : Locale) (command : Bytes) (output : Option Bytes) :
    encodeCommand locale command output = lineOfCommand (normalizeCommand locale command)
      (normalizeTargetOutput locale output) ++ [newline] := by
  unfold encodeCommand lineOfCommand
  cases normalizeTargetOutput locale output with
  | none => rw [Option.elim_none, List.append_nil]
  | some name => rfl

/-- A text without some character has no such byte. -/
theorem notMem_utf8Encode {text : List Char} {b : UInt8} (hb : b.toNat < 128)
    (h : ∀ c ∈ text, c.toNat ≠ b.toNat) : b ∉ utf8Encode text := by
  intro hmem
  obtain ⟨c, hc, hsame⟩ := (mem_utf8Encode hb).mp hmem
  exact h c hc hsame

theorem toNat_of_isWordChar {c : Char} (hc : IsWordChar c) :
    c.toNat ≠ 0 ∧ c.toNat ≠ 9 ∧ c.toNat ≠ 10 := by
  have hsame : Char.ofNat c.toNat = c := Char.ofNat_toNat c
  refine ⟨?_, ?_, ?_⟩ <;>
  · intro hcontrol
    rw [← hsame, hcontrol] at hc
    exact absurd hc (by decide)

/-- The line of a command is a text without zero bytes and newlines. -/
theorem lineOfCommand_plain {output : Option Bytes} (hspelling : ∀ c ∈ spelling, IsWordChar c) :
    ∃ text, lineOfCommand (utf8Encode spelling) (normalizeTargetOutput locale output) =
      utf8Encode text ∧ ∀ c ∈ text, c.toNat ≠ 0 ∧ c.toNat ≠ 10 := by
  have hplain : ∀ c ∈ spelling, c.toNat ≠ 0 ∧ c.toNat ≠ 10 := fun c hc =>
    have htoNat := toNat_of_isWordChar (hspelling c hc)
    ⟨htoNat.1, htoNat.2.2⟩
  unfold lineOfCommand
  cases houtput : normalizeTargetOutput locale output with
  | none => exact ⟨spelling, by rw [Option.elim_none, List.append_nil], hplain⟩
  | some name =>
    obtain ⟨text, rfl, hnewline, -, hnul, -⟩ := normalizeTargetOutput_normalized houtput
    refine ⟨spelling ++ '\t' :: text, ?_, ?_⟩
    · rw [utf8Encode_append]
      rfl
    · intro c hc
      rcases List.mem_append.mp hc with hc | hc
      · exact hplain c hc
      rcases List.mem_cons.mp hc with rfl | hc
      · decide
      · refine ⟨hnul c hc, fun h => hnewline ?_⟩
        have hsame : c = '\n' := by rw [← Char.ofNat_toNat c, h]
        exact hsame ▸ hc

/-- The line of a normalized command is parsed into the command and the name. -/
theorem parseCommandLine_lineOfCommand {output : Option Bytes}
    (hspelling : ∀ c ∈ spelling, IsWordChar c) :
    parseCommandLine locale (lineOfCommand (utf8Encode (spelling.map (lowerCase locale.turkic)))
        (normalizeTargetOutput locale output)) =
      (utf8Encode (spelling.map (lowerCase locale.turkic)),
        normalizeTargetOutput locale output) := by
  have hseparator : commandSeparator ∉ utf8Encode (spelling.map (lowerCase locale.turkic)) := by
    apply notMem_utf8Encode (by decide)
    intro lower hlower
    obtain ⟨c, hc, rfl⟩ := List.mem_map.mp hlower
    exact (toNat_of_isWordChar (lowerCase_lowerCase _ (hspelling c hc)).1).2.1
  unfold parseCommandLine lineOfCommand
  cases houtput : normalizeTargetOutput locale output with
  | none =>
    rw [Option.elim_none, List.append_nil, splitFirst_eq_none.mpr hseparator]
    dsimp only
    rw [normalizeCommand_normalized hspelling]
  | some name =>
    obtain ⟨-, -, -, -, -, hname⟩ := normalizeTargetOutput_normalized houtput
    have hsplit : splitFirst commandSeparator
        (utf8Encode (spelling.map (lowerCase locale.turkic)) ++ commandSeparator :: name) =
        some (utf8Encode (spelling.map (lowerCase locale.turkic)), name) :=
      splitFirst_eq_some.mpr ⟨rfl, hseparator⟩
    rw [Option.elim_some, hsplit]
    dsimp only
    rw [normalizeCommand_normalized hspelling, hname]

/-- A line that fits is read as its command and its name, if the command is one of the socket. -/
theorem readCommand_lineOfCommand {output : Option Bytes} {arrivals : List Arrival}
    (hspelling : ∀ c ∈ spelling, IsWordChar c)
    (hcarries : Carries arrivals (lineOfCommand (utf8Encode (spelling.map
      (lowerCase locale.turkic))) (normalizeTargetOutput locale output) ++ [newline])) :
    readCommand locale arrivals =
      if (lineOfCommand (utf8Encode (spelling.map (lowerCase locale.turkic)))
          (normalizeTargetOutput locale output)).length < commandMaxBytes ∧
        commandIsSocket (utf8Encode (spelling.map (lowerCase locale.turkic))) = true then
        some (utf8Encode (spelling.map (lowerCase locale.turkic)),
          normalizeTargetOutput locale output)
      else none := by
  have hlower : ∀ c ∈ spelling.map (lowerCase locale.turkic), IsWordChar c := by
    intro lower hlower
    obtain ⟨c, hc, rfl⟩ := List.mem_map.mp hlower
    exact (lowerCase_lowerCase _ (hspelling c hc)).1
  have hparsed := @parseCommandLine_lineOfCommand locale spelling output hspelling
  obtain ⟨text, hline, hplain⟩ := @lineOfCommand_plain locale _ output hlower
  rw [hline] at hcarries hparsed ⊢
  have hnewline : newline ∉ utf8Encode text :=
    notMem_utf8Encode (by decide) fun c hc => (hplain c hc).2
  have hnul : 0 ∉ utf8Encode text := notMem_utf8Encode (by decide) fun c hc => (hplain c hc).1
  have hread := readLine_carries hcarries (List.nil_append _) hnewline List.not_mem_nil
    (Nat.zero_le commandMaxBytes)
  unfold readCommand
  rw [hread]
  by_cases hfits : (utf8Encode text).length < commandMaxBytes
  · have hcontent : cString (lineContent (utf8Encode text ++ [newline])) = utf8Encode text := by
      rw [lineContent_line hnewline, cString_of_notMem hnul]
    rw [if_pos hfits, Option.bind_eq_bind, Option.bind_some, hcontent]
    dsimp only
    rw [utf8Decode_utf8Encode, Option.bind_eq_bind, Option.bind_some, hparsed]
    simp only [hfits, true_and]
  · rw [if_neg hfits, if_neg fun h => hfits h.1]
    rfl

/-! ## The way of a command -/

/-- A command survives the wire: however its bytes are split, the sidebar reads the command and the
normalized name of the output, and the client acknowledges the response to the command, however that
is split, and nothing that does not begin with it. -/
structure CommandSurvives (locale : Locale) (command : Bytes) (word : String)
    (output : Option Bytes) : Prop where
  read : ∀ arrivals, Carries arrivals (encodeCommand locale command output) →
    readCommand locale arrivals = some (ascii word, normalizeTargetOutput locale output)
  acknowledged : ∀ arrivals, Carries arrivals (successResponse locale (ascii word)) →
    readResponseStatus locale (normalizeCommand locale command) arrivals = .acknowledged
  only : ∀ arrivals,
    readResponseStatus locale (normalizeCommand locale command) arrivals = .acknowledged →
    successResponse locale (ascii word) <+: arrivingBytes arrivals

theorem normalizeCommand_socketCommand (hword : word ∈ socketCommands) :
    normalizeCommand locale (ascii word) = ascii word := by
  obtain ⟨htext, -, hletters, hlower⟩ := socketCommand_text word hword
  have hword : ∀ c ∈ word.toList, IsWordChar c := fun c hc =>
    (hletters c hc).imp (fun h => Bool.or_eq_true_iff.mpr (.inr h)) .inl
  have hnormalized := @normalizeCommand_normalized locale word.toList hword
  rwa [hlower, ← htext] at hnormalized

/-- The response to a command is a line that the client has room for. -/
theorem successResponse_socketCommand (hword : word ∈ socketCommands) :
    successResponse locale (ascii word) =
      (ascii "nm-sidebar-ipc-v1 ok " ++ ascii word) ++ [newline] ∧
    newline ∉ ascii "nm-sidebar-ipc-v1 ok " ++ ascii word ∧
    0 ∉ successResponse locale (ascii word) ∧
    (ascii "nm-sidebar-ipc-v1 ok " ++ ascii word).length < ipcMaxResponseBytes := by
  have hplain : ∀ word ∈ socketCommands, newline ∉ ascii "nm-sidebar-ipc-v1 ok " ++ ascii word ∧
      0 ∉ ascii "nm-sidebar-ipc-v1 ok " ++ ascii word ++ [newline] ∧
      (ascii "nm-sidebar-ipc-v1 ok " ++ ascii word).length < ipcMaxResponseBytes := by
    decide +kernel
  rw [successResponse, normalizeCommand_socketCommand hword]
  exact ⟨rfl, hplain word hword⟩

/-- The client acknowledges the response to its command, and what begins with it only. -/
theorem readResponseStatus_socketCommand (hword : word ∈ socketCommands) :
    (∀ arrivals, Carries arrivals (successResponse locale (ascii word)) →
      readResponseStatus locale (ascii word) arrivals = .acknowledged) ∧
    ∀ arrivals, readResponseStatus locale (ascii word) arrivals = .acknowledged →
      successResponse locale (ascii word) <+: arrivingBytes arrivals := by
  obtain ⟨hresponse, hnewline, hnul, hroom⟩ := @successResponse_socketCommand locale word hword
  refine ⟨fun arrivals hcarries => ?_, fun arrivals hacknowledged => ?_⟩
  · have hread := readLine_carries hcarries hresponse hnewline List.not_mem_nil
      (Nat.zero_le ipcMaxResponseBytes)
    rw [if_pos hroom, ← hresponse] at hread
    unfold readResponseStatus
    rw [hread]
    dsimp only
    rw [cString_of_notMem hnul, if_pos rfl]
  · unfold readResponseStatus at hacknowledged
    cases hread : readLine ipcMaxResponseBytes arrivals [] with
    | none =>
      rw [hread] at hacknowledged
      exact absurd hacknowledged IpcCommandStatus.noConfusion
    | some response =>
      rw [hread] at hacknowledged
      dsimp only at hacknowledged
      split at hacknowledged
      · rename_i hsame
        rw [← hsame]
        exact (List.takeWhile_prefix _).trans (readLine_begins hread)
      · exact absurd hacknowledged IpcCommandStatus.noConfusion

/-- What the sidebar reads when the bytes of a command arrive at once. -/
theorem readCommand_encoded {output : Option Bytes}
    (hbefore : ∀ c ∈ before, locale.isSpace c = true) (hspelling : ∀ c ∈ spelling, IsWordChar c)
    (hafter : ∀ c ∈ after, locale.isSpace c = true) :
    ∃ arrivals, Carries arrivals
        (encodeCommand locale (utf8Encode (before ++ spelling ++ after)) output) ∧
      readCommand locale arrivals =
        if (lineOfCommand (utf8Encode (spelling.map (lowerCase locale.turkic)))
            (normalizeTargetOutput locale output)).length < commandMaxBytes ∧
          commandIsSocket (utf8Encode (spelling.map (lowerCase locale.turkic))) = true then
          some (utf8Encode (spelling.map (lowerCase locale.turkic)),
            normalizeTargetOutput locale output)
        else none := by
  rw [encodeCommand_eq, normalizeCommand_spelled hbefore hspelling hafter]
  have hcarries := carries_whole (List.append_ne_nil_of_right_ne_nil
    (lineOfCommand (utf8Encode (spelling.map (lowerCase locale.turkic)))
      (normalizeTargetOutput locale output)) (List.cons_ne_nil newline []))
  exact ⟨_, hcarries, readCommand_lineOfCommand hspelling hcarries⟩

/-- A command of the socket, in any letter case and with white space around it, and the name of an
output survive the wire if and only if the line has at most 192 bytes and, in Turkish and in
Azerbaijani, the command is spelled without the letter `I`. -/
theorem ipcCommand_survives (locale : Locale) {before spelling after : List Char} {word : String}
    (hword : word ∈ socketCommands) (hspelling : spelling.map Char.toLower = word.toList)
    (hbefore : ∀ c ∈ before, locale.isSpace c = true)
    (hafter : ∀ c ∈ after, locale.isSpace c = true) (output : Option Bytes) :
    CommandSurvives locale (utf8Encode (before ++ spelling ++ after)) word output ↔
      (locale.turkic = true → 'I' ∉ spelling) ∧
      word.length + ((normalizeTargetOutput locale output).elim 0 (·.length + 1)) + 1 ≤ 192 := by
  have hchars := isWordChar_of_spelling hword hspelling
  have hnormalized := normalizeCommand_spelled hbefore hchars hafter
  have hencoded := encodeCommand_eq locale (utf8Encode (before ++ spelling ++ after)) output
  rw [hnormalized] at hencoded
  obtain ⟨htext, -, -, -⟩ := socketCommand_text word hword
  have hlower := @map_lowerCase_spelling spelling word locale.turkic hword hspelling
  have hlength : (lineOfCommand (ascii word) (normalizeTargetOutput locale output)).length =
      word.length + (normalizeTargetOutput locale output).elim 0 (·.length + 1) := by
    have hascii : (ascii word).length = word.length := by
      rw [ascii, List.length_map, String.length_toList]
    unfold lineOfCommand
    rw [List.length_append, hascii]
    cases normalizeTargetOutput locale output with
    | none => rfl
    | some name => rfl
  constructor
  · intro hsurvives
    obtain ⟨arrivals, hcarries, hread⟩ := @readCommand_encoded locale before spelling after output
      hbefore hchars hafter
    rw [hsurvives.read arrivals hcarries] at hread
    split at hread
    · rename_i haccepted
      have hsame : utf8Encode (spelling.map (lowerCase locale.turkic)) = ascii word :=
        (congrArg Prod.fst (Option.some.inj hread)).symm
      have hfits := haccepted.1
      rw [hsame, hlength] at hfits
      exact ⟨hlower.mp (utf8Encode_inj (hsame.trans htext)), hfits⟩
    · exact absurd hread (Option.some_ne_none _)
  · rintro ⟨hdotted, hfits⟩
    have hmap : utf8Encode (spelling.map (lowerCase locale.turkic)) = ascii word := by
      rw [hlower.mpr hdotted, htext]
    have hsocket : commandIsSocket (ascii word) = true := by
      unfold commandIsSocket
      rw [List.contains_eq_mem, decide_eq_true_eq]
      exact List.mem_map_of_mem hword
    obtain ⟨hacknowledged, honly⟩ := @readResponseStatus_socketCommand locale word hword
    refine ⟨fun arrivals hcarries => ?_, ?_, ?_⟩
    · rw [hencoded] at hcarries
      rw [readCommand_lineOfCommand hchars hcarries, hmap, hlength, if_pos ⟨hfits, hsocket⟩]
    · rw [hnormalized, hmap]
      exact hacknowledged
    · rw [hnormalized, hmap]
      exact honly

/-! ## A long name -/

/-- The white space of `g_unichar_isspace`: four controls and the separators. -/
def unicodeSpaces : List Char :=
  ['\t', '\n', '\x0c', '\r', ' ', '\u00a0', '\u1680', '\u2000', '\u2001', '\u2002', '\u2003',
    '\u2004', '\u2005', '\u2006', '\u2007', '\u2008', '\u2009', '\u200a', '\u2028', '\u2029',
    '\u202f', '\u205f', '\u3000']

theorem unicodeSpaces_other : ∀ c ∈ unicodeSpaces, ¬IsWordChar c ∧ c.toNat ≠ 0 := by
  exact forall_char (by decide +kernel)

/-- The locale of a program that has not set another one. -/
def Locale.posix : Locale where
  turkic := false
  isSpace c := unicodeSpaces.contains c
  strdown text := text.map Char.toLower
  isSpace_word c hc := by
    rw [List.contains_eq_mem, decide_eq_false_iff_not]
    exact fun hmem => (unicodeSpaces_other c hmem).1 hc
  isSpace_nul c hc := by
    rw [List.contains_eq_mem, decide_eq_false_iff_not]
    exact fun hmem => (unicodeSpaces_other c hmem).2 hc
  strdown_word text _ := List.map_congr_left fun c _ => by simp [lowerCase]

theorem ipcCommand_survives_sample :
    CommandSurvives .posix (utf8Encode (" ".toList ++ "ShOw".toList ++ "\t".toList)) "show"
      (some (utf8Encode "DP-1".toList)) := by
  have hname : normalizeTargetOutput .posix (some (utf8Encode "DP-1".toList)) =
      some (utf8Encode "DP-1".toList) :=
    normalizeTargetOutput_text (strip_of_none (forall_char (by decide +kernel)))
      (forall_char (by decide +kernel)) (by decide +kernel) (by decide +kernel)
      (by decide +kernel)
  refine (ipcCommand_survives .posix (by decide +kernel) (by decide +kernel)
    (forall_char (by decide +kernel)) (forall_char (by decide +kernel)) _).mpr
    ⟨fun h => absurd h Bool.false_ne_true, ?_⟩
  rw [hname]
  decide +kernel

/-- The name of an output that has as many characters as it may have. -/
def longOutput : Bytes := utf8Encode (List.replicate targetOutputMaxChars '字')

theorem normalizeTargetOutput_longOutput :
    normalizeTargetOutput .posix (some longOutput) = some longOutput :=
  normalizeTargetOutput_text (strip_of_none (forall_char (by decide +kernel)))
    (forall_char (by decide +kernel)) (by decide +kernel) (by decide +kernel)
    (by decide +kernel)

/-- The sidebar does not read the line of a command with that name. -/
theorem longOutput_lost : normalizeTargetOutput .posix (some longOutput) = some longOutput ∧
    ¬CommandSurvives .posix (utf8Encode "show".toList) "show" (some longOutput) := by
  refine ⟨normalizeTargetOutput_longOutput, fun hsurvives => ?_⟩
  have hlong : ¬(lineOfCommand (utf8Encode ("show".toList.map (lowerCase false)))
      (some longOutput)).length < commandMaxBytes := by
    decide +kernel
  obtain ⟨arrivals, hcarries, hread⟩ := @readCommand_encoded .posix [] "show".toList []
    (some longOutput) (fun _ h => absurd h List.not_mem_nil) (forall_char (by decide +kernel))
    (fun _ h => absurd h List.not_mem_nil)
  rw [hsurvives.read arrivals hcarries, normalizeTargetOutput_longOutput,
    if_neg fun h => hlong h.1] at hread
  exact Option.some_ne_none _ hread

end NmSidebar
