import NmSidebar.Text.Lines
import NmSidebar.AmneziaWG.DnsConfig

/-!
# Configuration envelopes

The scanner of profile configurations (`config.c`): which configurations are accepted, which
directives of the interface section are kept for `awg-quick`, and how they are put back into
the output of `awg-quick strip`.

Sizes are natural numbers. Every subtraction of sizes in the source is `checkedSub` here, which
fails where the unsigned difference would wrap around.
-/

namespace NmSidebar

open Text

/-- `NetworkSidebarAmneziaWGError`, the codes a configuration is rejected with. -/
inductive ConfigErrorCode where
  | tooLarge
  | invalidData
  | unsafeDirective
  | missingStructure
  deriving DecidableEq

/-- How a scan fails: the configuration is rejected, or a size would have wrapped around. -/
inductive ConfigFailure where
  | rejected (code : ConfigErrorCode) (message : String)
  | underflow
  deriving DecidableEq

/-- The difference of two sizes. -/
def checkedSub (a b : ℕ) : Except ConfigFailure ℕ :=
  if b ≤ a then .ok (a - b) else .error .underflow

/-- `set_parse_error`. -/
def setParseError {α : Type} (code : ConfigErrorCode) (line : ℕ) (message : String) :
    Except ConfigFailure α :=
  .error (.rejected code ("configuration line " ++ toString line ++ ": " ++ message))

/-- `ConfigSection`. -/
inductive ConfigSection where
  | none
  | interface
  | other
  deriving DecidableEq

/-- `span_equal`: equal up to the case of ASCII letters. -/
def spanEqual (span : Bytes) (text : String) : Bool :=
  span.length == (ascii text).length && span.map toLower == (ascii text).map toLower

/-- `is_unsafe_directive`. -/
def isUnsafeDirective (key : Bytes) : Bool :=
  ["PreUp", "PostUp", "PreDown", "PostDown"].any (spanEqual key)

/-- `safe_quick_directive`: the directive's name in its usual spelling. -/
def safeQuickDirective (key : Bytes) : Option Bytes :=
  (["Address", "MTU", "Table", "SaveConfig"].find? (spanEqual key)).map ascii

/-- `token_is_safe`. -/
def tokenIsSafe (token : Bytes) : Bool :=
  token != [] &&
    token.all fun b => !isSpace b && b != 0x5b && b != 0x5d && b != 0x3d && b != 0x23

/-- The bytes that no line may hold before its comment. -/
def isUnsupported (b : UInt8) : Bool := decide (b < 0x20) && b != 0x09 && b != 0x0d

/-- The text of a line before its comment. -/
def uncomment (line : Bytes) : Bytes := (lineContent line).takeWhile fun b => b != 0x23

/-- The variables of `scan_config_envelope`. -/
structure ConfigScan where
  configSection : ConfigSection
  interfaceSeen : Bool
  offset : ℕ
  lineNumber : ℕ
  quickConfig : Bytes
  dns : DnsConfig
  interfaceLineEnd : ℕ

/-- The variables before the first line. -/
def ConfigScan.init : ConfigScan := ⟨.none, false, 0, 0, [], .empty, 0⟩

/-- A line is counted before it is read. -/
def ConfigScan.advance (scan : ConfigScan) (line : Bytes) : ConfigScan :=
  { scan with offset := scan.offset + line.length, lineNumber := scan.lineNumber + 1 }

/-- A section line; `text` is trimmed and starts with a bracket. -/
def scanSection (scan : ConfigScan) (text : Bytes) : Except ConfigFailure ConfigScan := do
  if text.getLast? ≠ some 0x5d then
    setParseError .invalidData scan.lineNumber "has a malformed section"
  else
    let length ← checkedSub text.length 2
    let name := (text.drop 1).take length
    if tokenIsSafe name = false then
      setParseError .invalidData scan.lineNumber "has a malformed section"
    else if spanEqual name "Interface" then
      if scan.interfaceSeen ∨ scan.configSection ≠ .none then
        setParseError .invalidData scan.lineNumber
          "has a duplicate or misplaced interface section"
      else
        .ok { scan with
          interfaceSeen := true, configSection := .interface, interfaceLineEnd := scan.offset }
    else if ¬scan.interfaceSeen then
      setParseError .invalidData scan.lineNumber "has a section before the interface section"
    else .ok { scan with configSection := .other }

/-- A directive that `awg-quick` reads itself. The separator is measured with its final zero
byte. -/
def scanQuickDirective (scan : ConfigScan) (name value : Bytes) :
    Except ConfigFailure ConfigScan := do
  let separator := ascii " = "
  let limit ← checkedSub maxConfigSize name.length
  let limit ← checkedSub limit (separator.length + 1)
  if value.length > limit then
    setParseError .tooLarge scan.lineNumber "has too many quick-only directives"
  else
    let room ← checkedSub limit value.length
    if scan.quickConfig.length > room then
      setParseError .tooLarge scan.lineNumber "has too many quick-only directives"
    else
      .ok { scan with quickConfig := scan.quickConfig ++ name ++ separator ++ value ++ [newline] }

/-- A directive line; `text` is trimmed. -/
def scanDirective (scan : ConfigScan) (text : Bytes) : Except ConfigFailure ConfigScan :=
  match splitFirst 0x3d text with
  | none => setParseError .invalidData scan.lineNumber "has a malformed directive"
  | some (before, after) =>
    if scan.configSection = .none then
      setParseError .invalidData scan.lineNumber "has a malformed directive"
    else
      let key := trim before
      let value := trim after
      if tokenIsSafe key = false then
        setParseError .invalidData scan.lineNumber "has an invalid directive name"
      else if isUnsafeDirective key then
        setParseError .unsafeDirective scan.lineNumber "uses a prohibited command directive"
      else if scan.configSection = .interface then
        if spanEqual key "DNS" then
          match dnsConfigAddValue scan.dns value with
          | none =>
            setParseError .invalidData scan.lineNumber "has an invalid DNS directive value"
          | some dns => .ok { scan with dns }
        else
          match safeQuickDirective key with
          | some name => scanQuickDirective scan name value
          | none => .ok scan
      else .ok scan

/-- One turn of the loop of `scan_config_envelope`; `length` is the size of the data. -/
def scanConfigLine (length : ℕ) (scan : ConfigScan) (line : Bytes) :
    Except ConfigFailure ConfigScan := do
  let _ ← checkedSub length scan.offset
  let scan := scan.advance line
  if (uncomment line).any isUnsupported then
    setParseError .invalidData scan.lineNumber "contains unsupported characters"
  else
    let text := trim (uncomment line)
    if text = [] then .ok scan
    else if text.head? = some 0x5b then scanSection scan text
    else scanDirective scan text

/-- `scan_config_envelope`. -/
def scanConfigEnvelope (data : Bytes) : Except ConfigFailure ConfigScan :=
  if data.length > maxConfigSize then
    .error (.rejected .tooLarge "configuration exceeds the size limit")
  else if data = [] then
    .error (.rejected .invalidData "configuration is empty")
  else if 0 ∈ data then
    .error (.rejected .invalidData "configuration contains binary data")
  else
    match (physicalLines data).foldlM (scanConfigLine data.length) .init with
    | .error failure => .error failure
    | .ok scan =>
      if scan.interfaceSeen = false then
        .error (.rejected .missingStructure "configuration has no interface section")
      else if scan.dns.domains ≠ [] ∧ scan.dns.servers = [] then
        .error (.rejected .invalidData
          "configuration has DNS search domains without a numeric DNS server")
      else .ok scan

/-- `NetworkSidebarAmneziaWGConfigEnvelope`. -/
structure ConfigEnvelope where
  quickConfig : Bytes
  dns : DnsConfig
  interfaceLineEnd : ℕ
  deriving DecidableEq

/-- `network_sidebar_amneziawg_config_parse_envelope`. -/
def configParseEnvelope (data : Bytes) : Except ConfigFailure ConfigEnvelope :=
  match scanConfigEnvelope data with
  | .error failure => .error failure
  | .ok scan =>
    match dnsConfigMeasure scan.dns with
    | .error .tooLarge =>
      .error (.rejected .tooLarge "configuration DNS data exceeds the 256 KiB runtime limit")
    | .error .invalid =>
      .error (.rejected .invalidData "configuration DNS data cannot be represented safely")
    | .ok _ => .ok ⟨scan.quickConfig, scan.dns, scan.interfaceLineEnd⟩

/-- `network_sidebar_amneziawg_config_validate`. -/
def configValidate (data : Bytes) : Bool := (configParseEnvelope data).isOk

/-- The sizes `network_sidebar_amneziawg_runtime_snapshot_build` compares, in its order. -/
def runtimeSnapshotFits (protocol quick separator reserve : ℕ) : Except ConfigFailure Bool :=
  if reserve > maxConfigSize then .ok false
  else do
    let limit ← checkedSub maxConfigSize reserve
    if quick > limit then .ok false
    else
      let limit ← checkedSub limit quick
      if protocol > limit then .ok false
      else
        let limit ← checkedSub limit protocol
        .ok (decide (separator ≤ limit))

/-- Whether the line before the insertion needs a newline of its own. -/
def snapshotSeparator (protocolConfig : Bytes) (envelope : ConfigEnvelope) (lineEnd : ℕ) :
    Except ConfigFailure Bytes :=
  if envelope.quickConfig.length > 0 ∧ lineEnd > 0 then do
    let last ← checkedSub lineEnd 1
    .ok (if protocolConfig[last]? ≠ some newline then [newline] else [])
  else .ok []

/-- `network_sidebar_amneziawg_runtime_snapshot_build`. -/
def runtimeSnapshotBuild (protocolConfig : Bytes) (envelope : ConfigEnvelope)
    (sizeReserve : ℕ) : Except ConfigFailure Bytes := do
  let unexpected ← scanConfigEnvelope protocolConfig
  if unexpected.quickConfig ≠ [] ∨ unexpected.dns.servers ≠ [] ∨ unexpected.dns.domains ≠ [] then
    .error (.rejected .invalidData "awg-quick strip output contains quick-only directives")
  else
    let lineEnd := unexpected.interfaceLineEnd
    let separator ← snapshotSeparator protocolConfig envelope lineEnd
    let fits ← runtimeSnapshotFits protocolConfig.length envelope.quickConfig.length
      separator.length sizeReserve
    if fits = false then
      .error (.rejected .tooLarge "runtime configuration exceeds the size limit")
    else
      let _ ← checkedSub protocolConfig.length lineEnd
      .ok (protocolConfig.take lineEnd ++ separator ++ envelope.quickConfig ++
        protocolConfig.drop lineEnd)

/-- `AWG_QUICK_LINK_HOOK_RESERVE`. -/
def awgQuickLinkHookReserve : ℕ := 256

/-- `awg_quick_config_build_snapshot`. -/
def quickConfigBuildSnapshot (protocolConfig : Bytes) (envelope : ConfigEnvelope) :
    Except ConfigFailure Bytes :=
  runtimeSnapshotBuild protocolConfig envelope awgQuickLinkHookReserve

/-- The two lines that claim the link for the session. -/
def linkClaimLines (linkToken : Bytes) : Bytes :=
  ascii "PreUp = ip link set dev %i alias nm-sidebar-awg-" ++ linkToken ++ [newline] ++
  ascii "PreDown = grep -Fxq nm-sidebar-awg-" ++ linkToken ++
    ascii " /sys/class/net/%i/ifalias" ++ [newline]

/-- `awg_quick_config_add_link_claim`. -/
def quickConfigAddLinkClaim (snapshot linkToken : Bytes) : Except ConfigFailure Bytes := do
  if linkTokenIsValid linkToken = false then
    .error (.rejected .invalidData "runtime link identity is invalid")
  else
    let envelope ← configParseEnvelope snapshot
    let insertion := envelope.interfaceLineEnd
    let claim := linkClaimLines linkToken
    if claim.length ≥ awgQuickLinkHookReserve then
      .error (.rejected .tooLarge "runtime link claim is too large")
    else
      let separator ←
        if insertion > 0 then do
          let last ← checkedSub insertion 1
          .ok (if snapshot[last]? ≠ some newline then [newline] else [])
        else .ok []
      let limit ← checkedSub maxConfigSize separator.length
      if snapshot.length > limit then
        .error (.rejected .tooLarge "runtime configuration exceeds the size limit")
      else
        let room ← checkedSub limit snapshot.length
        if claim.length > room then
          .error (.rejected .tooLarge "runtime configuration exceeds the size limit")
        else
          .ok (snapshot.take insertion ++ separator ++ claim ++ snapshot.drop insertion)

end NmSidebar
