import NmSidebar.AmneziaWG.Names

/-!
# DNS configurations

The servers and search domains of a profile (`dns_config.c`): the values of a `DNS` directive,
the size of the payload, and the payload itself.
-/

namespace NmSidebar

open Text

/-! ## Addresses

`inet_pton` of the C library, for the two families the code asks it for. -/

/-- `AF_INET` or `AF_INET6`. -/
inductive AddressFamily where
  | inet
  | inet6
  deriving DecidableEq

/-- The scan of a dotted quad: the octets that are complete, the current one with whether a digit
of it was seen, and the rest of the text. -/
def inetPton4Scan (done : Bytes) (octet : ℕ) (sawDigit : Bool) : Bytes → Option Bytes
  | [] => if done.length + (if sawDigit then 1 else 0) < 4 then none
      else some (done ++ [UInt8.ofNat octet])
  | b :: rest =>
    if isDigit b then
      if sawDigit ∧ octet = 0 then none
      else if octet * 10 + digitValue b > 255 then none
      else if ¬sawDigit ∧ done.length + 1 > 4 then none
      else inetPton4Scan done (octet * 10 + digitValue b) true rest
    else if b = 0x2e ∧ sawDigit then
      if done.length + 1 = 4 then none
      else inetPton4Scan (done ++ [UInt8.ofNat octet]) 0 false rest
    else none

/-- `inet_pton (AF_INET, …)`: four decimal octets without leading zeros. -/
def inetPton4 (text : Bytes) : Option Bytes := inetPton4Scan [] 0 false text

/-- The value of a hexadecimal digit. -/
def hexDigitValue (b : UInt8) : Option ℕ :=
  if isDigit b then some (digitValue b)
  else if 0x61 ≤ b ∧ b ≤ 0x66 then some (b.toNat - 0x61 + 10)
  else if 0x41 ≤ b ∧ b ≤ 0x46 then some (b.toNat - 0x41 + 10)
  else none

/-- The two bytes of a group. -/
def inet6Group (value : ℕ) : Bytes := [UInt8.ofNat (value / 256), UInt8.ofNat (value % 256)]

/-- The end of an IPv6 scan: the last group is written, and a `::` stands for the zeros that are
missing. It must stand for at least one byte. -/
def inetPton6Finish (out : Bytes) (colon : Option ℕ) (digits value : ℕ) : Option Bytes :=
  if digits > 0 ∧ out.length + 2 > 16 then none
  else
    let out := if digits > 0 then out ++ inet6Group value else out
    match colon with
    | some at' =>
      if out.length ≥ 16 then none
      else some (out.take at' ++ List.replicate (16 - out.length) 0 ++ out.drop at')
    | none => if out.length = 16 then some out else none

/-- The scan of an IPv6 address: the bytes written, where `::` was seen, the text since the last
colon, the digits and the value of the current group, and the rest of the text. -/
def inetPton6Scan (out : Bytes) (colon : Option ℕ) (token : Bytes) (digits value : ℕ) :
    Bytes → Option Bytes
  | [] => inetPton6Finish out colon digits value
  | b :: rest =>
    match hexDigitValue b with
    | some digit =>
      if digits = 4 then none
      else inetPton6Scan out colon token (digits + 1) (value * 16 + digit) rest
    | none =>
      if b = 0x3a then
        if digits = 0 then
          if colon.isSome then none
          else inetPton6Scan out (some out.length) rest 0 value rest
        else if rest = [] then none
        else if out.length + 2 > 16 then none
        else inetPton6Scan (out ++ inet6Group value) colon rest 0 0 rest
      else if b = 0x2e ∧ out.length + 4 ≤ 16 then
        match inetPton4 token with
        | some quad => inetPton6Finish (out ++ quad) colon 0 0
        | none => none
      else none

/-- `inet_pton (AF_INET6, …)`: a leading colon must be the first of a `::`. -/
def inetPton6 (text : Bytes) : Option Bytes :=
  match text with
  | [] => none
  | 0x3a :: rest => if rest.head? = some 0x3a then inetPton6Scan [] none rest 0 0 rest else none
  | _ => inetPton6Scan [] none text 0 0 text

/-- `inet_pton`. -/
def inetPton : AddressFamily → Bytes → Option Bytes
  | .inet, text => inetPton4 text
  | .inet6, text => inetPton6 text

/-! ## Configurations -/

/-- `NetworkSidebarAmneziaWGDnsServer`; the length is the address's. -/
structure DnsServer where
  family : AddressFamily
  address : Bytes
  deriving DecidableEq

/-- `NetworkSidebarAmneziaWGDnsConfig`. -/
structure DnsConfig where
  servers : List DnsServer
  domains : List Bytes
  deriving DecidableEq

/-- `network_sidebar_amneziawg_dns_config_init`. -/
def DnsConfig.empty : DnsConfig := ⟨[], []⟩

/-- `NETWORK_SIDEBAR_AMNEZIAWG_MAX_DNS_PAYLOAD`. -/
def maxDnsPayload : ℕ := 256 * 1024

/-- `DNS_PAYLOAD_HEADER_SIZE`. -/
def dnsPayloadHeaderSize : ℕ := 16

/-- `DNS_PAYLOAD_MAX_RECORDS`. -/
def dnsPayloadMaxRecords : ℕ := (maxDnsPayload - dnsPayloadHeaderSize) / 5

/-- The loop of `value_is_domain`: the length of the current label and the byte before. -/
def valueIsDomainScan (label : ℕ) (previous : UInt8) : Bytes → Bool
  | [] => decide (label > 0) && previous != 0x2d
  | b :: rest =>
    if b = 0x2e then
      if label = 0 ∨ previous = 0x2d then false else valueIsDomainScan 0 b rest
    else if isAlnum b = false ∧ b ≠ 0x2d then false
    else if label = 0 ∧ b = 0x2d then false
    else if label + 1 > 63 then false
    else valueIsDomainScan (label + 1) b rest

/-- `value_is_domain`: a final dot is allowed. -/
def valueIsDomain (value : Bytes) : Bool :=
  if value.length = 0 ∨ value.length > 253 then false
  else if value.getLast? = some 0x2e then
    if value.length - 1 = 0 then false else valueIsDomainScan 0 0 value.dropLast
  else valueIsDomainScan 0 0 value

/-- `value_looks_like_ipv4`. -/
def valueLooksLikeIpv4 (value : Bytes) : Bool :=
  value != [] && value.all fun b => isDigit b || b == 0x2e

/-- The family an item is read as. -/
def dnsItemFamily (item : Bytes) : AddressFamily :=
  if 0x3a ∈ cString item then .inet6 else .inet

/-- The items of a `DNS` value. -/
def dnsItems (value : Bytes) : List Bytes := (value.splitOn 0x2c).map trim

/-- `value_is_dns_list`: every item is an address, or a domain that does not look like one. -/
def valueIsDnsList (value : Bytes) : Bool :=
  (dnsItems value).all fun item =>
    item != [] && ((inetPton (dnsItemFamily item) (cString item)).isSome ||
      (!valueLooksLikeIpv4 item && valueIsDomain item))

/-- One item of `network_sidebar_amneziawg_dns_config_add_value`. -/
def dnsConfigAddItem (dns : DnsConfig) (item : Bytes) : DnsConfig :=
  match inetPton (dnsItemFamily item) (cString item) with
  | some address => { dns with servers := dns.servers ++ [⟨dnsItemFamily item, address⟩] }
  | none => { dns with domains := dns.domains ++ [cString item] }

/-- `network_sidebar_amneziawg_dns_config_add_value`. -/
def dnsConfigAddValue (dns : DnsConfig) (value : Bytes) : Option DnsConfig :=
  if valueIsDnsList value = false then none
  else some ((dnsItems value).foldl dnsConfigAddItem dns)

/-- Why a configuration has no payload size. -/
inductive DnsConfigMeasureFailure where
  | invalid
  | tooLarge
  deriving DecidableEq

/-- The servers' part of `network_sidebar_amneziawg_dns_config_measure`. -/
def dnsConfigMeasureServers (measured : ℕ) :
    List DnsServer → Except DnsConfigMeasureFailure ℕ
  | [] => .ok measured
  | server :: rest =>
    if ¬((server.family = .inet ∧ server.address.length = 4) ∨
        (server.family = .inet6 ∧ server.address.length = 16)) then .error .invalid
    else if measured > maxDnsPayload - (1 + server.address.length) then .error .tooLarge
    else dnsConfigMeasureServers (measured + (1 + server.address.length)) rest

/-- The domains' part of `network_sidebar_amneziawg_dns_config_measure`. -/
def dnsConfigMeasureDomains (measured : ℕ) : List Bytes → Except DnsConfigMeasureFailure ℕ
  | [] => .ok measured
  | domain :: rest =>
    if domain.length = 0 ∨ domain.length > 253 ∨ valueIsDomain domain = false then
      .error .invalid
    else if measured > maxDnsPayload - (4 + domain.length) then .error .tooLarge
    else dnsConfigMeasureDomains (measured + (4 + domain.length)) rest

/-- `network_sidebar_amneziawg_dns_config_measure`. -/
def dnsConfigMeasure (dns : DnsConfig) : Except DnsConfigMeasureFailure ℕ :=
  if dns.servers.length + dns.domains.length > dnsPayloadMaxRecords then .error .tooLarge
  else if dns.domains ≠ [] ∧ dns.servers = [] then .error .invalid
  else
    match dnsConfigMeasureServers dnsPayloadHeaderSize dns.servers with
    | .error failure => .error failure
    | .ok measured => dnsConfigMeasureDomains measured dns.domains

/-! ## The payload -/

/-- The magic number of a payload. -/
def dnsPayloadMagic : Bytes := ascii "NMSDNS1" ++ [0]

/-- `write_be32`. -/
def writeBe32 (value : ℕ) : Bytes :=
  [UInt8.ofNat (value / 16777216), UInt8.ofNat (value / 65536), UInt8.ofNat (value / 256),
    UInt8.ofNat value]

/-- `read_be32`. -/
def readBe32 (data : Bytes) : ℕ := data.foldl (fun v b => v * 256 + b.toNat) 0

/-- `network_sidebar_amneziawg_dns_config_serialize`. -/
def dnsConfigSerialize (dns : DnsConfig) : Option Bytes :=
  match dnsConfigMeasure dns with
  | .error _ => none
  | .ok _ =>
    some (dnsPayloadMagic ++ writeBe32 dns.servers.length ++ writeBe32 dns.domains.length ++
      (dns.servers.flatMap fun server =>
        (if server.family = .inet then 4 else 6) :: server.address) ++
      (dns.domains.flatMap fun domain => writeBe32 domain.length ++ domain))

/-- The servers of a payload and the data after them. -/
def dnsConfigParseServers : ℕ → Bytes → Option (List DnsServer × Bytes)
  | 0, data => some ([], data)
  | count + 1, data =>
    match data with
    | [] => none
    | kind :: data =>
      if kind = 4 ∧ 4 ≤ data.length then
        (dnsConfigParseServers count (data.drop 4)).map fun parsed =>
          (⟨.inet, data.take 4⟩ :: parsed.1, parsed.2)
      else if kind = 6 ∧ 16 ≤ data.length then
        (dnsConfigParseServers count (data.drop 16)).map fun parsed =>
          (⟨.inet6, data.take 16⟩ :: parsed.1, parsed.2)
      else none

/-- The domains of a payload and the data after them. -/
def dnsConfigParseDomains : ℕ → Bytes → Option (List Bytes × Bytes)
  | 0, data => some ([], data)
  | count + 1, data =>
    if data.length < 4 then none
    else
      let length := readBe32 (data.take 4)
      let data := data.drop 4
      if length = 0 ∨ length > 253 ∨ length > data.length ∨
          valueIsDomain (data.take length) = false then none
      else
        (dnsConfigParseDomains count (data.drop length)).map fun parsed =>
          (data.take length :: parsed.1, parsed.2)

/-- `network_sidebar_amneziawg_dns_config_parse`. -/
def dnsConfigParse (data : Bytes) : Option DnsConfig :=
  if data.length < dnsPayloadHeaderSize ∨ data.length > maxDnsPayload ∨
      data.take 8 ≠ dnsPayloadMagic then none
  else
    let serverCount := readBe32 ((data.drop 8).take 4)
    let domainCount := readBe32 ((data.drop 12).take 4)
    if serverCount > data.length ∨ domainCount > data.length ∨
        (domainCount > 0 ∧ serverCount = 0) then none
    else
      match dnsConfigParseServers serverCount (data.drop dnsPayloadHeaderSize) with
      | none => none
      | some (servers, data) =>
        match dnsConfigParseDomains domainCount data with
        | none => none
        | some (domains, data) => if data = [] then some ⟨servers, domains⟩ else none

/-- `dns_config_present`. -/
def dnsConfigPresent (dns : DnsConfig) : Bool := dns.servers != [] || dns.domains != []

end NmSidebar
